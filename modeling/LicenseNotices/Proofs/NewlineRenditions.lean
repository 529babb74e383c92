import LicenseNotices.Proofs.RunOutcome

/-!
The line ends of the sources. A text without carriage returns is written with any of three
line ends at each of its line feeds, where a carriage return alone is not followed by a line
feed that stands alone. What is written so is read as that text and as no other. Stores whose
files are written from the same texts are therefore told apart by no run: the same sources
are found, the same comments are read from them, and the same bytes are written.
-/
namespace LicenseNotices.NewlineRenditions

open OutputFile Results RunOutcome SourceContents

/-- A text and what it becomes when each of its line feeds is written as one of the line ends.
A carriage return and a line feed behind it would be one line end and not two. -/
inductive IsRendition : Text → Text → Prop
  | nil : IsRendition [] []
  | plain {c : Char} {text source : Text} (hc : c ≠ '\n') (h : IsRendition text source) :
      IsRendition (c :: text) (c :: source)
  | lineFeed {text source : Text} (h : IsRendition text source) :
      IsRendition ('\n' :: text) ('\n' :: source)
  | both {text source : Text} (h : IsRendition text source) :
      IsRendition ('\n' :: text) ('\r' :: '\n' :: source)
  | carriageReturn {text source : Text} (h : IsRendition text source)
      (hnext : source.head? ≠ some '\n') : IsRendition ('\n' :: text) ('\r' :: source)

theorem unifyNewlines_cons {c : Char} (h : c ≠ '\r') (t : Text) :
    Text.unifyNewlines (c :: t) = c :: Text.unifyNewlines t := by
  rw [Text.unifyNewlines, if_neg h]
  exact fun _ hc => absurd hc h

theorem unifyNewlines_carriageReturn {t : Text} (h : t.head? ≠ some '\n') :
    Text.unifyNewlines ('\r' :: t) = '\n' :: Text.unifyNewlines t := by
  rw [Text.unifyNewlines, if_pos rfl]
  rintro rest - rfl
  exact h rfl

theorem isRendition_unifyNewlines (source : Text) :
    IsRendition (Text.unifyNewlines source) source := by
  fun_induction Text.unifyNewlines source with
  | case1 => exact .nil
  | case2 rest ih => exact .both ih
  | case3 c rest hpair ih =>
    by_cases hreturn : c = '\r'
    · rw [if_pos hreturn, hreturn]
      refine .carriageReturn ih fun hnext => ?_
      obtain ⟨later, rfl⟩ := List.head?_eq_some_iff.mp hnext
      exact hpair later hreturn rfl
    · rw [if_neg hreturn]
      by_cases hfeed : c = '\n'
      · rw [hfeed]
        exact .lineFeed ih
      · exact .plain hfeed ih

theorem IsRendition.unifyNewlines_eq {text source : Text} (h : IsRendition text source)
    (hplain : '\r' ∉ text) : Text.unifyNewlines source = text := by
  induction h with
  | nil => rfl
  | plain hc _ ih =>
    obtain ⟨hreturn, htext⟩ := List.ne_and_not_mem_of_not_mem_cons hplain
    rw [unifyNewlines_cons (Ne.symm hreturn), ih htext]
  | lineFeed _ ih =>
    rw [unifyNewlines_cons (by decide), ih (List.not_mem_of_not_mem_cons hplain)]
  | both _ ih => rw [Text.unifyNewlines, ih (List.not_mem_of_not_mem_cons hplain)]
  | carriageReturn _ hnext ih =>
    rw [unifyNewlines_carriageReturn hnext, ih (List.not_mem_of_not_mem_cons hplain)]

/-- The sources of a text are its renditions. -/
theorem unifyNewlines_eq_iff (text source : Text) :
    Text.unifyNewlines source = text ↔ '\r' ∉ text ∧ IsRendition text source := by
  constructor
  · rintro rfl
    exact ⟨Text.carriageReturn_not_mem_unifyNewlines source, isRendition_unifyNewlines source⟩
  · rintro ⟨hplain, h⟩
    exact h.unifyNewlines_eq hplain

/-- The findings depend on the source only through the text that it is read as. -/
theorem ofSource_congr [JavaScript.Parser] {source source' : Text}
    (h : Text.unifyNewlines source = Text.unifyNewlines source') (g : Grammar)
    (accepts : NoticeMatcher) (path : String) :
    Findings.ofSource g accepts path source = Findings.ofSource g accepts path source' := by
  simp only [Findings.ofSource, h]

section

variable [Encoding.Codecs]

/-- The bytes of two renditions of one text. -/
inductive SameText (o : Options) (bytes bytes' : Bytes) : Prop
  | intro {encoding : Encoding} {text source source' : Text}
      (hname : o.encoding.encoding? = some encoding)
      (hdecode : encoding.decode bytes = .ok source)
      (hdecode' : encoding.decode bytes' = .ok source') (hplain : '\r' ∉ text)
      (hrendition : IsRendition text source) (hrendition' : IsRendition text source')

/-- What may stand in two stores at one place. -/
inductive SameEntry (o : Options) : Option Entry → Option Entry → Prop
  | refl (entry : Option Entry) : SameEntry o entry entry
  | renditions {bytes bytes' : Bytes} (h : SameText o bytes bytes') :
      SameEntry o (some (.file bytes)) (some (.file bytes'))

/-- Stores that differ in the line ends of their files at most. -/
structure SameFiles (o : Options) (s s' : FileStore) : Prop where
  current_eq : s.current = s'.current
  refusal_eq : s.refusal? = s'.refusal?
  readFault_eq : s.readFault? = s'.readFault?
  writeFault_eq : s.writeFault? = s'.writeFault?
  sameEntry : ∀ l, SameEntry o (s.entry? l) (s'.entry? l)

variable {o : Options} {s s' : FileStore}

theorem SameFiles.lookup? (h : SameFiles o s s') (l : Location) :
    SameEntry o (s.lookup? l) (s'.lookup? l) := by
  unfold FileStore.lookup?
  split
  · exact .refl _
  · exact h.sameEntry l

theorem SameFiles.put (h : SameFiles o s s') (l : Location) (bytes : Bytes) :
    SameFiles o (s.put l bytes) (s'.put l bytes) := by
  refine ⟨h.current_eq, h.refusal_eq, h.readFault_eq, h.writeFault_eq, fun other => ?_⟩
  unfold FileStore.put
  dsimp only
  split
  · exact .refl _
  · exact h.sameEntry other

theorem SameFiles.follow_eq (h : SameFiles o s s') (start : Location) (names : List Text) :
    s.follow start names = s'.follow start names := by
  induction names generalizing start with
  | nil => rfl
  | cons name rest ih =>
    have hentry := h.lookup? start
    rw [FileStore.follow, FileStore.follow, h.refusal_eq]
    generalize s.lookup? start = entry, s'.lookup? start = entry' at hentry ⊢
    cases hentry with
    | refl => simp only [ih]
    | renditions => rfl

theorem SameFiles.locate_eq (h : SameFiles o s s') (p : Path) : s.locate p = s'.locate p := by
  simp only [FileStore.locate, h.current_eq, h.follow_eq]

theorem SameFiles.locateFile_eq (h : SameFiles o s s') (p : Path) :
    s.locateFile p = s'.locateFile p := by
  rw [FileStore.locateFile, FileStore.locateFile, h.locate_eq, h.refusal_eq]
  congr 1
  funext l
  have hentry := h.lookup? l
  generalize s.lookup? l = entry, s'.lookup? l = entry' at hentry ⊢
  cases hentry with
  | refl => rfl
  | renditions => simp

theorem SameFiles.read (h : SameFiles o s s') (p : Path) :
    s.read p = s'.read p ∨ ∃ bytes bytes', SameText o bytes bytes' ∧
      s.read p = .ok bytes ∧ s'.read p = .ok bytes' := by
  rw [FileStore.read, FileStore.read, ← h.locate_eq p, h.refusal_eq, h.readFault_eq]
  cases s.locate p with
  | error fault => exact .inl rfl
  | ok l =>
    have hentry := h.lookup? l
    rw [mapError_ok, ok_bind, ok_bind]
    generalize s.lookup? l = entry, s'.lookup? l = entry' at hentry ⊢
    cases hentry with
    | refl => exact .inl rfl
    | renditions htexts =>
      cases s'.refusal? .read l with
      | some fault => exact .inl rfl
      | none =>
        cases s'.readFault? l with
        | some fault => exact .inl rfl
        | none => exact .inr ⟨_, _, htexts, rfl, rfl⟩

theorem SameFiles.readSource_eq (h : SameFiles o s s') (g : Grammar) (p : Path) :
    Run.readSource s g o.encoding p = Run.readSource s' g o.encoding p := by
  rcases h.read p with hread | ⟨bytes, bytes', ⟨hname, hdecode, hdecode', hplain, hrendition,
    hrendition'⟩, hread, hread'⟩
  · rw [Run.readSource, Run.readSource, hread]
  · rw [readSource_of_decode hread hname hdecode, readSource_of_decode hread' hname hdecode',
      hrendition.unifyNewlines_eq hplain, hrendition'.unifyNewlines_eq hplain]

/-- The same is written to both stores, whether or not this ends well. -/
theorem SameFiles.writeOutput (h : SameFiles o s s') (output : Path) (t : Text) :
    (Run.writeOutput s o.encoding output t).2 = (Run.writeOutput s' o.encoding output t).2 ∧
      SameFiles o (Run.writeOutput s o.encoding output t).1
        (Run.writeOutput s' o.encoding output t).1 := by
  rw [Run.writeOutput, Run.writeOutput, ← h.locateFile_eq output]
  split
  · exact ⟨rfl, h⟩
  · exact ⟨rfl, h⟩
  · rename_i l _
    split
    · exact ⟨rfl, h.put _ _⟩
    · split
      · exact ⟨rfl, h.put _ _⟩
      · exact ⟨rfl, h.put _ _⟩
      · rename_i bytes _
        rw [FileStore.store, FileStore.store, ← h.writeFault_eq]
        cases s.writeFault? l bytes <;> exact ⟨rfl, h.put _ _⟩

/-- Two runs that report and log the same and end in the same way. What is stored at the
output when they have ended well is the same too. -/
structure SameRun (o : Options) (output : Path) (run run' : Run) : Prop where
  report_eq : run.report = run'.report
  log_eq : run.log = run'.log
  outcome_eq : run.outcome = run'.outcome
  sameFiles : SameFiles o run.files run'.files
  stored?_eq : ∀ summary, run.outcome = .ok summary →
    ∃ bytes, run.files.stored? output = some bytes ∧ run'.files.stored? output = some bytes

variable [JavaScript.Parser]

theorem SameFiles.findingsIn_eq (h : SameFiles o s s') (g : Grammar) (file : Text) :
    Run.findingsIn s o g file = Run.findingsIn s' o g file := by
  rw [Run.findingsIn, Run.findingsIn, h.readSource_eq]

theorem SameFiles.scan_eq (h : SameFiles o s s') (g : Grammar) (set : NoticeSet)
    (files : List Text) : Run.scan s o g set files = Run.scan s' o g set files := by
  induction files generalizing set with
  | nil => rfl
  | cons file rest ih => simp only [Run.scan, h.findingsIn_eq, ih]

theorem SameFiles.ofSources (h : SameFiles o s s') (g : Grammar) (files : List Text)
    (output : Path) :
    (Run.ofSources s o g files output).outcome = (Run.ofSources s' o g files output).outcome ∧
      (Run.ofSources s o g files output).log = (Run.ofSources s' o g files output).log ∧
      SameFiles o (Run.ofSources s o g files output).files
        (Run.ofSources s' o g files output).files := by
  rw [Run.ofSources, Run.ofSources, ← h.scan_eq]
  cases (Run.scan s o g .empty files).failure with
  | some failure => exact ⟨rfl, rfl, h⟩
  | none =>
    obtain ⟨hresult, hfiles⟩ :=
      h.writeOutput output (Run.scan s o g .empty files).notices.render
    generalize Run.writeOutput s o.encoding output _ = written at hresult hfiles ⊢
    generalize Run.writeOutput s' o.encoding output _ = written' at hresult hfiles ⊢
    obtain ⟨after, result⟩ := written
    obtain ⟨after', result'⟩ := written'
    obtain rfl : result = result' := hresult
    cases result with
    | error failure => exact ⟨rfl, rfl, hfiles⟩
    | ok _ => exact ⟨rfl, rfl, hfiles⟩

theorem SameFiles.sameRun (h : SameFiles o s s') (g : Grammar) (files : List Text)
    (output : Path) :
    SameRun o output (Run.ofSources s o g files output) (Run.ofSources s' o g files output) := by
  obtain ⟨houtcome, hlog, hfiles⟩ := h.ofSources g files output
  refine ⟨?_, hlog, houtcome, hfiles, fun summary hok => ?_⟩
  · rw [report_ofSources, report_ofSources, houtcome, h.scan_eq]
  · have hok' := houtcome.symm.trans hok
    obtain ⟨-, hwrite, -⟩ := ofSources_of_ok hok
    obtain ⟨-, hwrite', -⟩ := ofSources_of_ok hok'
    obtain ⟨l, encoding, bytes, hl, hname, hencode, -, hafter⟩ :=
      (writeOutput_ok_iff _ _ _ _ _).mp hwrite
    obtain ⟨l', encoding', bytes', hl', hname', hencode', -, hafter'⟩ :=
      (writeOutput_ok_iff _ _ _ _ _).mp hwrite'
    obtain rfl : encoding = encoding' := Option.some.inj (hname.symm.trans hname')
    rw [← h.scan_eq, hencode] at hencode'
    cases hencode'
    exact ⟨bytes, hafter ▸ stored?_put hl bytes, hafter' ▸ stored?_put hl' bytes⟩

/-- What a source is read as is the text of which it is a rendition. Two renditions of a text
have the same findings, and sources written with other line ends make the same run. -/
theorem renditions_make_same_run (h : SameFiles o s s') (g : Grammar) (files : List Text)
    (output : Path) :
    (∀ text source, Text.unifyNewlines source = text ↔ '\r' ∉ text ∧ IsRendition text source) ∧
    (∀ accepts path text source, '\r' ∉ text → IsRendition text source →
      Findings.ofSource g accepts path source = Findings.ofSource g accepts path text) ∧
    SameRun o output (Run.ofSources s o g files output) (Run.ofSources s' o g files output) := by
  refine ⟨unifyNewlines_eq_iff, ?_, h.sameRun g files output⟩
  intro accepts path text source hplain hrendition
  apply ofSource_congr
  rw [hrendition.unifyNewlines_eq hplain, Text.unifyNewlines_eq_self hplain]

end

/-- A store with one file. -/
def filesWith (source : Text) : FileStore :=
  FileStore.put { entry? := fun _ => none } [['a']] (Encoding.Utf8.encode source)

def sampleSource : Text := "// MIT\n\n// MIT 2".toList

/-- The sample with a carriage return at its first line feed and both at its second. -/
def mixedSource : Text := "// MIT\r\r\n// MIT 2".toList

section

attribute [local instance] Encoding.sampleCodecs JavaScript.readerParser

theorem mixed_newlines_make_same_run :
    SameFiles sampleOptions (filesWith sampleSource) (filesWith mixedSource) ∧
    SameRun sampleOptions (.ofText ['o'])
      (Run.ofSources (filesWith sampleSource) sampleOptions .cStyle [['a']] (.ofText ['o']))
      (Run.ofSources (filesWith mixedSource) sampleOptions .cStyle [['a']] (.ofText ['o'])) ∧
    (Run.ofSources (filesWith mixedSource) sampleOptions .cStyle [['a']] (.ofText ['o'])).outcome =
      .ok { output := .ofText ['o'], count := 2 } := by
  have hname : sampleOptions.encoding.encoding? = some (.plain .ascii) := by decide +kernel
  have hsample := (unifyNewlines_eq_iff sampleSource sampleSource).mp (by decide +kernel)
  have hmixed := (unifyNewlines_eq_iff sampleSource mixedSource).mp (by decide +kernel)
  have htexts : SameText sampleOptions (Encoding.Utf8.encode sampleSource)
      (Encoding.Utf8.encode mixedSource) :=
    .intro hname (by decide +kernel) (by decide +kernel) hsample.1 hsample.2 hmixed.2
  have hfiles : SameFiles sampleOptions (filesWith sampleSource) (filesWith mixedSource) := by
    refine ⟨rfl, rfl, rfl, rfl, fun l => ?_⟩
    unfold filesWith FileStore.put
    dsimp only
    split
    · exact .renditions htexts
    · exact .refl _
  exact ⟨hfiles, (renditions_make_same_run hfiles .cStyle [['a']] (.ofText ['o'])).2.2,
    by decide +kernel⟩

end

end LicenseNotices.NewlineRenditions
