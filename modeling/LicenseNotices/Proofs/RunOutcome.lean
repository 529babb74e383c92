import LicenseNotices.Encoding.SampleCodecs
import LicenseNotices.JavaScript.Reader
import LicenseNotices.Proofs.FirstSeen
import LicenseNotices.Proofs.OutputFile
import LicenseNotices.Proofs.SourceContents

/-!
What a run leads to. Reading sources is followed source by source: one that yields
comments adds its notices and its events, and the first that fails ends the reading with
what was collected before it. A run that ends well has written the distinct texts of all
notices, and a run that ends at a source has written nothing.
-/
namespace LicenseNotices.RunOutcome

open CommentRuns FirstSeen OutputFile SourceContents

/-- One reading of sources continued by another. -/
def followedBy (first later : Run.Scan) : Run.Scan :=
  { later with events := first.events ++ later.events, log := first.log ++ later.log }

theorem followedBy_assoc (a b c : Run.Scan) :
    followedBy (followedBy a b) c = followedBy a (followedBy b c) := by
  simp [followedBy]

/-- The reading of one source that holds something. -/
def sourceScan (o : Options) (set : NoticeSet) (file : Text) (c : Contents) : Run.Scan where
  notices := (set.aggregate (String.ofList file) (notices o c.groups)).1
  events := eventsOf set (String.ofList file) (notices o c.groups)
  log := [(⟨c.comments, notices o c.groups⟩ : Findings).logEntry (String.ofList file)]

private theorem filterMap_event? (patterns : List Pattern) (encoding : Text)
    (events : List MatchEvent) (ending : List ReportEntry) :
    (ReportEntry.started patterns encoding :: events.map .matched ++ ending).filterMap
        ReportEntry.event? = events ++ ending.filterMap ReportEntry.event? := by
  rw [List.cons_append, List.filterMap_cons, List.filterMap_append, List.filterMap_map]
  change events.filterMap some ++ _ = _
  rw [List.filterMap_some]

theorem infix_join {t : Text} {ts : List Text} (sep : Text) (h : t ∈ ts) :
    t <:+: Text.join sep ts := by
  fun_induction Text.join sep ts with
  | case1 => simp at h
  | case2 u =>
    rw [List.mem_singleton.mp h]
  | case3 u rest hrest ih =>
    rcases List.mem_cons.mp h with rfl | h
    · exact ⟨[], sep ++ Text.join sep rest, by simp⟩
    · exact (ih h).trans (List.suffix_append _ _).isInfix

/-- The text of a group holds the body of each of its comments. -/
theorem infix_text {c : Comment} {group : CommentGroup} (h : c ∈ group) :
    c.text <:+: group.text :=
  infix_join ['\n'] (List.mem_map_of_mem h)

section

variable [Encoding.Codecs] [JavaScript.Parser] {s : FileStore} {o : Options} {g : Grammar}

/-- A source that holds something is read in one step, which adds its notices to the set. -/
theorem scan_cons {c : Contents} {file : Text} (h : Holds s o g file c) (set : NoticeSet)
    (rest : List Text) :
    Run.scan s o g set (file :: rest) =
      followedBy (sourceScan o set file c)
        (Run.scan s o g (sourceScan o set file c).notices rest) := by
  have haggregate := aggregate_eq set (String.ofList file) h.notices_ne_nil
  rw [Run.scan, h.findingsIn]
  dsimp only
  rw [haggregate]
  rfl

theorem scan_cons_of_fails {file : Text} {failure : Failure} (h : Fails s o g file failure)
    (set : NoticeSet) (rest : List Text) :
    Run.scan s o g set (file :: rest) = { notices := set, failure := some failure } := by
  rw [Run.scan, findingsIn_of_fails h]

/-- Behind sources that all yield comments the reading goes on with what they left. -/
theorem scan_append {read : List Text}
    (hread : ∀ file ∈ read, ∃ comments, Yields s o g file comments) (set : NoticeSet)
    (rest : List Text) :
    Run.scan s o g set (read ++ rest) =
      followedBy (Run.scan s o g set read)
        (Run.scan s o g (Run.scan s o g set read).notices rest) := by
  induction read generalizing set with
  | nil => simp [Run.scan, followedBy]
  | cons file read ih =>
    obtain ⟨comments, hyields⟩ := hread file (by simp)
    have hrest : ∀ file ∈ read, ∃ comments, Yields s o g file comments :=
      fun file hfile => hread file (List.mem_cons_of_mem _ hfile)
    rw [List.cons_append, scan_cons hyields.holds, scan_cons hyields.holds, ih hrest,
      followedBy_assoc]
    rfl

/-- All sources are read when each of them yields comments, and only then. -/
theorem failure_scan_eq_none_iff {files : List Text} (set : NoticeSet) :
    (Run.scan s o g set files).failure = none ↔
      ∀ file ∈ files, ∃ comments, Yields s o g file comments := by
  induction files generalizing set with
  | nil => simp [Run.scan]
  | cons file rest ih =>
    rw [List.forall_mem_cons]
    rcases yields_or_fails s o g file with ⟨comments, hyields⟩ | ⟨failure, hfails⟩
    · rw [scan_cons hyields.holds]
      exact (ih _).trans (and_iff_right ⟨comments, hyields⟩).symm
    · rw [scan_cons_of_fails hfails]
      have hno : ¬ ∃ comments, Yields s o g file comments :=
        fun ⟨comments, hyields⟩ => hfails.not_yields comments hyields
      simp [hno]

theorem exists_contents {files : List Text} {set : NoticeSet}
    (h : (Run.scan s o g set files).failure = none) :
    ∃ found, List.Forall₂ (Holds s o g) files found := by
  induction files generalizing set with
  | nil => exact ⟨[], .nil⟩
  | cons file rest ih =>
    rcases yields_or_fails s o g file with ⟨comments, hyields⟩ | ⟨failure, hfails⟩
    · rw [scan_cons hyields.holds] at h
      obtain ⟨found, hfound⟩ := ih h
      exact ⟨_ :: found, .cons hyields.holds hfound⟩
    · rw [scan_cons_of_fails hfails] at h
      cases h

theorem exists_holds {files : List Text} {found : List Contents}
    (h : List.Forall₂ (Holds s o g) files found) {c : Contents} (hc : c ∈ found) :
    ∃ file ∈ files, Holds s o g file c := by
  induction h with
  | nil => simp at hc
  | cons hholds _ ih =>
    rcases List.mem_cons.mp hc with rfl | hc
    · exact ⟨_, by simp, hholds⟩
    · obtain ⟨file, hfile, hlater⟩ := ih hc
      exact ⟨file, List.mem_cons_of_mem _ hfile, hlater⟩

/-- The set lists the texts of all notices that were read. -/
theorem lists_scan {files : List Text} {found : List Contents}
    (h : List.Forall₂ (Holds s o g) files found) {seen : List Text} {set : NoticeSet}
    (hset : Lists seen set.texts) :
    Lists (seen ++ found.flatMap (Contents.noticeTexts o))
      (Run.scan s o g set files).notices.texts := by
  induction h generalizing seen set with
  | nil => simpa [Run.scan] using hset
  | @cons file c files found hholds _ ih =>
    have hlists := lists_aggregate hset (String.ofList file) hholds.notices_ne_nil
    rw [scan_cons hholds, List.flatMap_cons, ← List.append_assoc]
    exact ih hlists

theorem failure_scan {files : List Text} {found : List Contents}
    (h : List.Forall₂ (Holds s o g) files found) (set : NoticeSet) :
    (Run.scan s o g set files).failure = none := by
  induction h generalizing set with
  | nil => rfl
  | cons hholds _ ih =>
    rw [scan_cons hholds]
    exact ih _

/-- All sources are read, and the texts are the distinct ones of their notices, in the order in
which each appears first. -/
def Collects (s : FileStore) (o : Options) (g : Grammar) (files texts : List Text) : Prop :=
  ∃ found, List.Forall₂ (Holds s o g) files found ∧
    Lists (found.flatMap (Contents.noticeTexts o)) texts

theorem collects_scan {files : List Text} (h : (Run.scan s o g .empty files).failure = none) :
    Collects s o g files (Run.scan s o g .empty files).notices.texts := by
  obtain ⟨found, hfound⟩ := exists_contents h
  have hempty : Lists [] NoticeSet.empty.texts := Lists.nil
  exact ⟨found, hfound, lists_scan hfound hempty⟩

theorem collects_iff (files texts : List Text) :
    Collects s o g files texts ↔
      (Run.scan s o g .empty files).failure = none ∧
        (Run.scan s o g .empty files).notices.texts = texts := by
  constructor
  · rintro ⟨found, hfound, hlists⟩
    have hempty : Lists [] NoticeSet.empty.texts := Lists.nil
    exact ⟨failure_scan hfound .empty, (lists_scan hfound hempty).unique hlists⟩
  · rintro ⟨hread, rfl⟩
    exact collects_scan hread

theorem Collects.unique {files ts us : List Text} (hts : Collects s o g files ts)
    (hus : Collects s o g files us) : ts = us :=
  ((collects_iff files ts).mp hts).2.symm.trans ((collects_iff files us).mp hus).2

/-- A run that ends at a source has changed no file. -/
theorem ofSources_of_failure {files : List Text} {failure : Failure}
    (h : (Run.scan s o g .empty files).failure = some failure) (output : Path) :
    Run.ofSources s o g files output =
      { files := s
        report := .started o.patterns o.encoding.spelling ::
          (Run.scan s o g .empty files).events.map .matched
        log := (Run.scan s o g .empty files).log
        outcome := .error failure } := by
  simp only [Run.ofSources, h]

theorem ofSources_of_ok {files : List Text} {output : Path} {summary : Summary}
    (h : (Run.ofSources s o g files output).outcome = .ok summary) :
    (Run.scan s o g .empty files).failure = none ∧
      Run.writeOutput s o.encoding output (Run.scan s o g .empty files).notices.render =
        ((Run.ofSources s o g files output).files, .ok ()) ∧
      summary = { output, count := (Run.scan s o g .empty files).notices.size } := by
  cases hfailure : (Run.scan s o g .empty files).failure with
  | some failure =>
    rw [ofSources_of_failure hfailure] at h
    cases h
  | none =>
    simp only [Run.ofSources, hfailure] at h ⊢
    split at h
    · cases h
    · rename_i after hwrite
      cases h
      simp only [hwrite, and_self]

/-- A run that reads all its sources and can write its notices ends well. -/
theorem ofSources_of_written {files listing : List Text} {output : Path} {l : Location}
    {encoding : Encoding} {bytes : Bytes} (hfailure : (Run.scan s o g .empty files).failure = none)
    (htexts : (Run.scan s o g .empty files).notices.texts = listing)
    (hl : s.locateFile output = .ok l) (hname : o.encoding.encoding? = some encoding)
    (hencode : encoding.encode (Text.join ['\n', '\n'] listing) = .ok bytes)
    (hstore : s.writeFault? l bytes = none) :
    (Run.ofSources s o g files output).outcome = .ok { output, count := listing.length } ∧
      (Run.ofSources s o g files output).files.stored? output = some bytes := by
  subst htexts
  have hwrite := (writeOutput_ok_iff s _ o.encoding output _).mpr
    ⟨l, encoding, bytes, hl, hname, hencode, hstore, rfl⟩
  have hrender : (Run.scan s o g .empty files).notices.render =
      Text.join ['\n', '\n'] (Run.scan s o g .empty files).notices.texts := rfl
  simp only [Run.ofSources, hfailure, hrender, hwrite]
  exact ⟨rfl, stored?_put hl bytes⟩

/-- A run changes the one file to which its output leads, when it has read all its sources, or
nothing. -/
theorem files_ofSources (files : List Text) (output : Path) :
    (Run.ofSources s o g files output).files = s ∨
      (Run.scan s o g .empty files).failure = none ∧
        ∃ l bytes, s.locateFile output = .ok l ∧
          (Run.ofSources s o g files output).files = s.put l bytes := by
  cases hfailure : (Run.scan s o g .empty files).failure with
  | some failure =>
    rw [ofSources_of_failure hfailure]
    exact .inl rfl
  | none =>
    have hwrite :=
      files_writeOutput s o.encoding output (Run.scan s o g .empty files).notices.render
    generalize hresult : Run.writeOutput s o.encoding output _ = result at hwrite
    have hfiles : (Run.ofSources s o g files output).files = result.1 := by
      simp only [Run.ofSources, hfailure, hresult]
      split <;> rfl
    rw [hfiles]
    exact hwrite.imp_right fun h => ⟨rfl, h⟩

/-- A report begins with the start, goes on with the events of the reading and ends with
the summary, if there is one. -/
theorem report_ofSources (files : List Text) (output : Path) :
    (Run.ofSources s o g files output).report =
      .started o.patterns o.encoding.spelling ::
        (Run.scan s o g .empty files).events.map .matched ++
          match (Run.ofSources s o g files output).outcome with
          | .ok summary => [.finished summary]
          | .error _ => [] := by
  cases hfailure : (Run.scan s o g .empty files).failure with
  | some failure =>
    rw [ofSources_of_failure hfailure]
    simp
  | none =>
    simp only [Run.ofSources, hfailure]
    split <;> simp

theorem events_ofSources (files : List Text) (output : Path) :
    (Run.ofSources s o g files output).report.filterMap ReportEntry.event? =
      (Run.scan s o g .empty files).events := by
  rw [report_ofSources, filterMap_event?]
  cases (Run.ofSources s o g files output).outcome with
  | ok summary => exact List.append_nil _
  | error failure => exact List.append_nil _

/-- A run that ends well has written the distinct texts of all notices, in the order in
which each appears first. A comment that matches stands in one group, which is a notice. -/
theorem output_lists_notices {files : List Text} {output : Path} {summary : Summary}
    (h : (Run.ofSources s o g files output).outcome = .ok summary) :
    ∃ found, List.Forall₂ (Holds s o g) files found ∧
      ∃ texts, Lists (found.flatMap (Contents.noticeTexts o)) texts ∧
        (∃ encoding bytes, o.encoding.encoding? = some encoding ∧
          encoding.encode (Text.join ['\n', '\n'] texts) = .ok bytes ∧
          (Run.ofSources s o g files output).files.stored? output = some bytes) ∧
        summary.count = texts.length ∧
        ∀ c ∈ found, ∀ i comment, c.comments[i]? = some comment → Matches o comment →
          ∃ j group, c.groups[j]? = some group ∧ comment ∈ group ∧ LiesIn c.groups i j ∧
            (∀ k, LiesIn c.groups i k → k = j) ∧ IsNotice o group ∧
            group.text ∈ texts ∧ comment.text <:+: group.text := by
  obtain ⟨hfailure, hwrite, rfl⟩ := ofSources_of_ok h
  obtain ⟨found, hfound⟩ := exists_contents hfailure
  have hempty : Lists [] NoticeSet.empty.texts := Lists.nil
  have hlists := lists_scan hfound hempty
  rw [List.nil_append] at hlists
  refine ⟨found, hfound, _, hlists, ?_, rfl, ?_⟩
  · obtain ⟨l, encoding, bytes, hl, hname, hencode, -, hfiles⟩ :=
      (writeOutput_ok_iff _ _ _ _ _).mp hwrite
    refine ⟨encoding, bytes, hname, hencode, ?_⟩
    rw [hfiles]
    exact stored?_put hl bytes
  · intro c hc i comment hcomment hmatches
    obtain ⟨file, -, hholds⟩ := exists_holds hfound hc
    obtain ⟨j, group, hgroup, hmem, hlies, hunique⟩ :=
      hholds.isPartition.exists_group hcomment
    have hnotice : IsNotice o group := ⟨comment, hmem, hmatches⟩
    refine ⟨j, group, hgroup, hmem, hlies, hunique, hnotice, ?_, infix_text hmem⟩
    rw [hlists.mem_iff, List.mem_flatMap]
    refine ⟨c, hc, List.mem_map_of_mem ?_⟩
    exact List.mem_filter.mpr ⟨List.mem_of_getElem? hgroup, decide_eq_true hnotice⟩

end

/-- Two sources, the second of which repeats the notice of the first. -/
def sampleFiles : FileStore :=
  let nothing : FileStore := { entry? := fun _ => none }
  let first := nothing.put [['a']] (Encoding.Utf8.encode "// MIT\n\n/* other */".toList)
  first.put [['b']] (Encoding.Utf8.encode "/* (MIT) */\n// MIT".toList)

def sampleOptions : Options where
  patterns := [{
    source := "MIT".toList
    flags := PatternSource.flags
    node := .ofList [.literal 77, .literal 73, .literal 84] }]
  encoding := { spelling := "us-ascii".toList, isKnown := by decide +kernel }

section

attribute [local instance] Encoding.sampleCodecs JavaScript.readerParser

theorem output_lists_repeated_once :
    ∃ found : List Contents,
      List.Forall₂ (Holds sampleFiles sampleOptions .cStyle) [['a'], ['b']] found ∧
      ∃ texts, Lists (found.flatMap (Contents.noticeTexts sampleOptions)) texts ∧
        texts.length = 2 := by
  have hok : (Run.ofSources sampleFiles sampleOptions .cStyle [['a'], ['b']]
      (.ofText ['o'])).outcome = .ok { output := .ofText ['o'], count := 2 } := by
    decide +kernel
  obtain ⟨found, hfound, texts, hlists, -, hcount, -⟩ := output_lists_notices hok
  exact ⟨found, hfound, texts, hlists, hcount.symm⟩

end

/-- A run ends at the first source that yields no comments, whatever follows it. It has
reported its start and the events of the sources before, and it has written nothing. -/
theorem ofSources_ends_at_failing_source [Encoding.Codecs] [JavaScript.Parser]
    (s : FileStore) (o : Options) (g : Grammar) (read : List Text) (bad : Text)
    (rest : List Text) (output : Path)
    (hread : ∀ file ∈ read, ∃ comments, Yields s o g file comments)
    (hbad : ∀ comments, ¬ Yields s o g bad comments) :
    ∃ failure, Fails s o g bad failure ∧
      (Run.ofSources s o g (read ++ bad :: rest) output).outcome = .error failure ∧
      (∃ events, (Run.ofSources s o g (read ++ bad :: rest) output).report =
          .started o.patterns o.encoding.spelling :: events.map .matched ∧
        ∀ elsewhere, (Run.ofSources s o g read elsewhere).report.filterMap
          ReportEntry.event? = events) ∧
      (Run.ofSources s o g (read ++ bad :: rest) output).files = s ∧
      ∀ others, Run.ofSources s o g (read ++ bad :: others) output =
        Run.ofSources s o g (read ++ bad :: rest) output := by
  obtain ⟨comments, hyields⟩ | ⟨failure, hfails⟩ := yields_or_fails s o g bad
  · exact absurd hyields (hbad comments)
  have hscan (others : List Text) : Run.scan s o g .empty (read ++ bad :: others) =
      followedBy (Run.scan s o g .empty read)
        { notices := (Run.scan s o g .empty read).notices, failure := some failure } := by
    rw [scan_append hread, scan_cons_of_fails hfails]
  have hfailure (others : List Text) :
      (Run.scan s o g .empty (read ++ bad :: others)).failure = some failure := by
    rw [hscan]
    rfl
  refine ⟨failure, hfails, ?_, ⟨(Run.scan s o g .empty read).events, ?_, ?_⟩, ?_, ?_⟩
  · rw [ofSources_of_failure (hfailure rest)]
  · rw [ofSources_of_failure (hfailure rest), hscan]
    simp [followedBy]
  · intro elsewhere
    exact events_ofSources read elsewhere
  · rw [ofSources_of_failure (hfailure rest)]
  · intro others
    rw [ofSources_of_failure (hfailure others), ofSources_of_failure (hfailure rest), hscan, hscan]

section

attribute [local instance] Encoding.sampleCodecs JavaScript.readerParser

theorem ofSources_ends_at_missing :
    ∃ failure, Fails sampleFiles sampleOptions .cStyle ['c'] failure ∧
      (Run.ofSources sampleFiles sampleOptions .cStyle [['a'], ['c'], ['b']]
        (.ofText ['a'])).outcome = .error failure ∧
      (Run.ofSources sampleFiles sampleOptions .cStyle [['a'], ['c'], ['b']]
        (.ofText ['a'])).files = sampleFiles := by
  have hread : ∀ file ∈ [['a']], ∃ comments,
      Yields sampleFiles sampleOptions .cStyle file comments := by
    intro file hfile
    obtain rfl := List.mem_singleton.mp hfile
    have hfindings : Run.findingsIn sampleFiles sampleOptions .cStyle ['a'] = .ok {
        comments := [{ kind := .line, text := " MIT".toList, line := 1 },
          { kind := .block, text := " other ".toList, line := 3 }]
        notices := [[{ kind := .line, text := " MIT".toList, line := 1 }]] } := by
      decide +kernel
    exact ⟨_, ((findingsIn_eq_ok_iff _ _ _ _ _).mp hfindings).1⟩
  have hbad : Fails sampleFiles sampleOptions .cStyle ['c'] _ :=
    .unopened (show sampleFiles.read (.ofText ['c']) = .error (.unopened (.system .notFound)) by
      decide +kernel)
  obtain ⟨failure, hfails, houtcome, -, hfiles, -⟩ :=
    ofSources_ends_at_failing_source sampleFiles sampleOptions .cStyle [['a']] ['c'] [['b']]
      (.ofText ['a']) hread hbad.not_yields
  exact ⟨failure, hfails, houtcome, hfiles⟩

end

end LicenseNotices.RunOutcome
