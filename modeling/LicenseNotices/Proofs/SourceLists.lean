import LicenseNotices.Proofs.EncodedLineFeeds
import LicenseNotices.Proofs.FailedWrites
import LicenseNotices.Proofs.OutputAlphabet
import LicenseNotices.Proofs.SourceBundle

/-!
Runs over different lists of the same sources. The order of the sources and their repetition
have no influence on which texts are collected, and sources that are added behind others only add
to the texts and to the events. A source that was read before has nothing new to add. What is
collected is written when it can be, which the encoding of the sources does not always allow.
-/
namespace LicenseNotices.SourceLists

open FailedWrites FirstSeen OutputAlphabet OutputFile Results RunOutcome SourceBundle SourceContents

/-- Two names lead to the same file. -/
def SameFile (s : FileStore) (a b : Text) : Prop := s.locate (.ofText a) = s.locate (.ofText b)

theorem SameFile.read_eq {s : FileStore} {a b : Text} (h : SameFile s a b) :
    s.read (.ofText a) = s.read (.ofText b) := by
  rw [FileStore.read, FileStore.read, h]

theorem prefix_join (sep : Text) {ts us : List Text} (h : ts <+: us) :
    Text.join sep ts <+: Text.join sep us := by
  obtain ⟨more, rfl⟩ := h
  fun_induction Text.join sep ts with
  | case1 => exact List.nil_prefix
  | case2 x =>
    cases more with
    | nil => exact List.prefix_refl _
    | cons y rest =>
      rw [List.singleton_append, Text.join_cons_cons, List.append_assoc]
      exact List.prefix_append _ _
  | case3 x rest hne ih =>
    obtain ⟨y, rest, rfl⟩ := List.exists_cons_of_ne_nil hne
    rw [List.cons_append, List.cons_append, Text.join_cons_cons]
    exact (List.prefix_append_right_inj _).mpr ih

theorem file_eq_of_mem_eventsOf {set : NoticeSet} {file : String} {groups : List CommentGroup}
    (hne : ∀ group ∈ groups, group ≠ []) {e : MatchEvent} (he : e ∈ eventsOf set file groups) :
    e.file = file := by
  obtain ⟨group, hgroup, before, rfl⟩ := exists_of_mem_eventsOf hne he
  rfl

section

variable [Encoding.Codecs] [JavaScript.Parser] {s t : FileStore} {o : Options} {g : Grammar}
  {files : List Text} {output : Path}

/-- The events that a run reports. -/
def events (s : FileStore) (o : Options) (files : List Text) (output : Path) : List MatchEvent :=
  (Run.start s o files output).report.filterMap ReportEntry.event?

/-- A run ends well, and the texts that it counts and has written are the distinct texts of all
notices of its sources. -/
structure Writes (s : FileStore) (o : Options) (files : List Text) (output : Path)
    (texts : List Text) : Prop where
  outcome_eq : (Run.start s o files output).outcome = .ok { output, count := texts.length }
  collects : Collects s o o.grammar files texts
  written : ∃ encoding bytes, o.encoding.encoding? = some encoding ∧
    encoding.encode (Text.join ['\n', '\n'] texts) = .ok bytes ∧
    (Run.start s o files output).files.stored? output = some bytes

theorem yields_of_read_eq {a b : Text} {comments : List Comment}
    (h : s.read (.ofText a) = t.read (.ofText b)) (hyields : Yields s o g a comments) :
    Yields t o g b comments := by
  obtain ⟨hread, hname, hdecode, hparse⟩ := hyields
  exact ⟨h ▸ hread, hname, hdecode, hparse⟩

theorem holds_of_read_eq {a b : Text} {c : Contents} (h : s.read (.ofText a) = t.read (.ofText b))
    (hholds : Holds s o g a c) : Holds t o g b c :=
  ⟨yields_of_read_eq h hholds.yields, hholds.isPartition⟩

/-- A source holds one thing only. -/
theorem holds_unique {file : Text} {c d : Contents} (hc : Holds s o g file c)
    (hd : Holds s o g file d) : c = d := by
  have hfindings := hc.findingsIn.symm.trans hd.findingsIn
  obtain ⟨comments, groups⟩ := c
  obtain ⟨others, more⟩ := d
  obtain rfl : comments = others := by
    simp only [Except.ok.injEq, Findings.mk.injEq] at hfindings
    exact hfindings.1
  obtain rfl : groups = more := hc.isPartition.unique hd.isPartition
  rfl

/-- The texts of the notices of sources are those of each source. -/
theorem mem_noticeTexts_iff {found : List Contents} (h : List.Forall₂ (Holds s o g) files found)
    (x : Text) :
    x ∈ found.flatMap (Contents.noticeTexts o) ↔
      ∃ file ∈ files, ∃ c, Holds s o g file c ∧ x ∈ c.noticeTexts o := by
  induction h with
  | nil => simp
  | @cons file c files found hholds _ ih =>
    rw [List.flatMap_cons, List.mem_append, ih]
    constructor
    · rintro (hx | ⟨other, hother, hlater⟩)
      · exact ⟨file, by simp, c, hholds, hx⟩
      · exact ⟨other, List.mem_cons_of_mem file hother, hlater⟩
    · rintro ⟨other, hother, d, hd, hx⟩
      rcases List.mem_cons.mp hother with rfl | hother
      · exact .inl (holds_unique hd hholds ▸ hx)
      · exact .inr ⟨other, hother, d, hd, hx⟩

/-- The texts of a run are those of the notices of its sources. -/
theorem mem_iff_of_collects {texts : List Text} (h : Collects s o g files texts) (x : Text) :
    x ∈ texts ↔ ∃ file ∈ files, ∃ c, Holds s o g file c ∧ x ∈ c.noticeTexts o := by
  obtain ⟨found, hfound, hlists⟩ := h
  rw [hlists.mem_iff, mem_noticeTexts_iff hfound]

theorem nodup_of_collects {texts : List Text} (h : Collects s o g files texts) : texts.Nodup := by
  obtain ⟨found, -, hlists⟩ := h
  exact hlists.nodup

/-- Reading depends on what is read only. -/
theorem scan_congr (h : ∀ file ∈ files, s.read (.ofText file) = t.read (.ofText file))
    (set : NoticeSet) : Run.scan s o g set files = Run.scan t o g set files := by
  induction files generalizing set with
  | nil => rfl
  | cons file rest ih =>
    obtain ⟨hfile, hrest⟩ := List.forall_mem_cons.mp h
    have hfindings : Run.findingsIn s o g file = Run.findingsIn t o g file := by
      simp only [Run.findingsIn, Run.readSource, hfile]
    simp only [Run.scan, hfindings, ih hrest]

/-- The texts that were there come first. -/
theorem prefix_scan (hread : ∀ file ∈ files, ∃ comments, Yields s o g file comments)
    (set : NoticeSet) : set.texts <+: (Run.scan s o g set files).notices.texts := by
  induction files generalizing set with
  | nil => exact List.prefix_refl _
  | cons file rest ih =>
    obtain ⟨⟨comments, hyields⟩, hrest⟩ := List.forall_mem_cons.mp hread
    have hset := prefix_insertAll set (notices o (groupComments comments))
    rw [← aggregate_fst set (String.ofList file) hyields.holds.notices_ne_nil] at hset
    rw [scan_cons hyields.holds]
    exact hset.trans (ih hrest _)

/-- An output that can be opened and where everything is stored takes whatever is read from the
sources, if the encoding is one of those that are kept here and writes anything at all. -/
theorem canWrite_rendered (hlaw : JavaScript.Parser.IsLawful) {encoding : Encoding}
    (hname : o.encoding.encoding? = some encoding) (hkept : encoding.IsKept) {nothing : Bytes}
    (hencode : encoding.encode [] = .ok nothing) {l : Location}
    (hopen : s.locateFile output = .ok l) (hstore : ∀ bytes, s.writeFault? l bytes = none)
    (hread : ∀ file ∈ files, ∃ comments, Yields s o g file comments) :
    CanWrite s o.encoding output (rendered s o g files) := by
  obtain ⟨more, hmore⟩ : ∃ more, encoding.encode (rendered s o g files) = .ok more := by
    refine (Encoding.exists_encode_iff hkept hencode _).mpr fun c hc => ?_
    by_cases hfeed : c = '\n'
    · rw [hfeed]
      exact Encoding.exists_encode_newline hname hkept hencode
    · obtain ⟨file, -, source, ⟨-, hname', hdecode⟩, hmem⟩ :=
        (mem_rendered hlaw ((failure_scan_eq_none_iff .empty).mpr hread) hc).resolve_left hfeed
      obtain rfl := Option.some.inj (hname.symm.trans hname')
      exact Encoding.exists_encode_singleton hkept hdecode (mem_of_mem_unifyNewlines hmem hfeed)
  exact ⟨l, encoding, more, hopen, hname, hmore, hstore more⟩

/-- A run whose texts can be written writes them. -/
theorem writes_of_collects {texts : List Text} (h : Collects s o o.grammar files texts)
    (hwrite : CanWrite s o.encoding output (Text.join ['\n', '\n'] texts)) :
    Writes s o files output texts := by
  obtain ⟨l, encoding, bytes, hl, hname, hencode, hstore⟩ := hwrite
  obtain ⟨hscan, htexts⟩ := (collects_iff files texts).mp h
  obtain ⟨hok, hread⟩ := ofSources_of_written hscan htexts hl hname hencode hstore
  exact ⟨hok, h, encoding, bytes, hname, hencode, hread⟩

/-- What a run has collected it writes when it can be written, and only then. -/
theorem writes_iff {texts : List Text} (h : Collects s o o.grammar files texts) :
    Writes s o files output texts ↔
      CanWrite s o.encoding output (Text.join ['\n', '\n'] texts) := by
  refine ⟨fun hwrites => ?_, writes_of_collects h⟩
  obtain ⟨hscan, hwrite, -⟩ := ofSources_of_ok hwrites.outcome_eq
  obtain ⟨l, encoding, bytes, hl, hname, hencode, hstore, -⟩ :=
    (writeOutput_ok_iff _ _ _ _ _).mp hwrite
  obtain rfl := (collects_scan hscan).unique h
  exact ⟨l, encoding, bytes, hl, hname, hencode, hstore⟩

theorem collects_of_yields (hread : ∀ file ∈ files, ∃ comments, Yields s o g file comments) :
    Collects s o g files (Run.scan s o g .empty files).notices.texts :=
  collects_scan ((failure_scan_eq_none_iff .empty).mpr hread)

/-- Behind a run all that was read from elsewhere than its output is read as before. -/
theorem read_start {fs : List Text} {file : Text} {bytes : Bytes}
    (hapart : s.locate (.ofText file) ≠ s.locate output)
    (hread : s.read (.ofText file) = .ok bytes) :
    (Run.start s o fs output).files.read (.ofText file) = .ok bytes := by
  rw [Run.start]
  rcases files_ofSources (s := s) (o := o) (g := o.grammar) fs output with
    hfiles | ⟨-, l, more, hl, hfiles⟩
  · rw [hfiles]
    exact hread
  · rw [hfiles]
    obtain ⟨hlocate, hfile, -⟩ := (locateFile_eq_ok_iff s output l).mp hl
    exact read_put_of_ne hfile hread (hlocate ▸ hapart) more

theorem read_of_then {fs : List Text}
    (hread : ∀ file ∈ files, ∃ comments, Yields s o g file comments)
    (hthen : t = s ∨ t = (Run.start s o fs output).files ∧
      ∀ file ∈ files, s.locate (.ofText file) ≠ s.locate output) :
    ∀ file ∈ files, s.read (.ofText file) = t.read (.ofText file) := by
  intro file hfile
  rcases hthen with rfl | ⟨rfl, hapart⟩
  · rfl
  · obtain ⟨comments, hbytes, -, -, -⟩ := hread file hfile
    rw [read_start (hapart file hfile) hbytes, hbytes]

theorem events_eq (s : FileStore) (o : Options) (files : List Text) (output : Path) :
    events s o files output = (Run.scan s o o.grammar .empty files).events :=
  events_ofSources files output

/-- The events of one more source come behind those of the sources before. -/
theorem events_append_singleton {before : List Text} {file : Text} {c : Contents}
    (hread : ∀ file ∈ before, ∃ comments, Yields s o o.grammar file comments)
    (hholds : Holds s o o.grammar file c) :
    events s o (before ++ [file]) output = events s o before output ++
      eventsOf (Run.scan s o o.grammar .empty before).notices (String.ofList file)
        (notices o c.groups) := by
  rw [events_eq, events_eq, scan_append hread, scan_cons hholds]
  simp [followedBy, sourceScan, Run.scan]

theorem events_prefix {before after : List Text}
    (hread : ∀ file ∈ before, ∃ comments, Yields s o o.grammar file comments) :
    events s o before output <+: events s o (before ++ after) output := by
  rw [events_eq, events_eq, scan_append hread]
  exact List.prefix_append _ _

/-- A source that was read before has nothing new to add. -/
theorem merge_of_read_before {before : List Text} {file : Text} {c : Contents}
    (hread : ∀ file ∈ before, ∃ comments, Yields s o g file comments)
    (hholds : Holds s o g file c)
    (hbefore : ∃ earlier ∈ before, s.read (.ofText earlier) = s.read (.ofText file))
    {e : MatchEvent}
    (he : e ∈ eventsOf (Run.scan s o g .empty before).notices (String.ofList file)
      (notices o c.groups)) : e.operation = .merge := by
  obtain ⟨earlier, hearlier, hsame⟩ := hbefore
  have hcollects := collects_scan ((failure_scan_eq_none_iff .empty).mpr hread)
  refine merge_of_mem_eventsOf hholds.notices_ne_nil (fun group hgroup => ?_) he
  rw [mem_iff_of_collects hcollects]
  exact ⟨earlier, hearlier, c, holds_of_read_eq hsame.symm hholds, List.mem_map_of_mem hgroup⟩

/-- Every source adds a part of its own to the events. -/
theorem exists_part {before after : List Text} {file : Text}
    (hread : ∀ other ∈ before ++ file :: after, ∃ comments, Yields s o o.grammar other comments)
    (output : Path) :
    ∃ part, events s o (before ++ [file]) output = events s o before output ++ part ∧
      events s o (before ++ [file]) output <+: events s o (before ++ file :: after) output ∧
      (∀ e ∈ part, e.file = String.ofList file) ∧
      ((∃ earlier ∈ before, s.read (.ofText earlier) = s.read (.ofText file)) →
        ∀ e ∈ part, e.operation = .merge) := by
  have hbefore : ∀ other ∈ before, ∃ comments, Yields s o o.grammar other comments :=
    fun other hother => hread other (List.mem_append_left _ hother)
  have hupto : ∀ other ∈ before ++ [file], ∃ comments, Yields s o o.grammar other comments := by
    intro other hother
    refine hread other ?_
    rw [List.append_cons before file after]
    exact List.mem_append_left after hother
  obtain ⟨comments, hyields⟩ := hupto file (by simp)
  refine ⟨_, events_append_singleton hbefore hyields.holds, ?_, ?_, ?_⟩
  · rw [List.append_cons before file after]
    exact events_prefix hupto
  · intro e he
    exact file_eq_of_mem_eventsOf hyields.holds.notices_ne_nil he
  · intro hagain e he
    exact merge_of_read_before hbefore hyields.holds hagain he

/-- Whatever is read from one list of sources and from another one gives the same texts. -/
theorem exists_holds_of_read_eq {as bs : List Text}
    (h : ∀ a ∈ as, ∃ b ∈ bs, s.read (.ofText a) = t.read (.ofText b)) {x : Text}
    (hx : ∃ a ∈ as, ∃ c, Holds s o g a c ∧ x ∈ c.noticeTexts o) :
    ∃ b ∈ bs, ∃ c, Holds t o g b c ∧ x ∈ c.noticeTexts o := by
  obtain ⟨a, ha, c, hholds, hx⟩ := hx
  obtain ⟨b, hb, hsame⟩ := h a ha
  exact ⟨b, hb, c, holds_of_read_eq hsame hholds, hx⟩

/-- Sources of which the same is read give the same texts, apart from their order. -/
theorem agree_of_collects {fs gs fsTexts gsTexts : List Text} (hfs : Collects s o g fs fsTexts)
    (hgs : Collects t o g gs gsTexts)
    (hfg : ∀ a ∈ fs, ∃ b ∈ gs, s.read (.ofText a) = t.read (.ofText b))
    (hgf : ∀ b ∈ gs, ∃ a ∈ fs, t.read (.ofText b) = s.read (.ofText a)) :
    gsTexts.length = fsTexts.length ∧ ∀ x, x ∈ gsTexts ↔ x ∈ fsTexts := by
  have hmem : ∀ x, x ∈ gsTexts ↔ x ∈ fsTexts := by
    intro x
    rw [mem_iff_of_collects hgs, mem_iff_of_collects hfs]
    exact ⟨exists_holds_of_read_eq hgf, exists_holds_of_read_eq hfg⟩
  have hperm : gsTexts.Perm fsTexts :=
    (List.perm_ext_iff_of_nodup (nodup_of_collects hgs) (nodup_of_collects hfs)).mpr hmem
  exact ⟨hperm.length_eq, hmem⟩

/-- Sources that are added behind others add their texts behind those of the others. -/
theorem exists_collects_append {fs gs : List Text}
    (hread : ∀ file ∈ fs ++ gs, ∃ comments, Yields s o g file comments) :
    ∃ more, Collects s o g (fs ++ gs) ((Run.scan s o g .empty fs).notices.texts ++ more) := by
  obtain ⟨hfs, hgs⟩ := List.forall_mem_append.mp hread
  obtain ⟨more, hmore⟩ := prefix_scan hgs (Run.scan s o g .empty fs).notices
  refine ⟨more, ?_⟩
  rw [hmore]
  have hcollects := collects_of_yields hread
  rwa [scan_append hfs] at hcollects

/-- Runs over lists of sources that can all be read. Each ends well, with its texts written, just
when they can be written. The second run may start where the first one started or, when the output
leads to none of the sources, where the first one ended. Sources that are added to those of the
first run add to its texts and to its events, and the same files in any order give the same
texts. -/
theorem runs_over_lists_agree {fs gs : List Text}
    (hread : ∀ file ∈ fs ++ gs, ∃ comments, Yields s o o.grammar file comments)
    (hthen : t = s ∨ t = (Run.start s o fs output).files ∧
      ∀ file ∈ fs ++ gs, s.locate (.ofText file) ≠ s.locate output) :
    ∃ texts more, Collects s o o.grammar fs texts ∧
      Collects t o o.grammar (fs ++ gs) (texts ++ more) ∧
      (Writes s o fs output texts ↔
        CanWrite s o.encoding output (Text.join ['\n', '\n'] texts)) ∧
      (Writes t o (fs ++ gs) output (texts ++ more) ↔
        CanWrite t o.encoding output (Text.join ['\n', '\n'] (texts ++ more))) ∧
      Text.join ['\n', '\n'] texts <+: Text.join ['\n', '\n'] (texts ++ more) ∧
      events s o fs output <+: events t o (fs ++ gs) output ∧
      (∀ before file after, fs ++ gs = before ++ file :: after →
        ∃ part, events t o (before ++ [file]) output = events t o before output ++ part ∧
          events t o (before ++ [file]) output <+: events t o (fs ++ gs) output ∧
          (∀ e ∈ part, e.file = String.ofList file) ∧
          ((∃ earlier ∈ before, SameFile s earlier file) → ∀ e ∈ part, e.operation = .merge)) ∧
      ((∀ a ∈ fs, ∃ b ∈ gs, SameFile s a b) → (∀ b ∈ gs, ∃ a ∈ fs, SameFile s a b) →
        ∃ others, Collects t o o.grammar gs others ∧
          (Writes t o gs output others ↔
            CanWrite t o.encoding output (Text.join ['\n', '\n'] others)) ∧
          others.length = texts.length ∧ ∀ x, x ∈ others ↔ x ∈ texts) := by
  have hkept := read_of_then hread hthen
  have hread' : ∀ file ∈ fs ++ gs, ∃ comments, Yields t o o.grammar file comments :=
    fun file hfile => (hread file hfile).imp fun _ => yields_of_read_eq (hkept file hfile)
  obtain ⟨hreadFs, -⟩ := List.forall_mem_append.mp hread
  obtain ⟨hreadFs', hreadGs'⟩ := List.forall_mem_append.mp hread'
  obtain ⟨hkeptFs, hkeptGs⟩ := List.forall_mem_append.mp hkept
  have hfirst := scan_congr (o := o) (g := o.grammar) hkeptFs .empty
  have hcollects := collects_of_yields hreadFs
  obtain ⟨more, hboth⟩ := exists_collects_append hread'
  rw [← hfirst] at hboth
  refine ⟨_, more, hcollects, hboth, writes_iff hcollects, writes_iff hboth,
    prefix_join _ (List.prefix_append _ _), ?_, ?_, ?_⟩
  · rw [events_eq, hfirst, ← events_eq t o fs output]
    exact events_prefix hreadFs'
  · intro before file after hsplit
    rw [hsplit] at hread' hkept ⊢
    obtain ⟨part, hpart, hprefix, hfile, hmerge⟩ := exists_part hread' output
    refine ⟨part, hpart, hprefix, hfile, ?_⟩
    rintro ⟨earlier, hearlier, hsame⟩
    refine hmerge ⟨earlier, hearlier, ?_⟩
    rw [← hkept earlier (by simp [hearlier]), ← hkept file (by simp), hsame.read_eq]
  · intro hfg hgf
    have hothers := collects_of_yields hreadGs'
    refine ⟨_, hothers, writes_iff hothers, agree_of_collects hcollects hothers (fun a ha => ?_)
      (fun b hb => ?_)⟩
    · obtain ⟨b, hb, hsame⟩ := hfg a ha
      exact ⟨b, hb, hsame.read_eq.trans (hkeptGs b hb)⟩
    · obtain ⟨a, ha, hsame⟩ := hgf b hb
      exact ⟨a, ha, (hsame.read_eq.trans (hkeptGs b hb)).symm⟩

end

section

attribute [local instance] Encoding.sampleCodecs JavaScript.readerParser

theorem repeated_samples_agree :
    ∃ texts others, Writes sampleFiles familyOptions [['a'], ['b']] (.ofText ['o']) texts ∧
      Writes sampleFiles familyOptions [['b'], ['a'], ['b']] (.ofText ['o']) others ∧
      others.length = texts.length ∧ ∀ x, x ∈ others ↔ x ∈ texts := by
  have hread : ∀ file ∈ [['a'], ['b']] ++ [['b'], ['a'], ['b']], ∃ comments,
      Yields sampleFiles familyOptions familyOptions.grammar file comments := by
    intro file hfile
    apply exists_yields_of_isSome
    simp only [List.cons_append, List.nil_append, List.mem_cons, List.not_mem_nil,
      or_false] at hfile
    rcases hfile with rfl | rfl | rfl | rfl | rfl <;> decide +kernel
  obtain ⟨hfs, hgs⟩ := List.forall_mem_append.mp hread
  have hname : familyOptions.encoding.encoding? = some (.plain .ascii) := by decide +kernel
  have hopen : sampleFiles.locateFile (.ofText ['o']) = .ok [['o']] := by decide +kernel
  have hwritable {files texts : List Text}
      (hyields : ∀ file ∈ files, ∃ comments, Yields sampleFiles familyOptions .cStyle file comments)
      (hcollects : Collects sampleFiles familyOptions .cStyle files texts) :
      CanWrite sampleFiles familyOptions.encoding (.ofText ['o'])
        (Text.join ['\n', '\n'] texts) := by
    obtain rfl := (collects_of_yields hyields).unique hcollects
    exact canWrite_rendered JavaScript.readerParser_isLawful hname nofun rfl hopen
      (fun _ => rfl) hyields
  obtain ⟨texts, more, hcollects, -, hwrites, -, -, -, -, hagree⟩ :=
    @runs_over_lists_agree _ _ _ sampleFiles _ (.ofText ['o']) _ _ hread (.inl rfl)
  obtain ⟨others, hothers, hwritten, hlength, hmem⟩ :=
    hagree (fun a ha => ⟨a, by grind, rfl⟩) (fun b hb => ⟨b, by grind, rfl⟩)
  exact ⟨texts, others, hwrites.mpr (hwritable hfs hcollects),
    hwritten.mpr (hwritable hgs hothers), hlength, hmem⟩

/-- Two sources with a notice. In that of the second there is a character that is read and not
written. -/
def mixedFiles : FileStore :=
  let nothing : FileStore := { entry? := fun _ => none }
  let first := nothing.put [['a']] (Encoding.Utf8.encode "// MIT\n".toList)
  first.put [['b']] (Encoding.Utf8.encode "// MIT ".toList ++ [0x8f, 0xcd, 0xf7, 0x0a])

def mixedOptions : Options := { familyOptions with encoding := partialName }

/-- All sources can be read, and the text of the first can be written to the output. When the
second is added, nothing is left of that text. -/
theorem added_source_leaves_no_text :
    ∃ (s : FileStore) (o : Options) (output : Path) (fs gs : List Text),
      (∀ file ∈ fs ++ gs, ∃ comments, Yields s o o.grammar file comments) ∧
      (∀ file ∈ fs ++ gs, s.locate (.ofText file) ≠ s.locate output) ∧
      CanWrite s o.encoding output [] ∧ Writes s o fs output [" MIT".toList] ∧
      (∃ d, (Run.start s o (fs ++ gs) output).outcome = .error (.diagnostic d)) ∧
      (Run.start s o (fs ++ gs) output).files.stored? output = some [] := by
  have hread : ∀ file ∈ [['a']] ++ [['b']],
      ∃ comments, Yields mixedFiles mixedOptions mixedOptions.grammar file comments := by
    intro file hfile
    apply exists_yields_of_isSome
    simp only [List.cons_append, List.nil_append, List.mem_cons, List.not_mem_nil,
      or_false] at hfile
    rcases hfile with rfl | rfl <;> decide +kernel
  have hname : mixedOptions.encoding.encoding? = some (.foreign "euc_jisx0213") :=
    encoding?_partialName
  have hwritable {t : Text} {bytes : Bytes}
      (h : (Encoding.foreign "euc_jisx0213").encode t = .ok bytes) :
      CanWrite mixedFiles mixedOptions.encoding (.ofText ['o']) t :=
    ⟨[['o']], _, bytes, by decide +kernel, hname, h, rfl⟩
  have hcollects := collects_of_yields (List.forall_mem_append.mp hread).1
  have htexts : (Run.scan mixedFiles mixedOptions mixedOptions.grammar .empty
      [['a']]).notices.texts = [" MIT".toList] := by
    decide +kernel
  rw [htexts] at hcollects
  have hencode : (Encoding.foreign "euc_jisx0213").encode " MIT".toList =
      .ok (Encoding.Utf8.encode " MIT".toList) := by
    decide +kernel
  have hwrites := writes_of_collects hcollects (hwritable hencode)
  have hfailed : (Run.start mixedFiles mixedOptions ([['a']] ++ [['b']])
      (.ofText ['o'])).outcome = .error (Run.unwritable (.ofText ['o']) ("'euc_jisx0213' codec " ++
        "can't encode character '\\u7626' in position 11: illegal multibyte sequence")) := by
    decide +kernel
  exact ⟨mixedFiles, mixedOptions, .ofText ['o'], [['a']], [['b']], hread, by decide +kernel,
    hwritable rfl, hwrites, ⟨_, hfailed⟩, by decide +kernel⟩

end

end LicenseNotices.SourceLists
