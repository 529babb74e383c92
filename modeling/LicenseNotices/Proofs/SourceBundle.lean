import LicenseNotices.Proofs.RunEvents
import LicenseNotices.Proofs.SourceSeams

/-!
Sources of the C family put into one file, with a blank line between neighbours. A run over
the one file does what a run over the single files does: it meets the same notices in the
same order, so that its set grows in the same way, the same text is written and the same
events are left behind. Only their lines are lower, by the line feeds before their source.
-/
namespace LicenseNotices.SourceBundle

open CommentRuns FirstSeen OutputFile Results RunEvents RunOutcome SourceContents

/-- Texts in one, with a blank line between neighbours. -/
def bundle (texts : List Text) : Text := Text.join ['\n', '\n'] texts

/-- The number of line feeds in a bundle before the text at place `i`. -/
def linesBefore (texts : List Text) (i : ℕ) : ℕ :=
  ((texts.take i).flatMap (· ++ ['\n', '\n'])).count '\n'

/-- The event of the same notice in another file, `k` lines below. -/
def moved (file : String) (k : ℕ) (e : MatchEvent) : MatchEvent :=
  { e with file := file, line := e.line + k }

/-- The texts of the notices of a source of the C family. -/
def noticeTexts (o : Options) (t : Text) : List Text :=
  match CStyle.comments t with
  | .ok cs => (notices o (groupComments cs)).map CommentGroup.text
  | .error _ => []

theorem bundle_cons_cons (t u : Text) (rest : List Text) :
    bundle (t :: u :: rest) = t ++ ['\n', '\n'] ++ bundle (u :: rest) :=
  Text.join_cons_cons _ t u rest

theorem carriageReturn_not_mem_bundle {texts : List Text} (h : ∀ t ∈ texts, '\r' ∉ t) :
    '\r' ∉ bundle texts := by
  rw [bundle]
  fun_induction Text.join ['\n', '\n'] texts with
  | case1 => simp
  | case2 t => simpa using h
  | case3 t rest _ ih =>
    have hrest := ih fun u hu => h u (List.mem_cons_of_mem t hu)
    have ht := h t (by simp)
    simp [ht, hrest]

theorem linesBefore_zero (texts : List Text) : linesBefore texts 0 = 0 := rfl

theorem linesBefore_succ (t : Text) (rest : List Text) (i : ℕ) :
    linesBefore (t :: rest) (i + 1) = t.count '\n' + 2 + linesBefore rest i := by
  simp only [linesBefore, List.take_succ_cons, List.flatMap_cons, List.count_append]
  rfl

theorem isNotice_lowered (o : Options) (k : ℕ) (g : CommentGroup) :
    IsNotice o (g.lowered k) ↔ IsNotice o g := by
  simp [IsNotice, Matches, CommentGroup.lowered, Comment.lowered]

theorem notices_append (o : Options) (gs hs : List CommentGroup) :
    notices o (gs ++ hs) = notices o gs ++ notices o hs :=
  List.filter_append ..

theorem notices_lowered (o : Options) (k : ℕ) (gs : List CommentGroup) :
    notices o (gs.map (CommentGroup.lowered k)) =
      (notices o gs).map (CommentGroup.lowered k) := by
  simp only [notices, List.filter_map, Function.comp_def, isNotice_lowered]

/-- A group is added before those behind it, and its event comes before theirs. -/
theorem aggregate_cons_eq_ok_iff (set last : NoticeSet) (file : String) (g : CommentGroup)
    (rest : List CommentGroup) (events : List MatchEvent) :
    set.aggregate file (g :: rest) = (last, .ok events) ↔
      ∃ (hg : g ≠ []) (later : List MatchEvent),
        (set.insert g.text).1.aggregate file rest = (last, .ok later) ∧
        events = matchEvent set file g hg :: later := by
  by_cases hg : g = []
  · subst hg
    simp [NoticeSet.aggregate]
  · rw [aggregate_cons set file hg]
    simp only [Prod.ext_iff, map_eq_ok_iff]
    constructor
    · rintro ⟨hset, later, hlater, rfl⟩
      exact ⟨hg, later, ⟨hset, hlater⟩, rfl⟩
    · rintro ⟨_, later, ⟨hset, hlater⟩, rfl⟩
      exact ⟨hset, later, hlater, rfl⟩

theorem aggregate_append {set middle last : NoticeSet} {file : String}
    {gs hs : List CommentGroup} {events later : List MatchEvent}
    (hgs : set.aggregate file gs = (middle, .ok events))
    (hhs : middle.aggregate file hs = (last, .ok later)) :
    set.aggregate file (gs ++ hs) = (last, .ok (events ++ later)) := by
  induction gs generalizing set events with
  | nil =>
    cases hgs
    exact hhs
  | cons g rest ih =>
    obtain ⟨hg, behind, hrest, rfl⟩ := (aggregate_cons_eq_ok_iff _ _ _ _ _ _).mp hgs
    exact (aggregate_cons_eq_ok_iff _ _ _ _ _ _).mpr ⟨hg, _, ih hrest, rfl⟩

/-- The same groups further below in another file change a set in the same way. -/
theorem aggregate_lowered {set last : NoticeSet} {file : String} {gs : List CommentGroup}
    {events : List MatchEvent} (h : set.aggregate file gs = (last, .ok events)) (other : String)
    (k : ℕ) :
    set.aggregate other (gs.map (CommentGroup.lowered k)) =
      (last, .ok (events.map (moved other k))) := by
  induction gs generalizing set events with
  | nil =>
    cases h
    rfl
  | cons g rest ih =>
    obtain ⟨hg, later, hrest, rfl⟩ := (aggregate_cons_eq_ok_iff _ _ _ _ _ _).mp h
    have hlowered : g.lowered k ≠ [] := List.map_eq_nil_iff.not.mpr hg
    have hevent : matchEvent set other (g.lowered k) hlowered =
        moved other k (matchEvent set file g hg) := by
      simp only [matchEvent, moved, CommentGroup.text_lowered]
      cases g with
      | nil => exact absurd rfl hg
      | cons first others => rfl
    refine (aggregate_cons_eq_ok_iff _ _ _ _ _ _).mpr ⟨hlowered, later.map (moved other k), ?_, ?_⟩
    · rw [CommentGroup.text_lowered]
      exact ih hrest
    · rw [hevent, List.map_cons]

section

variable [Encoding.Codecs] [JavaScript.Parser] {s : FileStore} {o : Options}

/-- The notices of a bundle are added to a set as those of its sources are, one source after
the other, and leave the same events behind, each below the lines before its source. -/
theorem exists_bundle {files texts : List Text} {found : List Contents}
    (hfound : List.Forall₂ (Holds s o .cStyle) files found)
    (htexts : List.Forall₂ (fun t c => CStyle.comments t = .ok c.comments) texts found)
    (hne : texts ≠ []) :
    ∃ cs, CStyle.comments (bundle texts) = .ok cs ∧
      ∀ (set : NoticeSet) (k : ℕ) (file : String),
        set.aggregate file (notices o ((groupComments cs).map (CommentGroup.lowered k))) =
          ((Run.scan s o .cStyle set files).notices,
            .ok ((parts o set files found).mapIdx fun i part =>
              part.map (moved file (k + linesBefore texts i))).flatten) := by
  induction htexts generalizing files with
  | nil => exact absurd rfl hne
  | @cons t c rest found ht hrest ih =>
    cases hfound with
    | @cons file _ files _ hholds hfound =>
    have hgroups := (isPartition_groupComments c.comments).unique hholds.isPartition
    have hfirst (set : NoticeSet) (k : ℕ) (other : String) :
        set.aggregate other (notices o ((groupComments c.comments).map (CommentGroup.lowered k))) =
          ((sourceScan o set file c).notices,
            .ok ((sourceScan o set file c).events.map (moved other k))) := by
      rw [hgroups, notices_lowered]
      exact aggregate_lowered (aggregate_eq set _ hholds.notices_ne_nil) other k
    cases hrest with
    | nil =>
      cases hfound
      refine ⟨c.comments, ht, ?_⟩
      intro set k other
      rw [hfirst, scan_cons hholds]
      simp [parts, linesBefore_zero, Run.scan, followedBy]
    | cons hu hrest =>
      obtain ⟨ds, hds, hbundle⟩ := ih hfound (by simp)
      obtain ⟨both, hboth, hjoined⟩ := CStyle.comments_append_blankLine ht hds
      refine ⟨both, by rw [bundle_cons_cons, hboth], ?_⟩
      intro set k other
      have hsplit : (groupComments both).map (CommentGroup.lowered k) =
          (groupComments c.comments).map (CommentGroup.lowered k) ++
            (groupComments ds).map (CommentGroup.lowered (k + (t.count '\n' + 2))) := by
        rw [hjoined, List.map_append, List.map_map]
        congr 2
        funext g
        exact g.lowered_lowered k _
      rw [hsplit, notices_append, aggregate_append (hfirst set k other) (hbundle _ _ other),
        scan_cons hholds, parts, List.mapIdx_cons, List.flatten_cons]
      simp only [linesBefore_zero, linesBefore_succ, Nat.add_zero, ← Nat.add_assoc, followedBy]

theorem holds_of_hasText {file t : Text} {cs : List Comment} (htext : HasText s o file t)
    (hunified : '\r' ∉ t) (hcomments : CStyle.comments t = .ok cs) :
    Holds s o .cStyle file ⟨cs, groupComments cs⟩ := by
  refine ((yields_iff s o .cStyle file cs).mpr ⟨t, htext, ?_⟩).holds
  rw [Text.unifyNewlines_eq_self hunified]
  exact (mapError_eq_ok_iff _ _ _).mpr hcomments

/-- What accepted sources without carriage returns hold. -/
theorem exists_found {files texts : List Text} (htexts : List.Forall₂ (HasText s o) files texts)
    (hunified : ∀ t ∈ texts, '\r' ∉ t) (haccepted : ∀ t ∈ texts, ∃ cs, CStyle.comments t = .ok cs) :
    ∃ found, List.Forall₂ (Holds s o .cStyle) files found ∧
      List.Forall₂ (fun t c => CStyle.comments t = .ok c.comments) texts found ∧
      found.flatMap (Contents.noticeTexts o) = texts.flatMap (noticeTexts o) := by
  induction htexts with
  | nil => exact ⟨[], .nil, .nil, rfl⟩
  | @cons file t files texts htext _ ih =>
    obtain ⟨cs, hcs⟩ := haccepted t (by simp)
    obtain ⟨found, hfound, hcomments, hnotices⟩ :=
      ih (fun u hu => hunified u (List.mem_cons_of_mem t hu))
        (fun u hu => haccepted u (List.mem_cons_of_mem t hu))
    refine ⟨⟨cs, groupComments cs⟩ :: found,
      .cons (holds_of_hasText htext (hunified t (by simp)) hcs) hfound, .cons hcs hcomments, ?_⟩
    rw [List.flatMap_cons, List.flatMap_cons, hnotices, Contents.noticeTexts, noticeTexts, hcs]

/-- A run over sources of the C family and a run over their bundle end well, write the same
text of the same number of notices, and leave the same events behind. The events of a source
are those by which a run over one source more is longer; in the run over the bundle they
name the bundle and lie lower by the line feeds before the source. -/
theorem bundle_moves_events {s' : FileStore} (hgrammar : o.grammar = .cStyle)
    {files texts listing : List Text} {bundled : Text} {output output' : Path} {l l' : Location}
    {encoding : Encoding} {bytes : Bytes} (hne : texts ≠ [])
    (htexts : List.Forall₂ (HasText s o) files texts)
    (hbundled : HasText s' o bundled (bundle texts)) (hunified : ∀ t ∈ texts, '\r' ∉ t)
    (haccepted : ∀ t ∈ texts, ∃ cs, CStyle.comments t = .ok cs)
    (hwritable : s.locateFile output = .ok l) (hwritable' : s'.locateFile output' = .ok l')
    (hstore : s.writeFault? l bytes = none) (hstore' : s'.writeFault? l' bytes = none)
    (hlisting : Lists (texts.flatMap (noticeTexts o)) listing)
    (hname : o.encoding.encoding? = some encoding)
    (hencode : encoding.encode (Text.join ['\n', '\n'] listing) = .ok bytes) :
    (Run.start s o files output).outcome = .ok { output, count := listing.length } ∧
      (Run.start s' o [bundled] output').outcome =
        .ok { output := output', count := listing.length } ∧
      (Run.start s o files output).files.stored? output = some bytes ∧
      (Run.start s' o [bundled] output').files.stored? output' = some bytes ∧
      ∃ parts : List (List MatchEvent), parts.length = texts.length ∧
        (∀ i, (Run.start s o (files.take i) output).report.filterMap ReportEntry.event? =
          (parts.take i).flatten) ∧
        (Run.start s' o [bundled] output').report.filterMap ReportEntry.event? =
          (parts.mapIdx fun i part =>
            part.map (moved (String.ofList bundled) (linesBefore texts i))).flatten := by
  obtain ⟨found, hfound, hcomments, hnotices⟩ := exists_found htexts hunified haccepted
  obtain ⟨cs, hcs, hbundle⟩ := exists_bundle (s := s) (o := o) hfound hcomments hne
  have hholds := holds_of_hasText hbundled (carriageReturn_not_mem_bundle hunified) hcs
  have haggregate := hbundle .empty 0 (String.ofList bundled)
  simp only [CommentGroup.lowered_zero, List.map_id, Nat.zero_add] at haggregate
  have hset : (Run.scan s o .cStyle .empty files).notices.texts = listing := by
    have hempty : Lists [] NoticeSet.empty.texts := Lists.nil
    have hlists := lists_scan hfound hempty
    rw [List.nil_append, hnotices] at hlists
    exact hlists.unique hlisting
  have hset' : (Run.scan s' o .cStyle .empty [bundled]).notices.texts = listing := by
    rw [scan_cons hholds, ← hset]
    simp only [followedBy, sourceScan, Run.scan, haggregate]
  have hevents : (Run.scan s' o .cStyle .empty [bundled]).events =
      ((parts o .empty files found).mapIdx fun i part =>
        part.map (moved (String.ofList bundled) (linesBefore texts i))).flatten := by
    rw [scan_cons hholds]
    simp only [followedBy, sourceScan, Run.scan, eventsOf, haggregate, List.append_nil]
  have hlength : (parts o .empty files found).length = texts.length := by
    rw [← (forall₂_parts hfound .empty).length_eq, htexts.length_eq]
  obtain ⟨hok, hread⟩ :=
    ofSources_of_written (failure_scan hfound .empty) hset hwritable hname hencode hstore
  obtain ⟨hok', hread'⟩ :=
    ofSources_of_written (failure_scan (.cons hholds .nil) .empty) hset' hwritable' hname hencode
      hstore'
  simp only [Run.start, hgrammar]
  refine ⟨hok, hok', hread, hread', parts o .empty files found, hlength, ?_, ?_⟩
  · intro i
    rw [events_ofSources, events_scan (List.forall₂_take i hfound), parts_take]
  · rw [events_ofSources, hevents]

end

/-- Two sources of which the second repeats the notice of the first. -/
def sampleTexts : List Text :=
  ["// MIT\n\n/* other */".toList, "/* (MIT) */\n// MIT".toList]

def bundledFiles : FileStore :=
  sampleFiles.put [['c']] (Encoding.Utf8.encode (bundle sampleTexts))

def familyOptions : Options := { sampleOptions with grammar := .cStyle }

section

attribute [local instance] Encoding.sampleCodecs JavaScript.readerParser

theorem bundle_moves_sample_events :
    (Run.start bundledFiles familyOptions [['c']] (.ofText ['o'])).outcome =
        .ok { output := .ofText ['o'], count := 2 } ∧
      ∃ parts : List (List MatchEvent), parts.length = 2 ∧
        (Run.start sampleFiles familyOptions [['a'], ['b']] (.ofText ['o'])).report.filterMap
          ReportEntry.event? = parts.flatten ∧
        (Run.start bundledFiles familyOptions [['c']] (.ofText ['o'])).report.filterMap
          ReportEntry.event? =
            (parts.mapIdx fun i part =>
              part.map (moved "c" (linesBefore sampleTexts i))).flatten := by
  have hname : familyOptions.encoding.encoding? = some (.plain .ascii) := by decide +kernel
  have htexts : List.Forall₂ (HasText sampleFiles familyOptions) [['a'], ['b']] sampleTexts :=
    .cons
      ⟨show sampleFiles.read (.ofText ['a']) =
          .ok (Encoding.Utf8.encode "// MIT\n\n/* other */".toList) by decide +kernel,
        hname, by decide +kernel⟩
      (.cons
        ⟨show sampleFiles.read (.ofText ['b']) =
            .ok (Encoding.Utf8.encode "/* (MIT) */\n// MIT".toList) by decide +kernel,
          hname, by decide +kernel⟩ .nil)
  have hbundled : HasText bundledFiles familyOptions ['c'] (bundle sampleTexts) :=
    ⟨show bundledFiles.read (.ofText ['c']) = .ok (Encoding.Utf8.encode (bundle sampleTexts)) by
      decide +kernel, hname, by decide +kernel⟩
  have haccepted : ∀ t ∈ sampleTexts, ∃ cs, CStyle.comments t = .ok cs := by
    simp only [sampleTexts, List.forall_mem_cons]
    exact ⟨⟨[⟨.line, " MIT".toList, 1, 0⟩, ⟨.block, " other ".toList, 3, 0⟩], by decide +kernel⟩,
      ⟨[⟨.block, " (MIT) ".toList, 1, 0⟩, ⟨.line, " MIT".toList, 2, 0⟩], by decide +kernel⟩,
      by simp⟩
  have hlisting : Lists (sampleTexts.flatMap (noticeTexts familyOptions))
      [" MIT".toList, " (MIT) ".toList] := by
    rw [show sampleTexts.flatMap (noticeTexts familyOptions) =
      [" MIT".toList, " (MIT) ".toList, " MIT".toList] by decide +kernel]
    exact ((Lists.nil.append_new (t := " MIT".toList) (by decide)).append_new
      (t := " (MIT) ".toList) (by decide)).append_seen (t := " MIT".toList) (by decide)
  have hwritable : sampleFiles.locateFile (.ofText ['o']) = .ok [['o']] := by decide +kernel
  have hwritable' : bundledFiles.locateFile (.ofText ['o']) = .ok [['o']] := by decide +kernel
  have hencode : (Encoding.plain .ascii).encode
      (Text.join ['\n', '\n'] [" MIT".toList, " (MIT) ".toList]) =
        .ok (Encoding.Utf8.encode " MIT\n\n (MIT) ".toList) := by decide +kernel
  obtain ⟨-, hok, -, -, parts, hlength, hevents, hmoved⟩ :=
    bundle_moves_events (o := familyOptions) rfl (by simp [sampleTexts]) htexts hbundled
      (by decide +kernel) haccepted hwritable hwritable' rfl rfl hlisting hname hencode
  refine ⟨hok, parts, hlength, ?_, hmoved⟩
  rw [← List.take_of_length_le hlength.le]
  exact hevents 2

end

end LicenseNotices.SourceBundle
