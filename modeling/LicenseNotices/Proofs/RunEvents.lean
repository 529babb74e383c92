import LicenseNotices.Proofs.RunOutcome

/-!
The match events of a run, source by source. Every group of a source leaves one event behind
when it is added to the notices of the sources before, so the events of a run fall into
parts, one for each source that was read before the run ended or failed.
-/
namespace LicenseNotices.RunEvents

open FirstSeen RunOutcome SourceContents

/-- The events of sources that hold something, one part for each of them. -/
def parts (o : Options) (set : NoticeSet) : List Text → List Contents → List (List MatchEvent)
  | file :: files, c :: found =>
      (sourceScan o set file c).events :: parts o (sourceScan o set file c).notices files found
  | _, _ => []

/-- The parts of the first sources are the first parts. -/
theorem parts_take (o : Options) (set : NoticeSet) (files : List Text) (found : List Contents)
    (i : ℕ) :
    parts o set (files.take i) (found.take i) = (parts o set files found).take i := by
  induction i generalizing set files found with
  | zero => simp [parts]
  | succ i ih =>
    cases files with
    | nil => simp [parts]
    | cons file files =>
      cases found with
      | nil => simp [parts]
      | cons c found =>
        rw [List.take_succ_cons, List.take_succ_cons, parts, parts, ih, List.take_succ_cons]

variable [Encoding.Codecs] [JavaScript.Parser] {s : FileStore} {o : Options} {g : Grammar}

theorem events_scan {files : List Text} {found : List Contents}
    (h : List.Forall₂ (Holds s o g) files found) (set : NoticeSet) :
    (Run.scan s o g set files).events = (parts o set files found).flatten := by
  induction h generalizing set with
  | nil => rfl
  | cons hholds _ ih =>
    rw [scan_cons hholds, parts, List.flatten_cons, ← ih]
    rfl

/-- A part of the events belongs to a source and tells of its notices. -/
theorem forall₂_parts {files : List Text} {found : List Contents}
    (h : List.Forall₂ (Holds s o g) files found) (set : NoticeSet) :
    List.Forall₂ (fun file part => ∃ c before, Holds s o g file c ∧
      part = eventsOf before (String.ofList file) (notices o c.groups))
      files (parts o set files found) := by
  induction h generalizing set with
  | nil => exact .nil
  | cons hholds _ ih => exact .cons ⟨_, set, hholds, rfl⟩ (ih _)

/-- Sources are read up to the end or up to the first that fails. -/
theorem exists_read (s : FileStore) (o : Options) (g : Grammar) (files : List Text)
    (set : NoticeSet) :
    ∃ read rest found, files = read ++ rest ∧ List.Forall₂ (Holds s o g) read found ∧
      (∀ bad ∈ rest.head?, ∃ failure, Fails s o g bad failure) ∧
      (Run.scan s o g set files).events = (Run.scan s o g set read).events := by
  induction files generalizing set with
  | nil => exact ⟨[], [], [], rfl, .nil, by simp, rfl⟩
  | cons file files ih =>
    rcases yields_or_fails s o g file with ⟨comments, hyields⟩ | ⟨failure, hfails⟩
    · obtain ⟨read, rest, found, rfl, hfound, hrest, hevents⟩ :=
        ih (sourceScan o set file ⟨comments, groupComments comments⟩).notices
      refine ⟨file :: read, rest, ⟨comments, groupComments comments⟩ :: found, rfl,
        .cons hyields.holds hfound, hrest, ?_⟩
      rw [scan_cons hyields.holds, scan_cons hyields.holds]
      simp only [followedBy, hevents]
    · refine ⟨[], file :: files, [], rfl, .nil, ?_, ?_⟩
      · simpa using ⟨failure, hfails⟩
      · rw [scan_cons_of_fails hfails]
        rfl

end LicenseNotices.RunEvents
