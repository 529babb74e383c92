import LicenseNotices.Proofs.CallChecks
import LicenseNotices.Proofs.RunOutcome

/-!
What a call does to the files. However its paths are spelled, a call that is carried out leads
its output away from all of its sources, and nothing else than the output is ever written. So
whatever the outcome, each source holds the bytes that it held before, and a place at which
something has changed is the one to which the output leads.
-/
namespace LicenseNotices.UntouchedSources

open CallChecks CommandLine OutputFile Results RunOutcome

variable {s : FileStore} {p : Path} {l : Location}

/-- A way that can be followed leads where its names lead. -/
theorem eq_foldl_of_follow {start : Location} {names : List Text}
    (h : s.follow start names = .ok l) : l = names.foldl Path.enter start := by
  induction names generalizing start with
  | nil =>
    cases h
    rfl
  | cons name rest ih =>
    rw [FileStore.follow] at h
    split at h
    · cases h
    · cases h
    · split at h
      · cases h
      · split at h
        · cases h
        · exact ih h

/-- A path that can be followed is resolved to the place to which it leads. -/
theorem resolve_of_locate (h : s.locate p = .ok l) : s.resolve p = .ok l := by
  rw [FileStore.locate] at h
  rw [FileStore.resolve]
  split at h
  · cases h
  · rename_i hnull
    rw [if_neg hnull]
    split at h
    · cases h
    · rw [mapError_eq_ok_iff] at h
      rw [Path.locationFrom, eq_foldl_of_follow h]

section

variable [Surroundings]

/-- A call leaves the files as they were, or it is accepted, all its sources are read, and the
place to which its output leads is written. -/
theorem files_perform (s : FileStore) (a : Arguments) :
    (perform s a).files = s ∨
      ∃ output o l bytes, Accepted s a output o ∧
        (Run.scan s o o.grammar .empty a.files).failure = none ∧
        s.locateFile output = .ok l ∧ (perform s a).files = s.put l bytes := by
  rcases accepted_or_stopped s a with ⟨output, o, haccepted⟩ | ⟨f, log, hperform, -⟩
  · rw [haccepted.perform_eq.1]
    rcases files_ofSources (s := s) (o := o) (g := o.grammar) a.files output with
      hsame | ⟨hread, l, bytes, hl, hput⟩
    · exact .inl hsame
    · exact .inr ⟨output, o, l, bytes, haccepted, hread, hl, hput⟩
  · rw [hperform]
    exact .inl rfl

theorem files_result (c : Call) :
    c.result.files = c.files ∨
      ∃ a, readArguments c.arguments = .ok a ∧ c.result.files = (perform c.files a).files := by
  cases ha : readArguments c.arguments with
  | error stop =>
    refine .inl ?_
    cases stop <;> simp only [Call.result, ha]
  | ok a => exact .inr ⟨a, rfl, (result_of_readArguments ha).1⟩

/-- The output of an accepted call does not lead to a place to which a source of it leads. -/
theorem ne_of_accepted {a : Arguments} {output : Path} {o : Options} {file : Text}
    {place : Location} (h : Accepted s a output o) (hfile : file ∈ a.files)
    (hl : s.locate output = .ok l) (hplace : s.resolve (.ofText file) = .ok place) :
    place ≠ l := by
  obtain ⟨place', l', hplace', hl', hne⟩ := h.apart file hfile
  obtain rfl := Except.ok.inj (hplace.symm.trans hplace')
  obtain rfl := Except.ok.inj ((resolve_of_locate hl).symm.trans hl')
  exact hne

/-- The sources of a call are left as they are. -/
theorem sources_perform {a : Arguments} {file : Text} (hfile : file ∈ a.files) :
    (perform s a).files.read (.ofText file) = s.read (.ofText file) ∧
      ∀ place, s.resolve (.ofText file) = .ok place →
        (perform s a).files.lookup? place = s.lookup? place := by
  rcases files_perform s a with hsame | ⟨output, o, l, bytes, haccepted, hread, hl, hput⟩
  · rw [hsame]
    exact ⟨rfl, fun _ _ => rfl⟩
  · obtain ⟨hlocate, hdirectory, -⟩ := (locateFile_eq_ok_iff s output l).mp hl
    rw [hput]
    constructor
    · obtain ⟨comments, hsource, -, -, -⟩ := (failure_scan_eq_none_iff .empty).mp hread file hfile
      rw [hsource]
      refine read_put_of_ne hdirectory hsource (fun hsame => ?_) bytes
      exact ne_of_accepted haccepted hfile hlocate (resolve_of_locate hsame) rfl
    · intro place hplace
      exact lookup?_put_of_ne (ne_of_accepted haccepted hfile hlocate hplace) bytes

/-- Whatever the outcome of a call, its sources hold what they held before, and nothing has been
created or changed but the file to which its output leads. -/
theorem sources_are_untouched (c : Call) :
    (∀ a, readArguments c.arguments = .ok a → ∀ file ∈ a.files,
      c.result.files.read (.ofText file) = c.files.read (.ofText file) ∧
        ∀ place, c.files.resolve (.ofText file) = .ok place →
          c.result.files.lookup? place = c.files.lookup? place) ∧
    ∀ place, c.result.files.lookup? place ≠ c.files.lookup? place →
      ∃ a output, readArguments c.arguments = .ok a ∧ pathOf a.out = .ok output ∧
        c.files.locate output = .ok place := by
  rcases files_result c with hsame | ⟨a, ha, hfiles⟩
  · rw [hsame]
    exact ⟨fun _ _ _ _ => ⟨rfl, fun _ _ => rfl⟩, fun _ hchanged => absurd rfl hchanged⟩
  · rw [hfiles]
    constructor
    · intro a' ha' file hfile
      obtain rfl := Except.ok.inj (ha.symm.trans ha')
      exact sources_perform hfile
    · intro place hchanged
      rcases files_perform c.files a with hsame | ⟨output, o, l, bytes, haccepted, -, hl, hput⟩
      · exact absurd (by rw [hsame]) hchanged
      · obtain rfl : place = l := by
          by_contra hne
          rw [hput] at hchanged
          exact hchanged (lookup?_put_of_ne hne bytes)
        exact ⟨a, output, ha, haccepted.output_eq, ((locateFile_eq_ok_iff _ _ _).mp hl).1⟩

end

/-- A call whose paths go through a directory and back. -/
def roundaboutCall : Call where
  arguments :=
    ["-p", "MIT", "-e", "us-ascii", "-g", "c-style", "-o", "d/../o", "a", ".//d/../b"].map
      String.toList
  files := { sampleFiles with
    entry? := fun l => if l = [['d']] then some .directory else sampleFiles.entry? l }

section

attribute [local instance] referenceSurroundings

theorem roundabout_sources_are_untouched :
    roundaboutCall.result.files.read (.ofText ".//d/../b".toList) =
        roundaboutCall.files.read (.ofText ".//d/../b".toList) ∧
      roundaboutCall.result.files.lookup? [['o']] ≠ roundaboutCall.files.lookup? [['o']] ∧
      ∃ a output, readArguments roundaboutCall.arguments = .ok a ∧ pathOf a.out = .ok output ∧
        roundaboutCall.files.locate output = .ok [['o']] := by
  have hread : (readArguments roundaboutCall.arguments).toOption.map Arguments.files =
      some ["a".toList, ".//d/../b".toList] := by decide +kernel
  have hwritten : roundaboutCall.result.files.lookup? [['o']] ≠
      roundaboutCall.files.lookup? [['o']] := by decide +kernel
  obtain ⟨a, ha, hfiles⟩ := exists_ok_of_toOption hread
  obtain ⟨huntouched, hplace⟩ := sources_are_untouched roundaboutCall
  refine ⟨(huntouched a ha _ ?_).1, hwritten, hplace _ hwritten⟩
  rw [hfiles]
  simp

end

end LicenseNotices.UntouchedSources
