import LicenseNotices.CommandLine.Command
import LicenseNotices.Proofs.OptionFailures

/-!
What stands between the arguments of a call and its run. There have to be sources, the output
must not lead to one of them, a configuration that is asked for has to be there, and the
configuration and the settings of the call have to be valid. A call that passes all this is
run with the options that it makes; any other ends before a file is written, either with the
status of a call that cannot be right or in a fault.
-/
namespace LicenseNotices.CallChecks

open CommandLine OptionFailures Results

section

variable [CharacterNames] [NestingLimits]

/-- What is wrong with a call that is not carried out. -/
inductive Objection (s : FileStore) (a : Arguments) : Prop
  | noSources (hfiles : a.files = [])
  | outputIsSource {output : Path} {file : Text} {l : Location}
      (houtput : pathOf a.out = .ok output) (hfile : file ∈ a.files)
      (hsource : s.resolve (.ofText file) = .ok l) (hsame : s.resolve output = .ok l)
  | missingConfiguration {t : Text} (hconfig : a.config = .text t)
      (hmissing : s.contains (.ofText t) = .ok false)
  | invalidConfiguration {named : Option Path} {p : Path} {f : Failure}
      (hnamed : configPath a.config = .ok named)
      (hlocate : Configuration.locate s s.current named = .ok (some p))
      (hload : Configuration.loadFile s p = .error f)
  | invalidSettings {f : Failure} (hmake : Options.default.make (settingsOf a) = .error f)

/-- The options that a configuration gives. -/
inductive Loads (s : FileStore) (named : Option Path) : Options → Prop
  | default (hlocate : Configuration.locate s s.current named = .ok none) :
      Loads s named Options.default
  | file {p : Path} {o : Options}
      (hlocate : Configuration.locate s s.current named = .ok (some p))
      (hload : Configuration.loadFile s p = .ok o) : Loads s named o

/-- A call that is to write to `output` and has made the options `o`. -/
structure Accepted (s : FileStore) (a : Arguments) (output : Path) (o : Options) : Prop where
  files_ne_nil : a.files ≠ []
  output_eq : pathOf a.out = .ok output
  apart : ∀ file ∈ a.files, ∃ l k, s.resolve (.ofText file) = .ok l ∧ s.resolve output = .ok k ∧
    l ≠ k
  options : ∃ named base, configPath a.config = .ok named ∧ Loads s named base ∧
    base.make (settingsOf a) = .ok o

end

/-- A failure that no call shows. -/
def IsFault (f : CommandFailure) : Prop := ∃ fault, f = .failure (.fault fault)

theorem isSource_cons {s : FileStore} {output : Path} {file : Text} {l k : Location}
    (hl : s.resolve (.ofText file) = .ok l) (hk : s.resolve output = .ok k) (rest : List Text) :
    isSource s output (file :: rest) = if l = k then .ok true else isSource s output rest := by
  simp only [isSource, hl, hk, mapError_ok, ok_bind]
  rfl

/-- The output is found to be a source, or to lead away from all sources, or a path cannot be
followed. -/
theorem isSource_cases (s : FileStore) (output : Path) (files : List Text) :
    (isSource s output files = .ok true ∧ ∃ file ∈ files, ∃ l,
      s.resolve (.ofText file) = .ok l ∧ s.resolve output = .ok l) ∨
    (isSource s output files = .ok false ∧ ∀ file ∈ files, ∃ l k,
      s.resolve (.ofText file) = .ok l ∧ s.resolve output = .ok k ∧ l ≠ k) ∨
    isSource s output files = .error Run.nullCharacter := by
  induction files with
  | nil => exact .inr (.inl ⟨rfl, by simp⟩)
  | cons file rest ih =>
    cases hl : s.resolve (.ofText file) with
    | error fault =>
      refine .inr (.inr ?_)
      simp only [isSource, hl, mapError_error, error_bind]
    | ok l =>
      cases hk : s.resolve output with
      | error fault =>
        refine .inr (.inr ?_)
        simp only [isSource, hl, hk, mapError_ok, mapError_error, ok_bind, error_bind]
      | ok k =>
        rw [isSource_cons hl hk]
        split
        · rename_i heq
          exact .inl ⟨rfl, file, by simp, l, hl, heq ▸ rfl⟩
        · rename_i hne
          rcases ih with ⟨hok, other, hother, hsame⟩ | ⟨hok, hapart⟩ | herror
          · exact .inl ⟨hok, other, List.mem_cons_of_mem file hother, hk ▸ hsame⟩
          · exact .inr (.inl ⟨hok, List.forall_mem_cons.mpr ⟨⟨l, k, hl, rfl, hne⟩, hk ▸ hapart⟩⟩)
          · exact .inr (.inr herror)

theorem isSource_of_apart {s : FileStore} {output : Path} {files : List Text}
    (h : ∀ file ∈ files, ∃ l k, s.resolve (.ofText file) = .ok l ∧ s.resolve output = .ok k ∧
      l ≠ k) : isSource s output files = .ok false := by
  induction files with
  | nil => rfl
  | cons file rest ih =>
    obtain ⟨⟨l, k, hl, hk, hne⟩, hrest⟩ := List.forall_mem_cons.mp h
    rw [isSource_cons hl hk, if_neg hne]
    exact ih hrest

theorem exists_fault_of_pathOf {v : Document.Value} {f : Failure} (h : pathOf v = .error f) :
    ∃ fault, f = .fault fault := by
  cases v <;> cases h <;> exact ⟨_, rfl⟩

theorem exists_fault_of_configPath {v : Document.Value} {f : Failure}
    (h : configPath v = .error f) : ∃ fault, f = .fault fault := by
  cases v <;> cases h <;> exact ⟨_, rfl⟩

theorem eq_text_of_configPath {v : Document.Value} {p : Path} (h : configPath v = .ok (some p)) :
    ∃ t, v = .text t ∧ p = .ofText t := by
  cases v with
  | text t =>
    cases h
    exact ⟨t, rfl, rfl⟩
  | _ => cases h

theorem isThere_eq_error {s : FileStore} {p : Path} {f : Failure}
    (h : Configuration.isThere s p = .error f) : ∃ fault, f = .fault fault := by
  obtain ⟨fault, -, rfl⟩ := (mapError_eq_error_iff _ _ _).mp h
  exact ⟨_, rfl⟩

theorem firstOf_eq_error {s : FileStore} {ps : List Path} {f : Failure}
    (h : Configuration.firstOf s ps = .error f) : ∃ fault, f = .fault fault := by
  induction ps with
  | nil => cases h
  | cons p rest ih =>
    rcases (bind_eq_error_iff _ _ _).mp h with h | ⟨found, -, h⟩
    · exact isThere_eq_error h
    · split at h
      · cases h
      · exact ih h

/-- A configuration is not found when a path cannot be followed, or when it is named and there is
none. -/
theorem locate_eq_error {s : FileStore} {l : Location} {named : Option Path} {f : Failure}
    (h : Configuration.locate s l named = .error f) :
    (∃ fault, f = .fault fault) ∨
      ∃ p d, named = some p ∧ s.contains p = .ok false ∧ f = .diagnostic d ∧
        d.kind = .configuration := by
  cases named with
  | none => exact .inl (firstOf_eq_error h)
  | some p =>
    rcases (bind_eq_error_iff _ _ _).mp h with h | ⟨found, hfound, h⟩
    · exact .inl (isThere_eq_error h)
    · split at h
      · cases h
      · rename_i hmissing
        cases h
        obtain rfl : found = false := by simpa using hmissing
        exact .inr ⟨p, _, rfl, (mapError_eq_ok_iff _ _ _).mp hfound, rfl, rfl⟩

theorem locate_of_missing {s : FileStore} {p : Path} (h : s.contains p = .ok false)
    (l : Location) : ∃ f, Configuration.locate s l (some p) = .error f := by
  simp only [Configuration.locate, Configuration.isThere, h, mapError_ok, ok_bind,
    Bool.false_eq_true, if_false]
  exact ⟨_, rfl⟩

section

variable [CharacterNames] [NestingLimits]

/-- Settings of any kind are made into options, or what is wrong is a mistake in the configuration
or a fault. -/
theorem ends_make_of_any (base : Options) (settings : Settings) :
    Ends (fun _ => True) (base.make settings) := by
  rw [make_eq_bind]
  refine Ends.bind ?_ fun _ _ => Ends.bind ?_ fun _ _ => Ends.bind ?_ fun _ _ => .ok _
  · cases settings.patterns with
    | none => exact .ok base.patterns
    | some sources =>
      refine Ends.bind (Ends.mapM fun source _ => ?_) fun patterns _ => ?_
      · cases source with
        | text t => exact (ends_compile t).imp fun _ _ => trivial
        | pattern p => exact .ok p
        | atom name => exact .fault trivial
        | container name => exact .fault trivial
      · split
        · exact .reported rfl
        · exact .ok patterns
  · split
    · cases settings.encoding with
      | text t => exact (ends_encodingName t).imp fun _ _ => trivial
      | _ => exact .fault trivial
    · exact .ok base.encoding
  · split
    · rw [Grammar.ofValue.eq_def settings.grammar]
      split
      · exact .ok _
      · exact .reported rfl
    · exact .ok base.grammar

/-- What is wrong with settings does not depend on the options that they change. -/
theorem failAlike_make (base other : Options) (settings : Settings) :
    FailAlike (base.make settings) (other.make settings) := by
  rw [make_eq_bind, make_eq_bind]
  refine .bind ?_ fun _ _ => .bind ?_ fun _ _ => .bind ?_ fun _ _ => .ok _ _
  · cases settings.patterns with
    | none => exact .ok _ _
    | some sources => exact .refl _
  · split
    · exact .refl _
    · exact .ok _ _
  · split
    · exact .refl _
    · exact .ok _ _

/-- A failure that stops a call before its run. -/
def Stops (s : FileStore) (a : Arguments) (f : CommandFailure) : Prop :=
  IsFault f ∨ Objection s a ∧ f.status = CommandFailure.callStatus

theorem stops_of_ends {α : Type} {s : FileStore} {a : Arguments} {P : Fault → Prop}
    {x : Except Failure α} {f : Failure} (hends : Ends P x) (hx : x = .error f)
    (hobjection : Objection s a) : Stops s a (.failure f) := by
  subst hx
  cases hends with
  | reported hkind => exact .inr ⟨hobjection, by simp [CommandFailure.status, hkind]⟩
  | fault h => exact .inl ⟨_, rfl⟩

theorem checkedOutput_cases (s : FileStore) (a : Arguments) :
    (∃ output, checkedOutput s a = .ok output ∧ a.files ≠ [] ∧ pathOf a.out = .ok output ∧
      ∀ file ∈ a.files, ∃ l k, s.resolve (.ofText file) = .ok l ∧ s.resolve output = .ok k ∧
        l ≠ k) ∨
    ∃ f, checkedOutput s a = .error f ∧ Stops s a f := by
  rw [checkedOutput]
  by_cases hfiles : a.files = []
  · refine .inr ⟨.refusal noSources, ?_, .inr ⟨.noSources hfiles, rfl⟩⟩
    simp only [hfiles, List.isEmpty_nil, if_true]
    rfl
  simp only [List.isEmpty_iff, hfiles, if_false]
  cases hout : pathOf a.out with
  | error f =>
    obtain ⟨fault, rfl⟩ := exists_fault_of_pathOf hout
    exact .inr ⟨_, rfl, .inl ⟨fault, rfl⟩⟩
  | ok output =>
    rcases isSource_cases s output a.files with
      ⟨hsource, file, hfile, l, hl, hsame⟩ | ⟨hsource, hapart⟩ | hnull
    · refine .inr ⟨.refusal (outputIsSource output), ?_,
        .inr ⟨.outputIsSource hout hfile hl hsame, rfl⟩⟩
      simp only [mapError_ok, ok_bind, hsource, if_true]
      rfl
    · refine .inl ⟨output, ?_, hfiles, rfl, hapart⟩
      simp only [mapError_ok, ok_bind, hsource, Bool.false_eq_true, if_false]
      rfl
    · refine .inr ⟨.failure Run.nullCharacter, ?_, .inl ⟨_, rfl⟩⟩
      simp only [mapError_ok, mapError_error, ok_bind, error_bind, hnull]

theorem load_eq (s : FileStore) (named : Option Path) :
    Configuration.load s {} named =
      match Configuration.locate s s.current named with
      | .error f => { options := .error f }
      | .ok none => { options := .ok none }
      | .ok (some p) =>
          { log := [Configuration.loadingEntry p],
            options := (Configuration.loadFile s p).map some } := rfl

/-- The options of a configuration are loaded, or the call is stopped. -/
theorem load_cases {s : FileStore} {a : Arguments} {named : Option Path}
    (hnamed : configPath a.config = .ok named) :
    (∃ loaded, (Configuration.load s {} named).options = .ok loaded ∧
      Loads s named (loaded.getD .default)) ∨
    ∃ f, (Configuration.load s {} named).options = .error f ∧ Stops s a (.failure f) := by
  rw [load_eq]
  cases hlocate : Configuration.locate s s.current named with
  | error f =>
    refine .inr ⟨f, rfl, ?_⟩
    rcases locate_eq_error hlocate with ⟨fault, rfl⟩ | ⟨p, d, rfl, hmissing, rfl, hkind⟩
    · exact .inl ⟨fault, rfl⟩
    · obtain ⟨t, hconfig, rfl⟩ := eq_text_of_configPath hnamed
      exact .inr ⟨.missingConfiguration hconfig hmissing, by simp [CommandFailure.status, hkind]⟩
  | ok found =>
    cases found with
    | none => exact .inl ⟨none, rfl, .default hlocate⟩
    | some p =>
      dsimp only
      cases hload : Configuration.loadFile s p with
      | ok o => exact .inl ⟨some o, rfl, .file hlocate hload⟩
      | error f =>
        exact .inr ⟨f, rfl, stops_of_ends (ends_loadFile s p) hload
          (.invalidConfiguration hnamed hlocate hload)⟩

theorem Loads.exists_loaded {s : FileStore} {named : Option Path} {base : Options}
    (h : Loads s named base) :
    ∃ loaded, (Configuration.load s {} named).options = .ok loaded ∧
      loaded.getD .default = base := by
  rw [load_eq]
  cases h with
  | default hlocate =>
    rw [hlocate]
    exact ⟨none, rfl, rfl⟩
  | file hlocate hload =>
    rw [hlocate]
    dsimp only
    rw [hload]
    exact ⟨some base, rfl, rfl⟩

theorem Accepted.checkedOutput_eq {s : FileStore} {a : Arguments} {output : Path} {o : Options}
    (h : Accepted s a output o) : checkedOutput s a = .ok output := by
  simp only [checkedOutput, List.isEmpty_iff, h.files_ne_nil, if_false, h.output_eq, mapError_ok,
    ok_bind, isSource_of_apart h.apart, Bool.false_eq_true]
  rfl

/-- Nothing is wrong with a call that is accepted. -/
theorem Accepted.not_objection {s : FileStore} {a : Arguments} {output : Path} {o : Options}
    (h : Accepted s a output o) : ¬ Objection s a := by
  obtain ⟨hfiles, hout, hapart, named, base, hnamed, hloads, hmake⟩ := h
  intro hobjection
  cases hobjection with
  | noSources hnone => exact hfiles hnone
  | outputIsSource hout' hfile hl hsame =>
    obtain rfl := Except.ok.inj (hout.symm.trans hout')
    obtain ⟨l, k, hl', hk, hne⟩ := hapart _ hfile
    exact hne (Except.ok.inj ((hl'.symm.trans hl).trans (hsame.symm.trans hk)))
  | missingConfiguration hconfig hmissing =>
    rw [hconfig] at hnamed
    cases hnamed
    obtain ⟨f, herror⟩ := locate_of_missing hmissing s.current
    cases hloads with
    | default hlocate => cases herror.symm.trans hlocate
    | file hlocate hload => cases herror.symm.trans hlocate
  | invalidConfiguration hnamed' hlocate' hload' =>
    obtain rfl := Except.ok.inj (hnamed.symm.trans hnamed')
    cases hloads with
    | default hlocate => cases hlocate.symm.trans hlocate'
    | file hlocate hload =>
      cases hlocate.symm.trans hlocate'
      cases hload.symm.trans hload'
  | invalidSettings hbad =>
    have herror := (failAlike_make .default base _).eq_error hbad
    cases hmake.symm.trans herror

end

section

variable [Surroundings]

/-- A call is accepted, or it is stopped before a file is changed or anything is reported. -/
theorem accepted_or_stopped (s : FileStore) (a : Arguments) :
    (∃ output o, Accepted s a output o) ∨
      ∃ f log, perform s a = { files := s, log, failure := some f } ∧ Stops s a f := by
  rw [perform]
  rcases checkedOutput_cases s a with
    ⟨output, hchecked, hfiles, hout, hapart⟩ | ⟨f, hchecked, hstops⟩
  swap
  · exact .inr ⟨f, [], by rw [hchecked], hstops⟩
  cases hnamed : configPath a.config with
  | error f =>
    obtain ⟨fault, rfl⟩ := exists_fault_of_configPath hnamed
    exact .inr ⟨_, [], by rw [hchecked], .inl ⟨fault, rfl⟩⟩
  | ok named =>
    simp only [hchecked]
    rcases load_cases (s := s) hnamed with ⟨loaded, hload, hloads⟩ | ⟨f, hload, hstops⟩
    swap
    · rw [hload]
      exact .inr ⟨.failure f, _, rfl, hstops⟩
    rw [hload]
    cases hmake : (loaded.getD .default).override (settingsOf a) with
    | error f =>
      refine .inr ⟨.failure f, (Configuration.load s {} named).log, ?_, ?_⟩
      · simp only [Except.bind, hmake]
      · rw [Options.override_eq_make] at hmake
        have hdefault := (failAlike_make _ .default _).eq_error hmake
        exact stops_of_ends (ends_make_of_any _ _) hdefault (.invalidSettings hdefault)
    | ok o =>
      rw [Options.override_eq_make] at hmake
      exact .inl ⟨output, o, hfiles, hout, hapart, named, _, hnamed, hloads, hmake⟩

/-- A call that is accepted does what its run does. -/
theorem Accepted.perform_eq {s : FileStore} {a : Arguments} {output : Path} {o : Options}
    (h : Accepted s a output o) :
    (perform s a).files = (Run.start s o a.files output).files ∧
      (perform s a).report = (Run.start s o a.files output).report ∧
      (perform s a).failure = match (Run.start s o a.files output).outcome with
        | .ok _ => none
        | .error f => some (.failure f) := by
  obtain ⟨named, base, hnamed, hloads, hmake⟩ := h.options
  obtain ⟨loaded, hload, rfl⟩ := hloads.exists_loaded
  rw [← Options.override_eq_make] at hmake
  cases houtcome : (Run.start s o a.files output).outcome <;>
    simp only [perform, h.checkedOutput_eq, hnamed, hload, Except.bind, hmake, houtcome, and_self]

/-- What a call does whose arguments can be read, and how it ends. -/
theorem result_of_readArguments {c : Call} {a : Arguments}
    (ha : readArguments c.arguments = .ok a) :
    c.result.files = (perform c.files a).files ∧
      c.result.report = (perform c.files a).report ∧ c.result.notice = "" ∧
      c.result.ending = match (perform c.files a).failure with
        | none => .exited 0
        | some f =>
            if isPassedOn (Switches.ofVariables c.environment a.verbose) f then .raised f
            else .exited f.status := by
  simp only [Call.result, ha]
  cases (perform c.files a).failure with
  | none => exact ⟨rfl, rfl, rfl, rfl⟩
  | some f =>
    dsimp only
    split <;> exact ⟨rfl, rfl, rfl, rfl⟩

end

end LicenseNotices.CallChecks
