import LicenseNotices.Proofs.CallChecks
import LicenseNotices.Proofs.RunFailures
import LicenseNotices.Proofs.SourceLists

/-!
How far a call gets, and how its status tells. A call whose arguments cannot be read or that is
wrong in itself ends before anything is done. A call that passes all checks is run, and its run
ends at a source, at the output, or with the output written. Each of these three stages has a
status of its own, and what is printed shows how far the run has got.
-/
namespace LicenseNotices.ExitStatus

open CallChecks CommandLine OutputFile Results RunEvents RunFailures RunOutcome SourceContents
  SourceLists

theorem status_of_accessFailure {p : Path} (fault : ReadFault) :
    (CommandFailure.failure (Run.accessFailure p fault)).status = CommandFailure.runStatus := by
  rw [Run.accessFailure.eq_def]
  split
  · rfl
  · split <;> rfl
  · split <;> rfl

section

variable [Console]

/-- What is printed when a run with the options `o` starts. -/
def startText (o : Options) : Text :=
  printedMessages (ReportEntry.startMessages o.patterns o.encoding.spelling)

/-- What is printed for events, one message each. -/
def eventText (events : List MatchEvent) : Text :=
  events.flatMap fun e => Console.printed (ReportEntry.matchMessage e)

/-- What is printed at the end of a run that has written so many texts. -/
def finishText (output : Path) (count : ℕ) (elapsed : Text) : Text :=
  printedMessages (ReportEntry.finishMessages output count elapsed)

theorem printedReport_append (elapsed : Text) (report more : List ReportEntry) :
    printedReport elapsed (report ++ more) =
      printedReport elapsed report ++ printedReport elapsed more :=
  List.flatMap_append

theorem printedReport_matched (elapsed : Text) (events : List MatchEvent) :
    printedReport elapsed (events.map .matched) = eventText events := by
  simp [printedReport, eventText, printedMessages, ReportEntry.messages, List.flatMap_map]

/-- What a run prints: its start, a message for each of its events and, if it ends well, the
number of its texts. -/
theorem printedReport_ofSources [Encoding.Codecs] [JavaScript.Parser] {s : FileStore}
    {o : Options} {output : Path} (elapsed : Text) (g : Grammar) (files : List Text) :
    printedReport elapsed (Run.ofSources s o g files output).report =
      startText o ++ eventText (Run.scan s o g .empty files).events ++
        match (Run.ofSources s o g files output).outcome with
        | .ok summary => finishText summary.output summary.count elapsed
        | .error _ => [] := by
  rw [report_ofSources, printedReport_append, ← printedReport_matched elapsed]
  cases (Run.ofSources s o g files output).outcome with
  | ok summary => simp [printedReport, startText, finishText, ReportEntry.messages]
  | error f => simp [printedReport, startText, ReportEntry.messages]

end

section

variable [Surroundings] {s : FileStore} {o : Options} {files : List Text} {output : Path}

/-- The arguments of a call cannot be read, or there is something wrong with what they ask for. -/
def Rejected (c : Call) : Prop :=
  (∃ f, readArguments c.arguments = .error (.fault f)) ∨
    ∃ a, readArguments c.arguments = .ok a ∧ Objection c.files a

/-- A call that passes all checks and runs with the options `o`. -/
structure Runs (c : Call) (a : Arguments) (output : Path) (o : Options) : Prop where
  arguments_eq : readArguments c.arguments = .ok a
  accepted : Accepted c.files a output o

/-- A source cannot be read or parsed. -/
def FailsAtSource (s : FileStore) (o : Options) (files : List Text) : Prop :=
  ∃ file ∈ files, ∀ comments, ¬ Yields s o o.grammar file comments

/-- All sources are read, but the texts of their notices cannot be written. -/
def FailsAtOutput (s : FileStore) (o : Options) (files : List Text) (output : Path) : Prop :=
  ∃ texts, Collects s o o.grammar files texts ∧
    ¬ CanWrite s o.encoding output (Text.join ['\n', '\n'] texts)

/-- The texts of the notices of all sources can be stored, and they stand in the output. -/
def HasWritten (c : Call) (o : Options) (files : List Text) (output : Path) (texts : List Text) :
    Prop :=
  Collects c.files o o.grammar files texts ∧
    CanWrite c.files o.encoding output (Text.join ['\n', '\n'] texts) ∧ ∃ encoding bytes,
      o.encoding.encoding? = some encoding ∧
      encoding.encode (Text.join ['\n', '\n'] texts) = .ok bytes ∧
      c.result.files.stored? output = some bytes

theorem status_of_fails {g : Grammar} {file : Text} {f : Failure} (h : Fails s o g file f) :
    (CommandFailure.failure f).status = CommandFailure.runStatus := by
  cases h with
  | unopened => exact status_of_accessFailure _
  | notText => rfl
  | broken => exact status_of_accessFailure _
  | @undecodable bytes encoding e hread hname hdecode => cases e <;> rfl
  | @unparseable bytes encoding source e => cases e <;> rfl

theorem status_of_writeOutput {name : EncodingName} {t : Text} {after : FileStore} {f : Failure}
    (h : Run.writeOutput s name output t = (after, .error f)) :
    (CommandFailure.failure f).status = CommandFailure.runStatus := by
  have hwritten := written_writeOutput s name output t
  rw [h] at hwritten
  cases hwritten <;> rfl

/-- Whatever makes a run fail, it is the status of a run that is returned. -/
theorem status_of_outcome {f : Failure} (h : (Run.start s o files output).outcome = .error f) :
    (CommandFailure.failure f).status = CommandFailure.runStatus := by
  rcases ofSources_of_error h with hscan | ⟨after, hwrite⟩
  · obtain ⟨file, -, hfails⟩ := exists_fails hscan
    exact status_of_fails hfails
  · exact status_of_writeOutput hwrite

theorem FailsAtSource.not_collects (h : FailsAtSource s o files) (texts : List Text) :
    ¬ Collects s o o.grammar files texts := by
  intro hcollects
  obtain ⟨file, hfile, hno⟩ := h
  obtain ⟨comments, hyields⟩ :=
    (failure_scan_eq_none_iff .empty).mp ((collects_iff files texts).mp hcollects).1 file hfile
  exact hno comments hyields

/-- A run ends well when all its sources are read and their texts can be written, and only
then. -/
theorem exists_ok_iff (s : FileStore) (o : Options) (files : List Text) (output : Path) :
    (∃ summary, (Run.start s o files output).outcome = .ok summary) ↔
      ∃ texts, Collects s o o.grammar files texts ∧
        CanWrite s o.encoding output (Text.join ['\n', '\n'] texts) := by
  constructor
  · rintro ⟨summary, hok⟩
    obtain ⟨hscan, hwrite, -⟩ := ofSources_of_ok hok
    obtain ⟨l, encoding, bytes, hl, hname, hencode, hstore, -⟩ :=
      (writeOutput_ok_iff _ _ _ _ _).mp hwrite
    exact ⟨_, collects_scan hscan, l, encoding, bytes, hl, hname, hencode, hstore⟩
  · rintro ⟨texts, hcollects, hwrite⟩
    exact ⟨_, (writes_of_collects hcollects hwrite).outcome_eq⟩

/-- A run fails when one of its sources or its output does, and only then. -/
theorem exists_error_iff (s : FileStore) (o : Options) (files : List Text) (output : Path) :
    (∃ f, (Run.start s o files output).outcome = .error f) ↔
      FailsAtSource s o files ∨ FailsAtOutput s o files output := by
  cases houtcome : (Run.start s o files output).outcome with
  | ok summary =>
    obtain ⟨texts, hcollects, hwrite⟩ := (exists_ok_iff s o files output).mp ⟨summary, houtcome⟩
    constructor
    · rintro ⟨f, hf⟩
      cases hf
    · rintro (hsource | ⟨others, hothers, hno⟩)
      · exact absurd hcollects (hsource.not_collects texts)
      · exact absurd (hcollects.unique hothers ▸ hwrite) hno
  | error f =>
    refine iff_of_true ⟨f, rfl⟩ ?_
    by_cases hsource : FailsAtSource s o files
    · exact .inl hsource
    · have hread : ∀ file ∈ files, ∃ comments, Yields s o o.grammar file comments := by
        simpa [FailsAtSource] using hsource
      have hcollects := collects_scan ((failure_scan_eq_none_iff .empty).mpr hread)
      refine .inr ⟨_, hcollects, fun hwrite => ?_⟩
      rw [(writes_of_collects hcollects hwrite).outcome_eq] at houtcome
      cases houtcome

theorem printedReport_start (elapsed : Text) (files : List Text) :
    printedReport elapsed (Run.start s o files output).report =
      startText o ++ eventText (events s o files output) ++
        match (Run.start s o files output).outcome with
        | .ok summary => finishText summary.output summary.count elapsed
        | .error _ => [] := by
  rw [events_eq]
  exact printedReport_ofSources elapsed o.grammar files

/-- The sources that are read: all of them, or those in front of the first that fails. -/
def AreRead (s : FileStore) (o : Options) (files read : List Text) : Prop :=
  (∀ file ∈ read, ∃ comments, Yields s o o.grammar file comments) ∧
    ∃ rest, files = read ++ rest ∧
      ∀ bad ∈ rest.head?, ∀ comments, ¬ Yields s o o.grammar bad comments

theorem exists_areRead (s : FileStore) (o : Options) (files : List Text) (output : Path) :
    ∃ read, AreRead s o files read ∧ events s o files output = events s o read output := by
  obtain ⟨read, rest, found, rfl, hfound, hrest, hevents⟩ :=
    exists_read s o o.grammar files .empty
  refine ⟨read, ⟨(failure_scan_eq_none_iff .empty).mp (failure_scan hfound .empty), rest, rfl,
    fun bad hbad comments => ?_⟩, ?_⟩
  · obtain ⟨f, hfails⟩ := hrest bad hbad
    exact hfails.not_yields comments
  · rw [events_eq, events_eq, hevents]

variable {c : Call} {a : Arguments}

theorem Runs.not_rejected (h : Runs c a output o) : ¬ Rejected c := by
  rintro (⟨f, hf⟩ | ⟨b, hb, hobjection⟩)
  · cases h.arguments_eq.symm.trans hf
  · obtain rfl := Except.ok.inj (h.arguments_eq.symm.trans hb)
    exact h.accepted.not_objection hobjection

theorem Runs.printed_eq (h : Runs c a output o) (elapsed : Text) :
    c.result.printed elapsed = startText o ++ eventText (events c.files o a.files output) ++
      match (Run.start c.files o a.files output).outcome with
      | .ok summary => finishText summary.output summary.count elapsed
      | .error _ => [] := by
  obtain ⟨-, hreport, hnotice, -⟩ := result_of_readArguments h.arguments_eq
  rw [CallResult.printed, hreport, hnotice, h.accepted.perform_eq.2.1, printedReport_start]
  rfl

theorem Runs.files_eq (h : Runs c a output o) :
    c.result.files = (Run.start c.files o a.files output).files := by
  rw [(result_of_readArguments h.arguments_eq).1, h.accepted.perform_eq.1]

/-- The status of a call that runs is that of its run. -/
theorem Runs.status_eq (h : Runs c a output o) {status : ℕ}
    (hending : c.result.ending = .exited status) :
    status = match (Run.start c.files o a.files output).outcome with
      | .ok _ => 0
      | .error _ => CommandFailure.runStatus := by
  obtain ⟨-, -, -, heq⟩ := result_of_readArguments h.arguments_eq
  rw [hending, h.accepted.perform_eq.2.2] at heq
  cases houtcome : (Run.start c.files o a.files output).outcome with
  | ok summary =>
    rw [houtcome] at heq
    cases heq
    rfl
  | error f =>
    rw [houtcome] at heq
    dsimp only at heq
    split at heq
    · cases heq
    · cases heq
      exact status_of_outcome houtcome

theorem Runs.status_eq_one_iff (h : Runs c a output o) {status : ℕ}
    (hending : c.result.ending = .exited status) :
    status = 1 ↔ FailsAtSource c.files o a.files ∨ FailsAtOutput c.files o a.files output := by
  rw [← exists_error_iff, h.status_eq hending]
  cases (Run.start c.files o a.files output).outcome with
  | ok summary => simp
  | error f => simp [CommandFailure.runStatus]

/-- The bytes of the texts stand in the output of a run that has ended well, and of no other. -/
theorem Runs.exists_hasWritten_iff (h : Runs c a output o) :
    (∃ texts, HasWritten c o a.files output texts) ↔
      ∃ summary, (Run.start c.files o a.files output).outcome = .ok summary := by
  constructor
  · rintro ⟨texts, hcollects, hwrite, -⟩
    exact (exists_ok_iff _ _ _ _).mpr ⟨texts, hcollects, hwrite⟩
  · intro hok
    obtain ⟨texts, hcollects, hwrite⟩ := (exists_ok_iff _ _ _ _).mp hok
    obtain ⟨encoding, bytes, hname, hencode, hstored⟩ :=
      (writes_of_collects hcollects hwrite).written
    exact ⟨texts, hcollects, hwrite, encoding, bytes, hname, hencode, h.files_eq ▸ hstored⟩

theorem Runs.status_eq_zero_iff (h : Runs c a output o) {status : ℕ}
    (hending : c.result.ending = .exited status) :
    status = 0 ↔ ∃ texts, HasWritten c o a.files output texts := by
  rw [h.exists_hasWritten_iff, h.status_eq hending]
  cases (Run.start c.files o a.files output).outcome with
  | ok summary => simp
  | error f => simp [CommandFailure.runStatus]

theorem Runs.status_lt_two (h : Runs c a output o) {status : ℕ}
    (hending : c.result.ending = .exited status) : status < 2 := by
  rw [h.status_eq hending]
  split <;> decide

/-- What is printed for a run that failed: its start and the events of the sources that it has
read. -/
theorem Runs.printed_of_failed (h : Runs c a output o)
    (hfailed : ∃ f, (Run.start c.files o a.files output).outcome = .error f) :
    ∃ read, AreRead c.files o a.files read ∧ ∀ elapsed,
      c.result.printed elapsed = startText o ++ eventText (events c.files o read output) := by
  obtain ⟨f, hf⟩ := hfailed
  obtain ⟨read, hread, hevents⟩ := exists_areRead c.files o a.files output
  refine ⟨read, hread, fun elapsed => ?_⟩
  rw [h.printed_eq, hf, hevents, List.append_nil]

/-- What is printed for a run that has written its output ends with the number of its texts. -/
theorem Runs.printed_of_hasWritten (h : Runs c a output o) {texts : List Text}
    (hwritten : HasWritten c o a.files output texts) (elapsed : Text) :
    c.result.printed elapsed = startText o ++ eventText (events c.files o a.files output) ++
      finishText output texts.length elapsed := by
  obtain ⟨summary, hok⟩ := h.exists_hasWritten_iff.mp ⟨texts, hwritten⟩
  obtain ⟨others, hothers, hwrite⟩ := (exists_ok_iff _ _ _ _).mp ⟨summary, hok⟩
  obtain rfl := hwritten.1.unique hothers
  rw [h.printed_eq, (writes_of_collects hothers hwrite).outcome_eq]

/-- A call that ends with a status runs, or it has been rejected and has done nothing. -/
theorem rejected_or_runs {status : ℕ} (hhelp : readArguments c.arguments ≠ .error .help)
    (hversion : readArguments c.arguments ≠ .error .version)
    (hending : c.result.ending = .exited status) :
    (∃ a output o, Runs c a output o) ∨
      Rejected c ∧ status = 2 ∧ c.result.files = c.files ∧
        ∀ elapsed, c.result.printed elapsed = [] := by
  cases ha : readArguments c.arguments with
  | error stop =>
    cases stop with
    | help => exact absurd ha hhelp
    | version => exact absurd ha hversion
    | fault f =>
      have hresult : c.result =
          { files := c.files, written := f.text, ending := .exited CommandFailure.callStatus } := by
        simp only [Call.result, ha]
      rw [hresult] at hending ⊢
      cases hending
      exact .inr ⟨.inl ⟨f, ha⟩, rfl, rfl, fun _ => rfl⟩
  | ok a =>
    rcases accepted_or_stopped c.files a with ⟨output, o, haccepted⟩ | ⟨f, log, hperform, hstops⟩
    · exact .inl ⟨a, output, o, ha, haccepted⟩
    · obtain ⟨hfiles, hreport, hnotice, heq⟩ := result_of_readArguments ha
      rw [hperform] at hfiles hreport heq
      rw [hending] at heq
      dsimp only at heq
      rcases hstops with ⟨fault, rfl⟩ | ⟨hobjection, hstatus⟩
      · cases heq
      · split at heq
        · cases heq
        · cases heq
          refine .inr ⟨.inr ⟨a, ha, hobjection⟩, hstatus, hfiles, fun elapsed => ?_⟩
          rw [CallResult.printed, hnotice, hreport]
          rfl

/-- Only faults are passed on when nothing else is asked for. -/
theorem isFault_of_raised {f : CommandFailure}
    (hreraise : isSet c.environment "SAVE_LICENSE_RERAISE" = false)
    (hdebug : isSet c.environment "SAVE_LICENSE_DEBUG" = false)
    (hending : c.result.ending = .raised f) : IsFault f := by
  cases ha : readArguments c.arguments with
  | error stop => cases stop <;> simp [Call.result, ha] at hending
  | ok a =>
    obtain ⟨-, -, -, heq⟩ := result_of_readArguments ha
    rw [hending] at heq
    split at heq
    · cases heq
    · split at heq
      · rename_i hpassed
        cases heq
        -- of the failures only faults are passed on without a switch
        cases f with
        | refusal r => simp [isPassedOn, Switches.ofVariables, hreraise, hdebug] at hpassed
        | failure f =>
          cases f with
          | diagnostic d => simp [isPassedOn, Switches.ofVariables, hreraise, hdebug] at hpassed
          | fault fault => exact ⟨fault, rfl⟩
      · cases heq

/-- How a call that asks for neither help nor version ends. It passes on faults alone, unless a
variable asks for more. Otherwise its status tells how far it has got: it has been rejected
before anything was done, its run has failed behind the events that are printed, or the output
has been written and the number of its texts is printed. -/
theorem status_tells_how_far (c : Call) (hhelp : readArguments c.arguments ≠ .error .help)
    (hversion : readArguments c.arguments ≠ .error .version) :
    (isSet c.environment "SAVE_LICENSE_RERAISE" = false →
      isSet c.environment "SAVE_LICENSE_DEBUG" = false →
        ∀ f, c.result.ending = .raised f → IsFault f) ∧
    ∀ status, c.result.ending = .exited status →
      (status = 0 ∨ status = 1 ∨ status = 2) ∧
      (status = 2 ↔ Rejected c) ∧
      (status = 2 → c.result.files = c.files ∧ ∀ elapsed, c.result.printed elapsed = []) ∧
      (status = 1 ↔ ∃ a output o, Runs c a output o ∧
        (FailsAtSource c.files o a.files ∨ FailsAtOutput c.files o a.files output)) ∧
      (status = 1 → ∀ a output o, Runs c a output o →
        ∃ read, AreRead c.files o a.files read ∧ ∀ elapsed,
          c.result.printed elapsed = startText o ++ eventText (events c.files o read output)) ∧
      (status = 0 ↔ ∃ a output o texts, Runs c a output o ∧
        HasWritten c o a.files output texts) ∧
      (status = 0 → ∀ a output o texts, Runs c a output o →
        HasWritten c o a.files output texts → ∀ elapsed, c.result.printed elapsed =
          startText o ++ eventText (events c.files o a.files output) ++
            finishText output texts.length elapsed) := by
  refine ⟨fun hreraise hdebug f => isFault_of_raised hreraise hdebug, fun status hending => ?_⟩
  rcases rejected_or_runs hhelp hversion hending with
    ⟨a, output, o, hruns⟩ | ⟨hrejected, rfl, hfiles, hprinted⟩
  · have hlt := hruns.status_lt_two hending
    refine ⟨by omega, iff_of_false (by omega) hruns.not_rejected, by omega, ?_, ?_, ?_, ?_⟩
    · constructor
      · intro hone
        exact ⟨a, output, o, hruns, (hruns.status_eq_one_iff hending).mp hone⟩
      · rintro ⟨a, output, o, hruns, hfails⟩
        exact (hruns.status_eq_one_iff hending).mpr hfails
    · intro hone a output o hruns
      exact hruns.printed_of_failed
        ((exists_error_iff _ _ _ _).mpr ((hruns.status_eq_one_iff hending).mp hone))
    · constructor
      · intro hzero
        obtain ⟨texts, hwritten⟩ := (hruns.status_eq_zero_iff hending).mp hzero
        exact ⟨a, output, o, texts, hruns, hwritten⟩
      · rintro ⟨a, output, o, texts, hruns, hwritten⟩
        exact (hruns.status_eq_zero_iff hending).mpr ⟨texts, hwritten⟩
    · intro _ a output o texts hruns hwritten elapsed
      exact hruns.printed_of_hasWritten hwritten elapsed
  · have hno {a : Arguments} {output : Path} {o : Options} : ¬ Runs c a output o :=
      fun hruns => hruns.not_rejected hrejected
    refine ⟨by omega, iff_of_true rfl hrejected, fun _ => ⟨hfiles, hprinted⟩, ?_, by omega, ?_,
      by omega⟩
    · refine iff_of_false (by omega) ?_
      rintro ⟨a, output, o, hruns, -⟩
      exact hno hruns
    · refine iff_of_false (by omega) ?_
      rintro ⟨a, output, o, texts, hruns, -⟩
      exact hno hruns

end

/-- A call with a source that is missing, behind one that is read. -/
def missingCall : Call where
  arguments := ["-p", "MIT", "-e", "us-ascii", "-g", "c-style", "-o", "o", "a", "c"].map
    String.toList
  files := sampleFiles

section

attribute [local instance] referenceSurroundings

theorem missing_source_is_told :
    ∃ a output o, Runs missingCall a output o ∧
      (FailsAtSource missingCall.files o a.files ∨
        FailsAtOutput missingCall.files o a.files output) ∧
      ∃ read, AreRead missingCall.files o a.files read ∧ ∀ elapsed,
        missingCall.result.printed elapsed =
          startText o ++ eventText (events missingCall.files o read output) := by
  have hread : (readArguments missingCall.arguments).toOption.map Arguments.files =
      some ["a".toList, "c".toList] := by decide +kernel
  obtain ⟨a, ha, -⟩ := exists_ok_of_toOption hread
  have hstatus : (missingCall.result.ending.casesOn id fun _ => 0 : ℕ) = 1 := by decide +kernel
  have hending : missingCall.result.ending = .exited 1 := by
    cases hending : missingCall.result.ending with
    | exited status =>
      rw [hending] at hstatus
      exact congrArg _ hstatus
    | raised f =>
      rw [hending] at hstatus
      cases hstatus
  obtain ⟨-, -, -, hfails, hprinted, -, -⟩ :=
    (status_tells_how_far missingCall (by simp [ha]) (by simp [ha])).2 1 hending
  obtain ⟨a, output, o, hruns, hwhy⟩ := hfails.mp rfl
  exact ⟨a, output, o, hruns, hwhy, hprinted rfl a output o hruns⟩

end

end LicenseNotices.ExitStatus
