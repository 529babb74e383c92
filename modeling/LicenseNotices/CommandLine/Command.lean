import LicenseNotices.CommandLine.Arguments
import LicenseNotices.CommandLine.CommandFailure
import LicenseNotices.CommandLine.Switches
import LicenseNotices.Configuration
import LicenseNotices.Run
import LicenseNotices.Surroundings

/-!
The command. It reads its arguments, refuses a call without sources or with an
output that is one of them, loads the options, and runs. The result of a call is
what it prints, what it writes about itself and its failures, the files that it
leaves behind, and how it ends.
-/
namespace LicenseNotices.CommandLine

open Document (Value)

/-- A call of the command. -/
structure Call where
  arguments : List Text
  environment : Variables := []
  files : FileStore

/-- How a call ends: with a status, or with a failure that is passed on. -/
inductive Ending
  | exited (status : Nat)
  | raised (f : CommandFailure)

structure CallResult where
  files : FileStore
  /-- What is printed in place of a report. -/
  notice : String := ""
  report : List ReportEntry := []
  written : String := ""
  ending : Ending := .exited 0

namespace CallResult

/-- All that is printed; `elapsed` is the time that has passed, in seconds. -/
def printed [Console] (r : CallResult) (elapsed : Text) : Text :=
  r.notice.toList ++ printedReport elapsed r.report

end CallResult

/-- The level of the records that are shown: the one that is asked for by an argument or a
variable, unless there is no such level. -/
def chosenLevel (asked : Value) (v : Variables) : LogLevel :=
  let name := match asked with
    | .text t => if t.isEmpty then none else some t
    | _ => none
  let name := name.or ((v.value? "SAVE_LICENSE_LOG_LEVEL").filter (!·.isEmpty))
  ((name.bind fun t => LogLevel.named? (String.ofList (lowerText t)))).getD .warning

/-- The path that a value stands for. -/
def pathOf : Value → Except Failure Path
  | .text t => .ok (.ofText t)
  | v => .error (.fault ⟨.type,
      s!"expected str, bytes or os.PathLike object, not {v.kindName}"⟩)

/-- The path of a configuration file, if one is named. -/
def configPath : Value → Except Failure (Option Path)
  | .null => .ok none
  | .text t => .ok (some (.ofText t))
  | v => .error (.fault ⟨.attribute, s!"'{v.kindName}' object has no attribute 'exists'"⟩)

/-- Whether the output is the same file as one of the sources. -/
def isSource (s : FileStore) (output : Path) : List Text → Except Failure Bool
  | [] => .ok false
  | file :: rest => do
      let resolve (p : Path) := (s.resolve p).mapError fun _ => Run.nullCharacter
      if (← resolve (.ofText file)) = (← resolve output) then return true
      else isSource s output rest

def noSources : Refusal where
  message := "No input files given"
  hint := some "Pass at least one FILE to scan"

def outputIsSource (output : Path) : Refusal where
  message := s!"Output file '{output.shown}' is also an input file"
  hint := some "Choose a different --out path"
  context := [("out".toList, .text output.text)]

/-- The output of a call that is not refused. -/
def checkedOutput (s : FileStore) (a : Arguments) : Except CommandFailure Path := do
  if a.files.isEmpty then throw (.refusal noSources)
  let output ← (pathOf a.out).mapError .failure
  if ← (isSource s output a.files).mapError .failure then
    throw (.refusal (outputIsSource output))
  return output

/-- The settings that the arguments of a call make. -/
def settingsOf (a : Arguments) : Settings where
  patterns := a.patterns.map (·.map PatternSource.ofValue)
  encoding := a.encoding
  grammar := a.grammar

/-- What doing a call has led to. -/
structure Deed where
  files : FileStore
  report : List ReportEntry := []
  log : List LogEntry := []
  failure : Option CommandFailure := none

/-- Does what the arguments ask for. -/
def perform [Surroundings] (s : FileStore) (a : Arguments) : Deed :=
  match checkedOutput s a with
  | .error f => { files := s, failure := some f }
  | .ok output =>
      match configPath a.config with
      | .error f => { files := s, failure := some (.failure f) }
      | .ok named =>
          let loaded := Configuration.load s {} named
          match loaded.options.bind fun o => (o.getD .default).override (settingsOf a) with
          | .error f => { files := s, log := loaded.log, failure := some (.failure f) }
          | .ok o =>
              let run := Run.start s o a.files output
              { files := run.files, report := run.report, log := loaded.log ++ run.log,
                failure := match run.outcome with
                  | .ok _ => none
                  | .error f => some (.failure f) }

/-- Whether a failure is shown at all; faults and, on demand, everything is passed on. -/
def isPassedOn (switches : Switches) : CommandFailure → Bool
  | .failure (.fault _) => true
  | _ => switches.isReraising

/-- Carries out a call. -/
def Call.result [Surroundings] (c : Call) : CallResult :=
  match readArguments c.arguments with
  | .error .help => { files := c.files, notice := help }
  | .error .version => { files := c.files, notice := version }
  | .error (.fault f) =>
      { files := c.files, written := f.text, ending := .exited CommandFailure.callStatus }
  | .ok a =>
      let deed := perform c.files a
      let log := LogEntry.shown (chosenLevel a.logLevel c.environment) deed.log
      match deed.failure with
      | none => { files := deed.files, report := deed.report, written := log }
      | some f =>
          let switches := Switches.ofVariables c.environment a.verbose
          if isPassedOn switches f then
            { files := deed.files, report := deed.report, written := log, ending := .raised f }
          else
            { files := deed.files, report := deed.report,
              written := log ++ f.written switches.isVerbose, ending := .exited f.status }

/-- The paths that a call may look at in the directory `current`. -/
def Arguments.paths (a : Arguments) (current : Location) : List Path :=
  let named : Value → List Path
    | .text t => [.ofText t]
    | _ => []
  a.files.map .ofText ++ named a.out ++ named a.config ++
    Configuration.candidates.map (Path.ofLocation current).child

/-- The locations that the paths of a call pass. -/
def passedLocations (arguments : List Text) (current : Location) : List Location :=
  match readArguments arguments with
  | .ok a => (a.paths current).flatMap (·.passedFrom current)
  | .error _ => []

end LicenseNotices.CommandLine
