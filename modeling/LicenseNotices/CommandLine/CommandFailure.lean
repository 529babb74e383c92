import LicenseNotices.Document.Value
import LicenseNotices.Failure
import LicenseNotices.Text.Blank

/-!
The failures of the command and how they are shown. A refusal is about the call
itself; other failures come from the run. A call that cannot be right ends with
another status than a run that fails.
-/
namespace LicenseNotices.CommandLine

open Document (Value Entries)

/-- What the command objects to in a call. The context is shown with the details. -/
structure Refusal where
  message : String
  code : String := "CLI_VALIDATION_ERROR"
  hint : Option String := none
  context : Entries := []
  /-- Whether the arguments of the call are at fault. -/
  isInvalidCall : Bool := true
  deriving Repr

namespace Refusal

def name (r : Refusal) : String := if r.isInvalidCall then "CLIValidationError" else "CLIError"

def contextLines (context : Entries) : List String :=
  context.map fun (key, v) => s!"  {String.ofList key}: {String.ofList v.display}"

def lines (r : Refusal) (isVerbose : Bool) : List String :=
  [s!"Error [{r.code}]: {r.message}"] ++
    ((nonempty? r.hint).map ("Hint: " ++ ·)).toList ++
    (if isVerbose && !r.context.isEmpty then "\nContext:" :: contextLines r.context else [])

end Refusal

inductive CommandFailure
  | refusal (r : Refusal)
  | failure (f : Failure)
  deriving Repr

/-- The text of a fault; the text about a missing key is the quoted key. -/
def faultText (f : Fault) : String :=
  if f.kind = .key then String.ofList (Text.quoted f.message.toList) else f.message

namespace CommandFailure

def message : CommandFailure → String
  | refusal r => r.message
  | failure (.diagnostic d) => d.message
  | failure (.fault f) => faultText f

/-- How a failure is shown. -/
def format (f : CommandFailure) (isVerbose : Bool) : String :=
  match f with
  | refusal r => "\n".intercalate (r.lines isVerbose)
  | failure (.diagnostic d) => "Error: " ++ d.format
  | failure (.fault f) => s!"Error: {f.kind.name}: {faultText f}"

def callStatus : Nat := 2

def runStatus : Nat := 1

/-- The status with which the command ends. -/
def status : CommandFailure → Nat
  | refusal r => if r.isInvalidCall then callStatus else runStatus
  | failure (.diagnostic d) => if d.kind = .configuration then callStatus else runStatus
  | failure (.fault _) => runStatus

/-- The full name of the kind of a failure. -/
def fullName : CommandFailure → String
  | refusal r => "save_license.cli.errors." ++ r.name
  | failure (.diagnostic d) => "save_license.errors." ++ d.kind.name
  | failure (.fault f) => f.kind.name

/-- The last line of a trace, with nothing blank at its end. -/
def traceEnd (f : CommandFailure) : String :=
  let line := if f.message.isEmpty then f.fullName else s!"{f.fullName}: {f.message}"
  String.ofList (line.toList.reverse.dropWhile Text.isBlank).reverse

/-- What is written about a failure that is not passed on. -/
def written (f : CommandFailure) (isVerbose : Bool) : String :=
  f.format isVerbose ++ (if isVerbose then "\n\nTraceback:\n" ++ f.traceEnd else "") ++ "\n"

end CommandFailure

end LicenseNotices.CommandLine
