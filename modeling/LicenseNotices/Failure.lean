import LicenseNotices.Text.Basic

/-!
What can go wrong. A diagnostic is a failure that the program anticipates: it
has a kind, a message, perhaps a place and perhaps advice. A fault is a failure
that it does not anticipate and that ends the run as it is. Source errors are
the ways in which a source text is not accepted by its grammar.
-/
namespace LicenseNotices

inductive DiagnosticKind
  | general
  | sourceUnreadable
  | sourceUnparseable
  | sinkUnwritable
  | configuration
  deriving DecidableEq, Repr

namespace DiagnosticKind

def code : DiagnosticKind → Option String
  | general => none
  | sourceUnreadable => some "SOURCE_UNREADABLE"
  | sourceUnparseable => some "SOURCE_UNPARSEABLE"
  | sinkUnwritable => some "SINK_UNWRITABLE"
  | configuration => some "CONFIGURATION_ERROR"

/-- The name of the kind. -/
def name : DiagnosticKind → String
  | general => "SaveLicenseError"
  | sourceUnreadable => "SourceUnreadable"
  | sourceUnparseable => "SourceUnparseable"
  | sinkUnwritable => "SinkUnwritable"
  | configuration => "ConfigurationError"

end DiagnosticKind

structure Diagnostic where
  kind : DiagnosticKind
  message : String
  path : Option String := none
  line : Option Int := none
  column : Option Int := none
  code : Option String := kind.code
  hint : Option String := none
  deriving DecidableEq, Repr

/-- The text of a field, when there is one and it is not empty. -/
def nonempty? (field : Option String) : Option String :=
  field.filter (· ≠ "")

namespace Diagnostic

/-- A column counts only behind a line, and a line only behind a path. -/
def location (d : Diagnostic) : String :=
  match nonempty? d.path, d.line, d.column with
  | some path, some line, some column => s!"{path}:{line}:{column}"
  | some path, some line, none => s!"{path}:{line}"
  | some path, none, _ => path
  | none, _, _ => "unknown location"

/-- The message, then place and code in parentheses, then the hint. -/
def format (d : Diagnostic) : String :=
  let place := if d.location = "unknown location" then [] else [d.location]
  let details := place ++ (nonempty? d.code).toList
  let message :=
    if details.isEmpty then d.message
    else d.message ++ " (" ++ String.intercalate "; " details ++ ")"
  let parts := message :: ((nonempty? d.hint).map ("Hint: " ++ ·)).toList
  String.intercalate " " (parts.filter (· ≠ ""))

end Diagnostic

inductive FaultKind
  | value
  | type
  | attribute
  | index
  | lookup
  | overflow
  | unicode
  | unicodeDecode
  | unicodeEncode
  | recursion
  /-- A failure of the system by its number. -/
  | system (number : Nat)
  | key
  | runtime
  /-- No failure of the program: it goes on with texts that hold surrogates, which are no texts
  here. -/
  | beyondTexts
  deriving DecidableEq, Repr

namespace FaultKind

/-- The failures of the system that have a name of their own, by their numbers. -/
def systemNames : List (Nat × String) :=
  [(1, "PermissionError"), (2, "FileNotFoundError"), (3, "ProcessLookupError"),
    (4, "InterruptedError"), (10, "ChildProcessError"), (11, "BlockingIOError"),
    (13, "PermissionError"), (17, "FileExistsError"), (20, "NotADirectoryError"),
    (21, "IsADirectoryError"), (32, "BrokenPipeError"), (103, "ConnectionAbortedError"),
    (104, "ConnectionResetError"), (108, "BrokenPipeError"), (110, "TimeoutError"),
    (111, "ConnectionRefusedError"), (114, "BlockingIOError"), (115, "BlockingIOError")]

/-- The name under which faults of the kind are reported. -/
def name : FaultKind → String
  | .value => "ValueError"
  | .type => "TypeError"
  | .attribute => "AttributeError"
  | .index => "IndexError"
  | .lookup => "LookupError"
  | .overflow => "OverflowError"
  | .unicode => "UnicodeError"
  | .unicodeDecode => "UnicodeDecodeError"
  | .unicodeEncode => "UnicodeEncodeError"
  | .recursion => "RecursionError"
  | .system number => (systemNames.lookup number).getD "OSError"
  | .key => "KeyError"
  | .runtime => "RuntimeError"
  | .beyondTexts => "surrogates"

end FaultKind

structure Fault where
  kind : FaultKind
  message : String
  deriving DecidableEq, Repr

inductive Failure
  | diagnostic (d : Diagnostic)
  | fault (f : Fault)
  deriving DecidableEq, Repr

namespace Failure

def configuration (message : String) (hint : Option String := none)
    (path : Option String := none) : Failure :=
  .diagnostic { kind := .configuration, message, hint, path }

def message : Failure → String
  | diagnostic d => d.message
  | fault f => f.message

end Failure

/-- Why a source text is not accepted by its grammar. -/
inductive SourceFault
  | unterminatedComment
  | unterminatedLiteral
  | notJavaScript
  deriving DecidableEq, Repr

namespace SourceFault

def message : SourceFault → String
  | unterminatedComment => "Unterminated block comment"
  | unterminatedLiteral => "Unterminated string literal"
  | notJavaScript => "Source is not valid JavaScript"

def hint : SourceFault → Option String
  | notJavaScript => some "Select another grammar with --grammar"
  | _ => none

end SourceFault

/-- A source fault and where it shows. -/
structure SourceError where
  fault : SourceFault
  position : Position
  deriving DecidableEq, Repr

namespace SourceError

/-- The diagnostic for a source read from `path`; an empty path is not shown. -/
def diagnostic (e : SourceError) (path : String) : Diagnostic where
  kind := .sourceUnparseable
  message := e.fault.message
  path := nonempty? (some path)
  line := some e.position.line
  column := some (e.position.column + 1)
  hint := e.fault.hint

end SourceError

end LicenseNotices
