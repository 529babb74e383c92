/-!
What a run records about itself. An entry has a level and the part of the program
that it comes from; only entries of at least the chosen level are shown.
-/
namespace LicenseNotices

inductive LogLevel
  | debug
  | info
  | warning
  | error
  deriving DecidableEq, Repr

namespace LogLevel

def name : LogLevel → String
  | debug => "DEBUG"
  | info => "INFO"
  | warning => "WARNING"
  | error => "ERROR"

def severity : LogLevel → Nat
  | debug => 10
  | info => 20
  | warning => 30
  | error => 40

/-- The names by which a level can be asked for. -/
def choices : List (String × LogLevel) :=
  [("debug", debug), ("error", error), ("info", info), ("warn", warning), ("warning", warning)]

def named? (name : String) : Option LogLevel :=
  (choices.find? (·.1 = name)).map (·.2)

end LogLevel

structure LogEntry where
  level : LogLevel
  source : String
  message : String
  deriving DecidableEq, Repr

namespace LogEntry

def text (e : LogEntry) : String := s!"{e.level.name} {e.source}: {e.message}\n"

/-- The texts of the entries that are shown when `least` is the chosen level. -/
def shown (least : LogLevel) (entries : List LogEntry) : String :=
  String.join ((entries.filter fun e => least.severity ≤ e.level.severity).map text)

end LogEntry

end LicenseNotices
