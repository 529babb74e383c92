import LicenseNotices.Files.Path
import LicenseNotices.NoticeMatcher
import LicenseNotices.NoticeSet
import LicenseNotices.Report.Console

/-!
What a run reports: that it starts, with its patterns and its encoding, every group
that it matches, and that it has finished. A report is a list of such entries; on a
console each of them is a few messages.
-/
namespace LicenseNotices

/-- The result of a run. -/
structure Summary where
  output : Path
  count : Nat
  deriving DecidableEq, Repr

inductive ReportEntry
  | started (patterns : List Pattern) (encoding : Text)
  | matched (event : MatchEvent)
  | finished (summary : Summary)

namespace ReportEntry

def event? : ReportEntry → Option MatchEvent
  | matched event => some event
  | _ => none

def startMessages (patterns : List Pattern) (encoding : Text) : List Text :=
  ["# Start save-license".toList,
    "  - Patterns: ".toList ++ describePatterns patterns,
    "  - Encoding: \"".toList ++ Text.escape encoding ++ ['\x22'],
    [],
    "# Read licenses".toList]

def matchMessage (e : MatchEvent) : Text :=
  s!"  - {e.file}({e.line}, {e.column}) ".toList ++ e.preview ++
    s!" [{e.operation.name}]".toList

/-- The last messages; `elapsed` is the time that has passed, in seconds. -/
def finishMessages (output : Path) (count : Int) (elapsed : Text) : List Text :=
  [[],
    "# Finish".toList,
    "  - Out: ".toList ++ output.text,
    s!"  - Count: {count}".toList,
    "  - Time: ".toList ++ elapsed ++ ['s']]

def messages (elapsed : Text) : ReportEntry → List Text
  | started patterns encoding => startMessages patterns encoding
  | matched event => [matchMessage event]
  | finished summary => finishMessages summary.output summary.count elapsed

end ReportEntry

variable [Console]

/-- Messages printed one after the other. -/
def printedMessages (messages : List Text) : Text := messages.flatMap Console.printed

/-- A report as it appears on a console. -/
def printedReport (elapsed : Text) (report : List ReportEntry) : Text :=
  report.flatMap fun entry => printedMessages (entry.messages elapsed)

end LicenseNotices
