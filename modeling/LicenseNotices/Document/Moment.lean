import LicenseNotices.Text.Basic

/-!
Dates and times of day. A moment is a date, a time, or both together, and then it
may have an offset from universal time in minutes. Only days of the calendar
are dates.
-/
namespace LicenseNotices.Document

structure Date where
  year : Nat
  month : Nat
  day : Nat
  deriving DecidableEq, Repr

structure TimeOfDay where
  hour : Nat
  minute : Nat
  second : Nat
  microsecond : Nat
  deriving DecidableEq, Repr

inductive Moment
  | date (d : Date)
  | time (t : TimeOfDay)
  | both (d : Date) (t : TimeOfDay) (offset : Option Int)
  deriving DecidableEq, Repr

namespace Date

def isLeap (year : Nat) : Bool := year % 4 = 0 && (year % 100 ≠ 0 || year % 400 = 0)

def daysIn (year month : Nat) : Nat :=
  if month = 2 then if isLeap year then 29 else 28
  else if month = 4 ∨ month = 6 ∨ month = 9 ∨ month = 11 then 30
  else 31

def isValid (d : Date) : Bool :=
  1 ≤ d.year && 1 ≤ d.month && d.month ≤ 12 && 1 ≤ d.day && d.day ≤ daysIn d.year d.month

end Date

/-- A number filled up with zeros. -/
def padded (width n : Nat) : String :=
  let digits := toString n
  String.ofList (List.replicate (width - digits.length) '0') ++ digits

def Date.text (d : Date) : String := s!"{padded 4 d.year}-{padded 2 d.month}-{padded 2 d.day}"

def TimeOfDay.text (t : TimeOfDay) : String :=
  s!"{padded 2 t.hour}:{padded 2 t.minute}:{padded 2 t.second}" ++
    if t.microsecond = 0 then "" else s!".{padded 6 t.microsecond}"

def offsetText (minutes : Int) : String :=
  (if minutes < 0 then "-" else "+") ++
    s!"{padded 2 (minutes.natAbs / 60)}:{padded 2 (minutes.natAbs % 60)}"

namespace Moment

def text : Moment → String
  | date d => d.text
  | time t => t.text
  | both d t offset => d.text ++ " " ++ t.text ++ (offset.map offsetText).getD ""

/-- The numbers of a time, without zeros at the end. -/
def timeNumbers (t : TimeOfDay) : List Nat :=
  if t.microsecond ≠ 0 then [t.hour, t.minute, t.second, t.microsecond]
  else if t.second ≠ 0 then [t.hour, t.minute, t.second]
  else [t.hour, t.minute]

def listed (numbers : List Nat) : String := String.intercalate ", " (numbers.map toString)

/-- An offset as a span of days and seconds, the seconds not negative. -/
def zoneText (minutes : Int) : String :=
  if minutes = 0 then "datetime.timezone.utc"
  else
    let days := if minutes < 0 then "days=-1, " else ""
    let seconds := (minutes * 60) % 86400
    s!"datetime.timezone(datetime.timedelta({days}seconds={seconds}))"

/-- How a moment inside a list or table is written. -/
def quotedText : Moment → String
  | date d => s!"datetime.date({listed [d.year, d.month, d.day]})"
  | time t => s!"datetime.time({listed (timeNumbers t)})"
  | both d t offset =>
      let zone := match offset with
        | some minutes => ", tzinfo=" ++ zoneText minutes
        | none => ""
      s!"datetime.datetime({listed ([d.year, d.month, d.day] ++ timeNumbers t)}{zone})"

end Moment

end LicenseNotices.Document
