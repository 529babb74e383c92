import LicenseNotices.Text.Blank
import LicenseNotices.Text.Word

/-!
Whole numbers in a text: a sign, then digits of any script, single low lines
between them, and blanks around everything. There is a limit to their length.
-/
namespace LicenseNotices.Text

/-- No number that is read or written has more digits. -/
def integerDigitLimit : Nat := 4300

/-- The message about a number that is too long; how long it is, is told where it is read. -/
def tooManyDigitsMessage (count : Option Nat := none) : String :=
  let length := match count with
    | some n => s!": value has {n} digits"
    | none => ""
  s!"Exceeds the limit ({integerDigitLimit} digits) for integer string conversion" ++ length ++
    "; use sys.set_int_max_str_digits() to increase the limit"

/-- The digits of a number; a low line may stand between two of them. -/
def digitValues? : Text → Option (List Nat)
  | [] => none
  | [c] => (digitValue c).map ([·])
  | c :: '_' :: rest => do return (← digitValue c) :: (← digitValues? rest)
  | c :: rest => do return (← digitValue c) :: (← digitValues? rest)

/-- The number that the digits of a decimal notation make. -/
def decimalValue (digits : List Nat) : Nat := digits.foldl (fun n d => n * 10 + d) 0

def natural? (t : Text) : Option Nat := do
  let digits ← digitValues? t
  if digits.length ≤ integerDigitLimit then some (decimalValue digits) else none

def integer? (t : Text) : Option Int :=
  match trim t with
  | '-' :: rest => (natural? rest).map fun n => -(n : Int)
  | '+' :: rest => (natural? rest).map Int.ofNat
  | rest => (natural? rest).map Int.ofNat

end LicenseNotices.Text
