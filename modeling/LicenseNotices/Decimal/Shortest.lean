import LicenseNotices.Decimal.Binary64

/-!
Binary numbers in decimal notation. The shortest notation has the fewest digits
that are read back as the same number, and of these the digits nearest to it. It
is positional from a ten-thousandth up to below ten to the sixteenth. The fixed
notation has a given number of places.
-/
namespace LicenseNotices.Binary64

/-- The number `digits · 10 ^ exponent`. -/
structure Digits where
  digits : Nat
  exponent : Int
  deriving DecidableEq, Repr

/-- The interval of fractions over `den` that are read as one number. -/
structure Rounding where
  low : Nat
  value : Nat
  high : Nat
  den : Nat
  closed : Bool

/-- A lower neighbour with a smaller exponent is only half as far away. -/
def rounding (m : Nat) (q : Int) : Rounding :=
  let below := if m = Nat.pow 2 52 ∧ -1074 < q then 4 * m - 1 else 4 * m - 2
  let (unit, den) := ratio 1 (q - 2)
  { low := below * unit, value := 4 * m * unit, high := (4 * m + 2) * unit, den,
    closed := m % 2 = 0 }

/-- `n · 10 ^ e` and `m`, both multiplied so that they are whole numbers. -/
def align (n m : Nat) (e : Int) : Nat × Nat :=
  match e with
  | .ofNat k => (n * Nat.pow 10 k, m)
  | .negSucc k => (n, m * Nat.pow 10 (k + 1))

namespace Rounding

def contains (r : Rounding) (d : Digits) : Bool :=
  let (n, low) := align (d.digits * r.den) r.low d.exponent
  let (_, high) := align (d.digits * r.den) r.high d.exponent
  if r.closed then low ≤ n && n ≤ high else low < n && n < high

/-- The digit grid point next to the value, on the grid of that exponent, if the value is
what it is read as. Of two, the nearer one is taken, and of two equally near the even one. -/
def onGrid (r : Rounding) (exponent : Int) : Option Digits :=
  let (den, num) := align r.den r.value exponent
  let nearest := roundHalfEven num den
  let floor := num / den
  let other := if nearest = floor then floor + 1 else floor
  let candidates : List Digits := [⟨nearest, exponent⟩, ⟨other, exponent⟩]
  candidates.find? fun d => d.digits ≠ 0 && r.contains d

/-- The first grid from a coarse one on that has a point, among `tries` grids. -/
def firstGrid (r : Rounding) : Nat → Int → Option Digits
  | 0, _ => none
  | tries + 1, exponent => (r.onGrid exponent).or (r.firstGrid tries (exponent - 1))

end Rounding

/-- The exponent of the leading digit of `num / den` that is at most one too great. -/
def leadingExponent (num den : Nat) : Int :=
  if den ≤ num then (Nat.toDigits 10 (num / den)).length
  else 1 - ((Nat.toDigits 10 (den / num)).length : Int)

/-- Drops the zeros at the end. -/
def Digits.strip (d : Digits) : Nat → Digits
  | 0 => d
  | limit + 1 =>
      if d.digits % 10 = 0 ∧ d.digits ≠ 0 then
        Digits.strip ⟨d.digits / 10, d.exponent + 1⟩ limit
      else d

/-- The fewest digits that are read back as the positive number `m · 2 ^ q`. -/
def shortestDigits (m : Nat) (q : Int) : Digits :=
  let r := rounding m q
  ((r.firstGrid 20 (leadingExponent r.value r.den)).getD ⟨m, 0⟩).strip 20

/-- The digits of a number with a point behind the first `point` of them. -/
def positional (digits : List Char) (point : Int) : List Char :=
  if point ≤ 0 then '0' :: '.' :: List.replicate point.natAbs '0' ++ digits
  else
    let n := point.toNat
    if digits.length ≤ n then
      digits ++ List.replicate (n - digits.length) '0' ++ ['.', '0']
    else digits.take n ++ '.' :: digits.drop n

/-- The digits with a point behind the first of them, and an exponent of two digits or more. -/
def scientific (digits : List Char) (exponent : Int) : List Char :=
  let fraction := match digits with
    | first :: second :: rest => first :: '.' :: second :: rest
    | short => short
  let size := Nat.toDigits 10 exponent.natAbs
  fraction ++ 'e' :: (if exponent < 0 then '-' else '+') ::
    List.replicate (2 - size.length) '0' ++ size

def signed (negative : Bool) (t : List Char) : List Char := if negative then '-' :: t else t

def shortestText (x : Binary64) : List Char :=
  match x.meaning with
  | .notANumber => ['n', 'a', 'n']
  | .infinite negative => signed negative ['i', 'n', 'f']
  | .finite negative 0 _ => signed negative ['0', '.', '0']
  | .finite negative m q =>
      let d := shortestDigits m q
      let digits := Nat.toDigits 10 d.digits
      let point : Int := digits.length + d.exponent
      signed negative
        (if -4 < point ∧ point ≤ 16 then positional digits point
        else scientific digits (point - 1))

/-- The number rounded to `places` places behind the point. -/
def fixedText (places : Nat) (x : Binary64) : List Char :=
  match x.meaning with
  | .notANumber => ['n', 'a', 'n']
  | .infinite negative => signed negative ['i', 'n', 'f']
  | .finite negative m q =>
      let (num, den) := ratio m q
      let digits := Nat.toDigits 10 (roundHalfEven (num * Nat.pow 10 places) den)
      let digits := List.replicate (places + 1 - digits.length) '0' ++ digits
      let whole := digits.take (digits.length - places)
      signed negative
        (if places = 0 then whole else whole ++ '.' :: digits.drop (digits.length - places))

end LicenseNotices.Binary64
