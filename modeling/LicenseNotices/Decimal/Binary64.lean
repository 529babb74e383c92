/-!
Numbers in binary floating point of 64 bits, as whole numbers times powers of two.
A decimal fraction is read as the nearest such number; halfway between two, the
one with the even numerator is taken.
-/
namespace LicenseNotices

/-- A number by its sign, exponent and fraction, packed into one word. -/
structure Binary64 where
  bits : UInt64
  deriving DecidableEq, Repr

/-- The whole number nearest to `num / den`; a half goes to the even neighbour. -/
def roundHalfEven (num den : Nat) : Nat :=
  let floor := num / den
  let twice := 2 * (num % den)
  if twice < den then floor
  else if den < twice then floor + 1
  else floor + floor % 2

namespace Binary64

/-- What a word stands for. A finite number is `m · 2 ^ q` with its sign. -/
inductive Meaning
  | finite (negative : Bool) (m : Nat) (q : Int)
  | infinite (negative : Bool)
  | notANumber
  deriving DecidableEq, Repr

def meaning (x : Binary64) : Meaning :=
  let n := x.bits.toNat
  let negative : Bool := Nat.pow 2 63 ≤ n
  let field : Nat := n / Nat.pow 2 52 % 2048
  let fraction := n % Nat.pow 2 52
  if field = 2047 then if fraction = 0 then .infinite negative else .notANumber
  else if field = 0 then .finite negative fraction (-1074)
  else .finite negative (Nat.pow 2 52 + fraction) ((field : Int) - 1075)

def pack (negative : Bool) (magnitude : Nat) : Binary64 :=
  ⟨UInt64.ofNat ((if negative then Nat.pow 2 63 else 0) + magnitude)⟩

def infinity (negative : Bool) : Binary64 := pack negative (2047 * Nat.pow 2 52)

def nan (negative : Bool := false) : Binary64 := pack negative (2047 * Nat.pow 2 52 + Nat.pow 2 51)

/-- The fraction `num / den` divided by a power of two. -/
def scaleDown (num den : Nat) (q : Int) : Nat × Nat :=
  match q with
  | .ofNat k => (num, den * Nat.pow 2 k)
  | .negSucc k => (num * Nat.pow 2 (k + 1), den)

/-- The number nearest to the positive fraction `num / den`. -/
def ofRatio (negative : Bool) (num den : Nat) : Binary64 :=
  let estimate : Int := num.log2 - den.log2
  let (n, d) := scaleDown num den estimate
  let exponent := if d ≤ n then estimate else estimate - 1
  let q := max (exponent - 52) (-1074)
  let (n, d) := scaleDown num den q
  let m := roundHalfEven n d
  let (m, q) := if m = Nat.pow 2 53 then (Nat.pow 2 52, q + 1) else (m, q)
  if m < Nat.pow 2 52 then pack negative m
  else if 2047 ≤ q + 1075 then infinity negative
  else pack negative ((q + 1075).toNat * Nat.pow 2 52 + (m - Nat.pow 2 52))

/-- The number nearest to `digits · 10 ^ exponent`. -/
def ofDecimal (negative : Bool) (digits : Nat) (exponent : Int) : Binary64 :=
  let size : Int := (Nat.toDigits 10 digits).length + exponent
  if digits = 0 then pack negative 0
  else if 310 < size then infinity negative
  else if size < -330 then pack negative 0
  else
    match exponent with
    | .ofNat k => ofRatio negative (digits * Nat.pow 10 k) 1
    | .negSucc k => ofRatio negative digits (Nat.pow 10 (k + 1))

def isZero (x : Binary64) : Bool :=
  match x.meaning with
  | .finite _ m _ => m = 0
  | _ => false

/-- The value of a finite magnitude as a fraction. -/
def ratio (m : Nat) (q : Int) : Nat × Nat :=
  match q with
  | .ofNat k => (m * Nat.pow 2 k, 1)
  | .negSucc k => (m, Nat.pow 2 (k + 1))

end Binary64

end LicenseNotices
