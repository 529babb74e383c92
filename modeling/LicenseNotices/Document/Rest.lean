import LicenseNotices.Text.Integer

/-!
What is left of a document while it is read, with the offset at which it starts,
and the numbers that digits at its front stand for.
-/
namespace LicenseNotices.Document

structure Rest where
  text : Text
  offset : Nat

namespace Rest

def drop (r : Rest) (n : Nat) : Rest := ⟨r.text.drop n, r.offset + n⟩

def skipWhile (p : Char → Bool) (r : Rest) : Rest := r.drop (r.text.takeWhile p).length

/-- The rest behind the text, if it starts with it. -/
def dropText? (r : Rest) (t : Text) : Option Rest :=
  if t.isPrefixOf r.text then some (r.drop t.length) else none

end Rest

/-- The digits at the front of a text. -/
def digitsOf (t : Text) : Text := t.takeWhile Char.isDigit

section

variable (digitsAt : Text → Text)

/-- The digits of a whole number at the front; behind a zero there are no more. -/
def wholeAt (t : Text) : Text :=
  match t with
  | '0' :: _ => ['0']
  | t => digitsAt t

/-- The digits behind a point at the front. -/
def fractionAt (t : Text) : Text :=
  match t with
  | '.' :: rest => digitsAt rest
  | _ => []

structure Exponent where
  isMinus : Bool
  digits : Text
  /-- The number of characters that it takes. -/
  length : Nat

def exponentAt? (t : Text) : Option Exponent :=
  match t with
  | e :: rest =>
      if e = 'e' ∨ e = 'E' then
        let isMinus := rest.head? = some '-'
        let isSigned := isMinus || rest.head? = some '+'
        let digits := digitsAt (if isSigned then rest.drop 1 else rest)
        if digits.isEmpty then none
        else some ⟨isMinus, digits, 1 + (if isSigned then 1 else 0) + digits.length⟩
      else none
  | [] => none

end

def isHexDigit (c : Char) : Bool :=
  c.isDigit || ('a' ≤ c && c ≤ 'f') || ('A' ≤ c && c ≤ 'F')

def digitValue (c : Char) : Nat :=
  if c.isDigit then c.toNat - 48 else if 'a' ≤ c then c.toNat - 87 else c.toNat - 55

/-- The number that digits of a base stand for. -/
def digitsNumber (base : Nat) (t : Text) : Nat := t.foldl (fun n c => n * base + digitValue c) 0

/-- The number of exactly so many hexadecimal digits at the front of a text. -/
def hexNumber? (count : Nat) (t : Text) : Option Nat :=
  let digits := t.take count
  if digits.length = count ∧ digits.all isHexDigit then some (digitsNumber 16 digits) else none

/-- The line and the column of an offset, both counted from one. -/
def lineAndColumn (source : Text) (offset : Nat) : Nat × Nat :=
  let before := source.take offset
  (before.count '\n' + 1, (before.reverse.takeWhile (· ≠ '\n')).length + 1)

end LicenseNotices.Document
