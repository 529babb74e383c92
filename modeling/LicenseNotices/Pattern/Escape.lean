import LicenseNotices.Pattern.Scope

/-!
What a backslash and the characters behind it stand for: a character by its
letter, number or name, a class of characters, an anchor, or what a group has
matched. Inside a set there are no anchors and no references. Which names there
are is left to the surroundings.
-/
namespace LicenseNotices

/-- The names of characters. -/
class CharacterNames where
  /-- The code point of the character with that name. -/
  named? : Text → Option Nat

namespace Pattern

open Text

inductive EscapeMeaning
  | literal (n : Nat)
  | category (k : Category) (negated : Bool)
  | anchor (a : Anchor)
  | reference (group : Nat)
  deriving DecidableEq, Repr

def isOctalDigit (c : Char) : Bool := '0' ≤ c && c ≤ '7'

def isHexDigit (c : Char) : Bool :=
  isAsciiDigit c || ('a' ≤ c && c ≤ 'f') || ('A' ≤ c && c ≤ 'F')

/-- The value of digits of a base up to sixteen. -/
def digitsValue (base : Nat) (digits : Text) : Nat :=
  let value (c : Char) : Nat :=
    if isAsciiDigit c then c.toNat - 48 else (asciiLower c.toNat) - 87
  digits.foldl (fun n c => n * base + value c) 0

def controlEscape? (c : Char) : Option EscapeMeaning :=
  match c with
  | 'a' => some (.literal 7)
  | 'b' => some (.literal 8)
  | 'f' => some (.literal 12)
  | 'n' => some (.literal 10)
  | 'r' => some (.literal 13)
  | 't' => some (.literal 9)
  | 'v' => some (.literal 11)
  | '\\' => some (.literal 92)
  | _ => none

def categoryEscape? (c : Char) : Option EscapeMeaning :=
  match c with
  | 'd' => some (.category .digit false)
  | 'D' => some (.category .digit true)
  | 's' => some (.category .blank false)
  | 'S' => some (.category .blank true)
  | 'w' => some (.category .word false)
  | 'W' => some (.category .word true)
  | _ => none

def anchorEscape? (c : Char) : Option EscapeMeaning :=
  match c with
  | 'A' => some (.anchor .textStart)
  | 'b' => some (.anchor .boundary)
  | 'B' => some (.anchor .noBoundary)
  | 'Z' => some (.anchor .textEnd)
  | _ => none

/-- A character by a fixed number of hexadecimal digits behind a letter. -/
def hexEscape (letter : Char) (digits : Nat) (start : Nat) (c : Cursor) :
    Outcome (EscapeMeaning × Cursor) := do
  let (read, c) ← c.takeWhile isHexDigit digits
  let escape := '\\' :: letter :: read
  let value := digitsValue 16 read
  if read.length < digits then
    throw (.malformed (.incompleteEscape escape) (some start))
  else if 0x7fffffff < value then throw .codePointTooLarge
  else if 0x10ffff < value then throw (.malformed (.badEscape escape) (some start))
  else return (.literal value, c)

/-- A character by its name in braces. -/
def nameEscape [CharacterNames] (start : Nat) (c : Cursor) : Outcome (EscapeMeaning × Cursor) := do
  let (isOpened, c) ← c.take '\x7b'
  if !isOpened then c.fault (.missing "\x7b")
  else
    let (name, c) ← c.name "character name" '\x7d'
    match CharacterNames.named? name with
    | some n => return (.literal n, c)
    | none => throw (.malformed (.unknownCharacter name) (some start))

/-- A character by octal digits, the first of which is given. -/
def octalEscape (first : Char) (start : Nat) (c : Cursor) :
    Outcome (EscapeMeaning × Cursor) := do
  let (more, c) ← c.takeWhile isOctalDigit 2
  let value := digitsValue 8 (first :: more)
  if 0o377 < value then
    throw (.malformed (.octalTooLarge ('\\' :: first :: more)) (some start))
  else return (.literal value, c)

/-- A reference by its number; three octal digits stand for a character instead. -/
def numberEscape (first : Char) (start : Nat) (s : Scope) (c : Cursor) :
    Outcome (EscapeMeaning × Cursor) := do
  let (more, c) ← c.takeWhile isAsciiDigit 1
  let (last, c) ←
    if (first :: more).all isOctalDigit && !more.isEmpty then c.takeWhile isOctalDigit 1
    else pure ([], c)
  if !last.isEmpty then
    let digits := first :: more ++ last
    if 0o377 < digitsValue 8 digits then
      throw (.malformed (.octalTooLarge ('\\' :: digits)) (some start))
    else return (.literal (digitsValue 8 digits), c)
  else
    let group := digitsValue 10 (first :: more)
    if s.groups.length < group then
      throw (.malformed (.invalidReference group) (some (start + 1)))
    else if !s.isClosed group then
      throw (.malformed .openGroupReference (some start))
    else
      s.checkLookbehind group c
      return (.reference group, c)

/-- The escapes that mean the same inside and outside of a set. -/
def commonEscape [CharacterNames] (letter : Char) (start : Nat) (c : Cursor) :
    Outcome (EscapeMeaning × Cursor) :=
  match letter with
  | 'x' => hexEscape letter 2 start c
  | 'u' => hexEscape letter 4 start c
  | 'U' => hexEscape letter 8 start c
  | 'N' => nameEscape start c
  | _ =>
      if isAsciiLetter letter || isAsciiDigit letter then
        .error (.malformed (.badEscape ['\\', letter]) (some start))
      else .ok (.literal letter.toNat, c)

/-- The escape at `start`, whose first letter has been read, outside of a set. -/
def readEscape [CharacterNames] (letter : Char) (start : Nat) (s : Scope) (c : Cursor) :
    Outcome (EscapeMeaning × Cursor) :=
  match ((categoryEscape? letter).or (anchorEscape? letter)).or (controlEscape? letter) with
  | some meaning => .ok (meaning, c)
  | none =>
      if letter = '0' then octalEscape letter start c
      else if isAsciiDigit letter then numberEscape letter start s c
      else commonEscape letter start c

/-- The escape at `start`, whose first letter has been read, inside a set. -/
def readSetEscape [CharacterNames] (letter : Char) (start : Nat) (c : Cursor) :
    Outcome (EscapeMeaning × Cursor) :=
  match (controlEscape? letter).or (categoryEscape? letter) with
  | some meaning => .ok (meaning, c)
  | none =>
      if isOctalDigit letter then octalEscape letter start c
      else commonEscape letter start c

end Pattern

end LicenseNotices
