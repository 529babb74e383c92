import LicenseNotices.Pattern.Escape

/-!
Sets of characters in brackets. A hyphen between two characters makes a range; at
either end of the set it is a character of its own. A closing bracket directly
behind the opening one does not close the set.
-/
namespace LicenseNotices.Pattern

open Text

variable [CharacterNames]

/-- One end of a range: what it means and the token it starts with. -/
structure SetItem where
  token : Token
  meaning : EscapeMeaning

namespace SetItem

def member (x : SetItem) : Member :=
  match x.meaning with
  | .literal n => .literal n
  | .category k negated => .category k negated
  | _ => .literal 0

end SetItem

/-- What a token of a set stands for; the cursor is behind the token. -/
def readSetItem (t : Token) (c : Cursor) : Outcome (SetItem × Cursor) :=
  match t with
  | .plain d => .ok (⟨t, .literal d.toNat⟩, c)
  | .escape d => do
      let (meaning, c) ← readSetEscape d (c.offset - 2) c
      return (⟨t, meaning⟩, c)
  | .dangling => .ok (⟨t, .literal 92⟩, c)

/-- The range between two items, which have just been read. -/
def range (first last : SetItem) (c : Cursor) : Outcome Member :=
  let reversed : Outcome Member :=
    c.fault (.badRange first.token.text last.token.text)
      (first.token.text.length + 1 + last.token.text.length)
  match first.meaning, last.meaning with
  | .literal m, .literal n => if m ≤ n then .ok (.range m n) else reversed
  | _, _ => reversed

/-- The members up to the closing bracket of the set that was opened at `start`. -/
def readMembers (start : Nat) : Nat → List Member → Cursor → Outcome (List Member × Cursor)
  | 0, _, _ => .error (.malformed .unterminatedSet (some start))
  | limit + 1, read, c => do
      match ← c.next with
      | (none, _) => .error (.malformed .unterminatedSet (some start))
      | (some t, c) =>
          if t = .plain ']' ∧ !read.isEmpty then return (read, c)
          else
            let (first, c) ← readSetItem t c
            let (isRange, c) ← c.take '-'
            if !isRange then readMembers start limit (read ++ [first.member]) c
            else
              match ← c.next with
              | (none, _) => .error (.malformed .unterminatedSet (some start))
              | (some t, c) =>
                  if t = .plain ']' then return (read ++ [first.member, .literal 45], c)
                  else
                    let (last, c) ← readSetItem t c
                    let member ← range first last c
                    readMembers start limit (read ++ [member]) c

/-- The set whose opening bracket has just been read. -/
def readSet (c : Cursor) : Outcome (Node × Cursor) := do
  let start := c.offset - 1
  let (negated, c) ← c.take '^'
  let (members, c) ← readMembers start (c.tokens.length + 1) [] c
  match members.eraseDups, negated with
  | [.literal n], false => return (.literal n, c)
  | [.literal n], true => return (.notLiteral n, c)
  | members, _ => return (.set negated members, c)

end LicenseNotices.Pattern
