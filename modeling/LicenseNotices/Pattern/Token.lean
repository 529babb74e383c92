import LicenseNotices.Pattern.Fault

/-!
The tokens of a pattern: single characters, and pairs of a backslash and the
character behind it. A cursor stands before a token. Moving it onto a backslash
at the very end of the pattern is a fault.
-/
namespace LicenseNotices.Pattern

inductive Token
  | plain (c : Char)
  | escape (c : Char)
  | dangling
  deriving DecidableEq, Repr

namespace Token

def text : Token → Text
  | plain c => [c]
  | escape c => ['\\', c]
  | dangling => ['\\']

def ofText : Text → List Token
  | [] => []
  | ['\\'] => [dangling]
  | '\\' :: c :: rest => escape c :: ofText rest
  | c :: rest => plain c :: ofText rest

end Token

structure Cursor where
  tokens : List Token
  offset : Nat
  deriving Repr

abbrev Outcome (α : Type) := Except Fault α

namespace Cursor

/-- A fault that shows `back` characters before the cursor. -/
def fault {α : Type} (c : Cursor) (cause : Cause) (back : Nat := 0) : Outcome α :=
  .error (.malformed cause (some (c.offset - back)))

/-- The cursor, unless it stands before a backslash at the end of the pattern. -/
def checked (c : Cursor) : Outcome Cursor :=
  match c.tokens with
  | .dangling :: _ => c.fault .danglingBackslash
  | _ => .ok c

def ofText (t : Text) : Outcome Cursor := checked ⟨Token.ofText t, 0⟩

def peek? (c : Cursor) : Option Token := c.tokens.head?

/-- The next token, if there is one, and the cursor behind it. -/
def next (c : Cursor) : Outcome (Option Token × Cursor) :=
  match c.tokens with
  | [] => .ok (none, c)
  | t :: rest => do return (some t, ← checked ⟨rest, c.offset + t.text.length⟩)

/-- Whether the given character stands next, and the cursor behind it if it does. -/
def take (c : Cursor) (expected : Char) : Outcome (Bool × Cursor) := do
  if c.peek? = some (.plain expected) then return (true, (← c.next).2) else return (false, c)

/-- Up to `limit` characters of a class. -/
def takeWhile (c : Cursor) (p : Char → Bool) : Nat → Outcome (Text × Cursor)
  | 0 => .ok ([], c)
  | limit + 1 =>
      match c.peek? with
      | some (.plain d) =>
          if p d then do
            let (_, behind) ← c.next
            let (more, behind) ← behind.takeWhile p limit
            return (d :: more, behind)
          else .ok ([], c)
      | _ => .ok ([], c)

/-- The tokens before a terminator, with the terminator among the tokens to come. -/
def takeName (c : Cursor) (what : String) (terminator : Char) : Nat → Text → Outcome (Text × Cursor)
  | 0, read =>
      if read.isEmpty then c.fault (.missing what)
      else c.fault (.unterminatedName terminator) read.length
  | limit + 1, read => do
      match ← c.next with
      | (none, _) =>
          if read.isEmpty then c.fault (.missing what)
          else c.fault (.unterminatedName terminator) read.length
      | (some t, behind) =>
          if t ≠ .plain terminator then behind.takeName what terminator limit (read ++ t.text)
          else if read.isEmpty then behind.fault (.missing what) 1
          else return (read, behind)

/-- A name up to its terminator, which is taken as well. -/
def name (c : Cursor) (what : String) (terminator : Char) : Outcome (Text × Cursor) :=
  c.takeName what terminator c.tokens.length []

end Cursor

end LicenseNotices.Pattern
