import LicenseNotices.Pattern.Escape
import LicenseNotices.Text.Identifier
import LicenseNotices.Text.Integer

/-!
What follows an opening parenthesis. A question mark makes the group a special
one: named, without number, atomic, a look around, a condition on another group,
or with flags switched on and off. Some heads are complete patterns or nothing at
all: a reference by name, a comment, and flags for the whole pattern.
-/
namespace LicenseNotices.Pattern

open Text

inductive GroupHead
  | capture (name : Option Text)
  | plain (on off : Flags)
  | atomic
  | look (isBehind negated : Bool)
  | condition (group : Nat) (named : Option Nat)
  | reference (group : Nat)
  | comment
  | global (flags : Flags)
  deriving Repr

/-- The flag of a letter at the cursor, when it may be switched on. -/
def flagOn (read : Flags) (letter : Char) (c : Cursor) : Outcome Flags :=
  match Flags.ofLetter letter with
  | none => c.fault .localeFlag
  | some flag =>
      let alphabets (f : Flags) : Flags := { ascii := f.ascii, unicode := f.unicode }
      let read := read.union flag
      if alphabets flag ≠ .none ∧ alphabets read ≠ flag then c.fault .conflictingFlags
      else .ok read

/-- Whether a token is a letter that stands for a flag. -/
def isFlagToken (t : Token) : Bool :=
  match t with
  | .plain c => (Flags.ofLetter c).isSome || c = 'L'
  | _ => false

/-- The flags that are switched on, from the given letter on, and what ends them. -/
def readFlagsOn : Nat → Flags → Char → Cursor → Outcome (Flags × Char × Cursor)
  | 0, _, _, c => c.fault (.missing "-, : or )")
  | limit + 1, read, letter, c => do
      let read ← flagOn read letter c
      match ← c.next with
      | (none, c) => c.fault (.missing "-, : or )")
      | (some (.plain d), c) =>
          if d = ')' ∨ d = '-' ∨ d = ':' then return (read, d, c)
          else if isFlagToken (.plain d) then readFlagsOn limit read d c
          else c.fault (if isLetter d then .unknownFlag else .missing "-, : or )") 1
      | (some t, c) => c.fault (.missing "-, : or )") t.text.length

/-- The flags that are switched off, from the given letter on, up to the colon. -/
def readFlagsOff : Nat → Flags → Char → Cursor → Outcome (Flags × Cursor)
  | 0, _, _, c => c.fault (.missing ":")
  | limit + 1, read, letter, c => do
      let flag := (Flags.ofLetter letter).getD { ascii := true }
      if flag.ascii || flag.unicode then c.fault .alphabetFlagOff
      else
        let read := read.union flag
        match ← c.next with
        | (none, c) => c.fault (.missing ":")
        | (some (.plain d), c) =>
            if d = ':' then return (read, c)
            else if isFlagToken (.plain d) then readFlagsOff limit read d c
            else c.fault (if isLetter d then .unknownFlag else .missing ":") 1
        | (some t, c) => c.fault (.missing ":") t.text.length

/-- What the hyphen starts: the flags to switch off. -/
def readOffPart (c : Cursor) : Outcome (Flags × Cursor) := do
  match ← c.next with
  | (none, c) => c.fault (.missing "flag")
  | (some (.plain d), c) =>
      if isFlagToken (.plain d) then readFlagsOff (c.tokens.length + 1) .none d c
      else c.fault (if isLetter d then .unknownFlag else .missing "flag") 1
  | (some t, c) => c.fault (.missing "flag") t.text.length

/-- A head made of flags, whose first character has been read. -/
def readFlags (first : Char) (c : Cursor) : Outcome (GroupHead × Cursor) := do
  let (on, ending, c) ←
    if first = '-' then pure (Flags.none, '-', c)
    else readFlagsOn (c.tokens.length + 1) .none first c
  if ending = ')' then return (.global on, c)
  else if on.template then c.fault .globalFlagOn 1
  else
    let (off, c) ← if ending = '-' then readOffPart c else pure (Flags.none, c)
    if off.template then c.fault .globalFlagOff 1
    else if on.meets off then c.fault .flagOnAndOff 1
    else return (.plain on off, c)

/-- A name of a group, up to its terminator. -/
def readGroupName (terminator : Char) (c : Cursor) : Outcome (Text × Cursor) := do
  let (name, c) ← c.name "group name" terminator
  if isIdentifier name then return (name, c)
  else c.fault (.badGroupName name) (name.length + 1)

/-- A reference to a group by its name. -/
def readNamedReference (s : Scope) (c : Cursor) : Outcome (GroupHead × Cursor) := do
  let (name, c) ← readGroupName ')' c
  match s.groupNamed? name with
  | none => c.fault (.unknownGroupName name) (name.length + 1)
  | some group =>
      if !s.isClosed group then c.fault .openGroupReference (name.length + 1)
      else
        s.checkLookbehind group c
        return (.reference group, c)

/-- No pattern has that many groups. -/
def groupLimit : Nat := 1073741823

/-- The condition of a conditional, by name or by number. -/
def readCondition (s : Scope) (c : Cursor) : Outcome (GroupHead × Cursor) := do
  let (name, c) ← c.name "group name" ')'
  let back := name.length + 1
  let head : GroupHead ←
    if isIdentifier name then
      match s.groupNamed? name with
      | none => c.fault (.unknownGroupName name) back
      | some group => pure (.condition group none)
    else
      match integer? name with
      | some (.ofNat group) =>
          if group = 0 then c.fault .badGroupNumber back
          else if groupLimit ≤ group then c.fault (.invalidReference group) back
          else pure (.condition group (some (c.offset - back)))
      | _ => c.fault (.badGroupName name) back
  return (head, c)

/-- A look around or, behind a less-than sign, one that looks back. -/
def readLook (first : Char) (c : Cursor) : Outcome (GroupHead × Cursor) := do
  if first ≠ '<' then return (.look false (first = '!'), c)
  else
    match ← c.next with
    | (none, c) => c.fault .unexpectedEnd
    | (some t, c) =>
        if t = .plain '=' then return (.look true false, c)
        else if t = .plain '!' then return (.look true true, c)
        else c.fault (.unknownExtension ('<' :: t.text)) (t.text.length + 2)

/-- The heads that are marked by a capital letter. -/
def readNamed (s : Scope) (c : Cursor) : Outcome (GroupHead × Cursor) := do
  let (isGroup, c) ← c.take '<'
  if isGroup then
    let (name, c) ← readGroupName '>' c
    return (.capture (some name), c)
  else
    let (isReference, c) ← c.take '='
    if isReference then readNamedReference s c
    else
      match ← c.next with
      | (none, c) => c.fault .unexpectedEnd
      | (some t, c) => c.fault (.unknownExtension ('P' :: t.text)) (t.text.length + 2)

/-- The head of the group whose parenthesis has just been read. -/
def readHead (s : Scope) (c : Cursor) : Outcome (GroupHead × Cursor) := do
  let (isSpecial, c) ← c.take '?'
  if !isSpecial then return (.capture none, c)
  else
    match ← c.next with
    | (none, c) => c.fault .unexpectedEnd
    | (some t, c) =>
        match t with
        | .plain 'P' => readNamed s c
        | .plain ':' => return (.plain .none .none, c)
        | .plain '#' => return (.comment, c)
        | .plain '=' => readLook '=' c
        | .plain '!' => readLook '!' c
        | .plain '<' => readLook '<' c
        | .plain '(' => readCondition s c
        | .plain '>' => return (.atomic, c)
        | .plain '-' => readFlags '-' c
        | .plain d =>
            if isFlagToken t then readFlags d c
            else c.fault (.unknownExtension [d]) 2
        | t => c.fault (.unknownExtension t.text) (t.text.length + 1)

/-- The cursor behind a comment that was opened at `start`. -/
def skipComment (start : Nat) : Nat → Cursor → Outcome Cursor
  | 0, _ => .error (.malformed .unterminatedComment (some start))
  | limit + 1, c => do
      match ← c.next with
      | (none, _) => .error (.malformed .unterminatedComment (some start))
      | (some t, c) => if t = .plain ')' then return c else skipComment start limit c

end LicenseNotices.Pattern
