import LicenseNotices.NestingLimits
import LicenseNotices.Pattern.CharacterSet
import LicenseNotices.Pattern.GroupHead

/-!
Reading a pattern. The reader keeps a frame for every group that is open: the
alternatives that are complete and the items of the one that is being read. A
quantifier takes the last item; a closing parenthesis makes the frame an item of
the frame around it. Alternatives that begin alike share their beginning, and
alternatives of one character each are a set.
-/
namespace LicenseNotices.Pattern

open Text

/-- An item of an alternative. A plain group is one item until its alternative is complete. -/
inductive Item
  | node (n : Node)
  | plain (contents : List Node)
  deriving Repr

namespace Item

def nodes : Item → List Node
  | node n => [n]
  | plain contents => contents

/-- What a quantifier behind the item repeats. -/
def body (x : Item) : Node := .ofList x.nodes

end Item

inductive FrameKind
  | top
  | capture (group : Nat)
  | plain (on off : Flags)
  | atomic
  | look (isBehind negated isOutermost : Bool)
  | condition (group : Nat)
  deriving Repr

structure Frame where
  kind : FrameKind
  /-- Where the opening parenthesis stands. -/
  start : Nat
  verbose : Bool
  alternatives : List (List Node) := []
  items : List Item := []
  deriving Repr

namespace Frame

def push (f : Frame) (x : Item) : Frame := { f with items := f.items ++ [x] }

def pushNode (f : Frame) (n : Node) : Frame := f.push (.node n)

/-- All alternatives, the one that is being read included. -/
def allAlternatives (f : Frame) : List (List Node) :=
  f.alternatives ++ [f.items.flatMap Item.nodes]

end Frame

/-- Nodes that hold no other nodes. Two of them that are equal can be shared. -/
def Node.isLeaf : Node → Bool
  | literal _ | notLiteral _ | any | set _ _ | anchor _ | reference _ => true
  | _ => false

/-- Splits off the leaves that all alternatives begin with. -/
def splitShared (others : List (List Node)) : List Node → List Node × List (List Node)
  | [] => ([], [] :: others)
  | n :: rest =>
      if n.isLeaf && others.all (·.head? = some n) then
        let (shared, ends) := splitShared (others.map List.tail) rest
        (n :: shared, ends)
      else ([], (n :: rest) :: others)

/-- The members of a set that an alternative of one character can join. -/
def joinableMembers? : List Node → Option (List Member)
  | [.literal n] => some [.literal n]
  | [.set false members] => some members
  | _ => none

def eitherOf : List (List Node) → Node
  | [] => .empty
  | [nodes] => .ofList nodes
  | nodes :: rest => .either (.ofList nodes) (eitherOf rest)

/-- The nodes of a group with those alternatives. -/
def joinAlternatives : List (List Node) → List Node
  | [] => []
  | [nodes] => nodes
  | nodes :: rest =>
      let (shared, ends) := splitShared rest nodes
      match ends.mapM joinableMembers? with
      | some members => shared ++ [.set false members.flatten.eraseDups]
      | none => shared ++ [eitherOf ends]

structure Reader where
  scope : Scope
  /-- The frames of the open groups, the innermost one first. -/
  enclosing : List Frame := []
  frame : Frame
  deriving Repr

namespace Reader

def update (r : Reader) (change : Frame → Frame) : Reader := { r with frame := change r.frame }

def pushNode (r : Reader) (n : Node) : Reader := r.update (·.pushNode n)

def openFrame (r : Reader) (kind : FrameKind) (start : Nat) (verbose : Bool) : Reader :=
  { r with enclosing := r.frame :: r.enclosing, frame := { kind, start, verbose } }

/-- A bar: the next alternative begins. -/
def nextAlternative (r : Reader) : Reader :=
  r.update fun f =>
    { f with
      alternatives := f.allAlternatives
      items := []
      verbose := match f.kind with
        | .top => r.scope.flags.verbose
        | _ => f.verbose }

/-- What a frame becomes when it is closed, and the scope behind it. -/
def closed (s : Scope) (f : Frame) : Item × Scope :=
  let nodes := joinAlternatives f.allAlternatives
  let body := Node.ofList nodes
  match f.kind with
  | .top => (.plain nodes, s)
  | .capture group => (.node (.group group body), s.closeGroup group (body.width s.groupWidth))
  | .plain on off =>
      if on = .none ∧ off = .none then (.plain nodes, s)
      else (.node (.withFlags on off body), s)
  | .atomic => (.node (.atomic body), s)
  | .look false negated _ => (.node (.ahead negated body), s)
  | .look true negated isOutermost =>
      let width := body.width s.groupWidth
      (.node (.behind negated width.least width.most body),
        if isOutermost then { s with lookbehind := none } else s)
  | .condition group =>
      match f.allAlternatives with
      | yes :: no :: _ => (.node (.conditional group (.ofList yes) (.ofList no)), s)
      | _ => (.node (.conditional group body .empty), s)

/-- A closing parenthesis. There has to be an open group. -/
def close (r : Reader) : Option Reader :=
  match r.enclosing with
  | [] => none
  | outer :: enclosing =>
      let (x, scope) := closed r.scope r.frame
      some { scope, enclosing, frame := outer.push x }

/-- A head of a group that was opened at `start`. -/
def openGroup (r : Reader) (start : Nat) (head : GroupHead) (c : Cursor) :
    Outcome (Reader × Cursor) :=
  match head with
  | .comment => do return (r, ← skipComment start (c.tokens.length + 1) c)
  | .reference group => .ok (r.pushNode (.reference group), c)
  | .global flags =>
      let scope := { r.scope with flags := r.scope.flags.union flags }
      let isFirst := r.enclosing.isEmpty && r.frame.alternatives.isEmpty && r.frame.items.isEmpty
      if isFirst then
        .ok ({ r with scope, frame := { r.frame with verbose := scope.flags.verbose } }, c)
      else .error (.malformed .lateGlobalFlags (some start))
  | .capture name =>
      match r.scope.openGroup name with
      | .ok (group, scope) =>
          .ok ({ r with scope }.openFrame (.capture group) start r.frame.verbose, c)
      | .error cause => c.fault cause ((name.getD []).length + 1)
  | .plain on off =>
      let verbose := (r.frame.verbose || on.verbose) && !off.verbose
      .ok (r.openFrame (.plain on off) start verbose, c)
  | .atomic => .ok (r.openFrame .atomic start r.frame.verbose, c)
  | .look isBehind negated =>
      let isOutermost := isBehind && r.scope.lookbehind.isNone
      let scope :=
        if isOutermost then { r.scope with lookbehind := some (r.scope.groups.length + 1) }
        else r.scope
      .ok ({ r with scope }.openFrame (.look isBehind negated isOutermost) start r.frame.verbose, c)
  | .condition group named => do
      let conditions := r.scope.conditions
      let conditions := match named with
        | some offset =>
            if conditions.any (·.1 = group) then conditions else conditions ++ [(group, offset)]
        | none => conditions
      r.scope.checkLookbehind group c
      let r := { r with scope := { r.scope with conditions } }
      return (r.openFrame (.condition group) start r.frame.verbose, c)

/-- No bound of a repetition reaches this number. -/
def repeatLimit : Nat := 4294967295

/-- Bounds in braces, when that is what they hold. -/
def readBounds (c : Cursor) : Outcome (Option (Text × Text × Cursor)) := do
  let (low, c) ← c.takeWhile isAsciiDigit c.tokens.length
  let (isPair, c) ← c.take ','
  let (high, c) ← if isPair then c.takeWhile isAsciiDigit c.tokens.length else pure (low, c)
  let (isClosed, c) ← c.take '\x7d'
  return if isClosed then some (low, high, c) else none

/-- A bound that is written down has to be below the limit. -/
def bound (digits : Text) : Outcome (Option Nat) :=
  if digits.isEmpty then .ok none
  else if integerDigitLimit < digits.length then .error (.tooManyDigits digits.length)
  else if repeatLimit ≤ digitsValue 10 digits then .error .repetitionTooLarge
  else .ok (some (digitsValue 10 digits))

/-- Repeats the last item. The quantifier has been read and starts at `start`. -/
def quantify (r : Reader) (least : Nat) (most : Option Nat) (start : Nat) (c : Cursor) :
    Outcome (Reader × Cursor) := do
  match r.frame.items.getLast? with
  | none => .error (.malformed .nothingToRepeat (some start))
  | some (.node (.anchor _)) => .error (.malformed .nothingToRepeat (some start))
  | some (.node (.repeated _ _ _ _)) => .error (.malformed .multipleRepeat (some start))
  | some x =>
      let (isLazy, c) ← c.take '?'
      let (isPossessive, c) ← if isLazy then pure (false, c) else c.take '+'
      let mode := if isLazy then .lazy else if isPossessive then .possessive else .greedy
      let node := Node.repeated mode least most x.body
      return (r.update fun f => { f with items := f.items.dropLast ++ [.node node] }, c)

/-- An opening brace, which has just been read. Without bounds it stands for itself. -/
def quantifyByBounds (r : Reader) (c : Cursor) : Outcome (Reader × Cursor) := do
  let literal := (r.pushNode (.literal 123), c)
  if c.peek? = some (.plain '\x7d') then return literal
  else
    match ← readBounds c with
    | none => return literal
    | some (low, high, behind) =>
        let least ← bound low
        let most ← bound high
        match least, most with
        | some m, some n =>
            if n < m then .error (.malformed .repeatBoundsReversed (some c.offset))
            else r.quantify m (some n) (c.offset - 1) behind
        | least, most => r.quantify (least.getD 0) most (c.offset - 1) behind

/-- The cursor behind the line that a comment is in. -/
def skipLine : Nat → Cursor → Outcome Cursor
  | 0, c => .ok c
  | limit + 1, c => do
      match ← c.next with
      | (none, c) => return c
      | (some t, c) => if t = .plain '\n' then return c else skipLine limit c

section

variable [CharacterNames]

/-- Reads on behind a plain character, which is neither a bar nor a closing parenthesis. -/
def readPlain (r : Reader) (d : Char) (c : Cursor) : Outcome (Reader × Cursor) := do
  let start := c.offset - 1
  if r.frame.verbose && isAsciiBlank d then return (r, c)
  else if r.frame.verbose && d = '#' then return (r, ← skipLine c.tokens.length c)
  else
    match d with
    | '.' => return (r.pushNode .any, c)
    | '^' => return (r.pushNode (.anchor .lineStart), c)
    | '$' => return (r.pushNode (.anchor .lineEnd), c)
    | '[' => do
        let (n, c) ← readSet c
        return (r.pushNode n, c)
    | '(' => do
        let (head, c) ← readHead r.scope c
        r.openGroup start head c
    | '*' => r.quantify 0 none start c
    | '+' => r.quantify 1 none start c
    | '?' => r.quantify 0 (some 1) start c
    | '\x7b' => r.quantifyByBounds c
    | d => return (r.pushNode (.literal d.toNat), c)

/-- Reads on behind an escape that starts at `start`. -/
def readEscaped (r : Reader) (d : Char) (c : Cursor) : Outcome (Reader × Cursor) := do
  let (meaning, c) ← readEscape d (c.offset - 2) r.scope c
  let node := match meaning with
    | .literal n => .literal n
    | .category k negated => .set false [.category k negated]
    | .anchor a => .anchor a
    | .reference group => .reference group
  return (r.pushNode node, c)

/-- The reader, unless too many groups are open. -/
def checked [NestingLimits] (r : Reader) : Outcome Reader :=
  if NestingLimits.groups < r.enclosing.length then .error .nestedTooDeep else .ok r

/-- Reads on while there are tokens. A closing parenthesis without a group ends it. -/
def readAll [NestingLimits] : Nat → Reader → Cursor → Outcome (Reader × Cursor)
  | 0, r, c => .ok (r, c)
  | limit + 1, r, c =>
      match c.peek? with
      | none => .ok (r, c)
      | some (.plain '|') =>
          let isThird := match r.frame.kind with
            | .condition _ => !r.frame.alternatives.isEmpty
            | _ => false
          if isThird then c.fault .tooManyBranches
          else do
            let (_, c) ← c.next
            readAll limit r.nextAlternative c
      | some (.plain ')') =>
          match r.close with
          | none => .ok (r, c)
          | some closed => do
              let (_, c) ← c.next
              readAll limit closed c
      | some (.plain d) => do
          let (_, c) ← c.next
          let (r, c) ← r.readPlain d c
          readAll limit (← r.checked) c
      | some (.escape d) => do
          let (_, c) ← c.next
          let (r, c) ← r.readEscaped d c
          readAll limit r c
      | some .dangling => c.fault .danglingBackslash

end

end Reader

end LicenseNotices.Pattern
