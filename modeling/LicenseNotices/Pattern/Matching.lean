import LicenseNotices.Pattern.Node
import LicenseNotices.Text.Basic

/-!
Matching by backtracking. A matcher is given what has to match behind it and a
place in the text, and it answers with the first place at which everything has
matched. Choices are tried in the order in which the pattern states them. A
repetition goes on from a place where it has just been only once, so the number
of its rounds is bounded by what is left of the text.
-/
namespace LicenseNotices.Pattern

open Text

/-- What a group has matched: a text that starts with it, and its length. -/
structure Capture where
  group : Nat
  start : Text
  length : Nat

/-- A place in a text, with the characters before it, nearest first. -/
structure Place where
  before : Text
  after : Text
  left : Nat
  captures : List Capture := []

namespace Place

def ofText (t : Text) : Place := { before := [], after := t, left := t.length }

/-- The place behind the next character, if that is accepted. -/
def next? (accepts : Char → Bool) (p : Place) : Option Place :=
  match p.after with
  | c :: rest =>
      if accepts c then
        some { p with before := c :: p.before, after := rest, left := p.left - 1 }
      else none
  | [] => none

/-- The place that many characters before. -/
def back? (p : Place) : Nat → Option Place
  | 0 => some p
  | n + 1 =>
      match p.before with
      | c :: rest => back? { p with before := rest, after := c :: p.after, left := p.left + 1 } n
      | [] => none

def captured? (p : Place) (group : Nat) : Option Capture :=
  p.captures.find? (·.group = group)

/-- The place with what the group has matched since `start`. -/
def capture (p : Place) (group : Nat) (start : Place) : Place :=
  { p with captures :=
      ⟨group, start.after, start.left - p.left⟩ :: p.captures.filter (·.group ≠ group) }

/-- Whether a word character stands on exactly one side. -/
def atBoundary (ascii : Bool) (p : Place) : Bool :=
  let holds (t : Text) : Bool := t.head?.any (Category.word.holds ascii)
  holds p.before != holds p.after

def isAt (flags : Flags) (p : Place) : Anchor → Bool
  | .textStart => p.before.isEmpty
  | .textEnd => p.after.isEmpty
  | .lineStart =>
      p.before.isEmpty || (flags.multiline && p.before.head? = some '\n')
  | .lineEnd =>
      p.after.isEmpty || p.after = ['\n'] || (flags.multiline && p.after.head? = some '\n')
  | .boundary => p.atBoundary flags.ascii
  | .noBoundary =>
      !(p.before.isEmpty && p.after.isEmpty) && !p.atBoundary flags.ascii

end Place

abbrev Continuation := Place → Option Place

/-- Succeeds where its continuation does, behind something that it matches itself. -/
abbrev Matcher := Continuation → Continuation

namespace Matcher

def either (m n : Matcher) : Matcher := fun k p =>
  match m k p with
  | some q => some q
  | none => n k p

/-- A fixed number of rounds. -/
def exactly (m : Matcher) : Nat → Matcher
  | 0, k, p => k p
  | n + 1, k, p => m (exactly m n k) p

/-- Up to `rounds` rounds, more before fewer. -/
def greedy (m : Matcher) (k : Continuation) : Nat → Option Nat → Continuation
  | 0, _, p => k p
  | rounds + 1, last, p =>
      if last = some p.left then k p
      else
        match m (greedy m k rounds (some p.left)) p with
        | some q => some q
        | none => k p

/-- Up to `rounds` rounds, fewer before more. -/
def lazy (m : Matcher) (k : Continuation) : Nat → Option Nat → Continuation
  | 0, _, p => k p
  | rounds + 1, last, p =>
      match k p with
      | some q => some q
      | none =>
          if last = some p.left then none else m (lazy m k rounds (some p.left)) p

/-- The place behind up to `rounds` rounds, each taken as it first matches. -/
def advance (m : Matcher) : Nat → Place → Place
  | 0, p => p
  | rounds + 1, p =>
      match m some p with
      | some q => if q.left = p.left then q else advance m rounds q
      | none => p

/-- A fixed number of rounds, each taken as it first matches. -/
def advanceExactly (m : Matcher) : Nat → Place → Option Place
  | 0, p => some p
  | n + 1, p => (m some p).bind (advanceExactly m n)

/-- How many rounds beyond the least number can be of use at a place. -/
def spare (least : Nat) (most : Option Nat) (p : Place) : Nat :=
  match most with
  | some n => min (n - least) (p.left + 1)
  | none => p.left + 1

def repeated (m : Matcher) (mode : RepeatMode) (least : Nat) (most : Option Nat) : Matcher :=
  fun k p =>
    match mode with
    | .greedy => m.exactly least (fun q => m.greedy k (spare least most q) none q) p
    | .lazy => m.exactly least (fun q => m.lazy k (spare least most q) none q) p
    | .possessive =>
        (m.advanceExactly least p).bind fun q => k (m.advance (spare least most q) q)

/-- The place behind all characters up to `rounds` that are accepted, and their number. -/
def skip (accepts : Char → Bool) : Nat → Nat → Place → Nat × Place
  | 0, count, p => (count, p)
  | rounds + 1, count, p =>
      match p.next? accepts with
      | some q => skip accepts rounds (count + 1) q
      | none => (count, p)

/-- Goes on at a place, else at the one before it, and so on, `count` places back. -/
def retreat (k : Continuation) : Nat → Continuation
  | 0, p => k p
  | count + 1, p =>
      match k p with
      | some q => some q
      | none => (p.back? 1).bind (retreat k count)

/-- Goes on at a place, else behind each further character that is accepted. -/
def proceed (accepts : Char → Bool) (k : Continuation) : Nat → Continuation
  | 0, p => k p
  | rounds + 1, p =>
      match k p with
      | some q => some q
      | none => (p.next? accepts).bind (proceed accepts k rounds)

/-- A repetition of one character. It needs no rounds of its own. -/
def run (accepts : Char → Bool) (mode : RepeatMode) (least : Nat) (most : Option Nat) :
    Matcher := fun k p =>
  let limit := match most with
    | some n => min n p.left
    | none => p.left
  let (count, q) := skip accepts (match mode with | .lazy => min least limit | _ => limit) 0 p
  if count < least then none
  else
    match mode with
    | .greedy => retreat k (count - least) q
    | .lazy => proceed accepts k (limit - count) q
    | .possessive => k q

/-- The rest behind a copy of the first `length` characters of a text. -/
def copy (same : Char → Char → Bool) : Nat → Text → Place → Option Place
  | 0, _, p => some p
  | _ + 1, [], _ => none
  | n + 1, c :: rest, p => (p.next? (same c)).bind (copy same n rest)

end Matcher

/-- Whether two characters are the same to a reference. -/
def sameCharacter (flags : Flags) (c d : Char) : Bool :=
  if flags.ignoreCase then lowered flags.ascii c.toNat = lowered flags.ascii d.toNat else c = d

namespace Node

def matcher (flags : Flags) : Node → Matcher
  | empty => fun k p => k p
  | n@(literal _) | n@(notLiteral _) | n@any | n@(set _ _) => fun k p =>
      match n.accepts? flags with
      | some accepts => (p.next? accepts).bind k
      | none => none
  | anchor a => fun k p => if p.isAt flags a then k p else none
  | reference index => fun k p =>
      match p.captured? index with
      | some c => (Matcher.copy (sameCharacter flags) c.length c.start p).bind k
      | none => none
  | seq first second => fun k p => first.matcher flags (second.matcher flags k) p
  | either first second => fun k p =>
      Matcher.either (first.matcher flags) (second.matcher flags) k p
  | repeated mode least most body => fun k p =>
      match body.accepts? flags with
      | some accepts => Matcher.run accepts mode least most k p
      | none => Matcher.repeated (body.matcher flags) mode least most k p
  | group index body => fun k p =>
      body.matcher flags (fun q => k (q.capture index p)) p
  | withFlags on off body => body.matcher (flags.within on off)
  | atomic body => fun k p => (body.matcher flags some p).bind k
  | ahead negated body => fun k p =>
      match body.matcher flags some p, negated with
      | some q, false => k { p with captures := q.captures }
      | none, true => k p
      | _, _ => none
  | behind negated width _ body => fun k p =>
      match (p.back? width).bind (body.matcher flags some), negated with
      | some q, false => k { p with captures := q.captures }
      | none, true => k p
      | _, _ => none
  | conditional index yes no => fun k p =>
      if (p.captured? index).isSome then yes.matcher flags k p else no.matcher flags k p

/-- Whether the node matches at a place or at a later one. -/
def foundFrom (flags : Flags) (n : Node) : Nat → Place → Bool
  | 0, p => (n.matcher flags some p).isSome
  | steps + 1, p =>
      (n.matcher flags some p).isSome ||
        match p.next? fun _ => true with
        | some q => foundFrom flags n steps q
        | none => false

/-- Whether the node matches anywhere in a text. -/
def isFoundIn (flags : Flags) (n : Node) (t : Text) : Bool :=
  n.foundFrom flags t.length (.ofText t)

end Node

end LicenseNotices.Pattern
