import LicenseNotices.Pattern.Node

/-!
The width of a pattern: the least and the greatest number of characters that it
matches. A lookbehind needs a pattern of one width.
-/
namespace LicenseNotices.Pattern

/-- Without a greatest number there is no bound. -/
structure Width where
  least : Nat
  most : Option Nat
  deriving DecidableEq, Repr

namespace Width

def exactly (n : Nat) : Width := ⟨n, some n⟩

/-- The width of one pattern followed by another. -/
def add (v w : Width) : Width :=
  ⟨v.least + w.least, do return (← v.most) + (← w.most)⟩

/-- The width of a choice between two patterns. -/
def either (v w : Width) : Width :=
  ⟨min v.least w.least, do return max (← v.most) (← w.most)⟩

def repeated (w : Width) (least : Nat) (most : Option Nat) : Width where
  least := w.least * least
  most :=
    match w.most, most with
    | some 0, _ => some 0
    | some n, some m => some (n * m)
    | _, some 0 => some 0
    | _, _ => none

end Width

/-- The width of a node, by the widths of the groups that it refers to. -/
def Node.width (groups : Nat → Width) : Node → Width
  | empty | anchor _ | ahead _ _ | behind _ _ _ _ => .exactly 0
  | literal _ | notLiteral _ | any | set _ _ => .exactly 1
  | reference index => groups index
  | seq first second => (first.width groups).add (second.width groups)
  | either first second => (first.width groups).either (second.width groups)
  | repeated _ least most body => (body.width groups).repeated least most
  | group _ body | withFlags _ _ body | atomic body => body.width groups
  | conditional _ yes no => (yes.width groups).either (no.width groups)

end LicenseNotices.Pattern
