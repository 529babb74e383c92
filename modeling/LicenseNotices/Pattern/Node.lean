import LicenseNotices.Pattern.Flags
import LicenseNotices.Text.Blank
import LicenseNotices.Text.LetterCase
import LicenseNotices.Text.Word

/-!
A pattern as a tree, and the classes of characters in it. Characters are given by
code points. Where case is ignored, a literal stands for all code points with
the same lower case, and for the few others that share the upper case of that.
-/
namespace LicenseNotices.Pattern

open Text

inductive Category
  | digit
  | blank
  | word
  deriving DecidableEq, Repr

def Category.holds (k : Category) (ascii : Bool) (c : Char) : Bool :=
  match k with
  | digit => if ascii then isAsciiDigit c else isDecimal c
  | blank => if ascii then isAsciiBlank c else isBlank c
  | word => if ascii then isAsciiWord c else isWord c

/-- A member of a set of characters. -/
inductive Member
  | literal (n : Nat)
  | range (first last : Nat)
  | category (k : Category) (negated : Bool)
  deriving DecidableEq, Repr

inductive Anchor
  | textStart
  | textEnd
  | lineStart
  | lineEnd
  | boundary
  | noBoundary
  deriving DecidableEq, Repr

/-- Whether a repetition takes as many rounds as it can, as few as it can, or as
many as it can without giving any back. -/
inductive RepeatMode
  | greedy
  | lazy
  | possessive
  deriving DecidableEq, Repr

inductive Node
  | empty
  | literal (n : Nat)
  | notLiteral (n : Nat)
  | any
  | set (negated : Bool) (members : List Member)
  | anchor (a : Anchor)
  | reference (group : Nat)
  | seq (first second : Node)
  | either (first second : Node)
  | repeated (mode : RepeatMode) (least : Nat) (most : Option Nat) (body : Node)
  | group (index : Nat) (body : Node)
  | withFlags (on off : Flags) (body : Node)
  | atomic (body : Node)
  | ahead (negated : Bool) (body : Node)
  | behind (negated : Bool) (least : Nat) (most : Option Nat) (body : Node)
  | conditional (group : Nat) (yes no : Node)
  deriving DecidableEq, Repr

namespace Node

/-- The nodes one after the other. -/
def ofList : List Node → Node
  | [] => empty
  | [n] => n
  | n :: rest => seq n (ofList rest)

/-- How many nodes stand inside one another, where those that follow each other stand side by
side, and so do alternatives. The flag is set behind the first alternative of a choice. -/
def depth (isAlternative : Bool := false) : Node → Nat
  | seq first second => max (first.depth false) (second.depth false)
  | either first second =>
      max (first.depth false) (second.depth true) + if isAlternative then 0 else 1
  | repeated _ _ _ body | group _ body | withFlags _ _ body | atomic body | ahead _ body
  | behind _ _ _ body => body.depth false + 1
  | conditional _ yes no => max (yes.depth false) (no.depth false) + 1
  | _ => 0

end Node

/-- The last code point that has a class of its own when case is ignored. -/
def lastFolded : Nat := 0xffff

/-- Whether a code point in lower case is that of `n`, or shares its upper case. -/
def sameCase (lowered n : Nat) : Bool := lowered = n || (extraCasesOf n).contains lowered

/-- A code point in lower case. -/
def lowered (ascii : Bool) (n : Nat) : Nat := if ascii then asciiLower n else lower n

/-- Whether a literal matches when case is ignored. -/
def literalFolds (ascii : Bool) (n : Nat) (c : Char) : Bool :=
  if ascii then asciiLower c.toNat = asciiLower n else sameCase (lower c.toNat) (lower n)

namespace Member

def holds (ascii : Bool) (c : Char) : Member → Bool
  | literal n => c.toNat = n
  | range first last => first ≤ c.toNat && c.toNat ≤ last
  | category k negated => k.holds ascii c != negated

/-- Whether the code point in lower case is in the member when case is ignored. -/
def folds (ascii : Bool) (c : Nat) : Member → Bool
  | literal n =>
      if lastFolded < n then c = n
      else if ascii then c = asciiLower n
      else sameCase c (lower n)
  | range first last =>
      let inside (n : Nat) : Bool := first ≤ n && n ≤ last
      let sources (n : Nat) : List Nat :=
        if ascii then
          (if asciiLower n = n then [n] else []) ++
            (if 97 ≤ n ∧ n ≤ 122 then [n - 32] else [])
        else lowerSources n
      let partners : List Nat := if ascii then [] else extraCasesOf c
      (c :: partners).any (fun n => (sources n).any fun m => inside m && m ≤ lastFolded) ||
        (lastFolded < last && (inside c || inside (upper c)))
  | category k negated => k.holds ascii (Char.ofNat c) != negated

end Member

/-- Whether a character is in a set. -/
def setHolds (flags : Flags) (negated : Bool) (members : List Member) (c : Char) : Bool :=
  let found :=
    if flags.ignoreCase then members.any (·.folds flags.ascii (lowered flags.ascii c.toNat))
    else members.any (·.holds flags.ascii c)
  found != negated

/-- The characters that a node for one character accepts. -/
def Node.accepts? (flags : Flags) : Node → Option (Char → Bool)
  | literal n =>
      some fun c => if flags.ignoreCase then literalFolds flags.ascii n c else c.toNat = n
  | notLiteral n =>
      some fun c => !(if flags.ignoreCase then literalFolds flags.ascii n c else c.toNat = n)
  | any => some fun c => flags.dotAll || c ≠ '\n'
  | set negated members => some (setHolds flags negated members)
  | withFlags on off body => body.accepts? (flags.within on off)
  | _ => Option.none

end LicenseNotices.Pattern
