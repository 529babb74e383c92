/-!
The flags of a pattern. They change what letters, line ends and blanks mean, for
a whole pattern or, switched on and off at the head of a group, for the group.
-/
namespace LicenseNotices.Pattern

structure Flags where
  ascii : Bool := false
  ignoreCase : Bool := false
  multiline : Bool := false
  dotAll : Bool := false
  verbose : Bool := false
  unicode : Bool := false
  template : Bool := false
  deriving DecidableEq, Repr

namespace Flags

def none : Flags := {}

/-- The flags that are set in at least one of the two. -/
def union (f g : Flags) : Flags where
  ascii := f.ascii || g.ascii
  ignoreCase := f.ignoreCase || g.ignoreCase
  multiline := f.multiline || g.multiline
  dotAll := f.dotAll || g.dotAll
  verbose := f.verbose || g.verbose
  unicode := f.unicode || g.unicode
  template := f.template || g.template

/-- The flags of `f` that are not in `g`. -/
def without (f g : Flags) : Flags where
  ascii := f.ascii && !g.ascii
  ignoreCase := f.ignoreCase && !g.ignoreCase
  multiline := f.multiline && !g.multiline
  dotAll := f.dotAll && !g.dotAll
  verbose := f.verbose && !g.verbose
  unicode := f.unicode && !g.unicode
  template := f.template && !g.template

/-- Whether two sets of flags have a flag in common. -/
def meets (f g : Flags) : Bool := f.without g ≠ f

/-- The flags inside a group: a choice of alphabet made there replaces the outer one. -/
def within (f on off : Flags) : Flags :=
  let outer := if on.ascii || on.unicode then { f with ascii := false, unicode := false } else f
  (outer.union on).without off

/-- The flag that a letter stands for. -/
def ofLetter (c : Char) : Option Flags :=
  match c with
  | 'a' => some { ascii := true }
  | 'i' => some { ignoreCase := true }
  | 'm' => some { multiline := true }
  | 's' => some { dotAll := true }
  | 'x' => some { verbose := true }
  | 'u' => some { unicode := true }
  | 't' => some { template := true }
  | _ => Option.none

end Flags

end LicenseNotices.Pattern
