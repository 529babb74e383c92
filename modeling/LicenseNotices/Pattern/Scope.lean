import LicenseNotices.Pattern.Flags
import LicenseNotices.Pattern.Token
import LicenseNotices.Pattern.Width

/-!
What is known about a pattern at the place that reading has come to: its flags,
its groups with their names and, as soon as they are closed, their widths, the
number of groups before the outermost open lookbehind, and the conditions on
groups that may still follow.
-/
namespace LicenseNotices.Pattern

structure Scope where
  flags : Flags
  /-- The groups in order; one that is still open has no width yet. -/
  groups : List (Option Width) := []
  names : List (Text × Nat) := []
  lookbehind : Option Nat := none
  /-- The groups of conditions, each with the offset at which it was first named. -/
  conditions : List (Nat × Nat) := []
  deriving Repr

namespace Scope

def groupWidth? (s : Scope) (group : Nat) : Option Width :=
  if group = 0 then none else (s.groups[group - 1]?).join

/-- A group that is still open counts as having no width at all. -/
def groupWidth (s : Scope) (group : Nat) : Width :=
  (s.groupWidth? group).getD (.exactly 0)

def isClosed (s : Scope) (group : Nat) : Bool := (s.groupWidth? group).isSome

def groupNamed? (s : Scope) (name : Text) : Option Nat :=
  (s.names.find? (·.1 = name)).map (·.2)

/-- Opens a group, and tells its number. -/
def openGroup (s : Scope) (name : Option Text) : Except Cause (Nat × Scope) :=
  let number := s.groups.length + 1
  let opened := { s with groups := s.groups ++ [none] }
  match name with
  | none => .ok (number, opened)
  | some name =>
      match s.groupNamed? name with
      | some previous => .error (.groupNameTaken name number previous)
      | none => .ok (number, { opened with names := s.names ++ [(name, number)] })

def closeGroup (s : Scope) (group : Nat) (width : Width) : Scope :=
  { s with groups := s.groups.set (group - 1) (some width) }

/-- Inside a lookbehind only the groups closed before it can be referred to. -/
def checkLookbehind (s : Scope) (group : Nat) (c : Cursor) : Outcome Unit :=
  match s.lookbehind with
  | none => .ok ()
  | some limit =>
      if !s.isClosed group then c.fault .openGroupReference
      else if limit ≤ group then c.fault .lookbehindGroupReference
      else .ok ()

end Scope

end LicenseNotices.Pattern
