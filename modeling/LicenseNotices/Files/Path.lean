import LicenseNotices.Text.Basic

/-!
Paths of files. A path is the number of slashes that it starts with, where more
than two count as one, and the names between the slashes, without the empty ones
and those that stand for the same directory. A location is a list of names from
the root down; a path leads to a location once it is known where it starts.
-/
namespace LicenseNotices

structure Path where
  slashes : Nat := 0
  parts : List Text := []
  deriving DecidableEq, Repr

/-- The names on the way from the root to a file. -/
abbrev Location := List Text

namespace Path

def here : Text := ['.']

def above : Text := ['.', '.']

/-- The number of slashes that a path keeps of those at its start. -/
def keptSlashes (n : Nat) : Nat := if n ≤ 2 then n else 1

def ofText (t : Text) : Path where
  slashes := keptSlashes (t.takeWhile (· = '/')).length
  parts := (t.splitOn '/').filter fun name => name ≠ [] ∧ name ≠ here

/-- A path without slashes and names is that of the current directory. -/
def text (p : Path) : Text :=
  let t := List.replicate p.slashes '/' ++ Text.join ['/'] p.parts
  if t.isEmpty then here else t

/-- The text of a path as part of a message. -/
def shown (p : Path) : String := String.ofList p.text

def isAbsolute (p : Path) : Bool := p.slashes ≠ 0

/-- The path of a file in the directory of a path. -/
def child (p : Path) (name : Text) : Path := { p with parts := p.parts ++ [name] }

/-- What follows the last dot of the last name, when the dot is neither its first nor its
last character. -/
def extension? (p : Path) : Option Text := do
  let name ← p.parts.getLast?
  let extension := (name.reverse.takeWhile (· ≠ '.')).reverse
  if extension.isEmpty || name.length ≤ extension.length + 1 then none else some extension

/-- The location one name further on. -/
def enter (l : Location) (name : Text) : Location :=
  if name = above then l.dropLast else l ++ [name]

/-- Where a path leads from the location `start`, by its names alone. -/
def locationFrom (start : Location) (p : Path) : Location :=
  p.parts.foldl enter (if p.isAbsolute then [] else start)

/-- The locations that are passed on the way of some names, both ends included. -/
def passed (l : Location) : List Text → List Location
  | [] => [l]
  | name :: rest => l :: passed (enter l name) rest

/-- The locations that a path passes. -/
def passedFrom (start : Location) (p : Path) : List Location :=
  passed (if p.isAbsolute then [] else start) p.parts

/-- The path from the root to a location. -/
def ofLocation (l : Location) : Path := { slashes := 1, parts := l }

end Path

end LicenseNotices
