import LicenseNotices.Document.Value

/-!
Building the tables of a document in TOML. A key is a path of names. Paths that
were declared, and paths below a value that was written in one piece, may not be
opened again; the ledger keeps both.
-/
namespace LicenseNotices.Document.Toml

abbrev Key := List Text

/-- How a key is shown. -/
def keyText : Key → String
  | [part] => "(" ++ String.ofList (Text.quoted part) ++ ",)"
  | parts =>
      "(" ++ String.intercalate ", " (parts.map fun p => String.ofList (Text.quoted p)) ++ ")"

/-- What may not be opened again. A path is frozen with everything below it. -/
structure Ledger where
  declared : List Key := []
  frozen : List Key := []
  /-- Paths that count as declared from the next header on. -/
  pending : List Key := []

namespace Ledger

def isFrozen (l : Ledger) (key : Key) : Bool := l.frozen.any (·.isPrefixOf key)

def isDeclared (l : Ledger) (key : Key) : Bool := l.declared.contains key

def declare (l : Ledger) (key : Key) : Ledger := { l with declared := key :: l.declared }

def freeze (l : Ledger) (key : Key) : Ledger := { l with frozen := key :: l.frozen }

def postpone (l : Ledger) (key : Key) : Ledger := { l with pending := key :: l.pending }

def settle (l : Ledger) : Ledger :=
  { l with declared := l.pending ++ l.declared, pending := [] }

/-- Forgets a path and everything below it. -/
def forget (l : Ledger) (key : Key) : Ledger :=
  { l with
    declared := l.declared.filter (!key.isPrefixOf ·)
    frozen := l.frozen.filter (!key.isPrefixOf ·) }

end Ledger

/-- Changes the table at a path; tables on the way are made as needed. A list on the way
stands for its last item, if lists may be entered. There is no result when something
else is on the way. -/
def changeTable (entersLists : Bool) (change : Entries → Option Entries) :
    Key → Entries → Option Entries
  | [], entries => change entries
  | name :: path, entries =>
      match Value.lookup? name entries with
      | none => do return Value.put name (.table (← changeTable entersLists change path [])) entries
      | some (.table inner) => do
          return Value.put name (.table (← changeTable entersLists change path inner)) entries
      | some (.list items) =>
          match entersLists, items.getLast? with
          | true, some (.table inner) => do
              let inner ← changeTable entersLists change path inner
              return Value.put name (.list (items.dropLast ++ [.table inner])) entries
          | _, _ => none
      | some _ => none

/-- Adds an entry, unless there is one with that name. -/
def addEntry (name : Text) (v : Value) (entries : Entries) : Option Entries :=
  if (Value.lookup? name entries).isSome then none else some (Value.put name v entries)

/-- Appends an empty table to the list with that name. -/
def appendTable (name : Text) (entries : Entries) : Option Entries :=
  match Value.lookup? name entries with
  | none => some (Value.put name (.list [.table []]) entries)
  | some (.list items) => some (Value.put name (.list (items ++ [.table []])) entries)
  | some _ => none

end LicenseNotices.Document.Toml
