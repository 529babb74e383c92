import LicenseNotices.Report.CellWidth
import LicenseNotices.Report.Console

/-!
A console that is told by the widths of characters. Characters that would ring, move back or feed
are left out, and a tab becomes the spaces up to the next stop. A message ends with one line feed
of its own and is broken nowhere else but at its own line feeds.
-/
namespace LicenseNotices

namespace CellConsole

/-- The characters that are left out. -/
def isLeftOut (c : Char) : Bool := [7, 8, 11, 12, 13].contains c.toNat

/-- The distance between the stops of tabs, in cells. -/
def tabWidth : Nat := 8

/-- The spaces for a tab behind a text that starts at a stop; there is at least one. -/
def tabSpaces (t : Text) : Text :=
  ' ' :: List.replicate ((tabWidth - Text.cells (t ++ [' ']) % tabWidth) % tabWidth) ' '

/-- The pieces of a line with spaces for the tabs between them. -/
def joinAtStops : List Text → Text
  | [] => []
  | [t] => t
  | t :: rest => t ++ tabSpaces t ++ joinAtStops rest

def expandTabs (line : Text) : Text := joinAtStops (line.splitOn '\t')

/-- What is printed for a message. -/
def printed (message : Text) : Text :=
  let lines := (message.filter (!isLeftOut ·)).splitOn '\n'
  Text.join ['\n'] (lines.map expandTabs) ++ ['\n']

end CellConsole

@[reducible] def cellConsole : Console := ⟨CellConsole.printed⟩

end LicenseNotices
