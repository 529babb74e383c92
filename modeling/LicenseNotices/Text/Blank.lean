import LicenseNotices.Text.Basic
import LicenseNotices.Text.Ranges

/-!
The characters that count as blank: spaces of every width, line separators and
the control characters that end a line, a field or a record. Trimming a text
removes the blanks at both of its ends.
-/
namespace LicenseNotices.Text

def blankRanges : List (Nat × Nat) :=
  [(9, 13), (28, 32), (0x85, 0x85), (0xa0, 0xa0), (0x1680, 0x1680), (0x2000, 0x200a),
   (0x2028, 0x2029), (0x202f, 0x202f), (0x205f, 0x205f), (0x3000, 0x3000)]

def isBlank (c : Char) : Bool := covers blankRanges c.toNat

/-- The blanks of ASCII, without the separators of fields and records. -/
def isAsciiBlank (c : Char) : Bool := c = ' ' || ('\t' ≤ c && c ≤ '\r')

def trim (t : Text) : Text :=
  ((t.dropWhile isBlank).reverse.dropWhile isBlank).reverse

end LicenseNotices.Text
