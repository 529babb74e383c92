import LicenseNotices.Text.Basic

/-!
The character classes of JavaScript sources. Blanks may stand between any two
tokens; breaks end a line comment; spaces are the narrower class that is skipped
when a missing semicolon is looked for. Names are made of all characters that no
other class claims, letters of every script and pictures included.
-/
namespace LicenseNotices.JavaScript

def isAsciiBlank (c : Char) : Bool :=
  c = ' ' || ('\t' ≤ c && c ≤ '\r')

/-- The separators of category Zs. -/
def isSpaceSeparator (c : Char) : Bool :=
  c = ' ' || c = '\u00a0' || c = '\u1680' || ('\u2000' ≤ c && c ≤ '\u200a') ||
    c = '\u202f' || c = '\u205f' || c = '\u3000'

def isBlank (c : Char) : Bool :=
  isAsciiBlank c || isSpaceSeparator c || c = '\ufeff' || c = '\u2028' || c = '\u2029' ||
    c = '\u2060' || c = '\u200b'

/-- White space that allows a line break; the spaces that forbid one are left out. -/
def isSpace (c : Char) : Bool :=
  isAsciiBlank c || c = '\u1680' || ('\u2000' ≤ c && c ≤ '\u2006') ||
    ('\u2008' ≤ c && c ≤ '\u200a') || c = '\u2028' || c = '\u2029' || c = '\u205f' ||
    c = '\u3000'

/-- Breaks behind which a statement may end. -/
def isLineFeed (c : Char) : Bool := c = '\n' || c = '\u2028' || c = '\u2029'

/-- Breaks at which a comment after two slashes ends. -/
def isLineBreak (c : Char) : Bool := c = '\r' || isLineFeed c

def isHex (c : Char) : Bool :=
  c.isDigit || ('a' ≤ c && c ≤ 'f') || ('A' ≤ c && c ≤ 'F')

def isOctal (c : Char) : Bool := '0' ≤ c && c ≤ '7'

/-- The punctuation that ends a name. -/
def isPunctuation (c : Char) : Bool :=
  (":;\x60\x22\x27@#.,|^&<=>+-*/\\%?!~()[]\x7b\x7d".toList).contains c

def isNamePart (c : Char) : Bool :=
  !(c < ' ' || isBlank c || isPunctuation c)

def isNameStart (c : Char) : Bool := isNamePart c && !c.isDigit

end LicenseNotices.JavaScript
