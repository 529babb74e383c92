import LicenseNotices.Text.Basic

/-!
Texts are shown on one line by escaping: control characters with a short name,
quotes and the backslash are written as a backslash and one more character. A
preview is the escaped head of a text, with an ellipsis exactly when something
was cut off.
-/
namespace LicenseNotices.Text

/-- The character written behind a backslash for `c`, when `c` is escaped at all. -/
def escapeLetter (c : Char) : Option Char :=
  match c with
  | '\x08' => some 'b'
  | '\t' => some 't'
  | '\n' => some 'n'
  | '\x0b' => some 'v'
  | '\x0c' => some 'f'
  | '\r' => some 'r'
  | '\x22' => some '\x22'
  | '\x27' => some '\x27'
  | '\x60' => some '\x60'
  | '\\' => some '\\'
  | _ => none

def escapeChar (c : Char) : Text :=
  match escapeLetter c with
  | some letter => ['\\', letter]
  | none => [c]

def escape (t : Text) : Text := t.flatMap escapeChar

@[simp] theorem escape_nil : escape [] = [] := rfl

theorem escape_cons (c : Char) (t : Text) : escape (c :: t) = escapeChar c ++ escape t := rfl

theorem escape_append (s t : Text) : escape (s ++ t) = escape s ++ escape t :=
  List.flatMap_append

/-- The first `length` characters; a negative length drops that many from the end. -/
def head (t : Text) (length : Int) : Text :=
  if length < 0 then t.take (t.length - length.natAbs) else t.take length.toNat

def previewLength : Int := 10

def ellipsis : Text := ['.', '.', '.']

def preview (t : Text) (length : Int := previewLength) : Text :=
  escape (head t length) ++ if (head t length).length = t.length then [] else ellipsis

end LicenseNotices.Text
