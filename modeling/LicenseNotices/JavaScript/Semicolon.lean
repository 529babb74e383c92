import LicenseNotices.JavaScript.Character

/-!
Automatic semicolons. Where the grammar allows a statement to end, a semicolon
may be left out before a closing brace, at the end of the source, and before a
line that does not continue the expression. Comments are looked through, and a
block comment counts as a line break only where no operator can follow.
-/
namespace LicenseNotices.JavaScript

/-- Where the characters that are looked through have led. -/
inductive Lookahead
  /-- A slash that starts no comment. -/
  | slash
  /-- Behind a block comment on one line. -/
  | sameLine (rest : Text)
  /-- At a character that is neither space nor comment, or behind a longer comment. -/
  | passed (rest : Text)

inductive LookMode
  | space
  | slash
  | lineComment
  | blockComment
  | star

/-- Skips spaces and comments. Unless `all` is set, it stops behind the first block
comment; `broken` tells whether a line break was seen inside one. -/
def lookPast (all broken : Bool) : LookMode → Text → Lookahead
  | .slash, [] => .slash
  | _, [] => .passed []
  | .space, c :: rest =>
      if c = '/' then lookPast all broken .slash rest
      else if isSpace c then lookPast all broken .space rest
      else .passed (c :: rest)
  | .slash, c :: rest =>
      if c = '/' then lookPast all broken .lineComment rest
      else if c = '*' then lookPast all broken .blockComment rest
      else .slash
  | .lineComment, c :: rest =>
      if isLineFeed c then lookPast all broken .space rest
      else lookPast all broken .lineComment rest
  | .blockComment, c :: rest =>
      if c = '*' then lookPast all broken .star rest
      else lookPast all (broken || isLineFeed c) .blockComment rest
  | .star, c :: rest =>
      if c = '/' then
        if !all && rest.head? ≠ some '/' then
          if broken then .passed rest else .sameLine rest
        else lookPast all broken .space rest
      else if c = '*' then lookPast all broken .star rest
      else lookPast all (broken || isLineFeed c) .blockComment rest

/-- What is left to look at. -/
def Lookahead.rest? : Lookahead → Option Text
  | .slash => none
  | .sameLine rest => some rest
  | .passed rest => some rest

/-- Whether the look went past a line break or a whole line comment. -/
def Lookahead.endsLine : Lookahead → Bool
  | .passed _ => true
  | _ => false

theorem length_le_of_lookPast {all broken : Bool} {mode : LookMode} {t rest : Text}
    (h : (lookPast all broken mode t).rest? = some rest) : rest.length ≤ t.length := by
  fun_induction lookPast all broken mode t <;> grind [Lookahead.rest?]

def startsWithAlpha : Text → Bool
  | c :: _ => c.isAlpha || (c.toNat ≥ 0xaa && isNameStart c)
  | [] => false

/-- Whether a new line that starts like this continues the line before it. -/
def continuesLine (t : Text) : Bool :=
  match t with
  | [] => false
  | '.' :: rest => !(rest.head?.any Char.isDigit)
  | '+' :: rest => rest.head? ≠ some '+'
  | '-' :: rest => rest.head? ≠ some '-'
  | '!' :: rest => rest.head? = some '='
  | 'i' :: 'n' :: rest =>
      !startsWithAlpha rest ||
        ("stanceof".toList.isPrefixOf rest && !startsWithAlpha (rest.drop 8))
  | c :: _ => ("\x60,:;*%><=[(?^|&/".toList).contains c

/-- Whether the text behind a line break starts a new statement. -/
def newLineStartsStatement (t : Text) : Bool :=
  match (lookPast true false .space t).rest? with
  | none => false
  | some rest => !continuesLine rest

/-- Whether a semicolon may be left out here. The flag says that no operator can
follow, so that a comment with a line break ends the line. -/
def semicolonAhead (commentEndsLine : Bool) (t : Text) : Bool :=
  match t with
  | [] => true
  | c :: rest =>
      if c = '/' then
        let ahead := lookPast false false .slash rest
        match _h : ahead.rest? with
        | none => false
        | some [] => ahead.endsLine && commentEndsLine
        | some (d :: more) =>
            if ahead.endsLine && commentEndsLine && d ≠ ',' && d ≠ '=' then true
            else if d = '\x7d' then true
            else if isLineFeed d then newLineStartsStatement more
            else if isSpace d then semicolonAhead commentEndsLine more
            else false
      else if c = '\x7d' then true
      else if isLineFeed c then newLineStartsStatement rest
      else if isSpace c then semicolonAhead commentEndsLine rest
      else false
termination_by t.length
decreasing_by
  · have := length_le_of_lookPast _h
    simp only [List.length_cons] at this ⊢
    omega
  · simp

end LicenseNotices.JavaScript
