import LicenseNotices.Comment.Basic
import LicenseNotices.CStyle.Lexeme

/-!
The comments of a C-family source are the comment lexemes, each placed at the
position behind all lexemes before it. A source whose lexemes end in a fault has
no comments; its error stands where the faulty lexeme begins.
-/
namespace LicenseNotices.CStyle

/-- The comment that a lexeme at `p` is, if it is one. -/
def Lexeme.comment? (p : Position) : Lexeme → Option Comment
  | .lineComment body => some (.ofPosition .line body p)
  | .blockComment body => some (.ofPosition .block body p)
  | _ => none

/-- The comments among lexemes that follow each other from `p` on. -/
def commentsFrom (p : Position) : List Lexeme → List Comment
  | [] => []
  | x :: rest => (x.comment? p).toList ++ commentsFrom (p.advance x.text) rest

/-- The position behind lexemes that follow each other from `p` on. -/
def positionBehind (p : Position) (xs : List Lexeme) : Position :=
  p.advance (xs.flatMap Lexeme.text)

def comments (source : Text) : Except SourceError (List Comment) :=
  match lexemes source with
  | (xs, none) => .ok (commentsFrom {} xs)
  | (xs, some fault) => .error ⟨fault, positionBehind {} xs⟩

end LicenseNotices.CStyle
