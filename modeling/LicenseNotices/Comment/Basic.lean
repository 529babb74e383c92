import LicenseNotices.Text.Basic

/-!
A comment is its body, without the delimiters, together with its style and the
place where its opening delimiter stands. Comments that belong together form a
group, whose text is the bodies joined by line feeds.
-/
namespace LicenseNotices

inductive CommentKind
  | line
  | block
  deriving DecidableEq, Repr

/-- The line is counted from one and the column from zero. -/
structure Comment where
  kind : CommentKind
  text : Text
  line : Int
  column : Int := 0
  deriving DecidableEq, Repr

namespace Comment

def isLine (c : Comment) : Bool := c.kind = .line

/-- The comment whose opening delimiter stands at `p`. -/
def ofPosition (kind : CommentKind) (text : Text) (p : Position) : Comment :=
  { kind, text, line := p.line, column := p.column }

end Comment

abbrev CommentGroup := List Comment

namespace CommentGroup

def text (g : CommentGroup) : Text := Text.join ['\n'] (g.map Comment.text)

end CommentGroup

end LicenseNotices
