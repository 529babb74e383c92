import LicenseNotices.Comment.Grouping
import LicenseNotices.Grammar
import LicenseNotices.Log
import LicenseNotices.NoticeMatcher
import LicenseNotices.Text.Newline

/-!
The notices of one source. Its line ends are made line feeds, its comments are taken
by the grammar, the comments are grouped, and the groups are kept of which a comment
is accepted by the matcher.
-/
namespace LicenseNotices

/-- What is found in one source, from its comments to its notices. -/
structure Findings where
  comments : List Comment
  notices : List CommentGroup
  deriving DecidableEq, Repr

/-- The failure of a grammar to give the comments of a source that is read from `path`. -/
def JavaScript.ParseError.failure (path : String) : ParseError → Failure
  | source e => .diagnostic (e.diagnostic path)
  | undecodable f => .fault ⟨.unicodeDecode, f.message⟩

namespace Findings

def groups (f : Findings) : List CommentGroup := groupComments f.comments

/-- The findings of a source that is read from `path`. -/
def ofSource [JavaScript.Parser] (g : Grammar) (accepts : NoticeMatcher) (path : String)
    (source : Text) : Except Failure Findings := do
  let comments ← (g.comments (Text.unifyNewlines source)).mapError (·.failure path)
  let notices ← (accepts.filterGroups (groupComments comments)).mapError .fault
  return { comments, notices }

/-- The record of the numbers that were found. -/
def logEntry (f : Findings) (path : String) : LogEntry where
  level := .debug
  source := "save_license.licenses"
  message :=
    (nonempty? (some path)).getD "<source>" ++
      s!": {f.comments.length} comments, {f.groups.length} groups, " ++
      s!"{f.notices.length} license groups"

end Findings

end LicenseNotices
