import LicenseNotices.Comment.Basic

/-!
Comments are grouped while they are read, by a machine with two kinds of state:
no run is open, or a run of line comments is open whose last comment started on
a known line. A line comment joins the open run only when it starts exactly one
line below; a block comment closes the run and is a group by itself.
-/
namespace LicenseNotices

inductive GroupingState
  | idle
  | lineRun (lastLine : Int) (comments : List Comment)
  deriving DecidableEq, Repr

namespace GroupingState

/-- The comments that are held back in the open run. -/
def pending : GroupingState → List Comment
  | idle => []
  | lineRun _ comments => comments

/-- Reads one comment: the state behind it and the groups that it completes. -/
def step (s : GroupingState) (c : Comment) : GroupingState × List CommentGroup :=
  match s, c.kind with
  | idle, .line => (lineRun c.line [c], [])
  | idle, .block => (idle, [[c]])
  | lineRun last comments, .line =>
      if last + 1 = c.line then (lineRun c.line (comments ++ [c]), [])
      else (lineRun c.line [c], [comments])
  | lineRun _ comments, .block => (idle, [comments, [c]])

/-- The group that is still open at the end of the input. -/
def flush : GroupingState → List CommentGroup
  | idle => []
  | lineRun _ comments => [comments]

/-- Reads comments one after the other and collects the groups completed on the way. -/
def run (s : GroupingState) : List Comment → GroupingState × List CommentGroup
  | [] => (s, [])
  | c :: rest =>
      let (next, completed) := s.step c
      let (last, later) := next.run rest
      (last, completed ++ later)

/-- The groups of the comments that follow once the state is `s`. -/
def groupsFrom (s : GroupingState) (comments : List Comment) : List CommentGroup :=
  let (last, completed) := s.run comments
  completed ++ last.flush

/-- A step loses no comment and changes no order. -/
theorem step_flatten (s : GroupingState) (c : Comment) :
    (s.step c).2.flatten ++ (s.step c).1.pending = s.pending ++ [c] := by
  cases s with
  | idle => cases hkind : c.kind <;> simp [step, pending, hkind]
  | lineRun last comments =>
    cases hkind : c.kind with
    | line => by_cases hline : last + 1 = c.line <;> simp [step, pending, hkind, hline]
    | block => simp [step, pending, hkind]

end GroupingState

def groupComments (comments : List Comment) : List CommentGroup :=
  GroupingState.idle.groupsFrom comments

end LicenseNotices
