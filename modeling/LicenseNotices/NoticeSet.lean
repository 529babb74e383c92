import LicenseNotices.Comment.Basic
import LicenseNotices.Text.Escape

/-!
The distinct notices of one run, in the order in which each was first seen.
Every group that is added leaves a match event behind, which tells where the
group stands, how its text begins and whether the text was new.
-/
namespace LicenseNotices

inductive MatchOperation
  | add
  | merge
  deriving DecidableEq, Repr

namespace MatchOperation

def name : MatchOperation → String
  | add => "add"
  | merge => "merge"

end MatchOperation

/-- One group seen in one file. The column is counted from one. -/
structure MatchEvent where
  file : String
  line : Int
  column : Int
  preview : Text
  operation : MatchOperation
  deriving DecidableEq, Repr

/-- Distinct texts in first-seen order. -/
structure NoticeSet where
  texts : List Text := []
  nodup : texts.Nodup := by simp

namespace NoticeSet

instance : Membership Text NoticeSet := ⟨fun s t => t ∈ s.texts⟩

def empty : NoticeSet := {}

def size (s : NoticeSet) : Nat := s.texts.length

def contains (s : NoticeSet) (t : Text) : Bool := s.texts.contains t

/-- The set with the text, and whether it was new. -/
def insert (s : NoticeSet) (t : Text) : NoticeSet × MatchOperation :=
  if h : t ∈ s.texts then (s, .merge)
  else (⟨s.texts ++ [t], by
    rw [List.nodup_append]
    refine ⟨s.nodup, by simp, ?_⟩
    rintro a ha b hb rfl
    rw [List.mem_singleton] at hb
    exact h (hb ▸ ha)⟩, .add)

/-- The texts with one blank line between neighbours. -/
def render (s : NoticeSet) : Text := Text.join ['\n', '\n'] s.texts

theorem texts_insert (s : NoticeSet) (t : Text) :
    (s.insert t).1.texts = if t ∈ s.texts then s.texts else s.texts ++ [t] := by
  unfold insert
  split <;> simp_all

/-- A group without comments has no place, so it cannot be reported. -/
inductive AggregateFault
  | emptyGroup
  deriving DecidableEq, Repr

/-- Adds the groups of one file. A group without comments adds its empty text and
then stops the file. -/
def aggregate (s : NoticeSet) (file : String) :
    List CommentGroup → NoticeSet × Except AggregateFault (List MatchEvent)
  | [] => (s, .ok [])
  | [] :: _ => ((s.insert []).1, .error .emptyGroup)
  | (first :: others) :: rest =>
      let text := CommentGroup.text (first :: others)
      let (s, operation) := s.insert text
      let event : MatchEvent :=
        { file, line := first.line, column := first.column + 1,
          preview := Text.preview text, operation }
      let (s, later) := s.aggregate file rest
      (s, later.map (event :: ·))

end NoticeSet

end LicenseNotices
