import LicenseNotices.Comment.Basic
import Mathlib.Data.List.DropRight
import Mathlib.Data.List.Induction

/-!
Places in a text said in terms of the text before them: the line is told by the number of
line feeds and the column by the characters behind the last of them. Places follow each
other in reading order, which reading on never reverses.
-/
namespace LicenseNotices

theorem Text.lastLine_eq_rtakeWhile (t : Text) : t.lastLine = t.rtakeWhile (· ≠ '\n') := rfl

namespace Position

theorem line_advance (p : Position) (t : Text) : (p.advance t).line = p.line + t.count '\n' := by
  induction t generalizing p with
  | nil => rfl
  | cons c rest ih =>
    rw [advance_cons, ih, next]
    by_cases hc : c = '\n'
    · subst hc
      simp only [if_true, List.count_cons_self]
      omega
    · simp [hc, List.count_cons_of_ne]

theorem column_advance (t : Text) : (({} : Position).advance t).column = t.lastLine.length := by
  induction t using List.reverseRecOn with
  | nil => rfl
  | append_singleton t c ih =>
    rw [advance_append, advance_cons, advance_nil, next, Text.lastLine_eq_rtakeWhile]
    by_cases hc : c = '\n'
    · rw [if_pos hc, List.rtakeWhile_concat_neg _ _ _ (by simpa using hc)]
      rfl
    · rw [if_neg hc, List.rtakeWhile_concat_pos _ _ _ (by simpa using hc), List.length_append, ih]
      rfl

/-- Reading order. -/
def Precedes (p q : Position) : Prop := p.line < q.line ∨ p.line = q.line ∧ p.column < q.column

theorem Precedes.trans {p q r : Position} (hpq : p.Precedes q) (hqr : q.Precedes r) :
    p.Precedes r := by
  unfold Precedes at *
  omega

theorem precedes_next (p : Position) (c : Char) : p.Precedes (p.next c) := by
  rw [next, Precedes]
  split
  · exact .inl (Nat.lt_succ_self _)
  · exact .inr ⟨rfl, Nat.lt_succ_self _⟩

theorem precedes_advance (p : Position) {t : Text} (ht : t ≠ []) : p.Precedes (p.advance t) := by
  induction t generalizing p with
  | nil => exact absurd rfl ht
  | cons c rest ih =>
    rw [advance_cons]
    by_cases hrest : rest = []
    · rw [hrest]
      exact precedes_next p c
    · exact (precedes_next p c).trans (ih _ hrest)

end Position

/-- The part of the source that ends at a line and a column, both counted from one. -/
structure EndsAt (before source : Text) (line column : Int) : Prop where
  starts : before <+: source
  line_eq : line = before.count '\n' + 1
  column_eq : column = before.lastLine.length + 1

private theorem eq_of_starts {a b source : Text} {line column : Int}
    (ha : EndsAt a source line column) (hb : EndsAt b source line column) (h : a <+: b) :
    a = b := by
  obtain ⟨t, rfl⟩ := h
  by_cases ht : t = []
  · rw [ht, List.append_nil]
  · have horder := (({} : Position).advance a).precedes_advance ht
    rw [← Position.advance_append] at horder
    simp only [Position.Precedes, Position.line_advance, Position.column_advance] at horder
    have hline := ha.line_eq.symm.trans hb.line_eq
    have hcolumn := ha.column_eq.symm.trans hb.column_eq
    omega

/-- A line and a column tell one place of a source at most. -/
theorem EndsAt.unique {a b source : Text} {line column : Int}
    (ha : EndsAt a source line column) (hb : EndsAt b source line column) : a = b := by
  rcases List.prefix_or_prefix_of_prefix ha.starts hb.starts with h | h
  · exact eq_of_starts ha hb h
  · exact (eq_of_starts hb ha h).symm

/-- The order in which comments start. -/
def Comment.Precedes (c d : Comment) : Prop :=
  c.line < d.line ∨ c.line = d.line ∧ c.column < d.column

theorem Comment.precedes_ofPosition {p q : Position} (h : p.Precedes q) (kind kind' : CommentKind)
    (body body' : Text) : (ofPosition kind body p).Precedes (ofPosition kind' body' q) := by
  unfold Position.Precedes at h
  simp only [Comment.Precedes, ofPosition]
  omega

end LicenseNotices
