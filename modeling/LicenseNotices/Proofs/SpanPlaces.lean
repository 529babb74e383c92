import LicenseNotices.Proofs.CommentSpans
import LicenseNotices.Proofs.TextPlaces

/-!
The places of the comments that come from spans. A comment lies where the text before its span
ends, and spans follow each other, so the comments are in the order in which they start. In a
source of the C family nothing starts on the line of a line comment behind it.
-/
namespace LicenseNotices

namespace Span

theorem take_before (s : Span) : s.source.take s.before.length = s.before := by
  rw [source, List.append_assoc, List.take_left]

theorem take_read (s : Span) : s.source.take (s.before ++ s.text).length = s.before ++ s.text :=
  List.take_left

theorem line_comment (s : Span) : s.comment.line = 1 + s.before.count '\n' := by
  simp only [comment, Comment.ofPosition, Position.line_advance]
  omega

theorem column_comment (s : Span) : s.comment.column = s.before.lastLine.length := by
  simp only [comment, Comment.ofPosition, Position.column_advance]

end Span

namespace IsSpans

variable {g : Grammar} {source : Text}

theorem left {xs ys : List Span} (h : IsSpans g source (xs ++ ys)) : IsSpans g source xs where
  source_eq s hs := h.source_eq s (List.mem_append_left ys hs)
  delimited s hs := h.delimited s (List.mem_append_left ys hs)
  ordered := (List.pairwise_append.mp h.ordered).1

/-- Comments that come from spans are in the order in which they start. -/
theorem pairwise_precedes {spans : List Span} (h : IsSpans g source spans) :
    (spans.map Span.comment).Pairwise Comment.Precedes := by
  refine List.pairwise_map.mpr (h.ordered.imp_of_mem ?_)
  intro s t hs ht hst
  obtain ⟨between, hbetween⟩ := hst
  have hopener := (h.delimited s hs).opener_ne_nil
  apply Comment.precedes_ofPosition
  rw [← hbetween, List.append_assoc, Position.advance_append]
  apply Position.precedes_advance
  simp [Span.text, hopener]

end IsSpans

namespace CStyle

theorem head?_opener {kind : CommentKind} {opener body closer after : Text}
    (h : Delimited .cStyle kind opener body closer after) : opener.head? = some '/' := by
  cases h <;> rfl

theorem newline_behind_line {opener body closer after : Text}
    (h : Delimited .cStyle .line opener body closer after) : ∀ c ∈ after.head?, c = '\n' := by
  cases h
  assumption

/-- A line comment ends at a line feed, which lies before everything that starts behind it. -/
theorem line_lt_of_isLine {source : Text} {spans : List Span} (h : IsSpans .cStyle source spans) :
    (spans.map Span.comment).Pairwise fun c d => c.isLine = true → c.line < d.line := by
  refine List.pairwise_map.mpr (h.ordered.imp_of_mem ?_)
  intro s t hs ht ⟨between, hbetween⟩ hline
  have hkind : s.kind = .line := of_decide_eq_true hline
  have hdelimited := h.delimited s hs
  rw [hkind] at hdelimited
  have hafter : s.after = between ++ (t.text ++ t.after) := by
    have hsource := (h.source_eq s hs).trans (h.source_eq t ht).symm
    simpa [Span.source, ← hbetween] using hsource
  have hnewline := newline_behind_line hdelimited
  cases between with
  | nil =>
    have hslash : s.after.head? = some '/' := by
      rw [hafter, List.nil_append, Span.text]
      simp [head?_opener (h.delimited t ht)]
    cases hnewline '/' hslash
  | cons c between =>
    obtain rfl : c = '\n' := hnewline c (by rw [hafter]; rfl)
    simp only [Span.line_comment, ← hbetween, List.count_append, List.count_cons_self]
    omega

end CStyle

end LicenseNotices
