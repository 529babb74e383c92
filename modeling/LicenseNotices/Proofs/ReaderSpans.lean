import LicenseNotices.Proofs.PieceRemainders
import LicenseNotices.Proofs.ReaderRuns

/-!
The comments that readers of JavaScript see are spans of the source. Every reader stands behind a
part of the source, and the slices that it has seen are those of spans within that part. This is
kept wherever a reader goes, so it holds of the reader that arrives first.
-/
namespace LicenseNotices.JavaScript

/-- The span is a comment of the grammar, unless it ends at a null character. -/
def IsRead (s : Span) : Prop :=
  s.after.head? ≠ some '\x00' → Delimited .javascript s.kind s.opener s.body s.closer s.after

/-- The reader stands behind a part of the source and has seen the slices of spans in it. -/
structure Reader.Has (source : Text) (r : Reader) (before : Text) (spans : List Span) : Prop where
  source_eq : source = before ++ r.rest
  offset_eq : r.offset = before.length
  areSpans : AreSpans IsRead source spans
  behind : ∀ s ∈ spans, s.before ++ s.text <+: before
  slices_eq : r.slices.reverse = spans.map Span.slice

theorem has_start (source : Text) : (Reader.start source).Has source [] [] :=
  ⟨by simp [Reader.start], rfl, .nil, by simp, rfl⟩

theorem consumed_append_rest {t rest : Text} (h : rest <:+ t) : consumed t rest ++ rest = t := by
  obtain ⟨read, rfl⟩ := h
  rw [consumed_append]

/-- Behind a comment a reader has seen one more span. -/
theorem Reader.Has.comment {source before blanks opener body closer rest : Text} {r : Reader}
    {spans : List Span} {kind : CommentKind} (hr : r.Has source before spans)
    (hrest : r.rest = blanks ++ (opener ++ body ++ closer) ++ rest)
    (hread : rest.head? ≠ some '\x00' → Delimited .javascript kind opener body closer rest)
    (goals : List Goal) (statement : ℕ) :
    Reader.Has source
      { goals, statement, rest
        offset := r.offset + blanks.length + (opener ++ body ++ closer).length
        slices := (r.offset + blanks.length,
          r.offset + blanks.length + (opener ++ body ++ closer).length) :: r.slices }
      (before ++ blanks ++ (opener ++ body ++ closer))
      (spans ++ [⟨before ++ blanks, kind, opener, body, closer, rest⟩]) where
  source_eq := by rw [hr.source_eq, hrest]; simp
  offset_eq := by simp only [hr.offset_eq, List.length_append]
  areSpans := by
    refine hr.areSpans.append (.singleton ?_ hread) ?_
    · rw [hr.source_eq, hrest]
      simp [Span.source, Span.text]
    · intro s hs t ht
      rw [List.mem_singleton.mp ht]
      exact (hr.behind s hs).trans (List.prefix_append before blanks)
  behind := by
    intro s hs
    rcases List.mem_append.mp hs with hs | hs
    · have hbefore := (hr.behind s hs).trans (List.prefix_append before blanks)
      exact hbefore.trans (List.prefix_append _ _)
    · rw [List.mem_singleton.mp hs]
      exact List.prefix_refl _
  slices_eq := by
    rw [List.reverse_cons, hr.slices_eq, List.map_append, hr.offset_eq]
    simp [Span.slice, Span.text, Nat.add_assoc]

/-- Behind a token a reader has seen the same spans. -/
theorem Reader.Has.token {source before rest : Text} {r : Reader} {spans : List Span}
    (hr : r.Has source before spans) (hrest : rest <:+ r.rest) (goals : List Goal)
    (statement : ℕ) :
    Reader.Has source
      { r with goals, statement, rest, offset := r.offset + (consumed r.rest rest).length }
      (before ++ consumed r.rest rest) spans where
  source_eq := by rw [List.append_assoc, consumed_append_rest hrest, hr.source_eq]
  offset_eq := by rw [hr.offset_eq, List.length_append]
  areSpans := hr.areSpans
  behind s hs := (hr.behind s hs).trans (List.prefix_append _ _)
  slices_eq := hr.slices_eq

/-- Where a reader goes on it has seen the same spans, or one more that ends there. -/
theorem has_of_goes {source before : Text} {r r' : Reader} {spans : List Span}
    (hr : r.Has source before spans) (h : r.Goes r') :
    ∃ before' spans', r'.Has source before' spans' ∧
      ∀ s ∈ spans', s ∈ spans ∨ s.after = r'.rest := by
  have hpiece := accountsFor_readPiece r.goals r.rest
  cases h with
  | semicolon hgoals =>
    exact ⟨before, spans,
      ⟨hr.source_eq, hr.offset_eq, hr.areSpans, hr.behind, hr.slices_eq⟩, fun s => .inl⟩
  | comment heq =>
    rw [heq] at hpiece
    obtain ⟨hrest, hread⟩ := hpiece
    refine ⟨_, _, hr.comment hrest hread r.goals r.statement, fun s hs => ?_⟩
    rcases List.mem_append.mp hs with hs | hs
    · exact .inl hs
    · rw [List.mem_singleton.mp hs]
      exact .inr rfl
  | token heq hgoals =>
    rw [heq] at hpiece
    exact ⟨_, _, hr.token hpiece _ _, fun s => .inl⟩

end LicenseNotices.JavaScript
