import LicenseNotices.JavaScript.Reader
import Mathlib.Data.List.Infix

/-!
Runs of the readers of JavaScript. A reader goes on behind a comment with the goals that it has
and behind a token with goals that the token leaves of them; a semicolon that is left out changes
nothing but the goals. What is kept on all these ways holds of the reader that arrives first.
-/
namespace LicenseNotices.JavaScript

/-- A reader goes on behind a semicolon that is left out, a comment or a token. -/
inductive Reader.Goes (r : Reader) : Reader → Prop
  | semicolon {goals : List Goal} (hgoals : goals ∈ readGoals .automaticSemicolon r.goals) :
      Goes r { r with goals }
  | comment {blanks opener body closer rest : Text} {kind : CommentKind}
      (hpiece : readPiece r.goals r.rest = .comment blanks kind opener body closer rest) :
      Goes r
        { r with
          offset := r.offset + blanks.length + (opener ++ body ++ closer).length, rest
          slices := (r.offset + blanks.length,
            r.offset + blanks.length + (opener ++ body ++ closer).length) :: r.slices }
  | token {blanks rest : Text} {t : Token} {goals : List Goal} {statement : ℕ}
      (hpiece : readPiece r.goals r.rest = .token blanks t rest)
      (hgoals : goals ∈ readGoals t r.goals) :
      Goes r
        { r with goals, statement, rest, offset := r.offset + (consumed r.rest rest).length }

variable {r r' : Reader}

theorem goes_of_mem_behindSemicolon (h : r' ∈ r.behindSemicolon) : r.Goes r' := by
  rw [Reader.behindSemicolon] at h
  split at h
  · simp at h
  · split at h
    · obtain ⟨goals, hgoals, rfl⟩ := List.mem_map.mp h
      exact .semicolon (List.mem_of_mem_filter hgoals)
    · simp at h

theorem goes_of_readNext {readers : List Reader} (h : r.readNext = .moved readers)
    (hr' : r' ∈ readers) : r.Goes r' := by
  rw [Reader.readNext] at h
  split at h
  · rename_i hpiece
    cases h
    obtain rfl := List.mem_singleton.mp hr'
    exact .comment hpiece
  · cases h
  · rename_i hpiece
    dsimp only at h
    split at h
    · cases h
    · split at h
      · cases h
      · cases h
        obtain ⟨goals, hgoals, rfl⟩ := List.mem_map.mp hr'
        exact .token hpiece hgoals

/-- A reader arrives at a token, with the comments that it has seen. -/
theorem exists_token_of_finished {slices : List (ℕ × ℕ)} (h : r.readNext = .finished slices) :
    (∃ blanks t rest, readPiece r.goals r.rest = .token blanks t rest) ∧
      slices = r.slices.reverse := by
  rw [Reader.readNext] at h
  split at h
  · cases h
  · cases h
  · rename_i hpiece
    dsimp only at h
    split at h
    · cases h
    · split at h
      · cases h
        exact ⟨⟨_, _, _, hpiece⟩, rfl⟩
      · cases h

theorem mem_of_mem_addReader {rs : List Reader} (h : r' ∈ addReader rs r) :
    r' ∈ rs ∨ r' = r := by
  rw [addReader] at h
  split at h
  · exact .inl h
  · simpa using h

theorem mem_of_mem_foldl_addReader {rs moved : List Reader} (h : r ∈ moved.foldl addReader rs) :
    r ∈ rs ∨ r ∈ moved := by
  induction moved generalizing rs with
  | nil => exact .inl h
  | cons first rest ih =>
    rcases ih h with h | h
    · rcases mem_of_mem_addReader h with h | rfl
      · exact .inl h
      · exact .inr (by simp)
    · exact .inr (List.mem_cons_of_mem first h)

theorem mem_of_findSome? {taken : List Reader.Step} {slices : List (ℕ × ℕ)}
    (h : (taken.findSome? fun
      | .finished slices => some slices
      | _ => none) = some slices) : .finished slices ∈ taken := by
  obtain ⟨step, hstep, hslices⟩ := List.exists_of_findSome?_eq_some h
  split at hslices
  · cases hslices
    exact hstep
  · cases hslices

section

variable {P : Reader → Prop} (hkept : ∀ r r' : Reader, P r → r.Goes r' → P r')

include hkept

theorem kept_settle (hr : P r) (h : r' ∈ r.settle) : P r' := by
  fun_induction Reader.settle r with
  | case1 r behind hnone =>
    rw [List.mem_singleton.mp h]
    exact hr
  | case2 r behind hsome ih =>
    obtain ⟨⟨s, hs⟩, -, hmem⟩ := List.mem_flatMap.mp h
    have hgoes := goes_of_mem_behindSemicolon (List.mem_of_mem_filter hs)
    exact ih s hs (hkept r s hr hgoes) hmem

/-- The steps that are taken in a turn are those of readers with the property. -/
theorem exists_of_mem_steps {rs : List Reader} (hrs : ∀ r ∈ rs, P r) {left : ℕ}
    {step : Reader.Step}
    (hstep : step ∈ (rs.filter fun r => r.rest.length = left).flatMap Reader.steps) :
    ∃ r : Reader, P r ∧ r.readNext = step := by
  obtain ⟨r, hr, hstep⟩ := List.mem_flatMap.mp hstep
  obtain ⟨settled, hsettled, rfl⟩ := List.mem_map.mp hstep
  exact ⟨settled, kept_settle hkept (hrs r (List.mem_of_mem_filter hr)) hsettled, rfl⟩

theorem exists_of_readAll {left : ℕ} {blame : ℕ} {rs : List Reader} {slices : List (ℕ × ℕ)}
    (hrs : ∀ r ∈ rs, P r) (h : readAll left blame rs = .ok slices) :
    ∃ r, P r ∧ r.readNext = .finished slices := by
  induction left generalizing blame rs with
  | zero =>
    rw [readAll.eq_def] at h
    dsimp only at h
    split at h
    · rename_i hfinished
      cases h
      exact exists_of_mem_steps hkept hrs (mem_of_findSome? hfinished)
    · cases h
    · rename_i heq
      cases heq
  | succ left ih =>
    rw [readAll.eq_def] at h
    dsimp only at h
    split at h
    · rename_i hfinished
      cases h
      exact exists_of_mem_steps hkept hrs (mem_of_findSome? hfinished)
    · rename_i heq
      cases heq
    · rename_i heq
      cases heq
      split at h
      · cases h
      · refine ih ?_ h
        intro r' hr'
        rcases mem_of_mem_foldl_addReader hr' with hr' | hr'
        · exact hrs r' (List.mem_of_mem_filter hr')
        · obtain ⟨step, hstep, hmoved⟩ := List.mem_flatMap.mp hr'
          obtain ⟨r, hr, hread⟩ := exists_of_mem_steps hkept hrs hstep
          split at hmoved
          · exact hkept r r' hr (goes_of_readNext hread hmoved)
          · simp at hmoved

/-- The reader that arrives first has what the first reader had and all ways keep. -/
theorem exists_of_commentSlices {source : Text} {slices : List (ℕ × ℕ)}
    (hstart : P (Reader.start source)) (h : commentSlices source = .ok slices) :
    ∃ r, P r ∧ r.readNext = .finished slices :=
  exists_of_readAll hkept (by simpa using hstart) h

end

end LicenseNotices.JavaScript
