import LicenseNotices.Proofs.PieceRemainders

/-!
Reading with a single reader. While no semicolon is left out and the grammar leaves one
choice for every token, one reader moves through the source alone, and at the end the
slices are those that it has seen.
-/
namespace LicenseNotices.JavaScript

/-- The reader comes to the end of the source alone. -/
inductive Reader.Arrives : Reader → List (ℕ × ℕ) → Prop
  | finished {r : Reader} {slices : List (ℕ × ℕ)} (hsettle : r.settle = [r])
      (hread : r.readNext = .finished slices) : Arrives r slices
  | moved {r r' : Reader} {slices : List (ℕ × ℕ)} (hsettle : r.settle = [r])
      (hread : r.readNext = .moved [r']) (hshorter : r'.rest.length < r.rest.length)
      (hrest : Arrives r' slices) : Arrives r slices

/-- A reader that is alone is passed over until it is its turn. -/
theorem readAll_of_length_le {r : Reader} {left : ℕ} (h : r.rest.length ≤ left)
    (blame : ℕ) : readAll left blame [r] = readAll r.rest.length blame [r] := by
  induction left, h using Nat.le_induction with
  | base => rfl
  | succ left hle ih =>
    have hturn : [r].filter (fun r => decide (r.rest.length = left + 1)) = [] :=
      List.filter_eq_nil_iff.mpr (by simpa using (show r.rest.length ≠ left + 1 by omega))
    have hwaits : [r].filter (fun r => decide (r.rest.length < left + 1)) = [r] :=
      List.filter_eq_self.mpr (by simpa using (show r.rest.length < left + 1 by omega))
    rw [readAll.eq_def, ← ih]
    simp only [hturn, hwaits]
    rfl

theorem readAll_of_arrives {r : Reader} {slices : List (ℕ × ℕ)} (h : r.Arrives slices) :
    ∀ {left : ℕ}, r.rest.length ≤ left → ∀ blame, readAll left blame [r] = .ok slices := by
  induction h with
  | @finished r slices hsettle hread =>
    intro left hleft blame
    rw [readAll_of_length_le hleft, readAll.eq_def]
    simp [Reader.steps, hsettle, hread]
  | @moved r r' slices hsettle hread hshorter _ ih =>
    intro left hleft blame
    rw [readAll_of_length_le hleft]
    obtain ⟨n, hn⟩ := Nat.exists_eq_succ_of_ne_zero (Nat.ne_zero_of_lt hshorter)
    have hnext := ih (show r'.rest.length ≤ n by omega) blame
    rw [hn, readAll.eq_def]
    simp [Reader.steps, hsettle, hread, hn, addReader, hnext]

theorem settle_of_behindSemicolon {r : Reader} (h : r.behindSemicolon = []) : r.settle = [r] := by
  rw [Reader.settle]
  simp [h]

/-- No semicolon is left out where the grammar has none, or before one that is there. -/
theorem behindSemicolon_eq_nil {r : Reader}
    (h : readGoals .automaticSemicolon r.goals = [] ∨ r.rest.head? = some ';') :
    r.behindSemicolon = [] := by
  rw [Reader.behindSemicolon]
  rcases h with h | h
  · simp [h]
  · obtain ⟨t, ht⟩ := List.head?_eq_some_iff.mp h
    have hahead (flag : Bool) : semicolonAhead flag (';' :: t) = false := by
      rw [semicolonAhead]
      simp [isLineFeed, isSpace, isAsciiBlank]
    simp [ht, hahead]

/-- At the end of the source a reader whose goals allow it arrives. -/
theorem Reader.Arrives.atEnd {goals : List Goal} {p statement : ℕ}
    {blanks t after : Text} {seen : List (ℕ × ℕ)}
    (hpiece : readPiece goals t = .token blanks .endOfInput after)
    (hend : [] ∈ readGoals .endOfInput goals)
    (hgoals : readGoals .automaticSemicolon goals = []) :
    Arrives ⟨goals, p, t, statement, seen⟩ seen.reverse := by
  refine .finished (settle_of_behindSemicolon (behindSemicolon_eq_nil (.inl hgoals))) ?_
  have hne : readGoals .endOfInput goals ≠ [] := List.ne_nil_of_mem hend
  simp only [readNext, hpiece]
  simp [hend, hne]

/-- A comment is read without a change of goals. -/
theorem Reader.Arrives.comment {goals : List Goal} {p statement : ℕ}
    {blanks opener body closer after : Text} {kind : CommentKind} {seen slices : List (ℕ × ℕ)}
    (hpiece : readPiece goals (blanks ++ (opener ++ body ++ closer) ++ after) =
      .comment blanks kind opener body closer after) (hopener : opener ≠ [])
    (hgoals : readGoals .automaticSemicolon goals = [])
    (h : Arrives ⟨goals, p + blanks.length + (opener ++ body ++ closer).length, after, statement,
      (p + blanks.length, p + blanks.length + (opener ++ body ++ closer).length) :: seen⟩ slices) :
    Arrives ⟨goals, p, blanks ++ (opener ++ body ++ closer) ++ after, statement, seen⟩ slices := by
  refine .moved (settle_of_behindSemicolon (behindSemicolon_eq_nil (.inl hgoals))) ?_ ?_ h
  · simp only [readNext, hpiece]
  · have hpos := List.length_pos_iff.mpr hopener
    simp only [List.length_append]
    omega

/-- A token for which the grammar leaves one choice is read. -/
theorem Reader.Arrives.token {goals next : List Goal} {p statement : ℕ}
    {read blanks after : Text} {token : Token} {seen slices : List (ℕ × ℕ)}
    (hpiece : readPiece goals (read ++ after) = .token blanks token after) (hread : read ≠ [])
    (hnext : readGoals token goals = [next]) (htoken : token ≠ .endOfInput)
    (hgoals : readGoals .automaticSemicolon goals = [] ∨ (read ++ after).head? = some ';')
    (h : ∀ start, Arrives ⟨next, p + read.length, after, start, seen⟩ slices) :
    Arrives ⟨goals, p, read ++ after, statement, seen⟩ slices := by
  have hread' : readNext ⟨goals, p, read ++ after, statement, seen⟩ =
      .moved [⟨next, p + read.length, after, if isBetween ⟨goals, p, read ++ after, statement, seen⟩
        then p + blanks.length else statement, seen⟩] := by
    simp [readNext, hpiece, hnext, htoken]
  refine .moved (settle_of_behindSemicolon (behindSemicolon_eq_nil hgoals)) hread' ?_ (h _)
  have hpos := List.length_pos_iff.mpr hread
  simp only [List.length_append]
  omega

end LicenseNotices.JavaScript
