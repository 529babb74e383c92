import LicenseNotices.JavaScript.Reader
import LicenseNotices.Proofs.CommentSpans
import LicenseNotices.Proofs.TokenRemainders

/-!
What a reader of JavaScript takes next accounts for the text in front of it: a comment
stands between the blanks before it and the rest, and a token leaves a suffix. In which
mode the text is cut does not matter for this. A line comment may end at a null character,
but is then no comment of the grammar.
-/
namespace LicenseNotices.JavaScript

def Piece.AccountsFor (t : Text) : Piece → Prop
  | .comment blanks kind opener body closer rest =>
      t = blanks ++ (opener ++ body ++ closer) ++ rest ∧
        (rest.head? ≠ some '\x00' → Delimited .javascript kind opener body closer rest)
  | .token _ _ rest => rest <:+ t
  | .unknown _ => True

/-- The characters of a body, and the one behind it, when a body ends at certain characters or
at the null character. -/
theorem body_takeWhile (isEnd : Char → Bool) (t : Text) :
    (∀ c ∈ t.takeWhile fun c => !isEnd c && decide (c ≠ '\x00'), isEnd c = false) ∧
      ((t.dropWhile fun c => !isEnd c && decide (c ≠ '\x00')).head? ≠ some '\x00' →
        ∀ c ∈ (t.dropWhile fun c => !isEnd c && decide (c ≠ '\x00')).head?, isEnd c = true) := by
  constructor
  · intro c hc
    have := List.mem_takeWhile_imp hc
    simp only [Bool.and_eq_true, Bool.not_eq_true'] at this
    exact this.1
  · intro hnull c hc
    have hhead := List.head?_dropWhile_not (fun c => !isEnd c && decide (c ≠ '\x00')) t
    rw [Option.mem_def.mp hc] at hhead hnull
    have hne : c ≠ '\x00' := fun heq => hnull (congrArg some heq)
    simpa [hne] using hhead

theorem accountsFor_readComment {blanks t : Text} {piece : Piece}
    (h : readComment blanks t = some piece) : piece.AccountsFor (blanks ++ t) := by
  rw [readComment.eq_def] at h
  split at h
  · rename_i behind
    cases h
    obtain ⟨hbody, hafter⟩ := body_takeWhile isLineBreak behind
    exact ⟨by simp, fun hnull => .scriptLine hbody (hafter hnull)⟩
  · obtain ⟨⟨body, after⟩, hsplit, rfl⟩ := Option.map_eq_some_iff.mp h
    obtain ⟨hclosed, -⟩ := (splitBlockComment_eq_some_iff _ _ _).mp hsplit
    obtain ⟨rfl, hbody⟩ := (CStyle.splitBlock_eq_some_iff _ _ _).mp hclosed
    exact ⟨by simp, fun _ => .block hbody⟩
  · cases h

theorem accountsFor_readMarkupComment {t : Text} {piece : Piece}
    (h : readMarkupComment t = some piece) : piece.AccountsFor t := by
  have hbehind {opener : Text} (hopener : opener = ['<', '!', '-', '-'] ∨ opener = ['-', '-', '>'])
      (hmark : (dropMark opener (t.dropWhile isSpace)).map (fun rest =>
        Piece.comment (t.takeWhile isSpace) .line opener
          (rest.takeWhile fun c => !isLineFeed c && decide (c ≠ '\x00')) []
          (rest.dropWhile fun c => !isLineFeed c && decide (c ≠ '\x00'))) = some piece) :
      piece.AccountsFor t := by
    obtain ⟨rest, hrest, rfl⟩ := Option.map_eq_some_iff.mp hmark
    obtain ⟨hbody, hafter⟩ := body_takeWhile isLineFeed rest
    refine ⟨?_, fun hnull => .markup hopener hbody (hafter hnull)⟩
    have hsplit := List.takeWhile_append_dropWhile (p := isSpace) (l := t)
    rw [(dropMark_eq_some_iff _ _ _).mp hrest] at hsplit
    simpa using hsplit.symm
  rw [readMarkupComment] at h
  rcases Option.or_eq_some_iff.mp h with h | ⟨-, h⟩
  · exact hbehind (.inl rfl) h
  · exact hbehind (.inr rfl) h

theorem accountsFor_readBehindBlanks {read : Text → Option (Token × Text)}
    (hread : ∀ t token rest, read t = some (token, rest) → rest <:+ t) (t : Text) :
    (readBehindBlanks read t).AccountsFor t := by
  have hsplit := List.takeWhile_append_dropWhile (p := isBlank) (l := t)
  rw [readBehindBlanks]
  cases hcomment : readComment (t.takeWhile isBlank) (t.dropWhile isBlank) with
  | some piece =>
    have := accountsFor_readComment hcomment
    rwa [hsplit] at this
  | none =>
    rw [Option.getD_none]
    cases htoken : read (t.dropWhile isBlank) with
    | none => exact trivial
    | some found =>
      obtain ⟨token, rest⟩ := found
      exact (hread _ token rest htoken).trans (List.dropWhile_suffix isBlank)

theorem accountsFor_readQuestion {t : Text} {piece : Piece} (h : readQuestion t = some piece) :
    piece.AccountsFor t := by
  rw [readQuestion] at h
  split at h
  · rename_i rest hrest
    obtain ⟨-, h⟩ := Option.ite_none_right_eq_some.mp h
    cases h
    have hsuffix := List.dropWhile_suffix (l := t) isSpace
    rw [hrest] at hsuffix
    exact (List.suffix_cons '?' rest).trans hsuffix
  · cases h

theorem accountsFor_ofToken {t : Text} (blanks : Text) {token : Token} {found : Option Text}
    (h : ∀ rest, found = some rest → rest <:+ t) :
    (Piece.ofToken blanks (found.map fun rest => (token, rest))).AccountsFor t := by
  cases found with
  | none => exact trivial
  | some rest => exact h rest rfl

theorem accountsFor_readStringPiece (q : Char) (t : Text) :
    (readStringPiece q t).AccountsFor t := by
  rw [readStringPiece.eq_def]
  dsimp only
  split
  · exact trivial
  · exact accountsFor_ofToken _ fun rest h => suffix_cons_of_suffix _ (drops_stringEscape _ rest h)
  · split
    · exact suffix_cons_of_suffix _ (List.dropWhile_suffix _)
    · apply accountsFor_readBehindBlanks
      intro t token rest h
      split at h
      · split at h
        · cases h
          exact List.suffix_cons _ rest
        · cases h
      · cases h

theorem dropTemplateText_suffix (t : Text) : dropTemplateText t <:+ t := by
  fun_induction dropTemplateText t with
  | case1 => exact List.suffix_refl _
  | case2 => exact List.suffix_refl _
  | case3 => exact List.suffix_refl _
  | case4 c rest _ _ ih => exact suffix_cons_of_suffix c ih

theorem accountsFor_readTemplatePiece (t : Text) : (readTemplatePiece t).AccountsFor t := by
  rw [readTemplatePiece.eq_def]
  split
  · exact List.suffix_cons _ _
  · exact suffix_cons_of_suffix _ (List.suffix_cons _ _)
  · exact accountsFor_ofToken _ fun rest h => suffix_cons_of_suffix _ (drops_stringEscape _ rest h)
  · exact trivial
  · split
    · exact trivial
    · exact dropTemplateText_suffix _

theorem drops_dropReference : Drops dropReference := by
  have hcounted (limit : ℕ) (p : Char → Bool) : Drops fun t =>
      if 0 < (t.takeWhile p).length ∧ (t.takeWhile p).length ≤ limit then
        dropMark [';'] (t.drop (t.takeWhile p).length)
      else none := by
    intro t rest h
    obtain ⟨-, hrest⟩ := Option.ite_none_right_eq_some.mp h
    exact (drops_dropMark _ _ rest hrest).trans (List.drop_suffix _ t)
  intro t rest h
  rw [dropReference.eq_def] at h
  dsimp only at h
  split at h
  · exact suffix_cons_of_suffix _ (suffix_cons_of_suffix _ (hcounted 6 isHex _ rest h))
  · exact suffix_cons_of_suffix _ (suffix_cons_of_suffix _ (hcounted 6 isHex _ rest h))
  · exact suffix_cons_of_suffix _ (hcounted 5 Char.isDigit _ rest h)
  · exact hcounted 30 Char.isAlpha _ rest h

theorem drops_readMarkupText : Drops readMarkupText := by
  intro t rest h
  rw [readMarkupText] at h
  dsimp only at h
  split at h
  · cases h
    exact List.dropWhile_suffix _
  · cases h

theorem accountsFor_readChildrenPiece (t : Text) : (readChildrenPiece t).AccountsFor t := by
  rw [readChildrenPiece]
  split
  · rename_i rest htext
    exact drops_readMarkupText t rest htext
  · split
    · rename_i piece hcomment
      exact accountsFor_readMarkupComment hcomment
    · apply accountsFor_readBehindBlanks
      intro t token rest h
      split at h
      · obtain ⟨behind, hbehind, heq⟩ := Option.map_eq_some_iff.mp h
        cases heq
        exact suffix_cons_of_suffix _ (drops_dropReference _ rest hbehind)
      · exact readMark_suffix h

theorem drops_dropTagName : Drops dropTagName := by
  intro t rest h
  rw [dropTagName] at h
  dsimp only at h
  split at h
  · rename_i named other hname hhyphened
    obtain ⟨-, hother⟩ := Option.ite_none_right_eq_some.mp hhyphened
    cases hother
    cases h
    split
    · exact List.dropWhile_suffix _
    · exact drops_dropName t named hname
  · exact drops_dropName t rest h

theorem drops_dropTagString (q : Char) : Drops (dropTagString q) := by
  intro t rest h
  fun_induction dropTagString q t with
  | case1 => cases h
  | case2 c behind _ after hafter _ ih =>
    exact suffix_cons_of_suffix _ ((ih h).trans (drops_dropReference _ after hafter))
  | case3 => cases h
  | case4 => cases h
  | case5 c behind _ ih => exact suffix_cons_of_suffix _ (suffix_cons_of_suffix c (ih h))
  | case6 =>
    cases h
    exact List.suffix_cons _ rest
  | case7 => cases h
  | case8 c behind _ _ _ ih => exact suffix_cons_of_suffix c (ih h)

theorem accountsFor_readTagPiece (t : Text) : (readTagPiece t).AccountsFor t := by
  rw [readTagPiece]
  split
  · rename_i piece hcomment
    exact accountsFor_readMarkupComment hcomment
  · apply accountsFor_readBehindBlanks
    intro t token rest h
    split at h
    · cases h
    · split at h
      · obtain ⟨behind, hbehind, heq⟩ := Option.map_eq_some_iff.mp h
        cases heq
        exact suffix_cons_of_suffix _ (drops_dropTagString _ _ rest hbehind)
      · split at h
        · rename_i hname
          cases h
          exact drops_dropTagName _ rest hname
        · exact readMark_suffix h

theorem accountsFor_code (goals : List Goal) (t : Text) :
    (readBehindBlanks (readToken !(readGoals .regex goals).isEmpty) t).AccountsFor t :=
  accountsFor_readBehindBlanks (fun _ _ _ h => readToken_suffix h) t

/-- A comment or a question mark is taken before the tokens of ordinary code. -/
theorem accountsFor_getD {first : Option Piece} {t : Text}
    (hfirst : ∀ piece, first = some piece → piece.AccountsFor t) (goals : List Goal) :
    (first.getD (readBehindBlanks (readToken !(readGoals .regex goals).isEmpty) t)).AccountsFor
      t := by
  cases first with
  | none => exact accountsFor_code goals t
  | some piece => exact hfirst piece rfl

theorem accountsFor_readPiece (goals : List Goal) (t : Text) :
    (readPiece goals t).AccountsFor t := by
  have hmarkup := accountsFor_getD (fun _ h => accountsFor_readMarkupComment (t := t) h) goals
  have hquestion := accountsFor_getD (fun _ h => accountsFor_readQuestion (t := t) h) goals
  rw [readPiece.eq_def]
  dsimp only
  split
  · exact trivial
  · split
    · rename_i rest hrest
      have hsuffix := List.dropWhile_suffix (l := t) isBlank
      rw [hrest] at hsuffix
      have hline := List.dropWhile_suffix (l := rest) (· ≠ '\n')
      exact (suffix_cons_of_suffix '#' (suffix_cons_of_suffix '!' hline)).trans hsuffix
    · exact hmarkup
  · split
    · exact accountsFor_readStringPiece _ t
    · exact accountsFor_readTemplatePiece t
    · exact accountsFor_readChildrenPiece t
    · exact accountsFor_readTagPiece t
    · split
      · exact hquestion
      · split
        · exact accountsFor_code _ t
        · exact hmarkup

end LicenseNotices.JavaScript
