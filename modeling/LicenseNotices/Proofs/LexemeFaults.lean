import LicenseNotices.Proofs.LexemeGrammar

/-!
Sources of the C family that are not cut into lexemes up to their end. Lexemes lead to the
first place where a block comment or a literal opens and does not close. The scanner reports
this place, and what opens there.
-/
namespace LicenseNotices.CStyle

/-- Lexemes that follow each other from the front of a text up to the rest of it. -/
inductive LeadsTo (rest : Text) : Text → List Lexeme → Prop
  | nil : LeadsTo rest rest []
  | cons {x : Lexeme} {t : Text} {xs : List Lexeme} (hfits : Fits x t)
      (ht : LeadsTo rest t xs) : LeadsTo rest (x.text ++ t) (x :: xs)

/-- What opens at the start of a text and is not closed in it. -/
inductive Unterminated : SourceFault → Text → Prop
  | comment {t : Text} (hclose : ¬ ['*', '/'] <:+: t) :
      Unterminated .unterminatedComment ('/' :: '*' :: t)
  | literal {quote : Char} {t : Text} (hquote : isQuote quote = true)
      (hclose : ∀ content rest, IsContent quote content → t ≠ content ++ [quote] ++ rest) :
      Unterminated .unterminatedLiteral (quote :: t)

theorem LeadsTo.eq_append {rest t : Text} {xs : List Lexeme} (h : LeadsTo rest t xs) :
    t = xs.flatMap Lexeme.text ++ rest := by
  induction h with
  | nil => rfl
  | cons _ _ ih => rw [List.flatMap_cons, List.append_assoc, ← ih]

theorem splitBlock_eq_none_iff (t : Text) : splitBlock t = none ↔ ¬ ['*', '/'] <:+: t := by
  fun_induction splitBlock t with
  | case1 => simp
  | case2 rest =>
    have hclose : ['*', '/'] <:+: '*' :: '/' :: rest := ⟨[], rest, rfl⟩
    simpa
  | case3 c rest hopen ih =>
    rw [Option.map_eq_none_iff, ih, not_iff_not]
    refine ⟨List.infix_cons, fun h => by_contra fun hrest => not_infix_cons ?_ hrest h⟩
    intro hc hhead
    obtain ⟨rest', hrest'⟩ := List.head?_eq_some_iff.mp hhead
    exact hopen rest' hc hrest'

theorem splitLiteral_eq_none_iff {quote : Char} (hquote : isQuote quote = true) (t : Text) :
    splitLiteral quote t = none ↔
      ∀ content rest, IsContent quote content → t ≠ content ++ [quote] ++ rest := by
  simp only [Option.eq_none_iff_forall_ne_some, Prod.forall, ne_eq,
    splitLiteral_eq_some_iff hquote]
  exact forall₂_congr fun content rest => by tauto

/-- Reading a lexeme fails exactly where one is not closed. -/
theorem readLexeme_eq_error_iff (t : Text) (fault : SourceFault) :
    readLexeme t = some (.error fault) ↔ Unterminated fault t := by
  constructor
  · intro h
    fun_cases readLexeme t with
    | case1 => simp [readLexeme] at h
    | case2 t' => simp [readLexeme] at h
    | case3 t' body rest hsplit => simp [readLexeme, hsplit] at h
    | case4 t' hsplit =>
      rw [readLexeme, hsplit] at h
      cases h
      exact .comment ((splitBlock_eq_none_iff t').mp hsplit)
    | case5 c t' hline hblock hquote content rest hsplit =>
      rw [readLexeme_cons (not_opener hline hblock), if_pos hquote, hsplit] at h
      cases h
    | case6 c t' hline hblock hquote hsplit =>
      rw [readLexeme_cons (not_opener hline hblock), if_pos hquote, hsplit] at h
      cases h
      exact .literal hquote ((splitLiteral_eq_none_iff hquote t').mp hsplit)
    | case7 c t' hline hblock hquote =>
      rw [readLexeme_cons (not_opener hline hblock), if_neg hquote] at h
      cases h
  · intro h
    cases h with
    | @comment t hclose => rw [readLexeme, (splitBlock_eq_none_iff t).mpr hclose]
    | @literal quote t hquote hclose =>
      rw [readLexeme_cons fun heq => absurd heq (ne_of_isQuote hquote).2.2, if_pos hquote,
        (splitLiteral_eq_none_iff hquote t).mpr hclose]

/-- The scanner stops at a fault exactly where lexemes lead to what is not closed. -/
theorem lexemes_eq_fault_iff (t : Text) (xs : List Lexeme) (fault : SourceFault) :
    lexemes t = (xs, some fault) ↔ ∃ rest, LeadsTo rest t xs ∧ Unterminated fault rest := by
  constructor
  · intro h
    fun_induction lexemes t generalizing xs with
    | case1 t hread => cases h
    | case2 t fault' hread =>
      cases h
      exact ⟨t, .nil, (readLexeme_eq_error_iff t fault).mp hread⟩
    | case3 t x rest hread later fault' hlater ih =>
      cases h
      obtain ⟨rfl, hfits⟩ := (readLexeme_eq_ok_iff t rest x).mp hread
      obtain ⟨bad, hleads, hbad⟩ := ih later hlater
      exact ⟨bad, .cons hfits hleads, hbad⟩
  · rintro ⟨rest, hleads, hrest⟩
    induction hleads with
    | nil =>
      have hread := (readLexeme_eq_error_iff rest fault).mpr hrest
      rw [lexemes]
      split <;> simp_all
    | cons hfits _ ih => rw [lexemes_of_ok (readLexeme_of_fits hfits), ih]

theorem comments_eq_error_iff (source : Text) (e : SourceError) :
    comments source = .error e ↔ ∃ rest xs, LeadsTo rest source xs ∧
      Unterminated e.fault rest ∧ e.position = positionBehind {} xs := by
  have hfault : comments source = .error e ↔
      ∃ xs, lexemes source = (xs, some e.fault) ∧ e.position = positionBehind {} xs := by
    rw [comments]
    split
    · simp_all
    · rename_i xs fault heq
      rw [heq]
      constructor
      · intro h
        cases h
        exact ⟨xs, rfl, rfl⟩
      · rintro ⟨ys, hxs, hposition⟩
        obtain ⟨rfl, hfault⟩ := Prod.mk.inj hxs
        rw [Option.some.inj hfault, ← hposition]
  rw [hfault]
  simp only [lexemes_eq_fault_iff]
  constructor
  · rintro ⟨xs, ⟨rest, hleads, hrest⟩, hposition⟩
    exact ⟨rest, xs, hleads, hrest, hposition⟩
  · rintro ⟨rest, xs, hleads, hrest, hposition⟩
    exact ⟨xs, ⟨rest, hleads, hrest⟩, hposition⟩

end LicenseNotices.CStyle
