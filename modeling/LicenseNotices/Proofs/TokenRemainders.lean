import LicenseNotices.JavaScript.Token
import LicenseNotices.Proofs.LexemeGrammar

/-!
What the readers of JavaScript tokens leave is a suffix of what they were given. Each of
them drops characters from the front of a text, and readers that drop are composed, tried
in turn and repeated; all of this keeps the property.
-/
namespace LicenseNotices.JavaScript

/-- A function that, where it gives a text, drops something from the front of its argument. -/
def Drops (drop : Text → Option Text) : Prop := ∀ t rest, drop t = some rest → rest <:+ t

theorem suffix_cons_of_suffix {rest t : Text} (c : Char) (h : rest <:+ t) : rest <:+ c :: t :=
  h.trans (List.suffix_cons c t)

theorem Drops.bind {first second : Text → Option Text} (hfirst : Drops first)
    (hsecond : Drops second) : Drops fun t => (first t).bind second := by
  intro t rest h
  obtain ⟨middle, hmiddle, hrest⟩ := Option.bind_eq_some_iff.mp h
  exact (hsecond middle rest hrest).trans (hfirst t middle hmiddle)

theorem Drops.map {drop : Text → Option Text} (h : Drops drop) {f : Text → Text}
    (hf : ∀ t, f t <:+ t) : Drops fun t => (drop t).map f := by
  intro t rest hrest
  obtain ⟨middle, hmiddle, rfl⟩ := Option.map_eq_some_iff.mp hrest
  exact (hf middle).trans (h t middle hmiddle)

theorem Drops.skipOptional_suffix {drop : Text → Option Text} (h : Drops drop) (t : Text) :
    skipOptional drop t <:+ t := by
  rw [skipOptional]
  cases hdrop : drop t with
  | none => exact List.suffix_refl t
  | some rest => exact h t rest hdrop

theorem dropMark_eq_some_iff (p t rest : Text) : dropMark p t = some rest ↔ t = p ++ rest := by
  rw [dropMark, Option.ite_none_right_eq_some, List.isPrefixOf_iff_prefix, Option.some.injEq]
  constructor
  · rintro ⟨hstarts, rfl⟩
    exact (List.prefix_iff_eq_append.mp hstarts).symm
  · rintro rfl
    simp

theorem drops_dropMark (p : Text) : Drops (dropMark p) := by
  intro t rest h
  rw [(dropMark_eq_some_iff p t rest).mp h]
  exact List.suffix_append p rest

theorem drops_unicodeEscape : Drops unicodeEscape := by
  intro t rest h
  rw [unicodeEscape.eq_def] at h
  split at h
  · rename_i digits
    split at h
    · rename_i hspan
      cases h
      rw [List.span_eq_takeWhile_dropWhile, Prod.mk.injEq] at hspan
      have hdigits := List.dropWhile_suffix (l := digits) isHex
      rw [hspan.2] at hdigits
      have hrest := (List.suffix_cons '}' rest).trans hdigits
      exact suffix_cons_of_suffix 'u' (suffix_cons_of_suffix _ hrest)
    · cases h
  · split at h
    · cases h
      grind [List.suffix_cons_iff]
    · cases h
  · cases h

theorem drops_stringEscape : Drops stringEscape := by
  intro t rest h
  rw [stringEscape.eq_def] at h
  split at h
  · cases h
  · split at h
    · grind [List.suffix_cons_iff]
    · cases h
  · exact drops_unicodeEscape _ _ h
  · cases h
    grind [List.suffix_cons_iff]
  · split at h
    · cases h
      exact suffix_cons_of_suffix _ (List.drop_suffix _ _)
    · split at h
      · cases h
      · cases h
        exact List.suffix_cons _ rest

theorem dropNameParts_suffix (t : Text) : dropNameParts t <:+ t := by
  fun_induction dropNameParts t with
  | case1 => exact List.suffix_refl _
  | case2 c rest _ ih => exact suffix_cons_of_suffix c ih
  | case3 rest _ hafter _ _ ih =>
    exact suffix_cons_of_suffix _ (ih.trans (drops_unicodeEscape _ _ hafter))
  | case4 => exact List.suffix_refl _
  | case5 => exact List.suffix_refl _
  | case6 => exact List.suffix_refl _

theorem drops_dropName : Drops dropName := by
  intro t rest h
  rw [dropName.eq_def] at h
  split at h
  · cases h
  · rename_i c behind
    apply suffix_cons_of_suffix c
    split at h
    · cases h
      exact dropNameParts_suffix behind
    · split at h
      · exact drops_unicodeEscape.map dropNameParts_suffix behind rest h
      · cases h

theorem dropDigits_more_suffix (isDigit : Char → Bool) (t : Text) :
    dropDigits.more isDigit t <:+ t := by
  fun_induction dropDigits.more isDigit t with
  | case1 => exact List.suffix_refl _
  | case2 c rest _ ih => exact suffix_cons_of_suffix _ (suffix_cons_of_suffix c ih)
  | case3 => exact List.suffix_refl _
  | case4 c rest _ _ ih => exact suffix_cons_of_suffix c ih
  | case5 => exact List.suffix_refl _

theorem drops_dropDigits (isDigit : Char → Bool) : Drops (dropDigits isDigit) := by
  intro t rest h
  rw [dropDigits.eq_def] at h
  split at h
  · cases h
  · rename_i c behind
    split at h
    · cases h
      exact suffix_cons_of_suffix c (dropDigits_more_suffix isDigit behind)
    · cases h

theorem drops_dropExponent : Drops dropExponent := by
  have hdigits := drops_dropDigits Char.isDigit
  intro t rest h
  rw [dropExponent.eq_def] at h
  split at h
  · apply suffix_cons_of_suffix
    split at h
    · exact suffix_cons_of_suffix _ (hdigits _ rest h)
    · exact suffix_cons_of_suffix _ (hdigits _ rest h)
    · exact hdigits _ rest h
  · apply suffix_cons_of_suffix
    split at h
    · exact suffix_cons_of_suffix _ (hdigits _ rest h)
    · exact suffix_cons_of_suffix _ (hdigits _ rest h)
    · exact hdigits _ rest h
  · cases h

theorem drops_digitsBehind : Drops dropInteger.digitsBehind := by
  have hdigits := drops_dropDigits Char.isDigit
  intro t rest h
  rw [dropInteger.digitsBehind.eq_def] at h
  split at h
  · exact suffix_cons_of_suffix _ (hdigits _ rest h)
  · exact hdigits _ rest h

theorem drops_dropInteger : Drops dropInteger := by
  have hbehind := drops_digitsBehind.skipOptional_suffix
  intro t rest h
  rw [dropInteger.eq_def] at h
  split at h
  · apply suffix_cons_of_suffix
    split at h
    · cases h
      exact suffix_cons_of_suffix _ (hbehind _)
    · cases h
      exact List.suffix_refl _
  · cases h
    exact List.suffix_cons _ rest
  · split at h
    · cases h
      exact suffix_cons_of_suffix _ (hbehind _)
    · cases h
  · cases h

/-- Every reading of a number drops. -/
theorem suffix_of_mem_numberReadings {t rest : Text} (h : some rest ∈ numberReadings t) :
    rest <:+ t := by
  have hbased : ∀ r ∈ (numberReadings t).take 3, ∀ rest, r = some rest → rest <:+ t := by
    intro r hr rest h
    simp only [numberReadings, List.take_succ_cons, List.take_zero, List.mem_cons,
      List.not_mem_nil, or_false] at hr
    rcases hr with rfl | rfl | rfl
    all_goals
      split at h
      · split at h
        · exact suffix_cons_of_suffix _ (suffix_cons_of_suffix _ (drops_dropDigits _ _ _ h))
        · cases h
      · cases h
  have hbigint {r : Option Text} (hr : ∀ rest, r = some rest → rest <:+ t) :
      ∀ rest, r.bind (dropMark ['n']) = some rest → rest <:+ t := by
    intro rest h
    obtain ⟨digits, hdigits, hmark⟩ := Option.bind_eq_some_iff.mp h
    exact (drops_dropMark _ _ _ hmark).trans (hr digits hdigits)
  have hdecimal := drops_dropDigits Char.isDigit
  have hexponent := drops_dropExponent.skipOptional_suffix
  have hfraction : Drops fun t => ((dropInteger t).bind (dropMark ['.'])).map fun rest =>
      skipOptional dropExponent (skipOptional (dropDigits Char.isDigit) rest) :=
    (drops_dropInteger.bind (drops_dropMark _)).map fun t =>
      (hexponent _).trans (hdecimal.skipOptional_suffix t)
  have hbare : Drops fun t => ((dropMark ['.'] t).bind (dropDigits Char.isDigit)).map
      (skipOptional dropExponent) :=
    ((drops_dropMark _).bind hdecimal).map hexponent
  have hscientific := drops_dropInteger.bind drops_dropExponent
  simp only [numberReadings, List.mem_cons, List.not_mem_nil, or_false] at h
  rcases h with h | h | h | h | h | h | h | h | h | h | h
  · exact hbased _ (by simp [numberReadings]) rest h.symm
  · exact hbased _ (by simp [numberReadings]) rest h.symm
  · exact hbased _ (by simp [numberReadings]) rest h.symm
  · exact hdecimal t rest h.symm
  · exact hfraction t rest h.symm
  · exact hbare t rest h.symm
  · exact hscientific t rest h.symm
  · exact hbigint (hbased _ (by simp [numberReadings])) rest h.symm
  · exact hbigint (hbased _ (by simp [numberReadings])) rest h.symm
  · exact hbigint (hbased _ (by simp [numberReadings])) rest h.symm
  · exact hbigint (hdecimal t) rest h.symm

theorem drops_dropNumber : Drops dropNumber := by
  intro t rest h
  rw [dropNumber] at h
  -- Whatever reading is the longest so far, it leaves a suffix.
  refine List.foldlRecOn (motive := fun best : Option Text => ∀ rest, best = some rest → rest <:+ t)
    (numberReadings t) _ (by simp) ?_ rest h
  intro best hbest r hr
  have hreading : ∀ rest, r = some rest → rest <:+ t := fun rest heq =>
    suffix_of_mem_numberReadings (heq ▸ hr)
  cases best with
  | none => exact hreading
  | some best =>
    cases r with
    | none => exact hbest
    | some other =>
      intro rest heq
      obtain rfl := Option.some.inj heq
      split
      · exact hreading other rfl
      · exact hbest best rfl

theorem drops_body_and_classBody : Drops dropRegex.body ∧ Drops dropRegex.classBody := by
  refine dropRegex.body.mutual_induct (fun t => ∀ rest, dropRegex.body t = some rest → rest <:+ t)
    (fun t => ∀ rest, dropRegex.classBody t = some rest → rest <:+ t) ?_ ?_ ?_ ?_ ?_ ?_ ?_ ?_ ?_ ?_
    ?_ ?_ ?_
  all_goals grind [dropRegex.body, dropRegex.classBody, List.suffix_cons_iff]

theorem drops_dropRegex : Drops dropRegex := by
  intro t rest h
  rw [dropRegex.eq_def] at h
  split at h
  · cases h
  · exact drops_body_and_classBody.1.map (fun t => List.dropWhile_suffix _) _ rest h

/-- A block comment ends where it ends in sources of the C family, and holds no null
character. -/
theorem splitBlockComment_eq_some_iff (t body rest : Text) :
    splitBlockComment t = some (body, rest) ↔
      CStyle.splitBlock t = some (body, rest) ∧ '\x00' ∉ body := by
  fun_induction splitBlockComment t generalizing body with
  | case1 => simp [CStyle.splitBlock]
  | case2 behind =>
    simp only [CStyle.splitBlock, Option.some.injEq, Prod.mk.injEq]
    constructor
    · rintro ⟨rfl, rfl⟩
      simp
    · rintro ⟨h, -⟩
      exact h
  | case3 behind hopener =>
    rw [CStyle.splitBlock_cons (by simp)]
    constructor
    · intro h
      cases h
    · rintro ⟨h, hbody⟩
      obtain ⟨⟨b, r⟩, -, heq⟩ := Option.map_eq_some_iff.mp h
      cases heq
      simp at hbody
  | case4 c behind hopener hnull ih =>
    have hhead : c = '*' → behind.head? ≠ some '/' := by
      intro hc hslash
      obtain ⟨after, rfl⟩ := List.head?_eq_some_iff.mp hslash
      exact hopener after hc rfl
    rw [CStyle.splitBlock_cons hhead]
    constructor
    · intro h
      obtain ⟨⟨b, r⟩, hr, heq⟩ := Option.map_eq_some_iff.mp h
      cases heq
      obtain ⟨hsplit, hb⟩ := (ih b).mp hr
      rw [hsplit]
      exact ⟨rfl, by simpa [Ne.symm hnull] using hb⟩
    · rintro ⟨h, hbody⟩
      obtain ⟨⟨b, r⟩, hr, heq⟩ := Option.map_eq_some_iff.mp h
      cases heq
      rw [(ih b).mpr ⟨hr, fun hb => hbody (List.mem_cons_of_mem c hb)⟩]
      rfl

theorem readMark_suffix {marks : List String} {t rest : Text} {token : Token}
    (h : readMark marks t = some (token, rest)) : rest <:+ t := by
  rw [readMark] at h
  obtain ⟨m, -, hm⟩ := List.exists_of_findSome?_eq_some h
  obtain ⟨behind, hbehind, heq⟩ := Option.map_eq_some_iff.mp hm
  cases heq
  exact drops_dropMark _ t rest hbehind

theorem readToken_suffix {regexAllowed : Bool} {t rest : Text} {token : Token}
    (h : readToken regexAllowed t = some (token, rest)) : rest <:+ t := by
  rw [readToken.eq_def] at h
  split at h
  · cases h
    exact List.suffix_refl _
  · split at h
    · rename_i hregex
      cases h
      apply suffix_cons_of_suffix
      split at hregex
      · exact drops_dropRegex _ rest hregex
      · cases hregex
    · exact readMark_suffix h
  · obtain ⟨behind, hbehind, heq⟩ := Option.map_eq_some_iff.mp h
    cases heq
    exact suffix_cons_of_suffix _ (drops_dropName _ rest hbehind)
  · split at h
    · cases h
      exact List.suffix_cons _ rest
    · split at h
      · cases h
        exact List.suffix_cons _ rest
      · split at h
        · rename_i hname
          cases h
          exact drops_dropName _ rest hname
        · split at h
          · rename_i hnumber
            cases h
            exact drops_dropNumber _ rest hnumber
          · exact readMark_suffix h

end LicenseNotices.JavaScript
