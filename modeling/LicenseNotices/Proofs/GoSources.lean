import LicenseNotices.Proofs.LexemeGrammar
import Mathlib.Algebra.Group.Nat.Even
import Mathlib.Data.List.DropRight
import Mathlib.Data.List.Induction

/-!
Go sources, as the scanner of the C family reads them. A literal in backquotes is raw in Go: a
backslash in it is a character like any other. The scanner takes the character behind a backslash
along in every literal, the closing backquote included. So it reads a source as it is meant exactly
when no raw literal ends in an odd number of backslashes; otherwise a comment can be lost.
-/
namespace LicenseNotices.GoSources

open CStyle

/-- A lexical element of Go that is well formed and complete in front of the text. What stands
between double or single quotes may hold escapes but no line feed; what stands between backquotes
may hold everything but a backquote. -/
inductive IsElement : Lexeme → Text → Prop
  | lineComment {body rest : Text} (hbody : '\n' ∉ body) (hrest : ∀ c ∈ rest.head?, c = '\n') :
      IsElement (.lineComment body) rest
  | blockComment {body rest : Text} (hbody : ¬ ['*', '/'] <:+: body) :
      IsElement (.blockComment body) rest
  | interpreted {quote : Char} {content rest : Text} (hquote : quote = '\x22' ∨ quote = '\x27')
      (hcontent : IsContent quote content) (hline : '\n' ∉ content) :
      IsElement (.literal quote content) rest
  | raw {content rest : Text} (hcontent : '\x60' ∉ content) :
      IsElement (.literal '\x60' content) rest
  | other {c : Char} {rest : Text} (hquote : isQuote c = false)
      (hopener : c = '/' → rest.head? ≠ some '/' ∧ rest.head? ≠ some '*') :
      IsElement (.other c) rest

/-- A source that consists of the elements, one after the other. -/
inductive Consists : Text → List Lexeme → Prop
  | nil : Consists [] []
  | cons {x : Lexeme} {rest : Text} {xs : List Lexeme} (helement : IsElement x rest)
      (hrest : Consists rest xs) : Consists (x.text ++ rest) (x :: xs)

/-- The number of backslashes at the end of a text. -/
def backslashesAtEnd (t : Text) : ℕ := (t.rtakeWhile (· = '\\')).length

theorem backslashesAtEnd_append_of_all (s : Text) {t : Text} (h : ∀ c ∈ t, c = '\\') :
    backslashesAtEnd (s ++ t) = backslashesAtEnd s + t.length := by
  have hpos : ∀ c ∈ t.reverse, decide (c = '\\') = true := by simpa using h
  rw [backslashesAtEnd, backslashesAtEnd, List.rtakeWhile, List.rtakeWhile, List.reverse_append,
    List.takeWhile_append_of_pos hpos]
  simp [Nat.add_comm]

theorem backslashesAtEnd_append_of_not_all (s : Text) {t : Text} (h : ¬ ∀ c ∈ t, c = '\\') :
    backslashesAtEnd (s ++ t) = backslashesAtEnd t := by
  have hstop : (t.reverse.takeWhile (· = '\\')).length ≠ t.reverse.length := by
    intro hlength
    have heq := (List.takeWhile_prefix (· = '\\')).eq_of_length hlength
    rw [List.takeWhile_eq_self_iff] at heq
    exact h (by simpa using heq)
  rw [backslashesAtEnd, backslashesAtEnd, List.rtakeWhile, List.rtakeWhile, List.reverse_append,
    List.takeWhile_append, if_neg hstop]

theorem backslashesAtEnd_eq_length {t : Text} (h : ∀ c ∈ t, c = '\\') :
    backslashesAtEnd t = t.length := by
  simpa [backslashesAtEnd] using backslashesAtEnd_append_of_all [] h

/-- A character that is no backslash does not count, whatever is behind it. -/
theorem backslashesAtEnd_cons {c : Char} (h : c ≠ '\\') (t : Text) :
    backslashesAtEnd (c :: t) = backslashesAtEnd t := by
  rw [← List.singleton_append]
  by_cases ht : ∀ d ∈ t, d = '\\'
  · rw [backslashesAtEnd_append_of_all _ ht, backslashesAtEnd_eq_length ht]
    simp [backslashesAtEnd, List.rtakeWhile, h]
  · exact backslashesAtEnd_append_of_not_all _ ht

/-- A backslash and the character behind it leave the parity as it is. -/
theorem even_backslashesAtEnd_escape (c : Char) (t : Text) :
    Even (backslashesAtEnd ('\\' :: c :: t)) ↔ Even (backslashesAtEnd t) := by
  by_cases hc : c = '\\'
  · have hpair : backslashesAtEnd ['\\', '\\'] = 2 := by decide
    rw [hc, show '\\' :: '\\' :: t = ['\\', '\\'] ++ t from rfl]
    by_cases ht : ∀ d ∈ t, d = '\\'
    · rw [backslashesAtEnd_append_of_all _ ht, backslashesAtEnd_eq_length ht, hpair, Nat.add_comm]
      exact Nat.even_add_one.trans (by rw [Nat.even_add_one, not_not])
    · rw [backslashesAtEnd_append_of_not_all _ ht]
  · have hstop : ¬ ∀ d ∈ c :: t, d = '\\' := fun h => hc (h c (by simp))
    rw [← List.singleton_append, backslashesAtEnd_append_of_not_all _ hstop,
      backslashesAtEnd_cons hc]

theorem isContent_escape_iff {quote c : Char} {t : Text} :
    IsContent quote ('\\' :: c :: t) ↔ IsContent quote t := by
  constructor
  · intro h
    cases h with
    | escape _ ht => exact ht
    | plain _ hescape _ _ => exact absurd rfl hescape
  · exact .escape c

theorem isContent_plain_iff {c : Char} {t : Text} (hquote : c ≠ '\x60') (hescape : c ≠ '\\') :
    IsContent '\x60' (c :: t) ↔ IsContent '\x60' t := by
  constructor
  · intro h
    cases h with
    | escape _ _ => exact absurd rfl hescape
    | plain _ _ _ ht => exact ht
  · exact .plain hquote hescape fun _ => rfl

/-- The content of a raw literal is content for the scanner when its backslashes at the end are
escapes of each other. -/
theorem isContent_iff_even {content : Text} (h : '\x60' ∉ content) :
    IsContent '\x60' content ↔ Even (backslashesAtEnd content) := by
  induction content using List.twoStepInduction with
  | nil => exact iff_of_true .nil (by decide)
  | singleton c =>
    by_cases hc : c = '\\'
    · subst c
      refine iff_of_false (fun hcontent => ?_) (by decide)
      cases hcontent with
      | plain _ hescape _ _ => exact hescape rfl
    · rw [isContent_plain_iff (List.ne_of_not_mem_cons h).symm hc, backslashesAtEnd_cons hc]
      exact iff_of_true .nil (by decide)
  | cons_cons c d t ih₁ ih₂ =>
    simp only [List.mem_cons, not_or] at h
    by_cases hc : c = '\\'
    · rw [hc, isContent_escape_iff, even_backslashesAtEnd_escape, ih₁ h.2.2]
    · rw [isContent_plain_iff (Ne.symm h.1) hc, backslashesAtEnd_cons hc, ih₂ d (by simp [h.2])]

/-- The scanner reads an element as it is meant unless it is a raw literal that ends in an odd
number of backslashes. -/
theorem fits_iff {x : Lexeme} {rest : Text} (h : IsElement x rest) :
    Fits x rest ↔ ∀ content, x = .literal '\x60' content → Even (backslashesAtEnd content) := by
  cases h with
  | lineComment hbody hrest => exact iff_of_true (.lineComment hbody hrest) (by simp)
  | blockComment hbody => exact iff_of_true (.blockComment hbody) (by simp)
  | @interpreted quote content _ hquote hcontent =>
    refine iff_of_true (.literal ?_ hcontent) ?_
    · rcases hquote with rfl | rfl <;> rfl
    · rintro _ ⟨⟩
      simp at hquote
  | @raw content _ hcontent =>
    have hfits : Fits (.literal '\x60' content) rest ↔ IsContent '\x60' content := by
      refine ⟨fun h => ?_, .literal rfl⟩
      cases h with
      | literal _ hcontent => exact hcontent
    rw [hfits, isContent_iff_even hcontent]
    simp
  | other hquote hopener => exact iff_of_true (.other hquote hopener) (by simp)

theorem decomposes_cons_iff (x : Lexeme) (rest : Text) (xs : List Lexeme) :
    Decomposes (x.text ++ rest) (x :: xs) ↔ Fits x rest ∧ Decomposes rest xs := by
  refine ⟨fun h => ?_, fun ⟨hfits, hrest⟩ => .cons hfits hrest⟩
  generalize ht : x.text ++ rest = t at h
  cases h with
  | cons hfits hrest =>
    obtain rfl := List.append_cancel_left ht
    exact ⟨hfits, hrest⟩

/-- No raw literal among the lexemes ends in an odd number of backslashes. -/
def EvenRaws (xs : List Lexeme) : Prop :=
  ∀ content, .literal '\x60' content ∈ xs → Even (backslashesAtEnd content)

theorem evenRaws_cons (x : Lexeme) (xs : List Lexeme) :
    EvenRaws (x :: xs) ↔
      (∀ content, x = .literal '\x60' content → Even (backslashesAtEnd content)) ∧
        EvenRaws xs := by
  simp only [EvenRaws, List.mem_cons, or_imp, forall_and, eq_comm]

/-- The scanner cuts a source into its elements exactly when it reads each of them as it is
meant. -/
theorem decomposes_iff {source : Text} {xs : List Lexeme} (h : Consists source xs) :
    Decomposes source xs ↔ EvenRaws xs := by
  induction h with
  | nil => exact iff_of_true .nil (by simp [EvenRaws])
  | cons helement _ ih => rw [decomposes_cons_iff, fits_iff helement, ih, evenRaws_cons]

/-- The elements in front of the first raw literal that is misread are read as they are meant. -/
theorem prefix_lexemes {source : Text} {xs ys : List Lexeme} (h : Consists source xs)
    (hys : ys <+: xs) (heven : EvenRaws ys) : ys <+: (lexemes source).1 := by
  induction h generalizing ys with
  | nil => simp [List.prefix_nil.mp hys]
  | @cons x rest xs helement _ ih =>
    cases ys with
    | nil => exact List.nil_prefix
    | cons y ys =>
      obtain ⟨rfl, hprefix⟩ := List.cons_prefix_cons.mp hys
      obtain ⟨hy, hrest⟩ := (evenRaws_cons y ys).mp heven
      rw [lexemes_of_ok (readLexeme_of_fits ((fits_iff helement).mpr hy))]
      exact List.cons_prefix_cons.mpr ⟨rfl, ih hprefix hrest⟩

/-- The scanner cuts a Go source into the elements of which it consists exactly when no raw literal
ends in an odd number of backslashes, and then it finds the comments among them. In any source it
reads the elements in front of the first such literal. -/
theorem lexemes_are_elements {source : Text} {xs : List Lexeme} (h : Consists source xs) :
    (lexemes source = (xs, none) ↔ EvenRaws xs) ∧
      (EvenRaws xs → ∃ cs, comments source = .ok cs ∧
        cs.map (fun c => (c.kind, c.text)) = xs.filterMap Lexeme.body?) ∧
      ∀ ys, ys <+: xs → EvenRaws ys → ys <+: (lexemes source).1 := by
  refine ⟨(lexemes_eq_iff source xs).trans (decomposes_iff h), fun heven => ?_,
    fun ys hys heven => prefix_lexemes h hys heven⟩
  exact ⟨_, (comments_eq_ok_iff source _).mpr ⟨xs, (decomposes_iff h).mpr heven, rfl⟩,
    commentsFrom_bodies {} xs⟩

/-- A raw literal with a backslash inside, a rune that is an escaped quote, and a comment. -/
def sampleElements : List Lexeme :=
  [.literal '\x60' "\\d".toList, .other ' ', .literal '\x27' ['\\', '\x27'], .other ' ',
    .lineComment " MIT".toList]

theorem consists_sample : Consists (sampleElements.flatMap Lexeme.text) sampleElements := by
  refine .cons (.raw (by decide)) (.cons (.other rfl (by decide)) (.cons ?_ ?_))
  · exact .interpreted (.inr rfl) (.escape '\x27' .nil) (by decide)
  · exact .cons (.other rfl (by decide)) (.cons (.lineComment (by decide) (by simp)) .nil)

theorem sample_lexemes_are_elements :
    "`\\d` '\\'' // MIT".toList = sampleElements.flatMap Lexeme.text ∧
      Consists (sampleElements.flatMap Lexeme.text) sampleElements ∧ EvenRaws sampleElements ∧
      ∃ cs, comments (sampleElements.flatMap Lexeme.text) = .ok cs ∧
        cs.map (fun c => (c.kind, c.text)) = [(.line, " MIT".toList)] := by
  have heven : EvenRaws sampleElements := by
    intro content hcontent
    obtain rfl : content = "\\d".toList := by simpa [sampleElements] using hcontent
    decide
  exact ⟨by decide, consists_sample, heven, (lexemes_are_elements consists_sample).2.1 heven⟩

/-- A raw literal that is one backslash hides the comments behind it up to the next backquote. -/
theorem comments_behind_backslash_are_lost :
    ∃ xs, Consists "`\\`\n// MIT\n// `".toList xs ∧
      xs.filterMap Lexeme.body? = [(.line, " MIT".toList), (.line, " `".toList)] ∧
      comments "`\\`\n// MIT\n// `".toList = .ok [] := by
  let xs : List Lexeme :=
    [.literal '\x60' ['\\'], .other '\n', .lineComment " MIT".toList, .other '\n',
      .lineComment " `".toList]
  have htext : "`\\`\n// MIT\n// `".toList = xs.flatMap Lexeme.text := by decide
  refine ⟨xs, ?_, rfl, by cbv⟩
  rw [htext]
  refine .cons (.raw (by decide)) (.cons (.other rfl (by decide)) (.cons ?_ ?_))
  · exact .lineComment (by decide) (by simp [Lexeme.text])
  · exact .cons (.other rfl (by decide)) (.cons (.lineComment (by decide) (by simp)) .nil)

end LicenseNotices.GoSources
