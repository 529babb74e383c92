import LicenseNotices.CStyle.Comments
import Mathlib.Data.List.Infix
import Mathlib.Data.List.TakeWhile

/-!
The grammar of the lexemes of C-family sources, stated without the scanner. A lexeme fits
in front of a text when it is well formed and the text cannot belong to it; a source is
decomposed by lexemes that follow each other in this way. Reading one lexeme finds the
only one that fits, so a source has at most one decomposition and the scanner finds it
whenever there is one.
-/
namespace LicenseNotices.CStyle

/-- What may stand between the quotes of a literal: escapes and plain characters. -/
inductive IsContent (quote : Char) : Text → Prop
  | nil : IsContent quote []
  | escape {t : Text} (c : Char) (ht : IsContent quote t) : IsContent quote ('\\' :: c :: t)
  | plain {c : Char} {t : Text} (hquote : c ≠ quote) (hescape : c ≠ '\\')
      (hline : c = '\n' → quote = '\x60') (ht : IsContent quote t) : IsContent quote (c :: t)

/-- A lexeme that is well formed and complete in front of the text. -/
inductive Fits : Lexeme → Text → Prop
  | lineComment {body rest : Text} (hbody : '\n' ∉ body) (hrest : ∀ c ∈ rest.head?, c = '\n') :
      Fits (.lineComment body) rest
  | blockComment {body rest : Text} (hbody : ¬ ['*', '/'] <:+: body) :
      Fits (.blockComment body) rest
  | literal {quote : Char} {content rest : Text} (hquote : isQuote quote = true)
      (hcontent : IsContent quote content) : Fits (.literal quote content) rest
  | other {c : Char} {rest : Text} (hquote : isQuote c = false)
      (hopener : c = '/' → rest.head? ≠ some '/' ∧ rest.head? ≠ some '*') : Fits (.other c) rest

inductive Decomposes : Text → List Lexeme → Prop
  | nil : Decomposes [] []
  | cons {x : Lexeme} {rest : Text} {xs : List Lexeme} (hfits : Fits x rest)
      (hrest : Decomposes rest xs) : Decomposes (x.text ++ rest) (x :: xs)

theorem ne_of_isQuote {c : Char} (h : isQuote c = true) : c ≠ '\\' ∧ c ≠ '\n' ∧ c ≠ '/' := by
  refine ⟨?_, ?_, ?_⟩ <;> rintro rfl <;> simp [isQuote] at h

theorem splitBlock_cons {c : Char} {t : Text} (h : c = '*' → t.head? ≠ some '/') :
    splitBlock (c :: t) = (splitBlock t).map fun (body, rest) => (c :: body, rest) := by
  rw [splitBlock]
  rintro rest rfl rfl
  exact h rfl rfl

/-- Prefixing a character to a text without `*/` makes none, unless the two characters do. -/
theorem not_infix_cons {c : Char} {t : Text} (hopener : c = '*' → t.head? ≠ some '/')
    (ht : ¬ ['*', '/'] <:+: t) : ¬ ['*', '/'] <:+: c :: t := by
  rw [List.infix_cons_iff, List.cons_prefix_cons]
  rintro (⟨rfl, hslash⟩ | h)
  · obtain ⟨r, rfl⟩ := hslash
    exact hopener rfl rfl
  · exact ht h

/-- A block ends behind the first `*/`. -/
theorem splitBlock_eq_some_iff (t body rest : Text) :
    splitBlock t = some (body, rest) ↔
      t = body ++ ['*', '/'] ++ rest ∧ ¬ ['*', '/'] <:+: body := by
  constructor
  · intro h
    refine ⟨eq_append_of_splitBlock h, ?_⟩
    fun_induction splitBlock t generalizing body rest with
    | case1 => simp at h
    | case2 rest' => simp_all
    | case3 c rest' hopen ih =>
      obtain ⟨⟨b, r⟩, hr, heq⟩ := Option.map_eq_some_iff.mp h
      cases heq
      apply not_infix_cons _ (ih b rest hr)
      intro hc hb
      obtain ⟨b', rfl⟩ := List.head?_eq_some_iff.mp hb
      exact hopen _ hc (eq_append_of_splitBlock hr)
  · rintro ⟨rfl, hbody⟩
    induction body with
    | nil => rfl
    | cons c body ih =>
      have hopener : c = '*' → (body ++ ['*', '/'] ++ rest).head? ≠ some '/' := by
        rintro rfl hhead
        cases body with
        | nil => simp at hhead
        | cons d body =>
          obtain rfl : d = '/' := by simpa using hhead
          exact hbody ⟨[], body, rfl⟩
      have hrest := ih fun h => hbody (List.infix_cons h)
      rw [List.cons_append, List.cons_append, splitBlock_cons hopener, hrest]
      rfl

theorem splitLiteral_cons {quote c : Char} {t : Text} (h : c ≠ '\\') :
    splitLiteral quote (c :: t) =
      if c = '\n' ∧ quote ≠ '\x60' then none
      else if c = quote then some ([], t)
      else (splitLiteral quote t).map fun (content, rest) => (c :: content, rest) := by
  rw [splitLiteral]
  · rintro rfl
    exact absurd rfl h
  · rintro d rest rfl
    exact absurd rfl h

/-- A literal ends behind the first quote that is not part of an escape. -/
theorem splitLiteral_eq_some_iff {quote : Char} (hquote : isQuote quote = true)
    (t content rest : Text) :
    splitLiteral quote t = some (content, rest) ↔
      t = content ++ [quote] ++ rest ∧ IsContent quote content := by
  obtain ⟨hescape, hnewline, -⟩ := ne_of_isQuote hquote
  constructor
  · intro h
    refine ⟨eq_append_of_splitLiteral h, ?_⟩
    fun_induction splitLiteral quote t generalizing content rest with
    | case1 => simp at h
    | case2 => simp at h
    | case3 c rest' ih =>
      obtain ⟨⟨b, r⟩, hr, heq⟩ := Option.map_eq_some_iff.mp h
      cases heq
      exact .escape c (ih b rest hr)
    | case4 => simp at h
    | case5 =>
      cases h
      exact .nil
    | case6 c rest' hend hpair hline hc ih =>
      obtain ⟨⟨b, r⟩, hr, heq⟩ := Option.map_eq_some_iff.mp h
      cases heq
      refine .plain hc ?_ (fun hn => not_not.mp fun hq => hline ⟨hn, hq⟩) (ih b rest hr)
      intro hslash
      cases rest' with
      | nil => exact hend hslash rfl
      | cons d rest'' => exact hpair d rest'' hslash rfl
  · rintro ⟨rfl, hcontent⟩
    induction hcontent with
    | nil => simp [splitLiteral_cons hescape, hnewline]
    | escape c _ ih =>
      rw [List.cons_append, List.cons_append, List.cons_append, List.cons_append,
        splitLiteral, ih]
      rfl
    | plain hne hplain hline _ ih =>
      have hcont : ¬ (_ = '\n' ∧ quote ≠ '\x60') := fun h => h.2 (hline h.1)
      rw [List.cons_append, List.cons_append, splitLiteral_cons hplain, if_neg hcont,
        if_neg hne, ih]
      rfl

theorem readLexeme_cons {c : Char} {t : Text}
    (h : c = '/' → t.head? ≠ some '/' ∧ t.head? ≠ some '*') :
    readLexeme (c :: t) =
      if isQuote c then
        match splitLiteral c t with
        | some (content, rest) => some (.ok (.literal c content, rest))
        | none => some (.error .unterminatedLiteral)
      else some (.ok (.other c, t)) := by
  rw [readLexeme.eq_def]
  split
  · rename_i heq
    cases heq
  · rename_i heq
    cases heq
    exact absurd rfl (h rfl).1
  · rename_i heq
    cases heq
    exact absurd rfl (h rfl).2
  · rename_i heq
    cases heq
    rfl

theorem fits_lineComment (t : Text) :
    Fits (.lineComment (t.takeWhile (· ≠ '\n'))) (t.dropWhile (· ≠ '\n')) := by
  refine .lineComment ?_ ?_
  · intro hmem
    simpa using List.mem_takeWhile_imp hmem
  · intro c hc
    have hhead := List.head?_dropWhile_not (· ≠ '\n') t
    rw [Option.mem_def.mp hc] at hhead
    simpa using hhead

/-- A character that can begin nothing longer fits in front of any text. -/
theorem Fits.plain {c : Char} (hquote : isQuote c = false) (hslash : c ≠ '/') (rest : Text) :
    Fits (.other c) rest :=
  .other hquote fun heq => absurd heq hslash

theorem not_opener {c : Char} {t : Text}
    (hline : ∀ rest, c = '/' → t = '/' :: rest → False)
    (hblock : ∀ rest, c = '/' → t = '*' :: rest → False) :
    c = '/' → t.head? ≠ some '/' ∧ t.head? ≠ some '*' := by
  intro hc
  constructor
  · intro hhead
    obtain ⟨rest, ht⟩ := List.head?_eq_some_iff.mp hhead
    exact hline rest hc ht
  · intro hhead
    obtain ⟨rest, ht⟩ := List.head?_eq_some_iff.mp hhead
    exact hblock rest hc ht

theorem fits_of_readLexeme {t rest : Text} {x : Lexeme}
    (h : readLexeme t = some (.ok (x, rest))) : Fits x rest := by
  fun_cases readLexeme t with
  | case1 => simp [readLexeme] at h
  | case2 t' =>
    rw [readLexeme] at h
    cases h
    exact fits_lineComment t'
  | case3 t' body rest' hsplit =>
    rw [readLexeme, hsplit] at h
    cases h
    exact .blockComment ((splitBlock_eq_some_iff t' _ _).mp hsplit).2
  | case4 t' hsplit =>
    rw [readLexeme, hsplit] at h
    cases h
  | case5 c t' hline hblock hquote content rest' hsplit =>
    rw [readLexeme_cons (not_opener hline hblock), if_pos hquote, hsplit] at h
    cases h
    exact .literal hquote ((splitLiteral_eq_some_iff hquote t' _ _).mp hsplit).2
  | case6 c t' hline hblock hquote hsplit =>
    rw [readLexeme_cons (not_opener hline hblock), if_pos hquote, hsplit] at h
    cases h
  | case7 c t' hline hblock hquote =>
    rw [readLexeme_cons (not_opener hline hblock), if_neg hquote] at h
    cases h
    exact .other (Bool.eq_false_iff.mpr hquote) (not_opener hline hblock)

/-- A text is cut in front of the first character that does not pass. -/
theorem cut_append {p : Char → Bool} {s t : Text} (hs : ∀ c ∈ s, p c = true)
    (ht : ∀ c ∈ t.head?, p c = false) :
    (s ++ t).takeWhile p = s ∧ (s ++ t).dropWhile p = t := by
  rw [List.takeWhile_append_of_pos hs, List.dropWhile_append_of_pos hs]
  cases t with
  | nil => simp
  | cons c t => simp [ht c rfl]

theorem readLexeme_of_fits {x : Lexeme} {rest : Text} (h : Fits x rest) :
    readLexeme (x.text ++ rest) = some (.ok (x, rest)) := by
  cases h with
  | @lineComment body _ hbody hrest =>
    have hpos : ∀ c ∈ body, decide (c ≠ '\n') = true := by
      intro c hc
      exact decide_eq_true fun heq => hbody (heq ▸ hc)
    have hstop : ∀ c ∈ rest.head?, decide (c ≠ '\n') = false := by
      intro c hc
      exact decide_eq_false (not_not_intro (hrest c hc))
    obtain ⟨htake, hdrop⟩ := cut_append hpos hstop
    rw [Lexeme.text, List.cons_append, List.cons_append, readLexeme, htake, hdrop]
  | @blockComment body _ hbody =>
    have hsplit := (splitBlock_eq_some_iff _ body rest).mpr ⟨rfl, hbody⟩
    change readLexeme ('/' :: '*' :: (body ++ ['*', '/'] ++ rest)) = _
    rw [readLexeme, hsplit]
  | @literal quote content _ hquote hcontent =>
    have hsplit := (splitLiteral_eq_some_iff hquote _ content rest).mpr ⟨rfl, hcontent⟩
    rw [Lexeme.text, List.cons_append, List.cons_append,
      readLexeme_cons fun heq => absurd heq (ne_of_isQuote hquote).2.2, if_pos hquote, hsplit]
  | other hquote hopener =>
    rw [Lexeme.text, List.cons_append, List.nil_append, readLexeme_cons hopener]
    simp [hquote]

/-- Reading one lexeme finds the only one that fits. -/
theorem readLexeme_eq_ok_iff (t rest : Text) (x : Lexeme) :
    readLexeme t = some (.ok (x, rest)) ↔ t = x.text ++ rest ∧ Fits x rest := by
  constructor
  · intro h
    exact ⟨eq_append_of_readLexeme h, fits_of_readLexeme h⟩
  · rintro ⟨rfl, h⟩
    exact readLexeme_of_fits h

theorem eq_nil_of_readLexeme {t : Text} (h : readLexeme t = none) : t = [] := by
  unfold readLexeme at h
  split at h
  · rfl
  · cases h
  · split at h <;> cases h
  · split at h
    · split at h <;> cases h
    · cases h

theorem lexemes_of_ok {t rest : Text} {x : Lexeme} (h : readLexeme t = some (.ok (x, rest))) :
    lexemes t = (x :: (lexemes rest).1, (lexemes rest).2) := by
  rw [lexemes]
  split
  · simp_all
  · simp_all
  · simp_all

/-- The scanner comes to the end of a text exactly when it can be decomposed. -/
theorem lexemes_eq_iff (t : Text) (xs : List Lexeme) :
    lexemes t = (xs, none) ↔ Decomposes t xs := by
  constructor
  · intro h
    fun_induction lexemes t generalizing xs with
    | case1 t hread =>
      cases h
      rw [eq_nil_of_readLexeme hread]
      exact .nil
    | case2 t fault hread => cases h
    | case3 t x rest hread later fault hlater ih =>
      cases h
      obtain ⟨rfl, hfits⟩ := (readLexeme_eq_ok_iff t rest x).mp hread
      exact .cons hfits (ih later hlater)
  · intro h
    induction h with
    | nil => simp [lexemes, readLexeme]
    | cons hfits _ ih => rw [lexemes_of_ok (readLexeme_of_fits hfits), ih]

/-- The kind and the body of a lexeme that is a comment. -/
def Lexeme.body? : Lexeme → Option (CommentKind × Text)
  | .lineComment body => some (.line, body)
  | .blockComment body => some (.block, body)
  | .literal _ _ => none
  | .other _ => none

theorem commentsFrom_bodies (p : Position) (xs : List Lexeme) :
    (commentsFrom p xs).map (fun c => (c.kind, c.text)) = xs.filterMap Lexeme.body? := by
  induction xs generalizing p with
  | nil => rfl
  | cons x rest ih =>
    cases x <;>
      simp [commentsFrom, Lexeme.comment?, Lexeme.body?, Comment.ofPosition, List.filterMap_cons,
        ih]

theorem Decomposes.flatMap_text {t : Text} {xs : List Lexeme} (h : Decomposes t xs) :
    xs.flatMap Lexeme.text = t := by
  induction h with
  | nil => rfl
  | cons _ _ ih => rw [List.flatMap_cons, ih]

theorem Decomposes.unique {t : Text} {xs ys : List Lexeme} (hxs : Decomposes t xs)
    (hys : Decomposes t ys) : xs = ys := by
  rw [← lexemes_eq_iff] at hxs hys
  exact congrArg Prod.fst (hxs.symm.trans hys)

theorem comments_eq_ok_iff (source : Text) (cs : List Comment) :
    comments source = .ok cs ↔ ∃ xs, Decomposes source xs ∧ cs = commentsFrom {} xs := by
  simp only [← lexemes_eq_iff, comments]
  constructor
  · intro h
    split at h
    · rename_i xs heq
      cases h
      exact ⟨xs, heq, rfl⟩
    · cases h
  · rintro ⟨xs, heq, rfl⟩
    rw [heq]

/-- A source has comments exactly when it can be decomposed into lexemes, and this is possible
in one way only. Its comments are then the comments among the lexemes, and nothing of the
source is left over. Any other source is reported as one that cannot be parsed. -/
theorem comments_iff_decomposes (source : Text) :
    ((∃ cs, comments source = .ok cs) ↔ ∃ xs, Decomposes source xs) ∧
      (∀ xs, Decomposes source xs →
        (∀ ys, Decomposes source ys → ys = xs) ∧
        (∃ cs, comments source = .ok cs ∧
          cs.map (fun c => (c.kind, c.text)) = xs.filterMap Lexeme.body?) ∧
        (lexemes source).1 = xs ∧ (xs.flatMap Lexeme.text).length = source.length) ∧
      ((∀ xs, ¬ Decomposes source xs) →
        ∃ e, comments source = .error e ∧
          ∀ path, (e.diagnostic path).kind = .sourceUnparseable) := by
  refine ⟨?_, ?_, ?_⟩
  · simp only [comments_eq_ok_iff]
    constructor
    · rintro ⟨cs, xs, hxs, -⟩
      exact ⟨xs, hxs⟩
    · rintro ⟨xs, hxs⟩
      exact ⟨_, xs, hxs, rfl⟩
  · intro xs hxs
    refine ⟨fun ys hys => hys.unique hxs, ⟨commentsFrom {} xs, ?_, commentsFrom_bodies {} xs⟩,
      ?_, ?_⟩
    · exact (comments_eq_ok_iff source _).mpr ⟨xs, hxs, rfl⟩
    · rw [(lexemes_eq_iff source xs).mpr hxs]
    · rw [hxs.flatMap_text]
  · intro hnone
    cases hresult : comments source with
    | error e => exact ⟨e, rfl, fun path => rfl⟩
    | ok cs =>
      obtain ⟨xs, hxs, -⟩ := (comments_eq_ok_iff source cs).mp hresult
      exact absurd hxs (hnone xs)

/-- A marker in a literal opens no comment, and the star of an opener closes none. -/
example : lexemes "'//'/*/ */".toList =
    ([.literal '\x27' ['/', '/'], .blockComment ['/', ' ']], none) := by
  cbv

end LicenseNotices.CStyle
