import LicenseNotices.Proofs.LawfulParsers

/-!
Sources on which the grammars agree. They are made of blanks, semicolons, comments and literals
that a semicolon follows. The scanner of the C family cuts such a source into these parts. What is
relied on of a parser of JavaScript is that it finds no error in such a source and sees the comments
among the parts, wherever in its tree they are; their places it tells in bytes.
-/
namespace LicenseNotices

open CStyle

/-- The blanks of the fragment. -/
def IsCommonBlank (c : Char) : Prop := c = ' ' ∨ c = '\t' ∨ c = '\n'

/-- What may stand between the quotes of a literal of the fragment. -/
structure IsCommonContent (q : Char) (content : Text) : Prop where
  plain : ∀ c ∈ content, c ≠ q ∧ c ≠ '\\' ∧ c ≠ '\r' ∧ c ≠ '\x00'
  line : q ≠ '\x60' → '\n' ∉ content
  substitution : q = '\x60' → ¬ ['$', '\x7b'] <:+: content

theorem IsCommonContent.isContent {q : Char} {content : Text} (h : IsCommonContent q content) :
    IsContent q content := by
  obtain ⟨hplain, hline, -⟩ := h
  induction content with
  | nil => exact .nil
  | cons c content ih =>
    obtain ⟨hquote, hescape, -, -⟩ := hplain c (by simp)
    refine .plain hquote hescape ?_ (ih (fun d hd => hplain d (List.mem_cons_of_mem c hd)) ?_)
    · rintro rfl
      by_contra hq
      exact hline hq (by simp)
    · exact fun hq hmem => hline hq (List.mem_cons_of_mem c hmem)

/-- The body of a line comment of the fragment. -/
def IsCommonLine (body : Text) : Prop :=
  ∀ c ∈ body, c ≠ '\n' ∧ c ≠ '\r' ∧ c ≠ '\u2028' ∧ c ≠ '\u2029' ∧ c ≠ '\x00'

/-- The sources of the fragment, with their parts. -/
inductive IsCommon : Text → List Lexeme → Prop
  | nil : IsCommon [] []
  | blank {c : Char} {t : Text} {xs : List Lexeme} (hc : IsCommonBlank c) (ht : IsCommon t xs) :
      IsCommon (c :: t) (.other c :: xs)
  | semicolon {t : Text} {xs : List Lexeme} (ht : IsCommon t xs) :
      IsCommon (';' :: t) (.other ';' :: xs)
  | lineComment {body t : Text} {xs : List Lexeme} (hbody : IsCommonLine body)
      (hend : ∀ c ∈ t.head?, c = '\n') (ht : IsCommon t xs) :
      IsCommon ('/' :: '/' :: body ++ t) (.lineComment body :: xs)
  | blockComment {body t : Text} {xs : List Lexeme} (hbody : ¬ ['*', '/'] <:+: body)
      (hnull : '\x00' ∉ body) (ht : IsCommon t xs) :
      IsCommon ('/' :: '*' :: body ++ ['*', '/'] ++ t) (.blockComment body :: xs)
  | literal {q : Char} {content t : Text} {xs : List Lexeme} (hq : isQuote q = true)
      (hcontent : IsCommonContent q content) (ht : IsCommon t xs) :
      IsCommon (q :: content ++ [q, ';'] ++ t) (.literal q content :: .other ';' :: xs)

/-- The comments among parts that follow each other behind a text. -/
def spansFrom (before : Text) : List Lexeme → List Span
  | [] => []
  | x :: rest =>
      (x.span? before (rest.flatMap Lexeme.text)).toList ++ spansFrom (before ++ x.text) rest

namespace IsCommon

variable {t : Text} {xs : List Lexeme}

/-- The parts are the lexemes of the source. -/
theorem decomposes (h : IsCommon t xs) : Decomposes t xs := by
  induction h with
  | nil => exact .nil
  | @blank c t xs hc ht ih =>
    have hfits : Fits (.other c) t := by
      rcases hc with rfl | rfl | rfl <;> exact .plain (by decide) (by decide) t
    exact .cons hfits ih
  | @semicolon t xs ht ih =>
    have hfits : Fits (.other ';') t := .plain (by decide) (by decide) t
    exact .cons hfits ih
  | @lineComment body t xs hbody hend ht ih =>
    exact .cons (.lineComment (fun hline => (hbody '\n' hline).1 rfl) hend) ih
  | @blockComment body t xs hbody hnull ht ih => exact .cons (.blockComment hbody) ih
  | @literal q content t xs hq hcontent ht ih =>
    have hsemicolon : Fits (.other ';') t := .plain (by decide) (by decide) t
    have hdecomposes :
        Decomposes ((Lexeme.literal q content).text ++ ((Lexeme.other ';').text ++ t))
          (.literal q content :: .other ';' :: xs) :=
      .cons (.literal hq hcontent.isContent) (.cons hsemicolon ih)
    simpa [Lexeme.text] using hdecomposes

theorem flatMap_text (h : IsCommon t xs) : xs.flatMap Lexeme.text = t := h.decomposes.flatMap_text

theorem delimited_lineComment {before body after : Text} (hbody : IsCommonLine body)
    (hend : ∀ c ∈ after.head?, c = '\n') {s : Span}
    (h : (Lexeme.lineComment body).span? before after = some s) :
    Delimited .javascript s.kind s.opener s.body s.closer s.after := by
  cases h
  refine .scriptLine (fun c hc => ?_) fun c hc => ?_
  · obtain ⟨hline, hreturn, hseparator, hparagraph, -⟩ := hbody c hc
    simp [JavaScript.isLineBreak, JavaScript.isLineFeed, hline, hreturn, hseparator, hparagraph]
  · rw [hend c hc]
    decide

/-- The comments among the parts are comments of the grammar of JavaScript, whatever stands before
the source. -/
theorem lieBehind (h : IsCommon t xs) (before : Text) :
    LieBehind .javascript before t (spansFrom before xs) := by
  have hnone {before rest : Text} {x : Lexeme} (hx : x.span? before rest = none) :
      ∀ s, x.span? before rest = some s →
        Delimited .javascript s.kind s.opener s.body s.closer s.after := by
    rw [hx]
    nofun
  induction h generalizing before with
  | nil => exact .nil
  | @blank c t xs hc ht ih =>
    rw [spansFrom, ht.flatMap_text]
    exact lieBehind_lexeme (x := .other c) (ih _) (hnone rfl)
  | @semicolon t xs ht ih =>
    rw [spansFrom, ht.flatMap_text]
    exact lieBehind_lexeme (x := .other ';') (ih _) (hnone rfl)
  | @lineComment body t xs hbody hend ht ih =>
    rw [spansFrom, ht.flatMap_text]
    exact lieBehind_lexeme (ih _) fun s => delimited_lineComment hbody hend
  | @blockComment body t xs hbody hnull ht ih =>
    rw [spansFrom, ht.flatMap_text]
    refine lieBehind_lexeme (x := .blockComment body) (ih _) fun s hs => ?_
    cases hs
    exact .block hbody
  | @literal q content t xs hq hcontent ht ih =>
    have htext : q :: content ++ [q, ';'] ++ t =
        (Lexeme.literal q content).text ++ ((Lexeme.other ';').text ++ t) := by
      simp [Lexeme.text]
    rw [htext, spansFrom, spansFrom, List.flatMap_cons, ht.flatMap_text]
    exact lieBehind_lexeme (lieBehind_lexeme (ih _) (hnone rfl)) (hnone rfl)

end IsCommon

theorem commentsFrom_eq_spans (before : Text) (xs : List Lexeme) :
    commentsFrom (({} : Position).advance before) xs = (spansFrom before xs).map Span.comment := by
  induction xs generalizing before with
  | nil => rfl
  | cons x rest ih =>
    rw [commentsFrom, spansFrom, comment?_eq_map_span? before (rest.flatMap Lexeme.text),
      ← Position.advance_append, ih, List.map_append, Option.toList_map]

/-- The parser finds no error in a source of the fragment, and the comments in its tree are those
among the parts of the source. -/
def JavaScript.Parser.ReadsFragment [Parser] : Prop :=
  ∀ t xs, IsCommon t xs →
    (Parser.parse (Encoding.Utf8.encode t)).hasError = false ∧
      ∀ x, (∃ n, (Parser.parse (Encoding.Utf8.encode t)).tree.Has n ∧ n.isComment = true ∧
        n.extent = x) ↔ x ∈ (spansFrom [] xs).map extentOf

/-- Every grammar gives the comments among the parts of a source of the fragment. -/
theorem comments_of_isCommon [JavaScript.Parser] (hlaw : JavaScript.Parser.IsLawful)
    (hreads : JavaScript.Parser.ReadsFragment) {t : Text} {xs : List Lexeme} (h : IsCommon t xs)
    (g : Grammar) : g.comments t = .ok ((spansFrom [] xs).map Span.comment) := by
  cases g with
  | cStyle =>
    have hcomments : comments t = .ok (commentsFrom {} xs) :=
      (comments_eq_ok_iff t _).mpr ⟨xs, h.decomposes, rfl⟩
    rw [Grammar.comments, hcomments, Results.mapError_ok, ← commentsFrom_eq_spans]
    rfl
  | javascript =>
    obtain ⟨hok, hshown⟩ := hreads t xs h
    obtain ⟨hspans, -⟩ := h.lieBehind []
    obtain ⟨hi, hliesIn⟩ := (hlaw t).exists_liesIn
    exact JavaScript.comments_of_isSpans hok hspans
      (JavaScript.commentExtents_eq hspans hliesIn hshown)

end LicenseNotices
