import LicenseNotices.Grammar
import LicenseNotices.JavaScript.Character
import LicenseNotices.Proofs.LexemeGrammar

/-!
Comments as parts of their source. A span cuts a source into what stands before a comment,
the comment with its delimiters, and what stands behind it; the comment lies where the text
before it ends. The comments of a source come from spans that follow each other without
overlapping. Here this is proved for sources of the C family.
-/
namespace LicenseNotices

/-- How a comment of the grammar is delimited in front of the text behind it. -/
inductive Delimited : Grammar → CommentKind → Text → Text → Text → Text → Prop
  | block {g : Grammar} {body after : Text} (hbody : ¬ ['*', '/'] <:+: body) :
      Delimited g .block ['/', '*'] body ['*', '/'] after
  | line {body after : Text} (hbody : '\n' ∉ body) (hafter : ∀ c ∈ after.head?, c = '\n') :
      Delimited .cStyle .line ['/', '/'] body [] after
  | scriptLine {body after : Text} (hbody : ∀ c ∈ body, JavaScript.isLineBreak c = false)
      (hafter : ∀ c ∈ after.head?, JavaScript.isLineBreak c = true) :
      Delimited .javascript .line ['/', '/'] body [] after
  | markup {opener body after : Text}
      (hopener : opener = ['<', '!', '-', '-'] ∨ opener = ['-', '-', '>'])
      (hbody : ∀ c ∈ body, JavaScript.isLineFeed c = false)
      (hafter : ∀ c ∈ after.head?, JavaScript.isLineFeed c = true) :
      Delimited .javascript .line opener body [] after

theorem Delimited.opener_ne_nil {g : Grammar} {kind : CommentKind}
    {opener body closer after : Text} (h : Delimited g kind opener body closer after) :
    opener ≠ [] := by
  cases h with
  | block hbody => simp
  | line hbody hafter => simp
  | scriptLine hbody hafter => simp
  | markup hopener hbody hafter => rcases hopener with rfl | rfl <;> simp

/-- A comment with what surrounds it in its source. -/
structure Span where
  before : Text
  kind : CommentKind
  opener : Text
  body : Text
  closer : Text
  after : Text

namespace Span

/-- The text from the opening delimiter up to the end of the comment. -/
def text (s : Span) : Text := s.opener ++ s.body ++ s.closer

def source (s : Span) : Text := s.before ++ s.text ++ s.after

def comment (s : Span) : Comment :=
  .ofPosition s.kind s.body (({} : Position).advance s.before)

/-- Where the comment starts and where it ends, by the number of characters before. -/
def slice (s : Span) : ℕ × ℕ := (s.before.length, (s.before ++ s.text).length)

end Span

/-- Spans in the source that are delimited in some way, each behind the end of the one before
it. -/
structure AreSpans (IsDelimited : Span → Prop) (source : Text) (spans : List Span) : Prop where
  source_eq : ∀ s ∈ spans, s.source = source
  delimited : ∀ s ∈ spans, IsDelimited s
  ordered : spans.Pairwise fun s t => s.before ++ s.text <+: t.before

/-- Spans of comments of the grammar in the source. -/
abbrev IsSpans (g : Grammar) : Text → List Span → Prop :=
  AreSpans fun s => Delimited g s.kind s.opener s.body s.closer s.after

namespace AreSpans

variable {IsDelimited : Span → Prop} {source : Text} {xs ys : List Span} {s : Span}

theorem nil : AreSpans IsDelimited source [] := ⟨by simp, by simp, .nil⟩

theorem singleton (hsource : s.source = source) (hdelimited : IsDelimited s) :
    AreSpans IsDelimited source [s] :=
  ⟨by simpa using hsource, by simpa using hdelimited, List.pairwise_singleton _ s⟩

/-- Spans are put behind others when they lie behind the end of each of them. -/
theorem append (hxs : AreSpans IsDelimited source xs) (hys : AreSpans IsDelimited source ys)
    (hbehind : ∀ s ∈ xs, ∀ t ∈ ys, s.before ++ s.text <+: t.before) :
    AreSpans IsDelimited source (xs ++ ys) where
  source_eq s hs := (List.mem_append.mp hs).elim (hxs.source_eq s) (hys.source_eq s)
  delimited s hs := (List.mem_append.mp hs).elim (hxs.delimited s) (hys.delimited s)
  ordered := List.pairwise_append.mpr ⟨hxs.ordered, hys.ordered, hbehind⟩

end AreSpans

/-- Spans of comments in a text that stands behind another one. -/
structure LieBehind (g : Grammar) (before t : Text) (spans : List Span) : Prop where
  isSpans : IsSpans g (before ++ t) spans
  behind : ∀ s ∈ spans, before <+: s.before

theorem LieBehind.nil {g : Grammar} {before t : Text} : LieBehind g before t [] :=
  ⟨.nil, by simp⟩

namespace CStyle

/-- The span of a lexeme that is a comment, between the texts around it. -/
def Lexeme.span? (before after : Text) : Lexeme → Option Span
  | .lineComment body => some ⟨before, .line, ['/', '/'], body, [], after⟩
  | .blockComment body => some ⟨before, .block, ['/', '*'], body, ['*', '/'], after⟩
  | .literal _ _ => none
  | .other _ => none

theorem comment?_eq_map_span? (before after : Text) (x : Lexeme) :
    x.comment? (({} : Position).advance before) = (x.span? before after).map Span.comment := by
  cases x <;> rfl

theorem text_of_span? {before after : Text} {x : Lexeme} {s : Span}
    (h : x.span? before after = some s) :
    s.before = before ∧ s.text = x.text ∧ s.after = after := by
  cases x <;> cases h <;> simp [Span.text, Lexeme.text]

theorem delimited_of_fits {before after : Text} {x : Lexeme} (hfits : Fits x after) {s : Span}
    (h : x.span? before after = some s) :
    Delimited .cStyle s.kind s.opener s.body s.closer s.after := by
  cases hfits with
  | lineComment hbody hrest =>
    cases h
    exact .line hbody hrest
  | blockComment hbody =>
    cases h
    exact .block hbody
  | literal hquote hcontent => cases h
  | other hquote hopener => cases h

/-- The span of a lexeme, if it has one, is put before the spans of what stands behind it. -/
theorem lieBehind_lexeme {g : Grammar} {before rest : Text} {x : Lexeme} {spans : List Span}
    (h : LieBehind g (before ++ x.text) rest spans)
    (hx : ∀ s, x.span? before rest = some s →
      Delimited g s.kind s.opener s.body s.closer s.after) :
    LieBehind g before (x.text ++ rest) ((x.span? before rest).toList ++ spans) := by
  obtain ⟨hspans, hbehind⟩ := h
  have hbefore : ∀ s ∈ spans, before <+: s.before := fun s hs =>
    (List.prefix_append before x.text).trans (hbehind s hs)
  rw [List.append_assoc] at hspans
  cases hspan : x.span? before rest with
  | none => exact ⟨hspans, hbefore⟩
  | some s =>
    obtain ⟨hstart, htext, hafter⟩ := text_of_span? hspan
    have hsource : s.source = before ++ (x.text ++ rest) := by
      rw [Span.source, hstart, htext, hafter, List.append_assoc]
    have hfirst : IsSpans g (before ++ (x.text ++ rest)) [s] := .singleton hsource (hx s hspan)
    refine ⟨hfirst.append hspans ?_, ?_⟩
    · intro u hu
      rw [List.mem_singleton.mp hu, hstart, htext]
      exact hbehind
    · intro u hu
      rcases List.mem_cons.mp hu with rfl | hu
      · rw [hstart]
      · exact hbefore u hu

/-- The comments among the lexemes of a text come from spans, whatever stands before the text. -/
theorem exists_spans_of_lexemes (t before : Text) :
    ∃ spans, LieBehind .cStyle before t spans ∧
      commentsFrom (({} : Position).advance before) (lexemes t).1 = spans.map Span.comment := by
  fun_induction lexemes t generalizing before with
  | case1 t hread => exact ⟨[], .nil, rfl⟩
  | case2 t fault hread => exact ⟨[], .nil, rfl⟩
  | case3 t x rest hread later fault hlater ih =>
    obtain ⟨rfl, hfits⟩ := (readLexeme_eq_ok_iff t rest x).mp hread
    obtain ⟨spans, hspans, hcomments⟩ := ih (before ++ x.text)
    rw [hlater, Position.advance_append] at hcomments
    refine ⟨_, lieBehind_lexeme hspans fun s => delimited_of_fits hfits, ?_⟩
    rw [commentsFrom, comment?_eq_map_span? before rest, hcomments, List.map_append,
      Option.toList_map]

theorem comments_eq_of_ok {source : Text} {cs : List Comment} (h : comments source = .ok cs) :
    cs = commentsFrom {} (lexemes source).1 := by
  obtain ⟨xs, hxs, rfl⟩ := (comments_eq_ok_iff source cs).mp h
  rw [(lexemes_eq_iff source xs).mpr hxs]

/-- The comments of a source of the C family come from its spans. -/
theorem exists_spans {source : Text} {cs : List Comment} (h : comments source = .ok cs) :
    ∃ spans, IsSpans .cStyle source spans ∧ cs = spans.map Span.comment := by
  obtain ⟨spans, ⟨hspans, -⟩, hcomments⟩ := exists_spans_of_lexemes source []
  exact ⟨spans, hspans, (comments_eq_of_ok h).trans hcomments⟩

end CStyle

end LicenseNotices
