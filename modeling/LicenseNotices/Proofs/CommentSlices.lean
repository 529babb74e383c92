import LicenseNotices.Proofs.ReaderTrees
import Mathlib.Data.List.Forall2

/-!
The comments of a JavaScript source as slices of it. Whatever tree a parser gives, the comments that
are taken from it stand in the source where their places tell, one behind the end of the other, and
each line comment ends at a line terminator or with the source.
-/
namespace LicenseNotices.JavaScript

/-- The characters that end a line. -/
def lineTerminators : List Char := ['\n', '\r', '\u2028', '\u2029']

theorem isLineBreak_iff (c : Char) : isLineBreak c = true ↔ c ∈ lineTerminators := by
  simp only [isLineBreak, isLineFeed, lineTerminators, Bool.or_eq_true, decide_eq_true_eq,
    List.mem_cons, List.not_mem_nil, or_false]
  tauto

/-- How a comment stands in the source, with its delimiters. -/
inductive IsCommentText (body : Text) : CommentKind → Text → Prop
  | block (hbody : ¬ ['*', '/'] <:+: body) :
      IsCommentText body .block (['/', '*'] ++ body ++ ['*', '/'])
  | line (hbody : ∀ c ∈ body, c ∉ lineTerminators) : IsCommentText body .line (['/', '/'] ++ body)
  | markupOpener (hbody : '\n' ∉ body) : IsCommentText body .line (['<', '!', '-', '-'] ++ body)
  | markupCloser (hbody : '\n' ∉ body) : IsCommentText body .line (['-', '-', '>'] ++ body)

/-- The comment stands between two offsets of the source, a line comment up to the end of a line,
and its place tells the line feeds and the characters behind the last of them that come before. -/
structure IsSlice (source : Text) (start stop : ℕ) (c : Comment) : Prop where
  start_lt : start < stop
  stop_le : stop ≤ source.length
  isCommentText : IsCommentText c.text c.kind ((source.take stop).drop start)
  ends : c.kind = .line → ∀ d ∈ source[stop]?, d ∈ lineTerminators
  line_eq : c.line = 1 + (source.take start).count '\n'
  column_eq : c.column = (Text.lastLine (source.take start)).length

theorem isCommentText_of_delimited {kind : CommentKind} {opener body closer after : Text}
    (h : Delimited .javascript kind opener body closer after) :
    IsCommentText body kind (opener ++ body ++ closer) := by
  cases h with
  | block hbody => exact .block hbody
  | scriptLine hbody hafter =>
    rw [List.append_nil]
    exact .line fun c hc hend => by simpa [(isLineBreak_iff c).mpr hend] using hbody c hc
  | markup hopener hbody hafter =>
    have hfeed : '\n' ∉ body := fun hmem => by simpa [isLineFeed] using hbody '\n' hmem
    rw [List.append_nil]
    rcases hopener with rfl | rfl
    · exact .markupOpener hfeed
    · exact .markupCloser hfeed

theorem lineTerminator_behind_line {opener body closer after : Text}
    (h : Delimited .javascript .line opener body closer after) :
    ∀ d ∈ after.head?, d ∈ lineTerminators := by
  intro d hd
  rw [← isLineBreak_iff]
  cases h with
  | scriptLine hbody hafter => exact hafter d hd
  | markup hopener hbody hafter => rw [isLineBreak, hafter d hd, Bool.or_true]

theorem isSlice_of_span {s : Span}
    (h : Delimited .javascript s.kind s.opener s.body s.closer s.after) :
    IsSlice s.source s.slice.1 s.slice.2 s.comment := by
  have htext : s.text ≠ [] := by
    simp [Span.text, h.opener_ne_nil]
  dsimp only [Span.slice]
  constructor
  · rw [List.length_append]
    exact Nat.lt_add_of_pos_right (List.length_pos_iff.mpr htext)
  · exact (List.prefix_append ..).length_le
  · rw [s.take_read, List.drop_left]
    exact isCommentText_of_delimited h
  · intro hline d hd
    have hkind : s.kind = .line := hline
    rw [hkind] at h
    rw [Span.source, List.getElem?_append_right (Nat.le_refl _), Nat.sub_self,
      ← List.head?_eq_getElem?] at hd
    exact lineTerminator_behind_line h d hd
  · rw [s.take_before, s.line_comment]
  · rw [s.take_before, s.column_comment]

/-- Slices of the source, one behind the end of the other, hold the comments in order. -/
structure AreSlices (source : Text) (slices : List (ℕ × ℕ)) (cs : List Comment) : Prop where
  isSlice : List.Forall₂ (fun slice c => IsSlice source slice.1 slice.2 c) slices cs
  ordered : slices.Pairwise fun slice later => slice.2 ≤ later.1

/-- The comments that are taken from the tree of a source are slices of it. -/
theorem comments_are_slices [Parser] (hlaw : Parser.IsLawful) {source : Text} {cs : List Comment}
    (h : comments source = .ok cs) : ∃ slices, AreSlices source slices cs := by
  obtain ⟨spans, hspans, rfl⟩ := exists_spans hlaw h
  refine ⟨spans.map Span.slice, ?_, ?_⟩
  · rw [List.forall₂_map_left_iff, List.forall₂_map_right_iff, List.forall₂_same]
    intro s hs
    rw [← hspans.source_eq s hs]
    exact isSlice_of_span (hspans.delimited s hs)
  · exact List.pairwise_map.mpr (hspans.ordered.imp fun hst => hst.length_le)

/-- A comment within a template and one behind a markup opener, both among characters that take
several bytes. -/
def multibyteSample : Text := "`é$\x7b1/*ü*/\x7d`;\n<!-- ✓".toList

def multibyteComments : List Comment := [⟨.block, "ü".toList, 1, 5⟩, ⟨.line, " ✓".toList, 2, 0⟩]

theorem multibyteSample_comments_are_slices :
    @comments readerParser multibyteSample = .ok multibyteComments ∧
      ∃ slices, AreSlices multibyteSample slices multibyteComments := by
  have hcomments : @comments readerParser multibyteSample = .ok multibyteComments := by
    decide +kernel
  exact ⟨hcomments, @comments_are_slices readerParser readerParser_isLawful _ _ hcomments⟩

/-- The comments are found below the nodes of the template, and their columns are recounted. -/
example :
    (SyntaxTree.node ⟨"program", ⟨0, 24, 0, 0⟩, false⟩
      [.node ⟨"template_string", ⟨0, 14, 0, 0⟩, false⟩
        [.node ⟨"template_substitution", ⟨3, 13, 0, 3⟩, false⟩
          [.node ⟨"comment", ⟨6, 12, 0, 6⟩, false⟩ []]],
        .node ⟨"html_comment", ⟨16, 24, 1, 0⟩, false⟩ []]).comments
      (Encoding.Utf8.encode multibyteSample) = .ok multibyteComments := by
  decide +kernel

end LicenseNotices.JavaScript
