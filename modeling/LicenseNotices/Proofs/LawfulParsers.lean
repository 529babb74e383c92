import LicenseNotices.Proofs.SyntaxTrees
import Mathlib.Data.Set.List

/-!
What is relied on of a parser of JavaScript. The nodes of its tree lie in the order of the source,
between characters of it, and in a source without errors the comments among them are comments of
the language. Which sources have errors and which comments are seen is left to the parser. The
comments that are then taken from its tree are those of spans of the source, and the error of a
faulty source is placed at the node that is blamed.
-/
namespace LicenseNotices.JavaScript

open Encoding Results

/-- The tree of the parse lies in the source. Comments reach from their opening delimiter to the
closing one, or up to the end of their line. -/
structure IsTreeOf (source : Text) (p : Parse) : Prop where
  exists_liesIn : ∃ hi, LiesIn 0 [p.tree] hi
  isPlaced : ∀ n, p.tree.Has n → ∃ start stop, n.extent = extentAt source start stop
  isDelimited : p.hasError = false → ∀ n, p.tree.Has n → n.isComment = true →
    ∃ s : Span, s.source = source ∧
      Delimited .javascript s.kind s.opener s.body s.closer s.after ∧ n.extent = extentOf s

/-- The parser gives trees of all sources. -/
def Parser.IsLawful [Parser] : Prop :=
  ∀ source, IsTreeOf source (Parser.parse (Utf8.encode source))

/-- Of two parts of a source that start with it the one with fewer bytes comes first. -/
theorem prefix_of_length_encode_le {source t u : Text} (ht : t <+: source) (hu : u <+: source)
    (h : (Utf8.encode t).length ≤ (Utf8.encode u).length) : t <+: u := by
  rcases List.prefix_or_prefix_of_prefix ht hu with htu | ⟨more, rfl⟩
  · exact htu
  · by_cases hmore : more = []
    · rw [hmore, List.append_nil]
    · have hlt := length_encode_lt u hmore
      omega

theorem prefix_of_source_eq {source : Text} {s : Span} (h : s.source = source) :
    s.before ++ s.text <+: source := by
  rw [← h]
  exact List.prefix_append _ _

/-- Delimited spans whose extents follow each other follow each other in the source. -/
theorem isSpans_of_extents {source : Text} {spans : List Span}
    (hspans : ∀ s ∈ spans, s.source = source ∧
      Delimited .javascript s.kind s.opener s.body s.closer s.after)
    (hordered : (spans.map extentOf).Pairwise fun x y => x.endByte ≤ y.startByte) :
    IsSpans .javascript source spans where
  source_eq s hs := (hspans s hs).1
  delimited s hs := (hspans s hs).2
  ordered := by
    refine (List.pairwise_map.mp hordered).imp_of_mem fun {s t} hs ht hst => ?_
    have hend := prefix_of_source_eq (hspans s hs).1
    have hstart := (List.prefix_append t.before t.text).trans
      (prefix_of_source_eq (hspans t ht).1)
    exact prefix_of_length_encode_le hend hstart hst

/-- The comments of a tree without errors have the extents of spans. -/
theorem IsTreeOf.exists_isSpans {source : Text} {p : Parse} (h : IsTreeOf source p)
    (hok : p.hasError = false) :
    ∃ spans, IsSpans .javascript source spans ∧ commentExtents [p.tree] = spans.map extentOf := by
  let IsComment (s : Span) : Prop :=
    s.source = source ∧ Delimited .javascript s.kind s.opener s.body s.closer s.after
  have hcomments : ∀ x ∈ commentExtents [p.tree],
      x ∈ Set.range fun s : { s : Span // IsComment s } => extentOf s := by
    intro x hx
    obtain ⟨n, hn, rfl⟩ := List.mem_map.mp hx
    obtain ⟨hn, hcomment⟩ := List.mem_filter.mp hn
    have hhas : p.tree.Has n := by simpa [mem_walk_iff] using hn
    obtain ⟨s, hsource, hdelimited, hextent⟩ := h.isDelimited hok n hhas hcomment
    exact ⟨⟨s, hsource, hdelimited⟩, hextent.symm⟩
  obtain ⟨chosen, hchosen⟩ := (Set.range_list_map _).ge hcomments
  have hextents : (chosen.map Subtype.val).map extentOf = commentExtents [p.tree] := by
    rw [List.map_map]
    exact hchosen
  obtain ⟨hi, hliesIn⟩ := h.exists_liesIn
  refine ⟨chosen.map Subtype.val, isSpans_of_extents (fun s hs => ?_) ?_, hextents.symm⟩
  · obtain ⟨⟨_, hcomment⟩, -, rfl⟩ := List.mem_map.mp hs
    exact hcomment
  · rw [hextents]
    exact hliesIn.commentExtents_ordered.1

/-- A source without errors has the comments of its spans. -/
theorem comments_of_isSpans {source : Text} {p : Parse} (hok : p.hasError = false)
    {spans : List Span} (hspans : IsSpans .javascript source spans)
    (hextents : commentExtents [p.tree] = spans.map extentOf) :
    p.comments (Utf8.encode source) = .ok (spans.map Span.comment) := by
  have hcomments : p.tree.comments (Utf8.encode source) = .ok (spans.map Span.comment) := by
    refine commentsAmong_eq hextents fun s hs => ?_
    rw [← hspans.source_eq s hs]
    exact commentAt?_extentOf (hspans.delimited s hs)
  rw [Parse.comments, hok, if_neg (by decide), hcomments, mapError_ok]

/-- A source with errors is at fault where the node that is blamed starts. -/
theorem IsTreeOf.exists_fault {source : Text} {p : Parse} (h : IsTreeOf source p)
    (hfaulty : p.hasError = true) :
    ∃ start stop, p.tree.blamed.extent = extentAt source start stop ∧
      p.comments (Utf8.encode source) = .error (.source ⟨.notJavaScript,
        ⟨(source.take start).count '\n' + 1, (Text.lastLine (source.take start)).length⟩⟩) := by
  obtain ⟨start, stop, hextent⟩ := h.isPlaced _ p.tree.has_blamed
  refine ⟨start, stop, hextent, ?_⟩
  rw [Parse.comments, if_pos hfaulty]
  dsimp only
  rw [hextent, charColumn_extentAt]
  rfl

variable [Parser] {source : Text}

/-- The comments of a source come from spans of it. -/
theorem exists_spans (hlaw : Parser.IsLawful) {cs : List Comment}
    (h : comments source = .ok cs) :
    ∃ spans, IsSpans .javascript source spans ∧ cs = spans.map Span.comment := by
  have htree := hlaw source
  cases hfaulty : (Parser.parse (Utf8.encode source)).hasError with
  | true =>
    obtain ⟨start, stop, -, hfault⟩ := htree.exists_fault hfaulty
    rw [comments, hfault] at h
    cases h
  | false =>
    obtain ⟨spans, hspans, hextents⟩ := htree.exists_isSpans hfaulty
    rw [comments, comments_of_isSpans hfaulty hspans hextents] at h
    exact ⟨spans, hspans, (Except.ok.inj h).symm⟩

/-- What the tree points at can always be decoded. -/
theorem exists_source_of_error (hlaw : Parser.IsLawful) {e : ParseError}
    (h : comments source = .error e) : ∃ fault, e = .source fault := by
  have htree := hlaw source
  cases hfaulty : (Parser.parse (Utf8.encode source)).hasError with
  | true =>
    obtain ⟨start, stop, -, hfault⟩ := htree.exists_fault hfaulty
    rw [comments, hfault] at h
    exact ⟨_, (Except.error.inj h).symm⟩
  | false =>
    obtain ⟨spans, hspans, hextents⟩ := htree.exists_isSpans hfaulty
    rw [comments, comments_of_isSpans hfaulty hspans hextents] at h
    cases h

end LicenseNotices.JavaScript

namespace LicenseNotices.Grammar

variable [JavaScript.Parser] {g : Grammar} {source : Text}

/-- The comments of a source come from spans of it, for every grammar. -/
theorem exists_spans (hlaw : JavaScript.Parser.IsLawful) {cs : List Comment}
    (h : g.comments source = .ok cs) :
    ∃ spans, IsSpans g source spans ∧ cs = spans.map Span.comment := by
  cases g with
  | cStyle => exact CStyle.exists_spans ((Results.mapError_eq_ok_iff _ _ _).mp h)
  | javascript => exact JavaScript.exists_spans hlaw h

theorem exists_source_of_error (hlaw : JavaScript.Parser.IsLawful) {e : JavaScript.ParseError}
    (h : g.comments source = .error e) : ∃ fault, e = .source fault := by
  cases g with
  | cStyle =>
    obtain ⟨fault, -, rfl⟩ := (Results.mapError_eq_error_iff _ _ _).mp h
    exact ⟨fault, rfl⟩
  | javascript => exact JavaScript.exists_source_of_error hlaw h

end LicenseNotices.Grammar
