import LicenseNotices.Proofs.LawfulParsers
import LicenseNotices.Proofs.NullCharacter
import LicenseNotices.Proofs.ReaderSpans

/-!
The trees that readers of JavaScript make. A line comment could end at a null character, but no
reader goes on from there, so in a source that readers read to its end each line comment ends at a
line terminator or with the source. So the readers are a parser on which one can rely.
-/
namespace LicenseNotices.JavaScript

open Encoding Goal

/-- The reader is in no string that null characters quote, and it stands at a null character if a
comment that it has seen ends at one. -/
structure Reader.StopsAtNull (source : Text) (r : Reader) : Prop where
  goals : stringBody '\x00' ∉ r.goals
  exists_spans : ∃ before spans, r.Has source before spans ∧
    ∀ s ∈ spans, s.after.head? = some '\x00' → r.rest.head? = some '\x00'

theorem stopsAtNull_start (source : Text) : (Reader.start source).StopsAtNull source :=
  ⟨by simp [Reader.start], [], [], has_start source, by simp⟩

/-- Nothing is read at a null character. -/
theorem head?_ne_null {goals : List Goal} (hgoals : stringBody '\x00' ∉ goals) {t : Text}
    (hread : ∀ blanks, readPiece goals t ≠ .unknown blanks) : t.head? ≠ some '\x00' := by
  intro hnull
  obtain ⟨rest, rfl⟩ := List.head?_eq_some_iff.mp hnull
  exact hread [] (readPiece_null hgoals rest)

/-- Wherever a reader goes, it does not come into a string that null characters quote. -/
theorem goals_of_goes {r r' : Reader} (hgoals : stringBody '\x00' ∉ r.goals) (h : r.Goes r') :
    stringBody '\x00' ∉ r'.goals := by
  cases h with
  | semicolon hmem =>
    intro hnull
    rcases quote_of_mem_readGoals hmem hnull with hquote | hbefore
    · cases hquote
    · exact hgoals hbefore
  | comment hpiece => exact hgoals
  | token hpiece hmem =>
    intro hnull
    have havoids := avoids_readPiece (by decide) hgoals r.rest
    rw [hpiece] at havoids
    exact (quote_of_mem_readGoals hmem hnull).elim havoids hgoals

theorem stopsAtNull_of_goes {source : Text} (r r' : Reader) (hr : r.StopsAtNull source)
    (h : r.Goes r') : r'.StopsAtNull source := by
  obtain ⟨hgoals, before, spans, hhas, hspans⟩ := hr
  obtain ⟨before', spans', hhas', hnew⟩ := has_of_goes hhas h
  refine ⟨goals_of_goes hgoals h, before', spans', hhas', fun s hs hnull => ?_⟩
  rcases hnew s hs with hs | hafter
  · have hrest := hspans s hs hnull
    cases h with
    | semicolon hmem => exact hrest
    | comment hpiece => exact absurd hrest (head?_ne_null hgoals (by simp [hpiece]))
    | token hpiece hmem => exact absurd hrest (head?_ne_null hgoals (by simp [hpiece]))
  · rw [← hafter]
    exact hnull

/-- The slices of a source are those of spans that do not end at a null character. -/
theorem exists_spans_of_commentSlices {source : Text} {slices : List (ℕ × ℕ)}
    (h : commentSlices source = .ok slices) :
    ∃ spans, IsSpans .javascript source spans ∧ slices = spans.map Span.slice := by
  obtain ⟨r, ⟨hgoals, before, spans, hhas, hspans⟩, hread⟩ :=
    exists_of_commentSlices stopsAtNull_of_goes (stopsAtNull_start source) h
  obtain ⟨⟨blanks, t, rest, hpiece⟩, rfl⟩ := exists_token_of_finished hread
  have hnull : ∀ s ∈ spans, s.after.head? ≠ some '\x00' := fun s hs hafter =>
    head?_ne_null hgoals (by simp [hpiece]) (hspans s hs hafter)
  obtain ⟨hsource, hread, hordered⟩ := hhas.areSpans
  exact ⟨spans, ⟨hsource, fun s hs => hread s hs (hnull s hs), hordered⟩, hhas.slices_eq⟩

theorem length_encode_take_le (source : Text) {m n : ℕ} (h : m ≤ n) :
    (Utf8.encode (source.take m)).length ≤ (Utf8.encode (source.take n)).length := by
  obtain ⟨more, hmore⟩ := List.take_prefix_take_left (l := source) h
  rw [← hmore, encode_append, List.length_append]
  exact Nat.le_add_right _ _

/-- A node below which there is nothing but leaves. -/
theorem has_flat {n m : SyntaxNode} {leaves : List SyntaxNode}
    (h : (SyntaxTree.node m (leaves.map (.node · []))).Has n) : n = m ∨ n ∈ leaves := by
  rcases (SyntaxTree.has_iff ..).mp h with rfl | ⟨t, ht, hn⟩
  · exact .inl rfl
  · obtain ⟨leaf, hleaf, rfl⟩ := List.mem_map.mp ht
    rcases (SyntaxTree.has_iff ..).mp hn with rfl | ⟨_, hnone, -⟩
    · exact .inr hleaf
    · cases hnone

theorem liesIn_leaves {lo hi : ℕ} {leaves : List SyntaxNode}
    (hordered : leaves.Pairwise fun n m => n.extent.endByte ≤ m.extent.startByte)
    (hbounds : ∀ n ∈ leaves, lo ≤ n.extent.startByte ∧ n.extent.startByte ≤ n.extent.endByte ∧
      n.extent.endByte ≤ hi) (h : lo ≤ hi) : LiesIn lo (leaves.map (.node · [])) hi := by
  induction leaves generalizing lo with
  | nil => exact .nil h
  | cons n rest ih =>
    rw [List.pairwise_cons] at hordered
    rw [List.forall_mem_cons] at hbounds
    obtain ⟨⟨hstart, hle, hend⟩, hrest⟩ := hbounds
    exact .cons hstart (fun _ => rfl) (.nil hle)
      (ih hordered.2 (fun m hm => ⟨hordered.1 m hm, (hrest m hm).2⟩) hend)

theorem extentAt_slice {source : Text} {s : Span} (h : s.source = source) :
    extentAt source s.slice.1 s.slice.2 = extentOf s := by
  rw [← h]
  exact extentAt_span s

/-- A tree over the whole source with leaves between offsets of it. -/
theorem exists_liesIn_flat {source : Text} {m : SyntaxNode} {leaves : List SyntaxNode}
    (htop : m.extent = extentAt source 0 source.length) (hm : m.isComment = false)
    (hordered : leaves.Pairwise fun n m => n.extent.endByte ≤ m.extent.startByte)
    (hplaced : ∀ n ∈ leaves, ∃ start stop, start ≤ stop ∧ stop ≤ source.length ∧
      n.extent = extentAt source start stop) :
    ∃ hi, LiesIn 0 [.node m (leaves.map (.node · []))] hi := by
  refine ⟨m.extent.endByte, .cons (Nat.zero_le _) (fun hcomment => ?_) ?_ (.nil (Nat.le_refl _))⟩
  · rw [hm] at hcomment
    cases hcomment
  · rw [htop]
    refine liesIn_leaves hordered (fun n hn => ?_) (length_encode_take_le source (Nat.zero_le _))
    obtain ⟨start, stop, hstart, hstop, hextent⟩ := hplaced n hn
    rw [hextent]
    exact ⟨Nat.zero_le _, length_encode_take_le source hstart, length_encode_take_le source hstop⟩

/-- The node of a slice. -/
def commentNode (source : Text) (slice : ℕ × ℕ) : SyntaxNode where
  type := commentType source slice.1
  extent := extentAt source slice.1 slice.2

theorem commentTree_eq (source : Text) (spans : List Span) :
    commentTree source (spans.map Span.slice) =
      .node { type := "program", extent := extentAt source 0 source.length }
        ((spans.map fun s => commentNode source s.slice).map (.node · [])) := by
  rw [commentTree, List.map_map, List.map_map]
  rfl

theorem isTreeOf_commentTree {source : Text} {spans : List Span}
    (h : IsSpans .javascript source spans) :
    IsTreeOf source ⟨false, commentTree source (spans.map Span.slice)⟩ := by
  have hextent : ∀ s ∈ spans, (commentNode source s.slice).extent = extentOf s := fun s hs =>
    extentAt_slice (h.source_eq s hs)
  rw [commentTree_eq]
  refine ⟨exists_liesIn_flat rfl rfl ?_ ?_, fun n hn => ?_, fun _ n hn hcomment => ?_⟩
  · refine List.pairwise_map.mpr ((List.pairwise_map.mp (pairwise_extentOf h)).imp_of_mem ?_)
    intro s t hs ht hst
    rwa [hextent s hs, hextent t ht]
  · intro n hn
    obtain ⟨s, hs, rfl⟩ := List.mem_map.mp hn
    refine ⟨s.slice.1, s.slice.2, (List.prefix_append _ _).length_le, ?_, rfl⟩
    exact (prefix_of_source_eq (h.source_eq s hs)).length_le
  · rcases has_flat hn with rfl | hn
    · exact ⟨0, source.length, rfl⟩
    · obtain ⟨s, hs, rfl⟩ := List.mem_map.mp hn
      exact ⟨_, _, rfl⟩
  · rcases has_flat hn with rfl | hn
    · cases hcomment
    · obtain ⟨s, hs, rfl⟩ := List.mem_map.mp hn
      exact ⟨s, h.source_eq s hs, h.delimited s hs, hextent s hs⟩

theorem isTreeOf_errorTree (source : Text) (start : ℕ) :
    IsTreeOf source ⟨true, errorTree source start⟩ := by
  let leaf : SyntaxNode :=
    { type := "ERROR", extent := extentAt source (min start source.length) source.length }
  have hextent : extentAt source start source.length = leaf.extent := by
    simp only [leaf, extentAt, ← List.take_eq_take_min]
  have htree : errorTree source start =
      .node { type := "program", extent := extentAt source 0 source.length }
        ([leaf].map (.node · [])) := by
    rw [errorTree, hextent]
    rfl
  rw [htree]
  refine ⟨exists_liesIn_flat rfl rfl (List.pairwise_singleton _ _) ?_, fun n hn => ?_,
    fun h => Bool.noConfusion h⟩
  · intro n hn
    rw [List.mem_singleton.mp hn]
    exact ⟨_, _, Nat.min_le_right _ _, Nat.le_refl _, rfl⟩
  · rcases has_flat hn with rfl | hn
    · exact ⟨_, _, rfl⟩
    · rw [List.mem_singleton.mp hn]
      exact ⟨_, _, rfl⟩

/-- The comments of a tree of slices are those of the slices. -/
theorem shown_commentTree {source : Text} {spans : List Span}
    (h : IsSpans .javascript source spans) (x : Extent) :
    (∃ n, (commentTree source (spans.map Span.slice)).Has n ∧ n.isComment = true ∧ n.extent = x) ↔
      x ∈ spans.map extentOf := by
  rw [commentTree_eq]
  constructor
  · rintro ⟨n, hn, hcomment, rfl⟩
    rcases has_flat hn with rfl | hn
    · cases hcomment
    · obtain ⟨s, hs, rfl⟩ := List.mem_map.mp hn
      exact List.mem_map.mpr ⟨s, hs, (extentAt_slice (h.source_eq s hs)).symm⟩
  · intro hx
    obtain ⟨s, hs, rfl⟩ := List.mem_map.mp hx
    have hleaf : SyntaxTree.node (commentNode source s.slice) [] ∈
        (spans.map fun s => commentNode source s.slice).map (.node · []) :=
      List.mem_map_of_mem (List.mem_map_of_mem hs)
    refine ⟨commentNode source s.slice, .inside hleaf .top, ?_, extentAt_slice (h.source_eq s hs)⟩
    simp only [SyntaxNode.isComment, commentNode, commentType]
    split <;> decide

theorem parse_readerParser (source : Text) :
    readerParser.parse (Utf8.encode source) = parseSource source := by
  unfold Parser.parse readerParser
  dsimp only
  rw [Utf8.decode_encode]

/-- One can rely on the readers as a parser. -/
theorem readerParser_isLawful : @Parser.IsLawful readerParser := by
  intro source
  rw [parse_readerParser, parseSource]
  cases h : commentSlices source with
  | error start => exact isTreeOf_errorTree source start
  | ok slices =>
    obtain ⟨spans, hspans, rfl⟩ := exists_spans_of_commentSlices h
    exact isTreeOf_commentTree hspans

end LicenseNotices.JavaScript
