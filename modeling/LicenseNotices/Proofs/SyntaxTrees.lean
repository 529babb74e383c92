import LicenseNotices.Proofs.CommentSpans
import LicenseNotices.Proofs.EncodingRoundTrip
import LicenseNotices.Proofs.SpanPlaces

/-!
Comments from a syntax tree whose nodes lie in the order of the source. The walk over the tree then
comes to the comments in that order, and an extent in the bytes of the source is taken back to the
characters: the slice is decoded as the text that it covers, and the column as the characters of
the line before it.
-/
namespace LicenseNotices.JavaScript

open Encoding Results

/-- The node stands somewhere in the tree. -/
inductive SyntaxTree.Has (n : SyntaxNode) : SyntaxTree → Prop
  | top {children : List SyntaxTree} : Has n (.node n children)
  | inside {m : SyntaxNode} {children : List SyntaxTree} {t : SyntaxTree} (ht : t ∈ children)
      (hn : t.Has n) : Has n (.node m children)

theorem SyntaxTree.has_iff (n m : SyntaxNode) (children : List SyntaxTree) :
    (SyntaxTree.node m children).Has n ↔ n = m ∨ ∃ t ∈ children, t.Has n := by
  constructor
  · intro h
    cases h with
    | top => exact .inl rfl
    | inside ht hn => exact .inr ⟨_, ht, hn⟩
  · rintro (rfl | ⟨t, ht, hn⟩)
    · exact .top
    · exact .inside ht hn

/-- The trees lie one behind the other between two offsets, and so do the children of every node
within it. Comments have no children. -/
inductive LiesIn : ℕ → List SyntaxTree → ℕ → Prop
  | nil {lo hi : ℕ} (h : lo ≤ hi) : LiesIn lo [] hi
  | cons {lo hi : ℕ} {n : SyntaxNode} {children rest : List SyntaxTree}
      (hstart : lo ≤ n.extent.startByte) (hleaf : n.isComment = true → children = [])
      (hchildren : LiesIn n.extent.startByte children n.extent.endByte)
      (hrest : LiesIn n.extent.endByte rest hi) : LiesIn lo (.node n children :: rest) hi

theorem walk_append (ts us : List SyntaxTree) : walk (ts ++ us) = walk ts ++ walk us := by
  fun_induction walk ts with
  | case1 => rfl
  | case2 n children rest ih =>
    rw [List.cons_append, walk, ← List.append_assoc, ih, List.cons_append]

/-- The walk comes to all nodes of the trees and to nothing else. -/
theorem mem_walk_iff (ts : List SyntaxTree) (n : SyntaxNode) :
    n ∈ walk ts ↔ ∃ t ∈ ts, t.Has n := by
  fun_induction walk ts with
  | case1 => simp
  | case2 m children rest ih =>
    rw [List.mem_cons, ih, List.exists_mem_cons_iff, SyntaxTree.has_iff, or_assoc]
    simp only [List.mem_append, or_and_right, exists_or]

theorem SyntaxTree.has_blamed (t : SyntaxTree) : t.Has t.blamed := by
  rw [SyntaxTree.blamed]
  cases hfind : (walk [t]).find? SyntaxNode.isError with
  | none =>
    obtain ⟨n, children⟩ := t
    exact .top
  | some n =>
    have hmem := (mem_walk_iff [t] n).mp (List.mem_of_find?_eq_some hfind)
    simpa using hmem

theorem LiesIn.le {lo hi : ℕ} {ts : List SyntaxTree} (h : LiesIn lo ts hi) : lo ≤ hi := by
  induction h with
  | nil h => exact h
  | cons hstart _ _ _ hchildren hrest => omega

/-- The extents of the comments to which the walk comes. -/
def commentExtents (ts : List SyntaxTree) : List Extent :=
  ((walk ts).filter SyntaxNode.isComment).map SyntaxNode.extent

theorem commentExtents_node (n : SyntaxNode) (children rest : List SyntaxTree) :
    commentExtents (.node n children :: rest) =
      (if n.isComment = true then [n.extent] else []) ++
        (commentExtents children ++ commentExtents rest) := by
  rw [commentExtents, walk, walk_append, List.filter_cons, List.filter_append]
  split <;> simp [commentExtents]

/-- The walk comes to the comments of trees between two offsets in the order in which they lie. -/
theorem LiesIn.commentExtents_ordered {lo hi : ℕ} {ts : List SyntaxTree} (h : LiesIn lo ts hi) :
    (commentExtents ts).Pairwise (fun x y => x.endByte ≤ y.startByte) ∧
      ∀ x ∈ commentExtents ts, lo ≤ x.startByte ∧ x.endByte ≤ hi := by
  induction h with
  | nil h => simp [commentExtents, walk]
  | @cons lo hi n children rest hstart hleaf hchildren hrest ihchildren ihrest =>
    have hend := hrest.le
    rw [commentExtents_node]
    by_cases hn : n.isComment = true
    · have hnone : commentExtents children = [] := by
        rw [hleaf hn]
        simp [commentExtents, walk]
      rw [if_pos hn, hnone, List.nil_append, List.singleton_append, List.pairwise_cons,
        List.forall_mem_cons]
      refine ⟨⟨fun y hy => (ihrest.2 y hy).1, ihrest.1⟩, ⟨hstart, hend⟩, fun y hy => ?_⟩
      have hy := ihrest.2 y hy
      have hle := hchildren.le
      omega
    · rw [if_neg hn, List.nil_append, List.pairwise_append, List.forall_mem_append]
      refine ⟨⟨ihchildren.1, ihrest.1, fun x hx y hy => ?_⟩, fun x hx => ?_, fun y hy => ?_⟩
      · exact (ihchildren.2 x hx).2.trans (ihrest.2 y hy).1
      · have hx := ihchildren.2 x hx
        omega
      · have hy := ihrest.2 y hy
        have hle := hchildren.le
        omega

/-- The extent of a span in the bytes of its source. -/
def extentOf (s : Span) : Extent where
  startByte := (Utf8.encode s.before).length
  endByte := (Utf8.encode (s.before ++ s.text)).length
  row := s.before.count '\n'
  byteColumn := (Utf8.encode s.before.lastLine).length

theorem extentAt_span (s : Span) :
    extentAt s.source s.before.length (s.before ++ s.text).length = extentOf s := by
  rw [extentAt, s.take_before, s.take_read, extentOf]

theorem encode_append (t u : Text) : Utf8.encode (t ++ u) = Utf8.encode t ++ Utf8.encode u :=
  List.flatMap_append

theorem encode_ne_nil {t : Text} (h : t ≠ []) : Utf8.encode t ≠ [] := by
  obtain ⟨c, rest, rfl⟩ := List.exists_cons_of_ne_nil h
  have hc : Utf8.encodeChar c ≠ [] := by
    rw [Utf8.encodeChar]
    repeat' split
    all_goals exact List.cons_ne_nil _ _
  rw [Utf8.encode, List.flatMap_cons]
  exact List.append_ne_nil_of_left_ne_nil hc _

theorem length_encode_lt (t : Text) {u : Text} (hu : u ≠ []) :
    (Utf8.encode t).length < (Utf8.encode (t ++ u)).length := by
  rw [encode_append, List.length_append]
  exact Nat.lt_add_of_pos_right (List.length_pos_iff.mpr (encode_ne_nil hu))

theorem byteSlice_encode (t u v : Text) :
    byteSlice (Utf8.encode (t ++ u ++ v)) (Utf8.encode t).length (Utf8.encode (t ++ u)).length =
      Utf8.encode u := by
  rw [encode_append (t ++ u), byteSlice, List.take_left, encode_append, List.drop_left]

/-- The bytes of a row that come before an offset are as many characters as the column tells. -/
theorem charColumn_extentAt (source : Text) (start stop : ℕ) :
    charColumn (Utf8.encode source) (extentAt source start stop) =
      .ok (Text.lastLine (source.take start)).length := by
  let x := extentAt source start stop
  let line := Text.lastLine (source.take start)
  obtain ⟨lines, hlines⟩ : line <:+ source.take start := List.rtakeWhile_suffix _ _
  have hsource : source = lines ++ line ++ source.drop start := by
    rw [hlines, List.take_append_drop]
  have hstart : x.startByte = (Utf8.encode (lines ++ line)).length := by
    rw [hlines]
    rfl
  have hline : x.startByte - x.byteColumn = (Utf8.encode lines).length := by
    rw [hstart, encode_append, List.length_append]
    exact Nat.add_sub_cancel ..
  rw [charColumn, hline, hstart]
  nth_rewrite 1 [hsource]
  rw [byteSlice_encode, Utf8.decode_encode]
  rfl

theorem charColumn_extentOf (s : Span) :
    charColumn (Utf8.encode s.source) (extentOf s) = .ok s.before.lastLine.length := by
  rw [← extentAt_span, charColumn_extentAt, s.take_before]

/-- The delimiters are cut off and leave the body. -/
theorem undelimited?_of_delimited {kind : CommentKind} {opener body closer after : Text}
    (h : Delimited .javascript kind opener body closer after) :
    undelimited? (opener ++ body ++ closer) = some (kind, body) := by
  cases h with
  | block hbody =>
    have hcloser : ['*', '/'].isSuffixOf (['/', '*'] ++ body ++ ['*', '/']) = true :=
      List.isSuffixOf_iff_suffix.mpr (List.suffix_append _ _)
    rw [undelimited?, hcloser]
    simp
  | scriptLine hbody hafter => simp [undelimited?]
  | markup hopener hbody hafter => rcases hopener with rfl | rfl <;> simp [undelimited?]

theorem commentAt?_extentOf {s : Span}
    (h : Delimited .javascript s.kind s.opener s.body s.closer s.after) :
    commentAt? (Utf8.encode s.source) (extentOf s) = .ok (some s.comment) := by
  have hraw : Utf8.decode (byteSlice (Utf8.encode s.source) (extentOf s).startByte
      (extentOf s).endByte) = .ok s.text := by
    rw [extentOf, Span.source, byteSlice_encode, Utf8.decode_encode]
  have hbody : undelimited? s.text = some (s.kind, s.body) := undelimited?_of_delimited h
  rw [commentAt?, hraw, ok_bind, hbody]
  dsimp only
  rw [charColumn_extentOf, ok_bind]
  have hline : ((extentOf s).row : Int) + 1 = s.comment.line := by
    rw [s.line_comment, Int.add_comm]
    rfl
  rw [hline, ← s.column_comment]
  rfl

theorem commentsAmong_eq {bytes : Bytes} {nodes : List SyntaxNode} {spans : List Span}
    (hnodes : (nodes.filter SyntaxNode.isComment).map SyntaxNode.extent = spans.map extentOf)
    (hspans : ∀ s ∈ spans, commentAt? bytes (extentOf s) = .ok (some s.comment)) :
    commentsAmong bytes nodes = .ok (spans.map Span.comment) := by
  induction nodes generalizing spans with
  | nil =>
    obtain rfl := List.map_eq_nil_iff.mp hnodes.symm
    rfl
  | cons n rest ih =>
    rw [commentsAmong]
    split
    · rename_i hn
      rw [List.filter_cons_of_pos hn, List.map_cons] at hnodes
      obtain ⟨s, later, rfl, hs, hlater⟩ := List.map_eq_cons_iff.mp hnodes.symm
      rw [← hs, hspans s List.mem_cons_self, ok_bind,
        ih hlater.symm fun u hu => hspans u (List.mem_cons_of_mem s hu), ok_bind]
      rfl
    · rename_i hn
      rw [List.filter_cons_of_neg hn] at hnodes
      exact ih hnodes hspans

theorem startByte_lt_endByte {g : Grammar} {s : Span}
    (h : Delimited g s.kind s.opener s.body s.closer s.after) :
    (extentOf s).startByte < (extentOf s).endByte := by
  refine length_encode_lt s.before ?_
  simp [Span.text, h.opener_ne_nil]

/-- In bytes, too, a span starts behind the end of those before it. -/
theorem pairwise_extentOf {g : Grammar} {source : Text} {spans : List Span}
    (h : IsSpans g source spans) :
    (spans.map extentOf).Pairwise fun x y => x.endByte ≤ y.startByte := by
  refine List.pairwise_map.mpr (h.ordered.imp ?_)
  rintro s t ⟨between, hbetween⟩
  simp only [extentOf, ← hbetween, encode_append _ between, List.length_append]
  omega

/-- A tree whose comments have the extents of spans, and no others, has them in that order. -/
theorem commentExtents_eq {source : Text} {spans : List Span}
    (h : IsSpans .javascript source spans) {t : SyntaxTree} {hi : ℕ} (hliesIn : LiesIn 0 [t] hi)
    (hshown : ∀ x, (∃ n, t.Has n ∧ n.isComment = true ∧ n.extent = x) ↔ x ∈ spans.map extentOf) :
    commentExtents [t] = spans.map extentOf := by
  have hmem : ∀ x, x ∈ commentExtents [t] ↔ x ∈ spans.map extentOf := by
    intro x
    rw [← hshown]
    simp [commentExtents, mem_walk_iff, and_assoc]
  have hlt : ∀ x ∈ spans.map extentOf, x.startByte < x.endByte := by
    intro x hx
    obtain ⟨s, hs, rfl⟩ := List.mem_map.mp hx
    exact startByte_lt_endByte (h.delimited s hs)
  have hspans := (pairwise_extentOf h).imp_of_mem fun {x y} hx _ hxy => (hlt x hx).trans_le hxy
  have htree := hliesIn.commentExtents_ordered.1.imp_of_mem fun {x y} hx _ hxy =>
    (hlt x ((hmem x).mp hx)).trans_le hxy
  have hnodup {xs : List Extent} (hxs : xs.Pairwise fun x y => x.startByte < y.startByte) :
      xs.Nodup :=
    hxs.imp fun {x y} hxy heq => (congrArg Extent.startByte heq).not_lt hxy
  have hperm := (List.perm_ext_iff_of_nodup (hnodup htree) (hnodup hspans)).mpr hmem
  exact hperm.eq_of_pairwise (fun x y _ _ hxy hyx => absurd hyx hxy.not_gt) htree hspans

end LicenseNotices.JavaScript
