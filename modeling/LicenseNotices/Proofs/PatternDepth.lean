import LicenseNotices.Pattern.Basic
import Mathlib.Data.List.Infix

/-!
How deep the nodes of a pattern stand inside one another. A closed group adds three levels at
most: the choice between its alternatives, the group itself and a repetition of it. So the
reader, when it has closed some groups, holds no nodes deeper than three levels for each of
them, and one more for a repetition that is not inside any of them.
-/
namespace LicenseNotices.Pattern

namespace Node

theorem depth_true_le (n : Node) : n.depth true ≤ n.depth := by
  cases n <;> simp [depth]

theorem depth_le_depth_true (n : Node) : n.depth ≤ n.depth true + 1 := by
  cases n <;> simp [depth]

theorem depth_ofList_le_iff {nodes : List Node} {k : ℕ} :
    (ofList nodes).depth ≤ k ↔ ∀ n ∈ nodes, n.depth ≤ k := by
  induction nodes using ofList.induct with
  | case1 => simp [ofList, depth]
  | case2 n => simp [ofList]
  | case3 n rest hrest ih =>
    rw [ofList, depth, Nat.max_le, ih, List.forall_mem_cons]
    exact hrest

theorem depth_eq_zero_of_isLeaf {n : Node} (h : n.isLeaf = true) : n.depth = 0 := by
  cases n <;> first | rfl | cases h

end Node

/-- All nodes of the alternatives are at most that deep. -/
def AlternativesWithin (k : ℕ) (alternatives : List (List Node)) : Prop :=
  ∀ nodes ∈ alternatives, ∀ n ∈ nodes, n.depth ≤ k

theorem AlternativesWithin.cons_iff {k : ℕ} {nodes : List Node} {rest : List (List Node)} :
    AlternativesWithin k (nodes :: rest) ↔
      (∀ n ∈ nodes, n.depth ≤ k) ∧ AlternativesWithin k rest :=
  List.forall_mem_cons

theorem depth_eitherOf_le {k : ℕ} {alternatives : List (List Node)}
    (h : AlternativesWithin k alternatives) : (eitherOf alternatives).depth ≤ k + 1 := by
  -- A choice behind the first alternative is on the level of the choice it belongs to.
  have htrue : (eitherOf alternatives).depth true ≤ k := by
    induction alternatives using eitherOf.induct with
    | case1 => simp [eitherOf, Node.depth]
    | case2 nodes =>
      exact (Node.depth_true_le _).trans (Node.depth_ofList_le_iff.mpr (h nodes (by simp)))
    | case3 nodes rest hrest ih =>
      obtain ⟨hnodes, hothers⟩ := AlternativesWithin.cons_iff.mp h
      simp only [eitherOf, Node.depth, if_true, Nat.add_zero]
      exact Nat.max_le.mpr ⟨Node.depth_ofList_le_iff.mpr hnodes, ih hothers⟩
  have hstep := Node.depth_le_depth_true (eitherOf alternatives)
  omega

theorem within_splitShared {k : ℕ} {others : List (List Node)} {nodes : List Node}
    (hnodes : ∀ n ∈ nodes, n.depth ≤ k) (hothers : AlternativesWithin k others) :
    (∀ n ∈ (splitShared others nodes).1, n.depth ≤ k) ∧
      AlternativesWithin k (splitShared others nodes).2 := by
  induction nodes generalizing others with
  | nil => exact ⟨by simp [splitShared], AlternativesWithin.cons_iff.mpr ⟨hnodes, hothers⟩⟩
  | cons n rest ih =>
    obtain ⟨hn, hrest⟩ := List.forall_mem_cons.mp hnodes
    rw [splitShared]
    split
    · have htails : AlternativesWithin k (others.map List.tail) := by
        simp only [AlternativesWithin, List.mem_map, forall_exists_index, and_imp,
          forall_apply_eq_imp_iff₂]
        exact fun other hother n hn => hothers other hother n (List.mem_of_mem_tail hn)
      obtain ⟨hshared, hends⟩ := ih hrest htails
      exact ⟨List.forall_mem_cons.mpr ⟨hn, hshared⟩, hends⟩
    · exact ⟨by simp, AlternativesWithin.cons_iff.mpr ⟨hnodes, hothers⟩⟩

/-- Joining alternatives adds one level at most. -/
theorem within_joinAlternatives {k : ℕ} {alternatives : List (List Node)}
    (h : AlternativesWithin k alternatives) :
    ∀ n ∈ joinAlternatives alternatives, n.depth ≤ k + 1 := by
  unfold joinAlternatives
  split
  · simp
  · rename_i nodes
    exact fun n hn => (h nodes (by simp) n hn).trans (Nat.le_succ k)
  · rename_i nodes rest hrest
    obtain ⟨hnodes, hothers⟩ := AlternativesWithin.cons_iff.mp h
    obtain ⟨hshared, hends⟩ := within_splitShared hnodes hothers
    have hall : ∀ last : Node, last.depth ≤ k + 1 →
        ∀ n ∈ (splitShared rest nodes).1 ++ [last], n.depth ≤ k + 1 := by
      intro last hlast n hn
      rcases List.mem_append.mp hn with hn | hn
      · exact (hshared n hn).trans (Nat.le_succ k)
      · rw [List.mem_singleton.mp hn]
        exact hlast
    dsimp only
    split
    · exact hall _ (by simp [Node.depth])
    · exact hall _ (depth_eitherOf_le hends)

/-- Whether the item is what a quantifier leaves behind, which no other quantifier takes. -/
def Item.isRepeated : Item → Bool
  | .node (.repeated _ _ _ _) => true
  | _ => false

theorem Item.isRepeated_eq_false {x : Item}
    (h : ∀ mode least most body, x = .node (.repeated mode least most body) → False) :
    x.isRepeated = false := by
  unfold isRepeated
  split
  · exact (h _ _ _ _ rfl).elim
  · rfl

/-- An item of a pattern in which that many groups are closed. -/
def Item.Within (m : ℕ) (x : Item) : Prop :=
  ∀ n ∈ x.nodes, n.depth ≤ 3 * m + x.isRepeated.toNat

namespace Item.Within

variable {m k : ℕ} {x : Item}

theorem mono (h : x.Within m) (hmk : m ≤ k) : x.Within k :=
  fun n hn => (h n hn).trans (by omega)

theorem node {n : Node} (h : n.depth ≤ 3 * m) : (Item.node n).Within m := by
  intro n' hn
  rw [List.mem_singleton.mp hn]
  exact h.trans (Nat.le_add_right _ _)

theorem plain {nodes : List Node} (h : ∀ n ∈ nodes, n.depth ≤ 3 * m) :
    (Item.plain nodes).Within m :=
  fun n hn => (h n hn).trans (Nat.le_add_right _ _)

theorem depth_le (h : x.Within m) {n : Node} (hn : n ∈ x.nodes) : n.depth ≤ 3 * m + 1 :=
  (h n hn).trans (by have := Bool.toNat_le x.isRepeated; omega)

/-- A quantifier adds a level to an item that has none already. -/
theorem repeated (h : x.Within m) (hx : x.isRepeated = false) (mode : RepeatMode) (least : ℕ)
    (most : Option ℕ) : (Item.node (.repeated mode least most x.body)).Within m := by
  intro n hn
  rw [List.mem_singleton.mp hn, Node.depth]
  have hbody : x.body.depth ≤ 3 * m := by
    rw [body, Node.depth_ofList_le_iff]
    intro n hn
    simpa [hx] using h n hn
  exact Nat.succ_le_succ hbody

end Item.Within

/-- A frame of a reader that has closed that many groups. -/
structure Frame.Within (m : ℕ) (f : Frame) : Prop where
  alternatives : AlternativesWithin (3 * m + 1) f.alternatives
  items : ∀ x ∈ f.items, x.Within m

namespace Frame.Within

variable {m k : ℕ} {f : Frame}

theorem mono (h : f.Within m) (hmk : m ≤ k) : f.Within k where
  alternatives nodes hnodes n hn := (h.alternatives nodes hnodes n hn).trans (by omega)
  items x hx := (h.items x hx).mono hmk

theorem empty (m : ℕ) (kind : FrameKind) (start : ℕ) (verbose : Bool) :
    ({ kind, start, verbose } : Frame).Within m where
  alternatives := by simp [AlternativesWithin]
  items := by simp

theorem push {x : Item} (h : f.Within m) (hx : x.Within m) : (f.push x).Within m where
  alternatives := h.alternatives
  items := by
    rw [Frame.push, List.forall_mem_append, List.forall_mem_singleton]
    exact ⟨h.items, hx⟩

theorem allAlternatives (h : f.Within m) : AlternativesWithin (3 * m + 1) f.allAlternatives := by
  rw [AlternativesWithin, Frame.allAlternatives, List.forall_mem_append,
    List.forall_mem_singleton]
  refine ⟨h.alternatives, fun n hn => ?_⟩
  obtain ⟨x, hx, hn⟩ := List.mem_flatMap.mp hn
  exact (h.items x hx).depth_le hn

/-- What becomes of a frame is an item in which one more group is closed. -/
theorem closed (h : f.Within m) (s : Scope) : (Reader.closed s f).1.Within (m + 1) := by
  have hall := h.allAlternatives
  have hnodes := within_joinAlternatives hall
  have hbody : (Node.ofList (joinAlternatives f.allAlternatives)).depth ≤ 3 * m + 2 :=
    Node.depth_ofList_le_iff.mpr hnodes
  have hplain : (Item.plain (joinAlternatives f.allAlternatives)).Within (m + 1) :=
    .plain fun n hn => (hnodes n hn).trans (by omega)
  unfold Reader.closed
  dsimp only
  split
  case h_1 => exact hplain
  case h_3 =>
    split
    · exact hplain
    · exact .node (by rw [Node.depth]; omega)
  case h_7 =>
    split
    · rename_i yes no _ hbranches
      rw [hbranches, AlternativesWithin.cons_iff, AlternativesWithin.cons_iff] at hall
      have hyes := Node.depth_ofList_le_iff.mpr hall.1
      have hno := Node.depth_ofList_le_iff.mpr hall.2.1
      exact .node (by rw [Node.depth]; omega)
    · exact .node (by simp only [Node.depth]; omega)
  all_goals exact .node (by rw [Node.depth]; omega)

end Frame.Within

namespace Reader

@[simp] theorem closed_flags (s : Scope) (f : Frame) : (closed s f).2.flags = s.flags := by
  unfold closed
  dsimp only
  split
  · rfl
  · rfl
  · split <;> rfl
  · rfl
  · rfl
  · split <;> rfl
  · split <;> rfl

/-- A reader that has closed that many groups. -/
structure Within (m : ℕ) (r : Reader) : Prop where
  enclosing : ∀ f ∈ r.enclosing, f.Within m
  frame : r.frame.Within m

namespace Within

variable {m : ℕ} {r : Reader}

theorem update (h : r.Within m) {change : Frame → Frame} (hchange : (change r.frame).Within m) :
    (r.update change).Within m := ⟨h.enclosing, hchange⟩

theorem pushNode (h : r.Within m) {n : Node} (hn : n.depth = 0) : (r.pushNode n).Within m :=
  h.update (h.frame.push (.node (by omega)))

theorem nextAlternative (h : r.Within m) : r.nextAlternative.Within m :=
  h.update { alternatives := h.frame.allAlternatives, items := by simp }

theorem openFrame (h : r.Within m) (kind : FrameKind) (start : ℕ) (verbose : Bool) :
    (r.openFrame kind start verbose).Within m where
  enclosing := List.forall_mem_cons.mpr ⟨h.frame, h.enclosing⟩
  frame := .empty m kind start verbose

theorem replaceLast (h : r.Within m) {x : Item} (hx : x.Within m) :
    (r.update fun f => { f with items := f.items.dropLast ++ [x] }).Within m :=
  h.update
    { alternatives := h.frame.alternatives
      items := by
        rw [List.forall_mem_append, List.forall_mem_singleton]
        exact ⟨fun x hx => h.frame.items x (List.mem_of_mem_dropLast hx), hx⟩ }

theorem close (h : r.Within m) {next : Reader} (hclose : r.close = some next) :
    next.Within (m + 1) ∧ r.enclosing.length = next.enclosing.length + 1 ∧
      next.scope.flags = r.scope.flags := by
  rw [Reader.close] at hclose
  split at hclose
  · cases hclose
  · rename_i outer enclosing henclosing
    cases hclose
    obtain ⟨houter, hothers⟩ := List.forall_mem_cons.mp (henclosing ▸ h.enclosing)
    refine ⟨⟨fun f hf => (hothers f hf).mono (Nat.le_succ m), ?_⟩, by simp [henclosing],
      closed_flags _ _⟩
    exact (houter.mono (Nat.le_succ m)).push (h.frame.closed _)

/-- The node of the whole pattern. -/
theorem depth_le (h : r.Within m) :
    (Node.ofList (joinAlternatives r.frame.allAlternatives)).depth ≤ 3 * m + 2 :=
  Node.depth_ofList_le_iff.mpr (within_joinAlternatives h.frame.allAlternatives)

end Within

end Reader

end LicenseNotices.Pattern
