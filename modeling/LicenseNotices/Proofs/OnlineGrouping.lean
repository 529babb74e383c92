import LicenseNotices.Proofs.CommentRuns

/-!
Comments are grouped online. Behind any comments the machine holds back no more than the line
comments at their end that belong together, and the groups that it has completed are the first
groups of every list that goes on from there. No other groups are known by then, since the next
comment can still join those that are held back. Nothing is lost on the way: each step moves
comments from the state to the completed groups and adds the one that it reads.
-/
namespace LicenseNotices.OnlineGrouping

open GroupingState CommentRuns

/-- How far the machine has come: its state and the groups that it has completed. -/
structure Progress where
  state : GroupingState := .idle
  completed : List CommentGroup := []
  deriving DecidableEq, Repr

namespace Progress

/-- Reads one more comment. -/
def read (p : Progress) (c : Comment) : Progress where
  state := (p.state.step c).1
  completed := p.completed ++ (p.state.step c).2

/-- The machine behind the comments `xs`, which it has read one after the other. -/
def behind (xs : List Comment) : Progress := xs.foldl read {}

theorem behind_concat (xs : List Comment) (c : Comment) :
    behind (xs ++ [c]) = (behind xs).read c := by
  rw [behind, List.foldl_concat, behind]

end Progress

open Progress

/-- Line comments on consecutive lines, of which the last starts on the line `last`. -/
structure IsOpenRun (last : Int) (comments : List Comment) : Prop where
  ne_nil : comments ≠ []
  kind_eq : ∀ c ∈ comments, c.kind = .line
  consecutive : comments.IsChain fun c d => d.line = c.line + 1
  line_getLast : ∃ c ∈ comments.getLast?, c.line = last

/-- Either no run is open, or one is and the line of its last comment is known. -/
inductive IsSound : GroupingState → Prop
  | idle : IsSound .idle
  | lineRun {last : Int} {comments : List Comment} (hopen : IsOpenRun last comments) :
      IsSound (.lineRun last comments)

/-- What the machine holds back and has completed is right for the comments `xs`. -/
structure KeepsUp (xs : List Comment) (p : Progress) : Prop where
  sound : IsSound p.state
  pending_suffix : p.state.pending <:+ xs
  append_flush : p.completed ++ p.state.flush = groupComments xs
  prefix_groups : ∀ ys, p.completed <+: groupComments (xs ++ ys)

/-- A group that ends in a line comment has no block comment in it. -/
theorem isSound_of_coherent {s : GroupingState} (h : Coherent s) : IsSound s := by
  cases s with
  | idle => exact .idle
  | lineRun last comments =>
    obtain ⟨hgroup, c, hc, hkind, hline⟩ := h
    cases hgroup with
    | block hblock =>
      obtain rfl := Option.some.inj hc
      exact absurd (hblock.symm.trans hkind) (by decide)
    | lines hne hlines hstep => exact .lineRun ⟨hne, hlines, hstep, c, hc, hline⟩

theorem coherent_behind (xs : List Comment) : Coherent (behind xs).state := by
  induction xs using List.reverseRecOn with
  | nil => exact trivial
  | append_singleton xs c ih =>
    rw [behind_concat]
    exact ih.step c

/-- The comments of the completed groups and those that are held back are all that was read. -/
theorem flatten_behind (xs : List Comment) :
    (behind xs).completed.flatten ++ (behind xs).state.pending = xs := by
  induction xs using List.reverseRecOn with
  | nil => rfl
  | append_singleton xs c ih =>
    rw [behind_concat, Progress.read, List.flatten_append, List.append_assoc, step_flatten,
      ← List.append_assoc, ih]

/-- The groups of a list are those completed behind its beginning and those that the machine
finds from there. -/
theorem groupComments_behind (xs ys : List Comment) :
    groupComments (xs ++ ys) = (behind xs).completed ++ (behind xs).state.groupsFrom ys := by
  induction xs using List.reverseRecOn generalizing ys with
  | nil => rfl
  | append_singleton xs c ih =>
    rw [List.append_assoc, List.singleton_append, ih, groupsFrom_cons, ← List.append_assoc,
      behind_concat, Progress.read]

theorem completed_append_flush (xs : List Comment) :
    (behind xs).completed ++ (behind xs).state.flush = groupComments xs := by
  rw [← groupsFrom_nil, ← groupComments_behind, List.append_nil]

/-- A line comment that starts on the line `n`. -/
def commentOn (n : Int) : Comment := { kind := .line, text := [], line := n }

theorem groupsFrom_commentOn (last : Int) (comments : List Comment) :
    (lineRun last comments).groupsFrom [commentOn (last + 1)] =
      [comments ++ [commentOn (last + 1)]] := by
  rw [groupsFrom_cons, groupsFrom_nil]
  simp [step, flush, commentOn]

/-- The groups that come first whatever follows are those that the machine has completed. An
open run is not among them: a line comment on the next line makes it a longer group. -/
theorem prefix_forever_iff (xs : List Comment) (groups : List CommentGroup) :
    (∀ ys, groups <+: groupComments (xs ++ ys)) ↔ groups <+: (behind xs).completed := by
  constructor
  · intro h
    have hend := h []
    rw [List.append_nil, ← completed_append_flush] at hend
    cases hs : (behind xs).state with
    | idle => rwa [hs, flush, List.append_nil] at hend
    | lineRun last comments =>
      rw [hs, flush] at hend
      rcases List.prefix_concat_iff.mp hend with rfl | hprefix
      · have hnext := h [commentOn (last + 1)]
        rw [groupComments_behind, hs, groupsFrom_commentOn,
          List.prefix_append_right_inj] at hnext
        -- Of two lists with one group each, one begins the other only if the groups are equal.
        simp at hnext
      · exact hprefix
  · intro h ys
    rw [groupComments_behind]
    exact h.trans (List.prefix_append _ _)

/-- Behind any comments the machine keeps up with them, and in any state whatsoever a step
completes or holds back exactly the comments that were held back and the one that it reads. -/
theorem grouping_is_online :
    (∀ xs : List Comment, KeepsUp xs (behind xs)) ∧
      ∀ (s : GroupingState) (c : Comment),
        s.pending ++ [c] = (s.step c).2.flatten ++ (s.step c).1.pending := by
  constructor
  · intro xs
    exact {
      sound := isSound_of_coherent (coherent_behind xs)
      pending_suffix := ⟨_, flatten_behind xs⟩
      append_flush := completed_append_flush xs
      prefix_groups := (prefix_forever_iff xs _).mpr (List.prefix_refl _)
    }
  · exact fun s c => (step_flatten s c).symm

/-- The block comment closes the first run, and the comment behind it is held back. -/
example : behind
    [{ kind := .line, text := ['a'], line := 1 }, { kind := .line, text := ['b'], line := 2 },
      { kind := .block, text := ['c'], line := 3 }, { kind := .line, text := ['d'], line := 3 }] =
    { state := lineRun 3 [{ kind := .line, text := ['d'], line := 3 }]
      completed :=
        [[{ kind := .line, text := ['a'], line := 1 }, { kind := .line, text := ['b'], line := 2 }],
          [{ kind := .block, text := ['c'], line := 3 }]] } := by decide

end LicenseNotices.OnlineGrouping
