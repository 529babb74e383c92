import LicenseNotices.Comment.Grouping
import Mathlib.Data.List.Infix
import Mathlib.Data.List.SplitBy

/-!
Grouping computes the maximal runs of a list of comments. A group is one block comment
or line comments on consecutive lines; the groups of a list are the only way to cut it
into such groups of which no two neighbours could have been one. The machine is followed
through the invariant that its open run is a group and remembers the line of its last
comment, so that a comment either extends the run or begins anew behind it.
-/
namespace LicenseNotices.CommentRuns

open GroupingState

/-- Two line comments of which the second starts one line below the first. -/
def Adjacent (c d : Comment) : Prop :=
  c.kind = .line ∧ d.kind = .line ∧ d.line = c.line + 1

instance (c d : Comment) : Decidable (Adjacent c d) :=
  inferInstanceAs (Decidable (_ ∧ _))

inductive IsGroup : CommentGroup → Prop
  | block {c : Comment} (hkind : c.kind = .block) : IsGroup [c]
  | lines {g : CommentGroup} (hne : g ≠ []) (hkind : ∀ c ∈ g, c.kind = .line)
      (hstep : g.IsChain fun c d => d.line = c.line + 1) : IsGroup g

/-- The last comment of one group and the first of the next do not belong together. -/
def Separated (g h : CommentGroup) : Prop :=
  ∀ c ∈ g.getLast?, ∀ d ∈ h.head?, ¬ Adjacent c d

/-- A list of comments cut into groups that are as long as they can be. -/
structure IsPartition (comments : List Comment) (groups : List CommentGroup) : Prop where
  flatten_eq : groups.flatten = comments
  isGroup : ∀ g ∈ groups, IsGroup g
  separated : groups.IsChain Separated

theorem IsGroup.ne_nil {g : CommentGroup} (h : IsGroup g) : g ≠ [] := by
  cases h with
  | block hkind => simp
  | lines hne hkind hstep => exact hne

theorem isGroup_singleton (c : Comment) : IsGroup [c] := by
  cases hkind : c.kind with
  | line => exact .lines (by simp) (by simpa using hkind) (.singleton c)
  | block => exact .block hkind

private theorem kind_of_isChain {c : Comment} {g : CommentGroup} (hc : c.kind = .line)
    (h : (c :: g).IsChain Adjacent) : ∀ d ∈ c :: g, d.kind = .line := by
  induction g generalizing c with
  | nil => simpa using hc
  | cons e rest ih =>
    obtain ⟨hce, hrest⟩ := List.isChain_cons_cons.mp h
    intro d hd
    rcases List.mem_cons.mp hd with rfl | hd
    · exact hc
    · exact ih hce.2.1 hrest d hd

/-- Both kinds of groups are the nonempty lists in which neighbours are adjacent. -/
theorem isGroup_iff (g : CommentGroup) : IsGroup g ↔ g ≠ [] ∧ g.IsChain Adjacent := by
  constructor
  · intro h
    refine ⟨h.ne_nil, ?_⟩
    cases h with
    | block hkind => exact .singleton _
    | lines hne hkind hstep =>
      apply hstep.imp_of_mem_imp
      intro c d hc hd hline
      exact ⟨hkind c hc, hkind d hd, hline⟩
  · rintro ⟨hne, hchain⟩
    match g, hne, hchain with
    | [c], _, _ => exact isGroup_singleton c
    | c :: d :: rest, hne, hchain =>
      have hc : c.kind = .line := (List.isChain_cons_cons.mp hchain).1.1
      exact .lines hne (kind_of_isChain hc hchain) (hchain.imp fun _ _ h => h.2.2)

private theorem separated_iff {g h : CommentGroup} (hg : g ≠ []) (hh : h ≠ []) :
    Separated g h ↔
      ∃ hg hh, decide (Adjacent (g.getLast hg) (h.head hh)) = false := by
  have hlast : g.getLast? = some (g.getLast hg) := List.getLast?_eq_some_getLast hg
  have hhead : h.head? = some (h.head hh) := List.head?_eq_some_head hh
  simp only [Separated, hlast, hhead, Option.mem_some_iff, forall_eq', decide_eq_false_iff_not]
  exact ⟨fun hn => ⟨hg, hh, hn⟩, fun ⟨_, _, hn⟩ => hn⟩

/-- A list has exactly one partition, since splitting between the comments that are not
adjacent leaves no choice. -/
theorem isPartition_iff_splitBy (comments : List Comment) (groups : List CommentGroup) :
    IsPartition comments groups ↔
      comments.splitBy (fun c d => decide (Adjacent c d)) = groups := by
  have hchain (g : CommentGroup) :
      (g.IsChain fun c d => decide (Adjacent c d) = true) ↔ g.IsChain Adjacent := by
    simp only [decide_eq_true_eq]
  rw [List.splitBy_eq_iff]
  constructor
  · rintro ⟨hflat, hgroup, hsep⟩
    refine ⟨hflat.symm, fun hmem => (hgroup [] hmem).ne_nil rfl, ?_, ?_⟩
    · intro g hg
      exact (hchain g).mpr ((isGroup_iff g).mp (hgroup g hg)).2
    · apply hsep.imp_of_mem_imp
      intro g h hg hh hgh
      exact (separated_iff (hgroup g hg).ne_nil (hgroup h hh).ne_nil).mp hgh
  · rintro ⟨hflat, hnil, hgroup, hsep⟩
    have hne : ∀ g ∈ groups, g ≠ [] := fun g hg heq => hnil (heq ▸ hg)
    refine ⟨hflat.symm, ?_, ?_⟩
    · intro g hg
      exact (isGroup_iff g).mpr ⟨hne g hg, (hchain g).mp (hgroup g hg)⟩
    · apply hsep.imp_of_mem_imp
      intro g h hg hh hgh
      exact (separated_iff (hne g hg) (hne h hh)).mpr hgh

theorem IsPartition.nil : IsPartition [] [] := ⟨rfl, by simp, .nil⟩

theorem IsGroup.isPartition {g : CommentGroup} (h : IsGroup g) : IsPartition g [g] :=
  ⟨by simp, by simpa using h, .singleton g⟩

/-- Partitions are joined where the comments on the two sides are not adjacent. -/
theorem IsPartition.append {xs ys : List Comment} {gs hs : List CommentGroup}
    (hxs : IsPartition xs gs) (hys : IsPartition ys hs)
    (hseam : ∀ c ∈ xs.getLast?, ∀ d ∈ ys.head?, ¬ Adjacent c d) :
    IsPartition (xs ++ ys) (gs ++ hs) := by
  rw [isPartition_iff_splitBy] at hxs hys ⊢
  rw [List.splitBy_append, hxs, hys]
  intro c hc d hd
  exact decide_eq_false (hseam c hc d hd)

/-- The comment at place `i` of a partitioned list stands in the group at place `j`. -/
def LiesIn (groups : List CommentGroup) (i j : ℕ) : Prop :=
  (groups.take j).flatten.length ≤ i ∧ i < (groups.take (j + 1)).flatten.length

theorem length_flatten_take_mono (groups : List CommentGroup) {j k : ℕ} (h : j ≤ k) :
    (groups.take j).flatten.length ≤ (groups.take k).flatten.length := by
  have hprefix : groups.take j <+: groups.take k := List.take_prefix_take_left h
  exact hprefix.flatten.length_le

theorem LiesIn.unique {groups : List CommentGroup} {i j k : ℕ} (hj : LiesIn groups i j)
    (hk : LiesIn groups i k) : j = k := by
  obtain ⟨hj₁, hj₂⟩ := hj
  obtain ⟨hk₁, hk₂⟩ := hk
  by_contra hne
  rcases Nat.lt_or_gt_of_ne hne with hlt | hlt
  · have := length_flatten_take_mono groups (show j + 1 ≤ k from hlt)
    omega
  · have := length_flatten_take_mono groups (show k + 1 ≤ j from hlt)
    omega

/-- Every place of the list lies in a group, which holds the comment at that place. -/
theorem exists_liesIn (groups : List CommentGroup) {i : ℕ} {c : Comment}
    (h : groups.flatten[i]? = some c) :
    ∃ j group, groups[j]? = some group ∧ c ∈ group ∧ LiesIn groups i j := by
  induction groups generalizing i with
  | nil => simp at h
  | cons g rest ih =>
    rw [List.flatten_cons] at h
    by_cases hi : i < g.length
    · rw [List.getElem?_append_left hi] at h
      refine ⟨0, g, rfl, List.mem_of_getElem? h, ?_, ?_⟩
      · simp
      · simpa using hi
    · rw [List.getElem?_append_right (by omega)] at h
      obtain ⟨j, group, hgroup, hc, hstart, hstop⟩ := ih h
      refine ⟨j + 1, group, hgroup, hc, ?_, ?_⟩
      · simp only [List.take_succ_cons, List.flatten_cons, List.length_append]
        omega
      · simp only [List.take_succ_cons, List.flatten_cons, List.length_append] at hstop ⊢
        omega

/-- A comment of a partitioned list stands in exactly one group. -/
theorem IsPartition.exists_group {comments : List Comment} {groups : List CommentGroup}
    (h : IsPartition comments groups) {i : ℕ} {c : Comment} (hc : comments[i]? = some c) :
    ∃ j group, groups[j]? = some group ∧ c ∈ group ∧ LiesIn groups i j ∧
      ∀ k, LiesIn groups i k → k = j := by
  rw [← h.flatten_eq] at hc
  obtain ⟨j, group, hgroup, hmem, hlies⟩ := exists_liesIn groups hc
  exact ⟨j, group, hgroup, hmem, hlies, fun k hk => hk.unique hlies⟩

/-- An open run is a group of line comments, and the machine knows the line on which the
last of them starts. -/
def Coherent : GroupingState → Prop
  | idle => True
  | lineRun last run => IsGroup run ∧ ∃ c ∈ run.getLast?, c.kind = .line ∧ c.line = last

/-- The open run can take the comment. -/
def Joins (s : GroupingState) (c : Comment) : Prop :=
  ∃ d ∈ s.pending.getLast?, Adjacent d c

theorem groupsFrom_nil (s : GroupingState) : s.groupsFrom [] = s.flush := by
  simp [groupsFrom, run]

theorem groupsFrom_cons (s : GroupingState) (c : Comment) (rest : List Comment) :
    s.groupsFrom (c :: rest) = (s.step c).2 ++ (s.step c).1.groupsFrom rest := by
  simp [groupsFrom, run]

/-- From the idle state a line comment opens a run and a block comment is a group. -/
theorem idle_step (c : Comment) :
    (c.kind = .line ∧ idle.step c = (lineRun c.line [c], [])) ∨
      (c.kind = .block ∧ idle.step c = (idle, [[c]])) := by
  cases hkind : c.kind with
  | line => exact .inl ⟨rfl, by simp [step, hkind]⟩
  | block => exact .inr ⟨rfl, by simp [step, hkind]⟩

theorem step_of_joins {s : GroupingState} {c : Comment} (hs : Coherent s) (h : Joins s c) :
    s.step c = (lineRun c.line (s.pending ++ [c]), []) := by
  obtain ⟨d, hd, -, hc, hline⟩ := h
  cases s with
  | idle => simp [pending] at hd
  | lineRun last run =>
    obtain ⟨-, e, he, -, rfl⟩ := hs
    obtain rfl : d = e := Option.mem_unique hd he
    simp [step, pending, hc, hline]

/-- A comment that does not join the open run closes it and is read as if none was open. -/
theorem step_of_not_joins {s : GroupingState} {c : Comment} (hs : Coherent s)
    (h : ¬ Joins s c) : s.step c = ((idle.step c).1, s.flush ++ (idle.step c).2) := by
  cases s with
  | idle => simp [flush]
  | lineRun last run =>
    obtain ⟨-, e, he, hkind, rfl⟩ := hs
    cases hc : c.kind with
    | line =>
      have hline : e.line + 1 ≠ c.line := fun heq => h ⟨e, he, hkind, hc, heq.symm⟩
      simp [step, flush, hc, hline]
    | block => simp [step, flush, hc]

theorem coherent_singleton {c : Comment} (h : c.kind = .line) :
    Coherent (lineRun c.line [c]) :=
  ⟨isGroup_singleton c, c, by simp, h, rfl⟩

theorem coherent_extend {s : GroupingState} {c : Comment} (hs : Coherent s) (h : Joins s c) :
    Coherent (lineRun c.line (s.pending ++ [c])) := by
  obtain ⟨d, hd, hadj⟩ := h
  refine ⟨?_, c, by simp, hadj.2.1, rfl⟩
  cases s with
  | idle => simp [pending] at hd
  | lineRun last run =>
    rw [isGroup_iff]
    have hrun := ((isGroup_iff run).mp hs.1).2
    refine ⟨by simp, hrun.append (.singleton c) ?_⟩
    intro e he f hf
    obtain rfl : d = e := Option.mem_unique hd he
    obtain rfl : c = f := by simpa using hf
    exact hadj

/-- One step keeps the invariant. -/
theorem Coherent.step {s : GroupingState} (hs : Coherent s) (c : Comment) :
    Coherent (s.step c).1 := by
  by_cases h : Joins s c
  · rw [step_of_joins hs h]
    exact coherent_extend hs h
  · rw [step_of_not_joins hs h]
    rcases idle_step c with ⟨hkind, heq⟩ | ⟨-, heq⟩
    · rw [heq]
      exact coherent_singleton hkind
    · rw [heq]
      exact trivial

theorem isPartition_flush {s : GroupingState} (hs : Coherent s) :
    IsPartition s.pending s.flush := by
  cases s with
  | idle => exact .nil
  | lineRun last run => exact hs.1.isPartition

private theorem isPartition_idle_step {c : Comment} {rest : List Comment}
    {groups : List CommentGroup}
    (h : IsPartition ((idle.step c).1.pending ++ rest) groups) :
    IsPartition (c :: rest) ((idle.step c).2 ++ groups) := by
  rcases idle_step c with ⟨-, heq⟩ | ⟨hkind, heq⟩
  · rw [heq] at h ⊢
    exact h
  · rw [heq] at h ⊢
    refine (isGroup_singleton c).isPartition.append h ?_
    intro d hd e he hadj
    obtain rfl : c = d := by simpa using hd
    exact absurd (hkind.symm.trans hadj.1) (by decide)

/-- The groups completed by one step are the beginning of the partition of the comments
that were held back, the comment that was read and those that follow. -/
theorem isPartition_step {s : GroupingState} (hs : Coherent s) {c : Comment}
    {rest : List Comment} {groups : List CommentGroup}
    (h : IsPartition ((s.step c).1.pending ++ rest) groups) :
    IsPartition (s.pending ++ c :: rest) ((s.step c).2 ++ groups) := by
  by_cases hjoin : Joins s c
  · rw [step_of_joins hs hjoin] at h ⊢
    simpa only [pending, List.append_assoc, List.singleton_append, List.nil_append] using h
  · rw [step_of_not_joins hs hjoin] at h ⊢
    rw [List.append_assoc]
    refine (isPartition_flush hs).append (isPartition_idle_step h) ?_
    intro d hd e he hadj
    obtain rfl : c = e := by simpa using he
    exact hjoin ⟨d, hd, hadj⟩

/-- The comments that are held back and those that follow are cut as one list. -/
theorem isPartition_groupsFrom {s : GroupingState} (hs : Coherent s) (comments : List Comment) :
    IsPartition (s.pending ++ comments) (s.groupsFrom comments) := by
  induction comments generalizing s with
  | nil => simpa only [List.append_nil, groupsFrom_nil] using isPartition_flush hs
  | cons c rest ih =>
    rw [groupsFrom_cons]
    exact isPartition_step hs (ih (hs.step c))

theorem isPartition_groupComments (comments : List Comment) :
    IsPartition comments (groupComments comments) :=
  isPartition_groupsFrom (s := idle) trivial comments

theorem IsPartition.unique {comments : List Comment} {gs hs : List CommentGroup}
    (hgs : IsPartition comments gs) (hhs : IsPartition comments hs) : gs = hs := by
  rw [isPartition_iff_splitBy] at hgs hhs
  exact hgs.symm.trans hhs

/-- The groups of a list of comments are its partition, and it has no other. -/
theorem groupComments_eq_iff_isPartition (comments : List Comment)
    (groups : List CommentGroup) :
    groupComments comments = groups ↔ IsPartition comments groups := by
  constructor
  · rintro rfl
    exact isPartition_groupComments comments
  · intro h
    exact (isPartition_groupComments comments).unique h

example : groupComments
    [{ kind := .line, text := ['a'], line := 1 }, { kind := .line, text := ['b'], line := 2 },
      { kind := .block, text := ['c'], line := 3 }, { kind := .line, text := ['d'], line := 4 }] =
    [[{ kind := .line, text := ['a'], line := 1 }, { kind := .line, text := ['b'], line := 2 }],
      [{ kind := .block, text := ['c'], line := 3 }],
      [{ kind := .line, text := ['d'], line := 4 }]] := by decide

end LicenseNotices.CommentRuns
