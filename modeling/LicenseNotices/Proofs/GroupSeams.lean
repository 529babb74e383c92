import LicenseNotices.Proofs.CommentRuns

/-!
The groups of two lists of comments that are read one after the other. Where a line comment at
the end of the first list meets one on the next line at the start of the second, the two groups
at the seam become one. Everywhere else the groups of the lists stay as they are.
-/
namespace LicenseNotices.CommentRuns

/-- The last comment of the first list and the first of the second belong together. -/
def Meets (xs ys : List Comment) : Prop :=
  ∃ c ∈ xs.getLast?, ∃ d ∈ ys.head?, Adjacent c d

theorem not_meets_iff (xs ys : List Comment) :
    ¬ Meets xs ys ↔ ∀ c ∈ xs.getLast?, ∀ d ∈ ys.head?, ¬ Adjacent c d := by
  simp only [Meets, not_exists, not_and]

theorem separated_append_right {g h : CommentGroup} (hg : g ≠ []) (before : CommentGroup) :
    Separated before (g ++ h) ↔ Separated before g := by
  rw [Separated, Separated, List.head?_append_of_ne_nil _ hg]

theorem separated_append_left {g h : CommentGroup} (hh : h ≠ []) (after : CommentGroup) :
    Separated (g ++ h) after ↔ Separated h after := by
  rw [Separated, Separated, List.getLast?_append_of_ne_nil _ hh]

/-- Two groups that meet are one group. -/
theorem IsGroup.append {g h : CommentGroup} (hg : IsGroup g) (hh : IsGroup h)
    (hmeet : Meets g h) : IsGroup (g ++ h) := by
  obtain ⟨c, hc, d, hd, hadj⟩ := hmeet
  rw [isGroup_iff] at hg hh ⊢
  refine ⟨by simp [hg.1], hg.2.append hh.2 ?_⟩
  intro e he f hf
  obtain rfl : c = e := Option.mem_unique hc he
  obtain rfl : d = f := Option.mem_unique hd hf
  exact hadj

/-- The comments at the end of a list that is cut into groups are those of its last group. -/
theorem IsPartition.getLast?_eq {xs : List Comment} {gs : List CommentGroup} {g : CommentGroup}
    (h : IsPartition xs (gs ++ [g])) : xs.getLast? = g.getLast? := by
  have hne : g ≠ [] := (h.isGroup g (by simp)).ne_nil
  rw [← h.flatten_eq, List.flatten_append, List.flatten_singleton,
    List.getLast?_append_of_ne_nil _ hne]

theorem IsPartition.head?_eq {xs : List Comment} {gs : List CommentGroup} {g : CommentGroup}
    (h : IsPartition xs (g :: gs)) : xs.head? = g.head? := by
  have hne : g ≠ [] := (h.isGroup g (by simp)).ne_nil
  rw [← h.flatten_eq, List.flatten_cons, List.head?_append_of_ne_nil _ hne]

/-- Partitions are joined where the comments on the two sides are adjacent: the groups on the
two sides become one, and nothing changes at its ends. -/
theorem IsPartition.join {xs ys : List Comment} {gs hs : List CommentGroup} {g h : CommentGroup}
    (hxs : IsPartition xs (gs ++ [g])) (hys : IsPartition ys (h :: hs)) (hmeet : Meets xs ys) :
    IsPartition (xs ++ ys) (gs ++ (g ++ h) :: hs) := by
  rw [Meets, hxs.getLast?_eq, hys.head?_eq] at hmeet
  have hg : IsGroup g := hxs.isGroup g (by simp)
  have hh : IsGroup h := hys.isGroup h (by simp)
  constructor
  · rw [← hxs.flatten_eq, ← hys.flatten_eq]
    simp
  · intro k hk
    rcases List.mem_append.mp hk with hk | hk
    · exact hxs.isGroup k (List.mem_append_left _ hk)
    · rcases List.mem_cons.mp hk with rfl | hk
      · exact hg.append hh hmeet
      · exact hys.isGroup k (List.mem_cons_of_mem _ hk)
  · obtain ⟨hgs, -, hleft⟩ := List.isChain_append.mp hxs.separated
    obtain ⟨hright, hhs⟩ := List.isChain_cons.mp hys.separated
    refine hgs.append (List.isChain_cons.mpr ⟨?_, hhs⟩) ?_
    · intro after hafter
      exact (separated_append_left hh.ne_nil after).mpr (hright after hafter)
    · intro before hbefore k hk
      obtain rfl : g ++ h = k := by simpa using hk
      exact (separated_append_right hg.ne_nil before).mpr (hleft before hbefore g (by simp))

theorem groupComments_ne_nil {xs : List Comment} (h : xs ≠ []) : groupComments xs ≠ [] := by
  intro hnil
  apply h
  rw [← (isPartition_groupComments xs).flatten_eq, hnil, List.flatten_nil]

theorem Meets.ne_nil {xs ys : List Comment} (h : Meets xs ys) : xs ≠ [] ∧ ys ≠ [] := by
  obtain ⟨c, hc, d, hd, -⟩ := h
  exact ⟨List.ne_nil_of_mem (List.mem_of_getLast? hc), List.ne_nil_of_mem (List.mem_of_head? hd)⟩

/-- Where two lists meet, the last group of the first and the first group of the second become
one group and all others stay. Where they do not meet, all groups of both stay. -/
theorem groupComments_append (xs ys : List Comment) :
    (Meets xs ys → ∃ earlier last first later,
      groupComments xs = earlier ++ [last] ∧ groupComments ys = first :: later ∧
        groupComments (xs ++ ys) = earlier ++ (last ++ first) :: later) ∧
      (¬ Meets xs ys → groupComments (xs ++ ys) = groupComments xs ++ groupComments ys) := by
  have hxs := isPartition_groupComments xs
  have hys := isPartition_groupComments ys
  constructor
  · intro hmeet
    obtain ⟨hne, hne'⟩ := hmeet.ne_nil
    have hlast := (List.dropLast_append_getLast (groupComments_ne_nil hne)).symm
    obtain ⟨first, later, hfirst⟩ := List.exists_cons_of_ne_nil (groupComments_ne_nil hne')
    rw [hlast] at hxs
    rw [hfirst] at hys
    exact ⟨_, _, first, later, hlast, hfirst,
      (isPartition_groupComments _).unique (hxs.join hys hmeet)⟩
  · intro hmeet
    exact (isPartition_groupComments _).unique (hxs.append hys ((not_meets_iff xs ys).mp hmeet))

/-- A block comment with a line comment behind it. -/
def upperComments : List Comment :=
  [{ kind := .block, text := ['a'], line := 3 }, { kind := .line, text := ['b'], line := 3 }]

/-- A run of two line comments that starts below `upperComments`, and a line comment apart. -/
def lowerComments : List Comment :=
  [{ kind := .line, text := ['c'], line := 4 }, { kind := .line, text := ['d'], line := 5 },
    { kind := .line, text := ['e'], line := 7 }]

theorem groupComments_upper_append_lower :
    Meets upperComments lowerComments ∧ ∃ earlier last first later,
      groupComments upperComments = earlier ++ [last] ∧
        groupComments lowerComments = first :: later ∧
        groupComments (upperComments ++ lowerComments) = earlier ++ (last ++ first) :: later := by
  have hmeet : Meets upperComments lowerComments := ⟨_, rfl, _, rfl, by decide⟩
  exact ⟨hmeet, (groupComments_append upperComments lowerComments).1 hmeet⟩

end LicenseNotices.CommentRuns
