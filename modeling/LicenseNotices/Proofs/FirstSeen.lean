import LicenseNotices.NoticeSet
import Mathlib.Data.List.Basic

/-!
A set of notices against the texts that were offered to it. The set lists what it has
been offered without repetition and in the order of first appearance. This is kept by
every insertion, and so by the aggregation of the groups of a file, which leaves one event
behind for each group. A text that is there already is merged and changes nothing.
-/
namespace LicenseNotices.FirstSeen

/-- The distinct elements of `seen` in the order in which each appears first. -/
structure Lists (seen texts : List Text) : Prop where
  nodup : texts.Nodup
  mem_iff : ∀ t, t ∈ texts ↔ t ∈ seen
  ordered : texts.Pairwise fun t u => seen.idxOf t < seen.idxOf u

theorem Lists.nil : Lists [] [] := ⟨.nil, by simp, .nil⟩

private theorem Lists.ordered_append {seen texts : List Text} (h : Lists seen texts) (t : Text) :
    texts.Pairwise fun u v => (seen ++ [t]).idxOf u < (seen ++ [t]).idxOf v := by
  apply h.ordered.imp_of_mem
  intro u v hu hv huv
  rwa [List.idxOf_append_of_mem ((h.mem_iff u).mp hu),
    List.idxOf_append_of_mem ((h.mem_iff v).mp hv)]

/-- What has been seen can be listed in one way only. -/
theorem Lists.unique {seen ts us : List Text} (hts : Lists seen ts) (hus : Lists seen us) :
    ts = us := by
  have hperm : ts.Perm us := by
    rw [List.perm_ext_iff_of_nodup hts.nodup hus.nodup]
    intro t
    rw [hts.mem_iff, hus.mem_iff]
  refine hperm.eq_of_pairwise ?_ hts.ordered hus.ordered
  intro t u _ _ htu hut
  omega

theorem Lists.append_seen {seen texts : List Text} (h : Lists seen texts) {t : Text}
    (ht : t ∈ seen) : Lists (seen ++ [t]) texts := by
  refine ⟨h.nodup, ?_, h.ordered_append t⟩
  intro u
  rw [h.mem_iff, List.mem_append, List.mem_singleton]
  exact ⟨Or.inl, fun hu => hu.elim id fun heq => heq ▸ ht⟩

theorem Lists.append_new {seen texts : List Text} (h : Lists seen texts) {t : Text}
    (ht : t ∉ seen) : Lists (seen ++ [t]) (texts ++ [t]) := by
  refine ⟨?_, ?_, ?_⟩
  · rw [List.nodup_append]
    refine ⟨h.nodup, by simp, ?_⟩
    rintro u hu v hv rfl
    obtain rfl := List.mem_singleton.mp hv
    exact ht ((h.mem_iff u).mp hu)
  · intro u
    rw [List.mem_append, List.mem_append, h.mem_iff]
  · rw [List.pairwise_append]
    refine ⟨h.ordered_append t, by simp, ?_⟩
    intro u hu v hv
    obtain rfl := List.mem_singleton.mp hv
    have hmem := (h.mem_iff u).mp hu
    rw [List.idxOf_append_of_mem hmem, List.idxOf_append_of_notMem ht]
    have := List.idxOf_lt_length_of_mem hmem
    omega

/-- An insertion keeps the set a list of what it has been offered. -/
theorem lists_insert {seen : List Text} {s : NoticeSet} (h : Lists seen s.texts) (t : Text) :
    Lists (seen ++ [t]) (s.insert t).1.texts := by
  rw [NoticeSet.texts_insert]
  split
  · rename_i ht
    exact h.append_seen ((h.mem_iff t).mp ht)
  · rename_i ht
    exact h.append_new fun hseen => ht ((h.mem_iff t).mpr hseen)

theorem insert_of_mem {s : NoticeSet} {t : Text} (h : t ∈ s.texts) : s.insert t = (s, .merge) := by
  unfold NoticeSet.insert
  rw [dif_pos h]

theorem operation_insert_eq_add_iff (s : NoticeSet) (t : Text) :
    (s.insert t).2 = .add ↔ t ∉ s.texts := by
  unfold NoticeSet.insert
  split <;> simp_all

/-- The event that the group leaves behind when it is added to the set. -/
def matchEvent (s : NoticeSet) (file : String) (g : CommentGroup) (hg : g ≠ []) : MatchEvent where
  file := file
  line := (g.head hg).line
  column := (g.head hg).column + 1
  preview := Text.preview g.text
  operation := (s.insert g.text).2

theorem aggregate_cons (s : NoticeSet) (file : String) {g : CommentGroup} (hg : g ≠ [])
    (rest : List CommentGroup) :
    s.aggregate file (g :: rest) =
      (((s.insert g.text).1.aggregate file rest).1,
        ((s.insert g.text).1.aggregate file rest).2.map (matchEvent s file g hg :: ·)) := by
  cases g with
  | nil => exact absurd rfl hg
  | cons first others => rfl

/-- Groups that hold comments are aggregated without a fault. -/
theorem aggregate_ok (s : NoticeSet) (file : String) {groups : List CommentGroup}
    (hne : ∀ g ∈ groups, g ≠ []) : ∃ events, (s.aggregate file groups).2 = .ok events := by
  induction groups generalizing s with
  | nil => exact ⟨[], rfl⟩
  | cons g rest ih =>
    have hg : g ≠ [] := hne g (by simp)
    obtain ⟨events, hrest⟩ := ih (s.insert g.text).1 fun h hh => hne h (by simp [hh])
    refine ⟨matchEvent s file g hg :: events, ?_⟩
    rw [aggregate_cons s file hg, hrest]
    rfl

/-- The set when the texts of groups have been inserted one after the other. -/
def insertAll (s : NoticeSet) (groups : List CommentGroup) : NoticeSet :=
  groups.foldl (fun s g => (s.insert g.text).1) s

theorem insertAll_append (s : NoticeSet) (gs hs : List CommentGroup) :
    insertAll s (gs ++ hs) = insertAll (insertAll s gs) hs := List.foldl_append

theorem lists_insertAll {seen : List Text} {s : NoticeSet} (h : Lists seen s.texts)
    (groups : List CommentGroup) :
    Lists (seen ++ groups.map CommentGroup.text) (insertAll s groups).texts := by
  induction groups generalizing s seen with
  | nil => simpa [insertAll] using h
  | cons g rest ih =>
    have hrest := ih (lists_insert h g.text)
    rwa [List.append_assoc] at hrest

/-- Insertions put texts behind those that are there. -/
theorem prefix_insertAll (s : NoticeSet) (groups : List CommentGroup) :
    s.texts <+: (insertAll s groups).texts := by
  induction groups generalizing s with
  | nil => exact List.prefix_refl _
  | cons g rest ih =>
    refine List.IsPrefix.trans ?_ (ih (s.insert g.text).1)
    rw [NoticeSet.texts_insert]
    split
    · exact List.prefix_refl _
    · exact List.prefix_append _ _

theorem aggregate_fst (s : NoticeSet) (file : String) {groups : List CommentGroup}
    (hne : ∀ g ∈ groups, g ≠ []) : (s.aggregate file groups).1 = insertAll s groups := by
  induction groups generalizing s with
  | nil => rfl
  | cons g rest ih =>
    obtain ⟨hg, hrest⟩ := List.forall_mem_cons.mp hne
    rw [aggregate_cons s file hg]
    exact ih _ hrest

theorem lists_aggregate {seen : List Text} {s : NoticeSet} (h : Lists seen s.texts)
    (file : String) {groups : List CommentGroup} (hne : ∀ g ∈ groups, g ≠ []) :
    Lists (seen ++ groups.map CommentGroup.text) (s.aggregate file groups).1.texts := by
  rw [aggregate_fst s file hne]
  exact lists_insertAll h groups

/-- The events that the groups of a file leave behind, if all of them hold comments. -/
def eventsOf (set : NoticeSet) (file : String) (groups : List CommentGroup) : List MatchEvent :=
  match (set.aggregate file groups).2 with
  | .ok events => events
  | .error _ => []

theorem eventsOf_cons (set : NoticeSet) (file : String) {group : CommentGroup} (hgroup : group ≠ [])
    {rest : List CommentGroup} (hrest : ∀ h ∈ rest, h ≠ []) :
    eventsOf set file (group :: rest) =
      matchEvent set file group hgroup :: eventsOf (set.insert group.text).1 file rest := by
  obtain ⟨events, hevents⟩ := aggregate_ok (set.insert group.text).1 file hrest
  simp only [eventsOf, aggregate_cons set file hgroup, hevents]
  rfl

theorem aggregate_eq (set : NoticeSet) (file : String) {groups : List CommentGroup}
    (hne : ∀ g ∈ groups, g ≠ []) :
    set.aggregate file groups =
      ((set.aggregate file groups).1, .ok (eventsOf set file groups)) := by
  obtain ⟨events, hevents⟩ := aggregate_ok set file hne
  refine Prod.ext rfl ?_
  simp only [eventsOf, hevents]

/-- Groups whose texts have all been seen are merged. -/
theorem merge_of_mem_eventsOf {s : NoticeSet} {file : String} {groups : List CommentGroup}
    (hne : ∀ g ∈ groups, g ≠ []) (hseen : ∀ g ∈ groups, g.text ∈ s.texts) {e : MatchEvent}
    (he : e ∈ eventsOf s file groups) : e.operation = .merge := by
  induction groups with
  | nil => cases he
  | cons g rest ih =>
    obtain ⟨hg, hrest⟩ := List.forall_mem_cons.mp hne
    obtain ⟨hfirst, hlater⟩ := List.forall_mem_cons.mp hseen
    rw [eventsOf_cons s file hg hrest, insert_of_mem hfirst] at he
    rcases List.mem_cons.mp he with rfl | he
    · rw [matchEvent, insert_of_mem hfirst]
    · exact ih hrest hlater he

/-- Every event is left behind by a group of the file. -/
theorem exists_of_mem_eventsOf {set : NoticeSet} {file : String} {groups : List CommentGroup}
    (hne : ∀ g ∈ groups, g ≠ []) {e : MatchEvent} (he : e ∈ eventsOf set file groups) :
    ∃ g hg before, e = matchEvent before file g hg := by
  induction groups generalizing set with
  | nil => cases he
  | cons g rest ih =>
    obtain ⟨hg, hrest⟩ := List.forall_mem_cons.mp hne
    rw [eventsOf_cons set file hg hrest] at he
    rcases List.mem_cons.mp he with rfl | he
    · exact ⟨g, hg, set, rfl⟩
    · exact ih hrest he

/-- The groups of a file leave one event each, in order. -/
theorem forall₂_eventsOf (set : NoticeSet) (file : String) {groups : List CommentGroup}
    (hne : ∀ g ∈ groups, g ≠ []) :
    List.Forall₂ (fun e g => ∃ (hg : g ≠ []) (before : NoticeSet), e = matchEvent before file g hg)
      (eventsOf set file groups) groups := by
  induction groups generalizing set with
  | nil => exact .nil
  | cons group rest ih =>
    have hrest : ∀ g ∈ rest, g ≠ [] := fun g hg => hne g (List.mem_cons_of_mem group hg)
    rw [eventsOf_cons set file (hne group (by simp)) hrest]
    exact .cons ⟨hne group (by simp), set, rfl⟩ (ih _ hrest)

end LicenseNotices.FirstSeen
