import LicenseNotices.NoticeMatcher
import LicenseNotices.Proofs.FirstSeen
import LicenseNotices.Proofs.Results
import Mathlib.Data.List.Forall2

/-!
Groups that are offered to one set, file by file. Every group leaves one event behind, which
tells whether its text was new among everything that was offered before it, for the same file
or for an earlier one. At every moment the set lists the texts that were new, in order. Groups
that a matcher has kept hold comments, so none of them stops a file.
-/
namespace LicenseNotices.GroupOffers

open FirstSeen Results

/-- The groups of a file, to be added to a set. -/
structure Offer where
  file : String
  groups : List CommentGroup

/-- Adds the groups of one file after the other. What is left behind by a file does not
depend on how the files before it ended. -/
def offerAll (s : NoticeSet) :
    List Offer → NoticeSet × List (Except NoticeSet.AggregateFault (List MatchEvent))
  | [] => (s, [])
  | offer :: rest =>
      let (s, result) := s.aggregate offer.file offer.groups
      let (s, results) := offerAll s rest
      (s, result :: results)

def allGroups (offers : List Offer) : List CommentGroup := offers.flatMap Offer.groups

theorem allGroups_cons (offer : Offer) (rest : List Offer) :
    allGroups (offer :: rest) = offer.groups ++ allGroups rest := List.flatMap_cons

/-- The offers up to their first `n` groups. The file in which the last of these groups stands
is cut short, and of the files behind it nothing is left. -/
def firstGroups : ℕ → List Offer → List Offer
  | _, [] => []
  | n, offer :: rest =>
      { offer with groups := offer.groups.take n } :: firstGroups (n - offer.groups.length) rest

/-- The set at the moment at which the first `n` groups have been added. -/
def heldAt (offers : List Offer) (n : ℕ) : NoticeSet := (offerAll .empty (firstGroups n offers)).1

/-- The event tells the file of a group, the place of its first comment and the beginning of
its text. -/
structure Tells (file : String) (g : CommentGroup) (e : MatchEvent) : Prop where
  file_eq : e.file = file
  place_eq : ∃ first ∈ g.head?, e.line = first.line ∧ e.column = first.column + 1
  preview_eq : e.preview = Text.preview g.text

/-- The texts of the groups whose event adds them. -/
def addedTexts (groups : List CommentGroup) (events : List MatchEvent) : List Text :=
  ((groups.zip events).filter fun entry => entry.2.operation = .add).map fun entry => entry.1.text

/-- The parts of the events that are left behind, one part for each file. -/
def eventParts (s : NoticeSet) : List Offer → List (List MatchEvent)
  | [] => []
  | offer :: rest =>
      eventsOf s offer.file offer.groups :: eventParts (insertAll s offer.groups) rest

theorem offerAll_eq (s : NoticeSet) {offers : List Offer}
    (hne : ∀ offer ∈ offers, ∀ g ∈ offer.groups, g ≠ []) :
    offerAll s offers = (insertAll s (allGroups offers), (eventParts s offers).map .ok) := by
  induction offers generalizing s with
  | nil => rfl
  | cons offer rest ih =>
    obtain ⟨hoffer, hrest⟩ := List.forall_mem_cons.mp hne
    rw [offerAll, aggregate_eq s offer.file hoffer, aggregate_fst s offer.file hoffer]
    dsimp only
    rw [ih _ hrest, allGroups_cons, insertAll_append]
    rfl

theorem allGroups_firstGroups (n : ℕ) (offers : List Offer) :
    allGroups (firstGroups n offers) = (allGroups offers).take n := by
  induction offers generalizing n with
  | nil => simp [allGroups, firstGroups]
  | cons offer rest ih =>
    rw [firstGroups, allGroups_cons, allGroups_cons, ih, List.take_append]

theorem ne_nil_of_mem_firstGroups {n : ℕ} {offers : List Offer}
    (hne : ∀ offer ∈ offers, ∀ g ∈ offer.groups, g ≠ []) :
    ∀ offer ∈ firstGroups n offers, ∀ g ∈ offer.groups, g ≠ [] := by
  intro offer hoffer g hg
  have hmem : g ∈ allGroups (firstGroups n offers) := List.mem_flatMap.mpr ⟨offer, hoffer, hg⟩
  rw [allGroups_firstGroups] at hmem
  obtain ⟨whole, hwhole, hg⟩ := List.mem_flatMap.mp (List.mem_of_mem_take hmem)
  exact hne whole hwhole g hg

theorem heldAt_eq {offers : List Offer} (hne : ∀ offer ∈ offers, ∀ g ∈ offer.groups, g ≠ [])
    (n : ℕ) : heldAt offers n = insertAll .empty ((allGroups offers).take n) := by
  rw [heldAt, offerAll_eq _ (ne_nil_of_mem_firstGroups hne), allGroups_firstGroups]

theorem tells_matchEvent (s : NoticeSet) (file : String) (g : CommentGroup) (hg : g ≠ []) :
    Tells file g (matchEvent s file g hg) :=
  ⟨rfl, ⟨g.head hg, List.head?_eq_some_head hg, rfl, rfl⟩, rfl⟩

theorem forall₂_tells (s : NoticeSet) {offers : List Offer}
    (hne : ∀ offer ∈ offers, ∀ g ∈ offer.groups, g ≠ []) :
    List.Forall₂ (fun offer part => List.Forall₂ (Tells offer.file) offer.groups part) offers
      (eventParts s offers) := by
  induction offers generalizing s with
  | nil => exact .nil
  | cons offer rest ih =>
    obtain ⟨hoffer, hrest⟩ := List.forall_mem_cons.mp hne
    refine .cons (List.Forall₂.flip (forall₂_eventsOf s offer.file hoffer) |>.imp ?_) (ih _ hrest)
    rintro g e ⟨hg, before, rfl⟩
    exact tells_matchEvent before offer.file g hg

/-- The operations by which groups are added one after the other. -/
def operationsFrom (s : NoticeSet) : List CommentGroup → List MatchOperation
  | [] => []
  | g :: rest => (s.insert g.text).2 :: operationsFrom (s.insert g.text).1 rest

theorem operationsFrom_append (s : NoticeSet) (gs hs : List CommentGroup) :
    operationsFrom s (gs ++ hs) = operationsFrom s gs ++ operationsFrom (insertAll s gs) hs := by
  induction gs generalizing s with
  | nil => rfl
  | cons g rest ih => simp only [List.cons_append, operationsFrom, ih, insertAll, List.foldl_cons]

theorem length_operationsFrom (s : NoticeSet) (groups : List CommentGroup) :
    (operationsFrom s groups).length = groups.length := by
  induction groups generalizing s with
  | nil => rfl
  | cons g rest ih => simp only [operationsFrom, List.length_cons, ih]

/-- The first groups are added by the first operations. -/
theorem operationsFrom_take (s : NoticeSet) (groups : List CommentGroup) (n : ℕ) :
    operationsFrom s (groups.take n) = (operationsFrom s groups).take n := by
  induction groups generalizing s n with
  | nil => simp [operationsFrom]
  | cons g rest ih =>
    cases n with
    | zero => rfl
    | succ n => simp only [List.take_succ_cons, operationsFrom, ih]

theorem map_operation_eventsOf (s : NoticeSet) (file : String) {groups : List CommentGroup}
    (hne : ∀ g ∈ groups, g ≠ []) :
    (eventsOf s file groups).map MatchEvent.operation = operationsFrom s groups := by
  induction groups generalizing s with
  | nil => rfl
  | cons g rest ih =>
    obtain ⟨hg, hrest⟩ := List.forall_mem_cons.mp hne
    rw [eventsOf_cons s file hg hrest, List.map_cons, ih _ hrest]
    rfl

theorem map_operation_eventParts (s : NoticeSet) {offers : List Offer}
    (hne : ∀ offer ∈ offers, ∀ g ∈ offer.groups, g ≠ []) :
    (eventParts s offers).flatten.map MatchEvent.operation =
      operationsFrom s (allGroups offers) := by
  induction offers generalizing s with
  | nil => rfl
  | cons offer rest ih =>
    obtain ⟨hoffer, hrest⟩ := List.forall_mem_cons.mp hne
    rw [eventParts, List.flatten_cons, List.map_append, map_operation_eventsOf s _ hoffer,
      ih _ hrest, allGroups_cons, operationsFrom_append]

theorem heldAt_succ {offers : List Offer} (hne : ∀ offer ∈ offers, ∀ g ∈ offer.groups, g ≠ [])
    {n : ℕ} {g : CommentGroup} (hg : (allGroups offers)[n]? = some g) :
    heldAt offers (n + 1) = ((heldAt offers n).insert g.text).1 := by
  rw [heldAt_eq hne, heldAt_eq hne, List.take_add_one, hg, insertAll_append]
  rfl

theorem lists_heldAt {offers : List Offer} (hne : ∀ offer ∈ offers, ∀ g ∈ offer.groups, g ≠ [])
    (n : ℕ) :
    Lists (((allGroups offers).take n).map CommentGroup.text) (heldAt offers n).texts := by
  have hempty : Lists [] NoticeSet.empty.texts := Lists.nil
  rw [heldAt_eq hne]
  exact lists_insertAll hempty _

/-- A group is added by the operation that inserts its text into what is held then. -/
theorem getElem?_operationsFrom (s : NoticeSet) (groups : List CommentGroup) (n : ℕ) :
    (operationsFrom s groups)[n]? =
      groups[n]?.map fun g => ((insertAll s (groups.take n)).insert g.text).2 := by
  induction groups generalizing s n with
  | nil => simp [operationsFrom]
  | cons g rest ih =>
    cases n with
    | zero => rfl
    | succ n => exact ih (s.insert g.text).1 n

/-- What is held when groups have been added to the empty set are the texts that were new. -/
theorem texts_insertAll (s : NoticeSet) {groups : List CommentGroup} {events : List MatchEvent}
    (h : events.map MatchEvent.operation = operationsFrom s groups) :
    (insertAll s groups).texts = s.texts ++ addedTexts groups events := by
  induction groups generalizing s events with
  | nil => simp [insertAll, addedTexts]
  | cons g rest ih =>
    obtain ⟨e, later, rfl, hop, hlater⟩ := List.map_eq_cons_iff.mp h
    have hrest := ih (s.insert g.text).1 hlater
    have hinsert := NoticeSet.texts_insert s g.text
    have hadd := operation_insert_eq_add_iff s g.text
    rw [← hop] at hadd
    rw [show insertAll s (g :: rest) = insertAll (s.insert g.text).1 rest from rfl, hrest, hinsert]
    split
    · rename_i hmem
      have hmerge : ¬ e.operation = .add := fun heq => hadd.mp heq hmem
      simp [addedTexts, hmerge]
    · rename_i hmem
      simp [addedTexts, hadd.mpr hmem]

theorem length_addedTexts {groups : List CommentGroup} {events : List MatchEvent}
    (h : groups.length = events.length) :
    (addedTexts groups events).length = events.countP (·.operation = .add) := by
  induction groups generalizing events with
  | nil =>
    obtain rfl := List.length_eq_zero_iff.mp h.symm
    rfl
  | cons g rest ih =>
    cases events with
    | nil => cases h
    | cons e later =>
      have hrest := ih (Nat.succ.inj h)
      by_cases hadd : e.operation = .add
      · simpa [addedTexts, hadd] using hrest
      · simpa [addedTexts, hadd] using hrest

theorem acceptsGroup_ok {accepts : NoticeMatcher} {g : CommentGroup}
    (h : ∀ c ∈ g, ∃ b, accepts c.text = .ok b) : ∃ b, accepts.acceptsGroup g = .ok b := by
  rw [NoticeMatcher.acceptsGroup]
  induction g with
  | nil => exact ⟨false, rfl⟩
  | cons c rest ih =>
    obtain ⟨⟨b, hb⟩, hrest⟩ := List.forall_mem_cons.mp h
    rw [List.map_cons, acceptsAny, hb, ok_bind]
    cases b with
    | true => exact ⟨true, rfl⟩
    | false => exact ih hrest

/-- A matcher that can be asked about every comment keeps groups that hold comments only. -/
theorem filterGroups_ok {accepts : NoticeMatcher} {groups : List CommentGroup}
    (h : ∀ g ∈ groups, ∀ c ∈ g, ∃ b, accepts c.text = .ok b) :
    ∃ kept, accepts.filterGroups groups = .ok kept ∧ ∀ g ∈ kept, g ≠ [] := by
  induction groups with
  | nil => exact ⟨[], rfl, by simp⟩
  | cons g rest ih =>
    obtain ⟨hg, hrest⟩ := List.forall_mem_cons.mp h
    obtain ⟨b, hb⟩ := acceptsGroup_ok hg
    obtain ⟨kept, hkept, hne⟩ := ih hrest
    rw [NoticeMatcher.filterGroups, hb, hkept, ok_bind, ok_bind]
    cases b with
    | false => exact ⟨kept, rfl, hne⟩
    | true =>
      refine ⟨g :: kept, rfl, List.forall_mem_cons.mpr ⟨?_, hne⟩⟩
      rintro rfl
      cases hb

/-- An event tells how the text of its group was added to what was held before. -/
theorem operation_eq {offers : List Offer} (hne : ∀ offer ∈ offers, ∀ g ∈ offer.groups, g ≠ [])
    {n : ℕ} {g : CommentGroup} {e : MatchEvent} (hg : (allGroups offers)[n]? = some g)
    (he : (eventParts .empty offers).flatten[n]? = some e) :
    e.operation = ((heldAt offers n).insert g.text).2 := by
  have hget := getElem?_operationsFrom .empty (allGroups offers) n
  rw [← map_operation_eventParts .empty hne, List.getElem?_map, he, hg, ← heldAt_eq hne] at hget
  exact Option.some.inj hget

/-- What is held are the texts whose events add them. -/
theorem texts_heldAt {offers : List Offer} (hne : ∀ offer ∈ offers, ∀ g ∈ offer.groups, g ≠ [])
    (n : ℕ) :
    (heldAt offers n).texts =
      addedTexts ((allGroups offers).take n) ((eventParts .empty offers).flatten.take n) := by
  have hfirst : ((eventParts .empty offers).flatten.take n).map MatchEvent.operation =
      operationsFrom .empty ((allGroups offers).take n) := by
    rw [List.map_take, map_operation_eventParts .empty hne, operationsFrom_take]
  rw [heldAt_eq hne, texts_insertAll .empty hfirst]
  rfl

/-- Groups that hold comments leave one event each, in order. An event adds exactly when its
text differs from those of all groups before, and at every moment the set holds the texts that
were added; after an event that merges it is as it was. Whatever a matcher keeps of any groups
can be added. -/
theorem offers_are_added_once (offers : List Offer)
    (hne : ∀ offer ∈ offers, ∀ g ∈ offer.groups, g ≠ []) :
    (∃ parts : List (List MatchEvent), (offerAll .empty offers).2 = parts.map .ok ∧
      List.Forall₂ (fun offer part => List.Forall₂ (Tells offer.file) offer.groups part) offers
        parts ∧
      (∀ n g e, (allGroups offers)[n]? = some g → parts.flatten[n]? = some e →
        (e.operation = .add ↔ ∀ earlier ∈ (allGroups offers).take n, g.text ≠ earlier.text) ∧
        heldAt offers (n + 1) = ((heldAt offers n).insert g.text).1 ∧
        (e.operation = .merge → (heldAt offers (n + 1)).texts = (heldAt offers n).texts ∧
          (heldAt offers (n + 1)).render = (heldAt offers n).render)) ∧
      (offerAll .empty offers).1 = heldAt offers (allGroups offers).length ∧
      ∀ n, (heldAt offers n).texts =
          addedTexts ((allGroups offers).take n) (parts.flatten.take n) ∧
        (heldAt offers n).texts.Nodup ∧
        (heldAt offers n).size = (parts.flatten.take n).countP (·.operation = .add) ∧
        ∀ t, (heldAt offers n).contains t = true ↔
          ∃ g ∈ (allGroups offers).take n, g.text = t) ∧
    ∀ (accepts : NoticeMatcher) (groups : List CommentGroup),
      (∀ g ∈ groups, ∀ c ∈ g, ∃ b, accepts c.text = .ok b) →
      ∃ kept, accepts.filterGroups groups = .ok kept ∧
        ∀ (s : NoticeSet) (file : String), ∃ events, (s.aggregate file kept).2 = .ok events := by
  have hlength : (allGroups offers).length = (eventParts .empty offers).flatten.length := by
    rw [← List.length_map (f := MatchEvent.operation), map_operation_eventParts .empty hne,
      length_operationsFrom]
  refine ⟨⟨eventParts .empty offers, ?_, forall₂_tells .empty hne, ?_, ?_, ?_⟩, ?_⟩
  · rw [offerAll_eq _ hne]
  · intro n g e hg he
    have hop := operation_eq hne hg he
    refine ⟨?_, heldAt_succ hne hg, fun hmerge => ?_⟩
    · rw [hop, operation_insert_eq_add_iff, (lists_heldAt hne n).mem_iff, List.mem_map]
      exact ⟨fun hnew earlier hmem heq => hnew ⟨earlier, hmem, heq.symm⟩,
        fun hnew ⟨earlier, hmem, heq⟩ => hnew earlier hmem heq.symm⟩
    · have hmem : g.text ∈ (heldAt offers n).texts := by
        by_contra hnew
        rw [(operation_insert_eq_add_iff _ _).mpr hnew] at hop
        rw [hop] at hmerge
        cases hmerge
      rw [heldAt_succ hne hg, insert_of_mem hmem]
      exact ⟨rfl, rfl⟩
  · rw [offerAll_eq _ hne, heldAt_eq hne, List.take_length]
  · intro n
    have htexts := texts_heldAt hne n
    refine ⟨htexts, (heldAt offers n).nodup, ?_, fun t => ?_⟩
    · rw [NoticeSet.size, htexts]
      exact length_addedTexts (by rw [List.length_take, List.length_take, hlength])
    · rw [NoticeSet.contains, List.contains_iff_mem, (lists_heldAt hne n).mem_iff, List.mem_map]
  · intro accepts groups hasked
    obtain ⟨kept, hkept, hkeptNe⟩ := filterGroups_ok hasked
    exact ⟨kept, hkept, fun s file => aggregate_ok s file hkeptNe⟩

/-- A block and, in another file, two lines with the text of the block and a block of its own. -/
def sampleOffers : List Offer := [
  { file := "a", groups := [[{ kind := .block, text := ['x', '\n', 'y'], line := 1 }]] },
  { file := "b", groups := [
      [{ kind := .line, text := ['x'], line := 1 }, { kind := .line, text := ['y'], line := 2 }],
      [{ kind := .block, text := ['z'], line := 4 }]] }]

theorem sample_offers_are_added_once :
    (∃ parts : List (List MatchEvent), (offerAll .empty sampleOffers).2 = parts.map .ok ∧
      parts.flatten.map MatchEvent.operation = [.add, .merge, .add] ∧
      (heldAt sampleOffers 2).texts = [['x', '\n', 'y']] ∧
      (heldAt sampleOffers 3).size = parts.flatten.countP (·.operation = .add)) ∧
    ∃ kept, (NoticeMatcher.ofPredicate fun _ => true).filterGroups [[], []] = .ok kept ∧
      ∃ events, (NoticeSet.empty.aggregate "a" kept).2 = .ok events := by
  have hne : ∀ offer ∈ sampleOffers, ∀ g ∈ offer.groups, g ≠ [] := by decide
  obtain ⟨⟨parts, hparts, -, -, -, hheld⟩, hkept⟩ := offers_are_added_once sampleOffers hne
  obtain rfl : parts = eventParts .empty sampleOffers := by
    rw [offerAll_eq _ hne] at hparts
    exact List.map_injective_iff.mpr (fun _ _ h => Except.ok.inj h) hparts.symm
  refine ⟨⟨_, hparts, by decide, by decide, (hheld 3).2.2.1⟩, ?_⟩
  obtain ⟨kept, hkept, hall⟩ := hkept (.ofPredicate fun _ => true) [[], []] (by simp)
  exact ⟨kept, hkept, hall .empty "a"⟩

end LicenseNotices.GroupOffers
