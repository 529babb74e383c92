import LicenseNotices.Document.Value
import Mathlib.Data.Int.Notation
import Mathlib.Data.Nat.Notation

/-!
Which values have no text. A number with too many digits has none, nor has anything that stands
inside too many lists and tables, and a value that holds such a thing has none either.
-/
namespace LicenseNotices.ValueNesting

open Document

/-- A value stands in the first one, inside so many lists and tables. -/
inductive Holds : Value → ℕ → Value → Prop
  | self (v : Value) : Holds v 0 v
  | item {items : List Value} {v w : Value} {k : ℕ} (hv : v ∈ items) (h : Holds v k w) :
      Holds (.list items) (k + 1) w
  | entry {entries : Entries} {key : Text} {v w : Value} {k : ℕ} (hv : (key, v) ∈ entries)
      (h : Holds v k w) : Holds (.table entries) (k + 1) w

section

variable [NestingLimits]

/-- What shows in a value inside `depth` others that has no text. -/
inductive ShowsFault (depth : ℕ) (v : Value) : Value.TextFault → Prop
  | tooManyDigits {k : ℕ} {n : ℤ} (h : Holds v k (.integer n))
      (hdigits : Nat.pow 10 Text.integerDigitLimit ≤ n.natAbs) : ShowsFault depth v .tooManyDigits
  | tooDeep {k : ℕ} {w : Value} (h : Holds v (k + 1) w)
      (hdepth : NestingLimits.shown < depth + (k + 1)) : ShowsFault depth v .tooDeep

variable {depth : ℕ} {v : Value} {fault : Value.TextFault}

theorem ShowsFault.list {items : List Value} (hv : v ∈ items) (h : ShowsFault (depth + 1) v fault) :
    ShowsFault depth (.list items) fault := by
  cases h with
  | tooManyDigits h hdigits => exact .tooManyDigits (.item hv h) hdigits
  | tooDeep h hdepth => exact .tooDeep (.item hv h) (by omega)

theorem ShowsFault.table {entries : Entries} {key : Text} (hv : (key, v) ∈ entries)
    (h : ShowsFault (depth + 1) v fault) : ShowsFault depth (.table entries) fault := by
  cases h with
  | tooManyDigits h hdigits => exact .tooManyDigits (.entry hv h) hdigits
  | tooDeep h hdepth => exact .tooDeep (.entry hv h) (by omega)

theorem entriesFault?_eq (depth : ℕ) (entries : Entries) :
    Value.entriesFault? depth entries = Value.itemsFault? depth (entries.map Prod.snd) := by
  induction entries with
  | nil => rw [List.map_nil, Value.entriesFault?, Value.itemsFault?]
  | cons entry rest ih => rw [List.map_cons, Value.entriesFault?, Value.itemsFault?, ih]

theorem exists_item_of_itemsFault? {items : List Value}
    (h : Value.itemsFault? depth items = some fault) :
    ∃ v ∈ items, (NestingLimits.shown < depth ∧ fault = .tooDeep) ∨
      v.textFault? depth = some fault := by
  induction items with
  | nil => simp [Value.itemsFault?] at h
  | cons v rest ih =>
    rw [Value.itemsFault?] at h
    split at h
    · rename_i hdepth
      exact ⟨v, List.mem_cons_self, .inl ⟨hdepth, (Option.some.inj h).symm⟩⟩
    · rcases Option.or_eq_some_iff.mp h with hv | ⟨-, hrest⟩
      · exact ⟨v, List.mem_cons_self, .inr hv⟩
      · obtain ⟨w, hw, hfault⟩ := ih hrest
        exact ⟨w, List.mem_cons_of_mem v hw, hfault⟩

/-- What stands in the way of a text shows in the value. -/
theorem showsFault_of_textFault? (h : v.textFault? depth = some fault) :
    ShowsFault depth v fault := by
  -- The values inside a value are smaller.
  induction hsize : sizeOf v using Nat.strongRecOn generalizing depth v with
  | ind size ih =>
    subst hsize
    cases v with
    | integer n =>
      rw [Value.textFault?] at h
      split at h
      · cases h
        exact .tooManyDigits (.self _) ‹_›
      · cases h
    | list items =>
      rw [Value.textFault?] at h
      obtain ⟨v, hv, hfault⟩ := exists_item_of_itemsFault? h
      rcases hfault with ⟨hdepth, rfl⟩ | hfault
      · exact .tooDeep (.item hv (.self v)) hdepth
      · have hsize : sizeOf v < sizeOf (Value.list items) := by
          have hitem := List.sizeOf_lt_of_mem hv
          simp only [Value.list.sizeOf_spec]
          omega
        exact .list hv (ih _ hsize hfault rfl)
    | table entries =>
      rw [Value.textFault?, entriesFault?_eq] at h
      obtain ⟨v, hitem, hfault⟩ := exists_item_of_itemsFault? h
      obtain ⟨⟨key, v⟩, hv, rfl⟩ := List.mem_map.mp hitem
      rcases hfault with ⟨hdepth, rfl⟩ | hfault
      · exact .tooDeep (.entry hv (.self v)) hdepth
      · have hsize : sizeOf v < sizeOf (Value.table entries) := by
          have hentry := List.sizeOf_lt_of_mem hv
          simp only [Prod.mk.sizeOf_spec, Value.table.sizeOf_spec] at hentry ⊢
          omega
        exact .table hv (ih _ hsize hfault rfl)
    | _ => simp [Value.textFault?] at h

theorem le_shown_of_itemsFault? {items : List Value} (h : Value.itemsFault? depth items = none)
    (hv : v ∈ items) : depth ≤ NestingLimits.shown ∧ v.textFault? depth = none := by
  induction items with
  | nil => cases hv
  | cons w rest ih =>
    rw [Value.itemsFault?] at h
    split at h
    · cases h
    · rename_i hdepth
      obtain ⟨hw, hrest⟩ := Option.or_eq_none_iff.mp h
      rcases List.mem_cons.mp hv with rfl | hv
      · exact ⟨Nat.le_of_not_lt hdepth, hw⟩
      · exact ih hrest hv

/-- Nothing that stands in a value with a text stands in the way of it. -/
theorem textFault?_of_holds {v w : Value} {k : ℕ} (h : Holds v k w) {depth : ℕ}
    (hv : v.textFault? depth = none) :
    w.textFault? (depth + k) = none ∧ (0 < k → depth + k ≤ NestingLimits.shown) := by
  induction h generalizing depth with
  | self v => exact ⟨hv, fun hk => absurd hk (Nat.lt_irrefl 0)⟩
  | @item items v w k hmem h ih =>
    rw [Value.textFault?] at hv
    obtain ⟨hdepth, hv⟩ := le_shown_of_itemsFault? hv hmem
    obtain ⟨hw, hle⟩ := ih hv
    rw [← Nat.add_comm 1 k, ← Nat.add_assoc]
    exact ⟨hw, fun _ => by omega⟩
  | @entry entries key v w k hmem h ih =>
    rw [Value.textFault?, entriesFault?_eq] at hv
    obtain ⟨hdepth, hv⟩ := le_shown_of_itemsFault? hv (List.mem_map_of_mem hmem)
    obtain ⟨hw, hle⟩ := ih hv
    rw [← Nat.add_comm 1 k, ← Nat.add_assoc]
    exact ⟨hw, fun _ => by omega⟩

/-- A value has no text just when something in it stands in the way. -/
theorem textFault?_isSome_iff (depth : ℕ) (v : Value) :
    (v.textFault? depth).isSome = true ↔ ∃ fault, ShowsFault depth v fault := by
  constructor
  · intro h
    obtain ⟨fault, hfault⟩ := Option.isSome_iff_exists.mp h
    exact ⟨fault, showsFault_of_textFault? hfault⟩
  · rintro ⟨fault, hfault⟩
    cases hnone : v.textFault? depth with
    | some fault => rfl
    | none =>
      cases hfault with
      | tooManyDigits h hdigits =>
        obtain ⟨hn, -⟩ := textFault?_of_holds h hnone
        rw [Value.textFault?, if_pos hdigits] at hn
        cases hn
      | tooDeep h hdepth =>
        obtain ⟨-, hle⟩ := textFault?_of_holds h hnone
        have hshown := hle (Nat.succ_pos _)
        omega

end

end LicenseNotices.ValueNesting
