import LicenseNotices.Document.Value
import LicenseNotices.Grammar
import Mathlib.Data.Int.Notation
import Mathlib.Data.List.Basic

/-!
How the texts of values begin. A value that is not itself a text begins with a digit, a sign, a
bracket or one of the few letters that begin words for values. So the text of a value that is
given is not empty, and only a text is the name of a grammar.
-/
namespace LicenseNotices.ValueTexts

open Document

/-- A character with which the text of a value begins that is not itself a text. -/
def IsLead (c : Char) : Prop := c.isDigit = true ∨ c ∈ ['-', '[', '\x7b', 'N', 'T', 'F', 'n', 'i']

instance (c : Char) : Decidable (IsLead c) := inferInstanceAs (Decidable (_ ∨ _))

def Begins (t : Text) : Prop := ∃ c ∈ t.head?, IsLead c

theorem begins_cons {c : Char} (h : IsLead c) (t : Text) : Begins (c :: t) := ⟨c, rfl, h⟩

theorem Begins.append {s : Text} (h : Begins s) (t : Text) : Begins (s ++ t) := by
  obtain ⟨c, hc, hlead⟩ := h
  obtain ⟨rest, rfl⟩ := List.head?_eq_some_iff.mp hc
  exact begins_cons hlead (rest ++ t)

theorem begins_digits (n : ℕ) : Begins (Nat.toDigits 10 n) := by
  obtain ⟨c, rest, hdigits⟩ := List.exists_cons_of_ne_nil (Nat.toDigits_ne_nil (n := n) (b := 10))
  have hdigit : c.isDigit = true :=
    Nat.isDigit_of_mem_toDigits (b := 10) (n := n) (by decide) (by decide) (by simp [hdigits])
  rw [hdigits]
  exact begins_cons (.inl hdigit) rest

theorem begins_integer (n : ℤ) : Begins (toString n).toList := by
  cases n with
  | ofNat m =>
    change Begins (Nat.repr m).toList
    rw [Nat.toList_repr]
    exact begins_digits m
  | negSucc m =>
    change Begins ("-" ++ Nat.repr (m + 1)).toList
    rw [String.toList_append]
    exact begins_cons (by decide) _

theorem begins_signed (negative : Bool) {t : Text} (h : Begins t) :
    Begins (Binary64.signed negative t) := by
  cases negative with
  | false => exact h
  | true => exact begins_cons (by decide) t

theorem begins_positional {digits : Text} (h : Begins digits) (point : ℤ) :
    Begins (Binary64.positional digits point) := by
  rw [Binary64.positional]
  split
  · exact begins_cons (by decide) _
  · dsimp only
    split
    · rw [List.append_assoc]
      exact h.append _
    · rename_i hpoint _
      obtain ⟨c, hc, hlead⟩ := h
      obtain ⟨rest, rfl⟩ := List.head?_eq_some_iff.mp hc
      obtain ⟨k, hk⟩ : ∃ k, point.toNat = k + 1 := Nat.exists_eq_add_one.mpr (by omega)
      rw [hk, List.take_succ_cons]
      exact begins_cons hlead _

theorem begins_scientific {digits : Text} (h : Begins digits) (exponent : ℤ) :
    Begins (Binary64.scientific digits exponent) := by
  obtain ⟨c, hc, hlead⟩ := h
  obtain ⟨rest, rfl⟩ := List.head?_eq_some_iff.mp hc
  cases rest with
  | nil => exact begins_cons hlead _
  | cons d rest => exact begins_cons hlead _

theorem begins_float (x : Binary64) : Begins x.shortestText := by
  rw [Binary64.shortestText]
  split
  · exact begins_cons (by decide) _
  · exact begins_signed _ (begins_cons (by decide) _)
  · exact begins_signed _ (begins_cons (by decide) _)
  · refine begins_signed _ ?_
    split
    · exact begins_positional (begins_digits _) _
    · exact begins_scientific (begins_digits _) _

theorem begins_padded (width n : ℕ) : Begins (padded width n).toList := by
  change Begins (String.ofList (List.replicate (width - (Nat.repr n).length) '0') ++
    Nat.repr n).toList
  rw [String.toList_append, String.toList_ofList, Nat.toList_repr]
  cases width - (Nat.repr n).length with
  | zero => exact begins_digits n
  | succ k => exact begins_cons (by decide) _

theorem begins_string_append {s : String} (h : Begins s.toList) (t : String) :
    Begins (s ++ t).toList := by
  rw [String.toList_append]
  exact h.append _

theorem begins_date (d : Date) : Begins d.text.toList := by
  unfold Date.text
  iterate 4 apply begins_string_append
  exact begins_padded 4 d.year

theorem begins_time (t : TimeOfDay) : Begins t.text.toList := by
  unfold TimeOfDay.text
  iterate 5 apply begins_string_append
  exact begins_padded 2 t.hour

theorem begins_moment (m : Moment) : Begins m.text.toList := by
  cases m with
  | date d => exact begins_date d
  | time t => exact begins_time t
  | both d t offset =>
    unfold Moment.text
    iterate 3 apply begins_string_append
    exact begins_date d

/-- The text of a value that is not itself a text. -/
theorem begins_display {v : Value} (h : ∀ t, v ≠ .text t) : Begins v.display := by
  cases v with
  | null => exact begins_cons (by decide) _
  | boolean b => cases b <;> exact begins_cons (by decide) _
  | integer n =>
    simp only [Value.display, Value.quotedText]
    exact begins_integer n
  | float x =>
    simp only [Value.display, Value.quotedText]
    exact begins_float x
  | text t => exact absurd rfl (h t)
  | moment m => exact begins_moment m
  | list items =>
    simp only [Value.display, Value.quotedText]
    exact begins_cons (by decide) _
  | table entries =>
    simp only [Value.display, Value.quotedText]
    exact begins_cons (by decide) _

theorem display_ne_nil {v : Value} (h : v.isGiven = true) : v.display ≠ [] := by
  by_cases htext : ∃ t, v = .text t
  · obtain ⟨t, rfl⟩ := htext
    simpa [Value.display, Value.isGiven] using h
  · obtain ⟨c, hc, -⟩ := begins_display (not_exists.mp htext)
    exact List.ne_nil_of_mem (List.mem_of_head? hc)

/-- Only a text is the name of a grammar. -/
theorem eq_text_of_display {v : Value} {g : Grammar} (h : v.display = g.name.toList) :
    v = .text g.name.toList := by
  by_cases htext : ∃ t, v = .text t
  · obtain ⟨t, rfl⟩ := htext
    rw [← h, Value.display]
  · obtain ⟨c, hc, hlead⟩ := begins_display (not_exists.mp htext)
    rw [h] at hc
    cases g <;> cases hc <;> exact absurd hlead (by decide)

end LicenseNotices.ValueTexts
