import LicenseNotices.Text.Basic
import Mathlib.Data.Nat.Notation

/-!
Texts that are joined by one character and are split at it again. If the character stands in none
of the texts, splitting gives back the texts, so they are told by what they are joined to. A text
is what its pieces are joined to, and the last piece takes in the end of the text.
-/
namespace LicenseNotices.Text

theorem intercalate_eq_join (sep : Text) (ts : List Text) :
    sep.intercalate ts = join sep ts := by
  fun_induction join sep ts with
  | case1 => rfl
  | case2 t => simp
  | case3 t rest hne ih =>
    rw [List.intercalate_cons_of_ne_nil hne, ih, List.append_assoc]

theorem join_splitOn (c : Char) (t : Text) : join [c] (t.splitOn c) = t := by
  rw [← intercalate_eq_join, List.intercalate_splitOn]

theorem splitOn_join {c : Char} {ts : List Text} (hne : ts ≠ []) (h : ∀ t ∈ ts, c ∉ t) :
    (join [c] ts).splitOn c = ts := by
  rw [← intercalate_eq_join, List.splitOn_intercalate c h hne]

/-- Texts without the character are the pieces of a text just when they are joined to it. -/
theorem join_eq_iff_splitOn_eq {c : Char} {ts : List Text} (hne : ts ≠ []) (h : ∀ t ∈ ts, c ∉ t)
    (u : Text) : join [c] ts = u ↔ u.splitOn c = ts := by
  constructor
  · rintro rfl
    exact splitOn_join hne h
  · rintro rfl
    exact join_splitOn c u

theorem join_inj {c : Char} {ts us : List Text} (hts : ts ≠ []) (hus : us ≠ [])
    (ht : ∀ t ∈ ts, c ∉ t) (hu : ∀ u ∈ us, c ∉ u) : join [c] ts = join [c] us ↔ ts = us := by
  rw [join_eq_iff_splitOn_eq hts ht, splitOn_join hus hu, eq_comm]

/-- The character stands between neighbours and nowhere else. -/
theorem count_join {c : Char} {ts : List Text} (hne : ts ≠ []) (h : ∀ t ∈ ts, c ∉ t) :
    (join [c] ts).count c + 1 = ts.length := by
  fun_induction join [c] ts with
  | case1 => exact absurd rfl hne
  | case2 t => rw [List.count_eq_zero_of_not_mem (h t (by simp)), List.length_singleton]
  | case3 t rest hrest ih =>
    obtain ⟨ht, hlater⟩ := List.forall_mem_cons.mp h
    rw [List.count_append, List.count_append, List.count_eq_zero_of_not_mem ht,
      List.count_singleton_self, List.length_cons, ← ih hrest hlater]
    omega

/-- A piece of a text holds only characters of the text. -/
theorem mem_of_mem_splitOn {c d : Char} {t piece : Text} (hpiece : piece ∈ t.splitOn c)
    (hd : d ∈ piece) : d ∈ t := by
  have hmem : d ∈ join [c] (t.splitOn c) := mem_join_of_mem hpiece hd
  rwa [join_splitOn] at hmem

end LicenseNotices.Text
