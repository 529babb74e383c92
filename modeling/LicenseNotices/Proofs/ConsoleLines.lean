import LicenseNotices.Proofs.JoinedTexts
import LicenseNotices.Report.CellConsole
import Mathlib.Data.List.Infix

/-!
What messages look like on a console. A few control characters may be left out of a message and its
tabs become spaces; everything else stands as it is, and one line feed ends the message. So a
message is broken at its own line feeds only, and what is plain at its end is kept.
-/
namespace LicenseNotices.ConsoleLines

/-- The characters that may be left out: they would ring, move back, feed or return. -/
def isSkippable (c : Char) : Bool := [7, 8, 11, 12, 13].contains c.toNat

/-- A message as it stands on a console. -/
inductive IsShown : Text → Text → Prop
  | nil : IsShown [] []
  | kept (c : Char) {t u : Text} (h : IsShown t u) : IsShown (c :: t) (c :: u)
  | skipped {c : Char} (hc : isSkippable c = true) {t u : Text} (h : IsShown t u) :
      IsShown (c :: t) u
  | tab (n : ℕ) {t u : Text} (h : IsShown t u) :
      IsShown ('\t' :: t) (List.replicate (n + 1) ' ' ++ u)

/-- The console prints each message as it stands on it, and one line feed behind it. -/
def PrintsLines [Console] : Prop :=
  ∀ message, ∃ shown, IsShown message shown ∧ Console.printed message = shown ++ ['\n']

/-- A character that stands on every console as it is. -/
def IsPlain (c : Char) : Prop := isSkippable c = false ∧ c ≠ '\t'

instance (c : Char) : Decidable (IsPlain c) := inferInstanceAs (Decidable (_ ∧ _))

theorem isPlain_of_le {c : Char} (h : 32 ≤ c.toNat) : IsPlain c := by
  constructor
  · have hcontrols : ∀ n ∈ [7, 8, 11, 12, 13], n < 32 := by decide
    rw [isSkippable, List.contains_eq_mem, decide_eq_false_iff_not]
    exact fun hmem => absurd (hcontrols _ hmem) h.not_gt
  · rintro rfl
    exact absurd h (by decide)

namespace IsShown

variable {t u : Text}

theorem refl (t : Text) : IsShown t t := by
  induction t with
  | nil => exact .nil
  | cons c rest ih => exact .kept c ih

theorem append {t' u' : Text} (h : IsShown t u) (h' : IsShown t' u') :
    IsShown (t ++ t') (u ++ u') := by
  induction h with
  | nil => exact h'
  | kept c _ ih => exact .kept c ih
  | skipped hc _ ih => exact .skipped hc ih
  | tab n _ ih =>
    rw [List.append_assoc]
    exact .tab n ih

/-- A message without a line feed stands in one line. -/
theorem newline_not_mem (h : IsShown t u) (ht : '\n' ∉ t) : '\n' ∉ u := by
  induction h with
  | nil => exact ht
  | kept c _ ih =>
    rw [List.mem_cons, not_or] at ht ⊢
    exact ⟨ht.1, ih ht.2⟩
  | skipped _ _ ih => exact ih fun hmem => ht (List.mem_cons_of_mem _ hmem)
  | tab n _ ih =>
    rw [List.mem_append, not_or]
    refine ⟨fun hmem => ?_, ih fun hmem => ht (List.mem_cons_of_mem _ hmem)⟩
    exact absurd (List.eq_of_mem_replicate hmem) (by decide)

theorem eq_of_isPlain (h : IsShown t u) (ht : ∀ c ∈ t, IsPlain c) : u = t := by
  induction h with
  | nil => rfl
  | kept c _ ih => rw [ih fun d hd => ht d (List.mem_cons_of_mem c hd)]
  | skipped hc _ _ =>
    have hplain := (ht _ List.mem_cons_self).1
    rw [hc] at hplain
    cases hplain
  | tab n _ _ => exact absurd rfl (ht _ List.mem_cons_self).2

/-- The parts of a message stand one behind the other. -/
theorem exists_append {t' v : Text} (h : IsShown (t ++ t') v) :
    ∃ u u', v = u ++ u' ∧ IsShown t u ∧ IsShown t' u' := by
  induction t generalizing v with
  | nil => exact ⟨[], v, rfl, .nil, h⟩
  | cons c rest ih =>
    cases h with
    | kept _ h =>
      obtain ⟨u, u', rfl, hu, hu'⟩ := ih h
      exact ⟨c :: u, u', rfl, .kept c hu, hu'⟩
    | skipped hc h =>
      obtain ⟨u, u', rfl, hu, hu'⟩ := ih h
      exact ⟨u, u', rfl, .skipped hc hu, hu'⟩
    | tab n h =>
      obtain ⟨u, u', rfl, hu, hu'⟩ := ih h
      exact ⟨_, u', (List.append_assoc _ _ _).symm, .tab n hu, hu'⟩

/-- A plain end is kept. -/
theorem suffix {last : Text} (h : IsShown (t ++ last) u) (hlast : ∀ c ∈ last, IsPlain c) :
    last <:+ u := by
  obtain ⟨v, w, rfl, -, hw⟩ := exists_append h
  rw [hw.eq_of_isPlain hlast]
  exact List.suffix_append v last

end IsShown

section

variable [Console]

theorem PrintsLines.printed_eq_self (h : PrintsLines) {message : Text}
    (hplain : ∀ c ∈ message, IsPlain c) : Console.printed message = message ++ ['\n'] := by
  obtain ⟨shown, hshown, hprinted⟩ := h message
  rw [hprinted, hshown.eq_of_isPlain hplain]

end

/-- Leaving characters out first does not change how a message may stand. -/
theorem IsShown.of_filter {t u : Text} (h : IsShown (t.filter (!isSkippable ·)) u) :
    IsShown t u := by
  induction t generalizing u with
  | nil => exact h
  | cons c rest ih =>
    by_cases hc : isSkippable c = true
    · rw [List.filter_cons_of_neg (by simp [hc])] at h
      exact .skipped hc (ih h)
    · rw [List.filter_cons_of_pos (by simp [hc])] at h
      cases h with
      | kept _ h => exact .kept c (ih h)
      | skipped hc h => exact .skipped hc (ih h)
      | tab n h => exact .tab n (ih h)

theorem isShown_joinAtStops (pieces : List Text) :
    IsShown (Text.join ['\t'] pieces) (CellConsole.joinAtStops pieces) := by
  fun_induction CellConsole.joinAtStops pieces with
  | case1 => exact .nil
  | case2 t => exact .refl t
  | case3 t rest hrest ih =>
    rw [Text.join.eq_3 _ _ _ hrest]
    refine ((IsShown.refl t).append ?_).append ih
    have htab := IsShown.tab ((CellConsole.tabWidth -
      Text.cells (t ++ [' ']) % CellConsole.tabWidth) % CellConsole.tabWidth) .nil
    rwa [List.append_nil, List.replicate_succ] at htab

theorem isShown_expandTabs (line : Text) : IsShown line (CellConsole.expandTabs line) := by
  have h := isShown_joinAtStops (line.splitOn '\t')
  rwa [Text.join_splitOn] at h

theorem isShown_join_expandTabs (lines : List Text) :
    IsShown (Text.join ['\n'] lines) (Text.join ['\n'] (lines.map CellConsole.expandTabs)) := by
  fun_induction Text.join ['\n'] lines with
  | case1 => exact .nil
  | case2 line => exact isShown_expandTabs line
  | case3 line rest hrest ih =>
    rw [List.map_cons, Text.join.eq_3 _ _ _ (by simpa using hrest)]
    exact ((isShown_expandTabs line).append (.refl ['\n'])).append ih

/-- A console that is told by the widths of characters prints lines. -/
theorem printsLines_cellConsole : @PrintsLines cellConsole := by
  intro message
  refine ⟨_, .of_filter ?_, rfl⟩
  have hlines := isShown_join_expandTabs ((message.filter (!isSkippable ·)).splitOn '\n')
  rwa [Text.join_splitOn] at hlines

end LicenseNotices.ConsoleLines
