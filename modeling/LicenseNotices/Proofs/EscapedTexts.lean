import LicenseNotices.Text.Escape
import Mathlib.Data.Int.Notation
import Mathlib.Data.List.Basic

/-!
Escaped texts can be read back. A backslash and the letter behind it stand for one character, and
every other character stands for itself, so nothing is lost and no control character that would
move the line is left. Points are not escaped, so a preview is an escaped text as well: that of the
head with the ellipsis behind it. Two previews of one length are therefore the same only for texts
with the same head of which both or neither were cut.
-/
namespace LicenseNotices.EscapedTexts

open Text

/-- The character that is written as a backslash and the letter. -/
def escapedBy? (letter : Char) : Option Char :=
  match letter with
  | 'b' => some '\x08'
  | 't' => some '\t'
  | 'n' => some '\n'
  | 'v' => some '\x0b'
  | 'f' => some '\x0c'
  | 'r' => some '\r'
  | '\x22' => some '\x22'
  | '\x27' => some '\x27'
  | '\x60' => some '\x60'
  | '\\' => some '\\'
  | _ => none

/-- Reads an escaped text; a text that is not the escape of another has none. -/
def unescape : Text → Option Text
  | [] => some []
  | '\\' :: letter :: rest => (escapedBy? letter).bind fun c => (unescape rest).map (c :: ·)
  | c :: rest => if (escapeLetter c).isSome then none else (unescape rest).map (c :: ·)

/-- The control characters that have an escape. -/
def controls : List Char := ['\x08', '\t', '\n', '\x0b', '\x0c', '\r']

theorem escapeLetter_eq_some_iff (c letter : Char) :
    escapeLetter c = some letter ↔ escapedBy? letter = some c := by
  constructor
  · intro h
    unfold escapeLetter at h
    split at h <;> cases h <;> rfl
  · intro h
    unfold escapedBy? at h
    split at h <;> cases h <;> rfl

theorem escapeChar_of_some {c letter : Char} (h : escapeLetter c = some letter) :
    escapeChar c = ['\\', letter] := by
  rw [escapeChar, h]

theorem escapeChar_of_none {c : Char} (h : escapeLetter c = none) : escapeChar c = [c] := by
  rw [escapeChar, h]

/-- The escape of a character is read as that character, whatever stands behind it. -/
theorem unescape_escapeChar_append (c : Char) (rest : Text) :
    unescape (escapeChar c ++ rest) = (unescape rest).map (c :: ·) := by
  cases h : escapeLetter c with
  | some letter =>
    have hletter := (escapeLetter_eq_some_iff c letter).mp h
    rw [escapeChar_of_some h, List.cons_append, List.singleton_append, unescape, hletter,
      Option.bind_some]
  | none =>
    have hc : c ≠ '\\' := by
      rintro rfl
      cases h
    rw [escapeChar_of_none h, List.singleton_append, unescape, h]
    · rfl
    · exact fun letter later heq _ => hc heq

theorem unescape_escape (t : Text) : unescape (escape t) = some t := by
  induction t with
  | nil => rfl
  | cons c rest ih => rw [escape_cons, unescape_escapeChar_append, ih, Option.map_some]

/-- What can be read is the escape of what is read from it. -/
theorem eq_escape_of_unescape {s t : Text} (h : unescape s = some t) : s = escape t := by
  fun_induction unescape s generalizing t with
  | case1 =>
    cases h
    rfl
  | case2 letter rest ih =>
    obtain ⟨c, hc, h⟩ := Option.bind_eq_some_iff.mp h
    obtain ⟨later, hlater, rfl⟩ := Option.map_eq_some_iff.mp h
    rw [escape_cons, escapeChar_of_some ((escapeLetter_eq_some_iff c letter).mpr hc), ← ih hlater]
    rfl
  | case3 c rest hnone hescaped => cases h
  | case4 c rest hnone hplain ih =>
    obtain ⟨later, hlater, rfl⟩ := Option.map_eq_some_iff.mp h
    rw [escape_cons, escapeChar_of_none (by simpa using hplain), ← ih hlater]
    rfl

theorem unescape_eq_some_iff (s t : Text) : unescape s = some t ↔ s = escape t := by
  constructor
  · exact eq_escape_of_unescape
  · rintro rfl
    exact unescape_escape t

theorem escape_injective : Function.Injective escape := by
  intro s t h
  have hs := unescape_escape s
  rw [h, unescape_escape] at hs
  exact (Option.some.inj hs).symm

theorem escape_inj {s t : Text} : escape s = escape t ↔ s = t := escape_injective.eq_iff

/-- No character of an escaped text is a control character that has an escape. -/
theorem not_mem_controls_of_mem_escape {t : Text} {c : Char} (h : c ∈ escape t) :
    c ∉ controls := by
  obtain ⟨d, -, hc⟩ := List.mem_flatMap.mp h
  cases hd : escapeLetter d with
  | some letter =>
    rw [escapeChar_of_some hd, List.mem_cons, List.mem_singleton] at hc
    rcases hc with rfl | rfl
    · decide
    · unfold escapeLetter at hd
      split at hd <;> cases hd <;> decide
  | none =>
    rw [escapeChar_of_none hd, List.mem_singleton] at hc
    subst hc
    intro hmem
    simp only [controls, List.mem_cons, List.not_mem_nil, or_false] at hmem
    rcases hmem with rfl | rfl | rfl | rfl | rfl | rfl <;> cases hd

/-- The head of a text, with an ellipsis behind it when something was cut off. -/
def shortened (t : Text) (length : ℤ) : Text :=
  head t length ++ if (head t length).length = t.length then [] else ellipsis

/-- A preview is escaped as a whole, since the ellipsis is its own escape. -/
theorem preview_eq_escape (t : Text) (length : ℤ) :
    preview t length = escape (shortened t length) := by
  rw [preview, shortened, escape_append]
  split <;> rfl

theorem head_natCast (t : Text) (n : ℕ) : head t n = t.take n := by
  rw [head, if_neg (by omega), Int.toNat_natCast]

theorem shortened_of_lt {t : Text} {n : ℕ} (h : n < t.length) :
    shortened t n = t.take n ++ ellipsis := by
  rw [shortened, head_natCast, if_neg]
  rw [List.length_take]
  omega

theorem shortened_of_le {t : Text} {n : ℕ} (h : t.length ≤ n) : shortened t n = t := by
  rw [shortened, head_natCast, List.take_of_length_le h, if_pos rfl, List.append_nil]

/-- What is shortened is longer than what is short enough, by the ellipsis. -/
theorem length_shortened_of_lt {t : Text} {n : ℕ} (h : n < t.length) :
    (shortened t n).length = n + 3 := by
  rw [shortened_of_lt h, List.length_append, List.length_take, Nat.min_eq_left (Nat.le_of_lt h)]
  rfl

theorem shortened_eq_shortened_iff (n : ℕ) (s t : Text) :
    shortened s n = shortened t n ↔ s.take n = t.take n ∧ (n < s.length ↔ n < t.length) := by
  rcases Nat.lt_or_ge n s.length with hs | hs <;> rcases Nat.lt_or_ge n t.length with ht | ht
  · rw [shortened_of_lt hs, shortened_of_lt ht, List.append_cancel_right_eq]
    exact (and_iff_left (iff_of_true hs ht)).symm
  · refine iff_of_false (fun heq => ?_) fun h => by omega
    have hlength := length_shortened_of_lt hs
    rw [heq, shortened_of_le ht] at hlength
    omega
  · refine iff_of_false (fun heq => ?_) fun h => by omega
    have hlength := length_shortened_of_lt ht
    rw [← heq, shortened_of_le hs] at hlength
    omega
  · rw [shortened_of_le hs, shortened_of_le ht, List.take_of_length_le hs,
      List.take_of_length_le ht]
    exact (and_iff_left (iff_of_false (by omega) (by omega))).symm

/-- The head is a beginning of the text. -/
theorem prefix_head (t : Text) (length : ℤ) : head t length <+: t := by
  rw [head]
  split <;> exact List.take_prefix _ _

theorem length_head_of_neg (t : Text) {length : ℤ} (h : length < 0) :
    (head t length).length = t.length - length.natAbs := by
  rw [head, if_pos h, List.length_take]
  omega

/-- A preview tells whether its head is shorter than the text. -/
theorem preview_eq_head (t : Text) (length : ℤ) :
    preview t length =
      escape (head t length) ++ if (head t length).length < t.length then ellipsis else [] := by
  have hle := (prefix_head t length).length_le
  rw [preview]
  by_cases hlt : (head t length).length < t.length
  · rw [if_neg (by omega), if_pos hlt]
  · rw [if_pos (by omega), if_neg hlt]

/-- Escaping can be undone and leaves no control character that has an escape. Previews of one
length are the same just when the heads are and both or neither of the texts were cut. A negative
length drops so many characters from the end, as far as there are any. -/
theorem escapes_and_previews_tell_apart :
    (∀ s t, unescape s = some t ↔ s = escape t) ∧
    Function.Injective escape ∧
    (∀ t, ∀ c ∈ escape t, c ∉ controls) ∧
    (∀ (n : ℕ) (s t : Text), preview s n = preview t n ↔
      s.take n = t.take n ∧ (n < s.length ↔ n < t.length)) ∧
    ∀ n < (0 : ℤ), ∀ t : Text, ∃ first dropped : Text, t = first ++ dropped ∧
      dropped.length = min n.natAbs t.length ∧
      preview t n = escape first ++ if first.length < t.length then ellipsis else [] := by
  refine ⟨unescape_eq_some_iff, escape_injective, fun t c => not_mem_controls_of_mem_escape, ?_, ?_⟩
  · intro n s t
    rw [preview_eq_escape, preview_eq_escape, escape_inj]
    exact shortened_eq_shortened_iff n s t
  · intro n hn t
    obtain ⟨dropped, hdropped⟩ := prefix_head t n
    refine ⟨head t n, dropped, hdropped.symm, ?_, preview_eq_head t n⟩
    have hlength := congrArg List.length hdropped
    rw [List.length_append, length_head_of_neg t hn] at hlength
    omega

/-- A head that is cut behind a backslash is escaped all the same, and a text that ends in points
is not taken for one that was cut. -/
example : preview "a\\'b".toList 2 = "a\\\\...".toList ∧
    preview "a...".toList 4 = "a...".toList ∧ preview "abc".toList (-5) = "...".toList := by
  decide

end LicenseNotices.EscapedTexts
