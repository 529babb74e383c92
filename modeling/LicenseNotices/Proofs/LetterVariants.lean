import LicenseNotices.Pattern.Node
import Mathlib.Data.List.Chain
import Mathlib.Data.Nat.Bitwise

/-!
Which characters are the same letter when case is ignored, said without the tables of letter
case: letters of ASCII that differ in case only, and four characters beyond ASCII whose lower
or upper case is in it. Besides, a character in lower case is part of a word exactly when it
was before. The tables are looked up in whole for this; a table of ranges is turned into a
number with one bit for each code point, which is read faster than the ranges.
-/
namespace LicenseNotices.Text

/-- A set of code points in ranges as a number: the bit of a code point tells whether a range
holds it. -/
def rangeBits (ranges : List (ℕ × ℕ)) : ℕ :=
  ranges.foldr (fun r bits => (2 ^ (r.2 + 1 - r.1) - 1) <<< r.1 ||| bits) 0

theorem testBit_rangeBits (ranges : List (ℕ × ℕ)) (n : ℕ) :
    (rangeBits ranges).testBit n = ranges.any fun r => r.1 ≤ n && n ≤ r.2 := by
  induction ranges with
  | nil => simp [rangeBits]
  | cons r rest ih =>
    have hrange : ((2 ^ (r.2 + 1 - r.1) - 1) <<< r.1).testBit n = (r.1 ≤ n && n ≤ r.2) := by
      rw [Nat.testBit_shiftLeft, Nat.testBit_two_pow_sub_one, Bool.eq_iff_iff]
      simp only [Bool.and_eq_true, decide_eq_true_eq]
      omega
    rw [rangeBits, List.foldr_cons, Nat.testBit_or, hrange, List.any_cons, ← ih, rangeBits]

/-- The second range is not empty and begins behind the end of the first. -/
def Behind (r s : ℕ × ℕ) : Prop := r.2 < s.1 ∧ s.1 ≤ s.2

instance : DecidableRel Behind := fun r s => inferInstanceAs (Decidable (r.2 < s.1 ∧ s.1 ≤ s.2))

instance : Trans Behind Behind Behind where
  trans h h' := ⟨h.1.trans_le (h.2.trans h'.1.le), h'.2⟩

/-- Looking up in ascending ranges may stop at the first range that ends at the code point or
behind it. -/
theorem covers_eq_testBit {ranges : List (ℕ × ℕ)} (h : ranges.IsChain Behind) (n : ℕ) :
    covers ranges n = (rangeBits ranges).testBit n := by
  rw [testBit_rangeBits]
  have hpairs := List.isChain_iff_pairwise.mp h
  clear h
  induction ranges with
  | nil => rfl
  | cons r rest ih =>
    obtain ⟨hfirst, hrest⟩ := List.pairwise_cons.mp hpairs
    rw [covers, List.any_cons, ih hrest]
    by_cases hn : n ≤ r.2
    · have hbehind : (rest.any fun s => s.1 ≤ n && n ≤ s.2) = false := by
        simp only [List.any_eq_false, Bool.and_eq_true, decide_eq_true_eq]
        intro s hs hsn
        exact absurd (hfirst s hs).1 (by omega)
      simp [hn, hbehind]
    · simp [hn]

/-- The characters of words as a number. -/
def wordBits : ℕ :=
  rangeBits letterRanges ||| rangeBits numberRanges |||
    rangeBits [(0x30, 0x39), (0x41, 0x5a), (0x5f, 0x5f), (0x61, 0x7a)]

theorem testBit_asciiWord (c : Char) :
    (rangeBits [(0x30, 0x39), (0x41, 0x5a), (0x5f, 0x5f), (0x61, 0x7a)]).testBit c.toNat =
      isAsciiWord c := by
  rw [testBit_rangeBits, Bool.eq_iff_iff]
  simp [isAsciiWord, isAsciiLetter, isAsciiDigit, Char.le_def, UInt32.le_iff_toNat_le,
    ← Char.toNat_inj]
  omega

theorem isWord_eq_testBit (c : Char) : isWord c = wordBits.testBit c.toNat := by
  have hletters : letterRanges.IsChain Behind := by decide +kernel
  have hnumbers : numberRanges.IsChain Behind := by decide +kernel
  rw [wordBits, Nat.testBit_or, Nat.testBit_or, ← covers_eq_testBit hletters,
    ← covers_eq_testBit hnumbers, testBit_asciiWord, isWord, isLetter, isNumber]
  by_cases hc : c.toNat < 128
  · have hletter : covers letterRanges c.toNat = false := by
      rw [letterRanges, covers, if_pos (by omega), decide_eq_false (by omega)]
    have hnumber : covers numberRanges c.toNat = false := by
      rw [numberRanges, covers, if_pos (by omega), decide_eq_false (by omega)]
    simp only [hc, if_true, hletter, hnumber, isAsciiWord, Bool.false_or]
  · have hascii : isAsciiWord c = false := by
      rw [← testBit_asciiWord, testBit_rangeBits]
      simp only [List.any_cons, List.any_nil]
      simp
      omega
    have hlow : (decide (c = '_')) = false := by
      rw [isAsciiWord, Bool.or_eq_false_iff] at hascii
      exact hascii.2
    simp only [hc, if_false, hascii, hlow, Bool.or_false]

/-- What a table of case does to a code point: nothing, or what one of its segments says. -/
theorem mapCase_cases (segments : List CaseSegment) (n : ℕ) :
    mapCase segments n = n ∨
      ∃ s ∈ segments, s.maps n = true ∧ mapCase segments n = s.apply n := by
  rw [mapCase]
  split
  · rename_i s hs
    exact .inr ⟨s, List.mem_of_find?_eq_some hs, (List.find?_eq_some_iff_append.mp hs).1, rfl⟩
  · exact .inl rfl

/-- The code points that a segment maps. -/
def CaseSegment.sources (s : CaseSegment) : List ℕ :=
  (List.range ((s.last - s.first) / s.step + 1)).map fun k => s.first + k * s.step

theorem CaseSegment.mem_sources {s : CaseSegment} {n : ℕ} (h : s.maps n = true) :
    n ∈ s.sources := by
  simp only [CaseSegment.maps, Bool.and_eq_true, decide_eq_true_eq] at h
  obtain ⟨⟨hfirst, hlast⟩, hstep⟩ := h
  refine List.mem_map.mpr ⟨(n - s.first) / s.step, ?_, ?_⟩
  · rw [List.mem_range, Nat.lt_succ_iff]
    exact Nat.div_le_div_right (by omega)
  · rw [Nat.div_mul_cancel (Nat.dvd_of_mod_eq_zero hstep)]
    omega

/-- What is true of every code point that a segment maps is true where the table maps. -/
theorem mapCase_induction {segments : List CaseSegment} {P : ℕ → ℕ → Prop}
    (hsame : ∀ n, P n n) (hmapped : ∀ s ∈ segments, ∀ n ∈ s.sources, P n (s.apply n)) (n : ℕ) :
    P n (mapCase segments n) := by
  rcases mapCase_cases segments n with h | ⟨s, hs, hmaps, h⟩
  · rw [h]
    exact hsame n
  · rw [h]
    exact hmapped s hs n (CaseSegment.mem_sources hmaps)

theorem asciiLower_lt {n : ℕ} (h : n < 128) : asciiLower n < 128 := by
  rw [asciiLower]
  split <;> omega

theorem wordBits_lower (n : ℕ) : wordBits.testBit (lower n) = wordBits.testBit n := by
  rw [lower]
  split
  · have hascii : ∀ n < 128, wordBits.testBit (asciiLower n) = wordBits.testBit n := by
      decide +kernel
    exact hascii n ‹_›
  · have hsegments : ∀ s ∈ lowerSegments, ∀ n ∈ s.sources,
        wordBits.testBit (s.apply n) = wordBits.testBit n := by
      decide +kernel
    exact mapCase_induction (P := fun n m => wordBits.testBit m = wordBits.testBit n)
      (fun _ => rfl) hsegments n

theorem isValidChar_lower {n : ℕ} (h : n.isValidChar) : (lower n).isValidChar := by
  rw [lower]
  split
  · have hascii : ∀ n < 128, (asciiLower n).isValidChar := by decide +kernel
    exact hascii n ‹_›
  · have hsegments : ∀ s ∈ lowerSegments, ∀ n ∈ s.sources,
        n.isValidChar → (s.apply n).isValidChar := by
      decide +kernel
    exact mapCase_induction (P := fun n m => n.isValidChar → m.isValidChar)
      (fun _ h => h) hsegments n h

theorem toNat_ofNat {n : ℕ} (h : n.isValidChar) : (Char.ofNat n).toNat = n := by
  rw [Char.ofNat, dif_pos h]
  rfl

/-- A character is part of a word exactly when its lower case is. -/
theorem isWord_lower (c : Char) : isWord (Char.ofNat (lower c.toNat)) = isWord c := by
  have hvalid : (lower c.toNat).isValidChar := isValidChar_lower c.valid
  rw [isWord_eq_testBit, isWord_eq_testBit, toNat_ofNat hvalid, wordBits_lower]

/-- Beyond ASCII only two characters have their lower case in it, and the sign of copyright, the
dotless i and the long s are the lower case of themselves alone. -/
theorem lower_beyond_ascii {n : ℕ} (h : 128 ≤ n) :
    (∀ m < 128, lower n = m ↔ n = 0x130 ∧ m = 0x69 ∨ n = 0x212a ∧ m = 0x6b) ∧
      ∀ m ∈ [0xa9, 0x131, 0x17f], lower n = m ↔ n = m := by
  have hsegments : ∀ s ∈ lowerSegments, ∀ n ∈ s.sources,
      s.apply n = n ∨ (n = 0x130 ∧ s.apply n = 0x69) ∨ (n = 0x212a ∧ s.apply n = 0x6b) ∨
        (128 ≤ s.apply n ∧ s.apply n ≠ 0xa9 ∧ s.apply n ≠ 0x131 ∧ s.apply n ≠ 0x17f) := by
    decide +kernel
  have hcases := mapCase_induction (P := fun n m => m = n ∨ (n = 0x130 ∧ m = 0x69) ∨
    (n = 0x212a ∧ m = 0x6b) ∨ (128 ≤ m ∧ m ≠ 0xa9 ∧ m ≠ 0x131 ∧ m ≠ 0x17f))
    (fun _ => .inl rfl) hsegments n
  have hlower : lower n = mapCase lowerSegments n := if_neg (by omega)
  rw [← hlower] at hcases
  have hspecial : (n = 0xa9 → lower n = 0xa9) ∧ (n = 0x130 → lower n = 0x69) ∧
      (n = 0x131 → lower n = 0x131) ∧ (n = 0x17f → lower n = 0x17f) ∧
      (n = 0x212a → lower n = 0x6b) := by
    refine ⟨?_, ?_, ?_, ?_, ?_⟩ <;> rintro rfl <;> decide +kernel
  constructor
  · intro m hm
    omega
  · intro m hm
    simp only [List.mem_cons, List.not_mem_nil, or_false] at hm
    omega

end LicenseNotices.Text

namespace LicenseNotices.Pattern

open Text

/-- The same letter, when case is ignored: the two differ in case only, or the first is one of
the characters beyond ASCII that share a case with a letter of ASCII. -/
def SameLetter (c d : Char) : Prop :=
  c.toLower = d.toLower ∨ (c = '\u0130' ∨ c = '\u0131') ∧ d.toLower = 'i' ∨
    c = '\u017f' ∧ d.toLower = 's' ∨ c = '\u212a' ∧ d.toLower = 'k'

instance (c d : Char) : Decidable (SameLetter c d) :=
  inferInstanceAs (Decidable (_ ∨ _))

theorem toNat_toLower (c : Char) : c.toLower.toNat = asciiLower c.toNat := by
  have hupper : (c.val ≥ 'A'.val ∧ c.val ≤ 'Z'.val) ↔ (65 ≤ c.toNat ∧ c.toNat ≤ 90) := by
    simp only [ge_iff_le, UInt32.le_iff_toNat_le]
    rfl
  rw [asciiLower]
  by_cases hc : 65 ≤ c.toNat ∧ c.toNat ≤ 90
  · have hlower : c.toLower = _ := dif_pos (hupper.mpr hc)
    rw [hlower, if_pos hc]
    change (c.val + 32).toNat = c.val.toNat + 32
    have hsmall : c.val.toNat ≤ 90 := hc.2
    rw [UInt32.toNat_add, Nat.mod_eq_of_lt]
    · rfl
    · change c.val.toNat + 32 < 2 ^ 32
      omega
  · have hlower : c.toLower = c := dif_neg (hupper.not.mpr hc)
    rw [hlower, if_neg hc]

theorem sameLetter_iff (c d : Char) :
    SameLetter c d ↔ asciiLower c.toNat = asciiLower d.toNat ∨
      (c.toNat = 0x130 ∨ c.toNat = 0x131) ∧ asciiLower d.toNat = 0x69 ∨
        c.toNat = 0x17f ∧ asciiLower d.toNat = 0x73 ∨
          c.toNat = 0x212a ∧ asciiLower d.toNat = 0x6b := by
  simp only [SameLetter, ← Char.toNat_inj, toNat_toLower]
  rfl

/-- A character that comes before the letters has no variants. -/
theorem sameLetter_iff_eq {d : Char} (hd : d.toNat < 65) (c : Char) : SameLetter c d ↔ c = d := by
  have hsame : asciiLower d.toNat = d.toNat := if_neg (by omega)
  rw [sameLetter_iff, hsame, ← Char.toNat_inj, asciiLower]
  split <;> omega

theorem mem_extraCasesOf {m : ℕ} (h : m < 128) (n : ℕ) :
    n ∈ extraCasesOf m ↔ m = 0x69 ∧ n = 0x131 ∨ m = 0x73 ∧ n = 0x17f := by
  rw [extraCasesOf]
  split_ifs <;> simp <;> omega

theorem sameCase_iff (m n : ℕ) : sameCase m n = true ↔ m = n ∨ m ∈ extraCasesOf n := by
  simp only [sameCase, Bool.or_eq_true, decide_eq_true_eq, List.contains_iff_mem]

/-- A character of ASCII in a pattern stands for all variants of it. -/
theorem literalFolds_iff {d : Char} (hd : d.toNat < 128) (c : Char) :
    literalFolds false d.toNat c = true ↔ SameLetter c d := by
  have hlower : lower d.toNat = asciiLower d.toNat := if_pos hd
  have hsmall := asciiLower_lt hd
  rw [sameLetter_iff, literalFolds, if_neg Bool.false_ne_true, sameCase_iff, hlower,
    mem_extraCasesOf hsmall]
  by_cases hc : c.toNat < 128
  · have hsame : lower c.toNat = asciiLower c.toNat := if_pos hc
    have hascii := asciiLower_lt hc
    omega
  · have hsame : asciiLower c.toNat = c.toNat := if_neg (by omega)
    obtain ⟨hinside, hothers⟩ := lower_beyond_ascii (n := c.toNat) (by omega)
    rw [hinside _ hsmall, hothers 0x131 (by simp), hothers 0x17f (by simp)]
    omega

/-- The variants of a word character are word characters. -/
theorem isWord_of_sameLetter {c d : Char} (h : SameLetter c d) (hd : d.toNat < 128)
    (hword : isWord d = true) : isWord c = true := by
  rcases h with h | ⟨rfl | rfl, -⟩ | ⟨rfl, -⟩ | ⟨rfl, -⟩
  · rw [← Char.toNat_inj, toNat_toLower, toNat_toLower] at h
    have hc : c.toNat < 128 := by
      by_contra hc
      have hsame : asciiLower c.toNat = c.toNat := if_neg (by omega)
      have hsmall := asciiLower_lt hd
      omega
    have hlower : lower c.toNat = lower d.toNat := by rw [lower, lower, if_pos hc, if_pos hd, h]
    rw [isWord_eq_testBit, ← wordBits_lower, hlower, wordBits_lower, ← isWord_eq_testBit, hword]
  all_goals decide +kernel

/-- The sign of copyright has no variants. -/
theorem literalFolds_copyright (c : Char) : literalFolds false 0xa9 c = true ↔ c = '©' := by
  have hlower : lower 0xa9 = 0xa9 := by decide +kernel
  have hextra : extraCasesOf 0xa9 = [] := by decide +kernel
  have hsign : c = '©' ↔ c.toNat = 0xa9 := Char.toNat_inj.symm
  rw [hsign, literalFolds, if_neg Bool.false_ne_true, sameCase_iff, hlower, hextra]
  simp only [List.not_mem_nil, or_false]
  by_cases hc : c.toNat < 128
  · have hsame : lower c.toNat = asciiLower c.toNat := if_pos hc
    have hascii := asciiLower_lt hc
    omega
  · exact (lower_beyond_ascii (by omega)).2 0xa9 (by simp)

/-- The letter i has five variants. -/
example : ['i', 'I', 'İ', 'ı', 'j'].map (fun c => decide (SameLetter c 'I')) =
    [true, true, true, true, false] := by
  decide

end LicenseNotices.Pattern
