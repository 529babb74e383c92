import LicenseNotices.Encoding.Basic
import LicenseNotices.Proofs.Results
import Mathlib.Data.Nat.Notation

/-!
Reading what was written in the encodings that a run is commonly given. In each of them the
bytes of one character are read as that character and leave what follows them, so a text that
is written is read back as it was. UTF-8 and UTF-16 write every character, and a plain code
writes those below its limit, which are all that it ever reads. In the same way a code page
writes all that its table lets it read. Nothing of this is known of the codes of others.
-/
namespace LicenseNotices.Encoding

open Results

theorem toNat_lt (c : Char) : c.toNat < 0xd800 ∨ 0xdfff < c.toNat ∧ c.toNat < 0x110000 := c.valid

theorem ofNat_eq {c : Char} {n : ℕ} (h : n = c.toNat) : Char.ofNat n = c := by
  rw [h, Char.ofNat_toNat]

theorem toNat_ofNat {n : ℕ} (h : n < 0xd800) : (Char.ofNat n).toNat = n := by
  rw [Char.ofNat, dif_pos (Or.inl h)]
  rfl

namespace Utf8

theorem toNat_byte {n : ℕ} (h : n < 256) : (byte n).toNat = n := by
  rw [byte, UInt8.toNat_ofNat', Nat.mod_eq_of_lt h]

theorem byte_lt_iff {n : ℕ} (h : n < 256) (b : UInt8) : byte n < b ↔ n < b.toNat := by
  rw [UInt8.lt_iff_toNat_lt, toNat_byte h]

theorem le_byte_iff {n : ℕ} (h : n < 256) (b : UInt8) : b ≤ byte n ↔ b.toNat ≤ n := by
  rw [UInt8.le_iff_toNat_le, toNat_byte h]

theorem byte_eq_iff {n : ℕ} (h : n < 256) (b : UInt8) : byte n = b ↔ n = b.toNat := by
  rw [← UInt8.toNat_inj, toNat_byte h]

theorem isContinuation_byte {n : ℕ} (h : n < 0x40) : isContinuation (byte (0x80 + n)) = true := by
  have hn : 0x80 + n < 256 := by omega
  simp only [isContinuation, Bool.and_eq_true, decide_eq_true_iff, le_byte_iff hn,
    byte_lt_iff hn, UInt8.toNat_ofNat]
  omega

theorem low_byte {n : ℕ} (h : n < 0x40) : low (byte (0x80 + n)) = n := by
  unfold low
  rw [toNat_byte (by omega)]
  omega

theorem decodeFrom_one {n : ℕ} (h : n < 0x80) (p : ℕ) (rest : Bytes) :
    decodeFrom p (byte n :: rest) = (decodeFrom (p + 1) rest).map (Char.ofNat n :: ·) := by
  have hn : n < 256 := by omega
  have hlt : byte n < 0x80 := by
    simp only [byte_lt_iff hn, UInt8.toNat_ofNat]
    omega
  rw [decodeFrom.eq_def]
  dsimp only
  rw [if_pos hlt, toNat_byte hn]

theorem decodeFrom_two {m n : ℕ} (hm : 2 ≤ m ∧ m < 0x20) (hn : n < 0x40) (p : ℕ) (rest : Bytes) :
    decodeFrom p (byte (0xc0 + m) :: byte (0x80 + n) :: rest) =
      (decodeFrom (p + 2) rest).map (Char.ofNat (m * 0x40 + n) :: ·) := by
  have hb : 0xc0 + m < 256 := by omega
  have hstart : ¬ byte (0xc0 + m) < 0x80 ∧ ¬ (byte (0xc0 + m) < 0xc2 ∨ 0xf5 ≤ byte (0xc0 + m)) ∧
      byte (0xc0 + m) < 0xe0 := by
    simp only [byte_lt_iff hb, le_byte_iff hb, UInt8.toNat_ofNat]
    omega
  have hsecond : isSecond (byte (0xc0 + m)) (byte (0x80 + n)) = true := by
    have hne : 0xc0 + m ≠ 0xe0 ∧ 0xc0 + m ≠ 0xed ∧ 0xc0 + m ≠ 0xf0 ∧ 0xc0 + m ≠ 0xf4 := by omega
    simp [isSecond, isContinuation_byte hn, byte_eq_iff hb, hne]
  rw [decodeFrom.eq_def]
  dsimp only
  rw [if_neg hstart.1, if_neg hstart.2.1, hsecond, if_neg (by decide), if_pos hstart.2.2,
    toNat_byte hb, low_byte hn, Nat.add_sub_cancel_left]

/-- The second byte keeps to the shortest form, to Unicode and out of the surrogates. -/
theorem isSecond_byte {m k : ℕ} (hm : m < 256) (hk : k < 0x40) (he0 : m = 0xe0 → 0x20 ≤ k)
    (hed : m = 0xed → k < 0x20) (hf0 : m = 0xf0 → 0x10 ≤ k) (hf4 : m = 0xf4 → k < 0x10) :
    isSecond (byte m) (byte (0x80 + k)) = true := by
  have hbyte : 0x80 + k < 256 := by omega
  simp only [isSecond, isContinuation_byte hk, Bool.true_and, byte_eq_iff hm, UInt8.toNat_ofNat]
  split
  · simp only [decide_eq_true_iff, le_byte_iff hbyte, UInt8.toNat_ofNat]
    omega
  · split
    · simp only [decide_eq_true_iff, byte_lt_iff hbyte, UInt8.toNat_ofNat]
      omega
    · split
      · simp only [decide_eq_true_iff, le_byte_iff hbyte, UInt8.toNat_ofNat]
        omega
      · split
        · simp only [decide_eq_true_iff, byte_lt_iff hbyte, UInt8.toNat_ofNat]
          omega
        · rfl

theorem decodeFrom_three {m k l : ℕ} (hm : m < 0x10) (hk : k < 0x40) (hl : l < 0x40)
    (hshort : m = 0 → 0x20 ≤ k) (hsurrogate : m = 0xd → k < 0x20) (p : ℕ) (rest : Bytes) :
    decodeFrom p (byte (0xe0 + m) :: byte (0x80 + k) :: byte (0x80 + l) :: rest) =
      (decodeFrom (p + 3) rest).map (Char.ofNat (m * 0x1000 + k * 0x40 + l) :: ·) := by
  have hb : 0xe0 + m < 256 := by omega
  have hstart : ¬ byte (0xe0 + m) < 0x80 ∧ ¬ (byte (0xe0 + m) < 0xc2 ∨ 0xf5 ≤ byte (0xe0 + m)) ∧
      ¬ byte (0xe0 + m) < 0xe0 ∧ byte (0xe0 + m) < 0xf0 := by
    simp only [byte_lt_iff hb, le_byte_iff hb, UInt8.toNat_ofNat]
    omega
  have hsecond : isSecond (byte (0xe0 + m)) (byte (0x80 + k)) = true :=
    isSecond_byte hb hk (by omega) (by omega) (by omega) (by omega)
  rw [decodeFrom.eq_def]
  dsimp only
  rw [if_neg hstart.1, if_neg hstart.2.1, hsecond, if_neg (by decide), if_neg hstart.2.2.1,
    isContinuation_byte hl, if_neg (by decide), if_pos hstart.2.2.2, toNat_byte hb, low_byte hk,
    low_byte hl, Nat.add_sub_cancel_left]

theorem decodeFrom_four {m k j l : ℕ} (hm : m < 5) (hk : k < 0x40) (hj : j < 0x40) (hl : l < 0x40)
    (hshort : m = 0 → 0x10 ≤ k) (hlast : m = 4 → k < 0x10) (p : ℕ) (rest : Bytes) :
    decodeFrom p
        (byte (0xf0 + m) :: byte (0x80 + k) :: byte (0x80 + j) :: byte (0x80 + l) :: rest) =
      (decodeFrom (p + 4) rest).map
        (Char.ofNat (m * 0x40000 + k * 0x1000 + j * 0x40 + l) :: ·) := by
  have hb : 0xf0 + m < 256 := by omega
  have hstart : ¬ byte (0xf0 + m) < 0x80 ∧ ¬ (byte (0xf0 + m) < 0xc2 ∨ 0xf5 ≤ byte (0xf0 + m)) ∧
      ¬ byte (0xf0 + m) < 0xe0 ∧ ¬ byte (0xf0 + m) < 0xf0 := by
    simp only [byte_lt_iff hb, le_byte_iff hb, UInt8.toNat_ofNat]
    omega
  have hsecond : isSecond (byte (0xf0 + m)) (byte (0x80 + k)) = true :=
    isSecond_byte hb hk (by omega) (by omega) (by omega) (by omega)
  rw [decodeFrom.eq_def]
  dsimp only
  rw [if_neg hstart.1, if_neg hstart.2.1, hsecond, if_neg (by decide), if_neg hstart.2.2.1,
    isContinuation_byte hj, if_neg (by decide), if_neg hstart.2.2.2, isContinuation_byte hl,
    if_neg (by decide), toNat_byte hb, low_byte hk, low_byte hj, low_byte hl,
    Nat.add_sub_cancel_left]

/-- The bytes of a character are read as that character, and what follows is left. -/
theorem decodeFrom_encodeChar (c : Char) (p : ℕ) (rest : Bytes) :
    ∃ behind, decodeFrom p (encodeChar c ++ rest) = (decodeFrom behind rest).map (c :: ·) := by
  have hvalid := toNat_lt c
  unfold encodeChar
  dsimp only
  split
  · rename_i hone
    refine ⟨p + 1, ?_⟩
    rw [List.singleton_append, decodeFrom_one hone, Char.ofNat_toNat]
  · split
    · rename_i hone htwo
      refine ⟨p + 2, (decodeFrom_two (by omega) (by omega) p rest).trans ?_⟩
      rw [ofNat_eq (c := c) (by omega)]
    · split
      · rename_i hone htwo hthree
        refine ⟨p + 3, (decodeFrom_three (by omega) (by omega) (by omega) (by omega) (by omega)
          p rest).trans ?_⟩
        rw [ofNat_eq (c := c) (by omega)]
      · rename_i hone htwo hthree
        refine ⟨p + 4, (decodeFrom_four (by omega) (by omega) (by omega) (by omega) (by omega)
          (by omega) p rest).trans ?_⟩
        rw [ofNat_eq (c := c) (by omega)]

theorem decode_encode (t : Text) : decode (encode t) = .ok t := by
  suffices h : ∀ p, decodeFrom p (encode t) = .ok t from h 0
  induction t with
  | nil => exact fun p => by rw [encode, List.flatMap_nil, decodeFrom]
  | cons c rest ih =>
    intro p
    obtain ⟨behind, hstep⟩ := decodeFrom_encodeChar c p (encode rest)
    rw [encode, List.flatMap_cons]
    exact hstep.trans (by rw [ih behind]; rfl)

end Utf8

namespace Utf16

theorem unitOf_unitBytes (order : ByteOrder) {n : ℕ} (h : n < 0x10000) :
    ∃ b c, unitBytes order n = [b, c] ∧ unitOf order b c = n := by
  have hlow : (UInt8.ofNat (n % 256)).toNat = n % 256 := Utf8.toNat_byte (by omega)
  have hhigh : (UInt8.ofNat (n / 256)).toNat = n / 256 := Utf8.toNat_byte (by omega)
  cases order with
  | lowFirst =>
    refine ⟨_, _, rfl, ?_⟩
    rw [unitOf, hlow, hhigh]
    omega
  | highFirst =>
    refine ⟨_, _, rfl, ?_⟩
    rw [unitOf, hlow, hhigh]
    omega

/-- The bytes of a character are read as that character, and what follows is left. -/
theorem decodeFrom_encodeChar (order : ByteOrder) (c : Char) (p : ℕ) (rest : Bytes) :
    ∃ behind, decodeFrom order p (encodeChar order c ++ rest) =
      (decodeFrom order behind rest).map (c :: ·) := by
  have hvalid := toNat_lt c
  unfold encodeChar
  dsimp only
  split
  · rename_i hone
    obtain ⟨a, b, hbytes, hunit⟩ := unitOf_unitBytes order hone
    have hlow : isLow c.toNat = false := by
      simp only [isLow, Bool.and_eq_false_iff, decide_eq_false_iff_not]
      omega
    have hhigh : isHigh c.toNat = false := by
      simp only [isHigh, Bool.and_eq_false_iff, decide_eq_false_iff_not]
      omega
    refine ⟨p + 2, ?_⟩
    rw [hbytes, List.cons_append, List.cons_append, List.nil_append, decodeFrom.eq_def]
    dsimp only
    rw [hunit, hlow, hhigh, if_neg (by decide), if_pos (by decide), Char.ofNat_toNat]
  · rename_i htwo
    obtain ⟨a, b, hfirst, hhigh⟩ := unitOf_unitBytes order
      (show 0xd800 + (c.toNat - 0x10000) / 0x400 < 0x10000 by omega)
    obtain ⟨d, e, hsecond, hlow⟩ := unitOf_unitBytes order
      (show 0xdc00 + (c.toNat - 0x10000) % 0x400 < 0x10000 by omega)
    have hfirstLow : isLow (unitOf order a b) = false := by
      rw [hhigh]
      simp only [isLow, Bool.and_eq_false_iff, decide_eq_false_iff_not]
      omega
    have hfirstHigh : isHigh (unitOf order a b) = true := by
      rw [hhigh]
      simp only [isHigh, Bool.and_eq_true, decide_eq_true_iff]
      omega
    have hsecondLow : isLow (unitOf order d e) = true := by
      rw [hlow]
      simp only [isLow, Bool.and_eq_true, decide_eq_true_iff]
      omega
    refine ⟨p + 4, ?_⟩
    rw [hfirst, hsecond]
    simp only [List.cons_append, List.nil_append]
    rw [decodeFrom.eq_def]
    dsimp only
    rw [hfirstLow, hfirstHigh, hsecondLow, if_neg (by decide), if_neg (by decide), if_pos rfl,
      hhigh, hlow, ofNat_eq (c := c) (by omega)]

theorem decodeFrom_encode (order : ByteOrder) (p : ℕ) (t : Text) :
    decodeFrom order p (encode order t) = .ok t := by
  induction t generalizing p with
  | nil => rw [encode, List.flatMap_nil, decodeFrom]
  | cons c rest ih =>
    obtain ⟨behind, hstep⟩ := decodeFrom_encodeChar order c p (encode order rest)
    rw [encode, List.flatMap_cons]
    exact hstep.trans (by rw [ih behind]; rfl)

/-- The mark in front of a text is not read as part of it, even when the text starts with
the same character. -/
theorem decodeMarked_encode (t : Text) :
    decodeMarked (mark .lowFirst ++ encode .lowFirst t) = .ok t := by
  have hmark : (mark .lowFirst).isPrefixOf (mark .lowFirst ++ encode .lowFirst t) = true :=
    List.isPrefixOf_iff_prefix.mpr (List.prefix_append _ _)
  have hdrop : (mark .lowFirst ++ encode .lowFirst t).drop 2 = encode .lowFirst t :=
    @List.drop_left _ (mark .lowFirst) _
  rw [decodeMarked, if_pos hmark, hdrop, decodeFrom_encode]
  rfl

end Utf16

namespace Plain

theorem decodeFrom_encodeFrom {code : Code} (hlimit : code.limit ≤ 256) {t : Text} {bytes : Bytes}
    {p : ℕ} (h : encodeFrom code p t = .ok bytes) (q : ℕ) : decodeFrom code q bytes = .ok t := by
  induction t generalizing bytes p q with
  | nil =>
    cases h
    rfl
  | cons c rest ih =>
    rw [encodeFrom] at h
    split at h
    · rename_i hc
      obtain ⟨more, hmore, rfl⟩ := (map_eq_ok_iff _ _ _).mp h
      have hbyte : (UInt8.ofNat c.toNat).toNat = c.toNat := Utf8.toNat_byte (by omega)
      rw [decodeFrom, hbyte, if_pos hc, ih hmore, Char.ofNat_toNat]
      rfl
    · cases h

theorem exists_encodeFrom_iff (code : Code) (p : ℕ) (t : Text) :
    (∃ bytes, encodeFrom code p t = .ok bytes) ↔ ∀ c ∈ t, c.toNat < code.limit := by
  induction t generalizing p with
  | nil => simp [encodeFrom]
  | cons c rest ih =>
    rw [List.forall_mem_cons, ← ih (p + 1), encodeFrom]
    split
    · rename_i hc
      simp only [exists_map_eq_ok_iff, hc, true_and]
    · rename_i hc
      simp [hc]

theorem toNat_lt_of_decodeFrom {code : Code} {bytes : Bytes} {t : Text} {p : ℕ}
    (h : decodeFrom code p bytes = .ok t) : ∀ c ∈ t, c.toNat < code.limit := by
  induction bytes generalizing p t with
  | nil =>
    cases h
    simp
  | cons b rest ih =>
    rw [decodeFrom] at h
    split at h
    · rename_i hb
      obtain ⟨more, hmore, rfl⟩ := (map_eq_ok_iff _ _ _).mp h
      have hbyte : b.toNat < 256 := b.toNat_lt
      have hchar : (Char.ofNat b.toNat).toNat = b.toNat := toNat_ofNat (by omega)
      refine List.forall_mem_cons.mpr ⟨?_, ih hmore⟩
      rwa [hchar]
    · cases h

end Plain

namespace CodePage

theorem exists_encodeFrom_iff (p : CodePage) (position : ℕ) (t : Text) :
    (∃ bytes, p.encodeFrom position t = .ok bytes) ↔ ∀ c ∈ t, (p.byte? c).isSome = true := by
  induction t generalizing position with
  | nil => simp [encodeFrom]
  | cons c rest ih =>
    rw [List.forall_mem_cons, ← ih (position + 1), encodeFrom]
    split
    · rename_i b hb
      simp only [exists_map_eq_ok_iff, hb, Option.isSome_some, true_and]
    · rename_i hb
      simp [hb]

/-- A character that some byte stands for can be written. -/
theorem isSome_byte? {p : CodePage} {b : UInt8} {c : Char} (h : p.character? b = some c) :
    (p.byte? c).isSome = true := by
  rw [byte?, Option.isSome_map, List.find?_isSome]
  refine ⟨b.toNat, ?_, ?_⟩
  · rw [List.mem_reverse, List.mem_range]
    exact b.toNat_lt
  · rw [UInt8.ofNat_toNat, h]
    exact decide_eq_true rfl

theorem isSome_byte?_of_decodeFrom {p : CodePage} {bytes : Bytes} {t : Text} {position : ℕ}
    (h : p.decodeFrom position bytes = .ok t) : ∀ c ∈ t, (p.byte? c).isSome = true := by
  induction bytes generalizing position t with
  | nil =>
    cases h
    simp
  | cons b rest ih =>
    rw [decodeFrom] at h
    split at h
    · rename_i c hc
      obtain ⟨more, hmore, rfl⟩ := (map_eq_ok_iff _ _ _).mp h
      exact List.forall_mem_cons.mpr ⟨isSome_byte? hc, ih hmore⟩
    · cases h

end CodePage

/-- The tables of the encoding are kept here. -/
def IsKept (e : Encoding) : Prop := ∀ name, e ≠ .foreign name

/-- The encodings in which every text that was read can be written. -/
inductive IsStandard : Encoding → Prop
  | utf8 : IsStandard (.utf8 false)
  | utf16 : IsStandard (.utf16 none)
  | latin1 : IsStandard (.plain .latin1)
  | ascii : IsStandard (.plain .ascii)

theorem IsStandard.isKept {e : Encoding} (he : IsStandard e) : e.IsKept := by
  cases he <;> nofun

variable [Codecs]

/-- An encoding that writes anything at all writes the texts of which it writes each character. -/
theorem exists_encode_iff {e : Encoding} (he : e.IsKept) {nothing : Bytes}
    (h : e.encode [] = .ok nothing) (t : Text) :
    (∃ bytes, e.encode t = .ok bytes) ↔ ∀ c ∈ t, ∃ bytes, e.encode [c] = .ok bytes := by
  cases e with
  | utf8 marked => cases marked <;> simp [encode]
  | utf16 order => cases order <;> simp [encode]
  | utf32 order => cases order <;> simp [encode]
  | plain code => simp [encode, Plain.encode, Plain.exists_encodeFrom_iff]
  | page name =>
    cases hpage : codePageNamed? name with
    | none =>
      rw [encode, hpage] at h
      cases h
    | some p => simp [encode, hpage, CodePage.encode, CodePage.exists_encodeFrom_iff]
  | foreign name => exact absurd rfl (he name)
  | undefinedCode => cases h

/-- The encodings that are kept here write the characters that they read. -/
theorem exists_encode_singleton {e : Encoding} (he : e.IsKept) {bytes : Bytes}
    {source : Text} (h : e.decode bytes = .ok source) {c : Char} (hc : c ∈ source) :
    ∃ code, e.encode [c] = .ok code := by
  cases e with
  | utf8 marked => cases marked <;> exact ⟨_, rfl⟩
  | utf16 order => cases order <;> exact ⟨_, rfl⟩
  | utf32 order => cases order <;> exact ⟨_, rfl⟩
  | plain code =>
    simp only [decode, mapError_eq_ok_iff] at h
    refine (Plain.exists_encodeFrom_iff code 0 [c]).mpr ?_
    simpa using Plain.toNat_lt_of_decodeFrom h c hc
  | page name =>
    rw [decode] at h
    cases hpage : codePageNamed? name with
    | none =>
      rw [hpage] at h
      cases h
    | some p =>
      simp only [hpage, mapError_eq_ok_iff] at h
      rw [encode, hpage]
      refine (CodePage.exists_encodeFrom_iff p 0 [c]).mpr ?_
      simpa using CodePage.isSome_byte?_of_decodeFrom h c hc
  | foreign name => exact absurd rfl (he name)
  | undefinedCode => cases h

namespace IsStandard

variable {e : Encoding}

theorem decode_of_encode (he : IsStandard e) {t : Text} {bytes : Bytes}
    (h : e.encode t = .ok bytes) : e.decode bytes = .ok t := by
  cases he with
  | utf8 =>
    cases h
    rw [decode, Utf8.decode_encode, mapError_ok]
  | utf16 =>
    cases h
    exact Utf16.decodeMarked_encode t
  | latin1 =>
    rw [decode, Plain.decode, Plain.decodeFrom_encodeFrom (by decide) h, mapError_ok]
  | ascii =>
    rw [decode, Plain.decode, Plain.decodeFrom_encodeFrom (by decide) h, mapError_ok]

theorem encode_newline (he : IsStandard e) : ∃ line, e.encode ['\n'] = .ok line := by
  cases he <;> exact ⟨_, rfl⟩

/-- A text of characters that the encoding has read, and of line feeds, is written. -/
theorem exists_encode (he : IsStandard e) {t : Text}
    (h : ∀ c ∈ t, c = '\n' ∨ ∃ bytes source, e.decode bytes = .ok source ∧ c ∈ source) :
    ∃ bytes, e.encode t = .ok bytes := by
  obtain ⟨nothing, hnothing⟩ : ∃ nothing, e.encode [] = .ok nothing := by
    cases he <;> exact ⟨_, rfl⟩
  refine (exists_encode_iff he.isKept hnothing t).mpr fun c hc => ?_
  rcases h c hc with rfl | ⟨bytes, source, hdecode, hmem⟩
  · exact he.encode_newline
  · exact exists_encode_singleton he.isKept hdecode hmem

end IsStandard

end LicenseNotices.Encoding
