import LicenseNotices.Pattern.Basic
import Mathlib

/-!
What the readers of a pattern leave behind them. Each of them goes on behind some of the
tokens, or finds the pattern malformed. Only an escape by eight hexadecimal digits has a
fault of another kind, and only a head that starts with a question mark has flags for the
whole pattern.
-/
namespace LicenseNotices.Pattern

open Std.Do

set_option mvcgen.warning false

/-- The faults of a malformed pattern. -/
inductive IsMalformed : Fault → Prop
  | intro (cause : Cause) (offset : Option ℕ) : IsMalformed (.malformed cause offset)

/-- The faults of an escape that starts with the letter. -/
inductive IsEscapeFault (letter : Char) : Fault → Prop
  | malformed (cause : Cause) (offset : Option ℕ) : IsEscapeFault letter (.malformed cause offset)
  | codePoint (hletter : letter = 'U') : IsEscapeFault letter .codePointTooLarge

attribute [grind] IsMalformed IsEscapeFault

/-- The second cursor stands at the first or behind it. -/
def Cursor.Reaches (c d : Cursor) : Prop := d.tokens <:+ c.tokens

@[grind .] theorem Cursor.Reaches.refl (c : Cursor) : c.Reaches c := List.suffix_refl _

@[grind →] theorem Cursor.Reaches.trans {c d e : Cursor} (hcd : c.Reaches d) (hde : d.Reaches e) :
    c.Reaches e := List.IsSuffix.trans hde hcd

@[grind →] theorem Cursor.Reaches.mem {c d : Cursor} (h : c.Reaches d) {t : Token}
    (ht : t ∈ d.tokens) : t ∈ c.tokens := List.IsSuffix.mem ht h

@[grind →] theorem Cursor.reaches_of_tail {c d : Cursor} (h : d.tokens = c.tokens.tail) :
    c.Reaches d := by
  rw [Reaches, h]
  exact List.tail_suffix _

theorem Cursor.Reaches.length_le {c d : Cursor} (h : c.Reaches d) :
    d.tokens.length ≤ c.tokens.length := List.IsSuffix.length_le h

@[grind →] theorem Cursor.mem_of_peek? {c : Cursor} {t : Token} (h : c.peek? = some t) :
    t ∈ c.tokens := List.mem_of_mem_head? h

@[spec] theorem ok_spec {α : Type} (a : α) (Q : PostCond α (.except Fault .pure)) :
    ⦃Q.1 a⦄ (Except.ok a : Outcome α) ⦃Q⦄ := by
  intro h
  exact h

@[spec] theorem error_spec {α : Type} (f : Fault) (Q : PostCond α (.except Fault .pure)) :
    ⦃Q.2.1 f⦄ (Except.error f : Outcome α) ⦃Q⦄ := by
  intro h
  exact h

@[spec] theorem fault_spec {α : Type} (c : Cursor) (cause : Cause) (back : ℕ)
    (Q : PostCond α (.except Fault .pure)) :
    ⦃Q.2.1 (.malformed cause (some (c.offset - back)))⦄ (c.fault cause back : Outcome α) ⦃Q⦄ := by
  intro h
  exact h

@[spec 2000] theorem throw_spec {α : Type} (f : Fault) (Q : PostCond α (.except Fault .pure)) :
    ⦃Q.2.1 f⦄ (throw f : Outcome α) ⦃Q⦄ := by
  intro h
  exact h

namespace Cursor

@[spec] theorem checked_spec (c : Cursor) :
    ⦃⌜True⌝⦄ c.checked ⦃post⟨fun d => ⌜d = c⌝, fun f => ⌜IsMalformed f⌝⟩⦄ := by
  mvcgen [checked]
  exact .intro _ _

@[spec] theorem next_spec (c : Cursor) :
    ⦃⌜True⌝⦄ c.next
    ⦃post⟨fun a => ⌜a.1 = c.peek? ∧ a.2.tokens = c.tokens.tail⌝, fun f => ⌜IsMalformed f⌝⟩⦄ := by
  -- What is left are suffixes and equations, here and below, so linear arithmetic stays off.
  mvcgen [next]
  all_goals grind -linarith [peek?]

@[spec] theorem take_spec (c : Cursor) (d : Char) :
    ⦃⌜True⌝⦄ c.take d
    ⦃post⟨fun a => ⌜c.Reaches a.2 ∧ (a.1 = true → c.peek? = some (.plain d))⌝,
      fun f => ⌜IsMalformed f⌝⟩⦄ := by
  mvcgen [take]
  all_goals grind -linarith

@[spec] theorem takeWhile_spec (c : Cursor) (p : Char → Bool) (limit : ℕ) :
    ⦃⌜True⌝⦄ c.takeWhile p limit
    ⦃post⟨fun a => ⌜c.Reaches a.2 ∧ a.1.length ≤ limit ∧ ∀ d ∈ a.1, p d = true⌝,
      fun f => ⌜IsMalformed f⌝⟩⦄ := by
  induction limit generalizing c with
  | zero =>
    mvcgen [takeWhile]
    grind -linarith
  | succ limit ih =>
    mvcgen [takeWhile, ih]
    all_goals grind -linarith

@[spec] theorem takeName_spec (c : Cursor) (what : String) (terminator : Char) (limit : ℕ)
    (read : Text) :
    ⦃⌜True⌝⦄ c.takeName what terminator limit read
    ⦃post⟨fun a => ⌜c.Reaches a.2⌝, fun f => ⌜IsMalformed f⌝⟩⦄ := by
  induction limit generalizing c read with
  | zero =>
    mvcgen [takeName]
    all_goals grind -linarith
  | succ limit ih =>
    mvcgen [takeName, ih]
    all_goals grind -linarith

@[spec] theorem name_spec (c : Cursor) (what : String) (terminator : Char) :
    ⦃⌜True⌝⦄ c.name what terminator
    ⦃post⟨fun a => ⌜c.Reaches a.2⌝, fun f => ⌜IsMalformed f⌝⟩⦄ := by
  mvcgen [name]

end Cursor

@[spec] theorem checkLookbehind_spec (s : Scope) (group : ℕ) (c : Cursor) :
    ⦃⌜True⌝⦄ s.checkLookbehind group c ⦃post⟨fun _ => ⌜True⌝, fun f => ⌜IsMalformed f⌝⟩⦄ := by
  mvcgen [Scope.checkLookbehind]
  all_goals grind -linarith

/-- The value of a hexadecimal digit. -/
theorem hexValue_lt {d : Char} (h : isHexDigit d = true) :
    (if Text.isAsciiDigit d then d.toNat - 48 else Text.asciiLower d.toNat - 87) < 16 := by
  have hrange : 48 ≤ d.toNat ∧ d.toNat ≤ 57 ∨ 97 ≤ d.toNat ∧ d.toNat ≤ 102 ∨
      65 ≤ d.toNat ∧ d.toNat ≤ 70 := by
    simpa [isHexDigit, Text.isAsciiDigit, Char.le_def, UInt32.le_iff_toNat_le, or_assoc] using h
  have hdigit : Text.isAsciiDigit d = true ↔ 48 ≤ d.toNat ∧ d.toNat ≤ 57 := by
    simp [Text.isAsciiDigit, Char.le_def, UInt32.le_iff_toNat_le]
  simp only [hdigit, Text.asciiLower]
  split
  · omega
  · split <;> omega

theorem digitsValue_lt {digits : Text} (h : ∀ d ∈ digits, isHexDigit d = true) :
    digitsValue 16 digits < 16 ^ digits.length := by
  have hfold : ∀ n, digits.foldl (fun n d => n * 16 +
      (if Text.isAsciiDigit d then d.toNat - 48 else Text.asciiLower d.toNat - 87)) n <
        (n + 1) * 16 ^ digits.length := by
    induction digits with
    | nil => simp
    | cons d rest ih =>
      intro n
      obtain ⟨hd, hrest⟩ := List.forall_mem_cons.mp h
      have hvalue := hexValue_lt hd
      have hstep := ih hrest (n * 16 +
        (if Text.isAsciiDigit d then d.toNat - 48 else Text.asciiLower d.toNat - 87))
      rw [List.foldl_cons, List.length_cons]
      refine hstep.trans_le ?_
      rw [pow_succ', ← Nat.mul_assoc]
      exact Nat.mul_le_mul_right _ (by omega)
  simpa [digitsValue] using hfold 0

/-- Four digits or fewer make no code point that is too large. -/
theorem digitsValue_le {digits : Text} (h : ∀ d ∈ digits, isHexDigit d = true)
    (hlength : digits.length ≤ 4) : digitsValue 16 digits ≤ 0x7fffffff := by
  have hvalue := digitsValue_lt h
  have hpow : 16 ^ digits.length ≤ 16 ^ 4 := Nat.pow_le_pow_right (by decide) hlength
  omega

@[spec] theorem hexEscape_spec (letter : Char) (digits start : ℕ) (c : Cursor) :
    ⦃⌜True⌝⦄ hexEscape letter digits start c
    ⦃post⟨fun a => ⌜c.Reaches a.2⌝,
      fun f => ⌜IsMalformed f ∨ 4 < digits ∧ f = .codePointTooLarge⌝⟩⦄ := by
  mvcgen [hexEscape]
  all_goals grind -linarith [digitsValue_le]

@[spec] theorem nameEscape_spec [CharacterNames] (start : ℕ) (c : Cursor) :
    ⦃⌜True⌝⦄ nameEscape start c
    ⦃post⟨fun a => ⌜c.Reaches a.2⌝, fun f => ⌜IsMalformed f⌝⟩⦄ := by
  mvcgen [nameEscape]
  all_goals grind -linarith

@[spec] theorem octalEscape_spec (first : Char) (start : ℕ) (c : Cursor) :
    ⦃⌜True⌝⦄ octalEscape first start c
    ⦃post⟨fun a => ⌜c.Reaches a.2⌝, fun f => ⌜IsMalformed f⌝⟩⦄ := by
  mvcgen [octalEscape]
  all_goals grind -linarith

@[spec] theorem numberEscape_spec (first : Char) (start : ℕ) (s : Scope) (c : Cursor) :
    ⦃⌜True⌝⦄ numberEscape first start s c
    ⦃post⟨fun a => ⌜c.Reaches a.2⌝, fun f => ⌜IsMalformed f⌝⟩⦄ := by
  mvcgen [numberEscape]
  all_goals grind -linarith

@[spec] theorem commonEscape_spec [CharacterNames] (letter : Char) (start : ℕ) (c : Cursor) :
    ⦃⌜True⌝⦄ commonEscape letter start c
    ⦃post⟨fun a => ⌜c.Reaches a.2⌝, fun f => ⌜IsEscapeFault letter f⌝⟩⦄ := by
  mvcgen [commonEscape]
  all_goals grind -linarith

@[spec] theorem readEscape_spec [CharacterNames] (letter : Char) (start : ℕ) (s : Scope)
    (c : Cursor) :
    ⦃⌜True⌝⦄ readEscape letter start s c
    ⦃post⟨fun a => ⌜c.Reaches a.2⌝, fun f => ⌜IsEscapeFault letter f⌝⟩⦄ := by
  mvcgen [readEscape]
  all_goals grind -linarith

@[spec] theorem readSetEscape_spec [CharacterNames] (letter : Char) (start : ℕ) (c : Cursor) :
    ⦃⌜True⌝⦄ readSetEscape letter start c
    ⦃post⟨fun a => ⌜c.Reaches a.2⌝, fun f => ⌜IsEscapeFault letter f⌝⟩⦄ := by
  mvcgen [readSetEscape]
  all_goals grind -linarith

@[spec] theorem readSetItem_spec [CharacterNames] (t : Token) (c : Cursor) :
    ⦃⌜True⌝⦄ readSetItem t c
    ⦃post⟨fun a => ⌜c.Reaches a.2⌝,
      fun f => ⌜IsMalformed f ∨ f = .codePointTooLarge ∧ t = .escape 'U'⌝⟩⦄ := by
  mvcgen [readSetItem]
  all_goals grind -linarith

@[spec] theorem range_spec (first last : SetItem) (c : Cursor) :
    ⦃⌜True⌝⦄ range first last c ⦃post⟨fun _ => ⌜True⌝, fun f => ⌜IsMalformed f⌝⟩⦄ := by
  mvcgen [range]
  all_goals grind -linarith

@[spec] theorem readMembers_spec [CharacterNames] (start limit : ℕ) (read : List Member)
    (c : Cursor) :
    ⦃⌜True⌝⦄ readMembers start limit read c
    ⦃post⟨fun a => ⌜c.Reaches a.2⌝,
      fun f => ⌜IsMalformed f ∨ f = .codePointTooLarge ∧ .escape 'U' ∈ c.tokens⌝⟩⦄ := by
  induction limit generalizing read c with
  | zero =>
    mvcgen [readMembers]
    all_goals grind -linarith
  | succ limit ih =>
    mvcgen [readMembers, ih]
    all_goals grind -linarith

@[spec] theorem readSet_spec [CharacterNames] (c : Cursor) :
    ⦃⌜True⌝⦄ readSet c
    ⦃post⟨fun a => ⌜c.Reaches a.2 ∧ a.1.isLeaf = true⌝,
      fun f => ⌜IsMalformed f ∨ f = .codePointTooLarge ∧ .escape 'U' ∈ c.tokens⌝⟩⦄ := by
  mvcgen [readSet]
  all_goals grind -linarith [Node.isLeaf]

@[spec] theorem flagOn_spec (read : Flags) (letter : Char) (c : Cursor) :
    ⦃⌜True⌝⦄ flagOn read letter c ⦃post⟨fun _ => ⌜True⌝, fun f => ⌜IsMalformed f⌝⟩⦄ := by
  mvcgen [flagOn]
  all_goals grind -linarith

@[spec] theorem readFlagsOn_spec (limit : ℕ) (read : Flags) (letter : Char) (c : Cursor) :
    ⦃⌜True⌝⦄ readFlagsOn limit read letter c
    ⦃post⟨fun a => ⌜c.Reaches a.2.2⌝, fun f => ⌜IsMalformed f⌝⟩⦄ := by
  induction limit generalizing read letter c with
  | zero =>
    mvcgen [readFlagsOn]
    all_goals grind -linarith
  | succ limit ih =>
    mvcgen [readFlagsOn, ih]
    all_goals grind -linarith

@[spec] theorem readFlagsOff_spec (limit : ℕ) (read : Flags) (letter : Char) (c : Cursor) :
    ⦃⌜True⌝⦄ readFlagsOff limit read letter c
    ⦃post⟨fun a => ⌜c.Reaches a.2⌝, fun f => ⌜IsMalformed f⌝⟩⦄ := by
  induction limit generalizing read letter c with
  | zero =>
    mvcgen [readFlagsOff]
    all_goals grind -linarith
  | succ limit ih =>
    mvcgen [readFlagsOff, ih]
    all_goals grind -linarith

@[spec] theorem readOffPart_spec (c : Cursor) :
    ⦃⌜True⌝⦄ readOffPart c
    ⦃post⟨fun a => ⌜c.Reaches a.2⌝, fun f => ⌜IsMalformed f⌝⟩⦄ := by
  mvcgen [readOffPart]
  all_goals grind -linarith

@[spec] theorem readFlags_spec (first : Char) (c : Cursor) :
    ⦃⌜True⌝⦄ readFlags first c
    ⦃post⟨fun a => ⌜c.Reaches a.2⌝, fun f => ⌜IsMalformed f⌝⟩⦄ := by
  mvcgen [readFlags]
  all_goals grind -linarith

@[spec] theorem readGroupName_spec (terminator : Char) (c : Cursor) :
    ⦃⌜True⌝⦄ readGroupName terminator c
    ⦃post⟨fun a => ⌜c.Reaches a.2⌝, fun f => ⌜IsMalformed f⌝⟩⦄ := by
  mvcgen [readGroupName]
  all_goals grind -linarith

@[spec] theorem readNamedReference_spec (s : Scope) (c : Cursor) :
    ⦃⌜True⌝⦄ readNamedReference s c
    ⦃post⟨fun a => ⌜c.Reaches a.2⌝, fun f => ⌜IsMalformed f⌝⟩⦄ := by
  mvcgen [readNamedReference]
  all_goals grind -linarith

@[spec] theorem readCondition_spec (s : Scope) (c : Cursor) :
    ⦃⌜True⌝⦄ readCondition s c
    ⦃post⟨fun a => ⌜c.Reaches a.2⌝, fun f => ⌜IsMalformed f⌝⟩⦄ := by
  mvcgen [readCondition]
  all_goals grind -linarith

@[spec] theorem readLook_spec (first : Char) (c : Cursor) :
    ⦃⌜True⌝⦄ readLook first c
    ⦃post⟨fun a => ⌜c.Reaches a.2⌝, fun f => ⌜IsMalformed f⌝⟩⦄ := by
  mvcgen [readLook]
  all_goals grind -linarith

@[spec] theorem readNamed_spec (s : Scope) (c : Cursor) :
    ⦃⌜True⌝⦄ readNamed s c
    ⦃post⟨fun a => ⌜c.Reaches a.2⌝, fun f => ⌜IsMalformed f⌝⟩⦄ := by
  mvcgen [readNamed]
  all_goals grind -linarith

/-- Every head that is not that of a plain capture starts with a question mark. -/
@[spec] theorem readHead_spec (s : Scope) (c : Cursor) :
    ⦃⌜True⌝⦄ readHead s c
    ⦃post⟨fun a => ⌜c.Reaches a.2 ∧
        (a.1 = .capture none ∨ c.peek? = some (.plain '?'))⌝,
      fun f => ⌜IsMalformed f⌝⟩⦄ := by
  mvcgen [readHead]
  all_goals grind -linarith

@[spec] theorem skipComment_spec (start limit : ℕ) (c : Cursor) :
    ⦃⌜True⌝⦄ skipComment start limit c
    ⦃post⟨fun d => ⌜c.Reaches d⌝, fun f => ⌜IsMalformed f⌝⟩⦄ := by
  induction limit generalizing c with
  | zero =>
    mvcgen [skipComment]
    all_goals grind -linarith
  | succ limit ih =>
    mvcgen [skipComment, ih]
    all_goals grind -linarith

end LicenseNotices.Pattern
