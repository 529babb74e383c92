import LicenseNotices.Proofs.PatternDepth
import LicenseNotices.Proofs.PatternReading

/-!
Why a text is no pattern, as far as it shows in the text. A fault other than that the text is
malformed comes from bounds in braces, from an escape by eight hexadecimal digits, from the head
of a group, or from more parentheses than may stand inside one another. One invariant carries this
through the reader: it counts the groups that are closed, that are open and that are still to come.
-/
namespace LicenseNotices.Pattern

open Std.Do

set_option mvcgen.warning false

/-- The faults of a bound among that many tokens. -/
inductive IsBoundFault (length : ℕ) : Fault → Prop
  | malformed (cause : Cause) (offset : Option ℕ) : IsBoundFault length (.malformed cause offset)
  | tooLarge : IsBoundFault length .repetitionTooLarge
  | tooLong {count : ℕ} (hlimit : Text.integerDigitLimit < count) (hcount : count ≤ length) :
      IsBoundFault length (.tooManyDigits count)

attribute [grind] IsBoundFault

theorem IsBoundFault.mono {m n : ℕ} {f : Fault} (h : IsBoundFault m f) (hmn : m ≤ n) :
    IsBoundFault n f := by
  cases h with
  | malformed cause offset => exact .malformed cause offset
  | tooLarge => exact .tooLarge
  | tooLong hlimit hcount => exact .tooLong hlimit (hcount.trans hmn)

namespace Reader

/-- What reading on does to a reader: it opens so many groups at most and closes none. Only where
it opens one the flags can change. -/
structure Leads (opened : ℕ) (r : Reader) (c : Cursor) (s : Reader) (d : Cursor) : Prop where
  reaches : c.Reaches d
  within {m : ℕ} : r.Within m → s.Within m
  enclosing : s.enclosing.length ≤ r.enclosing.length + opened
  flags : opened = 0 → s.scope.flags = r.scope.flags

namespace Leads

variable {opened : ℕ} {r : Reader} {c d : Cursor}

@[grind .] theorem stay (opened : ℕ) (r : Reader) (h : c.Reaches d) : r.Leads opened c r d :=
  ⟨h, id, Nat.le_add_right _ _, fun _ => rfl⟩

@[grind .] theorem pushNode (opened : ℕ) (r : Reader) (h : c.Reaches d) {n : Node}
    (hn : n.depth = 0) : r.Leads opened c (r.pushNode n) d :=
  ⟨h, fun h => h.pushNode hn, Nat.le_add_right _ _, fun _ => rfl⟩

theorem openFrame (r : Reader) (h : c.Reaches d) (s : Scope) (kind : FrameKind) (start : ℕ)
    (verbose : Bool) : r.Leads 1 c ({ r with scope := s }.openFrame kind start verbose) d where
  reaches := h
  within h :=
    (⟨h.enclosing, h.frame⟩ : Within _ { r with scope := s }).openFrame kind start verbose
  enclosing := Nat.le_refl _
  flags := by simp

/-- A quantifier adds a level to the last item, unless that is a repetition. -/
theorem repeated (h : c.Reaches d) {x : Item} (hlast : r.frame.items.getLast? = some x)
    (hx : x.isRepeated = false) (mode : RepeatMode) (least : ℕ) (most : Option ℕ) :
    r.Leads 0 c (r.update fun f =>
      { f with items := f.items.dropLast ++ [.node (.repeated mode least most x.body)] }) d where
  reaches := h
  within h := h.replaceLast
    ((h.frame.items x (List.mem_of_getLast? hlast)).repeated hx mode least most)
  enclosing := Nat.le_refl _
  flags _ := rfl

@[grind →] theorem of_reaches {s : Reader} {e : Cursor} (hcd : c.Reaches d)
    (h : r.Leads opened d s e) : r.Leads opened c s e :=
  { h with reaches := hcd.trans h.reaches }

end Leads

@[spec] theorem skipLine_spec (limit : ℕ) (c : Cursor) :
    ⦃⌜True⌝⦄ skipLine limit c
    ⦃post⟨fun d => ⌜c.Reaches d⌝, fun f => ⌜IsMalformed f⌝⟩⦄ := by
  induction limit generalizing c with
  | zero =>
    mvcgen [skipLine]
    all_goals grind -linarith
  | succ limit ih =>
    mvcgen [skipLine, ih]
    all_goals grind -linarith

@[spec] theorem readBounds_spec (c : Cursor) :
    ⦃⌜True⌝⦄ readBounds c
    ⦃post⟨fun a => ⌜∀ low high d, a = some (low, high, d) →
        c.Reaches d ∧ low.length ≤ c.tokens.length ∧ high.length ≤ c.tokens.length⌝,
      fun f => ⌜IsMalformed f⌝⟩⦄ := by
  mvcgen [readBounds]
  all_goals grind -linarith [→ Cursor.Reaches.length_le]

@[spec] theorem bound_spec (digits : Text) :
    ⦃⌜True⌝⦄ bound digits
    ⦃post⟨fun _ => ⌜True⌝,
      fun f => ⌜f = .repetitionTooLarge ∨
        f = .tooManyDigits digits.length ∧ Text.integerDigitLimit < digits.length⌝⟩⦄ := by
  mvcgen [bound]
  all_goals grind -linarith

@[spec] theorem quantify_spec (r : Reader) (least : ℕ) (most : Option ℕ) (start : ℕ)
    (c : Cursor) :
    ⦃⌜True⌝⦄ r.quantify least most start c
    ⦃post⟨fun a => ⌜r.Leads 0 c a.1 a.2⌝, fun f => ⌜IsMalformed f⌝⟩⦄ := by
  mvcgen [quantify]
  case vc4 | vc5 =>
    exact .repeated (by grind -linarith) ‹_› (Item.isRepeated_eq_false ‹_›) _ _ _
  all_goals grind -linarith

@[spec] theorem quantifyByBounds_spec (r : Reader) (c : Cursor) :
    ⦃⌜True⌝⦄ r.quantifyByBounds c
    ⦃post⟨fun a => ⌜r.Leads 0 c a.1 a.2⌝, fun f => ⌜IsBoundFault c.tokens.length f⌝⟩⦄ := by
  mvcgen [quantifyByBounds]
  all_goals grind -linarith [Node.depth]

@[spec] theorem readEscaped_spec [CharacterNames] (r : Reader) (d : Char) (c : Cursor) :
    ⦃⌜True⌝⦄ r.readEscaped d c
    ⦃post⟨fun a => ⌜r.Leads 0 c a.1 a.2⌝, fun f => ⌜IsEscapeFault d f⌝⟩⦄ := by
  mvcgen [readEscaped]
  all_goals grind -linarith [Node.depth]

theorem flags_openGroup {s opened : Scope} {name : Option Text} {group : ℕ}
    (h : s.openGroup name = .ok (group, opened)) : opened.flags = s.flags := by
  unfold Scope.openGroup at h
  grind -linarith

@[spec] theorem openGroup_spec (r : Reader) (start : ℕ) (head : GroupHead) (c : Cursor) :
    ⦃⌜True⌝⦄ r.openGroup start head c
    ⦃post⟨fun a => ⌜r.Leads 1 c a.1 a.2 ∧
        (a.1.scope.flags = r.scope.flags ∨ ∃ flags, head = .global flags)⌝,
      fun f => ⌜IsMalformed f⌝⟩⦄ := by
  mvcgen [openGroup]
  case vc2 => exact ⟨.pushNode _ _ (.refl c) rfl, .inl rfl⟩
  case vc3 =>
    exact ⟨⟨.refl c, fun h => ⟨h.enclosing, h.frame.alternatives, h.frame.items⟩,
      Nat.le_succ _, by simp⟩, .inr ⟨_, rfl⟩⟩
  case vc5 hopen => exact ⟨.openFrame r (.refl c) _ _ _ _, .inl (flags_openGroup hopen)⟩
  case vc7 | vc8 => exact ⟨.openFrame r (.refl c) r.scope _ _ _, .inl rfl⟩
  case vc9 =>
    refine ⟨.openFrame r (.refl c) _ _ _ _, .inl ?_⟩
    grind -linarith [openFrame]
  case vc10 => exact ⟨.openFrame r (.refl c) _ _ _ _, .inl rfl⟩
  all_goals grind -linarith

@[spec] theorem readPlain_spec [CharacterNames] (r : Reader) (d : Char) (c : Cursor) :
    ⦃⌜True⌝⦄ r.readPlain d c
    ⦃post⟨fun a => ⌜(d ≠ '(' → r.Leads 0 c a.1 a.2) ∧ (d = '(' → r.Leads 1 c a.1 a.2 ∧
        (a.1.scope.flags = r.scope.flags ∨ c.peek? = some (.plain '?')))⌝,
      fun f => ⌜IsMalformed f ∨ f = .codePointTooLarge ∧ .escape 'U' ∈ c.tokens ∨
        d = '\x7b' ∧ IsBoundFault c.tokens.length f⌝⟩⦄ := by
  mvcgen [readPlain]
  all_goals grind -linarith [Node.depth, Node.depth_eq_zero_of_isLeaf]

@[spec] theorem checked_spec [NestingLimits] (r : Reader) :
    ⦃⌜True⌝⦄ r.checked
    ⦃post⟨fun s => ⌜s = r⌝,
      fun f => ⌜f = .nestedTooDeep ∧ NestingLimits.groups < r.enclosing.length⌝⟩⦄ := by
  mvcgen [checked]

end Reader

/-- The faults of a pattern with those tokens. -/
inductive IsFaultOf [NestingLimits] (ts : List Token) : Fault → Prop
  | malformed {f : Fault} (h : IsMalformed f) : IsFaultOf ts f
  | bound {f : Fault} (hbrace : .plain '\x7b' ∈ ts) (h : IsBoundFault ts.length f) :
      IsFaultOf ts f
  | codePoint (hescape : .escape 'U' ∈ ts) : IsFaultOf ts .codePointTooLarge
  | flags (hhead : [.plain '(', .plain '?'] <:+: ts) : IsFaultOf ts .asciiAndUnicode
  | groups (hopen : NestingLimits.groups < ts.count (.plain '(')) : IsFaultOf ts .nestedTooDeep
  | levels (hdepth : NestingLimits.levels < 3 * ts.count (.plain '(') + 2) :
      IsFaultOf ts .nestedTooDeep

/-- What holds while the tokens are read. Every group is closed, open or still to come, and the
flags are those at the start unless there is a head of a group that may change them. -/
structure Reads (ts : List Token) (flags : Flags) (r : Reader) (c : Cursor) : Prop where
  rest : c.tokens <:+ ts
  groups : ∃ m, r.Within m ∧
    m + r.enclosing.length + c.tokens.count (.plain '(') ≤ ts.count (.plain '(')
  flags : r.scope.flags = flags ∨ [.plain '(', .plain '?'] <:+: ts

namespace Reads

variable {ts : List Token} {flags : Flags} {r s : Reader} {c d : Cursor}

theorem leads (h : Reads ts flags r c) (hleads : r.Leads 0 c s d) : Reads ts flags s d where
  rest := List.IsSuffix.trans hleads.reaches h.rest
  groups := by
    obtain ⟨m, hwithin, hcount⟩ := h.groups
    have htokens := hleads.reaches.sublist.count_le (.plain '(')
    have henclosing := hleads.enclosing
    exact ⟨m, hleads.within hwithin, by omega⟩
  flags := by
    rw [hleads.flags rfl]
    exact h.flags

theorem reaches (h : Reads ts flags r c) (hcd : c.Reaches d) : Reads ts flags r d :=
  h.leads (.stay 0 r hcd)

/-- Behind an open parenthesis one group more may be open. -/
theorem opens (h : Reads ts flags r c) (hc : c.tokens = .plain '(' :: d.tokens) {e : Cursor}
    (hleads : r.Leads 1 d s e)
    (hflags : s.scope.flags = r.scope.flags ∨ d.peek? = some (.plain '?')) :
    Reads ts flags s e where
  rest := by
    have hd : d.tokens <:+ c.tokens := hc ▸ List.suffix_cons _ _
    exact (List.IsSuffix.trans hleads.reaches hd).trans h.rest
  groups := by
    obtain ⟨m, hwithin, hcount⟩ := h.groups
    have htokens := hleads.reaches.sublist.count_le (.plain '(')
    have henclosing := hleads.enclosing
    rw [hc, List.count_cons_self] at hcount
    exact ⟨m, hleads.within hwithin, by omega⟩
  flags := by
    rcases hflags with heq | hhead
    · rw [heq]
      exact h.flags
    · obtain ⟨rest, hd⟩ := List.head?_eq_some_iff.mp hhead
      right
      rw [hd] at hc
      exact (hc ▸ List.prefix_append [_, _] rest : _ <+: c.tokens).isInfix.trans h.rest.isInfix

theorem nextAlternative (h : Reads ts flags r c) : Reads ts flags r.nextAlternative c where
  rest := h.rest
  groups := by
    obtain ⟨m, hwithin, hcount⟩ := h.groups
    exact ⟨m, hwithin.nextAlternative, hcount⟩
  flags := h.flags

theorem close (h : Reads ts flags r c) (hclose : r.close = some s) : Reads ts flags s c where
  rest := h.rest
  groups := by
    obtain ⟨m, hwithin, hcount⟩ := h.groups
    obtain ⟨hwithin, henclosing, -⟩ := hwithin.close hclose
    exact ⟨m + 1, hwithin, by omega⟩
  flags := by
    obtain ⟨m, hwithin, -⟩ := h.groups
    obtain ⟨-, -, hflags⟩ := hwithin.close hclose
    rw [hflags]
    exact h.flags

/-- Reading on behind a plain character. -/
theorem plain {e : Cursor} {o : Char} (h : Reads ts flags r c) (hpeek : c.peek? = some (.plain o))
    (hd : d.tokens = c.tokens.tail) (hother : o ≠ '(' → r.Leads 0 d s e)
    (hopen : o = '(' → r.Leads 1 d s e ∧
      (s.scope.flags = r.scope.flags ∨ d.peek? = some (.plain '?'))) : Reads ts flags s e := by
  by_cases ho : o = '('
  · subst ho
    obtain ⟨hleads, hflags⟩ := hopen rfl
    exact h.opens (hd ▸ List.eq_cons_of_mem_head? hpeek) hleads hflags
  · exact (h.reaches (Cursor.reaches_of_tail hd)).leads (hother ho)

theorem enclosing_le (h : Reads ts flags r c) : r.enclosing.length ≤ ts.count (.plain '(') := by
  obtain ⟨m, -, hcount⟩ := h.groups
  omega

theorem fault_of_plain [NestingLimits] {f : Fault} {o : Char} (h : Reads ts flags r c)
    (hpeek : c.peek? = some (.plain o)) (hcd : c.Reaches d)
    (hfault : IsMalformed f ∨ f = .codePointTooLarge ∧ .escape 'U' ∈ d.tokens ∨
      o = '\x7b' ∧ IsBoundFault d.tokens.length f) : IsFaultOf ts f := by
  have hd := (h.reaches hcd).rest
  rcases hfault with hmalformed | ⟨rfl, hescape⟩ | ⟨rfl, hbound⟩
  · exact .malformed hmalformed
  · exact .codePoint (hd.mem hescape)
  · exact .bound (h.rest.mem (Cursor.mem_of_peek? hpeek)) (hbound.mono hd.length_le)

theorem fault_of_escape [NestingLimits] {f : Fault} {o : Char} (h : Reads ts flags r c)
    (hpeek : c.peek? = some (.escape o)) (hfault : IsEscapeFault o f) : IsFaultOf ts f := by
  cases hfault with
  | malformed cause offset => exact .malformed (.intro cause offset)
  | codePoint hletter =>
    subst hletter
    exact .codePoint (h.rest.mem (Cursor.mem_of_peek? hpeek))

theorem fault_of_enclosing [NestingLimits] (h : Reads ts flags r c)
    (hlimit : NestingLimits.groups < r.enclosing.length) : IsFaultOf ts .nestedTooDeep :=
  .groups (hlimit.trans_le h.enclosing_le)

theorem fault_of_depth [NestingLimits] (h : Reads ts flags r c)
    (hlimit : NestingLimits.levels <
      (Node.ofList (joinAlternatives r.frame.allAlternatives)).depth) :
    IsFaultOf ts .nestedTooDeep := by
  obtain ⟨m, hwithin, hcount⟩ := h.groups
  have hdepth := hwithin.depth_le
  exact .levels (by omega)

theorem fault_of_flags [NestingLimits] (h : Reads ts flags r c)
    (hstart : (flags.ascii && flags.unicode) = false) (hascii : r.scope.flags.ascii = true)
    (hunicode : r.scope.flags.unicode = true) : IsFaultOf ts .asciiAndUnicode := by
  rcases h.flags with heq | hhead
  · rw [← heq, hascii, hunicode] at hstart
    cases hstart
  · exact .flags hhead

theorem start (ts : List Token) (scope : Scope) (kind : FrameKind) (start : ℕ) (verbose : Bool) :
    Reads ts scope.flags { scope, frame := { kind, start, verbose } } ⟨ts, 0⟩ where
  rest := List.suffix_refl ts
  groups := ⟨0, ⟨by simp, .empty 0 kind start verbose⟩, by simp⟩
  flags := .inl rfl

end Reads

/-- What holds while tokens are read holds to the end. -/
theorem readAll_spec [CharacterNames] [NestingLimits] (ts : List Token) (flags : Flags)
    (limit : ℕ) (r : Reader) (c : Cursor) :
    ⦃⌜Reads ts flags r c⌝⦄ Reader.readAll limit r c
    ⦃post⟨fun a => ⌜Reads ts flags a.1 a.2⌝, fun f => ⌜IsFaultOf ts f⌝⟩⦄ := by
  induction limit generalizing r c with
  | zero => mvcgen [Reader.readAll]
  | succ limit ih =>
    mvcgen [Reader.readAll, ih]
    -- A bar.
    case vc2 =>
      intro h
      split
      · exact .malformed (.intro _ _)
      · mvcgen [ih]
        · exact h.nextAlternative.reaches (Cursor.reaches_of_tail (And.right ‹_›))
        · exact .malformed
    -- A closing parenthesis.
    case vc4 hclose h _ hnext =>
      exact (h.close hclose).reaches (Cursor.reaches_of_tail hnext.2)
    -- Another plain character.
    case vc6 hpeek h _ hnext _ hread _ heq =>
      exact heq ▸ h.plain hpeek hnext.2 hread.1 hread.2
    case vc7 hpeek h _ hnext _ hread _ =>
      rintro rfl hlimit
      exact (h.plain hpeek hnext.2 hread.1 hread.2).fault_of_enclosing hlimit
    case vc8 hpeek h _ hnext _ =>
      exact h.fault_of_plain hpeek (Cursor.reaches_of_tail hnext.2)
    -- An escape.
    case vc10 h _ hnext _ hread =>
      exact (h.reaches (Cursor.reaches_of_tail hnext.2)).leads hread
    case vc11 hpeek h _ _ _ => exact h.fault_of_escape hpeek
    -- A backslash at the end, and the faults of moving on.
    case vc13 => exact .malformed (.intro _ _)
    all_goals exact .malformed

@[spec] theorem ofText_spec (t : Text) :
    ⦃⌜True⌝⦄ Cursor.ofText t
    ⦃post⟨fun c => ⌜c = ⟨Token.ofText t, 0⟩⌝, fun f => ⌜IsMalformed f⌝⟩⦄ := by
  mvcgen [Cursor.ofText]

@[spec] theorem settleFlags_spec (flags : Flags) :
    ⦃⌜True⌝⦄ settleFlags flags
    ⦃post⟨fun _ => ⌜True⌝,
      fun f => ⌜f = .asciiAndUnicode ∧ flags.ascii = true ∧ flags.unicode = true⌝⟩⦄ := by
  mvcgen [settleFlags]

theorem parse_spec [CharacterNames] [NestingLimits] (flags : Flags)
    (hstart : (flags.ascii && flags.unicode) = false) (t : Text) :
    ⦃⌜True⌝⦄ parse flags t
    ⦃post⟨fun _ => ⌜True⌝, fun f => ⌜IsFaultOf (Token.ofText t) f⌝⟩⦄ := by
  have hread := readAll_spec (Token.ofText t) flags
  mvcgen [parse, hread]
  case vc1 hc => exact hc ▸ .start (Token.ofText t) { flags } .top 0 flags.verbose
  case vc5 h _ _ _ _ hdepth => exact h.fault_of_depth hdepth
  case vc7 h _ =>
    rintro rfl hascii hunicode
    exact h.fault_of_flags hstart hascii hunicode
  case vc8 => exact .malformed
  all_goals exact .malformed (.intro _ _)

namespace Token

theorem flatMap_text_ofText (t : Text) : (ofText t).flatMap text = t := by
  induction t using ofText.induct with
  | case1 => rfl
  | case2 => rfl
  | case3 c rest ih => simp [ofText, text, ih]
  | case4 c rest hend hescape ih =>
    rw [ofText, List.flatMap_cons, ih, text, List.singleton_append]
    · exact hend
    · exact hescape

theorem infix_of_ofText {ts : List Token} {t : Text} (h : ts <:+: ofText t) :
    ts.flatMap text <:+: t := by
  obtain ⟨before, behind, heq⟩ := h
  refine ⟨before.flatMap text, behind.flatMap text, ?_⟩
  rw [← List.flatMap_append, ← List.flatMap_append, heq, flatMap_text_ofText]

theorem text_infix {t : Text} {x : Token} (h : x ∈ ofText t) : x.text <:+: t := by
  obtain ⟨before, behind, heq⟩ := List.append_of_mem h
  have hinfix : [x] <:+: ofText t := ⟨before, behind, by simp [heq]⟩
  simpa using infix_of_ofText hinfix

theorem length_le_flatMap_text (ts : List Token) : ts.length ≤ (ts.flatMap text).length := by
  induction ts with
  | nil => rfl
  | cons x rest ih =>
    have hx : 1 ≤ x.text.length := by cases x <;> simp [text]
    rw [List.flatMap_cons, List.length_append, List.length_cons]
    omega

theorem count_le_flatMap_text (c : Char) (ts : List Token) :
    ts.count (.plain c) ≤ (ts.flatMap text).count c := by
  induction ts with
  | nil => rfl
  | cons x rest ih =>
    have hx : (if x == .plain c then 1 else 0) ≤ x.text.count c := by
      split <;> simp_all [text]
    rw [List.flatMap_cons, List.count_append, List.count_cons]
    omega

end Token

/-- What a text has in it that is no pattern for a fault other than that it is malformed. -/
inductive Fault.ShowsIn [NestingLimits] (t : Text) : Fault → Prop
  | malformed (cause : Cause) (offset : Option ℕ) : ShowsIn t (.malformed cause offset)
  | repetitionTooLarge (hbrace : '\x7b' ∈ t) : ShowsIn t .repetitionTooLarge
  | tooManyDigits {count : ℕ} (hbrace : '\x7b' ∈ t) (hlimit : Text.integerDigitLimit < count)
      (hcount : count ≤ t.length) : ShowsIn t (.tooManyDigits count)
  | codePointTooLarge (hescape : ['\\', 'U'] <:+: t) : ShowsIn t .codePointTooLarge
  | asciiAndUnicode (hhead : ['(', '?'] <:+: t) : ShowsIn t .asciiAndUnicode
  | nestedTooDeep
      (hdepth : NestingLimits.groups < t.count '(' ∨ NestingLimits.levels < 3 * t.count '(' + 2) :
      ShowsIn t .nestedTooDeep

theorem IsFaultOf.showsIn [NestingLimits] {t : Text} {f : Fault}
    (h : IsFaultOf (Token.ofText t) f) : f.ShowsIn t := by
  have htext := Token.flatMap_text_ofText t
  cases h with
  | malformed h => cases h with | intro cause offset => exact .malformed cause offset
  | bound hbrace h =>
    have hbrace : '\x7b' ∈ t := (Token.text_infix hbrace).subset (by simp [Token.text])
    cases h with
    | malformed cause offset => exact .malformed cause offset
    | tooLarge => exact .repetitionTooLarge hbrace
    | tooLong hlimit hcount =>
      have hlength := Token.length_le_flatMap_text (Token.ofText t)
      rw [htext] at hlength
      exact .tooManyDigits hbrace hlimit (hcount.trans hlength)
  | codePoint hescape => exact .codePointTooLarge (Token.text_infix hescape)
  | flags hhead => exact .asciiAndUnicode (Token.infix_of_ofText hhead)
  | groups hopen =>
    have hcount := Token.count_le_flatMap_text '(' (Token.ofText t)
    rw [htext] at hcount
    exact .nestedTooDeep (.inl (hopen.trans_le hcount))
  | levels hdepth =>
    have hcount := Token.count_le_flatMap_text '(' (Token.ofText t)
    rw [htext] at hcount
    exact .nestedTooDeep (.inr (by omega))

/-- The fault of a text that is no pattern shows in it. -/
theorem fault_showsIn [CharacterNames] [NestingLimits] {flags : Flags}
    (hstart : (flags.ascii && flags.unicode) = false) {t : Text} {f : Fault}
    (h : parse flags t = .error f) : f.ShowsIn t := by
  have hparse := parse_spec flags hstart t
  rw [h] at hparse
  exact IsFaultOf.showsIn (hparse trivial)

end LicenseNotices.Pattern
