import LicenseNotices.Document.Json
import LicenseNotices.Proofs.Results
import Mathlib.Data.List.TakeWhile
import Mathlib.Order.MinMax

/-!
How deep a document in JSON is nested. Brackets and braces that stand in no string tell how many
arrays and objects are open at each place of a text, and this is how many reading has to go on
with: it gives up in a text that is nested deeper than the limit, and in no other that it reads with
another limit. The same walk over the text shows where an escape stands that is not read.
-/
namespace LicenseNotices.JsonNesting

open Document Document.Json Results

/-- Where a character stands: between the strings of the document, in one, or in an escape. -/
inductive Mode
  | between
  | string
  | escape

/-- The greatest number of arrays and objects that are open at a time from here on, where there
are `depth` of them. -/
def nestingFrom : Mode → ℕ → Text → ℕ
  | _, depth, [] => depth
  | .between, depth, c :: rest =>
      if c = '[' ∨ c = '\x7b' then nestingFrom .between (depth + 1) rest
      else if c = ']' ∨ c = '\x7d' then max depth (nestingFrom .between (depth - 1) rest)
      else if c = '\x22' then nestingFrom .string depth rest
      else nestingFrom .between depth rest
  | .string, depth, c :: rest =>
      if c = '\\' then nestingFrom .escape depth rest
      else if c = '\x22' then nestingFrom .between depth rest
      else nestingFrom .string depth rest
  | .escape, depth, _ :: rest => nestingFrom .string depth rest

/-- How many arrays and objects of a text stand inside one another. -/
def nesting (source : Text) : ℕ := nestingFrom .between 0 source

theorem le_nestingFrom (mode : Mode) (depth : ℕ) (t : Text) : depth ≤ nestingFrom mode depth t := by
  fun_induction nestingFrom mode depth t with
  | case1 => exact Nat.le_refl _
  | case2 depth c rest hopen ih => exact Nat.le_of_succ_le ih
  | case3 => exact Nat.le_max_left _ _
  | _ => assumption

/-- A character that opens and closes nothing. -/
def IsPlain (c : Char) : Prop := c ∉ ['[', ']', '\x7b', '\x7d', '\x22']

instance (c : Char) : Decidable (IsPlain c) := inferInstanceAs (Decidable (_ ∉ _))

theorem nestingFrom_drop {t : Text} {n : ℕ} (h : ∀ c ∈ t.take n, IsPlain c) (depth : ℕ) :
    nestingFrom .between depth (t.drop n) = nestingFrom .between depth t := by
  induction n generalizing t with
  | zero => rfl
  | succ n ih =>
    cases t with
    | nil => rfl
    | cons c rest =>
      rw [List.take_succ_cons, List.forall_mem_cons] at h
      have hplain : IsPlain c := h.1
      simp only [IsPlain, List.mem_cons, List.not_mem_nil, or_false, not_or] at hplain
      rw [List.drop_succ_cons, ih h.2]
      simp [nestingFrom, hplain]

theorem nestingFrom_string_drop {t : Text} {n : ℕ}
    (h : ∀ c ∈ t.take n, c ≠ '\\' ∧ c ≠ '\x22') (depth : ℕ) :
    nestingFrom .string depth (t.drop n) = nestingFrom .string depth t := by
  induction n generalizing t with
  | zero => rfl
  | succ n ih =>
    cases t with
    | nil => rfl
    | cons c rest =>
      rw [List.take_succ_cons, List.forall_mem_cons] at h
      rw [List.drop_succ_cons, ih h.2]
      simp [nestingFrom, h.1]

/-- The rest is what stands at its offset in the source. -/
def IsRestOf (source : Text) (r : Rest) : Prop := r.text = source.drop r.offset

theorem isRestOf_start (source : Text) : IsRestOf source ⟨source, 0⟩ := rfl

theorem IsRestOf.drop {source : Text} {r : Rest} (h : IsRestOf source r) (n : ℕ) :
    IsRestOf source (r.drop n) := by
  change r.text.drop n = source.drop (r.offset + n)
  rw [h, List.drop_drop]

/-- The escape of a surrogate stands at an offset of the source. -/
def HasSurrogateEscape (source : Text) (offset : ℕ) : Prop :=
  ∃ rest n, source.drop offset = '\\' :: 'u' :: rest ∧ hexNumber? 4 rest = some n ∧
    0xd800 ≤ n ∧ n ≤ 0xdfff

theorem isHexDigit_ne {c : Char} (h : isHexDigit c = true) : c ≠ '\\' ∧ c ≠ '\x22' := by
  constructor <;> rintro rfl <;> exact absurd h (by decide)

theorem nestingFrom_escape {t rest : Text} {n : ℕ} (h : t = '\\' :: 'u' :: rest)
    (hhex : hexNumber? 4 rest = some n) (depth : ℕ) :
    nestingFrom .string depth (t.drop 6) = nestingFrom .string depth t := by
  have hdigits : ∀ c ∈ rest.take 4, isHexDigit c = true := by
    rw [hexNumber?] at hhex
    split at hhex
    · rename_i hall
      exact List.all_eq_true.mp hall.2
    · cases hhex
  subst h
  change nestingFrom .string depth (rest.drop 4) = _
  rw [nestingFrom_string_drop fun c hc => isHexDigit_ne (hdigits c hc)]
  simp [nestingFrom]

/-- What reading a string from the rest on has come to. -/
def ReadsString (r : Rest) : Outcome (Text × Rest) → Prop
  | .ok (_, r') => (∀ source, IsRestOf source r → IsRestOf source r') ∧
      ∀ depth, nestingFrom .between depth r'.text = nestingFrom .string depth r.text
  | .error (.loneSurrogate offset) => ∀ source, IsRestOf source r → HasSurrogateEscape source offset
  | .error (.tooDeep _) => False
  | .error _ => True

theorem ReadsString.drop {r : Rest} {n : ℕ} {x : Outcome (Text × Rest)}
    (h : ReadsString (r.drop n) x)
    (hn : ∀ depth, nestingFrom .string depth (r.text.drop n) = nestingFrom .string depth r.text) :
    ReadsString r x := by
  cases x with
  | ok read =>
    exact ⟨fun source hr => h.1 source (hr.drop n), fun depth => (h.2 depth).trans (hn depth)⟩
  | error e =>
    cases e with
    | loneSurrogate offset => exact fun source hr => h source (hr.drop n)
    | tooDeep => exact h.elim
    | _ => trivial

theorem lowHalf?_eq_some {r : Rest} {low : ℕ} (h : lowHalf? r = some low) :
    ∃ rest n, r.text = '\\' :: 'u' :: rest ∧ hexNumber? 4 rest = some n := by
  rw [lowHalf?] at h
  split at h
  · rename_i rest hrest
    split at h
    · cases h
    · obtain ⟨hhex, -⟩ := Option.filter_eq_some_iff.mp h
      exact ⟨rest, low, hrest, hhex⟩
  · cases h

theorem readsString_readString (start limit : ℕ) (read : Text) (r : Rest) :
    ReadsString r (readString start limit read r) := by
  induction limit generalizing read r with
  | zero => trivial
  | succ limit ih =>
    rw [readString]
    split
    · trivial
    · rename_i rest hquote
      refine ⟨fun source hr => hr.drop 1, fun depth => ?_⟩
      change nestingFrom .between depth (r.text.drop 1) = _
      simp [hquote, nestingFrom]
    · trivial
    · rename_i rest hescape
      split
      · trivial
      · split
        · trivial
        · rename_i n hhex
          have hbehind := nestingFrom_escape hescape hhex
          have hlone (hlow : 0xd800 ≤ n) (hhigh : n ≤ 0xdfff) :
              ReadsString r (.error (.loneSurrogate r.offset)) :=
            fun source hr => ⟨rest, n, hr ▸ hescape, hhex, hlow, hhigh⟩
          dsimp only
          split
          · rename_i hpair
            split
            · rename_i low hlow
              obtain ⟨rest', n', hescape', hhex'⟩ := lowHalf?_eq_some hlow
              exact ((ih _ _).drop (nestingFrom_escape hescape' hhex')).drop hbehind
            · exact hlone hpair.1 (by omega)
          · split
            · rename_i hpair
              exact hlone (by omega) hpair.2
            · exact (ih _ _).drop hbehind
    · rename_i c rest _ hescape
      split
      · refine (ih _ _).drop fun depth => ?_
        simp [hescape, nestingFrom]
      · trivial
    · rename_i c rest hquote hlast _ hother htext
      split
      · trivial
      · refine (ih _ _).drop fun depth => ?_
        have hslash : c ≠ '\\' := by
          rintro rfl
          cases rest with
          | nil => exact hlast rfl rfl
          | cons d more => exact hother d more rfl rfl
        have hne : c ≠ '\x22' := hquote
        simp [htext, nestingFrom, hslash, hne]

theorem isPlain_of_isDigit {c : Char} (h : c.isDigit = true) : IsPlain c := by
  simp only [IsPlain, List.mem_cons, List.not_mem_nil, or_false, not_or]
  refine ⟨?_, ?_, ?_, ?_, ?_⟩ <;> rintro rfl <;> exact absurd h (by decide)

theorem isPlain_of_mem_take_digits {t : Text} {c : Char} (h : c ∈ t.take (digitsOf t).length) :
    IsPlain c := by
  rw [digitsOf, ← List.prefix_iff_eq_take.mp (List.takeWhile_prefix _)] at h
  exact isPlain_of_isDigit (List.mem_takeWhile_imp h)

theorem isPlain_of_mem_whole {t : Text} {c : Char} (h : c ∈ t.take (wholeAt digitsOf t).length) :
    IsPlain c := by
  rw [wholeAt.eq_def] at h
  split at h
  · obtain rfl : c = '0' := by simpa using h
    decide
  · exact isPlain_of_mem_take_digits h

theorem isPlain_of_mem_fraction {t : Text} (hne : (fractionAt digitsOf t).isEmpty = false)
    {c : Char} (h : c ∈ t.take ((fractionAt digitsOf t).length + 1)) : IsPlain c := by
  rw [fractionAt.eq_def] at hne h
  split at h
  · rw [List.take_succ_cons, List.mem_cons] at h
    rcases h with rfl | h
    · decide
    · exact isPlain_of_mem_take_digits h
  · rename_i hpoint
    split at hne
    · rename_i rest
      exact absurd rfl (hpoint rest)
    · cases hne

theorem isPlain_of_mem_exponent {t : Text} {x : Exponent}
    (hx : exponentAt? digitsOf t = some x) {c : Char} (h : c ∈ t.take x.length) : IsPlain c := by
  rw [exponentAt?.eq_def] at hx
  split at hx
  · rename_i e rest
    split at hx
    · rename_i he
      have hletter : IsPlain e := by rcases he with rfl | rfl <;> decide
      by_cases hsigned : rest.head? = some '-' ∨ rest.head? = some '+'
      · obtain ⟨sign, more, rfl, hsign⟩ : ∃ sign more, rest = sign :: more ∧ IsPlain sign := by
          rcases hsigned with hsign | hsign <;>
            obtain ⟨more, rfl⟩ := List.head?_eq_some_iff.mp hsign <;>
            exact ⟨_, more, rfl, by decide⟩
        simp only [← Bool.decide_or, hsigned, decide_true, if_true, List.drop_succ_cons,
          List.drop_zero] at hx
        split at hx
        · cases hx
        · obtain rfl := Option.some.inj hx
          have hlength : 1 + 1 + (digitsOf more).length = (digitsOf more).length + 1 + 1 := by omega
          rw [hlength, List.take_succ_cons, List.take_succ_cons, List.mem_cons,
            List.mem_cons] at h
          rcases h with rfl | rfl | h
          · exact hletter
          · exact hsign
          · exact isPlain_of_mem_take_digits h
      · simp only [← Bool.decide_or, hsigned, decide_false, Bool.false_eq_true, if_false] at hx
        split at hx
        · cases hx
        · obtain rfl := Option.some.inj hx
          have hlength : 1 + 0 + (digitsOf rest).length = (digitsOf rest).length + 1 := by omega
          rw [hlength, List.take_succ_cons, List.mem_cons] at h
          rcases h with rfl | h
          · exact hletter
          · exact isPlain_of_mem_take_digits h
    · cases hx
  · cases hx

/-- A bracket or a brace opens an array or an object. -/
theorem nestingFrom_open {r : Rest} {c : Char} {rest : Text} (h : r.text = c :: rest)
    (hc : c = '[' ∨ c = '\x7b') (depth : ℕ) :
    nestingFrom .between depth r.text = nestingFrom .between (depth + 1) (r.drop 1).text := by
  change _ = nestingFrom .between (depth + 1) (r.text.drop 1)
  rw [h, nestingFrom, if_pos hc]
  rfl

section

variable [NestingLimits]

/-- Reading goes on at a rest where `depth'` arrays and objects are open, and what has been read
is not nested deeper than the limit. -/
structure GoesTo (depth depth' : ℕ) (r r' : Rest) : Prop where
  isRestOf : ∀ source, IsRestOf source r → IsRestOf source r'
  le_nesting : nestingFrom .between depth' r'.text ≤ nestingFrom .between depth r.text
  nesting_le : nestingFrom .between depth r.text ≤
    max NestingLimits.json (nestingFrom .between depth' r'.text)

theorem GoesTo.trans {depth depth' depth'' : ℕ} {r r' r'' : Rest} (h : GoesTo depth depth' r r')
    (h' : GoesTo depth' depth'' r' r'') : GoesTo depth depth'' r r'' where
  isRestOf source hr := h'.isRestOf source (h.isRestOf source hr)
  le_nesting := h'.le_nesting.trans h.le_nesting
  nesting_le := h.nesting_le.trans (max_le (Nat.le_max_left _ _) h'.nesting_le)

theorem GoesTo.refl (depth : ℕ) (r : Rest) : GoesTo depth depth r r :=
  ⟨fun _ hr => hr, Nat.le_refl _, Nat.le_max_right _ _⟩

theorem goesTo_drop {r : Rest} {n : ℕ} (h : ∀ c ∈ r.text.take n, IsPlain c) (depth : ℕ) :
    GoesTo depth depth r (r.drop n) := by
  have hnesting : nestingFrom .between depth (r.drop n).text =
      nestingFrom .between depth r.text := nestingFrom_drop h depth
  refine ⟨fun source hr => hr.drop n, hnesting.le, ?_⟩
  rw [hnesting]
  exact Nat.le_max_right _ _

theorem goesTo_cons {r : Rest} {c : Char} {rest : Text} (h : r.text = c :: rest) (hc : IsPlain c)
    (depth : ℕ) : GoesTo depth depth r (r.drop 1) := by
  refine goesTo_drop ?_ depth
  rw [h]
  simpa using hc

theorem goesTo_open {r : Rest} {c : Char} {rest : Text} (h : r.text = c :: rest)
    (hc : c = '[' ∨ c = '\x7b') (depth : ℕ) : GoesTo depth (depth + 1) r (r.drop 1) := by
  have hnesting := nestingFrom_open h hc depth
  exact ⟨fun source hr => hr.drop 1, hnesting.ge, hnesting ▸ Nat.le_max_right _ _⟩

theorem lt_nestingFrom_of_open {r : Rest} {c : Char} {rest : Text} (h : r.text = c :: rest)
    (hc : c = '[' ∨ c = '\x7b') {depth : ℕ} (hdepth : NestingLimits.json ≤ depth) :
    NestingLimits.json < nestingFrom .between depth r.text := by
  rw [nestingFrom_open h hc]
  exact Nat.lt_of_lt_of_le (Nat.lt_succ_of_le hdepth) (le_nestingFrom _ _ _)

theorem goesTo_close {r : Rest} {c : Char} {rest : Text} (h : r.text = c :: rest)
    (hc : c = ']' ∨ c = '\x7d') {depth : ℕ} (hdepth : depth < NestingLimits.json) :
    GoesTo (depth + 1) depth r (r.drop 1) := by
  have hopens : ¬ (c = '[' ∨ c = '\x7b') := by
    rcases hc with rfl | rfl <;> decide
  have hnesting : nestingFrom .between (depth + 1) r.text =
      max (depth + 1) (nestingFrom .between depth (r.drop 1).text) := by
    change _ = max (depth + 1) (nestingFrom .between depth (r.text.drop 1))
    rw [h, nestingFrom, if_neg hopens, if_pos hc]
    rfl
  refine ⟨fun source hr => hr.drop 1, ?_, ?_⟩
  · rw [hnesting]
    exact Nat.le_max_right _ _
  · rw [hnesting]
    exact max_le_max hdepth (Nat.le_refl _)

theorem goesTo_skipWhile {p : Char → Bool} (h : ∀ c, p c = true → IsPlain c) (r : Rest)
    (depth : ℕ) : GoesTo depth depth r (r.skipWhile p) := by
  refine goesTo_drop (fun c hc => h c ?_) depth
  rw [← List.prefix_iff_eq_take.mp (List.takeWhile_prefix p)] at hc
  exact List.mem_takeWhile_imp hc

theorem goesTo_skipBlanks (r : Rest) (depth : ℕ) : GoesTo depth depth r (skipBlanks r) := by
  refine goesTo_skipWhile (fun c hc => ?_) r depth
  simp only [Bool.or_eq_true, decide_eq_true_eq] at hc
  rcases hc with ((rfl | rfl) | rfl) | rfl <;> decide

/-- What reading from the rest on has come to. -/
def Reads {α : Type} (depth depth' : ℕ) (r : Rest) : Outcome (α × Rest) → Prop
  | .ok (_, r') => GoesTo depth depth' r r'
  | .error (.tooDeep _) => NestingLimits.json < nestingFrom .between depth r.text
  | .error (.loneSurrogate offset) => ∀ source, IsRestOf source r → HasSurrogateEscape source offset
  | .error _ => True

section

variable {α β : Type} {depth depth' depth'' : ℕ} {r r' : Rest}

theorem Reads.of_goesTo {x : Outcome (α × Rest)} (h : GoesTo depth depth' r r')
    (hx : Reads depth' depth'' r' x) : Reads depth depth'' r x := by
  cases x with
  | ok read => exact h.trans hx
  | error e =>
    cases e with
    | tooDeep => exact Nat.lt_of_lt_of_le hx h.le_nesting
    | loneSurrogate => exact fun source hr => hx source (h.isRestOf source hr)
    | _ => trivial

theorem Reads.bind {x : Outcome (α × Rest)} (hx : Reads depth depth' r x)
    {f : α × Rest → Outcome (β × Rest)} (hf : ∀ a r', Reads depth' depth'' r' (f (a, r'))) :
    Reads depth depth'' r (x >>= f) := by
  cases x with
  | ok read => exact .of_goesTo hx (hf read.1 read.2)
  | error e => cases e <;> exact hx

end

theorem reads_string {r : Rest} {rest : Text} (h : r.text = '\x22' :: rest)
    (start limit depth : ℕ) :
    Reads depth depth r (readString start limit [] (r.drop 1)) := by
  have hstring : nestingFrom .string depth (r.drop 1).text = nestingFrom .between depth r.text := by
    change nestingFrom .string depth (r.text.drop 1) = _
    simp [h, nestingFrom]
  have hreads := readsString_readString start limit [] (r.drop 1)
  generalize readString start limit [] (r.drop 1) = x at hreads
  cases x with
  | ok read =>
    obtain ⟨hrest, hnesting⟩ := hreads
    have heq := (hnesting depth).trans hstring
    exact ⟨fun source hr => hrest source (hr.drop 1), heq.le, heq ▸ Nat.le_max_right _ _⟩
  | error e =>
    cases e with
    | tooDeep => exact hreads.elim
    | loneSurrogate => exact fun source hr => hreads source (hr.drop 1)
    | _ => trivial

theorem reads_number (r : Rest) (depth : ℕ) : Reads depth depth r (readNumber r) := by
  rw [readNumber]
  have hsign : GoesTo depth depth r (if r.text.head? = some '-' then r.drop 1 else r) := by
    split
    · rename_i hminus
      obtain ⟨rest, hrest⟩ := List.head?_eq_some_iff.mp hminus
      exact goesTo_cons hrest (by decide) depth
    · exact .refl depth _
  generalize (if r.text.head? = some '-' then r.drop 1 else r) = unsigned at hsign ⊢
  extract_lets behind fraction behind' exponent behind'' n power x
  have hwhole : GoesTo depth depth unsigned behind :=
    goesTo_drop (fun c hc => isPlain_of_mem_whole hc) depth
  have hfraction : GoesTo depth depth behind behind' := by
    by_cases hempty : fraction.isEmpty = true
    · rw [show behind' = behind from if_pos hempty]
      exact .refl depth _
    · rw [show behind' = behind.drop (fraction.length + 1) from if_neg hempty]
      exact goesTo_drop (fun c hc => isPlain_of_mem_fraction (by simpa using hempty) hc) depth
  have hexponent : GoesTo depth depth behind' behind'' := by
    cases hx : exponent with
    | none =>
      rw [show behind'' = behind' by simp only [behind'', hx]; rfl]
      exact .refl depth _
    | some x =>
      rw [show behind'' = behind'.drop x.length by simp only [behind'', hx]; rfl]
      exact goesTo_drop (fun c hc => isPlain_of_mem_exponent hx hc) depth
  have hall := ((hsign.trans hwhole).trans hfraction).trans hexponent
  split
  · trivial
  · split
    · split
      · trivial
      · exact hall
    · exact hall

theorem goesTo_word {r r' : Rest} {v : Value}
    (h : words.findSome? (fun (word, v) => (r.dropText? word).map fun r => (v, r)) = some (v, r'))
    (depth : ℕ) : GoesTo depth depth r r' := by
  obtain ⟨⟨word, w⟩, hword, h⟩ := List.exists_of_findSome?_eq_some h
  obtain ⟨behind, hdrop, hpair⟩ := Option.map_eq_some_iff.mp h
  cases hpair
  have hletters : (words.all fun row => row.1.all fun c => decide (IsPlain c)) = true := rfl
  have hplain : ∀ row ∈ words, ∀ c ∈ row.1, IsPlain c := fun row hrow c hc =>
    of_decide_eq_true (List.all_eq_true.mp (List.all_eq_true.mp hletters row hrow) c hc)
  rw [Rest.dropText?] at hdrop
  split at hdrop
  · rename_i hprefix
    cases hdrop
    refine goesTo_drop (fun c hc => hplain _ hword c ?_) depth
    rwa [List.prefix_iff_eq_take.mp (List.isPrefixOf_iff_prefix.mp hprefix)]
  · cases hdrop

/-- A bracket or a brace too many is met, or what it opens is closed at once, or reading goes on
inside. -/
theorem reads_inside {depth : ℕ} {r : Rest} {c close : Char} {rest : Text}
    (hopen : r.text = c :: rest) (hc : c = '[' ∨ c = '\x7b') (hclose : close = ']' ∨ close = '\x7d')
    {innermost : Container} {empty : Value} {x : Outcome (Value × Rest)}
    (hx : depth < NestingLimits.json → Reads (depth + 1) depth (skipBlanks (r.drop 1)) x) :
    Reads depth depth r
      (if NestingLimits.json ≤ depth then .error (.tooDeep innermost)
      else if (skipBlanks (r.drop 1)).text.head? = some close then
        .ok (empty, (skipBlanks (r.drop 1)).drop 1)
      else x) := by
  have hinside := (goesTo_open hopen hc depth).trans (goesTo_skipBlanks _ (depth + 1))
  by_cases hdepth : NestingLimits.json ≤ depth
  · rw [if_pos hdepth]
    exact lt_nestingFrom_of_open hopen hc hdepth
  · have hlt := Nat.lt_of_not_le hdepth
    rw [if_neg hdepth]
    split
    · rename_i hhead
      obtain ⟨more, hmore⟩ := List.head?_eq_some_iff.mp hhead
      exact hinside.trans (goesTo_close hmore hclose hlt)
    · exact .of_goesTo hinside (hx hlt)

section

variable {limit : ℕ}

theorem reads_value_succ
    (hentries : ∀ depth read r, depth < NestingLimits.json →
      Reads (depth + 1) depth r (readEntries (depth + 1) limit read r))
    (hitems : ∀ depth read r, depth < NestingLimits.json →
      Reads (depth + 1) depth r (readItems (depth + 1) limit read r)) (depth : ℕ) (r : Rest) :
    Reads depth depth r (readValue depth (limit + 1) r) := by
  rw [readValue]
  split
  · rename_i rest hquote
    exact (reads_string hquote _ _ depth).bind fun t r' => GoesTo.refl depth r'
  · exact reads_inside ‹_› (.inr rfl) (.inr rfl) (hentries depth [] _)
  · exact reads_inside ‹_› (.inl rfl) (.inl rfl) (hitems depth [] _)
  · split
    · rename_i answer hword
      exact goesTo_word hword depth
    · exact reads_number r depth

variable (hvalue : ∀ depth r, Reads depth depth r (readValue depth limit r))

include hvalue

theorem reads_entries_succ {depth : ℕ} (hdepth : depth < NestingLimits.json)
    (hentries : ∀ read r, Reads (depth + 1) depth r (readEntries (depth + 1) limit read r))
    (read : Entries) (r : Rest) :
    Reads (depth + 1) depth r (readEntries (depth + 1) (limit + 1) read r) := by
  rw [readEntries]
  split
  · rename_i rest hquote
    refine (reads_string hquote _ _ _).bind fun key r' => ?_
    dsimp only
    refine .of_goesTo (goesTo_skipBlanks r' _) ?_
    split
    · trivial
    · rename_i hcolon
      obtain ⟨more, hmore⟩ := List.head?_eq_some_iff.mp (not_not.mp hcolon)
      refine .of_goesTo ((goesTo_cons hmore (by decide) _).trans (goesTo_skipBlanks _ _)) ?_
      refine (hvalue _ _).bind fun v r'' => .of_goesTo (goesTo_skipBlanks r'' _) ?_
      split
      · exact goesTo_close ‹_› (.inr rfl) hdepth
      · rename_i hcomma
        exact .of_goesTo ((goesTo_cons hcomma (by decide) _).trans (goesTo_skipBlanks _ _))
          (hentries _ _)
      · trivial
  · trivial

theorem reads_items_succ {depth : ℕ} (hdepth : depth < NestingLimits.json)
    (hitems : ∀ read r, Reads (depth + 1) depth r (readItems (depth + 1) limit read r))
    (read : List Value) (r : Rest) :
    Reads (depth + 1) depth r (readItems (depth + 1) (limit + 1) read r) := by
  rw [readItems]
  refine (hvalue _ _).bind fun v r' => .of_goesTo (goesTo_skipBlanks r' _) ?_
  dsimp only
  split
  · exact goesTo_close ‹_› (.inl rfl) hdepth
  · rename_i hcomma
    exact .of_goesTo ((goesTo_cons hcomma (by decide) _).trans (goesTo_skipBlanks _ _))
      (hitems _ _)
  · trivial

end

/-- Reading a value, or what is left of an object or an array, comes back to the depth at which
it began, or it meets a bracket or a brace too many. -/
theorem reads_values (limit : ℕ) :
    (∀ depth r, Reads depth depth r (readValue depth limit r)) ∧
    (∀ depth read r, depth < NestingLimits.json →
      Reads (depth + 1) depth r (readEntries (depth + 1) limit read r)) ∧
    ∀ depth read r, depth < NestingLimits.json →
      Reads (depth + 1) depth r (readItems (depth + 1) limit read r) := by
  induction limit with
  | zero =>
    refine ⟨fun depth r => ?_, fun depth read r _ => ?_, fun depth read r _ => ?_⟩
    · rw [readValue]; trivial
    · rw [readEntries]; trivial
    · rw [readItems]; trivial
  | succ limit ih =>
    obtain ⟨hvalue, hentries, hitems⟩ := ih
    refine ⟨reads_value_succ hentries hitems, fun depth read r hdepth => ?_,
      fun depth read r hdepth => ?_⟩
    · exact reads_entries_succ hvalue hdepth (fun _ _ => hentries _ _ _ hdepth) read r
    · exact reads_items_succ hvalue hdepth (fun _ _ => hitems _ _ _ hdepth) read r

/-- What reading a whole document has come to. -/
def ReadsDocument (source : Text) : Outcome Value → Prop
  | .ok _ => nesting source ≤ NestingLimits.json
  | .error (.tooDeep _) => NestingLimits.json < nesting source
  | .error (.loneSurrogate offset) => HasSurrogateEscape source offset
  | .error _ => True

theorem readsDocument_parse (source : Text) : ReadsDocument source (parse source) := by
  have hreads : Reads 0 0 ⟨source, 0⟩
      (readValue 0 (2 * source.length + 2) (skipBlanks ⟨source, 0⟩)) :=
    .of_goesTo (goesTo_skipBlanks _ 0) ((reads_values _).1 0 _)
  rw [parse]
  split
  · trivial
  · cases hvalue : readValue 0 (2 * source.length + 2) (skipBlanks ⟨source, 0⟩) with
    | ok read =>
      rw [hvalue] at hreads
      have hgoes := GoesTo.trans hreads (goesTo_skipBlanks read.2 0)
      rw [ok_bind]
      dsimp only
      split
      · rename_i hempty
        have hnesting := hgoes.nesting_le
        rw [List.isEmpty_iff.mp hempty, nestingFrom] at hnesting
        change nesting source ≤ NestingLimits.json
        simpa [nesting] using hnesting
      · trivial
    | error e =>
      rw [hvalue] at hreads
      rw [error_bind]
      cases e with
      | loneSurrogate offset => exact hreads source (isRestOf_start source)
      | _ => exact hreads

/-- A document in which reading goes too deep is nested deeper than the limit. -/
theorem lt_nesting_of_tooDeep {source : Text} {innermost : Container}
    (h : parse source = .error (.tooDeep innermost)) : NestingLimits.json < nesting source := by
  have hreads := readsDocument_parse source
  rwa [h] at hreads

/-- A document that is read is not nested deeper than the limit. -/
theorem nesting_le_of_ok {source : Text} {v : Value} (h : parse source = .ok v) :
    nesting source ≤ NestingLimits.json := by
  have hreads := readsDocument_parse source
  rwa [h] at hreads

/-- An escape for which there is no character is that of a surrogate. -/
theorem hasSurrogateEscape_of_loneSurrogate {source : Text} {offset : ℕ}
    (h : parse source = .error (.loneSurrogate offset)) : HasSurrogateEscape source offset := by
  have hreads := readsDocument_parse source
  rwa [h] at hreads

end

/-- One result of reading and another one with a higher limit: they are the same, or reading with
the lower limit goes too deep. -/
inductive AgreesWith {α : Type} : Outcome α → Outcome α → Prop
  | same (x : Outcome α) : AgreesWith x x
  | tooDeep (innermost : Container) (x : Outcome α) :
      AgreesWith (.error (.tooDeep innermost)) x

theorem AgreesWith.bind {α β : Type} {x y : Outcome α} (h : AgreesWith x y)
    {f g : α → Outcome β} (hfg : ∀ a, AgreesWith (f a) (g a)) : AgreesWith (x >>= f) (y >>= g) := by
  cases h with
  | same =>
    cases x with
    | ok a => exact hfg a
    | error e => exact .same _
  | tooDeep innermost => exact .tooDeep innermost _

/-- With the lower limit a bracket or a brace is one too many first. -/
theorem agree_inside {α : Type} {few many depth : ℕ} (hlimit : few ≤ many) {innermost : Container}
    {x y : Outcome α} (h : AgreesWith x y) :
    AgreesWith (if few ≤ depth then .error (.tooDeep innermost) else x)
      (if many ≤ depth then .error (.tooDeep innermost) else y) := by
  by_cases hdepth : few ≤ depth
  · rw [if_pos hdepth]
    exact .tooDeep _ _
  · rw [if_neg hdepth, if_neg fun hmany => hdepth (hlimit.trans hmany)]
    exact h

/-- Reading goes the same way with another limit, up to where one of the two ends. -/
theorem agree_values {few many : NestingLimits} (hlimit : few.json ≤ many.json) (limit : ℕ) :
    (∀ depth r, AgreesWith (@readValue few depth limit r) (@readValue many depth limit r)) ∧
    (∀ depth read r,
      AgreesWith (@readEntries few depth limit read r) (@readEntries many depth limit read r)) ∧
    ∀ depth read r,
      AgreesWith (@readItems few depth limit read r) (@readItems many depth limit read r) := by
  induction limit with
  | zero =>
    refine ⟨fun depth r => ?_, fun depth read r => ?_, fun depth read r => ?_⟩
    · simp only [readValue]
      exact .same _
    · simp only [readEntries]
      exact .same _
    · simp only [readItems]
      exact .same _
  | succ limit ih =>
    obtain ⟨ihValue, ihEntries, ihItems⟩ := ih
    refine ⟨fun depth r => ?_, fun depth read r => ?_, fun depth read r => ?_⟩
    · simp only [readValue]
      split
      · exact .same _
      · refine agree_inside hlimit ?_
        split
        · exact .same _
        · exact ihEntries _ _ _
      · refine agree_inside hlimit ?_
        split
        · exact .same _
        · exact ihItems _ _ _
      · exact .same _
    · simp only [readEntries]
      split
      · refine (AgreesWith.same _).bind fun read' => ?_
        split
        · exact .same _
        · refine (ihValue _ _).bind fun read'' => ?_
          split
          · exact .same _
          · exact ihEntries _ _ _
          · exact .same _
      · exact .same _
    · simp only [readItems]
      refine (ihValue _ _).bind fun read' => ?_
      split
      · exact .same _
      · exact ihItems _ _ _
      · exact .same _

theorem agree_parse {few many : NestingLimits} (hlimit : few.json ≤ many.json) (source : Text) :
    AgreesWith (@parse few source) (@parse many source) := by
  simp only [parse]
  split
  · exact .same _
  · refine ((agree_values hlimit _).1 _ _).bind fun read => ?_
    exact .same _

/-- The text is a document that is read if only the limit is high enough. -/
def IsReadable (source : Text) : Prop := ∃ limits v, @parse limits source = .ok v

section

variable {source : Text}

theorem IsReadable.ok_or_tooDeep [limits : NestingLimits] (h : IsReadable source) :
    (∃ v, parse source = .ok v) ∨ ∃ innermost, parse source = .error (.tooDeep innermost) := by
  obtain ⟨other, v, hv⟩ := h
  rcases Nat.le_total other.json limits.json with hle | hle
  · have hagree := agree_parse hle source
    rw [hv] at hagree
    generalize @parse limits source = x at hagree ⊢
    cases hagree
    exact .inl ⟨v, rfl⟩
  · have hagree := agree_parse hle source
    rw [hv] at hagree
    generalize @parse limits source = x at hagree ⊢
    cases hagree with
    | same => exact .inl ⟨v, rfl⟩
    | tooDeep innermost => exact .inr ⟨innermost, rfl⟩

/-- Reading goes too deep in a document just when it is nested deeper than the limit. -/
theorem IsReadable.tooDeep_iff [NestingLimits] (h : IsReadable source) :
    (∃ innermost, parse source = .error (.tooDeep innermost)) ↔
      NestingLimits.json < nesting source := by
  constructor
  · rintro ⟨innermost, hdeep⟩
    exact lt_nesting_of_tooDeep hdeep
  · intro hnesting
    refine h.ok_or_tooDeep.resolve_left fun ⟨v, hv⟩ => ?_
    exact Nat.not_le_of_lt hnesting (nesting_le_of_ok hv)

end

end LicenseNotices.JsonNesting
