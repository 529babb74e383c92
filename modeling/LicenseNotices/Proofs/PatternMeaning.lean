import LicenseNotices.Pattern.Basic
import LicenseNotices.Proofs.LetterVariants
import Mathlib.Data.List.Forall2

/-!
What a pattern of characters, anchors, groups, sequences and choices means, said without
backtracking. The meaning of a node turns a condition on the place behind a match into one on
the place in front of it; a place is told by the characters before it, nearest first, and those
behind it. The matcher succeeds where the meaning says so, whatever it is to go on with, and
such a pattern is found in a text exactly when its meaning holds at some place of it.
-/
namespace LicenseNotices.Pattern

/-- A condition on the characters before a place, nearest first, and behind it. -/
abbrev Condition := Text → Text → Prop

def Anchor.HoldsAt (flags : Flags) (a : Anchor) : Condition := fun before after =>
  Place.isAt flags { before, after, left := after.length } a = true

/-- An accepted character stands behind the place, and the condition holds behind it. -/
def Condition.behind (accepts : Char → Bool) (K : Condition) : Condition := fun before after =>
  ∃ c rest, after = c :: rest ∧ accepts c = true ∧ K (c :: before) rest

namespace Node

/-- Nodes of characters, anchors, groups, sequences and choices. -/
def isPlain : Node → Bool
  | empty | literal _ | notLiteral _ | any | set _ _ | anchor _ => true
  | seq first second | either first second => first.isPlain && second.isPlain
  | group _ body => body.isPlain
  | _ => false

/-- From a place the node can read on to one of which the condition holds. -/
def Reaches (flags : Flags) : Node → Condition → Condition
  | empty, K => K
  | n@(literal _), K | n@(notLiteral _), K | n@any, K | n@(set _ _), K =>
      match n.accepts? flags with
      | some accepts => K.behind accepts
      | none => fun _ _ => False
  | anchor a, K => fun before after => a.HoldsAt flags before after ∧ K before after
  | seq first second, K => first.Reaches flags (second.Reaches flags K)
  | either first second, K => fun before after =>
      first.Reaches flags K before after ∨ second.Reaches flags K before after
  | group _ body, K => body.Reaches flags K
  | _, _ => fun _ _ => False

end Node

/-- The continuation succeeds at the places of which the condition holds. -/
def Decides (K : Condition) (k : Continuation) : Prop :=
  ∀ p, (k p).isSome = true ↔ K p.before p.after

theorem decides_some : Decides (fun _ _ => True) some := fun _ => by simp

theorem isAt_eq (flags : Flags) (p : Place) (a : Anchor) :
    p.isAt flags a = true ↔ a.HoldsAt flags p.before p.after := by
  cases a <;> rfl

/-- One character is read when it is accepted, and the rest is up to the continuation. -/
theorem Decides.behind {K : Condition} {k : Continuation} (hk : Decides K k)
    (accepts : Char → Bool) : Decides (K.behind accepts) fun p => (p.next? accepts).bind k := by
  rintro ⟨before, after, left, captures⟩
  cases after with
  | nil => simp [Place.next?, Condition.behind]
  | cons c rest =>
    by_cases hc : accepts c = true
    · simp [Place.next?, Condition.behind, hc, hk _, and_assoc]
    · simp [Place.next?, Condition.behind, hc, and_assoc]

/-- The matcher of a plain node succeeds where the node reaches what it is to go on with. -/
theorem Decides.matcher {flags : Flags} {n : Node} (hn : n.isPlain = true) {K : Condition}
    {k : Continuation} (hk : Decides K k) : Decides (n.Reaches flags K) (n.matcher flags k) := by
  induction n generalizing K k with
  | empty => exact hk
  | literal _ | notLiteral _ | any | set _ _ => exact hk.behind _
  | anchor a =>
    intro p
    simp only [Node.matcher, Node.Reaches, ← isAt_eq, ← hk p]
    split <;> simp_all
  | seq first second ihfirst ihsecond =>
    obtain ⟨hfirst, hsecond⟩ := Bool.and_eq_true_iff.mp hn
    exact ihfirst hfirst (ihsecond hsecond hk)
  | either first second ihfirst ihsecond =>
    obtain ⟨hfirst, hsecond⟩ := Bool.and_eq_true_iff.mp hn
    intro p
    simp only [Node.matcher, Node.Reaches, Matcher.either, ← ihfirst hfirst hk p,
      ← ihsecond hsecond hk p]
    split <;> simp_all
  | group index body ih =>
    intro p
    exact ih hn (fun q => hk (q.capture index p)) p
  | reference | repeated | withFlags | atomic | ahead | behind | conditional =>
    simp [Node.isPlain] at hn

/-- Places are tried one after the other up to the end of the text. -/
theorem foundFrom_iff {flags : Flags} {n : Node} (hn : n.isPlain = true) (p : Place) :
    n.foundFrom flags p.after.length p = true ↔ ∃ read rest, p.after = read ++ rest ∧
      n.Reaches flags (fun _ _ => True) (read.reverse ++ p.before) rest := by
  have hhere : ∀ p : Place, (n.matcher flags some p).isSome = true ↔
      n.Reaches flags (fun _ _ => True) p.before p.after :=
    decides_some.matcher hn
  obtain ⟨before, after, left, captures⟩ := p
  induction after generalizing before left with
  | nil => simp [Node.foundFrom, hhere, and_assoc]
  | cons c rest ih =>
    have hnext := ih (c :: before) (left - 1)
    simp only [Node.foundFrom, List.length_cons, Place.next?, if_true, Bool.or_eq_true, hhere,
      hnext]
    constructor
    · rintro (h | ⟨read, behind, rfl, h⟩)
      · exact ⟨[], _, rfl, h⟩
      · exact ⟨c :: read, behind, rfl, by simpa using h⟩
    · rintro ⟨read, behind, heq, h⟩
      cases read with
      | nil =>
        obtain rfl : c :: rest = behind := heq
        exact .inl h
      | cons d read =>
        obtain ⟨rfl, rfl⟩ := List.cons_eq_cons.mp heq
        exact .inr ⟨read, behind, rfl, by simpa using h⟩

/-- A plain pattern is found in a text when it reaches any place from one of the text. -/
theorem isFoundIn_iff {p : Pattern} (hp : p.node.isPlain = true) (t : Text) :
    p.isFoundIn t = true ↔ ∃ before after, t = before ++ after ∧
      p.node.Reaches p.flags (fun _ _ => True) before.reverse after := by
  rw [Pattern.isFoundIn, Node.isFoundIn]
  simpa [Place.ofText] using foundFrom_iff hp (.ofText t)

variable {flags : Flags} {K : Condition} {before after : Text}

theorem reaches_anchor (a : Anchor) : (Node.anchor a).Reaches flags K before after ↔
    a.HoldsAt flags before after ∧ K before after :=
  Iff.rfl

theorem reaches_set (negated : Bool) (members : List Member) :
    (Node.set negated members).Reaches flags K before after ↔
      ∃ c rest, after = c :: rest ∧ setHolds flags negated members c = true ∧
        K (c :: before) rest :=
  Iff.rfl

theorem reaches_literal (hflags : flags.ignoreCase = true) (n : ℕ) :
    (Node.literal n).Reaches flags K before after ↔
      ∃ c rest, after = c :: rest ∧ literalFolds flags.ascii n c = true ∧
        K (c :: before) rest := by
  simp only [Node.Reaches, Node.accepts?, Condition.behind, hflags, if_true]

theorem reaches_ofList_cons (n : Node) (rest : List Node) :
    (Node.ofList (n :: rest)).Reaches flags K =
      n.Reaches flags ((Node.ofList rest).Reaches flags K) := by
  cases rest <;> rfl

theorem reaches_ofList_append (ns ms : List Node) :
    (Node.ofList (ns ++ ms)).Reaches flags K =
      (Node.ofList ns).Reaches flags ((Node.ofList ms).Reaches flags K) := by
  induction ns with
  | nil => rfl
  | cons n rest ih => rw [List.cons_append, reaches_ofList_cons, reaches_ofList_cons, ih]

theorem reaches_eitherOf {alternatives : List (List Node)} (h : alternatives ≠ []) :
    (eitherOf alternatives).Reaches flags K before after ↔
      ∃ nodes ∈ alternatives, (Node.ofList nodes).Reaches flags K before after := by
  fun_induction eitherOf alternatives with
  | case1 => exact absurd rfl h
  | case2 nodes => simp
  | case3 nodes rest hrest ih =>
    simp only [List.exists_mem_cons_iff, ← ih hrest]
    rfl

/-- The nodes of a word that is to be found as it is. -/
def literals (word : Text) : List Node := word.map fun c => .literal c.toNat

/-- The text is the word, each letter in one of its variants. -/
def Spells (word w : Text) : Prop := List.Forall₂ SameLetter w word

/-- The literals of a word of ASCII read the word in all its spellings. -/
theorem reaches_literals {word : Text} (hword : ∀ d ∈ word, d.toNat < 128)
    (hflags : flags.ignoreCase = true ∧ flags.ascii = false) :
    (Node.ofList (literals word)).Reaches flags K before after ↔
      ∃ w rest, after = w ++ rest ∧ Spells word w ∧ K (w.reverse ++ before) rest := by
  induction word generalizing before after with
  | nil => simp [literals, Node.ofList, Node.Reaches, Spells]
  | cons d word ih =>
    have hd := literalFolds_iff (hword d List.mem_cons_self)
    have hrest (before after : Text) : (Node.ofList (literals word)).Reaches flags K before after ↔
        ∃ w rest, after = w ++ rest ∧ Spells word w ∧ K (w.reverse ++ before) rest :=
      ih fun c hc => hword c (List.mem_cons_of_mem d hc)
    rw [literals, List.map_cons, ← literals, reaches_ofList_cons, reaches_literal hflags.1,
      hflags.2]
    simp only [hd, hrest]
    constructor
    · rintro ⟨c, _, rfl, hc, w, rest, rfl, hw, hK⟩
      exact ⟨c :: w, rest, rfl, .cons hc hw, by simpa using hK⟩
    · rintro ⟨_, rest, rfl, hw, hK⟩
      cases hw with
      | @cons c _ w _ hc hw =>
        exact ⟨c, w ++ rest, rfl, hc, w, rest, rfl, hw, by simpa using hK⟩

end LicenseNotices.Pattern
