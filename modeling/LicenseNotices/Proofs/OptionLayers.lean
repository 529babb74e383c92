import LicenseNotices.Proofs.OptionFailures

/-!
Settings in layers. Each of the three settings is read by itself when it is given, and is kept
from the options below when it is not. So two layers that are put on one after the other come to
the options, or to the failure, of one layer which takes from the lower what the upper leaves out.
-/
namespace LicenseNotices

open Document (Value)

namespace Settings

/-- The value, if it counts as given. -/
def given? (v : Value) : Option Value := if v.isGiven then some v else none

/-- Two layers in one: what `upper` leaves out is taken from `lower`. -/
def onto (upper lower : Settings) : Settings where
  patterns := upper.patterns.or lower.patterns
  encoding := if upper.encoding.isGiven then upper.encoding else lower.encoding
  grammar := if upper.grammar.isGiven then upper.grammar else lower.grammar

theorem given?_ite (v w : Value) :
    given? (if v.isGiven then v else w) = (given? v).or (given? w) := by
  by_cases hv : v.isGiven <;> simp [given?, hv]

end Settings

namespace OptionLayers

open OptionFailures Results Settings

/-- A setting is read where it is given, and otherwise the old one is kept. -/
def renewed {α β : Type} (read : β → Except Failure α) (given : Option β) (old : α) :
    Except Failure α :=
  match given with
  | some b => read b
  | none => .ok old

/-- What is read anew does not depend on what is there, and what is kept is what the lower layer
has come to. -/
theorem renewed_or {α β : Type} {read : β → Except Failure α} {lower : Option β} {old new : α}
    (h : renewed read lower old = .ok new) (upper : Option β) :
    renewed read upper new = renewed read (upper.or lower) old := by
  cases upper with
  | none => exact h.symm
  | some b => rfl

theorem renewed_eq_ok_iff {α β : Type} (read : β → Except Failure α) (given : Option β)
    (old new : α) :
    renewed read given old = .ok new ↔
      (given = none → new = old) ∧ ∀ b ∈ given, read b = .ok new := by
  cases given <;> simp [renewed, eq_comm]

theorem renewed_given?_eq_ok_iff {α : Type} (read : Value → Except Failure α) (v : Value)
    (old new : α) :
    renewed read (given? v) old = .ok new ↔
      (v.isGiven = false → new = old) ∧ (v.isGiven = true → read v = .ok new) := by
  rw [renewed_eq_ok_iff]
  by_cases hv : v.isGiven <;> simp [given?, hv]

section

variable [CharacterNames] [NestingLimits]

/-- The settings are read in order, each by itself. -/
theorem make_eq_renewed (base : Options) (s : Settings) :
    base.make s =
      renewed PatternSource.compileAll s.patterns base.patterns >>= fun patterns =>
      renewed EncodingName.ofValue (given? s.encoding) base.encoding >>= fun encoding =>
      renewed Grammar.ofValue (given? s.grammar) base.grammar >>= fun grammar =>
      .ok { patterns, encoding, grammar } := by
  rw [make_eq_bind]
  cases hpatterns : s.patterns <;> by_cases hencoding : s.encoding.isGiven <;>
    by_cases hgrammar : s.grammar.isGiven <;>
    simp only [renewed, given?, hencoding, hgrammar, if_true, if_false, Bool.false_eq_true] <;> rfl

/-- What the settings leave out is as it was in `base`. -/
structure Keeps (base : Options) (s : Settings) (o : Options) : Prop where
  patterns : s.patterns = none → o.patterns = base.patterns
  encoding : s.encoding.isGiven = false → o.encoding = base.encoding
  grammar : s.grammar.isGiven = false → o.grammar = base.grammar

/-- What the settings give has been read. -/
structure Takes (s : Settings) (o : Options) : Prop where
  patterns : ∀ sources ∈ s.patterns, PatternSource.compileAll sources = .ok o.patterns
  encoding : s.encoding.isGiven = true → EncodingName.ofValue s.encoding = .ok o.encoding
  grammar : s.grammar.isGiven = true → Grammar.ofValue s.grammar = .ok o.grammar

theorem make_eq_ok_iff_renewed (base : Options) (s : Settings) (o : Options) :
    base.make s = .ok o ↔
      renewed PatternSource.compileAll s.patterns base.patterns = .ok o.patterns ∧
      renewed EncodingName.ofValue (given? s.encoding) base.encoding = .ok o.encoding ∧
      renewed Grammar.ofValue (given? s.grammar) base.grammar = .ok o.grammar := by
  rw [make_eq_renewed]
  exact gathered_eq_ok_iff o

/-- The options that settings make of `base` are those that keep what is left out and take what is
given. -/
theorem make_eq_ok_iff (base : Options) (s : Settings) (o : Options) :
    base.make s = .ok o ↔ Keeps base s o ∧ Takes s o := by
  rw [make_eq_ok_iff_renewed, renewed_eq_ok_iff, renewed_given?_eq_ok_iff,
    renewed_given?_eq_ok_iff]
  constructor
  · rintro ⟨⟨hkept, hread⟩, ⟨hname, hnamed⟩, hgrammar, hfound⟩
    exact ⟨⟨hkept, hname, hgrammar⟩, ⟨hread, hnamed, hfound⟩⟩
  · rintro ⟨⟨hkept, hname, hgrammar⟩, ⟨hread, hnamed, hfound⟩⟩
    exact ⟨⟨hkept, hread⟩, ⟨hname, hnamed⟩, hgrammar, hfound⟩

/-- A layer on options that a lower layer has made. -/
theorem make_onto {base o : Options} {lower : Settings} (h : base.make lower = .ok o)
    (upper : Settings) : o.make upper = base.make (upper.onto lower) := by
  obtain ⟨hpatterns, hencoding, hgrammar⟩ := (make_eq_ok_iff_renewed base lower o).mp h
  rw [make_eq_renewed, make_eq_renewed, onto, given?_ite, given?_ite,
    ← renewed_or hpatterns upper.patterns, ← renewed_or hencoding (given? upper.encoding),
    ← renewed_or hgrammar (given? upper.grammar)]

/-- One layer of settings on another comes to the same as both in one layer, whether options can
be made of them or not. Options are made by keeping what a layer leaves out and taking what it
gives, and a layer that gives nothing, which is not looked at, would change nothing. -/
theorem layers_compose {base o : Options} {lower : Settings} (h : base.override lower = .ok o)
    (upper : Settings) :
    o.override upper = base.override (upper.onto lower) ∧
      (∀ s p, base.override s = .ok p ↔ Keeps base s p ∧ Takes s p) ∧
      (∀ s, base.override s = base.make s) ∧
      ∀ s : Settings, s.isEmpty = true → base.override s = .ok base := by
  refine ⟨?_, fun s p => ?_, Options.override_eq_make base, fun s hs => ?_⟩
  · rw [Options.override_eq_make] at h ⊢
    rw [Options.override_eq_make]
    exact make_onto h upper
  · rw [Options.override_eq_make]
    exact make_eq_ok_iff base s p
  · rw [Options.override_eq_make]
    exact Options.make_of_isEmpty base hs

end

/-- The settings for sources of the C family in ASCII. -/
def sampleLower : Settings := .ofTexts none (some "us-ascii".toList) (some "c-style".toList)

/-- A list of patterns that holds none, and a grammar that is empty and so is left out. -/
def sampleUpper : Settings := .ofTexts (some []) none (some [])

section

attribute [local instance] referenceSurroundings

/-- A list without patterns is not left out: it is a mistake in the upper layer as in both. -/
theorem empty_list_fails_in_layers :
    ∃ o, Options.default.override sampleLower = .ok o ∧
      o.override sampleUpper = Options.default.override (sampleUpper.onto sampleLower) ∧
      o.override sampleUpper =
        .error (.configuration "At least one license pattern is required") := by
  have hlower : Options.default.override sampleLower =
      .ok { encoding := ⟨"us-ascii".toList, by decide +kernel⟩, grammar := .cStyle } := by
    rw [Options.override_eq_make, make_eq_ok_iff]
    refine ⟨⟨fun _ => rfl, fun hgiven => ?_, fun hgiven => ?_⟩,
      ⟨by simp [sampleLower, Settings.ofTexts], fun _ => rfl, fun _ => rfl⟩⟩
    · simp [sampleLower, Settings.ofTexts, Value.isGiven] at hgiven
    · simp [sampleLower, Settings.ofTexts, Value.isGiven] at hgiven
  exact ⟨_, hlower, (layers_compose hlower sampleUpper).1, rfl⟩

end

end OptionLayers

end LicenseNotices
