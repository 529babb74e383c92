import LicenseNotices.Document.Value
import LicenseNotices.Options

/-!
Settings are what is given to change options. Each of the three may be left out;
an encoding or a grammar that is empty counts as left out as well. What is given
is read in a fixed order, so that of several mistakes the first one is reported:
patterns, then the encoding, then the grammar.
-/
namespace LicenseNotices

open Document (Value)

namespace PatternSource

def ofValue (v : Value) : PatternSource :=
  match v, v.container? with
  | .text t, _ => text t
  | _, some name => container name
  | v, none => atom v.kindName

/-- The elements of a value: the items of a list, the characters of a text or the keys
of a table. -/
def elements (v : Value) : Except Failure (List PatternSource) :=
  match v with
  | .list items => .ok (items.map ofValue)
  | .text t => .ok (t.map fun c => text [c])
  | .table entries => .ok (entries.map fun entry => text entry.1)
  | v => .error (.fault ⟨.type, s!"'{v.kindName}' object is not iterable"⟩)

end PatternSource

namespace EncodingName

def ofValue : Value → Except Failure EncodingName
  | .text t => ofText t
  | v => .error (.fault ⟨.type, s!"lookup() argument must be str, not {v.kindName}"⟩)

end EncodingName

namespace Grammar

/-- The grammar that a value names. -/
def ofValue (v : Value) : Except Failure Grammar :=
  match (match v with | .text t => named? t | _ => none) with
  | some g => .ok g
  | none => .error (unknown v.display)

/-- The grammar that is found under a key. -/
def ofKey (v : Value) : Except Failure Grammar :=
  match v.container? with
  | some name => .error (.fault ⟨.type, s!"unhashable type: '{name}'"⟩)
  | none => ofValue v

end Grammar

structure Settings where
  patterns : Option (List PatternSource) := none
  encoding : Value := .null
  grammar : Value := .null

namespace Settings

/-- Settings that are given as texts. -/
def ofTexts (patterns : Option (List Text)) (encoding grammar : Option Text) : Settings where
  patterns := patterns.map (·.map PatternSource.text)
  encoding := (encoding.map Value.text).getD .null
  grammar := (grammar.map Value.text).getD .null

/-- Whether nothing is given. -/
def isEmpty (s : Settings) : Bool :=
  s.patterns.isNone && !s.encoding.isGiven && !s.grammar.isGiven

end Settings

namespace Options

variable [CharacterNames] [NestingLimits]

/-- The options `base` with everything replaced that is given. -/
def make (base : Options) (s : Settings) : Except Failure Options := do
  let patterns ← match s.patterns with
    | some sources => PatternSource.compileAll sources
    | none => pure base.patterns
  let encoding ←
    if s.encoding.isGiven then EncodingName.ofValue s.encoding else pure base.encoding
  let grammar ← if s.grammar.isGiven then Grammar.ofValue s.grammar else pure base.grammar
  return { patterns, encoding, grammar }

/-- As `make`, without a look at the options when nothing is given. -/
def override (base : Options) (s : Settings) : Except Failure Options :=
  if s.isEmpty then .ok base else base.make s

theorem make_of_isEmpty (base : Options) {s : Settings} (h : s.isEmpty = true) :
    base.make s = .ok base := by
  simp only [Settings.isEmpty, Bool.and_eq_true, Option.isNone_iff_eq_none,
    Bool.not_eq_true'] at h
  simp [make, h.1.1, h.1.2, h.2, bind, Except.bind, pure, Except.pure]

theorem override_eq_make (base : Options) (s : Settings) : base.override s = base.make s := by
  unfold override
  split
  · rw [make_of_isEmpty base ‹_›]
  · rfl

end Options

end LicenseNotices
