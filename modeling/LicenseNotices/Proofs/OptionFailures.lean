import LicenseNotices.Configuration
import LicenseNotices.Proofs.JsonNesting
import LicenseNotices.Proofs.PatternFaults
import LicenseNotices.Proofs.TomlNesting
import LicenseNotices.Proofs.ValueNesting
import LicenseNotices.ReferenceSurroundings

/-!
How options fail to be made. What is wrong with them is reported as a mistake in the
configuration. What is not reported comes from a pattern that exceeds a limit, from the null
character in the name of an encoding or in the directory, from a path that the system refuses to
look at, and from a document that is nested too deep or holds a value without a text. Documents
with the escape of a surrogate in them are left aside.
-/
namespace LicenseNotices.OptionFailures

open LicenseNotices.Configuration Document Results ValueNesting

/-- A result that is a value, a mistake in the configuration that is reported, or one of the
faults that are not. -/
inductive Ends {α : Type} (unreported : Fault → Prop) : Except Failure α → Prop
  | ok (a : α) : Ends unreported (.ok a)
  | reported {d : Diagnostic} (hkind : d.kind = .configuration) :
      Ends unreported (.error (.diagnostic d))
  | fault {f : Fault} (h : unreported f) : Ends unreported (.error (.fault f))

namespace Ends

variable {α β : Type} {P Q : Fault → Prop} {x : Except Failure α}

theorem imp (h : Ends P x) (hPQ : ∀ f, P f → Q f) : Ends Q x := by
  cases h with
  | ok a => exact .ok a
  | reported hkind => exact .reported hkind
  | fault h => exact .fault (hPQ _ h)

theorem bind (h : Ends P x) {f : α → Except Failure β} (hf : ∀ a, x = .ok a → Ends P (f a)) :
    Ends P (x >>= f) := by
  cases h with
  | ok a => exact hf a rfl
  | reported hkind => exact .reported hkind
  | fault h => exact .fault h

theorem map (h : Ends P x) (f : α → β) : Ends P (x.map f) := by
  cases h with
  | ok a => exact .ok (f a)
  | reported hkind => exact .reported hkind
  | fault h => exact .fault h

theorem mapM {f : β → Except Failure α} {xs : List β} (h : ∀ x ∈ xs, Ends P (f x)) :
    Ends P (xs.mapM f) := by
  induction xs with
  | nil => exact .ok []
  | cons x rest ih =>
    obtain ⟨hx, hrest⟩ := List.forall_mem_cons.mp h
    rw [List.mapM_cons]
    exact hx.bind fun y _ => (ih hrest).bind fun ys _ => .ok (y :: ys)

end Ends

theorem ends_encodingName (t : Text) :
    Ends (fun f => '\x00' ∈ t ∧ f = ⟨.value, "embedded null character"⟩)
      (EncodingName.ofText t) := by
  rw [EncodingName.ofText]
  split
  · rename_i hnull
    exact .fault ⟨by simpa using hnull, rfl⟩
  · split
    · exact .ok _
    · exact .reported rfl

theorem ends_grammar (P : Fault → Prop) (t : Text) : Ends P (Grammar.ofValue (.text t)) := by
  rw [Grammar.ofValue.eq_def]
  dsimp only
  split
  · exact .ok _
  · exact .reported rfl

/-- Options are made of three settings when all of them can be read. -/
theorem gathered_eq_ok_iff {patterns : Except Failure (List Pattern)}
    {encoding : Except Failure EncodingName} {grammar : Except Failure Grammar} (o : Options) :
    (patterns >>= fun ps => encoding >>= fun name => grammar >>= fun g =>
      .ok { patterns := ps, encoding := name, grammar := g }) = .ok o ↔
      patterns = .ok o.patterns ∧ encoding = .ok o.encoding ∧ grammar = .ok o.grammar := by
  simp only [bind_eq_ok_iff]
  constructor
  · rintro ⟨ps, hps, name, hname, g, hg, h⟩
    cases h
    exact ⟨hps, hname, hg⟩
  · rintro ⟨hps, hname, hg⟩
    exact ⟨_, hps, _, hname, _, hg, rfl⟩

section

variable [CharacterNames] [NestingLimits]

/-- The faults of a pattern that is not merely malformed. What causes them shows in its text. -/
inductive PatternFault (t : Text) : Fault → Prop
  | intro {fault : Pattern.Fault} {f : Fault}
      (hparse : Pattern.parse PatternSource.flags t = .error fault) (hcause : fault.ShowsIn t)
      (hfault : PatternSource.unusable t fault = .fault f) : PatternFault t f

/-- The faults of settings that are given as texts. -/
inductive SettingsFault (patterns : Option (List Text)) (encoding : Option Text) : Fault → Prop
  | pattern {ts : List Text} {t : Text} {f : Fault} (hpatterns : patterns = some ts)
      (ht : t ∈ ts) (hfault : PatternFault t f) : SettingsFault patterns encoding f
  | nullCharacter {name : Text} (hname : encoding = some name) (hnull : '\x00' ∈ name) :
      SettingsFault patterns encoding ⟨.value, "embedded null character"⟩

theorem ends_compile (t : Text) : Ends (PatternFault t) (PatternSource.compile (.text t)) := by
  rw [PatternSource.compile]
  cases hparse : Pattern.parse PatternSource.flags t with
  | ok p => exact .ok p
  | error fault =>
    rw [mapError_error]
    cases fault with
    | malformed cause offset => exact .reported rfl
    | _ => exact .fault (.intro hparse (Pattern.fault_showsIn rfl hparse) rfl)

theorem ends_compileAll (ts : List Text) :
    Ends (fun f => ∃ t ∈ ts, PatternFault t f) (PatternSource.compileAll (ts.map .text)) := by
  refine Ends.bind (Ends.mapM ?_) fun patterns _ => ?_
  · intro source hsource
    obtain ⟨t, ht, rfl⟩ := List.mem_map.mp hsource
    exact (ends_compile t).imp fun f hfault => ⟨t, ht, hfault⟩
  · split
    · exact .reported rfl
    · exact .ok patterns

/-- The three settings are read one after the other. -/
theorem make_eq_bind (base : Options) (s : Settings) :
    base.make s =
      (match s.patterns with
        | some sources => PatternSource.compileAll sources
        | none => pure base.patterns) >>= fun patterns =>
      (if s.encoding.isGiven then EncodingName.ofValue s.encoding else pure base.encoding) >>=
        fun encoding =>
      (if s.grammar.isGiven then Grammar.ofValue s.grammar else pure base.grammar) >>=
        fun grammar => pure { patterns, encoding, grammar } := by
  cases hpatterns : s.patterns <;> by_cases hencoding : s.encoding.isGiven <;>
    by_cases hgrammar : s.grammar.isGiven <;>
    simp only [Options.make, hpatterns, hencoding, hgrammar, if_true, if_false, Bool.false_eq_true]

theorem ends_make (base : Options) (patterns : Option (List Text))
    (encoding grammar : Option Text) :
    Ends (SettingsFault patterns encoding) (base.make (.ofTexts patterns encoding grammar)) := by
  rw [make_eq_bind]
  refine Ends.bind ?_ fun _ _ => Ends.bind ?_ fun _ _ => Ends.bind ?_ fun _ _ => .ok _
  · cases patterns with
    | none => exact .ok base.patterns
    | some ts =>
      exact (ends_compileAll ts).imp fun f ⟨t, ht, hfault⟩ => .pattern rfl ht hfault
  · cases encoding with
    | none => exact .ok base.encoding
    | some name =>
      split
      · refine (ends_encodingName name).imp ?_
        rintro f ⟨hnull, rfl⟩
        exact .nullCharacter rfl hnull
      · exact .ok base.encoding
  · cases grammar with
    | none => exact .ok base.grammar
    | some name =>
      split
      · exact ends_grammar _ name
      · exact .ok base.grammar

end

theorem ends_readText (P : Fault → Prop) (s : FileStore) (p : Path) : Ends P (readText s p) := by
  refine Ends.bind ?_ fun bytes _ => ?_
  · cases s.read p with
    | ok bytes => exact .ok bytes
    | error fault =>
      cases fault with
      | unopened fault => cases fault <;> exact .reported rfl
      | broken fault => exact .reported rfl
  · cases Encoding.Utf8.decode bytes with
    | ok source => exact .ok source
    | error fault => exact .reported rfl

/-- The value of an option in a table of options. -/
def optionValue (options : Entries) (key : String) : Value :=
  (Value.lookup? key.toList options).getD .null

section

variable [NestingLimits]

/-- The faults of options that have no text. -/
inductive ValueFault (options : Entries) : Failure → Prop
  | item {items : List Value} {v : Value} {fault : Value.TextFault}
      (hitems : optionValue options "patterns" = .list items) (hv : v ∈ items)
      (hfault : ShowsFault 1 v fault) : ValueFault options (withoutText fault)
  | single {key : String} {fault : Value.TextFault} (hkey : key = "encoding" ∨ key = "grammar")
      (hfault : ShowsFault 0 (optionValue options key) fault) :
      ValueFault options (withoutText fault)

/-- The faults of a document that is nested too deep. -/
inductive DocumentFault (s : FileStore) (p : Path) : Fault → Prop
  | toml {source : Text} (hread : readText s p = .ok source) (hformat : isToml p = true)
      (hcrowded : TomlNesting.IsCrowded 0 (Toml.joinLineEnds source)) :
      DocumentFault s p ⟨.recursion, Toml.Error.message source .tooDeep⟩
  | json {source : Text} (hread : readText s p = .ok source) (hformat : isToml p = false)
      (hnesting : NestingLimits.json < JsonNesting.nesting (Text.unifyNewlines source))
      (innermost : Json.Container) : DocumentFault s p
        ⟨.recursion, Json.Error.message (Text.unifyNewlines source) (.tooDeep innermost)⟩

/-- A document in JSON in which the escape of a surrogate stands for no character. -/
inductive HoldsSurrogate (s : FileStore) (p : Path) : Prop
  | intro {source : Text} {offset : ℕ} (hread : readText s p = .ok source)
      (hformat : isToml p = false)
      (hescape : JsonNesting.HasSurrogateEscape (Text.unifyNewlines source) offset)
      (hparse : Json.parse (Text.unifyNewlines source) = .error (.loneSurrogate offset))

theorem ends_textOf (depth : ℕ) (v : Value) :
    Ends (fun f => ∃ fault, ShowsFault depth v fault ∧ withoutText fault = .fault f)
      (textOf depth v) := by
  rw [textOf]
  split
  · rename_i fault hfault
    have hshows := showsFault_of_textFault? hfault
    cases fault <;> exact .fault ⟨_, hshows, rfl⟩
  · exact .ok _

theorem ends_patternsOf (p : Path) (options : Entries) :
    Ends (fun f => ValueFault options (.fault f))
      (patternsOf p (optionValue options "patterns")) := by
  cases hvalue : optionValue options "patterns" with
  | null => exact .ok none
  | text t => exact .ok (some [t])
  | list items =>
    refine Ends.map (Ends.mapM fun v hv => (ends_textOf 1 v).imp ?_) some
    rintro f ⟨fault, hfault, heq⟩
    exact heq ▸ .item hvalue hv hfault
  | _ => exact .reported rfl

theorem ends_displayed (options : Entries) {key : String}
    (hkey : key = "encoding" ∨ key = "grammar") :
    Ends (fun f => ValueFault options (.fault f)) (displayed (optionValue options key)) := by
  rw [displayed]
  split
  · refine Ends.map ((ends_textOf 0 _).imp ?_) some
    rintro f ⟨fault, hfault, heq⟩
    exact heq ▸ .single hkey hfault
  · exact .ok none

theorem ends_settingsOf (p : Path) (options : Entries) :
    Ends (fun f => ValueFault options (.fault f)) (settingsOf p options) :=
  Ends.bind (ends_patternsOf p options) fun _ _ =>
    Ends.bind (ends_displayed options (.inl rfl)) fun _ _ =>
      Ends.bind (ends_displayed options (.inr rfl)) fun _ _ => .ok _

theorem settingsOf_eq_ok {p : Path} {options : Entries} {settings : Settings}
    (h : settingsOf p options = .ok settings) :
    ∃ patterns encoding grammar, settings = .ofTexts patterns encoding grammar := by
  obtain ⟨patterns, -, h⟩ := (bind_eq_ok_iff _ _ _).mp h
  obtain ⟨encoding, -, h⟩ := (bind_eq_ok_iff _ _ _).mp h
  obtain ⟨grammar, -, h⟩ := (bind_eq_ok_iff _ _ _).mp h
  cases h
  exact ⟨patterns, encoding, grammar, rfl⟩

/-- A document in JSON meets a fault just when it is nested deeper than the limit. -/
theorem readDocument_json {s : FileStore} {p : Path} {source : Text}
    (hread : readText s p = .ok source) (hformat : isToml p = false)
    (hsource : JsonNesting.IsReadable (Text.unifyNewlines source)) :
    (∃ f, readDocument s p = .error (.fault f)) ↔
      NestingLimits.json < JsonNesting.nesting (Text.unifyNewlines source) := by
  rw [← hsource.tooDeep_iff]
  rw [readDocument, hread, ok_bind, if_neg (by simp [hformat])]
  rcases hsource.ok_or_tooDeep with ⟨v, hparse⟩ | ⟨innermost, hparse⟩
  · simp [hparse]
  · simp [hparse]

theorem readDocument_brackets {s : FileStore} {p : Path} {n : ℕ}
    (hread : readText s p = .ok ("a=".toList ++ TomlNesting.brackets n)) (hformat : isToml p = true)
    (hn : NestingLimits.toml < Toml.arrayCalls * n) :
    ∃ f, readDocument s p = .error (.fault f) := by
  refine ⟨⟨.recursion, Toml.Error.message ("a=".toList ++ TomlNesting.brackets n) .tooDeep⟩, ?_⟩
  rw [readDocument, hread, ok_bind, if_pos hformat, TomlNesting.tooDeep_of_brackets hn]
  rfl

theorem ends_settingsIn (p : Path) (document : Value) :
    Ends (fun f => ∃ entries options, document = .table entries ∧
        optionValue entries "options" = .table options ∧ ValueFault options (.fault f))
      (settingsIn p document) := by
  cases document with
  | table entries =>
    rw [settingsIn]
    split
    · rename_i options hoptions
      exact (ends_settingsOf p options).imp fun f h => ⟨entries, options, rfl, hoptions, h⟩
    · split
      · exact .reported rfl
      · exact .ok _
  | _ => exact .reported rfl

theorem settingsIn_eq_ok {p : Path} {document : Value} {settings : Settings}
    (h : settingsIn p document = .ok settings) :
    ∃ patterns encoding grammar, settings = .ofTexts patterns encoding grammar := by
  cases document with
  | table entries =>
    rw [settingsIn] at h
    split at h
    · exact settingsOf_eq_ok h
    · split at h
      · cases h
      · cases h
        exact ⟨none, none, none, rfl⟩
  | _ => cases h

theorem ends_readDocument (s : FileStore) (p : Path) :
    Ends (fun f => DocumentFault s p f ∨ HoldsSurrogate s p) (readDocument s p) := by
  refine Ends.bind (ends_readText _ s p) fun source hread => ?_
  split
  · rename_i hformat
    cases hparse : Toml.parse source with
    | ok document => exact .ok document
    | error e =>
      cases e with
      | tooDeep =>
        exact .fault (.inl (.toml hread hformat (TomlNesting.isCrowded_of_tooDeep hparse)))
      | _ => exact .reported rfl
  · rename_i hformat
    dsimp only
    cases hparse : Json.parse (Text.unifyNewlines source) with
    | ok document => exact .ok document
    | error e =>
      have hjson : isToml p = false := by simpa using hformat
      cases e with
      | tooDeep innermost =>
        have hnesting := JsonNesting.lt_nesting_of_tooDeep hparse
        exact .fault (.inl (.json hread hjson hnesting innermost))
      | loneSurrogate offset =>
        have hescape := JsonNesting.hasSurrogateEscape_of_loneSurrogate hparse
        exact .fault (.inr (.intro hread hjson hescape hparse))
      | _ => exact .reported rfl

end

/-- The faults of asking whether there is anything at a path. -/
inductive AskFault (s : FileStore) (p : Path) : SystemFault → Prop
  | path (hlong : FileStore.pathLimit < FileStore.byteLength p.text) : AskFault s p .nameTooLong
  | name {name : Text} (hname : name ∈ p.parts)
      (hlong : FileStore.nameLimit < FileStore.byteLength name) : AskFault s p .nameTooLong
  | refused {l : Location} {fault : SystemFault} (hl : l ∈ p.passedFrom s.current)
      (hdirectory : s.lookup? l = some .directory) (hrefusal : s.refusal? .search l = some fault)
      (hfault : fault.isAbsence = false) : AskFault s p fault

theorem askFault_of_follow {s : FileStore} {l : Location} {names : List Text} {fault : SystemFault}
    (h : s.follow l names = .error fault) (hfault : fault.isAbsence = false) :
    (fault = .nameTooLong ∧ ∃ name ∈ names, FileStore.nameLimit < FileStore.byteLength name) ∨
      ∃ other ∈ Path.passed l names, s.lookup? other = some .directory ∧
        s.refusal? .search other = some fault := by
  induction names generalizing l with
  | nil => cases h
  | cons name rest ih =>
    rw [FileStore.follow] at h
    rw [Path.passed]
    split at h
    · cases h
      exact absurd hfault (by decide)
    · cases h
      exact absurd hfault (by decide)
    · rename_i hdirectory
      split at h
      · rename_i hrefusal
        cases h
        exact .inr ⟨l, List.mem_cons_self, hdirectory, hrefusal⟩
      · split at h
        · rename_i hlong
          cases h
          exact .inl ⟨rfl, name, List.mem_cons_self, hlong⟩
        · rcases ih h with ⟨rfl, long, hmem, hlong⟩ | ⟨other, hother, hrest⟩
          · exact .inl ⟨rfl, long, List.mem_cons_of_mem name hmem, hlong⟩
          · exact .inr ⟨other, List.mem_cons_of_mem l hother, hrest⟩

theorem askFault_of_contains {s : FileStore} {p : Path} {fault : SystemFault}
    (h : s.contains p = .error fault) : AskFault s p fault := by
  rw [FileStore.contains] at h
  split at h
  · cases h
  · rename_i hlocate
    split at h
    · cases h
    · rename_i hfault
      cases h
      rw [FileStore.locate] at hlocate
      split at hlocate
      · cases hlocate
      · split at hlocate
        · cases hlocate
          exact .path ‹_›
        · obtain ⟨_, hfollow, hsame⟩ := (mapError_eq_error_iff _ _ _).mp hlocate
          cases hsame
          rcases askFault_of_follow hfollow (by simpa using hfault) with
            ⟨rfl, name, hname, hlong⟩ | ⟨l, hl, hdirectory, hrefusal⟩
          · exact .name hname hlong
          · exact .refused hl hdirectory hrefusal (by simpa using hfault)
  · cases h

/-- The paths that are looked at in search of the options for a run. -/
def lookedAt (l : Location) (named : Option Path) : List Path :=
  match named with
  | none => candidates.map (Path.ofLocation l).child
  | some p => [p]

section

variable (s : FileStore)

theorem ends_isThere (p : Path) :
    Ends (fun f => ∃ fault, AskFault s p fault ∧ f = ⟨.system fault.number, fault.message p⟩)
      (isThere s p) := by
  rw [isThere]
  cases hcontains : s.contains p with
  | ok found => exact .ok found
  | error fault => exact .fault ⟨fault, askFault_of_contains hcontains, rfl⟩

theorem ends_firstOf (ps : List Path) :
    Ends (fun f => ∃ p ∈ ps, ∃ fault, AskFault s p fault ∧
      f = ⟨.system fault.number, fault.message p⟩) (firstOf s ps) := by
  induction ps with
  | nil => exact .ok none
  | cons p rest ih =>
    refine Ends.bind ((ends_isThere s p).imp fun f hf => ⟨p, List.mem_cons_self, hf⟩) ?_
    intro found _
    split
    · exact .ok (some p)
    · exact ih.imp fun f ⟨q, hq, hf⟩ => ⟨q, List.mem_cons_of_mem p hq, hf⟩

end

section

variable [CharacterNames] [NestingLimits]

/-- The faults of a file of options. -/
inductive FileFault (s : FileStore) (p : Path) : Fault → Prop
  | document {f : Fault} (h : DocumentFault s p f) : FileFault s p f
  | value {entries options : Entries} {f : Fault}
      (hread : readDocument s p = .ok (.table entries))
      (hoptions : optionValue entries "options" = .table options)
      (h : ValueFault options (.fault f)) : FileFault s p f
  | settings {document : Value} {patterns : Option (List Text)} {encoding grammar : Option Text}
      {f : Fault} (hread : readDocument s p = .ok document)
      (hsettings : settingsIn p document = .ok (.ofTexts patterns encoding grammar))
      (h : SettingsFault patterns encoding f) : FileFault s p f

theorem ends_loadFile (s : FileStore) (p : Path) :
    Ends (fun f => FileFault s p f ∨ HoldsSurrogate s p) (loadFile s p) := by
  refine Ends.bind ((ends_readDocument s p).imp fun f => Or.imp_left .document)
    fun document hread => ?_
  refine Ends.bind ((ends_settingsIn p document).imp ?_) fun settings hsettings => ?_
  · rintro f ⟨entries, options, rfl, hoptions, h⟩
    exact .inl (.value hread hoptions h)
  · obtain ⟨patterns, encoding, grammar, rfl⟩ := settingsIn_eq_ok hsettings
    refine (ends_make _ patterns encoding grammar).imp fun f h => .inl ?_
    exact .settings hread hsettings h

/-- The faults of loading options. -/
inductive LoadFault (s : FileStore) (root : Path) (named : Option Path) : Fault → Prop
  | directory (hnull : '\x00' ∈ root.text) :
      LoadFault s root named ⟨.value, "embedded null byte"⟩
  | name {l : Location} {p : Path} {fault : SystemFault} (hroot : s.resolve root = .ok l)
      (hp : p ∈ lookedAt l named) (hfault : AskFault s p fault) :
      LoadFault s root named ⟨.system fault.number, fault.message p⟩
  | file {l : Location} {p : Path} {f : Fault} (hroot : s.resolve root = .ok l)
      (hlocate : locate s l named = .ok (some p)) (h : FileFault s p f) : LoadFault s root named f

variable (s : FileStore) (root : Path) (named : Option Path)

/-- The document that options are loaded from holds a surrogate. It is no document of texts, and
nothing is told here of what is made of it. -/
def FindsSurrogate : Prop :=
  ∃ l p, s.resolve root = .ok l ∧ locate s l named = .ok (some p) ∧ HoldsSurrogate s p

theorem ends_locate {l : Location} (hroot : s.resolve root = .ok l) :
    Ends (LoadFault s root named) (locate s l named) := by
  cases named with
  | none =>
    refine (ends_firstOf s _).imp ?_
    rintro f ⟨p, hp, fault, hfault, rfl⟩
    exact .name hroot hp hfault
  | some p =>
    refine Ends.bind ((ends_isThere s p).imp ?_) fun found _ => ?_
    · rintro f ⟨fault, hfault, rfl⟩
      exact .name hroot List.mem_cons_self hfault
    · split
      · exact .ok (some p)
      · exact .reported rfl

theorem ends_load (htexts : ¬ FindsSurrogate s root named) :
    Ends (LoadFault s root named) (load s root named).options := by
  rw [load]
  split
  · rename_i fault hresolve
    refine .fault (.directory ?_)
    rw [FileStore.resolve] at hresolve
    split at hresolve
    · rename_i hnull
      simpa using hnull
    · cases hresolve
  · rename_i l hroot
    have hends := ends_locate s root named hroot
    split
    · rename_i f hlocate
      rw [hlocate] at hends
      cases hends with
      | reported hkind => exact .reported hkind
      | fault h => exact .fault h
    · exact .ok none
    · rename_i p hlocate
      refine Ends.map ((ends_loadFile s p).imp fun f hf => ?_) some
      rcases hf with hf | hsurrogate
      · exact .file hroot hlocate hf
      · exact absurd ⟨l, p, hroot, hlocate, hsurrogate⟩ htexts

/-- Options that are made of texts or loaded from a file are made, or what is wrong is reported
as a mistake in the configuration, or one of the listed faults is met. A document of texts in JSON
meets one just when it is nested deeper than the limit, and one in TOML does so where brackets side
by side need more calls than may be open. -/
theorem options_end (base : Options) (patterns : Option (List Text))
    (encoding grammar : Option Text) :
    Ends (SettingsFault patterns encoding) (base.make (.ofTexts patterns encoding grammar)) ∧
    Ends (SettingsFault patterns encoding) (base.override (.ofTexts patterns encoding grammar)) ∧
    (¬ FindsSurrogate s root named → Ends (LoadFault s root named) (load s root named).options) ∧
    ∀ p source, readText s p = .ok source →
      (isToml p = false → JsonNesting.IsReadable (Text.unifyNewlines source) →
        ((∃ f, readDocument s p = .error (.fault f)) ↔
          NestingLimits.json < JsonNesting.nesting (Text.unifyNewlines source))) ∧
      (isToml p = true → ∀ n, source = "a=".toList ++ TomlNesting.brackets n →
        NestingLimits.toml < Toml.arrayCalls * n → ∃ f, readDocument s p = .error (.fault f)) := by
  refine ⟨ends_make base patterns encoding grammar, ?_, ends_load s root named,
    fun p source hread => ⟨readDocument_json hread, fun hformat n hsource hn => ?_⟩⟩
  · rw [Options.override_eq_make]
    exact ends_make base patterns encoding grammar
  · subst hsource
    exact readDocument_brackets hread hformat hn

end

section

attribute [local instance] referenceSurroundings

/-- A bound of a repetition that is too large is a mistake in a pattern that is not reported. -/
theorem large_bound_is_not_reported :
    ∃ f, Options.default.make (.ofTexts (some ["a{4294967295}".toList]) none none) =
      .error (.fault f) := by
  have hcompile : PatternSource.compileAll (["a{4294967295}".toList].map .text) =
      .error (.fault ⟨.overflow, "the repetition number is too large"⟩) := by
    decide +kernel
  refine ⟨⟨.overflow, "the repetition number is too large"⟩, ?_⟩
  rw [make_eq_bind]
  simp only [Settings.ofTexts, Option.map_some, hcompile, error_bind]

end

end LicenseNotices.OptionFailures
