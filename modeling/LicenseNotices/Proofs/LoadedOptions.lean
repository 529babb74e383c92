import LicenseNotices.Proofs.OptionFailures
import LicenseNotices.Proofs.ValueTexts
import Mathlib.Data.Set.List

/-!
Which options are loaded from a file. Its document has to be a table; what stands in it counts by
its text, and what is not given counts as left out, whatever its kind. Documents of the documented
shape are read as they are meant. The other documents that are accepted depart from it in four ways.
Documents with the escape of a surrogate in them are left aside.
-/
namespace LicenseNotices.LoadedOptions

open LicenseNotices.Configuration Document OptionFailures Results ValueTexts

section

variable [NestingLimits]

/-- The texts of patterns that a value stands for. Every item of a list stands for its text. -/
inductive StandsFor : Value → List Text → Prop
  | one (t : Text) : StandsFor (.text t) [t]
  | list {items : List Value} (hne : items ≠ []) (htext : ∀ v ∈ items, v.textFault? 1 = none) :
      StandsFor (.list items) (items.map Value.display)

/-- The name of an encoding that a value stands for by its text, whatever its kind. -/
inductive GivesEncoding (v : Value) (name : EncodingName) : Prop
  | default (hv : v.isGiven = false) (hname : name = .utf8)
  | named (hv : v.isGiven = true) (htext : v.textFault? 0 = none) (hnull : '\x00' ∉ v.display)
      (hname : name.spelling = v.display)

end

/-- The grammar that a text names. No other value that is given has the text of a name. -/
inductive GivesGrammar (v : Value) (g : Grammar) : Prop
  | default (hv : v.isGiven = false) (hg : g = .default)
  | named (hv : v = .text g.name.toList)

section

variable [CharacterNames] [NestingLimits]

/-- The patterns that are read from a value, or the default ones where there is none. -/
inductive GivesPatterns (v : Value) (ps : List Pattern) : Prop
  | default (hv : v = .null) (hps : ps = defaultPatterns)
  | texts {ts : List Text} (hts : StandsFor v ts) (hsource : ps.map Pattern.source = ts)
      (hvalid : ∀ p ∈ ps, Pattern.parse PatternSource.flags p.source = .ok p)

/-- The options that the entries of a document give. -/
inductive GivesOptions (entries : Entries) (o : Options) : Prop
  | default (hv : (optionValue entries "options").isGiven = false) (ho : o = .default)
  | table {options : Entries} (hv : optionValue entries "options" = .table options)
      (hpatterns : GivesPatterns (optionValue options "patterns") o.patterns)
      (hencoding : GivesEncoding (optionValue options "encoding") o.encoding)
      (hgrammar : GivesGrammar (optionValue options "grammar") o.grammar)

/-- A pattern keeps the text from which it is read. -/
theorem source_of_parse {flags : Pattern.Flags} {t : Text} {p : Pattern}
    (h : Pattern.parse flags t = .ok p) : p.source = t := by
  rw [Pattern.parse] at h
  obtain ⟨c, -, h⟩ := (bind_eq_ok_iff _ _ _).mp h
  obtain ⟨⟨r, rest⟩, -, h⟩ := (bind_eq_ok_iff _ _ _).mp h
  dsimp only at h
  split at h
  · cases h
  · obtain ⟨settled, -, h⟩ := (bind_eq_ok_iff _ _ _).mp h
    split at h
    · cases h
    · split at h
      · cases h
      · split at h
        · cases h
        · split at h
          · cases h
          · cases h
            rfl

theorem compile_text_eq_ok_iff (t : Text) (p : Pattern) :
    PatternSource.compile (.text t) = .ok p ↔
      p.source = t ∧ Pattern.parse PatternSource.flags p.source = .ok p := by
  rw [PatternSource.compile, mapError_eq_ok_iff]
  constructor
  · intro h
    have hsource := source_of_parse h
    exact ⟨hsource, hsource ▸ h⟩
  · rintro ⟨rfl, h⟩
    exact h

/-- Texts are made into the patterns of which they are the sources. -/
theorem compileAll_eq_ok_iff (ts : List Text) (ps : List Pattern) :
    PatternSource.compileAll (ts.map .text) = .ok ps ↔
      ts ≠ [] ∧ ps.map Pattern.source = ts ∧
        ∀ p ∈ ps, Pattern.parse PatternSource.flags p.source = .ok p := by
  have hcompile : ((ts.map .text).mapM PatternSource.compile = .ok ps ↔
      ps.map Pattern.source = ts ∧
        ∀ p ∈ ps, Pattern.parse PatternSource.flags p.source = .ok p) := by
    rw [mapM_eq_ok_iff, List.map_map]
    induction ts generalizing ps with
    | nil => cases ps <;> simp
    | cons t rest ih =>
      cases ps with
      | nil => simp
      | cons p later =>
        simp only [List.map_cons, List.cons.injEq, ih, Function.comp_apply, compile_text_eq_ok_iff,
          List.forall_mem_cons]
        tauto
  rw [PatternSource.compileAll, bind_eq_ok_iff]
  constructor
  · rintro ⟨patterns, hpatterns, h⟩
    split at h
    · cases h
    · rename_i hne
      cases h
      obtain ⟨rfl, hvalid⟩ := hcompile.mp hpatterns
      refine ⟨?_, rfl, hvalid⟩
      simpa using hne
  · rintro ⟨hne, hsource, hvalid⟩
    refine ⟨ps, hcompile.mpr ⟨hsource, hvalid⟩, if_neg ?_⟩
    intro hempty
    rw [List.isEmpty_iff.mp hempty] at hsource
    exact hne hsource.symm

end

theorem ofText_eq_ok_iff (t : Text) (name : EncodingName) :
    EncodingName.ofText t = .ok name ↔ '\x00' ∉ t ∧ name.spelling = t := by
  rw [EncodingName.ofText]
  split
  · rename_i hnull
    simp_all
  · rename_i hnull
    constructor
    · intro h
      split at h
      · rename_i other hother
        cases h
        exact ⟨by simpa using hnull, EncodingName.spelling_of_ofText? hother⟩
      · cases h
    · rintro ⟨-, rfl⟩
      have hname : EncodingName.ofText? name.spelling = some name := dif_pos name.isKnown
      rw [hname]

theorem ofValue_text_eq_ok_iff (t : Text) (g : Grammar) :
    Grammar.ofValue (.text t) = .ok g ↔ g.name.toList = t := by
  have hnamed : Grammar.named? t = some g ↔ g.name.toList = t := by
    constructor
    · intro h
      simpa using List.find?_some h
    · rintro rfl
      cases g <;> decide
  rw [← hnamed, Grammar.ofValue.eq_def]
  dsimp only
  cases Grammar.named? t <;> simp

/-- The name of the encoding of settings, which is that of the default options when none is
given. -/
def encodingFrom (t : Option Text) : Except Failure EncodingName :=
  match t with
  | some t => EncodingName.ofText t
  | none => .ok .utf8

def grammarFrom (t : Option Text) : Except Failure Grammar :=
  match t with
  | some t => Grammar.ofValue (.text t)
  | none => .ok .default

theorem isGiven_text {t : Text} (h : some t ≠ some []) : (Value.text t).isGiven = true := by
  cases t with
  | nil => exact absurd rfl h
  | cons c rest => rfl

section

variable [NestingLimits]

theorem textOf_eq_ok_iff (depth : ℕ) (v : Value) (t : Text) :
    textOf depth v = .ok t ↔ v.textFault? depth = none ∧ v.display = t := by
  rw [textOf]
  cases v.textFault? depth <;> simp

theorem mapM_textOf_eq_ok_iff (depth : ℕ) (items : List Value) (ts : List Text) :
    items.mapM (textOf depth) = .ok ts ↔
      (∀ v ∈ items, v.textFault? depth = none) ∧ items.map Value.display = ts := by
  rw [mapM_eq_ok_iff]
  induction items generalizing ts with
  | nil => cases ts <;> simp
  | cons v rest ih =>
    cases ts with
    | nil => simp
    | cons t later =>
      simp only [List.map_cons, List.cons.injEq, ih, textOf_eq_ok_iff, List.forall_mem_cons]
      tauto

theorem displayed_eq_ok_iff (v : Value) (t : Option Text) :
    displayed v = .ok t ↔
      (v.isGiven = false ∧ t = none) ∨
        (v.isGiven = true ∧ v.textFault? 0 = none ∧ t = some v.display) := by
  rw [displayed]
  split
  · rename_i hgiven
    rw [map_eq_ok_iff]
    simp [textOf_eq_ok_iff, hgiven]
  · rename_i hgiven
    simp [hgiven, eq_comm]

theorem givesEncoding_iff (v : Value) (name : EncodingName) :
    (∃ t, displayed v = .ok t ∧ encodingFrom t = .ok name) ↔ GivesEncoding v name := by
  simp only [displayed_eq_ok_iff]
  constructor
  · rintro ⟨t, ⟨hv, rfl⟩ | ⟨hv, htext, rfl⟩, hname⟩
    · exact .default hv (Except.ok.inj hname).symm
    · obtain ⟨hnull, hspelling⟩ := (ofText_eq_ok_iff _ name).mp hname
      exact .named hv htext hnull hspelling
  · rintro (⟨hv, rfl⟩ | ⟨hv, htext, hnull, hspelling⟩)
    · exact ⟨none, .inl ⟨hv, rfl⟩, rfl⟩
    · exact ⟨_, .inr ⟨hv, htext, rfl⟩, (ofText_eq_ok_iff _ name).mpr ⟨hnull, hspelling⟩⟩

theorem givesGrammar_iff (v : Value) (g : Grammar) :
    (∃ t, displayed v = .ok t ∧ grammarFrom t = .ok g) ↔ GivesGrammar v g := by
  simp only [displayed_eq_ok_iff]
  constructor
  · rintro ⟨t, ⟨hv, rfl⟩ | ⟨hv, htext, rfl⟩, hg⟩
    · exact .default hv (Except.ok.inj hg).symm
    · exact .named (eq_text_of_display ((ofValue_text_eq_ok_iff _ g).mp hg).symm)
  · rintro (⟨hv, rfl⟩ | rfl)
    · exact ⟨none, .inl ⟨hv, rfl⟩, rfl⟩
    · refine ⟨_, .inr ⟨?_, rfl, rfl⟩, (ofValue_text_eq_ok_iff _ g).mpr rfl⟩
      cases g <;> rfl

theorem ne_nil_of_displayed {v : Value} {t : Option Text} (h : displayed v = .ok t) :
    t ≠ some [] := by
  rcases (displayed_eq_ok_iff v t).mp h with ⟨-, rfl⟩ | ⟨hv, -, rfl⟩
  · simp
  · simpa using display_ne_nil hv

theorem settingsIn_of_table {p : Path} {entries options : Entries}
    (h : optionValue entries "options" = .table options) :
    settingsIn p (.table entries) = settingsOf p options := by
  rw [optionValue] at h
  rw [settingsIn, h]

theorem settingsIn_of_not_table {p : Path} {entries : Entries}
    (h : ∀ options, optionValue entries "options" ≠ .table options) :
    settingsIn p (.table entries) =
      if (optionValue entries "options").isGiven then
        .error (unusable p "'options' must be a table") else .ok {} := by
  rw [optionValue] at h ⊢
  rw [settingsIn]
  split
  · rename_i options hoptions
    exact absurd hoptions (h options)
  · rfl

end

/-- A table that does not count as given is empty. -/
theorem eq_nil_of_not_given {entries options : Entries}
    (hv : optionValue entries "options" = .table options)
    (hgiven : (optionValue entries "options").isGiven = false) : options = [] := by
  simpa [hv, Value.isGiven] using hgiven

section

variable [CharacterNames] [NestingLimits]

/-- The patterns of settings, which are those of the default options when none are given. -/
def patternsFrom (patterns : Option (List Text)) : Except Failure (List Pattern) :=
  match patterns with
  | some ts => PatternSource.compileAll (ts.map .text)
  | none => .ok defaultPatterns

theorem givesPatterns_iff (p : Path) (v : Value) (ps : List Pattern) :
    (∃ patterns, patternsOf p v = .ok patterns ∧ patternsFrom patterns = .ok ps) ↔
      GivesPatterns v ps := by
  constructor
  · rintro ⟨patterns, hpatterns, hps⟩
    cases v with
    | null =>
      cases hpatterns
      exact .default rfl (Except.ok.inj hps).symm
    | text t =>
      cases hpatterns
      obtain ⟨-, hsource, hvalid⟩ := (compileAll_eq_ok_iff [t] ps).mp hps
      exact .texts (.one t) hsource hvalid
    | list items =>
      obtain ⟨ts, hts, rfl⟩ := (map_eq_ok_iff _ _ _).mp hpatterns
      obtain ⟨htext, rfl⟩ := (mapM_textOf_eq_ok_iff 1 items ts).mp hts
      obtain ⟨hne, hsource, hvalid⟩ := (compileAll_eq_ok_iff _ ps).mp hps
      exact .texts (.list (fun h => hne (by rw [h]; rfl)) htext) hsource hvalid
    | _ => cases hpatterns
  · rintro (⟨rfl, rfl⟩ | ⟨hts, hsource, hvalid⟩)
    · exact ⟨none, rfl, rfl⟩
    · cases hts with
      | one t => exact ⟨some [t], rfl, (compileAll_eq_ok_iff _ ps).mpr ⟨by simp, hsource, hvalid⟩⟩
      | @list items hne htext =>
        refine ⟨some (items.map Value.display), (map_eq_ok_iff _ _ _).mpr ⟨_, ?_, rfl⟩, ?_⟩
        · exact (mapM_textOf_eq_ok_iff 1 items _).mpr ⟨htext, rfl⟩
        · exact (compileAll_eq_ok_iff _ ps).mpr ⟨by simpa using hne, hsource, hvalid⟩

theorem make_eq_ok_iff {patterns : Option (List Text)} {encoding grammar : Option Text}
    (hencoding : encoding ≠ some []) (hgrammar : grammar ≠ some []) (o : Options) :
    Options.default.make (.ofTexts patterns encoding grammar) = .ok o ↔
      patternsFrom patterns = .ok o.patterns ∧ encodingFrom encoding = .ok o.encoding ∧
        grammarFrom grammar = .ok o.grammar := by
  have hmake : Options.default.make (.ofTexts patterns encoding grammar) =
      patternsFrom patterns >>= fun ps => encodingFrom encoding >>= fun name =>
        grammarFrom grammar >>= fun g => .ok ⟨ps, name, g⟩ := by
    rw [make_eq_bind]
    congr 1
    · cases patterns <;> rfl
    · funext ps
      congr 1
      · cases encoding with
        | none => rfl
        | some t => exact if_pos (isGiven_text hencoding)
      · funext name
        congr 1
        cases grammar with
        | none => rfl
        | some t => exact if_pos (isGiven_text hgrammar)
  rw [hmake]
  exact gathered_eq_ok_iff o

/-- The settings of a table give options when each of the three values does. -/
theorem settingsOf_eq_ok_iff (p : Path) (options : Entries) (o : Options) :
    (∃ settings, settingsOf p options = .ok settings ∧
        Options.default.make settings = .ok o) ↔
      GivesPatterns (optionValue options "patterns") o.patterns ∧
        GivesEncoding (optionValue options "encoding") o.encoding ∧
        GivesGrammar (optionValue options "grammar") o.grammar := by
  rw [← givesPatterns_iff p, ← givesEncoding_iff, ← givesGrammar_iff]
  constructor
  · rintro ⟨settings, hsettings, hmake⟩
    obtain ⟨patterns, hpatterns, h⟩ := (bind_eq_ok_iff _ _ _).mp hsettings
    obtain ⟨encoding, hencoding, h⟩ := (bind_eq_ok_iff _ _ _).mp h
    obtain ⟨grammar, hgrammar, h⟩ := (bind_eq_ok_iff _ _ _).mp h
    cases h
    obtain ⟨hps, hname, hg⟩ := (make_eq_ok_iff (ne_nil_of_displayed hencoding)
      (ne_nil_of_displayed hgrammar) o).mp hmake
    exact ⟨⟨patterns, hpatterns, hps⟩, ⟨encoding, hencoding, hname⟩, ⟨grammar, hgrammar, hg⟩⟩
  · rintro ⟨⟨patterns, hpatterns, hps⟩, ⟨encoding, hencoding, hname⟩, ⟨grammar, hgrammar, hg⟩⟩
    refine ⟨.ofTexts patterns encoding grammar, ?_, ?_⟩
    · exact (bind_eq_ok_iff _ _ _).mpr ⟨patterns, hpatterns, (bind_eq_ok_iff _ _ _).mpr
        ⟨encoding, hencoding, (bind_eq_ok_iff _ _ _).mpr ⟨grammar, hgrammar, rfl⟩⟩⟩
    · exact (make_eq_ok_iff (ne_nil_of_displayed hencoding) (ne_nil_of_displayed hgrammar) o).mpr
        ⟨hps, hname, hg⟩

theorem settingsIn_eq_ok_iff (p : Path) (document : Value) (o : Options) :
    (∃ settings, settingsIn p document = .ok settings ∧
        Options.default.make settings = .ok o) ↔
      ∃ entries, document = .table entries ∧ GivesOptions entries o := by
  constructor
  · rintro ⟨settings, hsettings, hmake⟩
    cases document with
    | table entries =>
      refine ⟨entries, rfl, ?_⟩
      by_cases htable : ∃ options, optionValue entries "options" = .table options
      · obtain ⟨options, hv⟩ := htable
        rw [settingsIn_of_table hv] at hsettings
        obtain ⟨hpatterns, hencoding, hgrammar⟩ :=
          (settingsOf_eq_ok_iff p options o).mp ⟨settings, hsettings, hmake⟩
        exact .table hv hpatterns hencoding hgrammar
      · rw [settingsIn_of_not_table (not_exists.mp htable)] at hsettings
        split at hsettings
        · cases hsettings
        · rename_i hgiven
          cases hsettings
          rw [Options.make_of_isEmpty _ rfl] at hmake
          exact .default (by simpa using hgiven) (Except.ok.inj hmake).symm
    | _ => cases hsettings
  · rintro ⟨entries, rfl, hgives⟩
    by_cases htable : ∃ options, optionValue entries "options" = .table options
    · obtain ⟨options, hv⟩ := htable
      rw [settingsIn_of_table hv, settingsOf_eq_ok_iff]
      cases hgives with
      | default hgiven ho =>
        obtain rfl := eq_nil_of_not_given hv hgiven
        subst ho
        exact ⟨.default rfl rfl, .default rfl rfl, .default rfl rfl⟩
      | table hv' hpatterns hencoding hgrammar =>
        cases hv.symm.trans hv'
        exact ⟨hpatterns, hencoding, hgrammar⟩
    · rw [settingsIn_of_not_table (not_exists.mp htable)]
      cases hgives with
      | default hgiven ho =>
        refine ⟨{}, if_neg (by simp [hgiven]), ?_⟩
        rw [Options.make_of_isEmpty _ rfl, ho]
      | table hv => exact absurd ⟨_, hv⟩ htable

theorem loadFile_eq_ok_iff (s : FileStore) (p : Path) (o : Options) :
    loadFile s p = .ok o ↔
      ∃ entries, readDocument s p = .ok (.table entries) ∧ GivesOptions entries o := by
  rw [loadFile, bind_eq_ok_iff]
  simp only [bind_eq_ok_iff, settingsIn_eq_ok_iff]
  constructor
  · rintro ⟨document, hread, entries, rfl, hgives⟩
    exact ⟨entries, hread, hgives⟩
  · rintro ⟨entries, hread, hgives⟩
    exact ⟨_, hread, entries, rfl, hgives⟩

theorem load_eq_ok_iff (s : FileStore) (root : Path) (named : Option Path) (o : Options) :
    (load s root named).options = .ok (some o) ↔
      ∃ l p entries, s.resolve root = .ok l ∧ locate s l named = .ok (some p) ∧
        readDocument s p = .ok (.table entries) ∧ GivesOptions entries o := by
  rw [load]
  split
  · rename_i fault hresolve
    simp [hresolve]
  · rename_i l hresolve
    split
    · rename_i f hlocate
      simp [hresolve, hlocate]
    · rename_i hlocate
      simp [hresolve, hlocate]
    · rename_i p hlocate
      simp [hresolve, hlocate, map_eq_ok_iff, loadFile_eq_ok_iff]

end

/-- The texts that a text or a list of texts is. -/
inductive IsTexts : Value → List Text → Prop
  | one (t : Text) : IsTexts (.text t) [t]
  | list {ts : List Text} (hne : ts ≠ []) : IsTexts (.list (ts.map .text)) ts

def IsTextOrNull (v : Value) : Prop := v = .null ∨ ∃ t, v = .text t

/-- The documented shape of a document. What is left out of a table is as if it was null. -/
inductive IsDocumented (entries : Entries) : Prop
  | null (hv : optionValue entries "options" = .null)
  | table {options : Entries} (hv : optionValue entries "options" = .table options)
      (hpatterns : optionValue options "patterns" = .null ∨
        ∃ ts, IsTexts (optionValue options "patterns") ts)
      (hencoding : IsTextOrNull (optionValue options "encoding"))
      (hgrammar : IsTextOrNull (optionValue options "grammar"))

/-- How a document without the documented shape is accepted all the same. In place of the table or
of the grammar stands something empty; a pattern or the encoding is not a text and is taken by its
text, or the encoding is empty. -/
inductive Departs (entries : Entries) : Prop
  | options (hv : (optionValue entries "options").isGiven = false)
      (hnull : optionValue entries "options" ≠ .null)
      (htable : ∀ options, optionValue entries "options" ≠ .table options)
  | item {options : Entries} {items : List Value} {v : Value}
      (hv : optionValue entries "options" = .table options)
      (hitems : optionValue options "patterns" = .list items) (hitem : v ∈ items)
      (htext : ∀ t, v ≠ .text t)
  | encoding {options : Entries} (hv : optionValue entries "options" = .table options)
      (hencoding : ¬ IsTextOrNull (optionValue options "encoding"))
  | grammar {options : Entries} (hv : optionValue entries "options" = .table options)
      (hgiven : (optionValue options "grammar").isGiven = false)
      (hgrammar : ¬ IsTextOrNull (optionValue options "grammar"))

theorem IsTexts.of_list {items : List Value} (hne : items ≠ [])
    (htexts : ∀ v ∈ items, ∃ t, Value.text t = v) : ∃ ts, IsTexts (.list items) ts := by
  obtain ⟨ts, rfl⟩ : items ∈ Set.range (List.map Value.text) := by
    rw [Set.range_list_map]
    exact htexts
  exact ⟨ts, .list (by simpa using hne)⟩

theorem not_isDocumented_of_departs {entries : Entries} (h : Departs entries) :
    ¬ IsDocumented entries := by
  intro hdocumented
  cases hdocumented with
  | null hnull =>
    cases h with
    | options _ hne => exact hne hnull
    | item hv => cases hnull.symm.trans hv
    | encoding hv => cases hnull.symm.trans hv
    | grammar hv => cases hnull.symm.trans hv
  | table htable hpatterns hencoding hgrammar =>
    cases h with
    | options _ _ hne => exact hne _ htable
    | item hv hitems hitem htext =>
      cases htable.symm.trans hv
      rw [hitems] at hpatterns
      obtain hnull | ⟨ts, hts⟩ := hpatterns
      · cases hnull
      · cases hts with
        | list _ =>
          obtain ⟨t, -, rfl⟩ := List.mem_map.mp hitem
          exact htext t rfl
    | encoding hv hnot =>
      cases htable.symm.trans hv
      exact hnot hencoding
    | grammar hv _ hnot =>
      cases htable.symm.trans hv
      exact hnot hgrammar

section

variable [NestingLimits]

theorem IsTexts.exists_or_item {v : Value} {ts : List Text} (h : StandsFor v ts) :
    (∃ us, IsTexts v us) ∨ ∃ items, v = .list items ∧ ∃ item ∈ items, ∀ t, item ≠ .text t := by
  cases h with
  | one t => exact .inl ⟨_, .one t⟩
  | @list items hne htext =>
    by_cases hitem : ∃ item ∈ items, ∀ t, item ≠ .text t
    · exact .inr ⟨items, rfl, hitem⟩
    · refine .inl (IsTexts.of_list hne fun v hv => ?_)
      by_contra hnone
      exact hitem ⟨v, hv, fun t heq => hnone ⟨t, heq.symm⟩⟩

theorem StandsFor.eq_of_isTexts {v : Value} {ts us : List Text} (h : StandsFor v us)
    (hts : IsTexts v ts) : us = ts := by
  cases hts with
  | one t => cases h with | one => rfl
  | list hne =>
    generalize hitems : Value.list (ts.map .text) = v at h
    cases h with
    | one t => cases hitems
    | list _ _ =>
      cases hitems
      rw [List.map_map]
      exact List.map_id ts

end

section

variable [CharacterNames] [NestingLimits]

theorem isDocumented_or_departs {entries : Entries} {o : Options} (h : GivesOptions entries o) :
    IsDocumented entries ∨ Departs entries := by
  cases h with
  | default hgiven ho =>
    by_cases hnull : optionValue entries "options" = .null
    · exact .inl (.null hnull)
    · by_cases htable : ∃ options, optionValue entries "options" = .table options
      · obtain ⟨options, hv⟩ := htable
        obtain rfl := eq_nil_of_not_given hv hgiven
        exact .inl (.table hv (.inl rfl) (.inl rfl) (.inl rfl))
      · exact .inr (.options hgiven hnull (not_exists.mp htable))
  | @table options hv hpatterns hencoding hgrammar =>
    by_cases hname : IsTextOrNull (optionValue options "encoding")
    swap
    · exact .inr (.encoding hv hname)
    have hgrammar : IsTextOrNull (optionValue options "grammar") ∨ Departs entries := by
      cases hgrammar with
      | default hgiven _ =>
        by_cases hnamed : IsTextOrNull (optionValue options "grammar")
        · exact .inl hnamed
        · exact .inr (.grammar hv hgiven hnamed)
      | named hv => exact .inl (.inr ⟨_, hv⟩)
    obtain hgrammar | hdeparts := hgrammar
    swap
    · exact .inr hdeparts
    cases hpatterns with
    | default hnull _ => exact .inl (.table hv (.inl hnull) hname hgrammar)
    | texts hts _ _ =>
      obtain htexts | ⟨items, hitems, item, hitem, htext⟩ := IsTexts.exists_or_item hts
      · exact .inl (.table hv (.inr htexts) hname hgrammar)
      · exact .inr (.item hv hitems hitem htext)

/-- Patterns that are given as texts keep them. -/
theorem sources_of_isTexts {entries options : Entries} {o : Options} {ts : List Text}
    (h : GivesOptions entries o) (hv : optionValue entries "options" = .table options)
    (hts : IsTexts (optionValue options "patterns") ts) : o.patterns.map Pattern.source = ts := by
  cases h with
  | default hgiven _ =>
    obtain rfl := eq_nil_of_not_given hv hgiven
    cases hts
  | table hv' hpatterns _ _ =>
    cases hv.symm.trans hv'
    cases hpatterns with
    | default hnull _ =>
      rw [hnull] at hts
      cases hts
    | texts hus hsource _ => exact hsource.trans (hus.eq_of_isTexts hts)

/-- Options are loaded from a document of texts just when it is a table and its entries give them,
and if that fails otherwise than by a mistake in the configuration, one of the listed faults is met.
Entries that give options have the documented shape or depart from it in one of the four ways, and
patterns that are given as texts are the patterns of the options. -/
theorem loaded_iff_gives_options (s : FileStore) (root : Path) (named : Option Path) :
    (¬ FindsSurrogate s root named →
      (∀ o, (load s root named).options = .ok (some o) ↔
        ∃ l p entries, s.resolve root = .ok l ∧ locate s l named = .ok (some p) ∧
          readDocument s p = .ok (.table entries) ∧ GivesOptions entries o) ∧
      Ends (LoadFault s root named) (load s root named).options) ∧
    ∀ entries o, GivesOptions entries o →
      (¬ IsDocumented entries ↔ Departs entries) ∧
      ∀ options ts, optionValue entries "options" = .table options →
        IsTexts (optionValue options "patterns") ts → o.patterns.map Pattern.source = ts := by
  refine ⟨fun htexts => ⟨load_eq_ok_iff s root named, ends_load s root named htexts⟩,
    fun entries o h => ⟨⟨?_, not_isDocumented_of_departs⟩, ?_⟩⟩
  · exact (isDocumented_or_departs h).resolve_left
  · intro options ts hv hts
    exact sources_of_isTexts h hv hts

end

/-- The only file of a store, in which zero is given in place of the table of options. -/
def zeroPath : Path := (Path.ofLocation []).child ".savelicenserc".toList

def zeroStore : FileStore :=
  FileStore.put { entry? := fun _ => none } [".savelicenserc".toList]
    (Encoding.Utf8.encode "\x7b\"options\": 0\x7d".toList)

/-- What stands in a document in place of the table of options. -/
def optionsIn : Value → Value
  | .table entries => optionValue entries "options"
  | _ => .null

section

attribute [local instance] referenceSurroundings

theorem exists_zero_entries :
    ∃ entries, readDocument zeroStore zeroPath = .ok (.table entries) ∧
      (optionValue entries "options").isGiven = false ∧
      (optionValue entries "options").kindName = "int" := by
  have hzero : (readDocument zeroStore zeroPath).toOption.map
      (fun document => ((optionsIn document).isGiven, (optionsIn document).kindName)) =
        some (false, "int") := by
    decide +kernel
  obtain ⟨document, hread, hdocument⟩ := exists_ok_of_toOption hzero
  obtain ⟨hgiven, hkind⟩ := Prod.mk.inj hdocument
  cases document with
  | table entries => exact ⟨entries, hread, hgiven, hkind⟩
  | _ => simp [optionsIn, Value.kindName] at hkind

/-- A number in place of the table of options is accepted when it is zero. -/
theorem zero_passes_for_options :
    ∃ entries, zeroStore.resolve (.ofText ['/']) = .ok [] ∧
      locate zeroStore [] none = .ok (some zeroPath) ∧
      readDocument zeroStore zeroPath = .ok (.table entries) ∧ ¬ IsDocumented entries ∧
      (load zeroStore (.ofText ['/']) none).options = .ok (some .default) := by
  obtain ⟨entries, hread, hgiven, hkind⟩ := exists_zero_entries
  have hresolve : zeroStore.resolve (.ofText ['/']) = .ok [] := by rfl
  have hlocate : locate zeroStore [] none = .ok (some zeroPath) := by decide +kernel
  have hdeparts : Departs entries := by
    refine .options hgiven ?_ ?_
    · intro hnull
      rw [hnull] at hkind
      simp [Value.kindName] at hkind
    · intro options htable
      rw [htable] at hkind
      simp [Value.kindName] at hkind
  exact ⟨entries, hresolve, hlocate, hread, not_isDocumented_of_departs hdeparts,
    (load_eq_ok_iff _ _ none _).mpr
      ⟨_, _, entries, hresolve, hlocate, hread, .default hgiven rfl⟩⟩

end

end LicenseNotices.LoadedOptions
