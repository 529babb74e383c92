import LicenseNotices.NoticeMatcher
import LicenseNotices.Proofs.PatternMeaning

/-!
The signs by which the default pattern knows a notice: an exclamation mark or a mark that asks
to be preserved at the start of a line, the name of a license as a word of its own, and the two
signs of copyright. A sign stands at a place of a text, and what it asks of the text before and
behind is stated without the pattern. The default matcher accepts the texts with a sign.
-/
namespace LicenseNotices.NoticeSigns

open Pattern Text

/-- What asks to be preserved, behind an at sign. -/
def markWords : List Text := ["preserve".toList, "cc_on".toList]

def licenseNames : List Text :=
  ["MIT".toList, "MPL".toList, "GPL".toList, "License".toList, "Copyright".toList]

/-- The letter c in parentheses. -/
def bracketed : Text := "(c)".toList

/-- A line of the text starts behind the part that has been read. -/
def StartsLine (before : Text) : Prop := ∀ c ∈ before.getLast?, c = '\n'

/-- Nothing stands there, or a character that is no part of a word. -/
def NoWord (c? : Option Char) : Prop := ∀ c ∈ c?, isWord c = false

/-- A sign stands between the two parts of a text, at the start of the second. -/
inductive SignAt (before : Text) : Text → Prop
  | exclamation {rest : Text} (hstart : StartsLine before) : SignAt before ('!' :: rest)
  | mark {word w rest : Text} (hstart : StartsLine before) (hword : word ∈ markWords)
      (hspells : Spells word w) (hend : NoWord rest.head?) : SignAt before ('@' :: (w ++ rest))
  | name {word w rest : Text} (hstart : NoWord before.getLast?) (hword : word ∈ licenseNames)
      (hspells : Spells word w) (hend : NoWord rest.head?) : SignAt before (w ++ rest)
  | bracketed {c : Char} {w rest : Text} (hc : isWord c = false) (hspells : Spells bracketed w) :
      SignAt before (c :: (w ++ rest))
  | copyright {rest : Text} : SignAt before ('©' :: rest)

/-- Somewhere in the text there is a sign. -/
def HasSign (t : Text) : Prop := ∃ before rest, t = before ++ rest ∧ SignAt before rest

/-- A sign asks of what stands before it whether a line starts there or a word may start. -/
theorem SignAt.imp {before before' rest : Text} (hline : StartsLine before → StartsLine before')
    (hword : NoWord before.getLast? → NoWord before'.getLast?) (h : SignAt before rest) :
    SignAt before' rest := by
  cases h with
  | exclamation hstart => exact .exclamation (hline hstart)
  | mark hstart hmem hspells hend => exact .mark (hline hstart) hmem hspells hend
  | name hstart hmem hspells hend => exact .name (hword hstart) hmem hspells hend
  | bracketed hc hspells => exact .bracketed hc hspells
  | copyright => exact .copyright

/-- The flags of the default pattern. -/
def signFlags : Flags := { ignoreCase := true, multiline := true, unicode := true }

/-- The alternatives of the default pattern, one for each kind of sign. -/
def signAlternatives : List (List Node) :=
  [.anchor .lineStart :: literals ['!'],
    .anchor .lineStart :: literals ['@'] ++
      [.group 1 (eitherOf (markWords.map literals)), .anchor .boundary],
    [.anchor .boundary, .group 2 (eitherOf (licenseNames.map literals)), .anchor .boundary],
    .set false [.category .word true] :: literals bracketed,
    [.literal 0xa9]]

theorem knownPattern_default : knownPattern defaultPatternSource =
    ⟨defaultPatternSource, signFlags, eitherOf signAlternatives⟩ := by
  decide +kernel

theorem holdsAt_lineStart (before after : Text) :
    Anchor.lineStart.HoldsAt signFlags before.reverse after ↔ StartsLine before := by
  rw [Anchor.HoldsAt, Place.isAt, StartsLine, ← List.head?_reverse]
  cases before.reverse <;> simp [signFlags]

theorem any_isWord_eq_false_iff (c? : Option Char) : c?.any isWord = false ↔ NoWord c? := by
  cases c? <;> simp [NoWord]

/-- A boundary lies where a word character stands on exactly one side. -/
theorem holdsAt_boundary (before after : Text) :
    Anchor.boundary.HoldsAt signFlags before after ↔
      (NoWord before.head? ↔ ¬ NoWord after.head?) := by
  change (before.head?.any isWord != after.head?.any isWord) = true ↔ _
  rw [← any_isWord_eq_false_iff, ← any_isWord_eq_false_iff]
  cases before.head?.any isWord <;> cases after.head?.any isWord <;> decide

/-- Words of letters of ASCII and low lines. -/
structure IsPlainWord (word : Text) : Prop where
  ne_nil : word ≠ []
  ascii : ∀ d ∈ word, d.toNat < 128
  isWord : ∀ d ∈ word, isWord d = true

theorem ascii_of_all {t : Text} (h : t.all (·.toNat < 128) = true) : ∀ d ∈ t, d.toNat < 128 :=
  fun d hd => of_decide_eq_true (List.all_eq_true.mp h d hd)

theorem isPlainWord_of_all {words : List Text}
    (h : words.all (fun word => !word.isEmpty && word.all (·.toNat < 128) && word.all isWord)) :
    ∀ word ∈ words, IsPlainWord word := by
  intro word hmem
  have hword := List.all_eq_true.mp h word hmem
  simp only [Bool.and_eq_true, Bool.not_eq_true', List.isEmpty_eq_false_iff] at hword
  exact ⟨hword.1.1, ascii_of_all hword.1.2, List.all_eq_true.mp hword.2⟩

theorem isPlainWord_markWords : ∀ word ∈ markWords, IsPlainWord word :=
  isPlainWord_of_all (by decide +kernel)

theorem isPlainWord_licenseNames : ∀ word ∈ licenseNames, IsPlainWord word :=
  isPlainWord_of_all (by decide +kernel)

theorem ne_nil_of_spells {word w : Text} (h : Spells word w) (hne : word ≠ []) : w ≠ [] := by
  rintro rfl
  cases h
  exact hne rfl

/-- However a plain word is spelled, it is spelled with word characters. -/
theorem isWord_of_spells {word w : Text} (h : Spells word w) (hword : IsPlainWord word) :
    ∀ c ∈ w, isWord c = true := by
  obtain ⟨-, hascii, hletters⟩ := hword
  have hsame : List.Forall₂ SameLetter w word := h
  clear h
  induction hsame with
  | nil => exact fun _ hc => absurd hc List.not_mem_nil
  | cons hc _ ih =>
    rw [List.forall_mem_cons] at hascii hletters ⊢
    exact ⟨isWord_of_sameLetter hc hascii.1 hletters.1, ih hascii.2 hletters.2⟩

theorem not_noWord {w : Text} {c : Char} (hw : ∀ c ∈ w, isWord c = true) (hc : c ∈ w) :
    ¬ NoWord (some c) := by
  intro h
  simpa [h c rfl] using hw c hc

/-- In front of word characters a boundary lies where no word character stands before. -/
theorem holdsAt_boundary_before {w before rest : Text} (hne : w ≠ [])
    (hw : ∀ c ∈ w, isWord c = true) :
    Anchor.boundary.HoldsAt signFlags before (w ++ rest) ↔ NoWord before.head? := by
  obtain ⟨c, w, rfl⟩ := List.exists_cons_of_ne_nil hne
  have hword := not_noWord hw List.mem_cons_self
  simp [holdsAt_boundary, hword]

/-- Behind word characters a boundary lies where no word character follows. -/
theorem holdsAt_boundary_behind {w before rest : Text} (hne : w ≠ [])
    (hw : ∀ c ∈ w, isWord c = true) :
    Anchor.boundary.HoldsAt signFlags (w.reverse ++ before) rest ↔ NoWord rest.head? := by
  obtain ⟨w, c, rfl⟩ := (List.eq_nil_or_concat w).resolve_left hne
  have hword := not_noWord hw (c := c) (by simp)
  simp [holdsAt_boundary, hword]

/-- A choice between words and a boundary read each of the words, in all its spellings, where
no word character follows. -/
theorem reaches_words {words : List Text} (hne : words ≠ [])
    (hwords : ∀ word ∈ words, IsPlainWord word) (index : ℕ) {before after : Text} :
    (Node.ofList [.group index (eitherOf (words.map literals)), .anchor .boundary]).Reaches
      signFlags (fun _ _ => True) before after ↔
      ∃ word ∈ words, ∃ w rest, after = w ++ rest ∧ Spells word w ∧ NoWord rest.head? := by
  rw [reaches_ofList_cons, Node.Reaches, reaches_eitherOf (by simpa using hne)]
  simp only [List.mem_map, exists_exists_and_eq_and]
  refine exists_congr fun word => and_congr_right fun hword => ?_
  rw [reaches_literals (hwords word hword).ascii ⟨rfl, rfl⟩]
  refine exists_congr fun w => exists_congr fun rest => and_congr_right fun _ =>
    and_congr_right fun hspells => ?_
  rw [Node.ofList, reaches_anchor, and_iff_left trivial]
  exact holdsAt_boundary_behind (ne_nil_of_spells hspells (hwords word hword).ne_nil)
    (isWord_of_spells hspells (hwords word hword))

theorem spells_singleton {d : Char} (hd : d.toNat < 65) (w : Text) : Spells [d] w ↔ w = [d] := by
  constructor
  · intro h
    cases h with
    | @cons c _ w _ hc hw =>
      cases hw
      rw [(sameLetter_iff_eq hd c).mp hc]
  · rintro rfl
    exact .cons ((sameLetter_iff_eq hd d).mpr rfl) .nil

/-- What is no word character when case is ignored is none anyway. -/
theorem setHolds_noWord (c : Char) :
    setHolds signFlags false [.category .word true] c = true ↔ isWord c = false := by
  have hfolds : setHolds signFlags false [.category .word true] c =
      !isWord (Char.ofNat (lower c.toNat)) := by
    simp [setHolds, signFlags, lowered, Member.folds, Category.holds]
  rw [hfolds, isWord_lower, Bool.not_eq_true']

section alternatives

variable {before after : Text}

theorem reaches_exclamation :
    (Node.ofList (.anchor .lineStart :: literals ['!'])).Reaches signFlags (fun _ _ => True)
      before.reverse after ↔ StartsLine before ∧ ∃ rest, after = '!' :: rest := by
  rw [reaches_ofList_cons, reaches_anchor, holdsAt_lineStart,
    reaches_literals (ascii_of_all rfl) ⟨rfl, rfl⟩]
  simp [spells_singleton]

theorem reaches_mark :
    (Node.ofList (.anchor .lineStart :: literals ['@'] ++
      [.group 1 (eitherOf (markWords.map literals)), .anchor .boundary])).Reaches signFlags
        (fun _ _ => True) before.reverse after ↔
      StartsLine before ∧ ∃ word ∈ markWords, ∃ w rest, after = '@' :: (w ++ rest) ∧
        Spells word w ∧ NoWord rest.head? := by
  rw [List.cons_append, reaches_ofList_cons, reaches_anchor, holdsAt_lineStart,
    reaches_ofList_append, reaches_literals (ascii_of_all rfl) ⟨rfl, rfl⟩]
  simp only [spells_singleton (show '@'.toNat < 65 by decide),
    reaches_words (show markWords ≠ [] by decide) isPlainWord_markWords]
  refine and_congr_right fun _ => ?_
  constructor
  · rintro ⟨_, _, rfl, rfl, word, hword, w, rest, rfl, h⟩
    exact ⟨word, hword, w, rest, rfl, h⟩
  · rintro ⟨word, hword, w, rest, rfl, h⟩
    exact ⟨['@'], w ++ rest, rfl, rfl, word, hword, w, rest, rfl, h⟩

theorem reaches_name :
    (Node.ofList [.anchor .boundary, .group 2 (eitherOf (licenseNames.map literals)),
      .anchor .boundary]).Reaches signFlags (fun _ _ => True) before.reverse after ↔
      NoWord before.getLast? ∧ ∃ word ∈ licenseNames, ∃ w rest, after = w ++ rest ∧
        Spells word w ∧ NoWord rest.head? := by
  rw [reaches_ofList_cons, reaches_anchor, reaches_words (by decide) isPlainWord_licenseNames,
    and_congr_left_iff]
  rintro ⟨word, hword, w, rest, rfl, hspells, -⟩
  have hplain := isPlainWord_licenseNames word hword
  rw [holdsAt_boundary_before (ne_nil_of_spells hspells hplain.ne_nil)
    (isWord_of_spells hspells hplain), List.head?_reverse]

theorem reaches_bracketed :
    (Node.ofList (.set false [.category .word true] :: literals bracketed)).Reaches signFlags
      (fun _ _ => True) before.reverse after ↔
      ∃ c w rest, after = c :: (w ++ rest) ∧ isWord c = false ∧ Spells bracketed w := by
  have hascii := ascii_of_all (t := bracketed) rfl
  have hflags : signFlags.ignoreCase = true ∧ signFlags.ascii = false := ⟨rfl, rfl⟩
  rw [reaches_ofList_cons, reaches_set]
  simp only [setHolds_noWord, reaches_literals hascii hflags]
  constructor
  · rintro ⟨c, _, rfl, hc, w, rest, rfl, hw, -⟩
    exact ⟨c, w, rest, rfl, hc, hw⟩
  · rintro ⟨c, w, rest, rfl, hc, hw⟩
    exact ⟨c, w ++ rest, rfl, hc, w, rest, rfl, hw, trivial⟩

theorem reaches_copyright :
    (Node.ofList [.literal 0xa9]).Reaches signFlags (fun _ _ => True) before.reverse after ↔
      ∃ rest, after = '©' :: rest := by
  have hsign : ∀ c, literalFolds signFlags.ascii 0xa9 c = true ↔ c = '©' := literalFolds_copyright
  rw [Node.ofList, reaches_literal rfl]
  simp only [hsign, and_true]
  constructor
  · rintro ⟨_, rest, rfl, rfl⟩
    exact ⟨rest, rfl⟩
  · rintro ⟨rest, rfl⟩
    exact ⟨_, rest, rfl, rfl⟩

end alternatives

/-- The pattern matches at a place of a text exactly when a sign stands there. -/
theorem reaches_iff_signAt (before after : Text) :
    (eitherOf signAlternatives).Reaches signFlags (fun _ _ => True) before.reverse after ↔
      SignAt before after := by
  rw [reaches_eitherOf (by simp [signAlternatives])]
  simp only [signAlternatives, List.exists_mem_cons_iff, List.not_mem_nil, false_and, exists_false,
    or_false, reaches_exclamation, reaches_mark, reaches_name, reaches_bracketed,
    reaches_copyright]
  constructor
  · rintro (⟨hstart, rest, rfl⟩ | ⟨hstart, word, hword, w, rest, rfl, hspells, hend⟩ |
      ⟨hstart, word, hword, w, rest, rfl, hspells, hend⟩ | ⟨c, w, rest, rfl, hc, hspells⟩ |
      ⟨rest, rfl⟩)
    · exact .exclamation hstart
    · exact .mark hstart hword hspells hend
    · exact .name hstart hword hspells hend
    · exact .bracketed hc hspells
    · exact .copyright
  · rintro (hstart | ⟨hstart, hword, hspells, hend⟩ | ⟨hstart, hword, hspells, hend⟩ |
      ⟨hc, hspells⟩ | _)
    · exact .inl ⟨hstart, _, rfl⟩
    · exact .inr (.inl ⟨hstart, _, hword, _, _, rfl, hspells, hend⟩)
    · exact .inr (.inr (.inl ⟨hstart, _, hword, _, _, rfl, hspells, hend⟩))
    · exact .inr (.inr (.inr (.inl ⟨_, _, _, rfl, hc, hspells⟩)))
    · exact .inr (.inr (.inr (.inr ⟨_, rfl⟩)))

theorem any_isFoundIn_iff (t : Text) : defaultPatterns.any (·.isFoundIn t) = true ↔ HasSign t := by
  have hplain : (eitherOf signAlternatives).isPlain = true := by decide
  rw [defaultPatterns, List.any_cons, List.any_nil, Bool.or_false, knownPattern_default,
    isFoundIn_iff hplain]
  simp only [reaches_iff_signAt, HasSign]

/-- The default matcher never fails, and it accepts exactly the texts in which a sign stands at
some place. -/
theorem default_accepts_signs (t : Text) :
    ∃ accepted, NoticeMatcher.default t = .ok accepted ∧ (accepted = true ↔ HasSign t) :=
  ⟨_, rfl, any_isFoundIn_iff t⟩

/-- A license is known by its name in letters that only share a case with those of ASCII. -/
example : NoticeMatcher.default "the L\u0131cen\u017fe".toList = .ok true := by
  decide +kernel

end LicenseNotices.NoticeSigns
