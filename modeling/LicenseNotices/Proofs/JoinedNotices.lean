import LicenseNotices.Proofs.NoticeSigns
import LicenseNotices.Proofs.SourceContents

/-!
The signs of a notice in the text of a group. Its bodies are joined by line feeds, which are no
part of any sign but one: a line feed is no word character, so it may stand before a bracketed
sign of copyright. Therefore the text of a group has a sign when one of its bodies has, or when
a body behind the first starts with the bracketed sign.
-/
namespace LicenseNotices.JoinedNotices

open NoticeSigns Pattern SourceContents Text

theorem noWord_newline : NoWord (some '\n') := by
  rintro _ ⟨⟩
  decide +kernel

/-- Words hold no line feed, however they are spelled. -/
theorem newline_not_mem {word w : Text} (h : Spells word w) (hword : IsPlainWord word) :
    '\n' ∉ w := by
  intro hmem
  have hno := noWord_newline '\n' rfl
  rw [isWord_of_spells h hword '\n' hmem] at hno
  cases hno

theorem sameLetter_c (c : Char) : SameLetter c 'c' ↔ c = 'c' ∨ c = 'C' := by
  have hlower : asciiLower c.toNat = 99 ↔ c.toNat = 99 ∨ c.toNat = 67 := by
    rw [asciiLower]
    split <;> omega
  rw [sameLetter_iff, ← Char.toNat_inj, ← Char.toNat_inj]
  change asciiLower c.toNat = 99 ∨ _ ∧ 99 = 0x69 ∨ _ ∧ 99 = 0x73 ∨ _ ∧ 99 = 0x6b ↔
    c.toNat = 99 ∨ c.toNat = 67
  omega

theorem spells_bracketed_iff (w : Text) :
    Spells bracketed w ↔ w = ['(', 'c', ')'] ∨ w = ['(', 'C', ')'] := by
  constructor
  · rintro (_ | ⟨hopen, _ | ⟨hc, _ | ⟨hclose, _ | _⟩⟩⟩)
    rw [sameLetter_iff_eq (by decide)] at hopen hclose
    rw [hopen, hclose]
    rcases (sameLetter_c _).mp hc with rfl | rfl
    · exact .inl rfl
    · exact .inr rfl
  · rintro (rfl | rfl) <;> simp [bracketed, Spells, sameLetter_iff_eq, sameLetter_c]

theorem newline_not_mem_bracketed {w : Text} (h : Spells bracketed w) : '\n' ∉ w := by
  rcases (spells_bracketed_iff w).mp h with rfl | rfl <;> decide

/-- What holds no line feed and stands at the start of two texts with one between them stands in
the first of them. -/
theorem append_eq_append_newline_iff {w rest s u : Text} (hw : '\n' ∉ w) :
    s ++ '\n' :: u = w ++ rest ↔ ∃ x, s = w ++ x ∧ rest = x ++ '\n' :: u := by
  rw [List.append_eq_append_iff]
  constructor
  · rintro (⟨x, rfl, hx⟩ | ⟨x, rfl, rfl⟩)
    · cases x with
      | nil => exact ⟨[], by simp, hx.symm⟩
      | cons c x =>
        obtain rfl : '\n' = c := (List.cons_eq_cons.mp hx).1
        simp at hw
    · exact ⟨x, rfl, rfl⟩
  · rintro ⟨x, rfl, rfl⟩
    exact .inr ⟨x, rfl, rfl⟩

/-- The bracketed sign stands at the start of the text. -/
def StartsBracketed (t : Text) : Prop := ∃ w, Spells bracketed w ∧ w <+: t

theorem startsBracketed_append_newline_iff (s u : Text) :
    StartsBracketed (s ++ '\n' :: u) ↔ StartsBracketed s := by
  refine exists_congr fun w => and_congr_right fun hspells => ?_
  constructor
  · rintro ⟨rest, hrest⟩
    obtain ⟨x, rfl, -⟩ :=
      (append_eq_append_newline_iff (newline_not_mem_bracketed hspells)).mp hrest.symm
    exact ⟨x, rfl⟩
  · exact fun h => h.trans (List.prefix_append ..)

theorem noWord_append_newline (x u : Text) :
    NoWord (x ++ '\n' :: u).head? ↔ NoWord x.head? := by
  cases x with
  | nil => exact iff_of_true noWord_newline (by simp [NoWord])
  | cons c x => rfl

/-- A sign in front of two texts with a line feed between them is one in front of the first, or
it is the line feed with a bracketed sign behind it. -/
theorem signAt_append_newline_iff (before s u : Text) :
    SignAt before (s ++ '\n' :: u) ↔ SignAt before s ∨ s = [] ∧ StartsBracketed u := by
  constructor
  · generalize hrest : s ++ '\n' :: u = rest
    rintro (hstart | @⟨word, w, rest, hstart, hword, hspells, hend⟩ |
      @⟨word, w, rest, hstart, hword, hspells, hend⟩ | @⟨c, w, rest, hc, hspells⟩ | _)
    · obtain ⟨x, rfl, -⟩ := (append_eq_append_newline_iff (w := ['!']) (by decide)).mp hrest
      exact .inl (.exclamation hstart)
    · have hw := newline_not_mem hspells (isPlainWord_markWords word hword)
      obtain ⟨x, rfl, rfl⟩ := (append_eq_append_newline_iff (w := '@' :: w) (by simpa)).mp hrest
      exact .inl (.mark hstart hword hspells ((noWord_append_newline x u).mp hend))
    · have hw := newline_not_mem hspells (isPlainWord_licenseNames word hword)
      obtain ⟨x, rfl, rfl⟩ := (append_eq_append_newline_iff hw).mp hrest
      exact .inl (.name hstart hword hspells ((noWord_append_newline x u).mp hend))
    · cases s with
      | nil =>
        obtain ⟨-, rfl⟩ := List.cons_eq_cons.mp hrest
        exact .inr ⟨rfl, w, hspells, rest, rfl⟩
      | cons d s =>
        obtain ⟨rfl, htail⟩ := List.cons_eq_cons.mp hrest
        have hw := newline_not_mem_bracketed hspells
        obtain ⟨x, rfl, -⟩ := (append_eq_append_newline_iff hw).mp htail
        exact .inl (.bracketed hc hspells)
    · obtain ⟨x, rfl, -⟩ := (append_eq_append_newline_iff (w := ['©']) (by decide)).mp hrest
      exact .inl .copyright
  · rintro (h | ⟨rfl, w, hspells, rest, rfl⟩)
    · cases h with
      | exclamation hstart => exact .exclamation hstart
      | @mark word w rest hstart hword hspells hend =>
        rw [List.cons_append, List.append_assoc]
        exact .mark hstart hword hspells ((noWord_append_newline rest u).mpr hend)
      | @name word w rest hstart hword hspells hend =>
        rw [List.append_assoc]
        exact .name hstart hword hspells ((noWord_append_newline rest u).mpr hend)
      | @bracketed c w rest hc hspells =>
        rw [List.cons_append, List.append_assoc]
        exact .bracketed hc hspells
      | copyright => exact .copyright
    · exact .bracketed (noWord_newline '\n' rfl) hspells

theorem getLast?_append_newline (s before : Text) :
    (s ++ '\n' :: before).getLast? = some (before.getLast?.getD '\n') := by
  rw [List.getLast?_append, List.getLast?_cons, Option.some_or]

/-- What stands before a line feed makes no difference to the signs behind it. -/
theorem signAt_behind_newline_iff (s before rest : Text) :
    SignAt (s ++ '\n' :: before) rest ↔ SignAt before rest := by
  have hstart : StartsLine (s ++ '\n' :: before) ↔ StartsLine before := by
    rw [StartsLine, StartsLine, getLast?_append_newline]
    cases before.getLast? <;> simp
  have hword : NoWord (s ++ '\n' :: before).getLast? ↔ NoWord before.getLast? := by
    rw [getLast?_append_newline]
    cases before.getLast? with
    | none => exact iff_of_true noWord_newline (by simp [NoWord])
    | some c => rfl
  exact ⟨.imp hstart.mp hword.mp, .imp hstart.mpr hword.mpr⟩

theorem hasSign_append_newline_iff (s u : Text) :
    HasSign (s ++ '\n' :: u) ↔ HasSign s ∨ StartsBracketed u ∨ HasSign u := by
  constructor
  · rintro ⟨before, rest, h, hsign⟩
    rcases List.append_eq_append_iff.mp h with ⟨_ | ⟨c, x⟩, rfl, hx⟩ | ⟨x, rfl, rfl⟩
    · obtain rfl : '\n' :: u = rest := hx
      rcases (signAt_append_newline_iff _ [] u).mp hsign with hsign | ⟨-, hstarts⟩
      · exact .inl ⟨_, [], by simp, hsign⟩
      · exact .inr (.inl hstarts)
    · obtain ⟨rfl, rfl⟩ := List.cons_eq_cons.mp hx
      exact .inr (.inr ⟨x, rest, rfl, (signAt_behind_newline_iff s x rest).mp hsign⟩)
    · rcases (signAt_append_newline_iff before x u).mp hsign with hsign | ⟨-, hstarts⟩
      · exact .inl ⟨before, x, rfl, hsign⟩
      · exact .inr (.inl hstarts)
  · rintro (⟨before, rest, rfl, hsign⟩ | hstarts | ⟨before, rest, rfl, hsign⟩)
    · exact ⟨before, rest ++ '\n' :: u, List.append_assoc ..,
        (signAt_append_newline_iff before rest u).mpr (.inl hsign)⟩
    · exact ⟨s, '\n' :: u, rfl, (signAt_append_newline_iff s [] u).mpr (.inr ⟨rfl, hstarts⟩)⟩
    · exact ⟨s ++ '\n' :: before, rest, by simp,
        (signAt_behind_newline_iff s before rest).mpr hsign⟩

theorem startsBracketed_join_iff (t : Text) (rest : List Text) :
    StartsBracketed (Text.join ['\n'] (t :: rest)) ↔ StartsBracketed t := by
  cases rest with
  | nil => rfl
  | cons u rest =>
    rw [join_cons_cons, List.append_assoc, List.singleton_append,
      startsBracketed_append_newline_iff]

theorem not_hasSign_nil : ¬ HasSign [] := by
  rintro ⟨before, rest, h, hsign⟩
  obtain ⟨rfl, rfl⟩ := List.append_eq_nil_iff.mp h.symm
  generalize hrest : ([] : Text) = rest at hsign
  cases hsign with
  | name hstart hword hspells hend =>
    obtain ⟨rfl, -⟩ := List.append_eq_nil_iff.mp hrest.symm
    exact ne_nil_of_spells hspells (isPlainWord_licenseNames _ hword).ne_nil rfl
  | _ => cases hrest

/-- Joined texts have a sign when one of them has or one behind the first starts with the
bracketed sign. -/
theorem hasSign_join_iff (ts : List Text) :
    HasSign (Text.join ['\n'] ts) ↔
      (∃ t ∈ ts, HasSign t) ∨ ∃ t ∈ ts.tail, StartsBracketed t := by
  induction ts with
  | nil => simpa using not_hasSign_nil
  | cons t rest ih =>
    cases rest with
    | nil => simp
    | cons u rest =>
      rw [join_cons_cons, List.append_assoc, List.singleton_append, hasSign_append_newline_iff,
        startsBracketed_join_iff, ih]
      simp only [List.tail_cons, List.exists_mem_cons_iff, or_assoc, or_left_comm]

/-- The default matcher answers for every group and for its text. What it accepts in a group it
accepts in the text, and it accepts the text exactly when it accepts a comment of the group or a
comment behind the first starts with the bracketed sign. -/
theorem default_accepts_joined (g : CommentGroup) :
    ∃ kept accepted, NoticeMatcher.default.acceptsGroup g = .ok kept ∧
      NoticeMatcher.default g.text = .ok accepted ∧ (kept = true → accepted = true) ∧
      (accepted = true ↔ kept = true ∨
        ∃ c ∈ g.tail, ['(', 'c', ')'] <+: c.text ∨ ['(', 'C', ')'] <+: c.text) := by
  have hkept : (g.map Comment.text).any (fun t => defaultPatterns.any (·.isFoundIn t)) = true ↔
      ∃ c ∈ g, HasSign c.text := by
    simp only [List.any_eq_true, List.mem_map, exists_exists_and_eq_and, ← any_isFoundIn_iff]
  have htext : defaultPatterns.any (·.isFoundIn g.text) = true ↔ (∃ c ∈ g, HasSign c.text) ∨
      ∃ c ∈ g.tail, ['(', 'c', ')'] <+: c.text ∨ ['(', 'C', ')'] <+: c.text := by
    rw [any_isFoundIn_iff, CommentGroup.text, hasSign_join_iff, ← List.map_tail]
    simp only [List.mem_map, exists_exists_and_eq_and, StartsBracketed, spells_bracketed_iff,
      or_and_right, exists_or, exists_eq_left]
  refine ⟨_, _, acceptsAny_ofPredicate _ _, rfl, ?_, ?_⟩
  · rw [hkept, htext]
    exact .inl
  · rw [hkept, htext]

end LicenseNotices.JoinedNotices
