import LicenseNotices.Proofs.CommentRuns
import LicenseNotices.Proofs.FirstSeen
import LicenseNotices.Proofs.JoinedTexts
import LicenseNotices.Proofs.ReaderTrees
import LicenseNotices.Proofs.Results
import LicenseNotices.SourceNotices

/-!
The texts by which runs of line comments are told apart. No grammar finds a line comment whose body
holds a line feed, so the text of a run splits at its line feeds into the bodies. Two runs have one
text just when their bodies are the same, and a run has the text of a block comment just when the
body of the block splits into those of the run.
-/
namespace LicenseNotices.LineRunTexts

open CommentRuns FirstSeen JavaScript Results

/-- The bodies of the comments of a group. -/
def bodies (group : CommentGroup) : List Text := group.map Comment.text

theorem newline_not_mem_body {g : Grammar} {opener body closer after : Text}
    (h : Delimited g .line opener body closer after) : '\n' ∉ body := by
  cases h with
  | line hbody hafter => exact hbody
  | scriptLine hbody hafter => exact fun hmem => absurd (hbody '\n' hmem) (by decide)
  | markup hopener hbody hafter => exact fun hmem => absurd (hbody '\n' hmem) (by decide)

/-- A matcher keeps some of the groups. -/
theorem sublist_of_filterGroups {accepts : NoticeMatcher} {groups kept : List CommentGroup}
    (h : accepts.filterGroups groups = .ok kept) : kept.Sublist groups := by
  induction groups generalizing kept with
  | nil =>
    cases h
    exact .slnil
  | cons g rest ih =>
    obtain ⟨isKept, -, h⟩ := (bind_eq_ok_iff _ _ _).mp h
    obtain ⟨later, hlater, h⟩ := (bind_eq_ok_iff _ _ _).mp h
    cases isKept with
    | true =>
      cases h
      exact (ih hlater).cons_cons g
    | false =>
      cases h
      exact (ih hlater).cons g

theorem operation_insertAll_eq_merge_iff (earlier : List CommentGroup) (t : Text) :
    ((insertAll .empty earlier).insert t).2 = .merge ↔ ∃ h ∈ earlier, t = h.text := by
  have hlists := lists_insertAll (s := .empty) Lists.nil earlier
  have hadd := operation_insert_eq_add_iff (insertAll .empty earlier) t
  rw [hlists.mem_iff, List.nil_append, List.mem_map] at hadd
  cases hop : ((insertAll .empty earlier).insert t).2 with
  | add => simpa [eq_comm] using hadd.mp hop
  | merge => simpa [hop, eq_comm] using hadd

section

variable [Parser]

/-- A group that is kept of the comments of a source, by any grammar and any matcher. -/
def IsReturned (group : CommentGroup) : Prop :=
  ∃ grammar accepts path source findings,
    Findings.ofSource grammar accepts path source = .ok findings ∧ group ∈ findings.notices

structure IsLineRun (group : CommentGroup) : Prop where
  isReturned : IsReturned group
  isLine : ∀ c ∈ group, c.kind = .line

/-- No line comment that a grammar finds holds a line feed. -/
theorem newline_not_mem_text (hlaw : Parser.IsLawful) {g : Grammar} {source : Text}
    {cs : List Comment} (h : g.comments source = .ok cs) {c : Comment} (hc : c ∈ cs)
    (hline : c.kind = .line) : '\n' ∉ c.text := by
  obtain ⟨spans, hspans, rfl⟩ := Grammar.exists_spans hlaw h
  obtain ⟨s, hs, rfl⟩ := List.mem_map.mp hc
  have hdelimited := hspans.delimited s hs
  rw [show s.kind = .line from hline] at hdelimited
  exact newline_not_mem_body hdelimited

/-- A group that is returned is one of those into which the comments of a source are cut. -/
theorem exists_comments_of_isReturned {group : CommentGroup} (h : IsReturned group) :
    ∃ (grammar : Grammar) (source : Text) (cs : List Comment),
      grammar.comments source = .ok cs ∧ group ∈ groupComments cs := by
  obtain ⟨grammar, accepts, path, source, findings, hfindings, hgroup⟩ := h
  obtain ⟨cs, hcs, h⟩ := (bind_eq_ok_iff _ _ _).mp hfindings
  obtain ⟨kept, hkept, h⟩ := (bind_eq_ok_iff _ _ _).mp h
  cases h
  exact ⟨grammar, _, cs, (mapError_eq_ok_iff _ _ _).mp hcs,
    (sublist_of_filterGroups ((mapError_eq_ok_iff _ _ _).mp hkept)).subset hgroup⟩

theorem isGroup_of_isReturned {group : CommentGroup} (h : IsReturned group) : IsGroup group := by
  obtain ⟨grammar, source, cs, -, hgroup⟩ := exists_comments_of_isReturned h
  exact (isPartition_groupComments cs).isGroup group hgroup

namespace IsLineRun

variable {g h : CommentGroup}

theorem newline_not_mem (hlaw : Parser.IsLawful) (hg : IsLineRun g) : ∀ t ∈ bodies g, '\n' ∉ t := by
  intro t ht
  obtain ⟨c, hc, rfl⟩ := List.mem_map.mp ht
  obtain ⟨grammar, source, cs, hcs, hgroup⟩ := exists_comments_of_isReturned hg.isReturned
  have hmem : c ∈ cs := by
    rw [← (isPartition_groupComments cs).flatten_eq]
    exact List.mem_flatten_of_mem hgroup hc
  exact newline_not_mem_text hlaw hcs hmem (hg.isLine c hc)

theorem bodies_ne_nil (hg : IsLineRun g) : bodies g ≠ [] :=
  fun heq => (isGroup_of_isReturned hg.isReturned).ne_nil (List.map_eq_nil_iff.mp heq)

theorem text_eq_iff (hlaw : Parser.IsLawful) (hg : IsLineRun g) (t : Text) :
    g.text = t ↔ t.splitOn '\n' = bodies g :=
  Text.join_eq_iff_splitOn_eq hg.bodies_ne_nil (hg.newline_not_mem hlaw) t

theorem text_eq_text_iff (hlaw : Parser.IsLawful) (hg : IsLineRun g) (hh : IsLineRun h) :
    g.text = h.text ↔ List.Forall₂ (fun c d => c.text = d.text) g h := by
  have hinj : g.text = h.text ↔ bodies g = bodies h :=
    Text.join_inj hg.bodies_ne_nil hh.bodies_ne_nil (hg.newline_not_mem hlaw)
      (hh.newline_not_mem hlaw)
  rw [hinj, ← List.forall₂_eq_eq_eq, bodies, bodies, List.forall₂_map_left_iff,
    List.forall₂_map_right_iff]

theorem count_text (hlaw : Parser.IsLawful) (hg : IsLineRun g) :
    g.text.count '\n' + 1 = g.length := by
  have hcount := Text.count_join hg.bodies_ne_nil (hg.newline_not_mem hlaw)
  rwa [bodies, List.length_map] at hcount

end IsLineRun

/-- The groups whose text is that of the run: runs with the same bodies, and block comments with a
body that splits into them. -/
inductive SameText (g : CommentGroup) : CommentGroup → Prop
  | run {h : CommentGroup} (hh : IsLineRun h)
      (hbodies : List.Forall₂ (fun c d => c.text = d.text) g h) : SameText g h
  | block {c : Comment} (hkind : c.kind = .block) (hsplit : c.text.splitOn '\n' = bodies g) :
      SameText g [c]

theorem text_eq_text_iff_sameText (hlaw : Parser.IsLawful) {g h : CommentGroup}
    (hg : IsLineRun g) (hh : IsReturned h) :
    g.text = h.text ↔ SameText g h := by
  constructor
  · intro heq
    cases isGroup_of_isReturned hh with
    | block hkind => exact .block hkind ((hg.text_eq_iff hlaw _).mp heq)
    | lines hne hkind hstep =>
      exact .run ⟨hh, hkind⟩ ((hg.text_eq_text_iff hlaw ⟨hh, hkind⟩).mp heq)
  · rintro (⟨hrun, hbodies⟩ | ⟨-, hsplit⟩)
    · exact (hg.text_eq_text_iff hlaw hrun).mpr hbodies
    · exact (hg.text_eq_iff hlaw _).mpr hsplit

/-- A run of line comments has the text of another just when there are as many comments with the
same bodies, and that of a block comment just when its body splits into those of the run. The line
feeds in the text are one fewer than the comments. So a run is merged into what was returned before
it, for whatever sources, just when one of these two is there. -/
theorem line_runs_told_by_text (hlaw : Parser.IsLawful) {g : CommentGroup}
    (hg : IsLineRun g) :
    (∀ h, IsLineRun h → (g.text = h.text ↔ List.Forall₂ (fun c d => c.text = d.text) g h)) ∧
    g.text.count '\n' + 1 = g.length ∧
    (∀ c : Comment, c.kind = .block →
      (g.text = CommentGroup.text [c] ↔ c.text.splitOn '\n' = bodies g)) ∧
    ∀ earlier : List CommentGroup, (∀ h ∈ earlier, IsReturned h) →
      (((insertAll .empty earlier).insert g.text).2 = .merge ↔ ∃ h ∈ earlier, SameText g h) := by
  refine ⟨fun h hh => hg.text_eq_text_iff hlaw hh, hg.count_text hlaw,
    fun c _ => hg.text_eq_iff hlaw c.text, ?_⟩
  intro earlier hearlier
  rw [operation_insertAll_eq_merge_iff]
  refine exists_congr fun h => and_congr_right fun hmem => ?_
  exact text_eq_text_iff_sameText hlaw hg (hearlier h hmem)

end

/-- Two line comments, the second of which is empty. -/
def sampleRun : CommentGroup :=
  [{ kind := .line, text := " a".toList, line := 1 }, { kind := .line, text := [], line := 2 }]

def sampleBlock : Comment := { kind := .block, text := " a\n".toList, line := 1 }

/-- The matcher that accepts every text. -/
def anyText : NoticeMatcher := .ofPredicate fun _ => true

/-- The bodies of the run are found behind other openers too, and its text in a block comment. -/
theorem sample_run_told_by_text :
    @Findings.ofSource readerParser .cStyle anyText "a" "// a\n//".toList =
      .ok ⟨sampleRun, [sampleRun]⟩ ∧
    @Findings.ofSource readerParser .javascript anyText "b" "<!-- a\n-->".toList =
      .ok ⟨sampleRun, [sampleRun]⟩ ∧
    @Findings.ofSource readerParser .javascript anyText "c" "/* a\n*/".toList =
      .ok ⟨[sampleBlock], [[sampleBlock]]⟩ ∧
    sampleRun.text.count '\n' + 1 = sampleRun.length ∧
    ((insertAll .empty [[sampleBlock]]).insert sampleRun.text).2 = .merge := by
  have hline : @Findings.ofSource readerParser .cStyle anyText "a" "// a\n//".toList =
      .ok ⟨sampleRun, [sampleRun]⟩ := by decide +kernel
  have hmarkup : @Findings.ofSource readerParser .javascript anyText "b" "<!-- a\n-->".toList =
      .ok ⟨sampleRun, [sampleRun]⟩ := by decide +kernel
  have hblock : @Findings.ofSource readerParser .javascript anyText "c" "/* a\n*/".toList =
      .ok ⟨[sampleBlock], [[sampleBlock]]⟩ := by decide +kernel
  have hrun : @IsLineRun readerParser sampleRun :=
    @IsLineRun.mk readerParser _ ⟨_, _, _, _, _, hline, List.mem_singleton.mpr rfl⟩ (by decide)
  have hreturned : @IsReturned readerParser [sampleBlock] :=
    ⟨_, _, _, _, _, hblock, List.mem_singleton.mpr rfl⟩
  obtain ⟨-, hcount, -, hmerge⟩ :=
    @line_runs_told_by_text readerParser readerParser_isLawful _ hrun
  have hsame : @SameText readerParser sampleRun [sampleBlock] :=
    @SameText.block readerParser sampleRun sampleBlock rfl (by decide)
  have hmerged := (hmerge [[sampleBlock]] (by simpa using hreturned)).mpr ⟨_, by simp, hsame⟩
  exact ⟨hline, hmarkup, hblock, hcount, hmerged⟩

end LicenseNotices.LineRunTexts
