import LicenseNotices.Proofs.CommentRuns
import LicenseNotices.Proofs.LexemeGrammar
import LicenseNotices.Proofs.TextPlaces

/-!
Two sources of the C family with a blank line between them. A lexeme that is complete stays
complete when a line feed follows, so the lexemes of both sources are found again in the
joined one. The comments behind the seam lie lower by the line feeds before them, and no run
of line comments goes on across a blank line, so the groups are those of the two sources.
-/
namespace LicenseNotices

def Position.lowered (k : ℕ) (p : Position) : Position := { p with line := p.line + k }

def Comment.lowered (k : ℕ) (c : Comment) : Comment := { c with line := c.line + k }

def CommentGroup.lowered (k : ℕ) (g : CommentGroup) : CommentGroup := g.map (Comment.lowered k)

theorem CommentGroup.lowered_zero : CommentGroup.lowered 0 = id := by
  funext g
  exact List.map_id'' (fun c => by simp [Comment.lowered]) g

theorem CommentGroup.lowered_lowered (k m : ℕ) (g : CommentGroup) :
    (g.lowered m).lowered k = g.lowered (k + m) := by
  simp only [lowered, List.map_map]
  congr 1
  funext c
  simp only [Function.comp_apply, Comment.lowered, Comment.mk.injEq, true_and, and_true]
  omega

theorem Position.advance_lowered (k : ℕ) (p : Position) (t : Text) :
    (p.lowered k).advance t = (p.advance t).lowered k := by
  induction t generalizing p with
  | nil => rfl
  | cons c rest ih =>
    have hnext : (p.lowered k).next c = (p.next c).lowered k := by
      simp only [next, lowered]
      split
      · simp only [Position.mk.injEq, and_true]
        omega
      · rfl
    rw [advance_cons, hnext, ih, advance_cons]

/-- Behind a blank line reading starts again at the beginning of a line. -/
theorem Position.advance_blankLine (s : Text) :
    ({} : Position).advance (s ++ ['\n', '\n']) = ({} : Position).lowered (s.count '\n' + 2) := by
  rw [advance_append]
  simp only [advance_cons, advance_nil, next, if_true, lowered, line_advance, Position.mk.injEq,
    and_true]
  omega

@[simp] theorem CommentGroup.text_lowered (k : ℕ) (g : CommentGroup) :
    (g.lowered k).text = g.text := by
  rw [CommentGroup.text, CommentGroup.lowered, List.map_map]
  rfl

namespace CommentRuns

theorem adjacent_lowered (k : ℕ) (c d : Comment) :
    Adjacent (c.lowered k) (d.lowered k) ↔ Adjacent c d := by
  have hline : d.line + k = c.line + k + 1 ↔ d.line = c.line + 1 := by omega
  simp only [Adjacent, Comment.lowered, hline]

theorem separated_lowered {k : ℕ} {a b : CommentGroup} (h : Separated a b) :
    Separated (a.lowered k) (b.lowered k) := by
  simp only [Separated, CommentGroup.lowered, List.getLast?_map, List.head?_map,
    Option.mem_def, Option.map_eq_some_iff]
  rintro _ ⟨c, hc, rfl⟩ _ ⟨d, hd, rfl⟩ hadj
  exact h c hc d hd ((adjacent_lowered k c d).mp hadj)

/-- Lowering all comments of a list lowers its groups. -/
theorem IsPartition.lowered {comments : List Comment} {groups : List CommentGroup}
    (h : IsPartition comments groups) (k : ℕ) :
    IsPartition (comments.map (Comment.lowered k)) (groups.map (CommentGroup.lowered k)) := by
  refine ⟨?_, ?_, ?_⟩
  · rw [← h.flatten_eq, List.map_flatten]
    rfl
  · intro g hg
    obtain ⟨g, hmem, rfl⟩ := List.mem_map.mp hg
    obtain ⟨hne, hchain⟩ := (isGroup_iff g).mp (h.isGroup g hmem)
    refine (isGroup_iff _).mpr ⟨List.map_eq_nil_iff.not.mpr hne, ?_⟩
    exact (List.isChain_map _).mpr (hchain.imp fun c d => (adjacent_lowered k c d).mpr)
  · exact (List.isChain_map _).mpr (h.separated.imp fun _ _ => separated_lowered)

/-- Lists of comments that lie more than one line apart are grouped each by itself. -/
theorem groupComments_append_lowered {cs ds : List Comment} {k : ℕ}
    (h : ∀ c ∈ cs, ∀ d ∈ ds, c.line + 1 < d.line + k) :
    groupComments (cs ++ ds.map (Comment.lowered k)) =
      groupComments cs ++ (groupComments ds).map (CommentGroup.lowered k) := by
  refine (isPartition_groupComments _).unique
    ((isPartition_groupComments cs).append ((isPartition_groupComments ds).lowered k) ?_)
  intro c hc d hd hadj
  obtain ⟨d, hmem, rfl⟩ := List.mem_map.mp (List.mem_of_mem_head? hd)
  have hfar := h c (List.mem_of_mem_getLast? hc) d hmem
  have hnear : d.line + k = c.line + 1 := hadj.2.2
  omega

end CommentRuns

namespace CStyle

theorem Fits.append_newline {x : Lexeme} {rest : Text} (h : Fits x rest) (t : Text) :
    Fits x (rest ++ '\n' :: t) := by
  cases h with
  | lineComment hbody hrest =>
    refine .lineComment hbody ?_
    cases rest with
    | nil => simp
    | cons c rest => exact hrest
  | blockComment hbody => exact .blockComment hbody
  | literal hquote hcontent => exact .literal hquote hcontent
  | other hquote hopener =>
    refine .other hquote ?_
    cases rest with
    | nil => simp
    | cons c rest => exact hopener

theorem Decomposes.append_newline {s t : Text} {xs ys : List Lexeme} (hs : Decomposes s xs)
    (ht : Decomposes ('\n' :: t) ys) : Decomposes (s ++ '\n' :: t) (xs ++ ys) := by
  induction hs with
  | nil => exact ht
  | cons hfits _ ih =>
    rw [List.append_assoc]
    exact .cons (hfits.append_newline t) ih

theorem decomposes_newline {t : Text} {ys : List Lexeme} (h : Decomposes t ys) :
    Decomposes ('\n' :: t) (.other '\n' :: ys) :=
  .cons (.plain (by decide) (by decide) t) h

theorem Decomposes.append_blankLine {s t : Text} {xs ys : List Lexeme} (hs : Decomposes s xs)
    (ht : Decomposes t ys) :
    Decomposes (s ++ ['\n', '\n'] ++ t) (xs ++ [.other '\n', .other '\n'] ++ ys) := by
  have hjoined := hs.append_newline (decomposes_newline (decomposes_newline ht))
  simpa using hjoined

theorem commentsFrom_append (p : Position) (xs ys : List Lexeme) :
    commentsFrom p (xs ++ ys) = commentsFrom p xs ++ commentsFrom (positionBehind p xs) ys := by
  induction xs generalizing p with
  | nil => rfl
  | cons x rest ih =>
    rw [List.cons_append, commentsFrom, commentsFrom, ih, List.append_assoc, positionBehind,
      positionBehind, List.flatMap_cons, Position.advance_append]

theorem commentsFrom_lowered (k : ℕ) (p : Position) (xs : List Lexeme) :
    commentsFrom (p.lowered k) xs = (commentsFrom p xs).map (Comment.lowered k) := by
  induction xs generalizing p with
  | nil => rfl
  | cons x rest ih =>
    rw [commentsFrom, commentsFrom, Position.advance_lowered, ih, List.map_append]
    cases x <;> rfl

/-- Comments lie on the lines from the first position up to the last. -/
theorem line_of_mem_commentsFrom {p : Position} {xs : List Lexeme} {c : Comment}
    (h : c ∈ commentsFrom p xs) : p.line ≤ c.line ∧ c.line ≤ (positionBehind p xs).line := by
  induction xs generalizing p with
  | nil => simp [commentsFrom] at h
  | cons x rest ih =>
    have hline := p.line_advance x.text
    have hbehind : positionBehind p (x :: rest) = positionBehind (p.advance x.text) rest := by
      rw [positionBehind, positionBehind, List.flatMap_cons, Position.advance_append]
    have hlast := (p.advance x.text).line_advance (rest.flatMap Lexeme.text)
    rw [commentsFrom, List.mem_append] at h
    rw [hbehind]
    rcases h with h | h
    · have hc : c.line = p.line := by
        cases x <;> simp_all [Lexeme.comment?, Comment.ofPosition]
      rw [positionBehind]
      omega
    · have hbounds := ih h
      omega

/-- Two accepted sources with a blank line between them are accepted, and the groups of the
joined source are those of the first and, lower, those of the second. -/
theorem comments_append_blankLine {s t : Text} {cs ds : List Comment} (hs : comments s = .ok cs)
    (ht : comments t = .ok ds) :
    ∃ both, comments (s ++ ['\n', '\n'] ++ t) = .ok both ∧
      groupComments both = groupComments cs ++
        (groupComments ds).map (CommentGroup.lowered (s.count '\n' + 2)) := by
  obtain ⟨xs, hxs, rfl⟩ := (comments_eq_ok_iff s cs).mp hs
  obtain ⟨ys, hys, rfl⟩ := (comments_eq_ok_iff t ds).mp ht
  refine ⟨_, (comments_eq_ok_iff _ _).mpr ⟨_, hxs.append_blankLine hys, rfl⟩, ?_⟩
  have hbehind : positionBehind {} (xs ++ [.other '\n', .other '\n']) =
      ({} : Position).lowered (s.count '\n' + 2) := by
    rw [positionBehind, List.flatMap_append, hxs.flatMap_text]
    exact Position.advance_blankLine s
  have hboth : commentsFrom {} (xs ++ [.other '\n', .other '\n'] ++ ys) =
      commentsFrom {} xs ++ (commentsFrom {} ys).map (Comment.lowered (s.count '\n' + 2)) := by
    rw [commentsFrom_append, hbehind, commentsFrom_lowered, commentsFrom_append]
    simp [commentsFrom, Lexeme.comment?]
  rw [hboth]
  apply CommentRuns.groupComments_append_lowered
  intro c hc d hd
  have hlast := (line_of_mem_commentsFrom hc).2
  have hfirst := (line_of_mem_commentsFrom hd).1
  rw [positionBehind, hxs.flatMap_text, Position.line_advance] at hlast
  simp only at hfirst hlast
  omega

end CStyle

end LicenseNotices
