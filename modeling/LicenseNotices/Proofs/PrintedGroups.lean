import LicenseNotices.Proofs.ReaderFragment
import LicenseNotices.Proofs.SourceContents
import LicenseNotices.Proofs.SourceSeams

/-!
Groups of comments written as a source. A block comment takes the lines of its body, line
comments take one line each, and a blank line keeps two groups of line comments apart. What
is written lies in the fragment on which the grammars agree, so that both find the comments
among its parts, and these are cut where one group ends and the next begins. Taking the
notices of the source therefore gives back the groups that were written.
-/
namespace LicenseNotices.PrintedGroups

open CStyle CommentRuns JavaScript Results SourceContents

/-- A body that a block comment can have. -/
structure BlockBody where
  text : Text
  unclosed : ¬ ['*', '/'] <:+: text
  plain : '\r' ∉ text ∧ '\x00' ∉ text

/-- A body that a line comment can have. -/
structure LineBody where
  text : Text
  plain : IsCommonLine text

/-- The line that a line comment takes. -/
def LineBody.written (body : LineBody) : Text := '/' :: '/' :: body.text ++ ['\n']

/-- A block comment, or line comments of which there is at least one. -/
inductive WrittenGroup
  | block (body : BlockBody)
  | lines (first : LineBody) (others : List LineBody)

/-- The kinds and the bodies of the comments of a group. -/
def contents (g : CommentGroup) : List (CommentKind × Text) := g.map fun c => (c.kind, c.text)

namespace WrittenGroup

def contents : WrittenGroup → List (CommentKind × Text)
  | block body => [(.block, body.text)]
  | lines first others => (first :: others).map fun body => (.line, body.text)

def bodies (x : WrittenGroup) : List Text := x.contents.map Prod.snd

def text : WrittenGroup → Text
  | block body => '/' :: '*' :: body.text ++ ['*', '/', '\n']
  | lines first others => (first :: others).flatMap LineBody.written

def kind : WrittenGroup → CommentKind
  | block _ => .block
  | lines _ _ => .line

def lexemes : WrittenGroup → List Lexeme
  | block body => [.blockComment body.text, .other '\n']
  | lines first others =>
      (first :: others).flatMap fun body => [.lineComment body.text, .other '\n']

end WrittenGroup

/-- What stands between two groups that follow each other. -/
def gap (x y : WrittenGroup) : Text :=
  if x.kind = .line ∧ y.kind = .line then ['\n'] else []

/-- The groups as a source. -/
def print : List WrittenGroup → Text
  | [] => []
  | [x] => x.text
  | x :: y :: rest => x.text ++ gap x y ++ print (y :: rest)

/-- The lexemes of the source that is written. -/
def lexemes : List WrittenGroup → List Lexeme
  | [] => []
  | [x] => x.lexemes
  | x :: y :: rest => x.lexemes ++ (gap x y).map .other ++ lexemes (y :: rest)

theorem eq_newline_of_mem_gap {x y : WrittenGroup} {c : Char} (h : c ∈ gap x y) : c = '\n' := by
  unfold gap at h
  split at h
  · exact List.mem_singleton.mp h
  · simp at h

theorem isCommon_newline {t : Text} {xs : List Lexeme} (h : IsCommon t xs) :
    IsCommon ('\n' :: t) (.other '\n' :: xs) :=
  .blank (.inr (.inr rfl)) h

theorem isCommon_lines (bodies : List LineBody) {t : Text} {xs : List Lexeme}
    (h : IsCommon t xs) :
    IsCommon (bodies.flatMap LineBody.written ++ t)
      (bodies.flatMap (fun body => [.lineComment body.text, .other '\n']) ++ xs) := by
  induction bodies with
  | nil => exact h
  | cons body rest ih =>
    have hline := IsCommon.lineComment body.plain (by simp) (isCommon_newline ih)
    simpa [LineBody.written] using hline

theorem isCommon_text (x : WrittenGroup) {t : Text} {xs : List Lexeme} (h : IsCommon t xs) :
    IsCommon (x.text ++ t) (x.lexemes ++ xs) := by
  cases x with
  | block body =>
    have hblock := IsCommon.blockComment body.unclosed body.plain.2 (isCommon_newline h)
    simpa [WrittenGroup.text, WrittenGroup.lexemes] using hblock
  | lines first others => exact isCommon_lines (first :: others) h

theorem isCommon_gap (x y : WrittenGroup) {t : Text} {xs : List Lexeme} (h : IsCommon t xs) :
    IsCommon (gap x y ++ t) ((gap x y).map .other ++ xs) := by
  unfold gap
  split
  · exact isCommon_newline h
  · exact h

theorem isCommon_print (gs : List WrittenGroup) : IsCommon (print gs) (lexemes gs) := by
  fun_induction print gs with
  | case1 => exact .nil
  | case2 x =>
    have htext := isCommon_text x .nil
    rwa [List.append_nil, List.append_nil] at htext
  | case3 x y rest ih =>
    rw [lexemes, List.append_assoc, List.append_assoc]
    exact isCommon_text x (isCommon_gap x y ih)

theorem carriageReturn_not_mem_text (x : WrittenGroup) : '\r' ∉ x.text := by
  cases x with
  | block body => simp [WrittenGroup.text, body.plain.1]
  | lines first others =>
    have hline : ∀ body : LineBody, '\r' ∉ body.text :=
      fun body hmem => (body.plain '\r' hmem).2.1 rfl
    simp [WrittenGroup.text, LineBody.written, hline]

theorem carriageReturn_not_mem_print (gs : List WrittenGroup) : '\r' ∉ print gs := by
  fun_induction print gs with
  | case1 => simp
  | case2 x => exact carriageReturn_not_mem_text x
  | case3 x y rest ih =>
    simp only [List.mem_append, not_or]
    refine ⟨⟨carriageReturn_not_mem_text x, ?_⟩, ih⟩
    intro hmem
    exact absurd (eq_newline_of_mem_gap hmem) (by decide)

theorem contents_commentsFrom (p : Position) (x : WrittenGroup) :
    contents (commentsFrom p x.lexemes) = x.contents := by
  rw [contents, commentsFrom_bodies]
  cases x with
  | block body => rfl
  | lines first others =>
    rw [WrittenGroup.lexemes, WrittenGroup.contents]
    induction first :: others with
    | nil => rfl
    | cons body rest ih => rw [List.map_cons, ← ih]; rfl

theorem positionBehind_lexemes (p : Position) (x : WrittenGroup) :
    positionBehind p x.lexemes = p.advance x.text := by
  have htext := (isCommon_text x .nil).flatMap_text
  rw [List.append_nil, List.append_nil] at htext
  rw [positionBehind, htext]

theorem kind_of_mem {p : Position} {x : WrittenGroup} {c : Comment}
    (h : c ∈ commentsFrom p x.lexemes) : c.kind = x.kind := by
  have hmem : (c.kind, c.text) ∈ x.contents := by
    rw [← contents_commentsFrom p x]
    exact List.mem_map_of_mem h
  cases x with
  | block body => exact congrArg Prod.fst (List.mem_singleton.mp hmem)
  | lines first others =>
    obtain ⟨body, -, heq⟩ := List.mem_map.mp hmem
    exact (congrArg Prod.fst heq).symm

/-- The comments are a group that starts on line `m`, and the last of them, if it is a line
comment, stands above line `n`. -/
structure Occupies (m n : ℕ) (g : CommentGroup) : Prop where
  isGroup : IsGroup g
  first : ∀ c ∈ g.head?, c.line = m
  last : ∀ c ∈ g.getLast?, c.kind = .line → c.line + 1 = n

theorem line_advance_written (p : Position) (body : LineBody) :
    (p.advance body.written).line = p.line + 1 := by
  have hbody : '\n' ∉ body.text := fun hmem => (body.plain '\n' hmem).1 rfl
  rw [Position.line_advance]
  simp [LineBody.written, List.count_append, List.count_eq_zero_of_not_mem hbody]

/-- A line comment above a group of line comments is the first of a longer one. -/
theorem Occupies.cons {m n : ℕ} {g : CommentGroup} (h : Occupies (m + 1) n g) {c : Comment}
    (hc : c.kind = .line ∧ c.line = m) (hg : ∀ d ∈ g, d.kind = .line) : Occupies m n (c :: g) := by
  obtain ⟨hne, hchain⟩ := (isGroup_iff g).mp h.isGroup
  refine ⟨(isGroup_iff _).mpr ⟨by simp, hchain.cons ?_⟩, ?_, ?_⟩
  · intro d hd
    refine ⟨hc.1, hg d (List.mem_of_mem_head? hd), ?_⟩
    rw [h.first d hd, hc.2]
    rfl
  · intro d hd
    obtain rfl : c = d := by simpa using hd
    exact hc.2
  · rw [List.getLast?_cons_of_ne_nil hne]
    exact h.last

/-- A group of line comments consists of its first comment and the group below. -/
theorem commentsFrom_lines_cons (p : Position) (first body : LineBody) (rest : List LineBody) :
    commentsFrom p (WrittenGroup.lines first (body :: rest)).lexemes =
      Comment.ofPosition .line first.text p ::
        commentsFrom (p.advance first.written)
          (WrittenGroup.lines body rest).lexemes := by
  rw [WrittenGroup.lexemes, List.flatMap_cons, commentsFrom_append]
  simp [commentsFrom, positionBehind, Lexeme.comment?, Lexeme.text, LineBody.written,
    WrittenGroup.lexemes]

theorem occupies_lines (p : Position) (first : LineBody) (others : List LineBody) :
    Occupies p.line (p.advance (WrittenGroup.lines first others).text).line
      (commentsFrom p (WrittenGroup.lines first others).lexemes) := by
  induction others generalizing p first with
  | nil =>
    have hline := line_advance_written p first
    have htext : (WrittenGroup.lines first []).text = first.written := by
      simp [WrittenGroup.text]
    rw [htext, hline]
    refine ⟨isGroup_singleton _, ?_, ?_⟩
    · rintro c ⟨⟩
      rfl
    · rintro c ⟨⟩ -
      rfl
  | cons body rest ih =>
    have hbelow := ih (p.advance first.written) body
    rw [← Position.advance_append, line_advance_written] at hbelow
    rw [commentsFrom_lines_cons]
    exact hbelow.cons ⟨rfl, rfl⟩ fun d => kind_of_mem

theorem occupies_text (p : Position) (x : WrittenGroup) :
    Occupies p.line (p.advance x.text).line (commentsFrom p x.lexemes) := by
  cases x with
  | block body =>
    refine ⟨isGroup_singleton _, ?_, ?_⟩
    · rintro c ⟨⟩
      rfl
    · rintro c ⟨⟩ hkind
      cases hkind
  | lines first others => exact occupies_lines p first others

/-- The first comment of a source is that of the first group. -/
theorem head_print {p : Position} {y : WrittenGroup} {rest : List WrittenGroup} {d : Comment}
    (h : d ∈ (commentsFrom p (lexemes (y :: rest))).head?) : d.kind = y.kind ∧ d.line = p.line := by
  obtain ⟨more, hmore⟩ : ∃ more, lexemes (y :: rest) = y.lexemes ++ more := by
    cases rest with
    | nil => exact ⟨[], (List.append_nil _).symm⟩
    | cons z rest => exact ⟨_, List.append_assoc _ _ _⟩
  have hfirst := occupies_text p y
  have hne := hfirst.isGroup.ne_nil
  rw [hmore, commentsFrom_append, List.head?_append_of_ne_nil _ hne] at h
  exact ⟨kind_of_mem (List.mem_of_mem_head? h), hfirst.first d h⟩

/-- Line comments of two groups that follow each other are a blank line apart. -/
theorem not_adjacent_of_gap {p : Position} {x y : WrittenGroup} {c d : Comment}
    (hc : c ∈ (commentsFrom p x.lexemes).getLast?)
    (hd : d.kind = y.kind ∧ d.line = ((p.advance x.text).advance (gap x y)).line) :
    ¬ Adjacent c d := by
  rintro ⟨hcline, hdline, hnext⟩
  have hlast := (occupies_text p x).last c hc hcline
  have hx : x.kind = .line := (kind_of_mem (List.mem_of_mem_getLast? hc)).symm.trans hcline
  have hy : y.kind = .line := hd.1.symm.trans hdline
  have hgap : gap x y = ['\n'] := if_pos ⟨hx, hy⟩
  rw [hgap, Position.line_advance, List.count_singleton_self] at hd
  omega

/-- The comments of the source are partitioned into the groups that were written. -/
theorem exists_isPartition (p : Position) (gs : List WrittenGroup) :
    ∃ groups, IsPartition (commentsFrom p (lexemes gs)) groups ∧
      groups.map contents = gs.map WrittenGroup.contents := by
  induction gs generalizing p with
  | nil => exact ⟨[], .nil, rfl⟩
  | cons x rest ih =>
    have hx := (occupies_text p x).isGroup.isPartition
    cases rest with
    | nil => exact ⟨_, hx, congrArg (fun g => [g]) (contents_commentsFrom p x)⟩
    | cons y rest =>
      obtain ⟨groups, hgroups, hcontents⟩ := ih ((p.advance x.text).advance (gap x y))
      have hgap : commentsFrom (p.advance x.text) ((gap x y).map .other) = [] := by
        unfold gap
        split <;> rfl
      have hbehind : positionBehind (p.advance x.text) ((gap x y).map .other) =
          (p.advance x.text).advance (gap x y) := by
        unfold gap
        split <;> rfl
      refine ⟨commentsFrom p x.lexemes :: groups, ?_, ?_⟩
      · rw [lexemes, List.append_assoc, commentsFrom_append, commentsFrom_append,
          positionBehind_lexemes, hgap, hbehind]
        exact hx.append hgroups fun c hc d hd => not_adjacent_of_gap hc (head_print hd)
      · rw [List.map_cons, hcontents, contents_commentsFrom]
        rfl

theorem groups_print [Parser] (hlaw : Parser.IsLawful) (hreads : Parser.ReadsFragment)
    (g : Grammar) (gs : List WrittenGroup) :
    ∃ comments, g.comments (print gs) = .ok comments ∧
      (groupComments comments).map contents = gs.map WrittenGroup.contents := by
  obtain ⟨groups, hgroups, hcontents⟩ := exists_isPartition {} gs
  have hcomments := comments_of_isCommon hlaw hreads (isCommon_print gs) g
  rw [← commentsFrom_eq_spans [] (lexemes gs)] at hcomments
  refine ⟨_, hcomments, ?_⟩
  change (groupComments (commentsFrom {} (lexemes gs))).map contents = _
  rwa [(isPartition_groupComments _).unique hgroups]

/-- Whether a group is kept depends on its bodies alone. -/
theorem map_contents_filter {groups : List CommentGroup} {gs : List WrittenGroup}
    (h : groups.map contents = gs.map WrittenGroup.contents) (p : Text → Bool) :
    (groups.filter fun g => (g.map Comment.text).any p).map contents =
      (gs.filter fun x => x.bodies.any p).map WrittenGroup.contents := by
  have hbodies : (fun g : CommentGroup => (g.map Comment.text).any p) =
      (fun kept => (kept.map Prod.snd).any p) ∘ contents := by
    funext g
    rw [Function.comp_apply, contents, List.map_map]
    rfl
  rw [hbodies, ← List.filter_map, h, List.filter_map]
  rfl

theorem any_bodies_true (x : WrittenGroup) : x.bodies.any (fun _ => true) = true := by
  cases x <;> rfl

theorem ofSource_ofPredicate [Parser] {g : Grammar} {source : Text} {comments : List Comment}
    (p : Text → Bool) (path : String) (hplain : '\r' ∉ source)
    (h : g.comments source = .ok comments) :
    Findings.ofSource g (.ofPredicate p) path source =
      .ok ⟨comments, (groupComments comments).filter fun g => (g.map Comment.text).any p⟩ := by
  simp only [Findings.ofSource, Text.unifyNewlines_eq_self hplain, h, filterGroups_ofPredicate,
    mapError_ok, ok_bind]
  rfl

/-- The notices of the source are the groups that were written, or those of them that have a
body that is accepted. -/
theorem notices_print [Parser] (hlaw : Parser.IsLawful) (hreads : Parser.ReadsFragment)
    (g : Grammar) (path : String) (gs : List WrittenGroup) :
    (∃ f, Findings.ofSource g (.ofPredicate fun _ => true) path (print gs) = .ok f ∧
      f.notices.map contents = gs.map WrittenGroup.contents) ∧
    ∀ p : Text → Bool, ∃ f, Findings.ofSource g (.ofPredicate p) path (print gs) = .ok f ∧
      f.notices.map contents = (gs.filter fun x => x.bodies.any p).map WrittenGroup.contents := by
  have hselect (p : Text → Bool) : ∃ f,
      Findings.ofSource g (.ofPredicate p) path (print gs) = .ok f ∧
      f.notices.map contents = (gs.filter fun x => x.bodies.any p).map WrittenGroup.contents := by
    obtain ⟨comments, hcomments, hgroups⟩ := groups_print hlaw hreads g gs
    refine ⟨_, ofSource_ofPredicate p path (carriageReturn_not_mem_print gs) hcomments, ?_⟩
    exact map_contents_filter hgroups p
  refine ⟨?_, hselect⟩
  obtain ⟨f, hf, hnotices⟩ := hselect fun _ => true
  refine ⟨f, hf, ?_⟩
  rw [hnotices, List.filter_eq_self.mpr fun x _ => any_bodies_true x]

/-- Two groups of line comments and between them a block comment that holds their markers. -/
def sampleGroups : List WrittenGroup :=
  [.lines ⟨['a'], by simp [IsCommonLine]⟩ [⟨['\x27'], by simp [IsCommonLine]⟩],
    .block ⟨['/', '/', '\n'], by decide +kernel, by decide⟩,
    .lines ⟨['/', '*'], by simp [IsCommonLine]⟩ []]

theorem sample_notices_print :
    ∃ f, @Findings.ofSource readerParser .javascript (.ofPredicate fun _ => true) ""
        (print sampleGroups) = .ok f ∧
      f.notices.map contents = [[(.line, ['a']), (.line, ['\x27'])],
        [(.block, ['/', '/', '\n'])], [(.line, ['/', '*'])]] :=
  (@notices_print readerParser readerParser_isLawful readerParser_readsFragment .javascript ""
    sampleGroups).1

end LicenseNotices.PrintedGroups
