import LicenseNotices.Proofs.CommentRuns
import LicenseNotices.Proofs.Results
import LicenseNotices.Run

/-!
What a run takes from one source. A source that can be read, decoded and parsed yields
comments; every other source fails at the first of these three steps that is impossible,
and the failure tells which. The notices of a source are the groups of its comments one
of which is matched by a pattern.
-/
namespace LicenseNotices.SourceContents

open CommentRuns Results

/-- At least one of the patterns is found in the body of the comment. -/
def Matches (o : Options) (c : Comment) : Prop := ∃ p ∈ o.patterns, p.isFoundIn c.text = true

instance (o : Options) (c : Comment) : Decidable (Matches o c) :=
  inferInstanceAs (Decidable (∃ p ∈ o.patterns, _))

def IsNotice (o : Options) (g : CommentGroup) : Prop := ∃ c ∈ g, Matches o c

instance (o : Options) (g : CommentGroup) : Decidable (IsNotice o g) :=
  inferInstanceAs (Decidable (∃ c ∈ g, _))

/-- The groups that are notices, in order. -/
def notices (o : Options) (groups : List CommentGroup) : List CommentGroup :=
  groups.filter fun g => IsNotice o g

theorem acceptsAny_ofPredicate (p : Text → Bool) (ts : List Text) :
    acceptsAny (.ofPredicate p) ts = .ok (ts.any p) := by
  induction ts with
  | nil => rfl
  | cons t rest ih =>
    rw [acceptsAny, NoticeMatcher.ofPredicate, ok_bind, List.any_cons]
    cases p t with
    | false => exact ih
    | true => rfl

theorem filterGroups_ofPredicate (p : Text → Bool) (groups : List CommentGroup) :
    (NoticeMatcher.ofPredicate p).filterGroups groups =
      .ok (groups.filter fun g => (g.map Comment.text).any p) := by
  induction groups with
  | nil => rfl
  | cons g rest ih =>
    rw [NoticeMatcher.filterGroups, NoticeMatcher.acceptsGroup, acceptsAny_ofPredicate, ih,
      ok_bind, ok_bind, List.filter_cons]
    rfl

theorem filterGroups_matcher (o : Options) (groups : List CommentGroup) :
    o.matcher.filterGroups groups = .ok (notices o groups) := by
  rw [Options.matcher, NoticeMatcher.ofPatterns, filterGroups_ofPredicate]
  congr 2
  funext g
  rw [Bool.eq_iff_iff, decide_eq_true_iff]
  simp [IsNotice, Matches]

/-- The findings in a source with the given comments. -/
def findings (o : Options) (comments : List Comment) : Findings where
  comments := comments
  notices := notices o (groupComments comments)

theorem unifyNewlines_idem (t : Text) :
    Text.unifyNewlines (Text.unifyNewlines t) = Text.unifyNewlines t :=
  Text.unifyNewlines_eq_self (Text.carriageReturn_not_mem_unifyNewlines t)

theorem ofSource_of_comments [JavaScript.Parser] {o : Options} {g : Grammar} {path : String}
    {source : Text} {comments : List Comment}
    (h : g.comments (Text.unifyNewlines source) = .ok comments) :
    Findings.ofSource g o.matcher path source = .ok (findings o comments) := by
  simp only [Findings.ofSource, h, filterGroups_matcher, mapError_ok, ok_bind]
  rfl

theorem ofSource_of_error [JavaScript.Parser] {o : Options} {g : Grammar} {path : String}
    {source : Text} {e : JavaScript.ParseError}
    (h : g.comments (Text.unifyNewlines source) = .error e) :
    Findings.ofSource g o.matcher path source = .error (e.failure path) := by
  simp only [Findings.ofSource, h, mapError_error, error_bind]

theorem readSource_of_decode [Encoding.Codecs] {s : FileStore} {g : Grammar}
    {name : EncodingName} {p : Path} {bytes : Bytes} {encoding : Encoding} {source : Text}
    (hread : s.read p = .ok bytes)
    (hname : name.encoding? = some encoding) (hdecode : encoding.decode bytes = .ok source) :
    Run.readSource s g name p = .ok (Text.unifyNewlines source) := by
  simp only [Run.readSource, hread, hname, hdecode, mapError_ok, ok_bind]
  rfl

variable [Encoding.Codecs] [JavaScript.Parser]

inductive Yields (s : FileStore) (o : Options) (g : Grammar) (file : Text)
    (comments : List Comment) : Prop
  | intro {bytes : Bytes} {encoding : Encoding} {source : Text}
      (hread : s.read (.ofText file) = .ok bytes)
      (hname : o.encoding.encoding? = some encoding)
      (hdecode : encoding.decode bytes = .ok source)
      (hparse : g.comments (Text.unifyNewlines source) = .ok comments)

/-- The text that is decoded from a source, with the line ends that it has there. -/
inductive HasText (s : FileStore) (o : Options) (file : Text) (source : Text) : Prop
  | intro {bytes : Bytes} {encoding : Encoding} (hread : s.read (.ofText file) = .ok bytes)
      (hname : o.encoding.encoding? = some encoding) (hdecode : encoding.decode bytes = .ok source)

theorem yields_iff (s : FileStore) (o : Options) (g : Grammar) (file : Text)
    (comments : List Comment) :
    Yields s o g file comments ↔
      ∃ source, HasText s o file source ∧
        g.comments (Text.unifyNewlines source) = .ok comments := by
  constructor
  · rintro ⟨hread, hname, hdecode, hparse⟩
    exact ⟨_, ⟨hread, hname, hdecode⟩, hparse⟩
  · rintro ⟨source, ⟨hread, hname, hdecode⟩, hparse⟩
    exact ⟨hread, hname, hdecode, hparse⟩

/-- The failure of a source that yields no comments. -/
inductive Fails (s : FileStore) (o : Options) (g : Grammar) (file : Text) : Failure → Prop
  | unopened {fault : AccessFault} (hread : s.read (.ofText file) = .error (.unopened fault)) :
      Fails s o g file (Run.accessFailure (.ofText file) (.unopened fault))
  | notText (hopen : ∀ fault, s.read (.ofText file) ≠ .error (.unopened fault))
      (hname : o.encoding.encoding? = none) : Fails s o g file (Run.notText o.encoding)
  | broken {fault : SystemFault} {encoding : Encoding}
      (hread : s.read (.ofText file) = .error (.broken fault))
      (hname : o.encoding.encoding? = some encoding) :
      Fails s o g file (Run.accessFailure (.ofText file) (.broken fault))
  | undecodable {bytes : Bytes} {encoding : Encoding} {e : Encoding.DecodeError}
      (hread : s.read (.ofText file) = .ok bytes)
      (hname : o.encoding.encoding? = some encoding)
      (hdecode : encoding.decode bytes = .error e) :
      Fails s o g file (Run.decodeFailure g (.ofText file) o.encoding e)
  | unparseable {bytes : Bytes} {encoding : Encoding} {source : Text} {e : JavaScript.ParseError}
      (hread : s.read (.ofText file) = .ok bytes)
      (hname : o.encoding.encoding? = some encoding)
      (hdecode : encoding.decode bytes = .ok source)
      (hparse : g.comments (Text.unifyNewlines source) = .error e) :
      Fails s o g file (e.failure (String.ofList file))

theorem findingsIn_of_yields {s : FileStore} {o : Options} {g : Grammar} {file : Text}
    {comments : List Comment} (h : Yields s o g file comments) :
    Run.findingsIn s o g file = .ok (findings o comments) := by
  obtain ⟨hread, hname, hdecode, hparse⟩ := h
  rw [Run.findingsIn, readSource_of_decode hread hname hdecode, ok_bind]
  apply ofSource_of_comments
  rwa [unifyNewlines_idem]

theorem findingsIn_of_fails {s : FileStore} {o : Options} {g : Grammar} {file : Text}
    {failure : Failure} (h : Fails s o g file failure) :
    Run.findingsIn s o g file = .error failure := by
  cases h with
  | unopened hread =>
    cases hname : o.encoding.encoding? <;>
      simp only [Run.findingsIn, Run.readSource, hread, hname, mapError_error, error_bind]
  | notText hopen hname =>
    rw [Run.findingsIn, Run.readSource, hname]
    dsimp only
    split
    · rename_i fault hread
      exact absurd hread (hopen fault)
    · rfl
  | broken hread hname =>
    simp only [Run.findingsIn, Run.readSource, hread, hname, mapError_error, error_bind]
  | undecodable hread hname hdecode =>
    simp only [Run.findingsIn, Run.readSource, hread, hname, hdecode, mapError_ok,
      mapError_error, ok_bind, error_bind]
  | unparseable hread hname hdecode hparse =>
    rw [Run.findingsIn, readSource_of_decode hread hname hdecode, ok_bind]
    apply ofSource_of_error
    rwa [unifyNewlines_idem]

/-- Every source yields comments or fails. -/
theorem yields_or_fails (s : FileStore) (o : Options) (g : Grammar) (file : Text) :
    (∃ comments, Yields s o g file comments) ∨ ∃ failure, Fails s o g file failure := by
  cases hread : s.read (.ofText file) with
  | error fault =>
    cases fault with
    | unopened fault => exact .inr ⟨_, .unopened hread⟩
    | broken fault =>
      cases hname : o.encoding.encoding? with
      | none => exact .inr ⟨_, .notText (by simp [hread]) hname⟩
      | some encoding => exact .inr ⟨_, .broken hread hname⟩
  | ok bytes =>
    cases hname : o.encoding.encoding? with
    | none => exact .inr ⟨_, .notText (by simp [hread]) hname⟩
    | some encoding =>
      cases hdecode : encoding.decode bytes with
      | error e => exact .inr ⟨_, .undecodable hread hname hdecode⟩
      | ok source =>
        cases hparse : g.comments (Text.unifyNewlines source) with
        | error e => exact .inr ⟨_, .unparseable hread hname hdecode hparse⟩
        | ok comments => exact .inl ⟨comments, .intro hread hname hdecode hparse⟩

/-- What is found in a source are its comments and, of their groups, the notices. -/
theorem findingsIn_eq_ok_iff (s : FileStore) (o : Options) (g : Grammar) (file : Text)
    (f : Findings) :
    Run.findingsIn s o g file = .ok f ↔
      Yields s o g file f.comments ∧ f.notices = notices o (groupComments f.comments) := by
  constructor
  · intro h
    obtain ⟨comments, hyields⟩ | ⟨failure, hfails⟩ := yields_or_fails s o g file
    · rw [findingsIn_of_yields hyields] at h
      cases h
      exact ⟨hyields, rfl⟩
    · rw [findingsIn_of_fails hfails] at h
      cases h
  · rintro ⟨hyields, hnotices⟩
    rw [findingsIn_of_yields hyields, findings, ← hnotices]

theorem exists_yields_of_isSome {s : FileStore} {o : Options} {g : Grammar} {file : Text}
    (h : (Run.findingsIn s o g file).toOption.isSome) : ∃ comments, Yields s o g file comments := by
  cases hfindings : Run.findingsIn s o g file with
  | error failure => simp [hfindings, Except.toOption] at h
  | ok found => exact ⟨_, ((findingsIn_eq_ok_iff _ _ _ _ _).mp hfindings).1⟩

/-- No source both yields comments and fails. -/
theorem Fails.not_yields {s : FileStore} {o : Options} {g : Grammar} {file : Text}
    {failure : Failure} (h : Fails s o g file failure) (comments : List Comment) :
    ¬ Yields s o g file comments := by
  intro hyields
  have hfindings := findingsIn_of_yields hyields
  rw [findingsIn_of_fails h] at hfindings
  cases hfindings

/-- The comments of a source and the groups into which they are cut. -/
structure Contents where
  comments : List Comment
  groups : List CommentGroup

structure Holds (s : FileStore) (o : Options) (g : Grammar) (file : Text) (c : Contents) :
    Prop where
  yields : Yields s o g file c.comments
  isPartition : IsPartition c.comments c.groups

/-- The texts of the notices of a source, in order. -/
def Contents.noticeTexts (o : Options) (c : Contents) : List Text :=
  (notices o c.groups).map CommentGroup.text

theorem Yields.holds {s : FileStore} {o : Options} {g : Grammar} {file : Text}
    {comments : List Comment} (h : Yields s o g file comments) :
    Holds s o g file ⟨comments, groupComments comments⟩ :=
  ⟨h, isPartition_groupComments comments⟩

theorem Holds.notices_ne_nil {s : FileStore} {o : Options} {g : Grammar} {file : Text}
    {c : Contents} (h : Holds s o g file c) : ∀ group ∈ notices o c.groups, group ≠ [] := by
  intro group hgroup
  exact (h.isPartition.isGroup group (List.mem_of_mem_filter hgroup)).ne_nil

theorem Holds.findingsIn {s : FileStore} {o : Options} {g : Grammar} {file : Text} {c : Contents}
    (h : Holds s o g file c) :
    Run.findingsIn s o g file = .ok ⟨c.comments, notices o c.groups⟩ := by
  rw [findingsIn_of_yields h.yields, findings,
    (isPartition_groupComments c.comments).unique h.isPartition]

end LicenseNotices.SourceContents
