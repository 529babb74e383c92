import LicenseNotices.Proofs.ReaderTrees
import LicenseNotices.Proofs.RunEvents
import LicenseNotices.Proofs.SpanPlaces

/-!
Where the events of a run point. An event tells the line and the column at which the first
comment of its group opens, in the text of its file with line feeds for all line ends. The
place comes from the span of that comment, and the spans of a source follow each other, so
the events of one reading of a file are in the order of their places.
-/
namespace LicenseNotices.NoticePlaces

open CommentRuns FirstSeen JavaScript RunEvents RunOutcome SourceContents

/-- How comments begin. -/
def openers : Grammar → List Text
  | .cStyle => [['/', '/'], ['/', '*']]
  | .javascript => [['/', '/'], ['/', '*'], ['<', '!', '-', '-'], ['-', '-', '>']]

theorem opener_mem_openers {g : Grammar} {kind : CommentKind} {opener body closer after : Text}
    (h : Delimited g kind opener body closer after) : opener ∈ openers g := by
  cases h with
  | block hbody => cases g <;> simp [openers]
  | line hbody hafter => simp [openers]
  | scriptLine hbody hafter => simp [openers]
  | markup hopener hbody hafter => rcases hopener with rfl | rfl <;> simp [openers]

/-- A comment opens at a line and a column, both counted from one, and its body stands right
behind the opening delimiter. -/
inductive OpensAt (g : Grammar) (source : Text) (c : Comment) (line column : Int) : Prop
  | intro {before opener closer after : Text}
      (hsource : source = before ++ opener ++ c.text ++ closer ++ after)
      (hplace : EndsAt before source line column) (hopener : opener ∈ openers g)
      (hdelimited : Delimited g c.kind opener c.text closer after)

/-- The event tells of the group: its file, the place of its first comment and its text. -/
structure PointsAt (g : Grammar) (source : Text) (file : Text) (e : MatchEvent)
    (group : CommentGroup) : Prop where
  file_eq : e.file = String.ofList file
  preview_eq : e.preview = Text.preview group.text
  opens : ∃ first ∈ group.head?, OpensAt g source first e.line e.column

/-- Reading order. -/
def Precedes (e f : MatchEvent) : Prop := e.line < f.line ∨ e.line = f.line ∧ e.column < f.column

theorem opensAt_comment {g : Grammar} {source : Text} {spans : List Span}
    (h : IsSpans g source spans) {s : Span} (hs : s ∈ spans) :
    OpensAt g source s.comment s.comment.line (s.comment.column + 1) := by
  have hsource := h.source_eq s hs
  have hdelimited := h.delimited s hs
  have hplace : EndsAt s.before source s.comment.line (s.comment.column + 1) := by
    refine ⟨?_, ?_, ?_⟩
    · rw [← hsource, Span.source, List.append_assoc]
      exact List.prefix_append _ _
    · rw [Span.line_comment, Int.add_comm]
    · rw [Span.column_comment]
  refine .intro ?_ hplace (opener_mem_openers hdelimited) hdelimited
  rw [← hsource]
  simp [Span.source, Span.text, Span.comment, Comment.ofPosition]

/-- Groups start in the order in which their comments do. -/
theorem pairwise_head {groups : List CommentGroup}
    (h : groups.flatten.Pairwise Comment.Precedes) :
    groups.Pairwise fun a b => ∀ c ∈ a.head?, ∀ d ∈ b.head?, c.Precedes d := by
  refine (List.pairwise_flatten.mp h).2.imp ?_
  intro a b hab c hc d hd
  exact hab c (List.mem_of_mem_head? hc) d (List.mem_of_mem_head? hd)

theorem pairwise_of_forall₂ {α β : Type} {R : α → β → Prop} {S : α → α → Prop}
    {T : β → β → Prop} {xs : List α} {ys : List β} (h : List.Forall₂ R xs ys)
    (hys : ys.Pairwise T) (hS : ∀ x x' y y', R x y → R x' y' → T y y' → S x x') :
    xs.Pairwise S := by
  obtain ⟨hlength, hget⟩ := List.forall₂_iff_get.mp h
  rw [List.pairwise_iff_getElem] at hys ⊢
  intro i j hi hj hij
  exact hS _ _ _ _ (hget i hi (hlength ▸ hi)) (hget j hj (hlength ▸ hj))
    (hys i j (hlength ▸ hi) (hlength ▸ hj) hij)

theorem precedes_matchEvent {a b : CommentGroup} (ha : a ≠ []) (hb : b ≠ [])
    (h : ∀ c ∈ a.head?, ∀ d ∈ b.head?, c.Precedes d) (file : String) (s t : NoticeSet) :
    Precedes (matchEvent s file a ha) (matchEvent t file b hb) := by
  have hhead := h _ (List.head?_eq_some_head ha) _ (List.head?_eq_some_head hb)
  simp only [Comment.Precedes] at hhead
  simp only [Precedes, matchEvent]
  omega

section

variable [Encoding.Codecs] [Parser]

/-- The events of a file are those of its notices, in the order of their places. -/
inductive Reports (s : FileStore) (o : Options) (g : Grammar) (file : Text)
    (events : List MatchEvent) : Prop
  | intro {source : Text} {comments : List Comment} (htext : HasText s o file source)
      (hparse : g.comments (Text.unifyNewlines source) = .ok comments)
      (hpoints : List.Forall₂ (PointsAt g (Text.unifyNewlines source) file) events
        (notices o (groupComments comments)))
      (hordered : events.Pairwise Precedes)

/-- The events that a source leaves behind report its notices. -/
theorem reports_eventsOf (hlaw : Parser.IsLawful) {s : FileStore} {o : Options} {g : Grammar}
    {file : Text} {c : Contents} (h : Holds s o g file c) (set : NoticeSet) :
    Reports s o g file (eventsOf set (String.ofList file) (notices o c.groups)) := by
  obtain ⟨source, htext, hparse⟩ := (yields_iff _ _ _ _ _).mp h.yields
  obtain ⟨spans, hspans, hcomments⟩ := Grammar.exists_spans hlaw hparse
  have hevents := forall₂_eventsOf set (String.ofList file) h.notices_ne_nil
  have hflatten := h.isPartition.flatten_eq
  refine .intro htext hparse ?_ ?_
  · have hopens : ∀ group ∈ notices o c.groups, ∀ first ∈ group.head?,
        OpensAt g (Text.unifyNewlines source) first first.line (first.column + 1) := by
      intro group hgroup first hfirst
      have hmem : first ∈ spans.map Span.comment := by
        rw [← hcomments, ← hflatten]
        exact List.mem_flatten_of_mem (List.mem_of_mem_filter hgroup) (List.mem_of_mem_head? hfirst)
      obtain ⟨span, hspan, rfl⟩ := List.mem_map.mp hmem
      exact opensAt_comment hspans hspan
    rw [(isPartition_groupComments c.comments).unique h.isPartition]
    refine (((List.forall₂_and_left _ _).mpr ⟨hopens, hevents.flip⟩).flip).imp ?_
    rintro _ group ⟨hopens, hgroup, before, rfl⟩
    exact ⟨rfl, rfl, _, List.head?_eq_some_head hgroup, hopens _ (List.head?_eq_some_head hgroup)⟩
  · have hordered : c.groups.flatten.Pairwise Comment.Precedes := by
      rw [hflatten, hcomments]
      exact hspans.pairwise_precedes
    refine pairwise_of_forall₂ hevents ((pairwise_head hordered).filter _) ?_
    rintro _ _ a b ⟨ha, s, rfl⟩ ⟨hb, t, rfl⟩ hab
    exact precedes_matchEvent ha hb hab _ s t

/-- The events of a run belong to the sources that were read, in order, and those of one
source report its notices: each tells the place at which a notice begins, and the places
ascend. This holds of a run that ends well and of a run that ends at a source. -/
theorem events_point_at_notices (hlaw : Parser.IsLawful) (s : FileStore) (o : Options)
    (g : Grammar) (files : List Text) (output : Path) :
    ∃ read rest parts, files = read ++ rest ∧
      (∀ bad ∈ rest.head?, ∃ failure, Fails s o g bad failure) ∧
      List.Forall₂ (Reports s o g) read parts ∧
      (Run.ofSources s o g files output).report.filterMap ReportEntry.event? = parts.flatten := by
  obtain ⟨read, rest, found, hfiles, hfound, hrest, hevents⟩ := exists_read s o g files .empty
  refine ⟨read, rest, parts o .empty read found, hfiles, hrest, ?_, ?_⟩
  · refine (forall₂_parts hfound .empty).imp ?_
    rintro file part ⟨c, before, hholds, rfl⟩
    exact reports_eventsOf hlaw hholds before
  · rw [events_ofSources, hevents, events_scan hfound]

end

/-- A source in which a character of two bytes stands in front of a comment. -/
def accentedFiles : FileStore :=
  { entry? := fun _ => none : FileStore }.put [['a']]
    (Encoding.Utf8.encode "é(); /* MIT */\n".toList)

def accentedOptions : Options :=
  { sampleOptions with
    encoding := { spelling := "utf-8".toList, isKnown := by decide +kernel } }

section

attribute [local instance] Encoding.sampleCodecs readerParser

/-- The column counts characters. -/
theorem accented_events_point_at_notices :
    ∃ read rest parts, [['a']] = read ++ rest ∧
      List.Forall₂ (Reports accentedFiles accentedOptions .javascript) read parts ∧
      parts.flatten.map (fun e => (e.line, e.column)) = [(1, 6)] := by
  have hplaces : ((Run.ofSources accentedFiles accentedOptions .javascript [['a']]
      (.ofText ['o'])).report.filterMap ReportEntry.event?).map (fun e => (e.line, e.column)) =
        [(1, 6)] := by
    decide +kernel
  obtain ⟨read, rest, parts, hfiles, -, hreports, hevents⟩ :=
    events_point_at_notices readerParser_isLawful accentedFiles accentedOptions .javascript
      [['a']] (.ofText ['o'])
  exact ⟨read, rest, parts, hfiles, hreports, hevents ▸ hplaces⟩

end

end LicenseNotices.NoticePlaces
