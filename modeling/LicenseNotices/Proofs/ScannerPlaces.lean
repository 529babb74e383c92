import LicenseNotices.Proofs.ScannerSteps
import LicenseNotices.Proofs.SpanPlaces

/-!
What the scanner of C-family sources counts. One step keeps the count of the characters, the
lines and the columns that have been read, so it is exact in every state that is reached. The
comments keep the places at which they open, and an error tells the place at which the lexeme
opens that is not closed.
-/
namespace LicenseNotices.CStyle

/-- The scanner is within the source, and its counts are those of the part that has been read. -/
structure Scanner.IsExact (source : Text) (σ : Scanner) : Prop where
  offset_le : σ.offset ≤ source.length
  line_eq : σ.place.line = 1 + (source.take σ.offset).count '\n'
  column_eq : σ.place.column = (Text.lastLine (source.take σ.offset)).length

/-- The comments come from spans of the source and lie where these open, in ascending order and
none behind a line comment on its line. -/
structure WellPlaced (source : Text) (cs : List Comment) : Prop where
  exists_spans : ∃ spans, IsSpans .cStyle source spans ∧ cs = spans.map Span.comment ∧
    ∀ s ∈ spans, s.comment.line = 1 + s.before.count '\n' ∧
      s.comment.column = s.before.lastLine.length
  ascending : cs.Pairwise Comment.Precedes
  lines_apart : cs.Pairwise fun c d => c.isLine = true → c.line < d.line

/-- The diagnostic tells where the first lexeme of the source opens that is not closed, counted
from one, and which delimiter opens it. -/
inductive TellsOpener (source : Text) (d : Diagnostic) : Prop
  | intro {before rest : Text} {xs : List Lexeme} {fault : SourceFault} {line column : Int}
      (hsource : source = before ++ rest) (hleads : LeadsTo rest source xs)
      (hrest : Unterminated fault rest) (hplace : EndsAt before source line column)
      (hline : d.line = some line) (hcolumn : d.column = some column)
      (hmessage : d.message = if rest.head? = some '/' then "Unterminated block comment"
        else "Unterminated string literal")

namespace Scanner

variable {source : Text} {σ τ : Scanner}

/-- The scanner has read a part of the source, and its place is the one behind it. -/
def HasRead (source : Text) (σ : Scanner) : Prop :=
  ∃ before rest, source = before ++ rest ∧ σ = behind before σ.comments σ.mode

theorem HasRead.step (h : σ.HasRead source) (hstep : σ.step source = .moved τ) :
    τ.HasRead source := by
  obtain ⟨before, rest, hsource, hσ⟩ := h
  rw [hσ, step_behind hsource] at hstep
  cases haction : σ.mode.action (({} : Position).advance before) rest with
  | read next =>
    rw [haction] at hstep
    cases hstep
    refine ⟨before ++ rest.take 1, rest.drop 1, ?_, rfl⟩
    rw [List.append_assoc, List.take_append_drop, hsource]
  | close c =>
    rw [haction] at hstep
    cases hstep
    exact ⟨before, rest, hsource, rfl⟩
  | finish =>
    rw [haction] at hstep
    cases hstep
  | fail fault start =>
    rw [haction] at hstep
    cases hstep

theorem hasRead_of_reached (h : Reached source σ) : σ.HasRead source := by
  induction h with
  | refl => exact ⟨[], source, rfl, rfl⟩
  | tail _ hstep ih => exact ih.step hstep

theorem HasRead.isExact (h : σ.HasRead source) : σ.IsExact source := by
  obtain ⟨before, rest, rfl, hσ⟩ := h
  rw [hσ]
  have htake : (before ++ rest).take (behind before σ.comments σ.mode).offset = before :=
    List.take_left
  refine ⟨?_, ?_, ?_⟩
  · exact (List.prefix_append before rest).length_le
  · rw [htake, behind, Position.line_advance]
  · rw [htake, behind, Position.column_advance]

theorem prefix_comments_of_step (h : σ.step source = .moved τ) : σ.comments <+: τ.comments := by
  rw [step] at h
  cases haction : σ.mode.action σ.place (σ.ahead source) with
  | read mode =>
    rw [haction] at h
    cases h
    rw [advance]
    split <;> exact List.prefix_rfl
  | close c =>
    rw [haction] at h
    cases h
    exact List.prefix_append ..
  | finish =>
    rw [haction] at h
    cases h
  | fail fault start =>
    rw [haction] at h
    cases h

theorem Runs.prefix_comments (h : Runs source σ τ) : σ.comments <+: τ.comments := by
  induction h with
  | refl => exact List.prefix_rfl
  | tail _ hstep ih => exact ih.trans (prefix_comments_of_step hstep)

/-- There is one run only, so from every state of it the scanner comes to where it halts. -/
theorem runs_of_reached {result : Except SourceError (List Comment)} (hσ : Reached source σ)
    (hτ : Reached source τ) (hhalts : τ.step source = .halted result) : Runs source σ τ := by
  have hunique : Relator.RightUnique fun σ τ : Scanner => σ.step source = .moved τ :=
    fun σ τ υ hτ hυ => Move.moved.inj (hτ.symm.trans hυ)
  rcases Relation.ReflTransGen.total_of_right_unique hunique hσ hτ with h | h
  · exact h
  · rcases h.cases_head with rfl | ⟨υ, hstep, -⟩
    · exact .refl ..
    · cases hhalts.symm.trans hstep

/-- The scanner halts with the comments or the error of the source and in no other way. -/
theorem halted_iff (source : Text) (result : Except SourceError (List Comment)) :
    (∃ σ, Reached source σ ∧ σ.step source = .halted result) ↔
      CStyle.comments source = result := by
  obtain ⟨τ, hτ, -, hhalts⟩ := halts_comments source
  constructor
  · rintro ⟨σ, hσ, hresult⟩
    rcases (runs_of_reached hσ hτ hhalts).cases_head with rfl | ⟨υ, hstep, -⟩
    · exact Move.halted.inj (hhalts.symm.trans hresult)
    · cases hresult.symm.trans hstep
  · rintro rfl
    exact ⟨τ, hτ, hhalts⟩

end Scanner

theorem wellPlaced_of_prefix {source : Text} {cs : List Comment}
    (h : cs <+: commentsFrom {} (lexemes source).1) : WellPlaced source cs := by
  obtain ⟨all, ⟨hall, -⟩, hcomments⟩ := exists_spans_of_lexemes source []
  obtain ⟨later, hlater⟩ := h
  obtain ⟨spans, rest, rfl, rfl, -⟩ := List.map_eq_append_iff.mp (hcomments.symm.trans hlater.symm)
  exact ⟨⟨spans, hall.left, rfl, fun s _ => ⟨s.line_comment, s.column_comment⟩⟩,
    hall.left.pairwise_precedes, line_lt_of_isLine hall.left⟩

theorem tellsOpener_of_error {source : Text} {e : SourceError} (h : comments source = .error e)
    (path : String) : TellsOpener source (e.diagnostic path) := by
  obtain ⟨rest, xs, hleads, hrest, hposition⟩ := (comments_eq_error_iff source e).mp h
  have hsource := hleads.eq_append
  have hmessage : e.fault.message = if rest.head? = some '/' then "Unterminated block comment"
      else "Unterminated string literal" := by
    generalize e.fault = fault at hrest
    cases hrest with
    | comment hclose => rfl
    | literal hquote hclose =>
      exact (if_neg fun hhead => (ne_of_isQuote hquote).2.2 (Option.some.inj hhead)).symm
  refine .intro hsource hleads hrest ⟨⟨rest, hsource.symm⟩, rfl, rfl⟩ ?_ ?_ hmessage
  · rw [SourceError.diagnostic, hposition, positionBehind, Position.line_advance, Nat.add_comm]
    rfl
  · rw [SourceError.diagnostic, hposition, positionBehind, Position.column_advance]

/-- In every state that the scanner reaches its counts are exact and the comments that it has
closed are well placed. It halts with the comments of the source, which are well placed, or with
the error of the source, which tells of the first lexeme that is not closed. -/
theorem scanner_places_exact (source : Text) :
    (∀ σ, Scanner.Reached source σ → σ.IsExact source ∧ WellPlaced source σ.comments) ∧
      (∀ result, (∃ σ, Scanner.Reached source σ ∧ σ.step source = .halted result) ↔
        comments source = result) ∧
      (∀ cs, comments source = .ok cs → WellPlaced source cs) ∧
      ∀ e, comments source = .error e → ∀ path, TellsOpener source (e.diagnostic path) := by
  refine ⟨?_, Scanner.halted_iff source, ?_, ?_⟩
  · intro σ hσ
    obtain ⟨τ, hτ, hcomments, hhalts⟩ := Scanner.halts_comments source
    have hprefix := (Scanner.runs_of_reached hσ hτ hhalts).prefix_comments
    rw [hcomments] at hprefix
    exact ⟨(Scanner.hasRead_of_reached hσ).isExact, wellPlaced_of_prefix hprefix⟩
  · intro cs h
    refine wellPlaced_of_prefix ?_
    rw [comments_eq_of_ok h]
  · exact fun e h path => tellsOpener_of_error h path

/-- A literal that ends behind a backslash is reported where it opens. -/
example : comments "x\n 'ab\\".toList = .error ⟨.unterminatedLiteral, ⟨2, 1⟩⟩ := by
  cbv

end LicenseNotices.CStyle
