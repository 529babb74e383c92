import LicenseNotices.JavaScript.Reader
import LicenseNotices.Proofs.StringGoals

/-!
Readers of JavaScript at a null character. No token starts with it and it is no blank, so a reader
that comes to one is stuck. It would be otherwise in a string that is quoted by null characters;
there is none, for a string is quoted by the mark that opens it.
-/
namespace LicenseNotices.JavaScript

open Goal

/-- The piece is not the token. -/
def Piece.Avoids (token : Token) : Piece → Prop
  | .token _ t _ => t ≠ token
  | _ => True

theorem avoids_readComment {blanks t : Text} {piece : Piece} {token : Token}
    (h : readComment blanks t = some piece) : piece.Avoids token := by
  rw [readComment.eq_def] at h
  split at h
  · cases h
    exact trivial
  · obtain ⟨found, -, rfl⟩ := Option.map_eq_some_iff.mp h
    exact trivial
  · cases h

theorem avoids_readMarkupComment {t : Text} {piece : Piece} {token : Token}
    (h : readMarkupComment t = some piece) : piece.Avoids token := by
  rw [readMarkupComment] at h
  rcases Option.or_eq_some_iff.mp h with h | ⟨-, h⟩
  all_goals
    obtain ⟨rest, -, rfl⟩ := Option.map_eq_some_iff.mp h
    exact trivial

/-- Behind blanks stand the tokens that the reader of tokens takes. -/
theorem avoids_readBehindBlanks {read : Text → Option (Token × Text)} {token : Token}
    (hread : ∀ t rest, read t ≠ some (token, rest)) (t : Text) :
    (readBehindBlanks read t).Avoids token := by
  rw [readBehindBlanks]
  cases hcomment : readComment (t.takeWhile isBlank) (t.dropWhile isBlank) with
  | some piece => exact avoids_readComment hcomment
  | none =>
    rw [Option.getD_none]
    cases hfound : read (t.dropWhile isBlank) with
    | none => exact trivial
    | some found =>
      rintro rfl
      exact hread _ found.2 hfound

section

variable {q : Char}

theorem readMark_ne_quote (ms : List String) (t rest : Text) :
    readMark ms t ≠ some (.quote q, rest) := by
  intro h
  obtain ⟨m, -, hm⟩ := List.exists_of_findSome?_eq_some h
  obtain ⟨u, -, hu⟩ := Option.map_eq_some_iff.mp hm
  cases hu

theorem readToken_ne_quote (hq : q ≠ '\x22' ∧ q ≠ '\x27') (regexAllowed : Bool) (t rest : Text) :
    readToken regexAllowed t ≠ some (.quote q, rest) := by
  intro h
  rw [readToken.eq_def] at h
  repeat' split at h
  all_goals first
    | exact readMark_ne_quote _ _ _ h
    | simp_all

theorem avoids_readQuestion {t : Text} {piece : Piece} (h : readQuestion t = some piece) :
    piece.Avoids (.quote q) := by
  rw [readQuestion] at h
  split at h
  · obtain ⟨-, h⟩ := Option.ite_none_right_eq_some.mp h
    cases h
    exact Token.noConfusion
  · cases h

theorem avoids_readStringPiece {r : Char} (hr : r ≠ q) (t : Text) :
    (readStringPiece r t).Avoids (.quote q) := by
  rw [readStringPiece.eq_def]
  dsimp only
  split
  · exact trivial
  · rename_i rest
    cases stringEscape rest with
    | none => exact trivial
    | some rest => exact Token.noConfusion
  · split
    · exact Token.noConfusion
    · apply avoids_readBehindBlanks
      intro t rest h
      split at h
      · split at h <;> simp_all
      · cases h

theorem avoids_readTemplatePiece (t : Text) : (readTemplatePiece t).Avoids (.quote q) := by
  rw [readTemplatePiece.eq_def]
  split
  · exact Token.noConfusion
  · exact Token.noConfusion
  · rename_i rest
    cases stringEscape rest with
    | none => exact trivial
    | some rest => exact Token.noConfusion
  · exact trivial
  · split
    · exact trivial
    · exact Token.noConfusion

theorem avoids_readChildrenPiece (t : Text) : (readChildrenPiece t).Avoids (.quote q) := by
  rw [readChildrenPiece]
  split
  · exact Token.noConfusion
  · split
    · rename_i piece hcomment
      exact avoids_readMarkupComment hcomment
    · apply avoids_readBehindBlanks
      intro t rest h
      split at h
      · simp at h
      · exact readMark_ne_quote _ _ _ h

theorem avoids_readTagPiece (t : Text) : (readTagPiece t).Avoids (.quote q) := by
  rw [readTagPiece]
  split
  · rename_i piece hcomment
    exact avoids_readMarkupComment hcomment
  · apply avoids_readBehindBlanks
    intro t rest h
    repeat' split at h
    all_goals first
      | exact readMark_ne_quote _ _ _ h
      | simp_all

theorem eq_of_mode_string {g : Goal} (h : g.mode = .string q) : g = stringBody q := by
  rw [Goal.mode.eq_def] at h
  cases g with
  | stringBody r => exact congrArg stringBody (Mode.string.inj h)
  | mark m =>
    dsimp only at h
    split at h <;> cases h
  | _ => cases h

/-- A quote that is none of the two marks of strings is read at the end of a string only, and
there it is the quote of that string. -/
theorem avoids_readPiece {goals : List Goal} (hq : q ≠ '\x22' ∧ q ≠ '\x27')
    (hgoals : stringBody q ∉ goals) (t : Text) : (readPiece goals t).Avoids (.quote q) := by
  have hcode := avoids_readBehindBlanks
    (readToken_ne_quote hq (!(readGoals .regex goals).isEmpty)) t
  have hmarkup : ((readMarkupComment t).getD
      (readBehindBlanks (readToken !(readGoals .regex goals).isEmpty) t)).Avoids (.quote q) := by
    cases h : readMarkupComment t with
    | none => exact hcode
    | some piece => exact avoids_readMarkupComment h
  have hquestion : ((readQuestion t).getD
      (readBehindBlanks (readToken !(readGoals .regex goals).isEmpty) t)).Avoids (.quote q) := by
    cases h : readQuestion t with
    | none => exact hcode
    | some piece => exact avoids_readQuestion h
  rw [readPiece.eq_def]
  dsimp only
  split
  · exact trivial
  · split
    · exact Token.noConfusion
    · exact hmarkup
  · split
    · rename_i r hmode
      refine avoids_readStringPiece ?_ t
      rintro rfl
      exact hgoals (by simp [eq_of_mode_string hmode])
    · exact avoids_readTemplatePiece t
    · exact avoids_readChildrenPiece t
    · exact avoids_readTagPiece t
    · split
      · exact hquestion
      · split
        · exact hcode
        · exact hmarkup

end

theorem readMark_null {ms : List String} (hms : ∀ m ∈ ms, m.toList.head?.any (· ≠ '\x00'))
    (t : Text) : readMark ms ('\x00' :: t) = none := by
  rw [readMark, List.findSome?_eq_none_iff]
  intro m hm
  have hhead := hms m hm
  cases hchars : m.toList with
  | nil => simp [hchars] at hhead
  | cons c cs =>
    have hnull : c ≠ '\x00' := by simpa [hchars] using hhead
    simp [dropMark, hnull]

theorem readBehindBlanks_null {read : Text → Option (Token × Text)} {t : Text}
    (hread : read ('\x00' :: t) = none) : readBehindBlanks read ('\x00' :: t) = .unknown [] := by
  have hblank : isBlank '\x00' = false := by decide
  rw [readBehindBlanks, List.takeWhile_cons_of_neg (by simp [hblank]),
    List.dropWhile_cons_of_neg (by simp [hblank]), hread]
  rfl

theorem readMarkupComment_null (t : Text) : readMarkupComment ('\x00' :: t) = none := by
  have hspace : isSpace '\x00' = false := by decide
  rw [readMarkupComment]
  simp [hspace, dropMark]

theorem dropName_null (t : Text) : dropName ('\x00' :: t) = none := by
  rw [dropName]
  simp [isNameStart, isNamePart]

theorem readToken_null (regexAllowed : Bool) (t : Text) :
    readToken regexAllowed ('\x00' :: t) = none := by
  have hnumber : dropNumber ('\x00' :: t) = none := by
    simp [dropNumber, numberReadings, dropDigits, dropInteger, dropMark]
  have hmark : readMark marks ('\x00' :: t) = none := readMark_null (by decide) t
  rw [readToken.eq_def]
  simp only [dropName_null, hnumber, hmark]
  rfl

theorem readStringPiece_null {r : Char} (hr : r ≠ '\x00') (t : Text) :
    readStringPiece r ('\x00' :: t) = .unknown [] := by
  rw [readStringPiece.eq_def]
  dsimp only
  split
  · rename_i heq
    cases heq
  · rename_i heq
    cases heq
  · rename_i heq
    cases heq
    rw [if_neg (by simp)]
    exact readBehindBlanks_null (by simp [hr.symm])

theorem readChildrenPiece_null (t : Text) : readChildrenPiece ('\x00' :: t) = .unknown [] := by
  have htext : readMarkupText ('\x00' :: t) = none := by
    simp [readMarkupText]
  rw [readChildrenPiece, htext, readMarkupComment_null]
  exact readBehindBlanks_null (readMark_null (by decide) t)

theorem readTagPiece_null (t : Text) : readTagPiece ('\x00' :: t) = .unknown [] := by
  have hname : dropTagName ('\x00' :: t) = none := by
    rw [dropTagName, dropName_null]
  rw [readTagPiece, readMarkupComment_null]
  refine readBehindBlanks_null ?_
  simp only [hname]
  exact readMark_null (by decide) t

/-- Every reader is stuck at a null character. -/
theorem readPiece_null {goals : List Goal} (hgoals : stringBody '\x00' ∉ goals) (t : Text) :
    readPiece goals ('\x00' :: t) = .unknown [] := by
  have hcode (regexAllowed : Bool) :
      readBehindBlanks (readToken regexAllowed) ('\x00' :: t) = .unknown [] :=
    readBehindBlanks_null (readToken_null regexAllowed t)
  have hquestion : readQuestion ('\x00' :: t) = none := rfl
  rw [readPiece.eq_def]
  simp only [hcode, hquestion, readMarkupComment_null]
  split
  · rfl
  · rfl
  · split
    · rename_i r hmode
      refine readStringPiece_null ?_ t
      rintro rfl
      exact hgoals (by simp [eq_of_mode_string hmode])
    · rfl
    · exact readChildrenPiece_null t
    · exact readTagPiece_null t
    · split
      · rfl
      · split <;> rfl

end LicenseNotices.JavaScript
