import LicenseNotices.Text.Basic
import LicenseNotices.Failure

/-!
Sources of the C family are cut into lexemes: line comments, block comments,
literals in one of three quotes, and single characters. A lexeme is read from
the front of a text; it is never empty and what it was read from is its own
text followed by the rest.
-/
namespace LicenseNotices.CStyle

inductive Lexeme
  | lineComment (body : Text)
  | blockComment (body : Text)
  | literal (quote : Char) (content : Text)
  | other (c : Char)
  deriving DecidableEq, Repr

namespace Lexeme

/-- The source text of a lexeme. -/
def text : Lexeme → Text
  | lineComment body => '/' :: '/' :: body
  | blockComment body => '/' :: '*' :: body ++ ['*', '/']
  | literal quote content => quote :: content ++ [quote]
  | other c => [c]

theorem text_ne_nil (x : Lexeme) : x.text ≠ [] := by
  cases x <;> simp [text]

theorem length_text_pos (x : Lexeme) : 0 < x.text.length :=
  List.length_pos_iff.mpr x.text_ne_nil

end Lexeme

def isQuote (c : Char) : Bool := c = '\x22' || c = '\x27' || c = '\x60'

/-- Splits a text behind its first `*/`: the body before it and the rest. -/
def splitBlock : Text → Option (Text × Text)
  | [] => none
  | '*' :: '/' :: rest => some ([], rest)
  | c :: rest => (splitBlock rest).map fun (body, rest) => (c :: body, rest)

/-- Splits a text behind the quote that ends a literal. A backslash takes the
character behind it along; only a literal in backquotes may hold a bare line feed. -/
def splitLiteral (quote : Char) : Text → Option (Text × Text)
  | [] => none
  | '\\' :: [] => none
  | '\\' :: c :: rest =>
      (splitLiteral quote rest).map fun (content, rest) => ('\\' :: c :: content, rest)
  | c :: rest =>
      if c = '\n' ∧ quote ≠ '\x60' then none
      else if c = quote then some ([], rest)
      else (splitLiteral quote rest).map fun (content, rest) => (c :: content, rest)

theorem eq_append_of_splitBlock {t body rest : Text} (h : splitBlock t = some (body, rest)) :
    t = body ++ ['*', '/'] ++ rest := by
  fun_induction splitBlock t generalizing body rest with
  | case1 => simp at h
  | case2 rest' => simp_all
  | case3 c rest' _ ih =>
    obtain ⟨⟨b, r⟩, hr, heq⟩ := Option.map_eq_some_iff.mp h
    cases heq
    simp [ih hr]

theorem eq_append_of_splitLiteral {quote : Char} {t content rest : Text}
    (h : splitLiteral quote t = some (content, rest)) :
    t = content ++ [quote] ++ rest := by
  fun_induction splitLiteral quote t generalizing content rest with
  | case1 => simp at h
  | case2 => simp at h
  | case3 c rest' ih =>
    obtain ⟨⟨b, r⟩, hr, heq⟩ := Option.map_eq_some_iff.mp h
    cases heq
    simp [ih hr]
  | case4 => simp at h
  | case5 => simp_all
  | case6 c rest' _ _ _ _ ih =>
    obtain ⟨⟨b, r⟩, hr, heq⟩ := Option.map_eq_some_iff.mp h
    cases heq
    simp [ih hr]

/-- Reads one lexeme from the front of a text; nothing is left of an empty text. -/
def readLexeme : Text → Option (Except SourceFault (Lexeme × Text))
  | [] => none
  | '/' :: '/' :: rest =>
      some (.ok (.lineComment (rest.takeWhile (· ≠ '\n')), rest.dropWhile (· ≠ '\n')))
  | '/' :: '*' :: rest =>
      match splitBlock rest with
      | some (body, rest) => some (.ok (.blockComment body, rest))
      | none => some (.error .unterminatedComment)
  | c :: rest =>
      if isQuote c then
        match splitLiteral c rest with
        | some (content, rest) => some (.ok (.literal c content, rest))
        | none => some (.error .unterminatedLiteral)
      else some (.ok (.other c, rest))

theorem eq_append_of_readLexeme {t rest : Text} {x : Lexeme}
    (h : readLexeme t = some (.ok (x, rest))) : t = x.text ++ rest := by
  unfold readLexeme at h
  split at h
  · simp at h
  · simp only [Option.some.injEq, Except.ok.injEq, Prod.mk.injEq] at h
    obtain ⟨rfl, rfl⟩ := h
    simp [Lexeme.text]
  · split at h
    · rename_i hb
      simp only [Option.some.injEq, Except.ok.injEq, Prod.mk.injEq] at h
      obtain ⟨rfl, rfl⟩ := h
      simp [Lexeme.text, eq_append_of_splitBlock hb]
    · simp at h
  · split at h
    · split at h
      · rename_i hl
        simp only [Option.some.injEq, Except.ok.injEq, Prod.mk.injEq] at h
        obtain ⟨rfl, rfl⟩ := h
        simp [Lexeme.text, eq_append_of_splitLiteral hl]
      · simp at h
    · simp only [Option.some.injEq, Except.ok.injEq, Prod.mk.injEq] at h
      obtain ⟨rfl, rfl⟩ := h
      simp [Lexeme.text]

theorem length_lt_of_readLexeme {t rest : Text} {x : Lexeme}
    (h : readLexeme t = some (.ok (x, rest))) : rest.length < t.length := by
  have hpos := x.length_text_pos
  rw [eq_append_of_readLexeme h, List.length_append]
  omega

/-- The lexemes of a text up to its end or to the first fault. -/
def lexemes (t : Text) : List Lexeme × Option SourceFault :=
  match _h : readLexeme t with
  | none => ([], none)
  | some (.error fault) => ([], some fault)
  | some (.ok (x, rest)) =>
      let (later, fault) := lexemes rest
      (x :: later, fault)
termination_by t.length
decreasing_by exact length_lt_of_readLexeme ‹_›

end LicenseNotices.CStyle
