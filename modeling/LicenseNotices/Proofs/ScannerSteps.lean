import LicenseNotices.Proofs.LexemeFaults
import Mathlib.Logic.Relation

/-!
The scanner of C-family sources with all the states it passes through. It looks at what is
ahead, reads one character at a time and keeps count of the characters, the lines and the
columns. From the place behind one lexeme it comes to the place behind the next, so it halts
on every source, with the comments or the error of that source.
-/
namespace LicenseNotices.CStyle

/-- What the scanner is reading: nothing in particular between two lexemes, otherwise a part of
a lexeme that started at a place. -/
inductive Mode
  | between
  | lineOpener (start : Position)
  | line (start : Position) (body : Text)
  | blockOpener (start : Position)
  | block (start : Position) (body : Text)
  | blockCloser (start : Position) (body : Text)
  | blockEnd (start : Position) (body : Text)
  | literal (start : Position) (quote : Char)
  | escape (start : Position) (quote : Char)
  deriving DecidableEq, Repr

/-- The scanner reads a character and goes on in a mode, closes a comment, or halts. -/
inductive Action
  | read (mode : Mode)
  | close (c : Comment)
  | finish
  | fail (fault : SourceFault) (start : Position)
  deriving DecidableEq, Repr

/-- What the scanner does at a place with the text ahead of it. -/
def Mode.action (place : Position) : Mode → Text → Action
  | between, [] => .finish
  | between, '/' :: '/' :: _ => .read (.lineOpener place)
  | between, '/' :: '*' :: _ => .read (.blockOpener place)
  | between, c :: _ => .read (if isQuote c then .literal place c else .between)
  | lineOpener start, _ => .read (.line start [])
  | line start body, [] => .close (.ofPosition .line body start)
  | line start body, c :: _ =>
      if c = '\n' then .close (.ofPosition .line body start)
      else .read (.line start (body ++ [c]))
  | blockOpener start, _ => .read (.block start [])
  | block start _, [] => .fail .unterminatedComment start
  | block start body, '*' :: '/' :: _ => .read (.blockCloser start body)
  | block start body, c :: _ => .read (.block start (body ++ [c]))
  | blockCloser start body, _ => .read (.blockEnd start body)
  | blockEnd start body, _ => .close (.ofPosition .block body start)
  | literal start _, [] => .fail .unterminatedLiteral start
  | literal start quote, c :: _ =>
      if c = '\n' ∧ quote ≠ '\x60' then .fail .unterminatedLiteral start
      else if c = '\\' then .read (.escape start quote)
      else .read (if c = quote then .between else .literal start quote)
  | escape start quote, _ => .read (.literal start quote)

/-- The characters that have been read, the place behind them and the comments that have been
closed. -/
structure Scanner where
  offset : ℕ := 0
  place : Position := {}
  comments : List Comment := []
  mode : Mode := .between
  deriving DecidableEq, Repr

inductive Move
  | moved (σ : Scanner)
  | halted (result : Except SourceError (List Comment))

namespace Scanner

def ahead (source : Text) (σ : Scanner) : Text := source.drop σ.offset

/-- Reads one more character, unless there is none. -/
def advance (source : Text) (σ : Scanner) : Scanner :=
  match σ.ahead source with
  | [] => σ
  | c :: _ => { σ with offset := σ.offset + 1, place := σ.place.next c }

def step (source : Text) (σ : Scanner) : Move :=
  match σ.mode.action σ.place (σ.ahead source) with
  | .read mode => .moved { σ.advance source with mode }
  | .close c => .moved { σ with comments := σ.comments ++ [c], mode := .between }
  | .finish => .halted (.ok σ.comments)
  | .fail fault start => .halted (.error ⟨fault, start⟩)

/-- The scanner comes from one state to another. -/
def Runs (source : Text) : Scanner → Scanner → Prop :=
  Relation.ReflTransGen fun σ τ => σ.step source = .moved τ

theorem Runs.refl (source : Text) (σ : Scanner) : Runs source σ σ := Relation.ReflTransGen.refl

theorem Runs.trans {source : Text} {σ τ υ : Scanner} (hσ : Runs source σ τ)
    (hτ : Runs source τ υ) : Runs source σ υ := Relation.ReflTransGen.trans hσ hτ

/-- The scanner comes to a state from the start of the source. -/
def Reached (source : Text) : Scanner → Prop := Runs source {}

/-- The scanner comes from a state to one in which it halts, with the comments that are closed by
then and the result. -/
def Halts (source : Text) (σ : Scanner) (cs : List Comment)
    (result : Except SourceError (List Comment)) : Prop :=
  ∃ τ, Runs source σ τ ∧ τ.comments = cs ∧ τ.step source = .halted result

theorem Runs.halts {source : Text} {σ τ : Scanner} {cs : List Comment}
    {result : Except SourceError (List Comment)} (h : Runs source σ τ)
    (hτ : Halts source τ cs result) : Halts source σ cs result := by
  obtain ⟨υ, hυ, hcomments, hresult⟩ := hτ
  exact ⟨υ, h.trans hυ, hcomments, hresult⟩

/-- The scanner that has read a text. -/
def behind (before : Text) (comments : List Comment) (mode : Mode) : Scanner where
  offset := before.length
  place := ({} : Position).advance before
  comments := comments
  mode := mode

section

variable {source before rest : Text} {cs : List Comment} {mode : Mode}

theorem ahead_behind (h : source = before ++ rest) :
    (behind before cs mode).ahead source = rest := by
  rw [h, ahead, behind, List.drop_left]

theorem advance_behind (h : source = before ++ rest) :
    (behind before cs mode).advance source = behind (before ++ rest.take 1) cs mode := by
  rw [advance, ahead_behind h]
  cases rest with
  | nil => rw [List.take_nil, List.append_nil]
  | cons c rest => simp [behind, Position.advance_append]

/-- All that a step does to a scanner that has read a part of the source. -/
theorem step_behind (h : source = before ++ rest) :
    (behind before cs mode).step source =
      match mode.action (({} : Position).advance before) rest with
      | .read next => .moved (behind (before ++ rest.take 1) cs next)
      | .close c => .moved (behind before (cs ++ [c]) .between)
      | .finish => .halted (.ok cs)
      | .fail fault start => .halted (.error ⟨fault, start⟩) := by
  rw [step, ahead_behind h, advance_behind h]
  rfl

/-- One character is read and a run goes on behind it. -/
theorem runs_read {c : Char} {next : Mode} {τ : Scanner} (h : source = before ++ c :: rest)
    (haction : mode.action (({} : Position).advance before) (c :: rest) = .read next)
    (hrest : Runs source (behind (before ++ [c]) cs next) τ) :
    Runs source (behind before cs mode) τ := by
  refine .head ?_ hrest
  rw [step_behind h, haction]
  rfl

/-- Two characters are read, the second whatever it is. -/
theorem runs_read_pair {c d : Char} {middle next : Mode} {τ : Scanner}
    (h : source = before ++ c :: d :: rest)
    (hfirst : mode.action (({} : Position).advance before) (c :: d :: rest) = .read middle)
    (hsecond : ∀ place t, middle.action place t = .read next)
    (hrest : Runs source (behind (before ++ [c, d]) cs next) τ) :
    Runs source (behind before cs mode) τ := by
  have hsource : source = before ++ [c] ++ d :: rest := by
    rw [h, List.append_assoc, List.singleton_append]
  refine runs_read h hfirst (runs_read hsource (hsecond _ _) ?_)
  rwa [List.append_assoc, List.singleton_append]

theorem runs_close (cs : List Comment) {c : Comment} (h : source = before ++ rest)
    (haction : mode.action (({} : Position).advance before) rest = .close c) :
    Runs source (behind before cs mode) (behind before (cs ++ [c]) .between) := by
  refine .single ?_
  rw [step_behind h, haction]

theorem runs_line {start : Position} {body s : Text} (hs : '\n' ∉ s)
    (h : source = before ++ (s ++ rest)) :
    Runs source (behind before cs (.line start body))
      (behind (before ++ s) cs (.line start (body ++ s))) := by
  induction s generalizing before body with
  | nil =>
    rw [List.append_nil, List.append_nil]
    exact .refl ..
  | cons c s ih =>
    rw [List.mem_cons, not_or] at hs
    refine runs_read h (if_neg (Ne.symm hs.1)) ?_
    have hsource : source = before ++ [c] ++ (s ++ rest) := by simpa using h
    have hrest := @ih (before ++ [c]) (body ++ [c]) hs.2 hsource
    simpa using hrest

/-- Within a block a character is read, whatever it is, unless the block is closed there. -/
theorem action_block {start place : Position} {body : Text} {c : Char} {t : Text}
    (h : ¬ ['*', '/'] <+: c :: t) :
    Mode.action place (.block start body) (c :: t) = .read (.block start (body ++ [c])) := by
  rw [Mode.action]
  rintro t rfl rfl
  exact h ⟨t, rfl⟩

theorem runs_block {start : Position} {body s : Text}
    (hs : ¬ ['*', '/'] <:+: s ++ rest.take 1) (h : source = before ++ (s ++ rest)) :
    Runs source (behind before cs (.block start body))
      (behind (before ++ s) cs (.block start (body ++ s))) := by
  induction s generalizing before body with
  | nil =>
    rw [List.append_nil, List.append_nil]
    exact .refl ..
  | cons c s ih =>
    rw [List.cons_append, List.infix_cons_iff, not_or] at hs
    have hclosed : ¬ ['*', '/'] <+: c :: (s ++ rest) := by
      intro hclose
      apply hs.1
      rw [List.cons_prefix_cons] at hclose ⊢
      refine ⟨hclose.1, ?_⟩
      cases s with
      | nil => cases rest <;> simpa using hclose.2
      | cons d s => simpa using hclose.2
    refine runs_read h (action_block hclosed) ?_
    have hsource : source = before ++ [c] ++ (s ++ rest) := by simpa using h
    have hrest := @ih (before ++ [c]) (body ++ [c]) hs.2 hsource
    simpa using hrest

theorem action_literal {place start : Position} {quote c : Char} {t : Text} (hescape : c ≠ '\\')
    (hline : c = '\n' → quote = '\x60') :
    Mode.action place (.literal start quote) (c :: t) =
      .read (if c = quote then .between else .literal start quote) := by
  have hnewline : ¬ (c = '\n' ∧ quote ≠ '\x60') := fun h => h.2 (hline h.1)
  rw [Mode.action, if_neg hnewline, if_neg hescape]

theorem runs_literal {start : Position} {quote : Char} {s : Text} (hs : IsContent quote s)
    (h : source = before ++ (s ++ rest)) :
    Runs source (behind before cs (.literal start quote))
      (behind (before ++ s) cs (.literal start quote)) := by
  induction hs generalizing before with
  | nil =>
    rw [List.append_nil]
    exact .refl ..
  | @escape t c _ ih =>
    refine runs_read_pair h rfl (fun _ _ => rfl) ?_
    have hsource : source = before ++ ['\\', c] ++ (t ++ rest) := by simpa using h
    simpa using ih hsource
  | @plain c t hquote hescape hline _ ih =>
    refine runs_read h (action_literal hescape hline) ?_
    rw [if_neg hquote]
    have hsource : source = before ++ [c] ++ (t ++ rest) := by simpa using h
    simpa using ih hsource

theorem action_other {place : Position} {c : Char} {t : Text}
    (h : c = '/' → t.head? ≠ some '/' ∧ t.head? ≠ some '*') :
    Mode.action place .between (c :: t) =
      .read (if isQuote c then .literal place c else .between) := by
  rw [Mode.action]
  · rintro t rfl rfl
    exact (h rfl).1 rfl
  · rintro t rfl rfl
    exact (h rfl).2 rfl

theorem action_quote {place : Position} {quote : Char} {t : Text} (h : isQuote quote = true) :
    Mode.action place .between (quote :: t) = .read (.literal place quote) := by
  rw [action_other fun heq => absurd heq (ne_of_isQuote h).2.2, if_pos h]

theorem not_infix_append_star {t : Text} (h : ¬ ['*', '/'] <:+: t) :
    ¬ ['*', '/'] <:+: t ++ ['*'] := by
  rw [List.infix_concat_iff, not_or]
  refine ⟨?_, h⟩
  rintro ⟨s, hs⟩
  have hlast := congrArg List.getLast? hs
  simp at hlast

/-- The scanner reads a lexeme that is ahead to its end and keeps it if it is a comment. -/
theorem runs_lexeme {x : Lexeme} (hfits : Fits x rest) (h : source = before ++ (x.text ++ rest)) :
    Runs source (behind before cs .between)
      (behind (before ++ x.text)
        (cs ++ (x.comment? (({} : Position).advance before)).toList) .between) := by
  set place := ({} : Position).advance before with hplace
  cases hfits with
  | @lineComment body _ hbody hrest =>
    have haction : ∀ p, Mode.action p (.line place body) rest =
        .close (.ofPosition .line body place) := by
      intro p
      cases rest with
      | nil => rfl
      | cons c rest => exact if_pos (hrest c rfl)
    have hsource : source = before ++ ['/', '/'] ++ (body ++ rest) := by
      simpa [Lexeme.text] using h
    refine runs_read_pair h rfl (fun _ _ => rfl) ?_
    refine (runs_line hbody hsource).trans ?_
    have hclose := runs_close cs (hsource.trans (List.append_assoc ..).symm) (haction _)
    simpa [Lexeme.text, Lexeme.comment?] using hclose
  | @blockComment body _ hbody =>
    have hsource : source = before ++ ['/', '*'] ++ (body ++ ('*' :: '/' :: rest)) := by
      simpa [Lexeme.text] using h
    have hcloser := hsource.trans (List.append_assoc ..).symm
    refine runs_read_pair (hsource.trans (List.append_assoc ..)) rfl (fun _ _ => rfl) ?_
    refine (runs_block (not_infix_append_star hbody) hsource).trans ?_
    refine runs_read_pair hcloser rfl (fun _ _ => rfl) ?_
    have hend : source = before ++ ['/', '*'] ++ body ++ ['*', '/'] ++ rest := by
      simpa using hcloser
    have haction : ∀ p, Mode.action p (.blockEnd place body) rest =
        .close (.ofPosition .block body place) := fun _ => rfl
    have hclose := runs_close cs hend (haction _)
    simpa [Lexeme.text, Lexeme.comment?] using hclose
  | @literal quote content _ hquote hcontent =>
    obtain ⟨hescape, hnewline, -⟩ := ne_of_isQuote hquote
    have hsource : source = before ++ [quote] ++ (content ++ quote :: rest) := by
      simpa [Lexeme.text] using h
    refine runs_read (hsource.trans (List.append_assoc ..)) (action_quote hquote) ?_
    refine (runs_literal hcontent hsource).trans ?_
    refine runs_read (hsource.trans (List.append_assoc ..).symm)
      (action_literal hescape fun heq => absurd heq hnewline) ?_
    rw [if_pos rfl]
    simpa [Lexeme.text, Lexeme.comment?] using Runs.refl ..
  | @other c _ hquote hopener =>
    refine runs_read h (action_other hopener) ?_
    rw [hquote]
    simpa [Lexeme.text, Lexeme.comment?] using Runs.refl ..

theorem halts_fail {fault : SourceFault} {start : Position} (h : source = before ++ rest)
    (haction : mode.action (({} : Position).advance before) rest = .fail fault start) :
    Halts source (behind before cs mode) cs (.error ⟨fault, start⟩) := by
  refine ⟨_, .refl .., rfl, ?_⟩
  rw [step_behind h, haction]

theorem halts_literal {start : Position} {quote : Char} {t : Text}
    (ht : splitLiteral quote t = none) (h : source = before ++ t) :
    Halts source (behind before cs (.literal start quote)) cs
      (.error ⟨.unterminatedLiteral, start⟩) := by
  fun_induction splitLiteral quote t generalizing before with
  | case1 => exact halts_fail h rfl
  | case2 =>
    -- Nothing is left to be read behind the backslash.
    have hsource : source = before ++ ['\\'] ++ [] := by simpa using h
    have hescape : Runs source (behind before cs (.literal start quote))
        (behind (before ++ ['\\']) cs (.escape start quote)) :=
      runs_read h rfl (.refl ..)
    have hend : (behind (before ++ ['\\']) cs (.escape start quote)).step source =
        .moved (behind (before ++ ['\\'] ++ []) cs (.literal start quote)) := step_behind hsource
    rw [List.append_nil] at hend
    exact (hescape.trans (.single hend)).halts (halts_fail hsource rfl)
  | case3 c rest ih =>
    have hsource : source = before ++ ['\\', c] ++ rest := by simpa using h
    have hhalts := ih (Option.map_eq_none_iff.mp ht) hsource
    exact (runs_read_pair h rfl (fun _ _ => rfl) (.refl ..)).halts hhalts
  | case4 c rest hend hpair hline => exact halts_fail h (if_pos hline)
  | case5 => cases ht
  | case6 c rest hend hpair hline hquote ih =>
    have hescape : c ≠ '\\' := by
      rintro rfl
      cases rest with
      | nil => exact hend rfl rfl
      | cons d rest => exact hpair d rest rfl rfl
    have hsource : source = before ++ [c] ++ rest := by simpa using h
    have haction (place : Position) : Mode.action place (.literal start quote) (c :: rest) =
        .read (.literal start quote) := by
      rw [action_literal hescape fun hc => not_not.mp fun hne => hline ⟨hc, hne⟩, if_neg hquote]
    exact (runs_read h (haction _) (.refl ..)).halts (ih (Option.map_eq_none_iff.mp ht) hsource)

/-- The scanner halts within what is not closed and tells where it opens. -/
theorem halts_unterminated (cs : List Comment) {fault : SourceFault} {t : Text}
    (hfault : Unterminated fault t) (h : source = before ++ t) :
    Halts source (behind before cs .between) cs
      (.error ⟨fault, ({} : Position).advance before⟩) := by
  cases hfault with
  | @comment t hclose =>
    have hsource : source = before ++ ['/', '*'] ++ (t ++ []) := by simpa using h
    refine (runs_read_pair h rfl (fun _ _ => rfl) (.refl ..)).halts ?_
    refine (runs_block (by simpa using hclose) hsource).halts ?_
    exact halts_fail (hsource.trans (List.append_assoc ..).symm) rfl
  | @literal quote t hquote hclose =>
    refine (runs_read h (action_quote hquote) (.refl ..)).halts ?_
    refine halts_literal ((splitLiteral_eq_none_iff hquote t).mpr hclose) ?_
    rw [h, List.append_assoc, List.singleton_append]

/-- Between two lexemes the scanner halts with what the lexemes ahead come to. -/
theorem halts_lexemes (before : Text) (cs : List Comment) {t : Text} (h : source = before ++ t) :
    Halts source (behind before cs .between)
      (cs ++ commentsFrom (({} : Position).advance before) (lexemes t).1)
      (match (lexemes t).2 with
        | none => .ok (cs ++ commentsFrom (({} : Position).advance before) (lexemes t).1)
        | some fault =>
          .error ⟨fault, positionBehind (({} : Position).advance before) (lexemes t).1⟩) := by
  fun_induction lexemes t generalizing before cs with
  | case1 t hread =>
    obtain rfl := eq_nil_of_readLexeme hread
    refine ⟨_, .refl .., ?_, ?_⟩
    · exact (List.append_nil cs).symm
    · rw [step_behind h]
      exact congrArg (fun cs => Move.halted (.ok cs)) (List.append_nil cs).symm
  | case2 t fault hread =>
    have hhalts := halts_unterminated cs ((readLexeme_eq_error_iff t fault).mp hread) h
    simpa [commentsFrom, positionBehind] using hhalts
  | case3 t x rest hread later fault hlater ih =>
    obtain ⟨rfl, hfits⟩ := (readLexeme_eq_ok_iff t rest x).mp hread
    refine (runs_lexeme hfits h).halts ?_
    have hsource : source = before ++ x.text ++ rest := by simpa using h
    have hhalts := ih (before ++ x.text)
      (cs ++ (x.comment? (({} : Position).advance before)).toList) hsource
    rw [hlater] at hhalts
    simpa [commentsFrom, positionBehind, Position.advance_append] using hhalts

end

/-- The scanner halts on every source, with its comments or its error. -/
theorem halts_comments (source : Text) :
    Halts source {} (commentsFrom {} (lexemes source).1) (CStyle.comments source) := by
  have hhalts := halts_lexemes [] [] (List.nil_append source).symm
  rw [CStyle.comments]
  split <;> simp_all [behind]

end Scanner

end LicenseNotices.CStyle
