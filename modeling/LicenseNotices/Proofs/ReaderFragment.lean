import LicenseNotices.Proofs.CommonFragment
import LicenseNotices.Proofs.ReaderTrees
import LicenseNotices.Proofs.SoleReader

/-!
Readers of JavaScript on the fragment on which the grammars agree. A single reader moves from part
to part: between the parts it expects statements, and inside a literal it takes all characters up
to the quote as text. At the end it has seen the comments among the parts.
-/
namespace LicenseNotices.JavaScript

open CStyle Goal

/-- The stacks of goals between two statements of the outermost level. -/
def between : List (List Goal) := [[interpreterLine, statements, finish], [statements, finish]]

/-- The goal inside a literal with the quote. -/
def insideLiteral (q : Char) : Goal := if q = '\x60' then template else stringBody q

/-- The token that the quote is. -/
def quoteToken (q : Char) : Token := if q = '\x60' then .backquote else .quote q

/-- The token that the characters between the quotes are. -/
def contentToken (q : Char) : Token := if q = '\x60' then .templateText else .stringText

def behindLiteral : List Goal :=
  [operator {} .value, moreExpressions, semicolon, statements, finish]

theorem readGoals_between {goals : List Goal} (h : goals ∈ between) :
    readGoals .automaticSemicolon goals = [] ∧ readGoals (.mark "||") goals = [] ∧
      (readGoals .regex goals).isEmpty = false ∧ [] ∈ readGoals .endOfInput goals ∧
      readGoals (.mark ";") goals = [[statements, finish]] := by
  simp only [between, List.mem_cons, List.not_mem_nil, or_false] at h
  rcases h with rfl | rfl <;> decide +kernel

theorem quote_cases {q : Char} (h : isQuote q = true) :
    q = '\x22' ∨ q = '\x27' ∨ q = '\x60' := by
  simpa [isQuote, or_assoc] using h

theorem readGoals_quote {q : Char} (hq : isQuote q = true) {goals : List Goal}
    (h : goals ∈ between) :
    readGoals (quoteToken q) goals = [insideLiteral q :: behindLiteral] := by
  simp only [between, List.mem_cons, List.not_mem_nil, or_false] at h
  rcases quote_cases hq with rfl | rfl | rfl <;> rcases h with rfl | rfl <;> decide +kernel

theorem readGoals_insideLiteral {q : Char} (hq : isQuote q = true) :
    readGoals .automaticSemicolon (insideLiteral q :: behindLiteral) = [] ∧
      readGoals (contentToken q) (insideLiteral q :: behindLiteral) =
        [insideLiteral q :: behindLiteral] ∧
      readGoals (quoteToken q) (insideLiteral q :: behindLiteral) = [behindLiteral] := by
  rcases quote_cases hq with rfl | rfl | rfl <;> decide +kernel

theorem readGoals_behindLiteral : readGoals (.mark ";") behindLiteral = [[statements, finish]] ∧
    (readGoals (.mark "||") behindLiteral).isEmpty = false := by
  decide +kernel

theorem readToken_semicolon (regexAllowed : Bool) (t : Text) :
    readToken regexAllowed (';' :: t) = some (.mark ";", t) := by
  have hname : dropName (';' :: t) = none := by
    rw [dropName]
    simp [isNameStart, isNamePart, isPunctuation]
  have hnumber : dropNumber (';' :: t) = none := by
    simp [dropNumber, numberReadings, dropDigits, dropInteger, dropMark]
  have hmark : readMark marks (';' :: t) = some (.mark ";", t) := rfl
  rw [readToken.eq_def]
  simp only [hname, hnumber, hmark]
  rfl

theorem readToken_quote {q : Char} (hq : isQuote q = true) (regexAllowed : Bool) (t : Text) :
    readToken regexAllowed (q :: t) = some (quoteToken q, t) := by
  rcases quote_cases hq with rfl | rfl | rfl <;> rfl

/-- How a part of the fragment that is no blank begins. -/
def IsCommonStart (c : Char) : Prop := c = ';' ∨ c = '/' ∨ isQuote c = true

/-- Blanks are skipped up to the part behind them, by any class that tells them apart. -/
theorem skip_blanks {isSkipped : Char → Bool} {blanks u : Text}
    (hblanks : ∀ c ∈ blanks, IsCommonBlank c) (hu : ∀ c ∈ u.head?, IsCommonStart c)
    (hskipped : ∀ c, IsCommonBlank c → isSkipped c = true)
    (hkept : ∀ c, IsCommonStart c → isSkipped c = false) :
    (blanks ++ u).takeWhile isSkipped = blanks ∧ (blanks ++ u).dropWhile isSkipped = u :=
  cut_append (fun c hc => hskipped c (hblanks c hc)) fun c hc => hkept c (hu c hc)

theorem isBlank_common (c : Char) :
    (IsCommonBlank c → isBlank c = true ∧ isSpace c = true) ∧
      (IsCommonStart c → isBlank c = false ∧ isSpace c = false) := by
  constructor
  · rintro (rfl | rfl | rfl) <;> decide
  · rintro (rfl | rfl | hc)
    · decide
    · decide
    · rcases quote_cases hc with rfl | rfl | rfl <;> decide

theorem readMarkupComment_eq_none {blanks u : Text} (hblanks : ∀ c ∈ blanks, IsCommonBlank c)
    (hu : ∀ c ∈ u.head?, IsCommonStart c) : readMarkupComment (blanks ++ u) = none := by
  obtain ⟨-, hspace⟩ := skip_blanks hblanks hu (fun c hc => ((isBlank_common c).1 hc).2)
    (fun c hc => ((isBlank_common c).2 hc).2)
  have hmark (opener : Text) (hopener : ∀ c ∈ opener.head?, ¬ IsCommonStart c)
      (hne : opener ≠ []) : dropMark opener u = none := by
    rw [Option.eq_none_iff_forall_ne_some]
    intro rest hrest
    rw [(dropMark_eq_some_iff _ _ _).mp hrest, List.head?_append_of_ne_nil _ hne] at hu
    obtain ⟨c, hc⟩ := Option.isSome_iff_exists.mp (List.isSome_head?.mpr hne)
    exact hopener c hc (hu c hc)
  have hless : ∀ c ∈ ['<', '!', '-', '-'].head?, ¬ IsCommonStart c := by
    simp [IsCommonStart, isQuote]
  have hminus : ∀ c ∈ ['-', '-', '>'].head?, ¬ IsCommonStart c := by
    simp [IsCommonStart, isQuote]
  rw [readMarkupComment, hspace]
  simp only [hmark _ hless (by simp), hmark _ hminus (by simp)]
  rfl

/-- Between statements a comment or a token is read behind the blanks. -/
theorem readPiece_between {goals : List Goal} (hgoals : goals ∈ between) {blanks u : Text}
    (hblanks : ∀ c ∈ blanks, IsCommonBlank c) (hu : ∀ c ∈ u.head?, IsCommonStart c) :
    readPiece goals (blanks ++ u) =
      (readComment blanks u).getD (.ofToken blanks (readToken true u)) := by
  have hmarkup := readMarkupComment_eq_none hblanks hu
  obtain ⟨htake, hdrop⟩ := skip_blanks hblanks hu (fun c hc => ((isBlank_common c).1 hc).1)
    (fun c hc => ((isBlank_common c).2 hc).1)
  obtain ⟨hsemicolon, hor, hregex, -, -⟩ := readGoals_between hgoals
  have hcode (regexAllowed : Bool) : readBehindBlanks (readToken regexAllowed) (blanks ++ u) =
      (readComment blanks u).getD (.ofToken blanks (readToken regexAllowed u)) := by
    rw [readBehindBlanks, htake, hdrop]
  simp only [between, List.mem_cons, List.not_mem_nil, or_false] at hgoals
  rcases hgoals with rfl | rfl
  · rw [readPiece.eq_def]
    simp only [hdrop, hregex, hmarkup, hcode]
    split
    · have hstart := hu '#' rfl
      simp [IsCommonStart, isQuote] at hstart
    · rfl
  · have hmode : Goal.mode statements = .code := rfl
    rw [readPiece.eq_def]
    simp only [hmode, hor, hsemicolon, hregex, hmarkup, hcode]
    rfl

theorem ne_substitution {content : Text} (h : ¬ ['$', '\x7b'] <:+: content) (t rest : Text) :
    content ++ '\x60' :: t ≠ '$' :: '\x7b' :: rest := by
  intro heq
  match content with
  | [] => simp at heq
  | [c] => simp at heq
  | c :: d :: content =>
    simp only [List.cons_append, List.cons.injEq] at heq
    obtain ⟨rfl, rfl, -⟩ := heq
    exact h ⟨[], content, rfl⟩

theorem dropTemplateText_content {content : Text} (h : IsCommonContent '\x60' content) (t : Text) :
    dropTemplateText (content ++ '\x60' :: t) = '\x60' :: t := by
  have hsubstitution := h.substitution rfl
  have hplain := h.plain
  clear h
  induction content with
  | nil => simp [dropTemplateText]
  | cons c content ih =>
    obtain ⟨hquote, hescape, -, hnull⟩ := hplain c (by simp)
    have hrest := ih (fun h => hsubstitution (List.infix_cons h))
      fun d hd => hplain d (List.mem_cons_of_mem c hd)
    rw [List.cons_append, dropTemplateText]
    · simp [hquote, hescape, hnull, hrest]
    · rintro rest rfl heq
      exact ne_substitution hsubstitution t rest (by rw [List.cons_append, heq])

theorem readStringPiece_content {q : Char} {content : Text} (hne : content ≠ [])
    (hplain : ∀ c ∈ content, c ≠ q ∧ c ≠ '\\' ∧ c ≠ '\r' ∧ c ≠ '\n' ∧ c ≠ '\x00') (t : Text) :
    readStringPiece q (content ++ q :: t) = .token [] .stringText (q :: t) := by
  obtain ⟨c, rest, rfl⟩ := List.exists_cons_of_ne_nil hne
  obtain ⟨hquote, hescape, hreturn, hline, hnull⟩ := hplain c (by simp)
  have hrest : ∀ d ∈ rest,
      (!(d = q || d = '\\' || d = '\r' || d = '\n' || d = '\x00')) = true := by
    intro d hd
    obtain ⟨hquote, hescape, hreturn, hline, hnull⟩ := hplain d (List.mem_cons_of_mem c hd)
    simp [hquote, hescape, hreturn, hline, hnull]
  rw [List.cons_append, readStringPiece.eq_def]
  split
  · rename_i heq
    cases heq
  · rename_i heq
    cases heq
    exact absurd rfl hescape
  · rename_i heq
    cases heq
    rw [if_pos (by simp [hquote, hescape, hreturn, hline, hnull]),
      List.dropWhile_append_of_pos hrest]
    simp

theorem readTemplatePiece_content {content : Text} (hne : content ≠ [])
    (h : IsCommonContent '\x60' content) (t : Text) :
    readTemplatePiece (content ++ '\x60' :: t) = .token [] .templateText ('\x60' :: t) := by
  have hdrop := dropTemplateText_content h t
  obtain ⟨c, rest, rfl⟩ := List.exists_cons_of_ne_nil hne
  obtain ⟨hquote, hescape, -, hnull⟩ := h.plain c (by simp)
  rw [List.cons_append] at hdrop ⊢
  rw [readTemplatePiece.eq_def]
  split
  · rename_i heq
    cases heq
    exact absurd rfl hquote
  · rename_i heq
    exact absurd heq (ne_substitution (h.substitution rfl) t _)
  · rename_i heq
    cases heq
    exact absurd rfl hescape
  · rename_i heq
    cases heq
  · rename_i heq
    cases heq
    rw [if_neg hnull, hdrop]

theorem readPiece_insideLiteral_content {q : Char} (hq : isQuote q = true) {content : Text}
    (hne : content ≠ []) (h : IsCommonContent q content) (t : Text) :
    readPiece (insideLiteral q :: behindLiteral) (content ++ q :: t) =
      .token [] (contentToken q) (q :: t) := by
  have hstring (hline : q ≠ '\x60') :
      readStringPiece q (content ++ q :: t) = .token [] .stringText (q :: t) := by
    apply readStringPiece_content hne
    intro c hc
    obtain ⟨hquote, hescape, hreturn, hnull⟩ := h.plain c hc
    exact ⟨hquote, hescape, hreturn, fun heq => h.line hline (heq ▸ hc), hnull⟩
  rcases quote_cases hq with rfl | rfl | rfl
  · exact hstring (by decide)
  · exact hstring (by decide)
  · exact readTemplatePiece_content hne h t

theorem readPiece_insideLiteral_quote {q : Char} (hq : isQuote q = true) (t : Text) :
    readPiece (insideLiteral q :: behindLiteral) (q :: t) = .token [] (quoteToken q) t := by
  rcases quote_cases hq with rfl | rfl | rfl <;> rfl

theorem readPiece_behindLiteral (t : Text) :
    readPiece behindLiteral (';' :: t) = .token [] (.mark ";") t := by
  have hquestion : readQuestion (';' :: t) = none := rfl
  have hcode (regexAllowed : Bool) :
      readBehindBlanks (readToken regexAllowed) (';' :: t) = .token [] (.mark ";") t := by
    rw [readBehindBlanks]
    change (Piece.ofToken [] (readToken regexAllowed (';' :: t))) = _
    rw [readToken_semicolon]
    rfl
  have hor := readGoals_behindLiteral.2
  have hmode : Goal.mode (operator {} .value) = .code := rfl
  rw [behindLiteral] at hor
  rw [readPiece.eq_def, behindLiteral]
  simp only [hmode, hor, hquestion, hcode]
  rfl

theorem readComment_line (blanks : Text) {body t : Text} (hbody : IsCommonLine body)
    (hend : ∀ c ∈ t.head?, c = '\n') :
    readComment blanks ('/' :: '/' :: (body ++ t)) =
      some (.comment blanks .line ['/', '/'] body [] t) := by
  have hall : ∀ c ∈ body, (!isLineBreak c && decide (c ≠ '\x00')) = true := by
    intro c hc
    obtain ⟨hline, hreturn, hseparator, hparagraph, hnull⟩ := hbody c hc
    simp [isLineBreak, isLineFeed, hline, hreturn, hseparator, hparagraph, hnull]
  have hstop : ∀ c ∈ t.head?, (!isLineBreak c && decide (c ≠ '\x00')) = false := by
    intro c hc
    simp [hend c hc, isLineBreak, isLineFeed]
  obtain ⟨htake, hdrop⟩ := cut_append hall hstop
  rw [readComment, htake, hdrop]

theorem readComment_block (blanks : Text) {body : Text} (hbody : ¬ ['*', '/'] <:+: body)
    (hnull : '\x00' ∉ body) (t : Text) :
    readComment blanks ('/' :: '*' :: (body ++ ['*', '/'] ++ t)) =
      some (.comment blanks .block ['/', '*'] body ['*', '/'] t) := by
  have hsplit := (splitBlock_eq_some_iff _ body t).mpr ⟨rfl, hbody⟩
  rw [readComment, (splitBlockComment_eq_some_iff _ _ _).mpr ⟨hsplit, hnull⟩]
  rfl

/-- A token of the fragment is read behind blanks. -/
theorem readPiece_between_token {goals : List Goal} (hgoals : goals ∈ between) {blanks t : Text}
    (hblanks : ∀ c ∈ blanks, IsCommonBlank c) {c : Char} (hc : IsCommonStart c) (hslash : c ≠ '/')
    {token : Token} (htoken : readToken true (c :: t) = some (token, t)) :
    readPiece goals ((blanks ++ [c]) ++ t) = .token blanks token t := by
  have hcomment : readComment blanks (c :: t) = none := by
    rw [readComment.eq_def]
    split
    · rename_i heq
      cases heq
      exact absurd rfl hslash
    · rename_i heq
      cases heq
      exact absurd rfl hslash
    · rfl
  rw [List.append_assoc, List.singleton_append,
    readPiece_between hgoals hblanks (by simpa using hc), hcomment, htoken]
  rfl

theorem quoteToken_ne (q : Char) : quoteToken q ≠ .endOfInput := by
  rw [quoteToken]
  split <;> simp

theorem contentToken_ne (q : Char) : contentToken q ≠ .endOfInput := by
  rw [contentToken]
  split <;> simp

/-- A reader between statements arrives, whatever stands before the text and whatever blanks in
front of it, and sees the comments among the parts. -/
def ArrivesWith (t : Text) (xs : List Lexeme) : Prop :=
  ∀ goals ∈ between, ∀ before blanks : Text, (∀ c ∈ blanks, IsCommonBlank c) →
    ∀ (statement : ℕ) (seen : List (ℕ × ℕ)),
      Reader.Arrives ⟨goals, before.length, blanks ++ t, statement, seen⟩
        (seen.reverse ++ (spansFrom (before ++ blanks) xs).map Span.slice)

theorem ArrivesWith.arrives {t : Text} {xs : List Lexeme} (h : ArrivesWith t xs)
    {goals : List Goal} (hgoals : goals ∈ between) (before : Text) (statement : ℕ)
    (seen : List (ℕ × ℕ)) :
    Reader.Arrives ⟨goals, before.length, t, statement, seen⟩
      (seen.reverse ++ (spansFrom before xs).map Span.slice) := by
  have harrives := h goals hgoals before [] (by simp) statement seen
  rwa [List.append_nil] at harrives

theorem arrivesWith_nil : ArrivesWith [] [] := by
  intro goals hgoals before blanks hblanks statement seen
  obtain ⟨hclosed, -, -, hend, -⟩ := readGoals_between hgoals
  have hpiece : readPiece goals (blanks ++ []) = .token blanks .endOfInput [] := by
    rw [readPiece_between hgoals hblanks (by simp)]
    rfl
  have harrives : Reader.Arrives ⟨goals, before.length, blanks ++ [], statement, seen⟩
      seen.reverse := .atEnd hpiece hend hclosed
  simpa [spansFrom] using harrives

theorem ArrivesWith.blank {t : Text} {xs : List Lexeme} (h : ArrivesWith t xs) {c : Char}
    (hc : IsCommonBlank c) : ArrivesWith (c :: t) (.other c :: xs) := by
  intro goals hgoals before blanks hblanks statement seen
  have hlonger : ∀ d ∈ blanks ++ [c], IsCommonBlank d := by
    intro d hd
    rcases List.mem_append.mp hd with hd | hd
    · exact hblanks d hd
    · exact List.mem_singleton.mp hd ▸ hc
  have harrives := h goals hgoals before (blanks ++ [c]) hlonger statement seen
  rw [List.append_assoc, ← List.append_assoc before] at harrives
  exact harrives

theorem ArrivesWith.semicolon {t : Text} {xs : List Lexeme} (h : ArrivesWith t xs) :
    ArrivesWith (';' :: t) (.other ';' :: xs) := by
  intro goals hgoals before blanks hblanks statement seen
  obtain ⟨hclosed, -, -, -, hnext⟩ := readGoals_between hgoals
  have hpiece := readPiece_between_token hgoals hblanks (.inl rfl) (by decide)
    (readToken_semicolon true t)
  have hbehind := h.arrives (show [statements, finish] ∈ between by simp [between])
    (before ++ (blanks ++ [';']))
  rw [List.length_append] at hbehind
  have harrives :
      Reader.Arrives ⟨goals, before.length, (blanks ++ [';']) ++ t, statement, seen⟩ _ :=
    .token hpiece (by simp) hnext (by simp) (.inl hclosed) fun start => hbehind start seen
  rw [List.append_assoc, ← List.append_assoc before] at harrives
  exact harrives

theorem ArrivesWith.comment {t : Text} {xs : List Lexeme} (h : ArrivesWith t xs)
    {x : Lexeme} {kind : CommentKind} {opener body closer : Text}
    (hread : ∀ blanks, readComment blanks (x.text ++ t) =
      some (.comment blanks kind opener body closer t))
    (hspan : ∀ before after, x.span? before after =
      some ⟨before, kind, opener, body, closer, after⟩)
    (htext : x.text = opener ++ body ++ closer) (hopener : opener.head? = some '/') :
    ArrivesWith (x.text ++ t) (x :: xs) := by
  intro goals hgoals before blanks hblanks statement seen
  have hstart : ∀ c ∈ (x.text ++ t).head?, IsCommonStart c := by
    obtain ⟨rest, rfl⟩ := List.head?_eq_some_iff.mp hopener
    simp [htext, IsCommonStart]
  have hpiece : readPiece goals (blanks ++ (opener ++ body ++ closer) ++ t) =
      .comment blanks kind opener body closer t := by
    rw [← htext, List.append_assoc, readPiece_between hgoals hblanks hstart, hread]
    rfl
  have hne : opener ≠ [] := by
    rintro rfl
    cases hopener
  have hbehind := h.arrives hgoals (before ++ blanks ++ x.text) statement
  rw [htext, List.length_append, List.length_append] at hbehind
  have harrives : Reader.Arrives
      ⟨goals, before.length, blanks ++ (opener ++ body ++ closer) ++ t, statement, seen⟩ _ :=
    .comment hpiece hne (readGoals_between hgoals).1 (hbehind _)
  rw [spansFrom, hspan, ← List.append_assoc blanks, htext]
  simpa [Span.slice, Span.text, Nat.add_assoc] using harrives

/-- A literal with the semicolon behind it is read token by token. -/
theorem ArrivesWith.literal {t : Text} {xs : List Lexeme} (h : ArrivesWith t xs) {q : Char}
    (hq : isQuote q = true) {content : Text} (hcontent : IsCommonContent q content) :
    ArrivesWith (q :: content ++ [q, ';'] ++ t) (.literal q content :: .other ';' :: xs) := by
  intro goals hgoals before blanks hblanks statement seen
  obtain ⟨hclosed, htext, hquote⟩ := readGoals_insideLiteral hq
  have hstart := (readGoals_between hgoals).1
  have hpiece := readPiece_between_token hgoals hblanks (.inr (.inr hq))
    (ne_of_isQuote hq).2.2 (readToken_quote hq true (content ++ ([q] ++ ([';'] ++ t))))
  -- from behind the semicolon to the quote that opens the literal
  have hsemicolon (before : Text) (start : ℕ) : Reader.Arrives
      ⟨behindLiteral, before.length, [';'] ++ t, start, seen⟩
      (seen.reverse ++ (spansFrom (before ++ [';']) xs).map Span.slice) := by
    have hbehind := h.arrives (show [statements, finish] ∈ between by simp [between])
      (before ++ [';'])
    rw [List.length_append] at hbehind
    exact .token (readPiece_behindLiteral t) (by simp) readGoals_behindLiteral.1 (by simp)
      (.inr rfl) fun start => hbehind start seen
  have hend (before : Text) (start : ℕ) : Reader.Arrives
      ⟨insideLiteral q :: behindLiteral, before.length, [q] ++ ([';'] ++ t), start, seen⟩
      (seen.reverse ++ (spansFrom (before ++ [q] ++ [';']) xs).map Span.slice) := by
    have hbehind := hsemicolon (before ++ [q])
    rw [List.length_append] at hbehind
    exact .token (readPiece_insideLiteral_quote hq _) (by simp) hquote (quoteToken_ne q)
      (.inl hclosed) hbehind
  have hinside (before : Text) (start : ℕ) : Reader.Arrives
      ⟨insideLiteral q :: behindLiteral, before.length, content ++ ([q] ++ ([';'] ++ t)), start,
        seen⟩
      (seen.reverse ++ (spansFrom (before ++ content ++ [q] ++ [';']) xs).map Span.slice) := by
    by_cases hne : content = []
    · subst hne
      rw [List.append_nil]
      exact hend before start
    · have hbehind := hend (before ++ content)
      rw [List.length_append] at hbehind
      exact .token (readPiece_insideLiteral_content hq hne hcontent _) hne htext
        (contentToken_ne q) (.inl hclosed) hbehind
  have hopened := hinside (before ++ (blanks ++ [q]))
  rw [List.length_append] at hopened
  have harrives : Reader.Arrives ⟨goals, before.length,
      (blanks ++ [q]) ++ (content ++ ([q] ++ ([';'] ++ t))), statement, seen⟩ _ :=
    .token hpiece (by simp) (readGoals_quote hq hgoals) (quoteToken_ne q) (.inl hstart) hopened
  simpa [spansFrom, Lexeme.span?, Lexeme.text] using harrives

/-- A reader sees the comments among the parts of a source of the fragment. -/
theorem arrivesWith_of_isCommon {t : Text} {xs : List Lexeme} (h : IsCommon t xs) :
    ArrivesWith t xs := by
  induction h with
  | nil => exact arrivesWith_nil
  | blank hc ht ih => exact ih.blank hc
  | semicolon ht ih => exact ih.semicolon
  | @lineComment body t xs hbody hend ht ih =>
    have hread (blanks : Text) : readComment blanks ((Lexeme.lineComment body).text ++ t) =
        some (.comment blanks .line ['/', '/'] body [] t) := readComment_line blanks hbody hend
    exact ih.comment hread (fun _ _ => rfl) (by simp [Lexeme.text]) rfl
  | @blockComment body t xs hbody hnull ht ih =>
    have hread (blanks : Text) : readComment blanks ((Lexeme.blockComment body).text ++ t) =
        some (.comment blanks .block ['/', '*'] body ['*', '/'] t) :=
      readComment_block blanks hbody hnull t
    exact ih.comment hread (fun _ _ => rfl) (by simp [Lexeme.text]) rfl
  | literal hq hcontent ht ih => exact ih.literal hq hcontent

theorem commentSlices_of_isCommon {t : Text} {xs : List Lexeme} (h : IsCommon t xs) :
    commentSlices t = .ok ((spansFrom [] xs).map Span.slice) := by
  have hstart : (Reader.start t).Arrives ([] ++ (spansFrom [] xs).map Span.slice) :=
    (arrivesWith_of_isCommon h).arrives (by simp [between]) [] 0 []
  exact readAll_of_arrives hstart (Nat.le_refl t.length) 0

theorem readerParser_readsFragment : @Parser.ReadsFragment readerParser := by
  intro t xs h
  obtain ⟨hspans, -⟩ := h.lieBehind []
  rw [parse_readerParser, parseSource, commentSlices_of_isCommon h]
  exact ⟨rfl, shown_commentTree hspans⟩

end LicenseNotices.JavaScript
