import LicenseNotices.JavaScript.Grammar
import LicenseNotices.JavaScript.Semicolon
import LicenseNotices.JavaScript.SyntaxTree

/-!
A parser of JavaScript sources that looks for comments only. A reader is a stack of
goals at a place in the source, with the places of the comments seen so far. The
goals decide how the text in front is cut: where an operand is expected a slash
starts a regular expression, inside a template or a string almost everything is
text. Where the grammar leaves a choice there are several readers; all of them move
towards the end of the source, those with most left to read first, and readers that
have come to agree are joined. The tree has the comments of the first reader to
arrive, and no other nodes.
-/
namespace LicenseNotices.JavaScript

open Encoding

/-- What stands next in the text: blanks, then a comment or a token, then the rest. -/
inductive Piece
  | comment (blanks : Text) (kind : CommentKind) (opener body closer rest : Text)
  | token (blanks : Text) (t : Token) (rest : Text)
  | unknown (blanks : Text)

/-- A comment of the two ordinary styles. -/
def readComment (blanks : Text) : Text → Option Piece
  | '/' :: '/' :: rest =>
      let isBody (c : Char) : Bool := !isLineBreak c && c ≠ '\x00'
      some (.comment blanks .line ['/', '/'] (rest.takeWhile isBody) [] (rest.dropWhile isBody))
  | '/' :: '*' :: rest =>
      (splitBlockComment rest).map fun (body, rest) =>
        .comment blanks .block ['/', '*'] body ['*', '/'] rest
  | _ => none

/-- A comment between markup marks, which reaches to the end of its line. -/
def readMarkupComment (t : Text) : Option Piece :=
  let blanks := t.takeWhile isSpace
  let isBody (c : Char) : Bool := !isLineFeed c && c ≠ '\x00'
  let behind (opener : Text) : Option Piece :=
    (dropMark opener (t.dropWhile isSpace)).map fun rest =>
      .comment blanks .line opener (rest.takeWhile isBody) [] (rest.dropWhile isBody)
  (behind ['<', '!', '-', '-']).or (behind ['-', '-', '>'])

/-- A question mark that starts a conditional, not a chain or a fallback. -/
def readQuestion (t : Text) : Option Piece :=
  match t.dropWhile isSpace with
  | '?' :: rest =>
      let isConditional :=
        match rest with
        | '?' :: _ => false
        | '.' :: c :: _ => c.isDigit
        | ['.'] => false
        | _ => true
      if isConditional then some (.token (t.takeWhile isSpace) .question rest) else none
  | _ => none

def Piece.ofToken (blanks : Text) : Option (Token × Text) → Piece
  | some (t, rest) => .token blanks t rest
  | none => .unknown blanks

/-- A comment or a token behind blanks, by the given reader of tokens. -/
def readBehindBlanks (read : Text → Option (Token × Text)) (t : Text) : Piece :=
  let blanks := t.takeWhile isBlank
  let rest := t.dropWhile isBlank
  (readComment blanks rest).getD (.ofToken blanks (read rest))

def readStringPiece (q : Char) (t : Text) : Piece :=
  let isPlain (c : Char) : Bool :=
    !(c = q || c = '\\' || c = '\r' || c = '\n' || c = '\x00')
  match t with
  | [] => .unknown []
  | '\\' :: rest => .ofToken [] ((stringEscape rest).map fun rest => (.stringText, rest))
  | c :: rest =>
      if isPlain c then .token [] .stringText (rest.dropWhile isPlain)
      else readBehindBlanks (fun
        | c :: rest => if c = q then some (.quote q, rest) else none
        | [] => none) t

/-- The rest behind the characters of a template that stand for themselves. -/
def dropTemplateText : Text → Text
  | [] => []
  | '$' :: '\x7b' :: rest => '$' :: '\x7b' :: rest
  | c :: rest =>
      if c = '\x60' || c = '\\' || c = '\x00' then c :: rest else dropTemplateText rest

def readTemplatePiece (t : Text) : Piece :=
  match t with
  | '\x60' :: rest => .token [] .backquote rest
  | '$' :: '\x7b' :: rest => .token [] .substitution rest
  | '\\' :: rest => .ofToken [] ((stringEscape rest).map fun rest => (.templateText, rest))
  | [] => .unknown []
  | c :: _ => if c = '\x00' then .unknown [] else .token [] .templateText (dropTemplateText t)

/-- A character reference in markup, whose ampersand has been read. -/
def dropReference (t : Text) : Option Text :=
  let ended (rest : Text) : Option Text := dropMark [';'] rest
  let counted (limit : Nat) (p : Char → Bool) (t : Text) : Option Text :=
    let n := (t.takeWhile p).length
    if 0 < n ∧ n ≤ limit then ended (t.drop n) else none
  match t with
  | '#' :: 'x' :: rest | '#' :: 'X' :: rest => counted 6 isHex rest
  | '#' :: rest => counted 5 Char.isDigit rest
  | rest => counted 30 Char.isAlpha rest

/-- Text between markup tags; blanks that go with a line break are no text. -/
def readMarkupText (t : Text) : Option Text :=
  let isText (c : Char) : Bool := !("<>\x7b\x7d&\x00".toList.contains c)
  let step : Bool × Bool → Char → Bool × Bool := fun (seen, atBreak) c =>
    if c = '\n' then (seen, true)
    else
      let atBreak := atBreak && isSpace c
      (seen || !atBreak, atBreak)
  if ((t.takeWhile isText).foldl step (false, false)).1 then some (t.dropWhile isText) else none

def readChildrenPiece (t : Text) : Piece :=
  match readMarkupText t with
  | some rest => .token [] .markupText rest
  | none =>
    match readMarkupComment t with
    | some piece => piece
    | none => readBehindBlanks (fun
        | '&' :: rest => (dropReference rest).map fun rest => (.markupText, rest)
        | rest => readMark ["</", "<", "\x7b"] rest) t

/-- The rest behind a name in a tag, which may hold hyphens. -/
def dropTagName (t : Text) : Option Text :=
  let isStart (c : Char) : Bool := c.isAlpha || c = '_' || c = '$'
  let isPart (c : Char) : Bool := isStart c || c.isDigit || c = '-'
  let hyphened := if t.head?.any isStart then some (t.dropWhile isPart) else none
  match dropName t, hyphened with
  | some rest, some other => some (if other.length < rest.length then other else rest)
  | rest, _ => rest

/-- The rest behind a string in a tag. An ampersand that starts no reference takes the
character behind it along. -/
def dropTagString (q : Char) (t : Text) : Option Text :=
  match t with
  | [] => none
  | '&' :: c :: rest =>
      if c.isAlpha || c = '#' then
        match dropReference (c :: rest) with
        | some after => if after.length < rest.length + 1 then dropTagString q after else none
        | none => none
      else dropTagString q rest
  | c :: rest =>
      if c = q then some rest
      else if c = '\x00' || c = '&' then none
      else dropTagString q rest
termination_by t.length

def readTagPiece (t : Text) : Piece :=
  match readMarkupComment t with
  | some piece => piece
  | none => readBehindBlanks (fun t =>
      match t with
      | [] => none
      | c :: rest =>
          if c = '\x22' || c = '\x27' then
            (dropTagString c rest).map fun rest => (.markupString, rest)
          else match dropTagName t with
            | some rest => some (.name (String.ofList (consumed t rest)), rest)
            | none => readMark ["/>", ">", "\x7b", "=", ".", ":", "<"] t) t

/-- What stands next for a reader with the given goals. -/
def readPiece (goals : List Goal) (t : Text) : Piece :=
  let reads (token : Token) : Bool := !(readGoals token goals).isEmpty
  let code := readBehindBlanks (readToken (reads .regex))
  match goals with
  | [] => .unknown []
  | Goal.interpreterLine :: _ =>
      match t.dropWhile isBlank with
      | '#' :: '!' :: rest =>
          .token (t.takeWhile isBlank) .interpreterLine (rest.dropWhile (· ≠ '\n'))
      | _ => (readMarkupComment t).getD (code t)
  | g :: _ =>
      match g.mode with
      | .string q => readStringPiece q t
      | .template => readTemplatePiece t
      | .children => readChildrenPiece t
      | .tag => readTagPiece t
      | .code =>
          if reads (.mark "||") then (readQuestion t).getD (code t)
          else if reads .automaticSemicolon then code t
          else (readMarkupComment t).getD (code t)

/-- A stack of goals at a place in the source. -/
structure Reader where
  goals : List Goal
  /-- How many characters have been read. -/
  offset : Nat
  rest : Text
  /-- Where the current statement of the outermost level starts. -/
  statement : Nat
  /-- Where the comments seen so far start and end, the last one first. -/
  slices : List (Nat × Nat)
  deriving DecidableEq, Repr

namespace Reader

def start (source : Text) : Reader where
  goals := [.interpreterLine, .statements, .finish]
  offset := 0
  rest := source
  statement := 0
  slices := []

/-- Whether the reader stands between two statements of the outermost level. -/
def isBetween (r : Reader) : Bool :=
  r.goals = [.statements, .finish] || r.goals = [.interpreterLine, .statements, .finish]

/-- Where a reader that is stuck at `offset` puts the blame: on a closing bracket that
closes nothing, else on the start of the statement. -/
def blame (r : Reader) (offset : Nat) (t : Text) : Nat :=
  let closes := t.head?.any fun c => c = ')' || c = ']' || c = '\x7d'
  if r.isBetween || (closes && !r.goals.any Goal.awaitsBracket) then offset else r.statement

/-- The readers that stand behind a missing semicolon, if one may be left out here. -/
def behindSemicolon (r : Reader) : List Reader :=
  let branches := readGoals .automaticSemicolon r.goals
  let isCode := (r.goals.head?.map Goal.mode) = some .code
  if !isCode || branches.isEmpty then []
  else if semicolonAhead (readGoals (.mark "||") r.goals).isEmpty r.rest then
    (branches.filter fun goals => goals.length < r.goals.length).map fun goals => { r with goals }
  else []

/-- One step of a reader: the readers that follow it, or where it is stuck. -/
inductive Step
  | finished (slices : List (Nat × Nat))
  | moved (readers : List Reader)
  | stuck (offset : Nat)

/-- Reads one comment or token. -/
def readNext (r : Reader) : Step :=
  match readPiece r.goals r.rest with
  | .comment blanks _ opener body closer rest =>
      let start := r.offset + blanks.length
      let stop := start + (opener ++ body ++ closer).length
      .moved [{ r with offset := stop, rest, slices := (start, stop) :: r.slices }]
  | .unknown blanks =>
      .stuck (r.blame (r.offset + blanks.length) (r.rest.drop blanks.length))
  | .token blanks t rest =>
      let start := r.offset + blanks.length
      let branches := readGoals t r.goals
      if branches.isEmpty then .stuck (r.blame start (r.rest.drop blanks.length))
      else if t = .endOfInput && branches.contains [] then .finished r.slices.reverse
      else .moved (branches.map fun goals =>
        { r with
          goals, offset := r.offset + (consumed r.rest rest).length, rest
          statement := if r.isBetween then start else r.statement })

/-- The readers behind all semicolons that are left out at this place. -/
def settle (r : Reader) : List Reader :=
  let behind := (r.behindSemicolon).filter fun s => s.goals.length < r.goals.length
  if behind.isEmpty then [r]
  else behind.attach.flatMap fun ⟨s, _⟩ => settle s
termination_by r.goals.length
decreasing_by
  rename_i h
  simpa using (List.mem_filter.mp h).2

/-- One step of a reader, missing semicolons supplied. -/
def steps (r : Reader) : List Step := r.settle.map readNext

end Reader

/-- Adds a reader unless one with the same goals stands at the same place. -/
def addReader (rs : List Reader) (r : Reader) : List Reader :=
  if rs.any fun s => s.goals = r.goals && s.rest.length = r.rest.length then rs else rs ++ [r]

/-- Moves all readers to the end of the source. The count is the number of characters
that the readers next in turn have left; `blame` is where the last reader was stuck. -/
def readAll : Nat → Nat → List Reader → Except Nat (List (Nat × Nat))
  | left, blame, rs =>
      let turn := rs.filter fun r => r.rest.length = left
      let others := rs.filter fun r => r.rest.length < left
      let taken := turn.flatMap Reader.steps
      let finished := taken.findSome? fun
        | .finished slices => some slices
        | _ => none
      let moved := taken.flatMap fun
        | .moved readers => readers
        | _ => []
      let stuck := taken.findSome? fun
        | .stuck offset => some offset
        | _ => none
      match finished, left with
      | some slices, _ => .ok slices
      | none, 0 => .error (stuck.getD blame)
      | none, left + 1 =>
          let rs := moved.foldl addReader others
          if rs.isEmpty then .error (stuck.getD blame)
          else readAll left (stuck.getD blame) rs

/-- Where the comments of a JavaScript source start and end, or where the source is at fault. -/
def commentSlices (source : Text) : Except Nat (List (Nat × Nat)) :=
  readAll source.length 0 [Reader.start source]

/-- The type of a comment that starts at an offset. -/
def commentType (source : Text) (start : Nat) : String :=
  if (source.drop start).head? = some '/' then "comment" else "html_comment"

/-- The tree with a node for each of the comments. -/
def commentTree (source : Text) (slices : List (Nat × Nat)) : SyntaxTree :=
  .node { type := "program", extent := extentAt source 0 source.length }
    (slices.map fun slice =>
      .node { type := commentType source slice.1, extent := extentAt source slice.1 slice.2 } [])

/-- The tree with an error from an offset on. -/
def errorTree (source : Text) (start : Nat) : SyntaxTree :=
  .node { type := "program", extent := extentAt source 0 source.length }
    [.node { type := "ERROR", extent := extentAt source start source.length } []]

/-- The parse of a source by readers. -/
def parseSource (source : Text) : Parse :=
  match commentSlices source with
  | .ok slices => { hasError := false, tree := commentTree source slices }
  | .error start => { hasError := true, tree := errorTree source start }

/-- The parser that readers make. Bytes that are no text are no source. -/
@[reducible] def readerParser : Parser where
  parse bytes :=
    match Utf8.decode bytes with
    | .ok source => parseSource source
    | .error _ => { hasError := true, tree := errorTree [] 0 }

end LicenseNotices.JavaScript
