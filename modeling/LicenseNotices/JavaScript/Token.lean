import LicenseNotices.JavaScript.Character

/-!
Tokens of JavaScript sources. Each reader takes a token from the front of a text
and leaves the rest. Where two readings compete, the caller says which one the
grammar allows; among punctuation marks the longest wins.
-/
namespace LicenseNotices.JavaScript

inductive Token
  | name (word : String)
  | privateName
  | number
  | regex
  | quote (q : Char)
  | stringText
  | backquote
  | templateText
  | substitution
  | mark (m : String)
  | question
  | automaticSemicolon
  | markupText
  | markupString
  | interpreterLine
  | endOfInput
  deriving DecidableEq, Repr

/-- Whether a token is no quote shows in its constructor; no character is tried. -/
instance Token.decidableForallNeQuote (t : Token) : Decidable (∀ q, t ≠ .quote q) :=
  match t with
  | .quote q => .isFalse fun h => h q rfl
  | .name _ | .privateName | .number | .regex | .stringText | .backquote | .templateText
  | .substitution | .mark _ | .question | .automaticSemicolon | .markupText | .markupString
  | .interpreterLine | .endOfInput => .isTrue nofun

/-- Nor is one tried where a premise fails. -/
instance decidableForallImp {p : Prop} {P : Char → Prop} [Decidable p] [Decidable (∀ q, P q)] :
    Decidable (∀ q, p → P q) :=
  if hp : p then decidable_of_iff (∀ q, P q) (forall_congr' fun _ => (imp_iff_right hp).symm)
  else .isTrue fun _ h => absurd h hp

/-- What is left behind a prefix `p` of `t`, if it is one. -/
def dropMark (p t : Text) : Option Text :=
  if p.isPrefixOf t then some (t.drop p.length) else none

/-- The rest behind the `u` form of a character escape whose backslash has been read. -/
def unicodeEscape : Text → Option Text
  | 'u' :: '\x7b' :: rest =>
      match rest.span isHex with
      | (_ :: _, '\x7d' :: rest) => some rest
      | _ => none
  | 'u' :: a :: b :: c :: d :: rest =>
      if [a, b, c, d].all isHex then some rest else none
  | _ => none

/-- The rest behind an escape in a string, whose backslash has been read. -/
def stringEscape (t : Text) : Option Text :=
  match t with
  | [] => none
  | 'x' :: rest =>
      match rest with
      | a :: b :: rest => if isHex a && isHex b then some rest else none
      | _ => none
  | 'u' :: _ => unicodeEscape t
  | '\r' :: '\n' :: rest => some rest
  | c :: rest =>
      if isOctal c then
        some (rest.drop (min 2 (rest.takeWhile isOctal).length))
      else if c = '\x00' then none
      else some rest

/-- The rest behind the characters and escapes that continue a name. -/
def dropNameParts (t : Text) : Text :=
  match t with
  | [] => []
  | c :: rest =>
      if isNamePart c then dropNameParts rest
      else if c = '\\' then
        match unicodeEscape rest with
        | some after => if after.length < rest.length then dropNameParts after else t
        | none => t
      else t
termination_by t.length

/-- The rest behind a name, when the text starts with one. -/
def dropName (t : Text) : Option Text :=
  match t with
  | [] => none
  | c :: rest =>
      if isNameStart c then some (dropNameParts rest)
      else if c = '\\' then (unicodeEscape rest).map dropNameParts
      else none

/-- The text that was read when `rest` is left of `t`. -/
def consumed (t rest : Text) : Text := t.take (t.length - rest.length)

@[simp] theorem consumed_append (read rest : Text) : consumed (read ++ rest) rest = read := by
  simp [consumed]

/-- Digits of one class, with single underscores between them. -/
def dropDigits (isDigit : Char → Bool) : Text → Option Text
  | [] => none
  | c :: rest => if isDigit c then some (more rest) else none
where
  more : Text → Text
    | [] => []
    | '_' :: c :: rest => if isDigit c then more rest else '_' :: c :: rest
    | c :: rest => if isDigit c then more rest else c :: rest

def dropExponent (t : Text) : Option Text :=
  match t with
  | 'e' :: rest | 'E' :: rest =>
      match rest with
      | '+' :: rest | '-' :: rest => dropDigits Char.isDigit rest
      | _ => dropDigits Char.isDigit rest
  | _ => none

/-- The rest behind an optional part. -/
def skipOptional (drop : Text → Option Text) (t : Text) : Text := (drop t).getD t

/-- A whole decimal part as a fraction or an exponent may follow it: zero alone, or
digits that start with at most one zero. -/
def dropInteger (t : Text) : Option Text :=
  match t with
  | '0' :: c :: rest =>
      if c.isDigit && c ≠ '0' then some (skipOptional digitsBehind rest) else some (c :: rest)
  | '0' :: rest => some rest
  | c :: rest => if c.isDigit then some (skipOptional digitsBehind rest) else none
  | [] => none
where
  digitsBehind : Text → Option Text
    | '_' :: rest => dropDigits Char.isDigit rest
    | rest => dropDigits Char.isDigit rest

/-- The readings of a number; the longest one counts. -/
def numberReadings (t : Text) : List (Option Text) :=
  let based (marks : List Char) (isDigit : Char → Bool) : Option Text :=
    match t with
    | '0' :: m :: rest => if marks.contains m then dropDigits isDigit rest else none
    | _ => none
  let bigint (r : Option Text) : Option Text := r.bind (dropMark ['n'])
  let hex := based ['x', 'X'] isHex
  let octal := based ['o', 'O'] isOctal
  let binary := based ['b', 'B'] (fun c => c = '0' || c = '1')
  let decimal := dropDigits Char.isDigit t
  let fraction :=
    ((dropInteger t).bind (dropMark ['.'])).map fun rest =>
      skipOptional dropExponent (skipOptional (dropDigits Char.isDigit) rest)
  let bareFraction :=
    ((dropMark ['.'] t).bind (dropDigits Char.isDigit)).map (skipOptional dropExponent)
  let scientific := (dropInteger t).bind dropExponent
  [hex, octal, binary, decimal, fraction, bareFraction, scientific,
    bigint hex, bigint octal, bigint binary, bigint decimal]

def dropNumber (t : Text) : Option Text :=
  (numberReadings t).foldl (fun best r =>
    match best, r with
    | none, r => r
    | best, none => best
    | some best, some rest => some (if rest.length < best.length then rest else best)) none

/-- The rest behind a regular expression whose opening slash has been read. -/
def dropRegex (t : Text) : Option Text :=
  match t with
  | '/' :: _ => none
  | _ => (body t).map fun rest => rest.dropWhile fun c => 'a' ≤ c && c ≤ 'z'
where
  body : Text → Option Text
    | [] => none
    | '/' :: rest => some rest
    | '[' :: rest => classBody rest
    | '\\' :: c :: rest => if c = '\n' then none else body rest
    | c :: rest => if c = '\n' || c = '\\' || c = '\x00' then none else body rest
  classBody : Text → Option Text
    | [] => none
    | ']' :: rest => body rest
    | '\\' :: c :: rest => if c = '\n' then none else classBody rest
    | c :: rest => if c = '\n' || c = '\\' || c = '\x00' then none else classBody rest

/-- Splits the text behind a block comment's opener at the first `*/`. -/
def splitBlockComment : Text → Option (Text × Text)
  | [] => none
  | '*' :: '/' :: rest => some ([], rest)
  | c :: rest =>
      if c = '\x00' then none
      else (splitBlockComment rest).map fun (body, rest) => (c :: body, rest)

def marks : List String :=
  [">>>=", "...", "===", "!==", "**=", "<<=", ">>=", ">>>", "&&=", "||=", "??=", "=>", "==",
    "!=", "<=", ">=", "&&", "||", "??", "?.", "++", "--", "+=", "-=", "*=", "/=", "%=", "&=",
    "|=", "^=", "<<", ">>", "**", "\x7b", "\x7d", "(", ")", "[", "]", ";", ",", "<", ">", "+",
    "-", "*", "/", "%", "&", "|", "^", "!", "~", "=", ".", ":", "@"]

/-- The longest mark at the front. -/
def readMark (ms : List String) (t : Text) : Option (Token × Text) :=
  ms.findSome? fun m => (dropMark m.toList t).map fun rest => (.mark m, rest)

/-- A token of ordinary code, no blanks or comments before it. -/
def readToken (regexAllowed : Bool) (t : Text) : Option (Token × Text) :=
  match t with
  | [] => some (.endOfInput, [])
  | '/' :: rest =>
      match if regexAllowed then dropRegex rest else none with
      | some rest => some (.regex, rest)
      | none => readMark marks t
  | '#' :: rest => (dropName rest).map fun rest => (.privateName, rest)
  | c :: rest =>
      if c = '\x22' || c = '\x27' then some (.quote c, rest)
      else if c = '\x60' then some (.backquote, rest)
      else match dropName t with
        | some rest => some (.name (String.ofList (consumed t rest)), rest)
        | none =>
          match dropNumber t with
          | some rest => some (.number, rest)
          | none => readMark marks t

end LicenseNotices.JavaScript
