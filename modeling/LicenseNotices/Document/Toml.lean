import LicenseNotices.Document.Rest
import LicenseNotices.Document.TomlTable

/-!
Documents in TOML: statements, one a line, that open a table or give a value to a
key in the table that was opened last. A fault is reported at the character
where reading cannot go on. The two characters that end a line elsewhere are
read as one line feed.
-/
namespace LicenseNotices.Document.Toml

inductive Fault
  | invalidStatement
  | expectedLineEnd
  | expected (terminator : Text)
  | invalidCharacter (c : Char)
  | illegalCharacter (c : Char)
  | declaredTwice (key : Key)
  | immutable (key : Key)
  | redefined (key : Key)
  | overwritten
  | duplicateKey (name : Text)
  | unclosedHeader
  | unclosedListHeader
  | expectedEquals
  | invalidKeyStart
  | unclosedArray
  | unclosedTable
  | unescapedBackslash
  | invalidHex
  | noScalarValue
  | unterminatedString
  | invalidDate
  | invalidValue
  deriving DecidableEq, Repr

namespace Fault

def message : Fault → String
  | invalidStatement => "Invalid statement"
  | expectedLineEnd => "Expected newline or end of document after a statement"
  | expected terminator => "Expected " ++ String.ofList (Text.quoted terminator)
  | invalidCharacter c => "Found invalid character " ++ String.ofList (Text.quoted [c])
  | illegalCharacter c => "Illegal character " ++ String.ofList (Text.quoted [c])
  | declaredTwice key => "Cannot declare " ++ keyText key ++ " twice"
  | immutable key => "Cannot mutate immutable namespace " ++ keyText key
  | redefined key => "Cannot redefine namespace " ++ keyText key
  | overwritten => "Cannot overwrite a value"
  | duplicateKey name => "Duplicate inline table key " ++ String.ofList (Text.quoted name)
  | unclosedHeader => "Expected ']' at the end of a table declaration"
  | unclosedListHeader => "Expected ']]' at the end of an array declaration"
  | expectedEquals => "Expected '=' after a key in a key/value pair"
  | invalidKeyStart => "Invalid initial character for a key part"
  | unclosedArray => "Unclosed array"
  | unclosedTable => "Unclosed inline table"
  | unescapedBackslash => "Unescaped '\\' in a string"
  | invalidHex => "Invalid hex value"
  | noScalarValue => "Escaped character is not a Unicode scalar value"
  | unterminatedString => "Unterminated string"
  | invalidDate => "Invalid date or datetime"
  | invalidValue => "Invalid value"

end Fault

/-- Why a text is not read: a fault at an offset, a number with too many digits, or a value
inside too many others. -/
inductive Error
  | malformed (fault : Fault) (offset : Nat)
  | tooManyDigits (count : Nat)
  | tooDeep
  deriving DecidableEq, Repr

/-- The text with the two characters of a line ending replaced by a line feed. -/
def joinLineEnds : Text → Text
  | [] => []
  | '\r' :: '\n' :: rest => '\n' :: joinLineEnds rest
  | c :: rest => c :: joinLineEnds rest

namespace Error

/-- The message; the offset counts in the text with joined line ends. -/
def message (source : Text) : Error → String
  | malformed fault offset =>
      let source := joinLineEnds source
      let place :=
        if source.length ≤ offset then "end of document"
        else
          let (line, column) := lineAndColumn source offset
          s!"line {line}, column {column}"
      s!"{fault.message} (at {place})"
  | tooManyDigits count => Text.tooManyDigitsMessage count
  | tooDeep => "maximum recursion depth exceeded"

end Error

abbrev Outcome (α : Type) := Except Error α

def fault {α : Type} (r : Rest) (f : Fault) : Outcome α := .error (.malformed f r.offset)

def isBlank (c : Char) : Bool := c = ' ' || c = '\t'

def skipBlanks : Rest → Rest := Rest.skipWhile isBlank

/-- Control characters other than the tab. -/
def isControl (c : Char) : Bool := (c.toNat < 32 && c ≠ '\t') || c.toNat = 127

def startsWith (r : Rest) (t : Text) : Bool := t.isPrefixOf r.text

/-- How many characters stand before the first copy of a text. -/
def indexOf (t : Text) : Text → Option Nat
  | [] => if t.isEmpty then some 0 else none
  | c :: rest => if t.isPrefixOf (c :: rest) then some 0 else (indexOf t rest).map (· + 1)

/-- The text up to a terminator, which is not taken. No character of it may be refused. -/
def readUntil (terminator : Text) (refused : Char → Bool) (r : Rest) : Outcome (Text × Rest) :=
  match indexOf terminator r.text with
  | none => fault (r.drop r.text.length) (.expected terminator)
  | some n =>
      let read := r.text.take n
      match read.findIdx? refused with
      | some i => fault (r.drop i) (.invalidCharacter (read.getD i ' '))
      | none => .ok (read, r.drop n)

def skipComment (r : Rest) : Outcome Rest :=
  match r.text with
  | '#' :: rest =>
      let read := rest.takeWhile (· ≠ '\n')
      match read.findIdx? isControl with
      | some i => fault (r.drop (i + 1)) (.invalidCharacter (read.getD i ' '))
      | none => .ok (r.drop (read.length + 1))
  | _ => .ok r

/-- The rest behind blanks, line ends and comments. -/
def skipFiller : Nat → Rest → Outcome Rest
  | 0, r => .ok r
  | limit + 1, r => do
      let behind ← skipComment (Rest.skipWhile (fun c => isBlank c || c = '\n') r)
      if behind.offset = r.offset then return r else skipFiller limit behind

/-- A character by its code point in so many hexadecimal digits. -/
def readHex (count : Nat) (r : Rest) : Outcome (Text × Rest) :=
  match hexNumber? count r.text with
  | some n =>
      if n.isValidChar then .ok ([Char.ofNat n], r.drop count)
      else fault (r.drop count) .noScalarValue
  | none => fault r .invalidHex

/-- What a backslash stands for; it is next. -/
def readEscape (isMultiline : Bool) (r : Rest) : Outcome (Text × Rest) :=
  let behind := r.drop 2
  match r.text with
  | '\\' :: c :: _ =>
      if isMultiline && c = '\n' then
        .ok ([], Rest.skipWhile (fun c => isBlank c || c = '\n') behind)
      else if isMultiline && isBlank c then
        let behind := skipBlanks behind
        match behind.text with
        | [] => .ok ([], behind)
        | '\n' :: _ => .ok ([], Rest.skipWhile (fun c => isBlank c || c = '\n') behind)
        | _ => fault behind .unescapedBackslash
      else
        match c with
        | 'b' => .ok (['\x08'], behind)
        | 't' => .ok (['\t'], behind)
        | 'n' => .ok (['\n'], behind)
        | 'f' => .ok (['\x0c'], behind)
        | 'r' => .ok (['\r'], behind)
        | '\x22' => .ok (['\x22'], behind)
        | '\\' => .ok (['\\'], behind)
        | 'u' => readHex 4 behind
        | 'U' => readHex 8 behind
        | _ => fault behind .unescapedBackslash
  | _ => fault (r.drop 2) .unescapedBackslash

/-- A string with escapes, from behind its opening quotes to behind its closing ones. -/
def readBasic (isMultiline : Bool) : Nat → Text → Rest → Outcome (Text × Rest)
  | 0, _, r => fault r .unterminatedString
  | limit + 1, read, r =>
      match r.text with
      | [] => fault r .unterminatedString
      | '\x22' :: _ =>
          if !isMultiline then .ok (read.reverse, r.drop 1)
          else if startsWith r ['\x22', '\x22', '\x22'] then .ok (read.reverse, r.drop 3)
          else readBasic isMultiline limit ('\x22' :: read) (r.drop 1)
      | '\\' :: _ => do
          let (t, r) ← readEscape isMultiline r
          readBasic isMultiline limit (t.reverse ++ read) r
      | c :: _ =>
          if isControl c && !(isMultiline && c = '\n') then fault r (.illegalCharacter c)
          else readBasic isMultiline limit (c :: read) (r.drop 1)

/-- A string without escapes, from its opening quote on. -/
def readLiteral (r : Rest) : Outcome (Text × Rest) := do
  let (t, r) ← readUntil ['\x27'] isControl (r.drop 1)
  return (t, r.drop 1)

/-- Up to two quotes more belong to a string of several lines. -/
def takeQuotes (quote : Char) (t : Text) (r : Rest) : Text × Rest :=
  match r.text with
  | c :: d :: _ =>
      if c = quote then
        if d = quote then (t ++ [quote, quote], r.drop 2) else (t ++ [quote], r.drop 1)
      else (t, r)
  | [c] => if c = quote then (t ++ [quote], r.drop 1) else (t, r)
  | [] => (t, r)

/-- A string of several lines, from its opening quotes on. -/
def readMultiline (quote : Char) (r : Rest) : Outcome (Text × Rest) := do
  let r := r.drop 3
  let r := if r.text.head? = some '\n' then r.drop 1 else r
  if quote = '\x27' then
    let (t, r) ← readUntil ['\x27', '\x27', '\x27'] (fun c => isControl c && c ≠ '\n') r
    return takeQuotes quote t (r.drop 3)
  else
    let (t, r) ← readBasic true (r.text.length + 1) [] r
    return takeQuotes quote t r

def isBareKeyChar (c : Char) : Bool := c.isAlphanum || c = '-' || c = '_'

def readKeyPart (r : Rest) : Outcome (Text × Rest) :=
  match r.text with
  | '\x27' :: _ => readLiteral r
  | '\x22' :: rest => readBasic false (rest.length + 1) [] (r.drop 1)
  | c :: _ =>
      if isBareKeyChar c then
        let part := r.text.takeWhile isBareKeyChar
        .ok (part, r.drop part.length)
      else fault r .invalidKeyStart
  | [] => fault r .invalidKeyStart

/-- The further parts of a key; the dots between them are next. -/
def readKeyParts : Nat → Key → Rest → Outcome (Key × Rest)
  | 0, read, r => .ok (read, r)
  | limit + 1, read, r =>
      match r.text with
      | '.' :: _ => do
          let (part, r) ← readKeyPart (skipBlanks (r.drop 1))
          readKeyParts limit (read ++ [part]) (skipBlanks r)
      | _ => .ok (read, r)

def readKey (r : Rest) : Outcome (Key × Rest) := do
  let (part, r) ← readKeyPart r
  readKeyParts (r.text.length + 1) [part] (skipBlanks r)

/-- The value of so many decimal digits at the front. -/
def digits? (count : Nat) (t : Text) : Option Nat :=
  let digits := t.take count
  if digits.length = count ∧ digits.all Char.isDigit then some (digitsNumber 10 digits) else none

/-- A time of day at the front, and its length. Of a fraction six digits count. -/
def timeAt? (t : Text) : Option (TimeOfDay × Nat) :=
  match digits? 2 t, t.getD 2 ' ', digits? 2 (t.drop 3), t.getD 5 ' ', digits? 2 (t.drop 6) with
  | some hour, ':', some minute, ':', some second =>
      if hour < 24 ∧ minute < 60 ∧ second < 60 then
        let fraction := match t.drop 8 with
          | '.' :: rest => digitsOf rest
          | _ => []
        let kept := fraction.take 6
        let microsecond := digitsNumber 10 (kept ++ List.replicate (6 - kept.length) '0')
        some (⟨hour, minute, second, microsecond⟩,
          8 + if fraction.isEmpty then 0 else fraction.length + 1)
      else none
  | _, _, _, _, _ => none

/-- An offset from universal time at the front, in minutes, and its length. -/
def offsetAt? (t : Text) : Option (Int × Nat) :=
  match t with
  | 'Z' :: _ | 'z' :: _ => some (0, 1)
  | sign :: rest =>
      match digits? 2 rest, rest.getD 2 ' ', digits? 2 (rest.drop 3) with
      | some hours, ':', some minutes =>
          if (sign = '+' ∨ sign = '-') ∧ hours < 24 ∧ minutes < 60 then
            let total : Int := hours * 60 + minutes
            some (if sign = '-' then -total else total, 6)
          else none
      | _, _, _ => none
  | [] => none

/-- A date at the front whose month and day are in range, ten characters long. -/
def dateAt? (t : Text) : Option Date :=
  match digits? 4 t, t.getD 4 ' ', digits? 2 (t.drop 5), t.getD 7 ' ', digits? 2 (t.drop 8) with
  | some year, '-', some month, '-', some day =>
      if 1 ≤ month ∧ month ≤ 12 ∧ 1 ≤ day ∧ day ≤ 31 then some ⟨year, month, day⟩ else none
  | _, _, _, _, _ => none

/-- A date at the front, with the time behind it if there is one, and their length. -/
def momentAt? (t : Text) : Option (Moment × Nat) :=
  match dateAt? t with
  | none => (timeAt? t).map fun (time, length) => (.time time, length)
  | some date =>
      let separator := t.getD 10 'x'
      let time := if separator = 'T' ∨ separator = 't' ∨ separator = ' ' then timeAt? (t.drop 11)
        else none
      match time with
      | none => some (.date date, 10)
      | some (time, length) =>
          match offsetAt? (t.drop (11 + length)) with
          | some (offset, more) => some (.both date time (some offset), 11 + length + more)
          | none => some (.both date time none, 11 + length)

def isOnCalendar : Moment → Bool
  | .date d | .both d _ _ => d.isValid
  | .time _ => true

/-- Digits of a class with single low lines between them: their number of characters. -/
def groupedLength (p : Char → Bool) : Text → Nat
  | [] => 0
  | '_' :: d :: rest => if p d then groupedLength p rest + 2 else 0
  | c :: rest => if p c then groupedLength p rest + 1 else 0

/-- Grouped digits at the front; the first may not be a low line. -/
def groupedAt (p : Char → Bool) (t : Text) : Text :=
  if t.head?.any p then t.take (groupedLength p t) else []

def plainDigits (t : Text) : Text := t.filter (· ≠ '_')

/-- A whole number with a mark for its base at the front, and its length. -/
def basedAt? (t : Text) : Option (Nat × Nat) :=
  let read (base : Nat) (p : Char → Bool) (rest : Text) : Option (Nat × Nat) :=
    let digits := groupedAt p rest
    if digits.isEmpty then none
    else some (digitsNumber base (plainDigits digits), digits.length + 2)
  match t with
  | '0' :: 'x' :: rest =>
      read 16 isHexDigit rest
  | '0' :: 'o' :: rest => read 8 (fun c => '0' ≤ c && c ≤ '7') rest
  | '0' :: 'b' :: rest => read 2 (fun c => c = '0' || c = '1') rest
  | _ => none

/-- A number in base ten at the front, if there is one. -/
def decimalAt? (r : Rest) : Option (Outcome (Value × Rest)) :=
  let digitsAt := groupedAt Char.isDigit
  let negative := r.text.head? = some '-'
  let isSigned := negative || r.text.head? = some '+'
  let unsigned := if isSigned then r.drop 1 else r
  let whole := wholeAt digitsAt unsigned.text
  if whole.isEmpty then none
  else
    let behind := unsigned.drop whole.length
    let fraction := fractionAt digitsAt behind.text
    let behind := if fraction.isEmpty then behind else behind.drop (fraction.length + 1)
    let exponent := exponentAt? digitsAt behind.text
    let behind := behind.drop ((exponent.map Exponent.length).getD 0)
    let wholeDigits := plainDigits whole
    if fraction.isEmpty && exponent.isNone then
      if Text.integerDigitLimit < wholeDigits.length then
        some (.error (.tooManyDigits wholeDigits.length))
      else
        let n : Int := digitsNumber 10 wholeDigits
        some (.ok (.integer (if negative then -n else n), behind))
    else
      let fractionDigits := plainDigits fraction
      let power : Int := match exponent with
        | some x =>
            let n : Int := digitsNumber 10 (plainDigits x.digits)
            if x.isMinus then -n else n
        | none => 0
      let x := Binary64.ofDecimal negative (digitsNumber 10 (wholeDigits ++ fractionDigits))
        (power - fractionDigits.length)
      some (.ok (.float x, behind))

/-- The numbers that are written as words. -/
def words : List (Text × Binary64) :=
  [("inf".toList, .infinity false), ("+inf".toList, .infinity false),
    ("-inf".toList, .infinity true), ("nan".toList, .nan), ("+nan".toList, .nan),
    ("-nan".toList, .nan true)]

/-- A moment or a number at the front. -/
def readPlain (r : Rest) : Outcome (Value × Rest) :=
  match momentAt? r.text with
  | some (m, length) =>
      if isOnCalendar m then .ok (.moment m, r.drop length) else fault r .invalidDate
  | none =>
      match basedAt? r.text with
      | some (n, length) => .ok (.integer n, r.drop length)
      | none =>
          match decimalAt? r with
          | some answer => answer
          | none =>
              match words.findSome? fun (word, x) => (r.dropText? word).map fun r => (x, r) with
              | some (x, r) => .ok (.float x, r)
              | none => fault r .invalidValue

def isContainer : Value → Bool
  | .list _ | .table _ => true
  | _ => false

/-- A value that holds no others. -/
def readScalar (r : Rest) : Outcome (Value × Rest) :=
  match r.text with
  | '\x22' :: rest =>
      (if startsWith r ['\x22', '\x22', '\x22'] then readMultiline '\x22' r
      else readBasic false (rest.length + 1) [] (r.drop 1)).map fun (t, r) => (.text t, r)
  | '\x27' :: _ =>
      (if startsWith r ['\x27', '\x27', '\x27'] then readMultiline '\x27' r
      else readLiteral r).map fun (t, r) => (.text t, r)
  | _ =>
      match r.dropText? "true".toList, r.dropText? "false".toList with
      | some r, _ => .ok (.boolean true, r)
      | none, some r => .ok (.boolean false, r)
      | none, none => readPlain r

/-- The number of calls that are open while the items of an array are read. -/
def arrayCalls : Nat := 2

/-- The number of calls that are open while the values of a table in braces are read. -/
def tableCalls : Nat := 3

section

variable [NestingLimits]

mutual

/-- A value that is read while `calls` calls are open. -/
def readValue (calls : Nat) : Nat → Rest → Outcome (Value × Rest)
  | 0, r => fault r .invalidValue
  | limit + 1, r =>
      match r.text with
      | '[' :: _ =>
          if NestingLimits.toml < calls + arrayCalls then .error .tooDeep
          else do
            let r ← skipFiller (r.text.length + 1) (r.drop 1)
            if r.text.head? = some ']' then return (.list [], r.drop 1)
            else readItems (calls + arrayCalls) limit [] r
      | '\x7b' :: _ =>
          let r := skipBlanks (r.drop 1)
          if NestingLimits.toml < calls + tableCalls then .error .tooDeep
          else if r.text.head? = some '\x7d' then .ok (.table [], r.drop 1)
          else readEntries (calls + tableCalls) limit {} [] r
      | t =>
          if NestingLimits.toml < calls + NestingLimits.scalarCalls t then .error .tooDeep
          else readScalar r

/-- The items of an array from the next one on. -/
def readItems (calls : Nat) : Nat → List Value → Rest → Outcome (Value × Rest)
  | 0, _, r => fault r .unclosedArray
  | limit + 1, read, r => do
      let (v, r) ← readValue calls limit r
      let read := v :: read
      let r ← skipFiller (r.text.length + 1) r
      match r.text with
      | ']' :: _ => return (.list read.reverse, r.drop 1)
      | ',' :: _ =>
          let r ← skipFiller (r.text.length + 1) (r.drop 1)
          if r.text.head? = some ']' then return (.list read.reverse, r.drop 1)
          else readItems calls limit read r
      | _ => fault r .unclosedArray

/-- A key, the equals sign and the value. -/
def readPair (calls : Nat) : Nat → Rest → Outcome (Key × Value × Rest)
  | 0, r => fault r .invalidKeyStart
  | limit + 1, r => do
      let (key, r) ← readKey r
      if r.text.head? ≠ some '=' then fault r .expectedEquals
      else
        let (v, r) ← readValue calls limit (skipBlanks (r.drop 1))
        return (key, v, r)

/-- The entries of a table in braces from the next one on. -/
def readEntries (calls : Nat) : Nat → Ledger → Entries → Rest → Outcome (Value × Rest)
  | 0, _, _, r => fault r .unclosedTable
  | limit + 1, ledger, read, r => do
      let (key, v, r) ← readPair calls limit r
      let name := key.getLastD []
      if ledger.isFrozen key then fault r (.immutable key)
      else
        match changeTable false some key.dropLast read,
            changeTable false (addEntry name v) key.dropLast read with
        | none, _ => fault r .overwritten
        | some _, none => fault r (.duplicateKey name)
        | some _, some changed =>
            let r := skipBlanks r
            match r.text with
            | '\x7d' :: _ => return (.table changed, r.drop 1)
            | ',' :: _ =>
                let ledger := if isContainer v then ledger.freeze key else ledger
                readEntries calls limit ledger changed (skipBlanks (r.drop 1))
            | _ => fault r .unclosedTable

end

end

/-- A document that is being read: its values, what may not be opened again, and the
table that was opened last. -/
structure Draft where
  entries : Entries := []
  ledger : Ledger := {}
  header : Key := []

/-- Opens a table; the bracket is next. -/
def readHeader (d : Draft) (r : Rest) : Outcome (Draft × Rest) := do
  let (key, r) ← readKey (skipBlanks (r.drop 1))
  if d.ledger.isDeclared key || d.ledger.isFrozen key then fault r (.declaredTwice key)
  else
    match changeTable true some key d.entries with
    | none => fault r .overwritten
    | some entries =>
        if r.text.head? ≠ some ']' then fault r .unclosedHeader
        else return ({ entries, ledger := d.ledger.declare key, header := key }, r.drop 1)

/-- Opens a new table at the end of a list; the two brackets are next. -/
def readListHeader (d : Draft) (r : Rest) : Outcome (Draft × Rest) := do
  let (key, r) ← readKey (skipBlanks (r.drop 2))
  if d.ledger.isFrozen key then fault r (.immutable key)
  else
    match changeTable true (appendTable (key.getLastD [])) key.dropLast d.entries with
    | none => fault r .overwritten
    | some entries =>
        if !startsWith r [']', ']'] then fault r .unclosedListHeader
        else
          return ({ entries, ledger := (d.ledger.forget key).declare key, header := key },
            r.drop 2)

section

variable [NestingLimits]

/-- Gives a value to a key in the table that was opened last. -/
def readAssignment (d : Draft) (r : Rest) : Outcome (Draft × Rest) := do
  let (key, v, r) ← readPair 0 (2 * r.text.length + 2) r
  let parents := (List.range' 1 (key.length - 1)).map fun n => d.header ++ key.take n
  match parents.find? d.ledger.isDeclared with
  | some parent => fault r (.redefined parent)
  | none =>
      let ledger := parents.foldl Ledger.postpone d.ledger
      let path := d.header ++ key.dropLast
      let name := key.getLastD []
      if ledger.isFrozen path then fault r (.immutable path)
      else
        match changeTable true (addEntry name v) path d.entries with
        | none => fault r .overwritten
        | some entries =>
            let ledger := if isContainer v then ledger.freeze (d.header ++ key) else ledger
            return ({ d with entries, ledger }, r)

/-- Reads one statement, if the line holds one. -/
def readStatement (d : Draft) (r : Rest) : Outcome (Draft × Rest) :=
  match r.text with
  | '[' :: rest =>
      let d := { d with ledger := d.ledger.settle }
      if rest.head? = some '[' then readListHeader d r else readHeader d r
  | '#' :: _ => .ok (d, r)
  | c :: _ =>
      if isBareKeyChar c ∨ c = '\x22' ∨ c = '\x27' then readAssignment d r
      else fault r .invalidStatement
  | [] => .ok (d, r)

/-- Reads line after line. -/
def readLines : Nat → Draft → Rest → Outcome Draft
  | 0, d, _ => .ok d
  | limit + 1, d, r => do
      let r := skipBlanks r
      match r.text with
      | [] => return d
      | '\n' :: _ => readLines limit d (r.drop 1)
      | _ =>
          let (d, r) ← readStatement d r
          let r ← skipComment (skipBlanks r)
          match r.text with
          | [] => return d
          | '\n' :: _ => readLines limit d (r.drop 1)
          | _ => fault r .expectedLineEnd

/-- Reads a whole document. -/
def parse (source : Text) : Outcome Value := do
  let text := joinLineEnds source
  let d ← readLines (text.length + 1) {} ⟨text, 0⟩
  return .table d.entries

end

end LicenseNotices.Document.Toml
