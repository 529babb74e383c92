import LicenseNotices.Document.Rest
import LicenseNotices.Document.Value

/-!
Documents in JSON. Besides the numbers of the format, infinities and a number
that is none are accepted. A fault is reported at the character where reading
cannot go on; of two entries with one key the later value counts.
-/
namespace LicenseNotices.Document.Json

inductive Fault
  | byteOrderMark
  | extraData
  | expectedValue
  | expectedKey
  | expectedColon
  | expectedComma
  | unterminatedString
  | controlCharacter
  | badEscape
  | badCodePoint
  deriving DecidableEq, Repr

namespace Fault

def message : Fault → String
  | byteOrderMark => "Unexpected UTF-8 BOM (decode using utf-8-sig)"
  | extraData => "Extra data"
  | expectedValue => "Expecting value"
  | expectedKey => "Expecting property name enclosed in double quotes"
  | expectedColon => "Expecting ':' delimiter"
  | expectedComma => "Expecting ',' delimiter"
  | unterminatedString => "Unterminated string starting at"
  | controlCharacter => "Invalid control character at"
  | badEscape => "Invalid \\escape"
  | badCodePoint => "Invalid \\uXXXX escape"

end Fault

/-- The values that hold others. -/
inductive Container
  | array
  | object
  deriving DecidableEq, Repr

namespace Container

def name : Container → String
  | array => "array"
  | object => "object"

end Container

/-- Why a text is not read: a fault at an offset, a number with too many digits, a value
inside too many others, or the escape of a surrogate that is no half of a pair, which stands for
no character. -/
inductive Error
  | malformed (fault : Fault) (offset : Nat)
  | tooManyDigits (count : Nat)
  | tooDeep (innermost : Container)
  | loneSurrogate (offset : Nat)
  deriving DecidableEq, Repr

namespace Error

def message (source : Text) : Error → String
  | malformed fault offset =>
      let (line, column) := lineAndColumn source offset
      s!"{fault.message}: line {line} column {column} (char {offset})"
  | tooManyDigits count => Text.tooManyDigitsMessage count
  | tooDeep innermost =>
      s!"maximum recursion depth exceeded while decoding a JSON {innermost.name} " ++
        "from a unicode string"
  | loneSurrogate offset =>
      let (line, column) := lineAndColumn source offset
      s!"Lone surrogate: line {line} column {column} (char {offset})"

end Error

abbrev Outcome (α : Type) := Except Error α

/-- A fault at the place that reading has come to. -/
def fault {α : Type} (r : Rest) (f : Fault) : Outcome α := .error (.malformed f r.offset)

def skipBlanks : Rest → Rest :=
  Rest.skipWhile fun c => c = ' ' || c = '\t' || c = '\n' || c = '\r'

/-- The character of an escape with a letter. -/
def escapeOf? (c : Char) : Option Char :=
  match c with
  | '\x22' => some '\x22'
  | '\\' => some '\\'
  | '/' => some '/'
  | 'b' => some '\x08'
  | 'f' => some '\x0c'
  | 'n' => some '\n'
  | 'r' => some '\r'
  | 't' => some '\t'
  | _ => none

/-- The second half of a pair of escapes, when it is one; four digits have been read. -/
def lowHalf? (r : Rest) : Option Nat :=
  match r.text with
  | '\\' :: 'u' :: rest =>
      if rest.length < 5 then none
      else (hexNumber? 4 rest).filter fun n => 0xdc00 ≤ n && n ≤ 0xdfff
  | _ => none

/-- The characters up to the closing quote of the string that was opened at `start`. -/
def readString (start : Nat) : Nat → Text → Rest → Outcome (Text × Rest)
  | 0, _, _ => .error (.malformed .unterminatedString start)
  | limit + 1, read, r =>
      match r.text with
      | [] => .error (.malformed .unterminatedString start)
      | '\x22' :: _ => .ok (read.reverse, r.drop 1)
      | ['\\'] => .error (.malformed .unterminatedString start)
      | '\\' :: 'u' :: rest =>
          if rest.length < 5 then fault (r.drop 1) .badCodePoint
          else
            match hexNumber? 4 rest with
            | none => fault (r.drop 1) .badCodePoint
            | some n =>
                let behind := r.drop 6
                if 0xd800 ≤ n ∧ n ≤ 0xdbff then
                  match lowHalf? behind with
                  | some low =>
                      let point := 0x10000 + (n - 0xd800) * 0x400 + (low - 0xdc00)
                      readString start limit (Char.ofNat point :: read) (behind.drop 6)
                  | none => .error (.loneSurrogate r.offset)
                else if 0xdc00 ≤ n ∧ n ≤ 0xdfff then .error (.loneSurrogate r.offset)
                else readString start limit (Char.ofNat n :: read) behind
      | '\\' :: c :: _ =>
          match escapeOf? c with
          | some d => readString start limit (d :: read) (r.drop 2)
          | none => fault r .badEscape
      | c :: _ =>
          if c.toNat < 0x20 then fault r .controlCharacter
          else readString start limit (c :: read) (r.drop 1)

/-- A number: digits without a needless zero, then perhaps a fraction and an exponent. -/
def readNumber (r : Rest) : Outcome (Value × Rest) :=
  let negative := r.text.head? = some '-'
  let unsigned := if negative then r.drop 1 else r
  let whole := wholeAt digitsOf unsigned.text
  if whole.isEmpty then fault r .expectedValue
  else
    let behind := unsigned.drop whole.length
    let fraction := fractionAt digitsOf behind.text
    let behind := if fraction.isEmpty then behind else behind.drop (fraction.length + 1)
    let exponent := exponentAt? digitsOf behind.text
    let behind := behind.drop ((exponent.map Exponent.length).getD 0)
    if fraction.isEmpty && exponent.isNone then
      if Text.integerDigitLimit < whole.length then .error (.tooManyDigits whole.length)
      else
        let n : Int := digitsNumber 10 whole
        .ok (.integer (if negative then -n else n), behind)
    else
      let power : Int := match exponent with
        | some x =>
            if x.isMinus then -(digitsNumber 10 x.digits : Int) else digitsNumber 10 x.digits
        | none => 0
      let x := Binary64.ofDecimal negative (digitsNumber 10 (whole ++ fraction))
        (power - fraction.length)
      .ok (.float x, behind)

/-- The values that are written as words. -/
def words : List (Text × Value) :=
  [("null".toList, .null), ("true".toList, .boolean true), ("false".toList, .boolean false),
    ("NaN".toList, .float (.nan)), ("Infinity".toList, .float (.infinity false)),
    ("-Infinity".toList, .float (.infinity true))]

section

variable [NestingLimits]

mutual

/-- A value that stands inside `depth` others. -/
def readValue (depth : Nat) : Nat → Rest → Outcome (Value × Rest)
  | 0, r => fault r .expectedValue
  | limit + 1, r =>
      match r.text with
      | '\x22' :: rest => do
          let (t, r) ← readString r.offset (rest.length + 1) [] (r.drop 1)
          return (.text t, r)
      | '\x7b' :: _ =>
          let r := skipBlanks (r.drop 1)
          if NestingLimits.json ≤ depth then .error (.tooDeep .object)
          else if r.text.head? = some '\x7d' then .ok (.table [], r.drop 1)
          else readEntries (depth + 1) limit [] r
      | '[' :: _ =>
          let r := skipBlanks (r.drop 1)
          if NestingLimits.json ≤ depth then .error (.tooDeep .array)
          else if r.text.head? = some ']' then .ok (.list [], r.drop 1)
          else readItems (depth + 1) limit [] r
      | _ =>
          match words.findSome? fun (word, v) => (r.dropText? word).map fun r => (v, r) with
          | some answer => .ok answer
          | none => readNumber r

/-- The entries of an object from the next key on. -/
def readEntries (depth : Nat) : Nat → Entries → Rest → Outcome (Value × Rest)
  | 0, _, r => fault r .expectedKey
  | limit + 1, read, r =>
      match r.text with
      | '\x22' :: rest => do
          let (key, r) ← readString r.offset (rest.length + 1) [] (r.drop 1)
          let r := skipBlanks r
          if r.text.head? ≠ some ':' then fault r .expectedColon
          else
            let (v, r) ← readValue depth limit (skipBlanks (r.drop 1))
            let read := Value.put key v read
            let r := skipBlanks r
            match r.text with
            | '\x7d' :: _ => return (.table read, r.drop 1)
            | ',' :: _ => readEntries depth limit read (skipBlanks (r.drop 1))
            | _ => fault r .expectedComma
      | _ => fault r .expectedKey

/-- The items of an array from the next one on. -/
def readItems (depth : Nat) : Nat → List Value → Rest → Outcome (Value × Rest)
  | 0, _, r => fault r .expectedValue
  | limit + 1, read, r => do
      let (v, r) ← readValue depth limit r
      let read := v :: read
      let r := skipBlanks r
      match r.text with
      | ']' :: _ => return (.list read.reverse, r.drop 1)
      | ',' :: _ => readItems depth limit read (skipBlanks (r.drop 1))
      | _ => fault r .expectedComma

end

/-- Reads a whole document. -/
def parse (source : Text) : Outcome Value := do
  if source.head? = some '\ufeff' then throw (.malformed .byteOrderMark 0)
  else
    let (v, r) ← readValue 0 (2 * source.length + 2) (skipBlanks ⟨source, 0⟩)
    let r := skipBlanks r
    if r.text.isEmpty then return v else fault r .extraData

end

end LicenseNotices.Document.Json
