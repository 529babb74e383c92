import LicenseNotices.CommandLine.Usage
import LicenseNotices.Document.Value
import LicenseNotices.Text.Word

/-!
The arguments of a call. First every argument is classified by its spelling: it is a
name of a flag, perhaps with a value attached, or a plain word, and behind the
separator everything is plain. Then they are read from left to right; a flag takes
the plain word behind it as its value, and only one run of plain words names files.
-/
namespace LicenseNotices.CommandLine

open Document (Value)

/-- The argument behind which all arguments are plain. -/
def separator : Text := ['-', '-']

/-- What an argument looks like. -/
inductive Word
  | plain (t : Text)
  | separator
  | short (flag : Flag) (attached : Option Text)
  | long (flag : Flag) (attached : Option Text)
  | unknown (spelled : Text)
  deriving DecidableEq, Repr

/-- A minus sign and a number, with digits behind the point if there is one. -/
def isNegativeNumber (t : Text) : Bool :=
  let t := if t.getLast? = some '\n' then t.dropLast else t
  match t with
  | '-' :: number =>
      let behind := number.dropWhile Text.isDecimal
      match behind with
      | [] => !number.isEmpty
      | '.' :: places => !places.isEmpty && places.all Text.isDecimal
      | _ => false
  | _ => false

/-- A text up to the first equals sign, and what is behind it. -/
def splitValue (t : Text) : Text × Option Text :=
  (t.takeWhile (· ≠ '='), ((t.dropWhile (· ≠ '=')).tail?))

namespace Word

/-- An argument that starts with a dash but names no flag. -/
def ofStranger (t : Text) : Word :=
  if isNegativeNumber t || t.contains ' ' then plain t else unknown t

/-- An argument with two dashes; the name of a flag may be cut short. -/
def ofLong (t : Text) : Except UsageFault Word :=
  match Flag.ofLongName? t with
  | some flag => .ok (long flag none)
  | none =>
      let (name, value) := splitValue t
      match Flag.ofLongName? name with
      | some flag => .ok (long flag value)
      | none =>
          match Flag.startingWith name with
          | [] => .ok (ofStranger t)
          | [flag] => .ok (long flag value)
          | flags => .error (.ambiguous t flags)

/-- An argument with one dash and a letter. An equals sign parts a value from the letter. -/
def ofShort (t : Text) (c : Char) (rest : Text) : Word :=
  match Flag.ofLetter? c, rest with
  | some flag, [] => short flag none
  | some flag, '=' :: value => short flag (some value)
  | some flag, value => short flag (some value)
  | none, _ => ofStranger t

def ofArgument (t : Text) : Except UsageFault Word :=
  match t with
  | '-' :: '-' :: _ => ofLong t
  | '-' :: c :: rest => .ok (ofShort t c rest)
  | _ => .ok (plain t)

end Word

def classify : List Text → Except UsageFault (List Word)
  | [] => .ok []
  | t :: rest =>
      if t = separator then .ok (.separator :: rest.map .plain)
      else do return (← Word.ofArgument t) :: (← classify rest)

/-- What a call asks for. A value that is given as the separator alone counts as an empty
list. -/
structure Arguments where
  files : List Text := []
  out : Value := .null
  patterns : Option (List Value) := none
  encoding : Value := .null
  grammar : Value := .null
  config : Value := .null
  logLevel : Value := .null
  verbose : Bool := false

/-- Why a call ends before anything is done. -/
inductive Stop
  | fault (f : UsageFault)
  | help
  | version
  deriving DecidableEq, Repr

/-- The plain words that name files: none so far, those read up to now, or all of them. -/
inductive FileWords
  | awaited
  | reading (words : List Text)
  | complete (words : List Text)
  deriving DecidableEq, Repr

namespace FileWords

/-- The files named by a run of words, in which the first separator does not count. -/
def files : FileWords → List Text
  | awaited => []
  | reading words | complete words => words.erase separator

/-- The state behind the end of a run. -/
def close : FileWords → FileWords
  | reading words => complete words
  | other => other

end FileWords

/-- Where reading has come to. A flag whose value is to come waits together with the flags in
front of it in the same argument. -/
structure Reading where
  arguments : Arguments := {}
  files : FileWords := .awaited
  strangers : List Text := []
  isOutGiven : Bool := false
  waiting : Option (List Flag × Flag) := none

namespace Reading

def word (r : Reading) (t : Text) : Reading :=
  match r.files with
  | .awaited => { r with files := .reading [t] }
  | .reading words => { r with files := .reading (words ++ [t]) }
  | .complete _ => { r with strangers := r.strangers ++ [t] }

/-- The state behind the plain words in front of a flag. -/
def close (r : Reading) : Reading := { r with files := r.files.close }

def stranger (r : Reading) (t : Text) : Reading := { r with strangers := r.strangers ++ [t] }

/-- The value that a text gives to a flag. -/
def valueOf (t : Text) : Value := if t = separator then .list [] else .text t

/-- A text that is none of the values to choose from. -/
def choiceFault? (flag : Flag) (t : Text) : Option UsageFault := do
  let choices ← flag.choices?
  if t = separator || choices.any (·.toList = t) then none
  else some (.invalidChoice flag t choices)

/-- Gives a value to a flag that takes one. -/
def assign (r : Reading) (flag : Flag) (t : Text) : Except Stop Reading :=
  match choiceFault? flag t with
  | some fault => .error (.fault fault)
  | none =>
      let a := r.arguments
      let v := valueOf t
      match flag with
      | .out => .ok { r with arguments := { a with out := v }, isOutGiven := true }
      | .pattern =>
          .ok { r with arguments := { a with patterns := some (a.patterns.getD [] ++ [v]) } }
      | .encoding => .ok { r with arguments := { a with encoding := v } }
      | .grammar => .ok { r with arguments := { a with grammar := v } }
      | .config => .ok { r with arguments := { a with config := v } }
      | .logLevel => .ok { r with arguments := { a with logLevel := v } }
      | .help | .verbose | .version => .ok r

/-- Acts on a flag that takes no value. -/
def act (r : Reading) : Flag → Except Stop Reading
  | .help => .error .help
  | .version => .error .version
  | .verbose => .ok { r with arguments := { r.arguments with verbose := true } }
  | _ => .ok r

def actAll (r : Reading) (flags : List Flag) : Except Stop Reading := flags.foldlM act r

end Reading

/-- The flags in one argument with one dash: those without a value, and the last one with what
is left for it. -/
def spreadShort (flag : Flag) : Text → Except UsageFault (List Flag × Flag × Option Text)
  | [] =>
      if flag.takesValue then .ok ([], flag, some []) else .error (.needlessValue flag [])
  | c :: rest =>
      if flag.takesValue then .ok ([], flag, some (c :: rest))
      else
        match Flag.ofLetter? c with
        | none => .error (.needlessValue flag (c :: rest))
        | some next =>
            if rest.isEmpty then .ok ([flag], next, none)
            else do
              let (flags, last, value) ← spreadShort next rest
              return (flag :: flags, last, value)

/-- Reads the flags in one argument. -/
def Reading.flags (r : Reading) (flags : List Flag) (last : Flag) (value : Option Text) :
    Except Stop Reading :=
  if !last.takesValue then r.close.actAll (flags ++ [last])
  else
    match value with
    | some t => do (← r.close.actAll flags).assign last t
    | none => .ok { r.close with waiting := some (flags, last) }

/-- Reads one argument when no flag waits for its value. -/
def Reading.argument (r : Reading) : Word → Except Stop Reading
  | .plain t => .ok (r.word t)
  | .separator => .ok (r.word separator)
  | .unknown t => .ok (r.close.stranger t)
  | .short flag none | .long flag none => r.flags [] flag none
  | .short flag (some value) => do
      let (flags, last, value) ← (spreadShort flag value).mapError .fault
      r.flags flags last value
  | .long flag (some value) =>
      if flag.takesValue then r.flags [] flag (some value)
      else .error (.fault (.needlessValue flag value))

/-- Reads the next argument. Only a plain word can be the value of a flag. -/
def Reading.step (r : Reading) (w : Word) : Except Stop Reading :=
  match r.waiting, w with
  | none, w => r.argument w
  | some (flags, last), .plain t => do
      (← { r with waiting := none }.actAll flags).assign last t
  | some (_, last), _ => .error (.fault (.missingValue last))

/-- What has been read when there are no more arguments. An output has to be named, and
nothing may be left over. -/
def Reading.finish (r : Reading) : Except Stop Arguments :=
  match r.waiting with
  | some (_, last) => .error (.fault (.missingValue last))
  | none =>
      if !r.isOutGiven then .error (.fault .missingOutput)
      else if !r.strangers.isEmpty then .error (.fault (.unrecognized r.strangers))
      else .ok { r.arguments with files := r.files.files }

/-- Reads the arguments of a call. -/
def readArguments (arguments : List Text) : Except Stop Arguments := do
  let words ← (classify arguments).mapError .fault
  (← words.foldlM Reading.step {}).finish

end LicenseNotices.CommandLine
