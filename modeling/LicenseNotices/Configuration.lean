import LicenseNotices.Document.Json
import LicenseNotices.Document.Toml
import LicenseNotices.Encoding.Utf8
import LicenseNotices.Files.Store
import LicenseNotices.Log
import LicenseNotices.Settings
import LicenseNotices.Text.Newline

/-!
Options that are kept in a file. The file is named, or one of two files in the
directory of the run is taken, or there is none and the options are the default
ones. The table of options in it has the same three entries as settings have.
-/
namespace LicenseNotices.Configuration

open Document (Value Entries)

/-- The files that are looked for, in that order. -/
def candidates : List Text := ["save-license.toml".toList, ".savelicenserc".toList]

def unusable (p : Path) (message : String) : Failure :=
  .configuration message none (some p.shown)

def unreadable (p : Path) (reason : String) : Failure :=
  unusable p ("Could not read configuration: " ++ reason)

/-- Whether there is anything at a path. -/
def isThere (s : FileStore) (p : Path) : Except Failure Bool :=
  (s.contains p).mapError fun f => .fault ⟨.system f.number, f.message p⟩

/-- The first path at which there is anything. -/
def firstOf (s : FileStore) : List Path → Except Failure (Option Path)
  | [] => .ok none
  | p :: rest => do if ← isThere s p then return some p else firstOf s rest

/-- The path of the file to read. A file that is named has to be there. -/
def locate (s : FileStore) (root : Location) (named : Option Path) :
    Except Failure (Option Path) :=
  match named with
  | none => firstOf s (candidates.map (Path.ofLocation root).child)
  | some p => do
      if ← isThere s p then return some p
      else throw (unusable p s!"Configuration file '{p.shown}' does not exist")

/-- The bytes of a file, read as text. -/
def readText (s : FileStore) (p : Path) : Except Failure Text := do
  let bytes ← (s.read p).mapError fun
    | .unopened .nullCharacter => unreadable p "embedded null byte"
    | .unopened (.system f) => unreadable p (f.message p)
    | .broken f => unreadable p f.bareMessage
  (Encoding.Utf8.decode bytes).mapError fun f => unreadable p f.message

def isToml (p : Path) : Bool := p.extension? = some "toml".toList

section

variable [NestingLimits]

/-- The value in a file, whose format is told by its name. -/
def readDocument (s : FileStore) (p : Path) : Except Failure Value := do
  let source ← readText s p
  if isToml p then
    (Document.Toml.parse source).mapError fun
      | .tooDeep => .fault ⟨.recursion, Document.Toml.Error.message source .tooDeep⟩
      | e => unreadable p (e.message source)
  else
    let source := Text.unifyNewlines source
    (Document.Json.parse source).mapError fun
      | .tooDeep innermost =>
          .fault ⟨.recursion, Document.Json.Error.message source (.tooDeep innermost)⟩
      | .loneSurrogate offset =>
          .fault ⟨.beyondTexts, Document.Json.Error.message source (.loneSurrogate offset)⟩
      | e => unreadable p (e.message source)

/-- The failure for a value that has no text. -/
def withoutText : Value.TextFault → Failure
  | .tooManyDigits => .fault ⟨.value, Text.tooManyDigitsMessage⟩
  | .tooDeep =>
      .fault ⟨.recursion, "maximum recursion depth exceeded while getting the repr of an object"⟩

/-- The text of a value inside `depth` others. -/
def textOf (depth : Nat) (v : Value) : Except Failure Text :=
  match v.textFault? depth with
  | some fault => .error (withoutText fault)
  | none => .ok v.display

/-- The patterns of a configuration: one text, or a list of which every item stands for its
text. -/
def patternsOf (p : Path) : Value → Except Failure (Option (List Text))
  | .null => .ok none
  | .text t => .ok (some [t])
  | .list items => (items.mapM (textOf 1)).map some
  | _ => .error (unusable p "'patterns' must be a string or a list of strings")

/-- The text of a value that is given. -/
def displayed (v : Value) : Except Failure (Option Text) :=
  if v.isGiven then (textOf 0 v).map some else .ok none

/-- The settings in a table of options. -/
def settingsOf (p : Path) (options : Entries) : Except Failure Settings := do
  let entry (key : String) : Value := (Value.lookup? key.toList options).getD .null
  let patterns ← patternsOf p (entry "patterns")
  let encoding ← displayed (entry "encoding")
  let grammar ← displayed (entry "grammar")
  return .ofTexts patterns encoding grammar

/-- The settings in the value of a whole file. A table of options that is empty, or anything
else that is empty in its place, gives none. -/
def settingsIn (p : Path) : Value → Except Failure Settings
  | .table entries =>
      match (Value.lookup? "options".toList entries).getD .null with
      | .table options => settingsOf p options
      | v => if v.isGiven then .error (unusable p "'options' must be a table") else .ok {}
  | _ => .error (unusable p "Configuration root must be a table or object")

end

/-- The record of a file that is about to be read. -/
def loadingEntry (p : Path) : LogEntry where
  level := .debug
  source := "save_license.config"
  message := s!"Loading configuration from {p.shown}"

/-- Options that were loaded, and what was recorded on the way. There are no options when
there is no file. -/
structure Loaded where
  log : List LogEntry := []
  options : Except Failure (Option Options)

variable [CharacterNames] [NestingLimits]

/-- Loads the options that a file gives in place of the default ones. -/
def loadFile (s : FileStore) (p : Path) : Except Failure Options := do
  let document ← readDocument s p
  let settings ← settingsIn p document
  Options.default.make settings

/-- Loads the options for a run in the directory `root`. -/
def load (s : FileStore) (root : Path) (named : Option Path := none) : Loaded :=
  match s.resolve root with
  | .error _ => { options := .error (.fault ⟨.value, "embedded null byte"⟩) }
  | .ok l =>
      match locate s l named with
      | .error f => { options := .error f }
      | .ok none => { options := .ok none }
      | .ok (some p) => { log := [loadingEntry p], options := (loadFile s p).map some }

end LicenseNotices.Configuration
