import LicenseNotices.Files.Store
import LicenseNotices.Options
import LicenseNotices.Report.Entry
import LicenseNotices.SourceNotices

/-!
A run reads its sources one after the other, adds their notices to one set and in
the end writes the set to the output. The first source that cannot be read or is
not accepted by its grammar ends the run before anything is written. Everything
that a run does is part of its result: the report, the log and the files.
-/
namespace LicenseNotices

/-- Where a run has come to. -/
structure Run where
  files : FileStore
  report : List ReportEntry := []
  log : List LogEntry := []
  outcome : Except Failure Summary

namespace Run

/-- The failure for an access to a path that holds the null character. -/
def nullCharacter : Failure := .fault ⟨.value, "embedded null byte"⟩

/-- The failure for an encoding that is no encoding of text. -/
def notText (name : EncodingName) : Failure :=
  .fault ⟨.lookup, Encoding.notTextMessage name.spelling⟩

def unreadable (p : Path) (message : String) (hint : Option String := none) : Failure :=
  .diagnostic { kind := .sourceUnreadable, message, path := some p.shown, hint }

def unwritable (p : Path) (reason : String) : Failure :=
  .diagnostic {
    kind := .sinkUnwritable
    message := s!"Could not write '{p.shown}': {reason}"
    path := some p.shown }

/-- The failure to read a source, by what stood in the way. -/
def accessFailure (p : Path) : ReadFault → Failure
  | .unopened .nullCharacter => nullCharacter
  | .unopened (.system fault) | .broken fault =>
      if fault.number = SystemFault.notFound.number then
        unreadable p s!"Source file '{p.shown}' does not exist"
      else unreadable p s!"Could not read '{p.shown}': {fault.reason}"

/-- The kind of the failure that surrogates in a source lead to. One grammar cannot write them in
UTF-8; what the other makes of them is not told here. -/
def surrogateFault : Grammar → FaultKind
  | .javascript => .unicodeEncode
  | .cStyle => .beyondTexts

/-- The failure to decode a source for a grammar. -/
def decodeFailure (g : Grammar) (p : Path) (name : EncodingName) :
    Encoding.DecodeError → Failure
  | .undecodable fault =>
      unreadable p
        s!"Source file '{p.shown}' is not valid {String.ofList name.spelling}: {fault.reason.text}"
        (some "Pass the file encoding with --encoding")
  | .surrogates message => .fault ⟨surrogateFault g, message⟩
  | e => .fault ⟨.unicode, e.message⟩

section

variable [Encoding.Codecs]

/-- The text of a source for a grammar, with line feeds for all its line ends. The encoding is
looked up when the file is open, before any of it is read. -/
def readSource (s : FileStore) (g : Grammar) (name : EncodingName) (p : Path) :
    Except Failure Text :=
  match name.encoding? with
  | none =>
      match s.read p with
      | .error (.unopened fault) => .error (accessFailure p (.unopened fault))
      | _ => .error (notText name)
  | some encoding => do
      let bytes ← (s.read p).mapError (accessFailure p)
      let source ← (encoding.decode bytes).mapError (decodeFailure g p name)
      return Text.unifyNewlines source

/-- Writes the output. The file is created, or emptied, before its text is encoded, and the text
is encoded before any of it is stored. -/
def writeOutput (s : FileStore) (name : EncodingName) (p : Path) (t : Text) :
    FileStore × Except Failure Unit :=
  match s.locateFile p with
  | .error .nullCharacter => (s, .error nullCharacter)
  | .error (.system fault) => (s, .error (unwritable p (fault.message p)))
  | .ok l =>
      let emptied := s.put l []
      match name.encoding? with
      | none => (emptied, .error (notText name))
      | some encoding =>
          match encoding.encode t with
          | .error (.unencodable fault) => (emptied, .error (unwritable p fault.message))
          | .error e => (emptied, .error (.fault ⟨.unicode, e.message⟩))
          | .ok bytes =>
              match s.store l bytes with
              | (stored, .error fault) => (stored, .error (unwritable p fault.bareMessage))
              | (stored, .ok ()) => (stored, .ok ())

end

/-- What reading sources has led to: the notices so far, the events and the records that it
left, and the failure that ended it, if one did. -/
structure Scan where
  notices : NoticeSet
  events : List MatchEvent := []
  log : List LogEntry := []
  failure : Option Failure := none

/-- The record of an output that has been written. -/
def writtenEntry (summary : Summary) : LogEntry where
  level := .info
  source := "save_license.runner"
  message := s!"Wrote {summary.count} unique licenses to {summary.output.shown}"

section

variable [Encoding.Codecs] [JavaScript.Parser]

/-- The findings in the source at a path, which is named as it was given. -/
def findingsIn (s : FileStore) (o : Options) (g : Grammar) (file : Text) :
    Except Failure Findings := do
  let source ← readSource s g o.encoding (.ofText file)
  Findings.ofSource g o.matcher (String.ofList file) source

/-- Reads sources in order and adds their notices to a set, up to the first failure. -/
def scan (s : FileStore) (o : Options) (g : Grammar) : NoticeSet → List Text → Scan
  | notices, [] => { notices }
  | notices, file :: rest =>
      match findingsIn s o g file with
      | .error failure => { notices, failure := some failure }
      | .ok found =>
          let record := found.logEntry (String.ofList file)
          match notices.aggregate (String.ofList file) found.notices with
          | (notices, .error .emptyGroup) =>
              { notices, log := [record],
                failure := some (.fault ⟨.index, "tuple index out of range"⟩) }
          | (notices, .ok events) =>
              let later := scan s o g notices rest
              { later with events := events ++ later.events, log := record :: later.log }

/-- Runs over `sources` and writes to `output`. -/
def ofSources (s : FileStore) (o : Options) (g : Grammar) (sources : List Text) (output : Path) :
    Run :=
  let scanned := scan s o g .empty sources
  let report :=
    .started o.patterns o.encoding.spelling :: scanned.events.map .matched
  match scanned.failure with
  | some failure => { files := s, report, log := scanned.log, outcome := .error failure }
  | none =>
      match writeOutput s o.encoding output scanned.notices.render with
      | (files, .error failure) =>
          { files, report, log := scanned.log, outcome := .error failure }
      | (files, .ok ()) =>
          let summary : Summary := { output, count := scanned.notices.size }
          { files, report := report ++ [.finished summary],
            log := scanned.log ++ [writtenEntry summary], outcome := .ok summary }

/-- Runs with the grammar of the options. -/
def start (s : FileStore) (o : Options) (sources : List Text) (output : Path) : Run :=
  ofSources s o o.grammar sources output

end

end Run

end LicenseNotices
