import LicenseNotices.CommandLine.Command
import LicenseNotices.ReferenceSurroundings

/-!
The program. It looks at the files that its arguments mention, lets the command work
on what it has found, writes the files that have become different, and prints. What it
does in which surroundings is `execute`; `main` takes those that are kept here.
-/
namespace LicenseNotices.CommandLine

/-- The path of a location, as the system takes it. -/
def systemPath (l : Location) : String := (Path.ofLocation l).shown

/-- What there is at a location. -/
def entryAt (l : Location) : IO (Option Entry) := do
  try
    return some (.file (← IO.FS.readBinFile (systemPath l)).toList)
  catch e =>
    match e with
    | .inappropriateType _ code _ =>
        return if code.toNat = SystemFault.isDirectory.number then some .directory else none
    | _ => return none

/-- The files at some locations. -/
def gather (current : Location) (locations : List Location) : IO FileStore := do
  let found ← locations.mapM fun l => do return (l, ← entryAt l)
  return { entry? := fun l => (found.find? (·.1 = l)).bind (·.2), current }

/-- Writes the files that are not as they were before. -/
def store (before after : FileStore) (locations : List Location) : IO Unit := do
  for l in locations do
    if before.lookup? l ≠ after.lookup? l then
      if let some (.file bytes) := after.lookup? l then
        IO.FS.writeBinFile (systemPath l) ⟨bytes.toArray⟩

/-- The variables that the command knows. -/
def variableNames : List String :=
  ["SAVE_LICENSE_VERBOSE", "SAVE_LICENSE_RERAISE", "SAVE_LICENSE_DEBUG",
    "SAVE_LICENSE_LOG_LEVEL"]

def readVariables : IO Variables :=
  variableNames.filterMapM fun name => do
    return (← IO.getEnv name).map fun value => (name.toList, value.toList)

/-- Carries out a call with arguments. -/
def execute [Surroundings] (arguments : List String) : IO UInt32 := do
  let started ← IO.monoNanosNow
  let arguments := arguments.map String.toList
  let current := (Path.ofText (← IO.currentDir).toString.toList).parts
  let locations := passedLocations arguments current
  let files ← gather current locations
  let result := ({ arguments, environment := ← readVariables, files } : Call).result
  store files result.files locations
  let elapsed := Binary64.ofDecimal false ((← IO.monoNanosNow) - started) (-9)
  (← IO.getStdout).putStr (String.ofList (result.printed (elapsed.fixedText 3)))
  (← IO.getStderr).putStr result.written
  match result.ending with
  | .exited status => return status.toUInt32
  | .raised f =>
      (← IO.getStderr).putStr (f.traceEnd ++ "\n")
      return 1

end LicenseNotices.CommandLine

open LicenseNotices LicenseNotices.CommandLine in
def main (arguments : List String) : IO UInt32 := @execute referenceSurroundings arguments
