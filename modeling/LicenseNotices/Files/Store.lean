import LicenseNotices.Encoding.Utf8
import LicenseNotices.Files.Path

/-!
A store of files tells what there is at each location. A path leads to a location
only through directories that exist, even where it turns back. Reading, asking for
and creating files fail for reasons that have a number and a text; a path that
holds the null character leads nowhere at all. The system may also refuse what the
files themselves allow, and it may break off while bytes are read or stored.
-/
namespace LicenseNotices

structure SystemFault where
  number : Nat
  reason : String
  deriving DecidableEq, Repr

namespace SystemFault

def notFound : SystemFault := ⟨2, "No such file or directory"⟩

def notDirectory : SystemFault := ⟨20, "Not a directory"⟩

def isDirectory : SystemFault := ⟨21, "Is a directory"⟩

def nameTooLong : SystemFault := ⟨36, "File name too long"⟩

/-- The fault of something that is done with an open file. -/
def bareMessage (f : SystemFault) : String := s!"[Errno {f.number}] {f.reason}"

/-- The fault of an attempt to use a path. -/
def message (f : SystemFault) (p : Path) : String :=
  s!"{f.bareMessage}: {String.ofList (Text.quoted p.text)}"

/-- Faults that are taken to mean that there is nothing at a path: no such file, no directory, a
file that is not open, too many links. -/
def isAbsence (f : SystemFault) : Bool := [2, 20, 9, 40].contains f.number

end SystemFault

/-- What stands in the way of opening a file. -/
inductive AccessFault
  | system (f : SystemFault)
  | nullCharacter
  deriving DecidableEq, Repr

/-- What stands in the way of reading a file: it cannot be opened, or reading breaks off. -/
inductive ReadFault
  | unopened (f : AccessFault)
  | broken (f : SystemFault)
  deriving DecidableEq, Repr

/-- What is asked of the system at a location: a name in the directory there, or to open the file
there. -/
inductive Access
  | search
  | read
  | write
  deriving DecidableEq, Repr

inductive Entry
  | file (bytes : Bytes)
  | directory
  deriving DecidableEq, Repr

structure FileStore where
  entry? : Location → Option Entry
  /-- Where paths start that are not absolute. -/
  current : Location := []
  /-- Why the system refuses an access, as for want of a permission. -/
  refusal? : Access → Location → Option SystemFault := fun _ _ => none
  /-- Why the bytes of an open file are not read. -/
  readFault? : Location → Option SystemFault := fun _ => none
  /-- How many bytes are stored in an open file before storing breaks off, as on a full disk. -/
  writeFault? : Location → Bytes → Option (Nat × SystemFault) := fun _ _ => none

namespace FileStore

/-- The root is always a directory. -/
def lookup? (s : FileStore) (l : Location) : Option Entry :=
  if l = [] then some .directory else s.entry? l

/-- The number of bytes that a name may have. -/
def nameLimit : Nat := 255

/-- The number of bytes that a path may have. -/
def pathLimit : Nat := 4095

def byteLength (t : Text) : Nat := (Encoding.Utf8.encode t).length

/-- The location that names lead to from a location, which may be missing itself. -/
def follow (s : FileStore) (l : Location) : List Text → Except SystemFault Location
  | [] => .ok l
  | name :: rest =>
      match s.lookup? l with
      | none => .error .notFound
      | some (.file _) => .error .notDirectory
      | some .directory =>
          match s.refusal? .search l with
          | some fault => .error fault
          | none =>
              if nameLimit < byteLength name then .error .nameTooLong
              else s.follow (Path.enter l name) rest

/-- The location that a path leads to. -/
def locate (s : FileStore) (p : Path) : Except AccessFault Location :=
  if p.text.contains '\x00' then .error .nullCharacter
  else if pathLimit < byteLength p.text then .error (.system .nameTooLong)
  else (s.follow (if p.isAbsolute then [] else s.current) p.parts).mapError .system

def read (s : FileStore) (p : Path) : Except ReadFault Bytes := do
  let l ← (s.locate p).mapError .unopened
  match s.lookup? l with
  | none => throw (.unopened (.system .notFound))
  | some found =>
      match s.refusal? .read l, found with
      | some fault, _ => throw (.unopened (.system fault))
      | none, .directory => throw (.unopened (.system .isDirectory))
      | none, .file bytes =>
          match s.readFault? l with
          | some fault => throw (.broken fault)
          | none => return bytes

/-- Whether there is anything at a path. -/
def contains (s : FileStore) (p : Path) : Except SystemFault Bool :=
  match s.locate p with
  | .ok l => .ok (s.lookup? l).isSome
  | .error (.system fault) => if fault.isAbsence then .ok false else .error fault
  | .error .nullCharacter => .ok false

/-- The store with a file at a location. -/
def put (s : FileStore) (l : Location) (bytes : Bytes) : FileStore :=
  { s with entry? := fun other => if other = l then some (.file bytes) else s.entry? other }

/-- The location of a file that can be opened to be written. -/
def locateFile (s : FileStore) (p : Path) : Except AccessFault Location := do
  let l ← s.locate p
  if s.lookup? l = some .directory then throw (.system .isDirectory)
  else
    match s.refusal? .write l with
    | some fault => throw (.system fault)
    | none => return l

/-- Stores bytes in the file at a location, all of them or as many as the system takes. -/
def store (s : FileStore) (l : Location) (bytes : Bytes) : FileStore × Except SystemFault Unit :=
  match s.writeFault? l bytes with
  | some (count, fault) => (s.put l (bytes.take count), .error fault)
  | none => (s.put l bytes, .ok ())

/-- The bytes of the file to which a path leads, whether or not it can be opened. -/
def stored? (s : FileStore) (p : Path) : Option Bytes :=
  match s.locate p with
  | .ok l =>
      match s.lookup? l with
      | some (.file bytes) => some bytes
      | _ => none
  | .error _ => none

/-- Where a path leads by its names alone, whether or not anything is there. -/
def resolve (s : FileStore) (p : Path) : Except AccessFault Location :=
  if p.text.contains '\x00' then .error .nullCharacter
  else .ok (p.locationFrom s.current)

theorem lookup?_put (s : FileStore) (l other : Location) (bytes : Bytes) :
    (s.put l bytes).lookup? other =
      if other = [] then some .directory
      else if other = l then some (.file bytes) else s.lookup? other := by
  unfold lookup? put
  split
  · simp_all
  · split <;> simp_all

end FileStore

end LicenseNotices
