import LicenseNotices.Proofs.Results
import LicenseNotices.Run

/-!
What writing the output does to the files. A file can be written where no directory
stands, and the way to it leads through directories only, so that putting a file there
blocks no way that was open before. The bytes that are read from the output afterwards
are the encoded text, and what is read elsewhere is what was read before.
-/
namespace LicenseNotices.OutputFile

open FileStore Results

theorem lookup?_put_of_directory {s : FileStore} {l : Location} (hl : s.lookup? l ≠ some .directory)
    (bytes : Bytes) {other : Location} (hother : s.lookup? other = some .directory) :
    (s.put l bytes).lookup? other = some .directory := by
  rw [lookup?_put]
  split
  · rfl
  · rw [if_neg, hother]
    rintro rfl
    exact hl hother

theorem lookup?_put_of_ne {s : FileStore} {l other : Location} (h : other ≠ l) (bytes : Bytes) :
    (s.put l bytes).lookup? other = s.lookup? other := by
  rw [lookup?_put, if_neg h]
  split
  · rename_i hroot
    rw [hroot]
    rfl
  · rfl

/-- A way that was open stays open when a file is put where no directory stands. -/
theorem follow_put {s : FileStore} {l : Location} (hl : s.lookup? l ≠ some .directory)
    (bytes : Bytes) {start target : Location} {names : List Text}
    (h : s.follow start names = .ok target) : (s.put l bytes).follow start names = .ok target := by
  induction names generalizing start with
  | nil => exact h
  | cons name rest ih =>
    rw [follow] at h ⊢
    split at h
    · cases h
    · cases h
    · rename_i hstart
      rw [lookup?_put_of_directory hl bytes hstart]
      cases hrefusal : s.refusal? .search start with
      | some fault =>
        rw [hrefusal] at h
        cases h
      | none =>
        rw [hrefusal] at h
        have hput : (s.put l bytes).refusal? .search start = none := hrefusal
        rw [hput]
        dsimp only at h ⊢
        split at h
        · cases h
        · rename_i hshort
          rw [if_neg hshort]
          exact ih h

theorem locate_put {s : FileStore} {l : Location} (hl : s.lookup? l ≠ some .directory)
    (bytes : Bytes) {p : Path} {target : Location} (h : s.locate p = .ok target) :
    (s.put l bytes).locate p = .ok target := by
  rw [locate] at h ⊢
  split at h
  · cases h
  · rename_i hnull
    split at h
    · cases h
    · rename_i hlong
      rw [if_neg hnull, if_neg hlong]
      rw [mapError_eq_ok_iff] at h ⊢
      exact follow_put hl bytes h

/-- A file can be opened to be written where a path leads, no directory stands and the system
lets it. -/
theorem locateFile_eq_ok_iff (s : FileStore) (p : Path) (l : Location) :
    s.locateFile p = .ok l ↔
      s.locate p = .ok l ∧ s.lookup? l ≠ some .directory ∧ s.refusal? .write l = none := by
  rw [locateFile, bind_eq_ok_iff]
  constructor
  · rintro ⟨target, htarget, h⟩
    split at h
    · cases h
    · rename_i hfile
      cases hrefusal : s.refusal? .write target with
      | some fault =>
        rw [hrefusal] at h
        cases h
      | none =>
        rw [hrefusal] at h
        cases h
        exact ⟨htarget, hfile, hrefusal⟩
  · rintro ⟨hlocate, hfile, hrefusal⟩
    refine ⟨l, hlocate, ?_⟩
    rw [if_neg hfile, hrefusal]
    rfl

/-- What is read at a path is stored there, and the system lets it be read to its end. -/
theorem read_eq_ok_iff (s : FileStore) (p : Path) (bytes : Bytes) :
    s.read p = .ok bytes ↔ ∃ l, s.locate p = .ok l ∧ s.lookup? l = some (.file bytes) ∧
      s.refusal? .read l = none ∧ s.readFault? l = none := by
  rw [FileStore.read, bind_eq_ok_iff]
  constructor
  · rintro ⟨l, hl, h⟩
    refine ⟨l, (mapError_eq_ok_iff _ _ _).mp hl, ?_⟩
    split at h
    · cases h
    · rename_i found hfound
      split at h
      · cases h
      · cases h
      · rename_i content hrefusal
        split at h
        · cases h
        · rename_i hfault
          cases h
          exact ⟨hfound, hrefusal, hfault⟩
  · rintro ⟨l, hl, hfound, hrefusal, hfault⟩
    refine ⟨l, (mapError_eq_ok_iff _ _ _).mpr hl, ?_⟩
    simp only [hfound, hrefusal, hfault]
    rfl

theorem stored?_eq_some_iff (s : FileStore) (p : Path) (bytes : Bytes) :
    s.stored? p = some bytes ↔ ∃ l, s.locate p = .ok l ∧ s.lookup? l = some (.file bytes) := by
  rw [FileStore.stored?]
  constructor
  · intro h
    split at h
    · rename_i l hl
      split at h
      · rename_i found
        cases h
        exact ⟨l, hl, found⟩
      · cases h
    · cases h
  · rintro ⟨l, hl, hfound⟩
    simp only [hl, hfound]

/-- What has been put at the output is stored there. -/
theorem stored?_put {s : FileStore} {p : Path} {l : Location} (h : s.locateFile p = .ok l)
    (bytes : Bytes) : (s.put l bytes).stored? p = some bytes := by
  obtain ⟨hlocate, hl, -⟩ := (locateFile_eq_ok_iff s p l).mp h
  have hroot : l ≠ [] := by
    rintro rfl
    exact hl rfl
  refine (stored?_eq_some_iff _ p bytes).mpr ⟨l, locate_put hl bytes hlocate, ?_⟩
  rw [lookup?_put, if_neg hroot, if_pos rfl]

/-- What was read elsewhere is still read when a file has been put somewhere. -/
theorem read_put_of_ne {s : FileStore} {p : Path} {l : Location} {bytes : Bytes}
    (hl : s.lookup? l ≠ some .directory) (h : s.read p = .ok bytes) (hne : s.locate p ≠ .ok l)
    (more : Bytes) : (s.put l more).read p = .ok bytes := by
  obtain ⟨target, htarget, hfound, haccess⟩ := (read_eq_ok_iff s p bytes).mp h
  have hother : target ≠ l := fun heq => hne (heq ▸ htarget)
  refine (read_eq_ok_iff _ p bytes).mpr ⟨target, locate_put hl more htarget, ?_, haccess⟩
  rw [lookup?_put_of_ne hother]
  exact hfound

variable [Encoding.Codecs]

/-- The path leads to a file that can be opened, the name is that of an encoding, every character
of the text can be encoded, and what it is encoded to can be stored. -/
def CanWrite (s : FileStore) (name : EncodingName) (p : Path) (t : Text) : Prop :=
  ∃ l encoding bytes, s.locateFile p = .ok l ∧ name.encoding? = some encoding ∧
    encoding.encode t = .ok bytes ∧ s.writeFault? l bytes = none

/-- What writing has come to, by the first of its steps that is impossible. -/
inductive Written (s : FileStore) (name : EncodingName) (p : Path) (t : Text) :
    FileStore × Except Failure Unit → Prop
  | nullCharacter (hopen : s.locateFile p = .error .nullCharacter) :
      Written s name p t (s, .error Run.nullCharacter)
  | unopened {fault : SystemFault} (hopen : s.locateFile p = .error (.system fault)) :
      Written s name p t (s, .error (Run.unwritable p (fault.message p)))
  | notText {l : Location} (hopen : s.locateFile p = .ok l) (hname : name.encoding? = none) :
      Written s name p t (s.put l [], .error (Run.notText name))
  | unencodable {l : Location} {encoding : Encoding} {fault : Encoding.EncodeFault}
      (hopen : s.locateFile p = .ok l) (hname : name.encoding? = some encoding)
      (hencode : encoding.encode t = .error (.unencodable fault)) :
      Written s name p t (s.put l [], .error (Run.unwritable p fault.message))
  | unlocated {l : Location} {encoding : Encoding} {e : Encoding.EncodeError}
      (hopen : s.locateFile p = .ok l) (hname : name.encoding? = some encoding)
      (hencode : encoding.encode t = .error e) (he : ∀ fault, e ≠ .unencodable fault) :
      Written s name p t (s.put l [], .error (.fault ⟨.unicode, e.message⟩))
  | broken {l : Location} {encoding : Encoding} {bytes : Bytes} {count : Nat} {fault : SystemFault}
      (hopen : s.locateFile p = .ok l) (hname : name.encoding? = some encoding)
      (hencode : encoding.encode t = .ok bytes)
      (hstore : s.writeFault? l bytes = some (count, fault)) :
      Written s name p t
        (s.put l (bytes.take count), .error (Run.unwritable p fault.bareMessage))
  | stored {l : Location} {encoding : Encoding} {bytes : Bytes}
      (hopen : s.locateFile p = .ok l) (hname : name.encoding? = some encoding)
      (hencode : encoding.encode t = .ok bytes) (hstore : s.writeFault? l bytes = none) :
      Written s name p t (s.put l bytes, .ok ())

theorem written_writeOutput (s : FileStore) (name : EncodingName) (p : Path) (t : Text) :
    Written s name p t (Run.writeOutput s name p t) := by
  rw [Run.writeOutput]
  split
  · exact .nullCharacter ‹_›
  · exact .unopened ‹_›
  · rename_i l hopen
    split
    · exact .notText hopen ‹_›
    · rename_i encoding hname
      split
      · exact .unencodable hopen hname ‹_›
      · rename_i e he hencode
        exact .unlocated hopen hname hencode fun fault h => he fault h
      · rename_i bytes hencode
        rw [FileStore.store]
        cases hstore : s.writeFault? l bytes with
        | none => exact .stored hopen hname hencode hstore
        | some broken => exact .broken hopen hname hencode hstore

/-- Writing changes the one file to which the path leads, or nothing. -/
theorem files_writeOutput (s : FileStore) (name : EncodingName) (p : Path) (t : Text) :
    (Run.writeOutput s name p t).1 = s ∨
      ∃ l bytes, s.locateFile p = .ok l ∧ (Run.writeOutput s name p t).1 = s.put l bytes := by
  have hwritten := written_writeOutput s name p t
  generalize Run.writeOutput s name p t = result at hwritten ⊢
  cases hwritten with
  | nullCharacter => exact .inl rfl
  | unopened => exact .inl rfl
  | notText hopen => exact .inr ⟨_, _, hopen, rfl⟩
  | unencodable hopen => exact .inr ⟨_, _, hopen, rfl⟩
  | unlocated hopen => exact .inr ⟨_, _, hopen, rfl⟩
  | broken hopen => exact .inr ⟨_, _, hopen, rfl⟩
  | stored hopen => exact .inr ⟨_, _, hopen, rfl⟩

/-- A text that can be written is written in full, and no other text is. -/
theorem writeOutput_ok_iff (s after : FileStore) (name : EncodingName) (p : Path) (t : Text) :
    Run.writeOutput s name p t = (after, .ok ()) ↔
      ∃ l encoding bytes, s.locateFile p = .ok l ∧ name.encoding? = some encoding ∧
        encoding.encode t = .ok bytes ∧ s.writeFault? l bytes = none ∧ after = s.put l bytes := by
  constructor
  · intro h
    have hwritten := written_writeOutput s name p t
    rw [h] at hwritten
    cases hwritten with
    | stored hopen hname hencode hstore =>
      exact ⟨_, _, _, hopen, hname, hencode, hstore, rfl⟩
  · rintro ⟨l, encoding, bytes, hl, hname, hencode, hstore, rfl⟩
    simp only [Run.writeOutput, hl, hname, hencode, FileStore.store, hstore]

end LicenseNotices.OutputFile
