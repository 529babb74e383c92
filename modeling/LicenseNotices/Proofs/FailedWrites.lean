import LicenseNotices.Encoding.SampleCodecs
import LicenseNotices.Proofs.OutputFile

/-!
What a failed write leaves behind. Where no file can be opened at the path of the output, all
files are as they were. A text is encoded only when its file has been opened: where a character
of it has no code, the file has been created or emptied by then, and nothing is written to it.
Where storing breaks off, as on a full disk, the file holds what had been stored until then.
-/
namespace LicenseNotices.FailedWrites

open FileStore OutputFile Results

/-- The file to which the path leads holds the bytes, and no other place has changed. -/
structure IsLeftWith (s : FileStore) (p : Path) (l : Location) (bytes : Bytes)
    (after : FileStore) : Prop where
  eq_put : after = s.put l bytes
  stored?_eq : after.stored? p = some bytes
  lookup?_eq : ∀ place, place ≠ l → after.lookup? place = s.lookup? place

theorem isLeftWith_put {s : FileStore} {p : Path} {l : Location} (h : s.locateFile p = .ok l)
    (bytes : Bytes) : IsLeftWith s p l bytes (s.put l bytes) where
  eq_put := rfl
  stored?_eq := stored?_put h bytes
  lookup?_eq _ hplace := lookup?_put_of_ne hplace bytes

section

variable [Encoding.Codecs] {s after : FileStore} {name : EncodingName} {p : Path} {t : Text}

theorem writeOutput_of_unopened {fault : SystemFault}
    (hopen : s.locateFile p = .error (.system fault)) :
    Run.writeOutput s name p t = (s, .error (Run.unwritable p (fault.message p))) := by
  simp only [Run.writeOutput, hopen]

theorem writeOutput_of_unencodable {l : Location} {encoding : Encoding}
    {fault : Encoding.EncodeFault} (hopen : s.locateFile p = .ok l)
    (hname : name.encoding? = some encoding)
    (hencode : encoding.encode t = .error (.unencodable fault)) :
    Run.writeOutput s name p t = (s.put l [], .error (Run.unwritable p fault.message)) := by
  simp only [Run.writeOutput, hopen, hname, hencode]

theorem writeOutput_of_broken {l : Location} {encoding : Encoding} {bytes : Bytes} {count : Nat}
    {fault : SystemFault} (hopen : s.locateFile p = .ok l)
    (hname : name.encoding? = some encoding) (hencode : encoding.encode t = .ok bytes)
    (hstore : s.writeFault? l bytes = some (count, fault)) :
    Run.writeOutput s name p t =
      (s.put l (bytes.take count), .error (Run.unwritable p fault.bareMessage)) := by
  simp only [Run.writeOutput, hopen, hname, hencode, FileStore.store, hstore]

/-- Writing fails with a report in three ways. When no file can be opened at the path, all files
are as they were. When a character of the text has no code, the file at the path is left empty,
and when storing breaks off it is left with the first part of the encoded text, whatever it held
before. Nothing else has changed. -/
theorem failed_write_keeps_or_cuts (s after : FileStore) (name : EncodingName) (p : Path)
    (t : Text) (d : Diagnostic) :
    Run.writeOutput s name p t = (after, .error (.diagnostic d)) ↔
      (∃ fault, s.locateFile p = .error (.system fault) ∧
        Run.unwritable p (fault.message p) = .diagnostic d ∧ after = s) ∨
      (∃ l encoding fault, s.locateFile p = .ok l ∧ name.encoding? = some encoding ∧
        encoding.encode t = .error (.unencodable fault) ∧
        Run.unwritable p fault.message = .diagnostic d ∧ IsLeftWith s p l [] after) ∨
      ∃ l encoding bytes count fault, s.locateFile p = .ok l ∧ name.encoding? = some encoding ∧
        encoding.encode t = .ok bytes ∧ s.writeFault? l bytes = some (count, fault) ∧
        Run.unwritable p fault.bareMessage = .diagnostic d ∧
        IsLeftWith s p l (bytes.take count) after := by
  constructor
  · intro h
    have hwritten := written_writeOutput s name p t
    rw [h] at hwritten
    generalize hresult : (after, (.error (.diagnostic d) : Except Failure Unit)) = result
      at hwritten
    cases hwritten with
    | nullCharacter => cases hresult
    | unopened hopen =>
      obtain ⟨rfl, hd⟩ := Prod.mk.inj hresult
      exact .inl ⟨_, hopen, (Except.error.inj hd).symm, rfl⟩
    | notText => cases hresult
    | unencodable hopen hname hencode =>
      obtain ⟨rfl, hd⟩ := Prod.mk.inj hresult
      exact .inr (.inl ⟨_, _, _, hopen, hname, hencode, (Except.error.inj hd).symm,
        isLeftWith_put hopen []⟩)
    | unlocated => cases hresult
    | broken hopen hname hencode hstore =>
      obtain ⟨rfl, hd⟩ := Prod.mk.inj hresult
      exact .inr (.inr ⟨_, _, _, _, _, hopen, hname, hencode, hstore, (Except.error.inj hd).symm,
        isLeftWith_put hopen _⟩)
    | stored => cases hresult
  · rintro (⟨fault, hopen, hd, rfl⟩ | ⟨l, encoding, fault, hopen, hname, hencode, hd, hleft⟩ |
      ⟨l, encoding, bytes, count, fault, hopen, hname, hencode, hstore, hd, hleft⟩)
    · rw [writeOutput_of_unopened hopen, hd]
    · rw [writeOutput_of_unencodable hopen hname hencode, hd, hleft.eq_put]
    · rw [writeOutput_of_broken hopen hname hencode hstore, hd, hleft.eq_put]

end

theorem codeNamed?_eucjisx0213 :
    Encoding.codeNamed? "eucjisx0213".toList = some "euc_jisx0213" := by
  decide +kernel

/-- The name of an encoding that reads characters which it does not write. -/
def partialName : EncodingName where
  spelling := "eucjisx0213".toList
  isKnown := by rw [Encoding.isName, codeNamed?_eucjisx0213, Option.isSome_some]

theorem encoding?_partialName : partialName.encoding? = some (.foreign "euc_jisx0213") := by
  have hbind : (Encoding.codeNamed? "eucjisx0213".toList).bind Encoding.ofFullName? =
      some (.foreign "euc_jisx0213") := by
    rw [codeNamed?_eucjisx0213, Option.bind_some]
    decide +kernel
  exact hbind

/-- A source with such a character in a notice, and an output from before. -/
def partialFiles : FileStore :=
  let nothing : FileStore := { entry? := fun _ => none }
  let source := nothing.put [['a']] [0x2f, 0x2f, 0x21, 0x8f, 0xcd, 0xf7]
  source.put [['o']] [0x6f, 0x6c, 0x64]

/-- The files on a disk that is full when a byte has been stored. -/
def fullFiles : FileStore :=
  { partialFiles with
    writeFault? := fun _ bytes =>
      if 1 < bytes.length then some (1, ⟨28, "No space left on device"⟩) else none }

section

attribute [local instance] Encoding.sampleCodecs

/-- The notice is read from its source, and then it leaves nothing of what the output held. On the
full disk a text that has a code leaves its first byte. -/
theorem unwritten_texts_replace_output :
    (∃ d, Run.readSource partialFiles .cStyle partialName (.ofText ['a']) =
        .ok ['/', '/', '!', '瘦'] ∧
      partialFiles.stored? (.ofText ['o']) = some [0x6f, 0x6c, 0x64] ∧
      (Run.writeOutput partialFiles partialName (.ofText ['o']) ['!', '瘦']).2 =
        .error (.diagnostic d) ∧ d.kind = .sinkUnwritable ∧
      (Run.writeOutput partialFiles partialName (.ofText ['o']) ['!', '瘦']).1.stored?
        (.ofText ['o']) = some []) ∧
    ∃ d, fullFiles.stored? (.ofText ['o']) = some [0x6f, 0x6c, 0x64] ∧
      (Run.writeOutput fullFiles partialName (.ofText ['o']) ['!', '!']).2 =
        .error (.diagnostic d) ∧ d.kind = .sinkUnwritable ∧
      (Run.writeOutput fullFiles partialName (.ofText ['o']) ['!', '!']).1.stored?
        (.ofText ['o']) = some [0x21] := by
  have hread : partialFiles.read (.ofText ['a']) = .ok [0x2f, 0x2f, 0x21, 0x8f, 0xcd, 0xf7] := by
    rfl
  have hopen : partialFiles.locateFile (.ofText ['o']) = .ok [['o']] := by rfl
  have hfull : fullFiles.locateFile (.ofText ['o']) = .ok [['o']] := by rfl
  constructor
  · have hwrite : Run.writeOutput partialFiles partialName (.ofText ['o']) ['!', '瘦'] = _ :=
      writeOutput_of_unencodable hopen encoding?_partialName (by rfl)
    refine ⟨_, ?_, by rfl, by rw [hwrite]; rfl, rfl, ?_⟩
    · rw [Run.readSource, hread, encoding?_partialName]
      rfl
    · rw [hwrite]
      exact stored?_put hopen []
  · have hwrite : Run.writeOutput fullFiles partialName (.ofText ['o']) ['!', '!'] = _ :=
      writeOutput_of_broken hfull encoding?_partialName (by rfl) (by rfl)
    refine ⟨_, by rfl, by rw [hwrite]; rfl, rfl, ?_⟩
    rw [hwrite]
    exact stored?_put hfull _

end

end LicenseNotices.FailedWrites
