import LicenseNotices.Proofs.JoinedTexts
import LicenseNotices.Proofs.ReaderTrees
import LicenseNotices.Proofs.RunOutcome

/-!
How a run can fail. A source that cannot be read, decoded or parsed and an output that
cannot be written are diagnostics, which name the file. Apart from paths that hold the null
character, which lead nowhere, every other failure is a fault of the encoding: its name is
not that of an encoding of text, or it refuses the bytes of a source or the text of the output
without telling where they are wrong, or it reads surrogates. Of the encodings that are kept here
only those that need a mark and the undefined one refuse anything in that way.
-/
namespace LicenseNotices.RunFailures

open JavaScript OutputFile Results RunOutcome SourceContents

/-- The failures of a run over `files` to `output` that the program anticipates. -/
inductive Anticipated (files : List Text) (output : Path) : Failure → Prop
  | unreadable {file : Text} {d : Diagnostic} (hfile : file ∈ files)
      (hkind : d.kind = .sourceUnreadable) (hpath : d.path = some (Path.ofText file).shown) :
      Anticipated files output (.diagnostic d)
  | unparseable {file : Text} {d : Diagnostic} (hfile : file ∈ files)
      (hkind : d.kind = .sourceUnparseable)
      (hpath : d.path = nonempty? (some (String.ofList file))) :
      Anticipated files output (.diagnostic d)
  | unwritable {d : Diagnostic} (hkind : d.kind = .sinkUnwritable)
      (hpath : d.path = some output.shown) : Anticipated files output (.diagnostic d)

/-- The faults of a run that come from its encoding. -/
inductive EncodingFault [Encoding.Codecs] (s : FileStore) (o : Options) (g : Grammar)
    (files : List Text) : Fault → Prop
  | notText (hname : o.encoding.encoding? = none) :
      EncodingFault s o g files ⟨.lookup, Encoding.notTextMessage o.encoding.spelling⟩
  | refusedBytes {file : Text} {bytes : Bytes} {e : Encoding} {err : Encoding.DecodeError}
      (hfile : file ∈ files) (hread : s.read (.ofText file) = .ok bytes)
      (hname : o.encoding.encoding? = some e) (hdecode : e.decode bytes = .error err)
      (hplace : ∀ fault, err ≠ .undecodable fault) (hother : ∀ message, err ≠ .surrogates message) :
      EncodingFault s o g files ⟨.unicode, err.message⟩
  | surrogates {file : Text} {bytes : Bytes} {e : Encoding} {message : String}
      (hfile : file ∈ files) (hread : s.read (.ofText file) = .ok bytes)
      (hname : o.encoding.encoding? = some e)
      (hdecode : e.decode bytes = .error (.surrogates message)) :
      EncodingFault s o g files ⟨Run.surrogateFault g, message⟩
  | refusedText {t : Text} {e : Encoding} {err : Encoding.EncodeError}
      (hname : o.encoding.encoding? = some e) (hencode : e.encode t = .error err)
      (hplace : ∀ fault, err ≠ .unencodable fault) :
      EncodingFault s o g files ⟨.unicode, err.message⟩

/-- The encodings that may refuse bytes or a text and not tell where: those that need a mark, the
undefined one, and those that are not kept here. -/
inductive HidesPlaces : Encoding → Prop
  | utf16 : HidesPlaces (.utf16 none)
  | utf32 : HidesPlaces (.utf32 none)
  | undefinedCode : HidesPlaces .undefinedCode
  | foreign (name : String) : HidesPlaces (.foreign name)

/-- The path of a name holds no character but those of the name, slashes and dots. -/
theorem mem_text_ofText {file : Text} {c : Char} (h : c ∈ (Path.ofText file).text) :
    c ∈ file ∨ c = '/' ∨ c = '.' := by
  have hparts : ∀ part ∈ (Path.ofText file).parts, ∀ d ∈ part, d ∈ file := by
    intro part hpart d hd
    have hmem : part ∈ file.splitOn '/' := List.mem_of_mem_filter hpart
    exact Text.mem_of_mem_splitOn hmem hd
  rw [Path.text] at h
  split at h
  · exact .inr (.inr (by simpa [Path.here] using h))
  · rcases List.mem_append.mp h with h | h
    · exact .inr (.inl (List.eq_of_mem_replicate h))
    · rcases Text.mem_join h with h | ⟨part, hpart, hc⟩
      · exact .inr (.inl (by simpa using h))
      · exact .inl (hparts part hpart c hc)

theorem locate_eq_nullCharacter {s : FileStore} {p : Path}
    (h : s.locate p = .error .nullCharacter) : '\x00' ∈ p.text := by
  rw [FileStore.locate] at h
  split at h
  · rename_i hnull
    simpa using hnull
  · split at h
    · cases h
    · cases hfollow : s.follow (if p.isAbsolute then [] else s.current) p.parts with
      | ok l => simp [hfollow] at h
      | error fault => simp [hfollow] at h

theorem read_eq_nullCharacter {s : FileStore} {p : Path}
    (h : s.read p = .error (.unopened .nullCharacter)) : '\x00' ∈ p.text := by
  rcases (bind_eq_error_iff _ _ _).mp h with h | ⟨l, -, h⟩
  · obtain ⟨fault, hlocate, hfault⟩ := (mapError_eq_error_iff _ _ _).mp h
    cases hfault
    exact locate_eq_nullCharacter hlocate
  · split at h
    · cases h
    · split at h
      · cases h
      · cases h
      · split at h <;> cases h

theorem locateFile_eq_nullCharacter {s : FileStore} {p : Path}
    (h : s.locateFile p = .error .nullCharacter) : '\x00' ∈ p.text := by
  rcases (bind_eq_error_iff _ _ _).mp h with h | ⟨l, -, h⟩
  · exact locate_eq_nullCharacter h
  · split at h
    · cases h
    · split at h <;> cases h

/-- A source that cannot be read is reported with its path, for whatever reason. -/
theorem anticipated_accessFailure {file : Text} {fault : ReadFault}
    (hfault : fault ≠ .unopened .nullCharacter) {files : List Text} (hfile : file ∈ files)
    (output : Path) : Anticipated files output (Run.accessFailure (.ofText file) fault) := by
  have hreported (f : SystemFault) : Anticipated files output
      (if f.number = SystemFault.notFound.number then
        Run.unreadable (.ofText file) s!"Source file '{(Path.ofText file).shown}' does not exist"
      else Run.unreadable (.ofText file)
        s!"Could not read '{(Path.ofText file).shown}': {f.reason}") := by
    split <;> exact .unreadable hfile rfl rfl
  cases fault with
  | unopened access =>
    cases access with
    | nullCharacter => exact absurd rfl hfault
    | system f => exact hreported f
  | broken f => exact hreported f

section

variable [Encoding.Codecs]

/-- Writing fails as anticipated or by a fault of the encoding. -/
theorem anticipated_of_writeOutput {s after : FileStore} {o : Options} {output : Path}
    {t : Text} {failure : Failure}
    (h : Run.writeOutput s o.encoding output t = (after, .error failure))
    (hnull : '\x00' ∉ output.text) (g : Grammar) (files : List Text) :
    Anticipated files output failure ∨
      ∃ fault, failure = .fault fault ∧ EncodingFault s o g files fault := by
  have hwritten := written_writeOutput s o.encoding output t
  rw [h] at hwritten
  cases hwritten with
  | nullCharacter hopen => exact absurd (locateFile_eq_nullCharacter hopen) hnull
  | unopened => exact .inl (.unwritable rfl rfl)
  | notText _ hname => exact .inr ⟨_, rfl, .notText hname⟩
  | unencodable => exact .inl (.unwritable rfl rfl)
  | unlocated _ hname hencode hplace => exact .inr ⟨_, rfl, .refusedText hname hencode hplace⟩
  | broken => exact .inl (.unwritable rfl rfl)

variable [Parser]

/-- A source fails as anticipated or by a fault of the encoding. -/
theorem anticipated_of_fails (hlaw : Parser.IsLawful) {s : FileStore} {o : Options} {g : Grammar}
    {file : Text} {failure : Failure} (h : Fails s o g file failure) (hnull : '\x00' ∉ file)
    {files : List Text} (hfile : file ∈ files) (output : Path) :
    Anticipated files output failure ∨
      ∃ fault, failure = .fault fault ∧ EncodingFault s o g files fault := by
  cases h with
  | @unopened fault hread =>
    refine .inl (anticipated_accessFailure ?_ hfile output)
    rintro ⟨⟩
    rcases mem_text_ofText (read_eq_nullCharacter hread) with hmem | heq | heq
    · exact hnull hmem
    · cases heq
    · cases heq
  | notText hopen hname => exact .inr ⟨_, rfl, .notText hname⟩
  | broken =>
    refine .inl (anticipated_accessFailure ?_ hfile output)
    nofun
  | @undecodable bytes encoding e hread hname hdecode =>
    cases e with
    | undecodable fault => exact .inl (.unreadable hfile rfl rfl)
    | surrogates message => exact .inr ⟨_, rfl, .surrogates hfile hread hname hdecode⟩
    | _ => exact .inr ⟨_, rfl, .refusedBytes hfile hread hname hdecode nofun nofun⟩
  | unparseable hread hname hdecode hparse =>
    obtain ⟨fault, rfl⟩ := Grammar.exists_source_of_error hlaw hparse
    exact .inl (.unparseable hfile rfl rfl)

theorem exists_fails {s : FileStore} {o : Options} {g : Grammar} {files : List Text}
    {set : NoticeSet} {failure : Failure}
    (h : (Run.scan s o g set files).failure = some failure) :
    ∃ file ∈ files, Fails s o g file failure := by
  induction files generalizing set with
  | nil => cases h
  | cons file rest ih =>
    rcases yields_or_fails s o g file with ⟨comments, hyields⟩ | ⟨reason, hfails⟩
    · rw [scan_cons hyields.holds] at h
      obtain ⟨bad, hbad, hfails⟩ := ih h
      exact ⟨bad, List.mem_cons_of_mem file hbad, hfails⟩
    · rw [scan_cons_of_fails hfails] at h
      cases h
      exact ⟨file, by simp, hfails⟩

theorem ofSources_of_error {s : FileStore} {o : Options} {g : Grammar} {files : List Text}
    {output : Path} {failure : Failure}
    (h : (Run.ofSources s o g files output).outcome = .error failure) :
    (Run.scan s o g .empty files).failure = some failure ∨
      ∃ after, Run.writeOutput s o.encoding output (Run.scan s o g .empty files).notices.render =
        (after, .error failure) := by
  cases hfailure : (Run.scan s o g .empty files).failure with
  | some reason =>
    rw [ofSources_of_failure hfailure] at h
    cases h
    exact .inl rfl
  | none =>
    simp only [Run.ofSources, hfailure] at h
    split at h
    · rename_i after reason hwrite
      cases h
      exact .inr ⟨after, hwrite⟩
    · cases h

end

/-- The name of a code page that an encoding can have is in the table of code pages. -/
theorem exists_codePage {name : Text} {page : String}
    (h : Encoding.named? name = some (.page page)) :
    ∃ p, Encoding.codePageNamed? page = some p := by
  obtain ⟨full, -, hfull⟩ := Option.bind_eq_some_iff.mp h
  rw [Encoding.ofFullName?.eq_def] at hfull
  split at hfull
  any_goals cases hfull
  split at hfull
  · cases hfull
  · split at hfull
    · rename_i hrow
      cases hfull
      obtain ⟨row, hmem, hname⟩ := List.any_eq_true.mp hrow
      have hfound : (Encoding.codePageRows.find? (·.1 = page)).isSome = true :=
        List.find?_isSome.mpr ⟨row, hmem, hname⟩
      obtain ⟨found, hfind⟩ := Option.isSome_iff_exists.mp hfound
      exact ⟨_, by rw [Encoding.codePageNamed?, hfind]; rfl⟩
    · cases hfull

theorem exists_undecodable [Encoding.Codecs] {name : EncodingName} {e : Encoding}
    (hname : name.encoding? = some e) (he : ¬ HidesPlaces e) {bytes : Bytes}
    {err : Encoding.DecodeError} (h : e.decode bytes = .error err) :
    ∃ fault, err = .undecodable fault := by
  have hmapped {x : Except Encoding.DecodeFault Text}
      (hx : x.mapError .undecodable = .error err) : ∃ fault, err = .undecodable fault := by
    obtain ⟨fault, -, herr⟩ := (mapError_eq_error_iff _ _ _).mp hx
    exact ⟨fault, herr⟩
  cases e with
  | utf8 marked => cases marked <;> exact hmapped h
  | utf16 order =>
    cases order with
    | none => exact absurd .utf16 he
    | some order => exact hmapped h
  | utf32 order =>
    cases order with
    | none => exact absurd .utf32 he
    | some order => exact hmapped h
  | plain code => exact hmapped h
  | page page =>
    obtain ⟨p, hp⟩ := exists_codePage hname
    rw [Encoding.decode, hp] at h
    exact hmapped h
  | foreign name => exact absurd (.foreign name) he
  | undefinedCode => exact absurd .undefinedCode he

theorem exists_unencodable_plain {code : Encoding.Plain.Code} {position : ℕ} {t : Text}
    {err : Encoding.EncodeError} (h : Encoding.Plain.encodeFrom code position t = .error err) :
    ∃ fault, err = .unencodable fault := by
  fun_induction Encoding.Plain.encodeFrom code position t with
  | case1 => cases h
  | case2 position c rest hc ih => exact ih ((map_eq_error_iff _ _ _).mp h)
  | case3 position c rest hc =>
    cases h
    exact ⟨_, rfl⟩

theorem exists_unencodable_page {p : Encoding.CodePage} {position : ℕ} {t : Text}
    {err : Encoding.EncodeError} (h : p.encodeFrom position t = .error err) :
    ∃ fault, err = .unencodable fault := by
  fun_induction Encoding.CodePage.encodeFrom p position t with
  | case1 => cases h
  | case2 position c rest b hb ih => exact ih ((map_eq_error_iff _ _ _).mp h)
  | case3 position c rest hb =>
    cases h
    exact ⟨_, rfl⟩

theorem exists_unencodable [Encoding.Codecs] {name : EncodingName} {e : Encoding}
    (hname : name.encoding? = some e) (he : ¬ HidesPlaces e) {t : Text}
    {err : Encoding.EncodeError} (h : e.encode t = .error err) :
    ∃ fault, err = .unencodable fault := by
  cases e with
  | utf8 marked => cases marked <;> cases h
  | utf16 order => cases order <;> cases h
  | utf32 order => cases order <;> cases h
  | plain code => exact exists_unencodable_plain h
  | page page =>
    obtain ⟨p, hp⟩ := exists_codePage hname
    rw [Encoding.encode, hp] at h
    exact exists_unencodable_page h
  | foreign name => exact absurd (.foreign name) he
  | undefinedCode => exact absurd .undefinedCode he

/-- An encoding that tells the place of what it refuses leaves no fault of its own. -/
theorem EncodingFault.hidesPlaces [Encoding.Codecs] {s : FileStore} {o : Options} {g : Grammar}
    {files : List Text} {fault : Fault} (h : EncodingFault s o g files fault) {e : Encoding}
    (hname : o.encoding.encoding? = some e) : HidesPlaces e := by
  by_contra he
  cases h with
  | notText hnone =>
    rw [hname] at hnone
    cases hnone
  | refusedBytes _ _ hname' hdecode hplace =>
    obtain rfl := Option.some.inj (hname.symm.trans hname')
    obtain ⟨place, herr⟩ := exists_undecodable hname he hdecode
    exact hplace place herr
  | surrogates _ _ hname' hdecode =>
    obtain rfl := Option.some.inj (hname.symm.trans hname')
    obtain ⟨place, herr⟩ := exists_undecodable hname he hdecode
    cases herr
  | refusedText hname' hencode hplace =>
    obtain rfl := Option.some.inj (hname.symm.trans hname')
    obtain ⟨place, herr⟩ := exists_unencodable hname he hencode
    exact hplace place herr

/-- A source that cannot be decoded is reported when the place of the fault is told, and only
then. -/
theorem decodeFailure_isReported_iff (g : Grammar) (p : Path) (name : EncodingName)
    (e : Encoding.DecodeError) :
    (∃ d, Run.decodeFailure g p name e = .diagnostic d ∧ d.kind = .sourceUnreadable ∧
      d.path = some p.shown) ↔ ∃ fault, e = .undecodable fault := by
  cases e with
  | undecodable fault => exact iff_of_true ⟨_, rfl, rfl, rfl⟩ ⟨fault, rfl⟩
  | _ =>
    refine iff_of_false ?_ ?_
    · rintro ⟨d, hd, -⟩
      cases hd
    · rintro ⟨fault, hfault⟩
      cases hfault

/-- A run between paths without the null character ends well, fails as anticipated, or ends
in a fault of its encoding, which is then one that may hide the places of what it refuses. The
first source of a run whose bytes cannot be decoded is reported with its path just when the place
of the fault is told; surrogates are no fault for the scanner of the C family. -/
theorem ofSources_fails_as_anticipated [Encoding.Codecs] [Parser] (hlaw : Parser.IsLawful)
    {s : FileStore} {o : Options} {g : Grammar} {files : List Text} {output : Path}
    (hfiles : ∀ file ∈ files, '\x00' ∉ file) (houtput : '\x00' ∉ output.text) :
    ((∃ summary, (Run.ofSources s o g files output).outcome = .ok summary) ∨
      (∃ failure, (Run.ofSources s o g files output).outcome = .error failure ∧
        Anticipated files output failure) ∨
      ∃ fault, (Run.ofSources s o g files output).outcome = .error (.fault fault) ∧
        EncodingFault s o g files fault ∧
        ∀ e, o.encoding.encoding? = some e → HidesPlaces e) ∧
    ∀ read bad rest, files = read ++ bad :: rest →
      (∀ file ∈ read, ∃ comments, Yields s o g file comments) →
      ∀ bytes e err, s.read (.ofText bad) = .ok bytes → o.encoding.encoding? = some e →
        e.decode bytes = .error err → (∀ message, err = .surrogates message → g = .javascript) →
        ∃ failure, (Run.ofSources s o g files output).outcome = .error failure ∧
          ((∃ d, failure = .diagnostic d ∧ d.kind = .sourceUnreadable ∧
            d.path = some (Path.ofText bad).shown) ↔ ∃ fault, err = .undecodable fault) := by
  refine ⟨?_, ?_⟩
  · cases houtcome : (Run.ofSources s o g files output).outcome with
    | ok summary => exact .inl ⟨summary, rfl⟩
    | error failure =>
      have hcases : Anticipated files output failure ∨
          ∃ fault, failure = .fault fault ∧ EncodingFault s o g files fault := by
        rcases ofSources_of_error houtcome with hscan | ⟨after, hwrite⟩
        · obtain ⟨file, hfile, hfails⟩ := exists_fails hscan
          exact anticipated_of_fails hlaw hfails (hfiles file hfile) hfile output
        · exact anticipated_of_writeOutput hwrite houtput g files
      rcases hcases with h | ⟨fault, rfl, h⟩
      · exact .inr (.inl ⟨failure, rfl, h⟩)
      · exact .inr (.inr ⟨fault, rfl, h, fun e => h.hidesPlaces⟩)
  · rintro read bad rest rfl hyields bytes e err hread hname hdecode -
    have hfails : Fails s o g bad _ := .undecodable hread hname hdecode
    have hscan : (Run.scan s o g .empty (read ++ bad :: rest)).failure =
        some (Run.decodeFailure g (.ofText bad) o.encoding err) := by
      rw [scan_append hyields, scan_cons_of_fails hfails]
      rfl
    refine ⟨_, ?_, decodeFailure_isReported_iff g (.ofText bad) o.encoding err⟩
    rw [ofSources_of_failure hscan]

/-- A source that is no ASCII. -/
def faultyFiles : FileStore :=
  { entry? := fun _ => none : FileStore }.put [['b']] [0x2f, 0xff]

section

attribute [local instance] Encoding.sampleCodecs readerParser

theorem undecodable_source_anticipated :
    ∃ d, (Run.ofSources faultyFiles sampleOptions .cStyle [['b']] (.ofText ['o'])).outcome =
        .error (.diagnostic d) ∧
      d.message = "Source file 'b' is not valid us-ascii: ordinal not in range(128)" ∧
      Anticipated [['b']] (.ofText ['o']) (.diagnostic d) := by
  have hfailed : (Run.ofSources faultyFiles sampleOptions .cStyle [['b']]
      (.ofText ['o'])).outcome = .error (.diagnostic {
        kind := .sourceUnreadable
        message := "Source file 'b' is not valid us-ascii: ordinal not in range(128)"
        path := some "b"
        hint := some "Pass the file encoding with --encoding" }) := by
    decide +kernel
  refine ⟨_, hfailed, rfl, ?_⟩
  have hfiles : ∀ file ∈ [['b']], '\x00' ∉ file := by decide
  have houtput : '\x00' ∉ (Path.ofText ['o']).text := by decide
  rcases (ofSources_fails_as_anticipated readerParser_isLawful (s := faultyFiles)
    (o := sampleOptions) (g := .cStyle) hfiles houtput).1 with h | h | h
  · obtain ⟨summary, hok⟩ := h
    rw [hfailed] at hok
    cases hok
  · obtain ⟨failure, herror, hanticipated⟩ := h
    rw [hfailed] at herror
    cases herror
    exact hanticipated
  · obtain ⟨fault, herror, -⟩ := h
    rw [hfailed] at herror
    cases herror

/-- A source in an encoding that needs a mark, which is missing. -/
def unmarkedFiles : FileStore :=
  { entry? := fun _ => none : FileStore }.put [['b']]
    (Encoding.Utf16.encode .lowFirst "// MIT".toList)

def markedOptions : Options :=
  { sampleOptions with
    encoding := { spelling := "utf-16".toList, isKnown := by decide +kernel } }

theorem unmarked_source_not_anticipated :
    ∃ failure, (Run.start unmarkedFiles markedOptions [['b']] (.ofText ['o'])).outcome =
        .error failure ∧ ¬ Anticipated [['b']] (.ofText ['o']) failure := by
  refine ⟨.fault ⟨.unicode, "UTF-16 stream does not start with BOM"⟩, by decide +kernel, ?_⟩
  intro h
  cases h

end

end LicenseNotices.RunFailures
