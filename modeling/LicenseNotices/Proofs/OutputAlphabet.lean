import LicenseNotices.Proofs.EncodingRoundTrip
import LicenseNotices.Proofs.ReaderTrees
import LicenseNotices.Proofs.RunOutcome

/-!
The characters of an output. The bodies of comments are parts of their source, and line feeds
are all that is put between them, so every other character of the output comes from a source
that was decoded. In the common encodings such a text can be written, and what is read from
the output is the text again. Only the way to the output can then stop a run.
-/
namespace LicenseNotices.OutputAlphabet

open Encoding FirstSeen JavaScript OutputFile Results RunOutcome SourceContents

theorem mem_of_mem_unifyNewlines {t : Text} {c : Char} (h : c ∈ Text.unifyNewlines t)
    (hc : c ≠ '\n') : c ∈ t := by
  fun_induction Text.unifyNewlines t with
  | case1 => exact h
  | case2 rest ih =>
    rcases List.mem_cons.mp h with rfl | h
    · exact absurd rfl hc
    · simp [ih h]
  | case3 d rest _ ih =>
    rcases List.mem_cons.mp h with heq | h
    · split at heq
      · exact absurd heq hc
      · simp [heq]
    · exact List.mem_cons_of_mem d (ih h)

theorem mem_text {group : CommentGroup} {c : Char} (h : c ∈ group.text) :
    c = '\n' ∨ ∃ comment ∈ group, c ∈ comment.text := by
  rcases Text.mem_join h with h | ⟨t, ht, h⟩
  · exact .inl (List.mem_singleton.mp h)
  · obtain ⟨comment, hcomment, rfl⟩ := List.mem_map.mp ht
    exact .inr ⟨comment, hcomment, h⟩

/-- The body of a comment is a part of the source. -/
theorem infix_source [Parser] (hlaw : Parser.IsLawful) {g : Grammar} {source : Text}
    {cs : List Comment} (h : g.comments source = .ok cs) {comment : Comment}
    (hcomment : comment ∈ cs) : comment.text <:+: source := by
  obtain ⟨spans, hspans, rfl⟩ := Grammar.exists_spans hlaw h
  obtain ⟨span, hspan, rfl⟩ := List.mem_map.mp hcomment
  refine ⟨span.before ++ span.opener, span.closer ++ span.after, ?_⟩
  rw [← hspans.source_eq span hspan, Span.source, Span.text, Span.comment, Comment.ofPosition]
  simp only [List.append_assoc]

/-- The system does not let the output be opened, or does not store all the bytes. -/
inductive Blocked (s : FileStore) (p : Path) (bytes : Bytes) : Failure → FileStore → Prop
  | nullCharacter (hopen : s.locateFile p = .error .nullCharacter) :
      Blocked s p bytes Run.nullCharacter s
  | unopened {fault : SystemFault} (hopen : s.locateFile p = .error (.system fault)) :
      Blocked s p bytes (Run.unwritable p (fault.message p)) s
  | broken {l : Location} {count : ℕ} {fault : SystemFault} (hopen : s.locateFile p = .ok l)
      (hstore : s.writeFault? l bytes = some (count, fault)) :
      Blocked s p bytes (Run.unwritable p fault.bareMessage) (s.put l (bytes.take count))

/-- A text that can be encoded is written, unless the system stands in the way. -/
theorem writeOutput_of_encode [Codecs] (s : FileStore) {name : EncodingName} {e : Encoding}
    {t : Text} {bytes : Bytes} (hname : name.encoding? = some e)
    (hencode : e.encode t = .ok bytes) (p : Path) :
    (∃ after, Run.writeOutput s name p t = (after, .ok ()) ∧ after.stored? p = some bytes) ∨
      ∃ after failure, Run.writeOutput s name p t = (after, .error failure) ∧
        Blocked s p bytes failure after := by
  have hwritten := written_writeOutput s name p t
  generalize hresult : Run.writeOutput s name p t = result at hwritten
  cases hwritten with
  | nullCharacter hopen => exact .inr ⟨_, _, rfl, .nullCharacter hopen⟩
  | unopened hopen => exact .inr ⟨_, _, rfl, .unopened hopen⟩
  | notText _ hname' =>
    rw [hname] at hname'
    cases hname'
  | unencodable _ hname' hencode' =>
    obtain rfl := Option.some.inj (hname.symm.trans hname')
    rw [hencode] at hencode'
    cases hencode'
  | unlocated _ hname' hencode' =>
    obtain rfl := Option.some.inj (hname.symm.trans hname')
    rw [hencode] at hencode'
    cases hencode'
  | broken hopen hname' hencode' hstore =>
    obtain rfl := Option.some.inj (hname.symm.trans hname')
    obtain rfl := Except.ok.inj (hencode.symm.trans hencode')
    exact .inr ⟨_, _, rfl, .broken hopen hstore⟩
  | stored hopen hname' hencode' =>
    obtain rfl := Option.some.inj (hname.symm.trans hname')
    obtain rfl := Except.ok.inj (hencode.symm.trans hencode')
    exact .inl ⟨_, rfl, stored?_put hopen bytes⟩

section

variable [Codecs] [Parser] {s : FileStore} {o : Options} {g : Grammar} {files : List Text}

/-- The text that a run writes. -/
def rendered (s : FileStore) (o : Options) (g : Grammar) (files : List Text) : Text :=
  (Run.scan s o g .empty files).notices.render

/-- The characters of the notices of a source stand in the source. -/
theorem mem_noticeTexts (hlaw : Parser.IsLawful) {file : Text} {contents : Contents}
    (h : Holds s o g file contents) {t : Text} (ht : t ∈ contents.noticeTexts o) {c : Char}
    (hc : c ∈ t) :
    c = '\n' ∨ ∃ source, HasText s o file source ∧ c ∈ Text.unifyNewlines source := by
  obtain ⟨group, hgroup, rfl⟩ := List.mem_map.mp ht
  rcases mem_text hc with hc | ⟨comment, hcomment, hc⟩
  · exact .inl hc
  · obtain ⟨source, hsource, hparse⟩ := (yields_iff _ _ _ _ _).mp h.yields
    have hmem : comment ∈ contents.comments := by
      rw [← h.isPartition.flatten_eq]
      exact List.mem_flatten_of_mem (List.mem_of_mem_filter hgroup) hcomment
    exact .inr ⟨source, hsource, (infix_source hlaw hparse hmem).subset hc⟩

theorem mem_rendered (hlaw : Parser.IsLawful)
    (hread : (Run.scan s o g .empty files).failure = none) {c : Char}
    (hc : c ∈ rendered s o g files) :
    c = '\n' ∨ ∃ file ∈ files, ∃ source, HasText s o file source ∧
      c ∈ Text.unifyNewlines source := by
  obtain ⟨found, hfound, hlists⟩ := collects_scan hread
  rcases Text.mem_join hc with hc | ⟨t, ht, hc⟩
  · exact .inl (by simpa using hc)
  · obtain ⟨contents, hcontents, ht⟩ := List.mem_flatMap.mp ((hlists.mem_iff t).mp ht)
    obtain ⟨file, hfile, hholds⟩ := exists_holds hfound hcontents
    rcases mem_noticeTexts hlaw hholds ht hc with hc | ⟨source, hsource, hc⟩
    · exact .inl hc
    · exact .inr ⟨file, hfile, source, hsource, hc⟩

/-- When every source is read, the output can be encoded and is read back as it was. The run
ends well unless the system does not let the output be opened or stored. -/
theorem output_is_read_back (hlaw : Parser.IsLawful) {e : Encoding}
    (hname : o.encoding.encoding? = some e)
    (he : IsStandard e) (hread : ∀ file ∈ files, ∃ comments, Yields s o g file comments)
    (output : Path) :
    ∃ bytes, e.encode (rendered s o g files) = .ok bytes ∧
      e.decode bytes = .ok (rendered s o g files) ∧ '\r' ∉ rendered s o g files ∧
      (∀ c ∈ rendered s o g files, c ≠ '\n' →
        ∃ file ∈ files, ∃ source, HasText s o file source ∧ c ∈ source) ∧
      ((∃ summary, (Run.ofSources s o g files output).outcome = .ok summary ∧
          (Run.ofSources s o g files output).files.stored? output = some bytes) ∨
        ∃ failure, (Run.ofSources s o g files output).outcome = .error failure ∧
          Blocked s output bytes failure (Run.ofSources s o g files output).files) := by
  have hscan := (failure_scan_eq_none_iff .empty).mpr hread
  have halphabet : ∀ c ∈ rendered s o g files, c ≠ '\n' →
      ∃ file ∈ files, ∃ source, HasText s o file source ∧ c ∈ source := by
    intro c hc hfeed
    rcases mem_rendered hlaw hscan hc with hc | ⟨file, hfile, source, hsource, hc⟩
    · exact absurd hc hfeed
    · exact ⟨file, hfile, source, hsource, mem_of_mem_unifyNewlines hc hfeed⟩
  have hreturn : '\r' ∉ rendered s o g files := by
    intro hmem
    rcases mem_rendered hlaw hscan hmem with hfeed | ⟨file, -, source, -, hmem⟩
    · exact absurd hfeed (by decide)
    · exact Text.carriageReturn_not_mem_unifyNewlines source hmem
  have hwritable : ∀ c ∈ rendered s o g files,
      c = '\n' ∨ ∃ bytes source, e.decode bytes = .ok source ∧ c ∈ source := by
    intro c hc
    by_cases hfeed : c = '\n'
    · exact .inl hfeed
    · obtain ⟨file, -, source, ⟨-, hname', hdecode⟩, hmem⟩ := halphabet c hc hfeed
      obtain rfl := Option.some.inj (hname.symm.trans hname')
      exact .inr ⟨_, source, hdecode, hmem⟩
  obtain ⟨bytes, hencode⟩ := he.exists_encode hwritable
  refine ⟨bytes, hencode, he.decode_of_encode hencode, hreturn, halphabet, ?_⟩
  rcases writeOutput_of_encode s hname hencode output with
    ⟨after, hwrite, hstored⟩ | ⟨after, failure, hwrite, hblocked⟩
  · refine .inl ⟨{ output, count := (Run.scan s o g .empty files).notices.size }, ?_⟩
    rw [rendered] at hwrite
    simp only [Run.ofSources, hscan, hwrite, hstored, and_self]
  · refine .inr ⟨failure, ?_⟩
    rw [rendered] at hwrite
    simp only [Run.ofSources, hscan, hwrite, hblocked, and_self]

end

section

attribute [local instance] sampleCodecs readerParser

theorem sample_output_is_read_back :
    rendered sampleFiles sampleOptions .cStyle [['a'], ['b']] = " MIT\n\n (MIT) ".toList ∧
    ∃ bytes, (plain .ascii).decode bytes =
        .ok (rendered sampleFiles sampleOptions .cStyle [['a'], ['b']]) ∧
      (Run.ofSources sampleFiles sampleOptions .cStyle [['a'], ['b']]
        (.ofText ['o'])).files.stored? (.ofText ['o']) = some bytes := by
  have hread : ∀ file ∈ [['a'], ['b']],
      ∃ comments, Yields sampleFiles sampleOptions .cStyle file comments := by
    intro file hfile
    apply exists_yields_of_isSome
    simp only [List.mem_cons, List.not_mem_nil, or_false] at hfile
    rcases hfile with rfl | rfl <;> decide +kernel
  obtain ⟨bytes, -, hdecode, -, -, hends⟩ :=
    output_is_read_back readerParser_isLawful
      (show sampleOptions.encoding.encoding? = some (plain .ascii) by decide +kernel) .ascii hread
      (.ofText ['o'])
  refine ⟨by decide +kernel, bytes, hdecode, ?_⟩
  rcases hends with ⟨-, -, hbytes⟩ | ⟨failure, -, hblocked⟩
  · exact hbytes
  · have hopen : sampleFiles.locateFile (.ofText ['o']) = .ok [['o']] := by decide +kernel
    generalize (Run.ofSources sampleFiles sampleOptions .cStyle _ _).files = after at hblocked
    cases hblocked with
    | nullCharacter hlocate => simp [hopen] at hlocate
    | unopened hlocate => simp [hopen] at hlocate
    | broken _ hstore => cases hstore

end

end LicenseNotices.OutputAlphabet
