import LicenseNotices.Proofs.EncodingRoundTrip

/-!
Line feeds in the encodings. A code page whose table is given in full has the line feed in one
of its rows, and the other tables have it where ASCII has it. So an encoding whose tables are
kept, and which is found by its name, writes line feeds, unless it writes nothing at all.
-/
namespace LicenseNotices.Encoding

namespace CodePage

/-- Every row of a table has sixteen characters. -/
theorem length_row : ∀ page ∈ codePageRows, ∀ row ∈ page.2, row.length = 64 := by
  rw [codePageRows]
  -- one goal for each row
  repeat' refine List.forall_mem_cons.mpr ⟨?_, ?_⟩
  all_goals first
    | exact List.forall_mem_nil _
    | rw [String.length_ofList]; rfl

/-- Eight rows are the upper half of a table. The tables with all sixteen rows have a line feed
among their characters. -/
theorem halves_or_newline : ∀ page ∈ codePageRows, page.2.length = 8 ∨
    page.2.length = 16 ∧ ∃ row ∈ page.2, some '\n' ∈ charactersOfRow row.toList := by
  rw [codePageRows]
  -- one goal for each table; in all but one of the full ones the third row holds the line feed
  repeat' refine List.forall_mem_cons.mpr ⟨?_, ?_⟩
  all_goals first
    | exact List.forall_mem_nil _
    | exact .inl rfl
    | refine .inr ⟨rfl, _, .tail _ (.tail _ (.head _)), ?_⟩
      rw [String.toList_ofList]
      decide
    | refine .inr ⟨rfl, _, .head _, ?_⟩
      rw [String.toList_ofList]
      decide

theorem length_charactersOfRow (t : Text) : (charactersOfRow t).length = t.length / 4 := by
  fun_induction charactersOfRow t with
  | case1 a b c d rest value entry ih =>
    simp only [List.length_cons]
    omega
  | case2 t hshort =>
    match t, hshort with
    | [], _ | [_], _ | [_, _], _ | [_, _, _], _ => simp
    | a :: b :: c :: d :: rest, hshort => exact absurd rfl (hshort a b c d rest)

theorem length_flatMap_rows {rows : List String} (h : ∀ row ∈ rows, row.length = 64) :
    (rows.flatMap fun row => charactersOfRow row.toList).length = 16 * rows.length := by
  induction rows with
  | nil => rfl
  | cons row rest ih =>
    obtain ⟨hrow, hrest⟩ := List.forall_mem_cons.mp h
    rw [List.flatMap_cons, List.length_append, length_charactersOfRow, String.length_toList, hrow,
      ih hrest, List.length_cons]
    omega

/-- Every table assigns a byte to the line feed. -/
theorem isSome_byte?_newline {name : String} {p : CodePage} (h : codePageNamed? name = some p) :
    (p.byte? '\n').isSome = true := by
  obtain ⟨⟨title, rows⟩, hfind, rfl⟩ := Option.map_eq_some_iff.mp h
  have hpage := List.mem_of_find?_eq_some hfind
  have hlength := length_flatMap_rows (length_row _ hpage)
  have hplace : ∃ i < 256, (ofRows rows).characters[i]? = some (some '\n') := by
    rcases halves_or_newline _ hpage with hhalf | ⟨hwhole, row, hrow, hfeed⟩
    · refine ⟨'\n'.toNat, by decide, ?_⟩
      dsimp only at hlength hhalf
      rw [hhalf] at hlength
      simp [ofRows, hlength]
    · dsimp only at hlength hwhole
      rw [hwhole] at hlength
      have hmem : some '\n' ∈ rows.flatMap fun row => charactersOfRow row.toList :=
        List.mem_flatMap.mpr ⟨row, hrow, hfeed⟩
      obtain ⟨i, hi⟩ := List.mem_iff_getElem?.mp hmem
      refine ⟨i, ?_, ?_⟩
      · obtain ⟨hlt, -⟩ := List.getElem?_eq_some_iff.mp hi
        omega
      · simpa [ofRows, hlength] using hi
  obtain ⟨i, hi, hfeed⟩ := hplace
  refine isSome_byte? (b := UInt8.ofNat i) ?_
  have hbyte : (UInt8.ofNat i).toNat = i := Utf8.toNat_byte hi
  rw [character?, hbyte, hfeed]
  rfl

end CodePage

variable [Codecs]

/-- Every encoding of these that has a name writes line feeds, if it writes anything at all. -/
theorem exists_encode_newline {name : Text} {e : Encoding} (hname : named? name = some e)
    (he : e.IsKept) {t : Text} {bytes : Bytes} (h : e.encode t = .ok bytes) :
    ∃ line, e.encode ['\n'] = .ok line := by
  cases e with
  | utf8 marked => cases marked <;> exact ⟨_, rfl⟩
  | utf16 order => cases order <;> exact ⟨_, rfl⟩
  | utf32 order => cases order <;> exact ⟨_, rfl⟩
  | plain code =>
    have hfeed : '\n'.toNat < code.limit := by
      obtain ⟨full, -, hfull⟩ := Option.bind_eq_some_iff.mp hname
      rw [ofFullName?.eq_def] at hfull
      split at hfull
      any_goals cases hfull
      · decide
      · decide
      · decide
      · decide
      · split at hfull
        · cases hfull
        · split at hfull <;> cases hfull
    exact (Plain.exists_encodeFrom_iff code 0 _).mpr (by simpa using hfeed)
  | page title =>
    rw [encode] at h ⊢
    cases hpage : codePageNamed? title with
    | none =>
      rw [hpage] at h
      cases h
    | some p =>
      exact (CodePage.exists_encodeFrom_iff p 0 _).mpr
        (by simpa using CodePage.isSome_byte?_newline hpage)
  | foreign title => exact absurd rfl (he title)
  | undefinedCode => cases h

end LicenseNotices.Encoding
