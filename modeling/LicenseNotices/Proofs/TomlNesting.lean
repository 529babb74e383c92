import LicenseNotices.Document.Toml
import LicenseNotices.Proofs.Results
import Mathlib.Data.List.Infix

/-!
How many calls it takes to read a document in TOML. Every bracket and every brace behind which a
value stands may keep calls open until that value has been read. Reading gives up only where these
are more than the limit, and it does give up where enough brackets stand side by side.
-/
namespace LicenseNotices.TomlNesting

open Document Document.Toml Results

/-- The calls that the brackets and the braces of a text keep open at most. -/
def weight (t : Text) : ℕ := arrayCalls * t.count '[' + tableCalls * t.count '\x7b'

theorem weight_append (t t' : Text) : weight (t ++ t') = weight t + weight t' := by
  simp only [weight, List.count_append, Nat.mul_add]
  omega

theorem weight_bracket : weight ['['] = arrayCalls := by decide

theorem weight_brace : weight ['\x7b'] = tableCalls := by decide

/-- The rest is behind a place from which reading has gone on. -/
def IsBehind (r r' : Rest) : Prop := r'.text <:+ r.text

theorem isBehind_drop (r : Rest) (n : ℕ) : IsBehind r (r.drop n) := List.drop_suffix n r.text

theorem isBehind_skipWhile (p : Char → Bool) (r : Rest) : IsBehind r (r.skipWhile p) :=
  isBehind_drop r _

theorem isBehind_skipBlanks (r : Rest) : IsBehind r (skipBlanks r) := isBehind_skipWhile _ r

theorem isBehind_takeQuotes (quote : Char) (t : Text) (r : Rest) :
    IsBehind r (takeQuotes quote t r).2 := by
  rw [takeQuotes]
  split
  · split
    · split
      · exact isBehind_drop r 2
      · exact isBehind_drop r 1
    · exact List.suffix_rfl
  · split
    · exact isBehind_drop r 1
    · exact List.suffix_rfl
  · exact List.suffix_rfl

theorem isBehind_dropText? {r r' : Rest} {t : Text} (h : r.dropText? t = some r') :
    IsBehind r r' := by
  rw [Rest.dropText?] at h
  split at h
  · cases h
    exact isBehind_drop r _
  · cases h

/-- Brackets side by side, each of which opens an array in the one before it. -/
def brackets (n : ℕ) : Text := List.replicate n '['

theorem skipBlanks_brackets (n offset : ℕ) :
    skipBlanks ⟨brackets n, offset⟩ = ⟨brackets n, offset⟩ := by
  cases n <;>
    simp [skipBlanks, Rest.skipWhile, Rest.drop, brackets, List.replicate_succ, isBlank]

theorem joinLineEnds_brackets (n : ℕ) : joinLineEnds (brackets n) = brackets n := by
  induction n with
  | zero => rfl
  | succ n ih => rw [brackets, List.replicate_succ, joinLineEnds, ← brackets, ih]; simp

theorem skipFiller_brackets (n limit offset : ℕ) :
    skipFiller limit ⟨brackets n, offset⟩ = .ok ⟨brackets n, offset⟩ := by
  cases limit with
  | zero => rfl
  | succ limit =>
    cases n with
    | zero => simp [skipFiller, brackets, Rest.skipWhile, Rest.drop, skipComment, pure, Except.pure]
    | succ n =>
      simp [skipFiller, brackets, List.replicate_succ, Rest.skipWhile, Rest.drop, skipComment,
        isBlank, pure, Except.pure]

theorem head?_brackets_ne (n : ℕ) : (brackets n).head? ≠ some ']' := by
  cases n <;> simp [brackets, List.replicate_succ]

section

variable [NestingLimits]

/-- A value stands in the text to which the brackets and the braces in front of it add more calls
than may be open. -/
def IsCrowded (calls : ℕ) (t : Text) : Prop :=
  ∃ front behind, t = front ++ behind ∧
    NestingLimits.toml < calls + weight front + NestingLimits.scalarCalls behind

theorem IsCrowded.append {calls : ℕ} {t : Text} (h : IsCrowded calls t) (before : Text) :
    IsCrowded calls (before ++ t) := by
  obtain ⟨front, behind, rfl, hcalls⟩ := h
  refine ⟨before ++ front, behind, by rw [List.append_assoc], ?_⟩
  rw [weight_append]
  omega

/-- What reading from the rest on has come to. -/
def Reads {α : Type} (calls : ℕ) (rest : α → Rest) (r : Rest) : Outcome α → Prop
  | .ok a => IsBehind r (rest a)
  | .error .tooDeep => IsCrowded calls r.text
  | .error _ => True

section

variable {α β : Type} {calls : ℕ} {rest : α → Rest} {rest' : β → Rest} {r r' : Rest}

theorem Reads.of_isBehind (h : IsBehind r r') {x : Outcome α} (hx : Reads calls rest r' x) :
    Reads calls rest r x := by
  cases x with
  | ok a => exact hx.trans h
  | error e =>
    cases e with
    | tooDeep =>
      obtain ⟨before, hbefore⟩ := h
      have hcrowded : IsCrowded calls (before ++ r'.text) := hx.append before
      rw [hbefore] at hcrowded
      exact hcrowded
    | _ => trivial

theorem Reads.bind_of_isBehind {x : Outcome α} (hx : Reads calls rest r x) {f : α → Outcome β}
    (hf : ∀ a, IsBehind r (rest a) → Reads calls rest' r (f a)) :
    Reads calls rest' r (x >>= f) := by
  cases x with
  | ok a => exact hf a hx
  | error e => cases e <;> exact hx

theorem Reads.bind {x : Outcome α} (hx : Reads calls rest r x) {f : α → Outcome β}
    (hf : ∀ a, Reads calls rest' (rest a) (f a)) : Reads calls rest' r (x >>= f) :=
  hx.bind_of_isBehind fun a h => .of_isBehind h (hf a)

theorem Reads.map {γ : Type} {x : Outcome (α × Rest)} (hx : Reads calls Prod.snd r x)
    (f : α → γ) : Reads calls Prod.snd r (x.map fun (a, r) => (f a, r)) := by
  cases x with
  | ok read => exact hx
  | error e => cases e <;> exact hx

/-- What is read behind a bracket or a brace is read with more calls. -/
theorem Reads.of_open {c : Char} {t : Text} (htext : r.text = c :: t) {more : ℕ}
    (hmore : weight [c] = more) {x : Outcome α} (hx : Reads (calls + more) rest (r.drop 1) x) :
    Reads calls rest r x := by
  cases x with
  | ok a => exact hx.trans (isBehind_drop r 1)
  | error e =>
    cases e with
    | tooDeep =>
      obtain ⟨front, behind, hsplit, hcalls⟩ := hx
      have hrest : (r.drop 1).text = t := by rw [Rest.drop, htext]; rfl
      refine ⟨c :: front, behind, by rw [htext, ← hrest, hsplit]; rfl, ?_⟩
      rw [← List.singleton_append, weight_append, hmore]
      omega
    | _ => trivial

theorem Reads.of_lt {c : Char} {t : Text} (htext : r.text = c :: t) {more : ℕ}
    (hmore : weight [c] = more) (h : NestingLimits.toml < calls + more) :
    Reads calls rest r (.error .tooDeep) :=
  ⟨[c], t, htext, by omega⟩

end

section

variable (calls : ℕ) (r : Rest)

theorem reads_until (terminator : Text) (refused : Char → Bool) :
    Reads calls Prod.snd r (readUntil terminator refused r) := by
  rw [readUntil]
  dsimp only
  split
  · trivial
  · split
    · trivial
    · exact isBehind_drop r _

theorem reads_comment : Reads calls id r (skipComment r) := by
  rw [skipComment.eq_def]
  dsimp only
  split
  · split
    · trivial
    · exact isBehind_drop r _
  · exact List.suffix_rfl

theorem reads_filler (limit : ℕ) : Reads calls id r (skipFiller limit r) := by
  induction limit generalizing r with
  | zero => exact List.suffix_rfl
  | succ limit ih =>
    rw [skipFiller]
    have hcomment := (reads_comment calls (r.skipWhile fun c => isBlank c || c = '\n')).of_isBehind
      (isBehind_skipWhile _ r)
    refine hcomment.bind_of_isBehind fun behind hbehind => ?_
    split
    · exact List.suffix_rfl
    · exact .of_isBehind hbehind (ih behind)

theorem reads_hex (count : ℕ) : Reads calls Prod.snd r (readHex count r) := by
  rw [readHex]
  split
  · split
    · exact isBehind_drop r _
    · trivial
  · trivial

theorem reads_escape (isMultiline : Bool) : Reads calls Prod.snd r (readEscape isMultiline r) := by
  have hbehind : IsBehind r (r.drop 2) := isBehind_drop r 2
  rw [readEscape.eq_def]
  dsimp only
  split
  · split
    · exact (isBehind_skipWhile _ _).trans hbehind
    · split
      · split
        · exact (isBehind_skipBlanks _).trans hbehind
        · exact ((isBehind_skipWhile _ _).trans (isBehind_skipBlanks _)).trans hbehind
        · trivial
      · split
        case h_8 => exact .of_isBehind hbehind (reads_hex calls _ _)
        case h_9 => exact .of_isBehind hbehind (reads_hex calls _ _)
        case h_10 => trivial
        all_goals exact hbehind
  · trivial

theorem reads_basic (isMultiline : Bool) (limit : ℕ) (read : Text) :
    Reads calls Prod.snd r (readBasic isMultiline limit read r) := by
  induction limit generalizing read r with
  | zero => trivial
  | succ limit ih =>
    rw [readBasic]
    split
    · trivial
    · split
      · exact isBehind_drop r _
      · split
        · exact isBehind_drop r _
        · exact .of_isBehind (isBehind_drop r 1) (ih _ _)
    · exact (reads_escape calls r _).bind fun escape => ih _ _
    · split
      · trivial
      · exact .of_isBehind (isBehind_drop r 1) (ih _ _)

theorem reads_literal : Reads calls Prod.snd r (readLiteral r) := by
  refine .of_isBehind (isBehind_drop r 1) ((reads_until calls _ _ _).bind fun read => ?_)
  exact isBehind_drop read.2 1

theorem reads_multiline (quote : Char) : Reads calls Prod.snd r (readMultiline quote r) := by
  unfold readMultiline
  extract_lets behind first
  have hfirst : IsBehind r first := by
    refine List.IsSuffix.trans ?_ (isBehind_drop r 3)
    dsimp only [first]
    split
    · exact isBehind_drop _ 1
    · exact List.suffix_rfl
  refine .of_isBehind hfirst ?_
  split
  · refine (reads_until calls first _ _).bind fun read => ?_
    exact (isBehind_takeQuotes _ _ _).trans (isBehind_drop read.2 3)
  · refine (reads_basic calls first _ _ _).bind fun read => ?_
    exact isBehind_takeQuotes _ _ _

theorem reads_keyPart : Reads calls Prod.snd r (readKeyPart r) := by
  rw [readKeyPart.eq_def]
  split
  · exact reads_literal calls r
  · exact .of_isBehind (isBehind_drop r 1) (reads_basic calls _ _ _ _)
  · split
    · exact isBehind_drop r _
    · trivial
  · trivial

theorem reads_keyParts (limit : ℕ) (read : Key) :
    Reads calls Prod.snd r (readKeyParts limit read r) := by
  induction limit generalizing read r with
  | zero => exact List.suffix_rfl
  | succ limit ih =>
    rw [readKeyParts]
    split
    · refine .of_isBehind ((isBehind_skipBlanks _).trans (isBehind_drop r 1)) ?_
      exact (reads_keyPart calls _).bind fun part => .of_isBehind (isBehind_skipBlanks _) (ih _ _)
    · exact List.suffix_rfl

theorem reads_key : Reads calls Prod.snd r (readKey r) :=
  (reads_keyPart calls r).bind fun _ =>
    .of_isBehind (isBehind_skipBlanks _) (reads_keyParts calls _ _ _)

theorem reads_decimal {answer : Outcome (Value × Rest)} (h : decimalAt? r = some answer) :
    Reads calls Prod.snd r answer := by
  unfold decimalAt? at h
  extract_lets _ _ _ unsigned whole behind fraction behind' exponent behind'' at h
  have hunsigned : IsBehind r unsigned := by
    dsimp only [unsigned]
    split
    · exact isBehind_drop r 1
    · exact List.suffix_rfl
  have hfraction : IsBehind behind behind' := by
    dsimp only [behind']
    split
    · exact List.suffix_rfl
    · exact isBehind_drop behind _
  have hbehind : IsBehind r behind'' :=
    (((isBehind_drop behind' _).trans hfraction).trans (isBehind_drop unsigned _)).trans hunsigned
  split at h
  · cases h
  · split at h
    · split at h
      · cases h
        trivial
      · cases h
        exact hbehind
    · cases h
      exact hbehind

theorem reads_plain : Reads calls Prod.snd r (readPlain r) := by
  rw [readPlain]
  split
  · split
    · exact isBehind_drop r _
    · trivial
  · split
    · exact isBehind_drop r _
    · split
      · rename_i answer hanswer
        exact reads_decimal calls r hanswer
      · split
        · rename_i x r' hword
          obtain ⟨row, -, hword⟩ := List.exists_of_findSome?_eq_some hword
          obtain ⟨behind, hdrop, hpair⟩ := Option.map_eq_some_iff.mp hword
          cases hpair
          exact isBehind_dropText? hdrop
        · trivial

theorem reads_scalar : Reads calls Prod.snd r (readScalar r) := by
  rw [readScalar.eq_def]
  split
  · refine Reads.map ?_ Value.text
    split
    · exact reads_multiline calls r _
    · exact .of_isBehind (isBehind_drop r 1) (reads_basic calls _ _ _ _)
  · refine Reads.map ?_ Value.text
    split
    · exact reads_multiline calls r _
    · exact reads_literal calls r
  · split
    · exact isBehind_dropText? ‹_›
    · exact isBehind_dropText? ‹_›
    · exact reads_plain calls r

end

section

variable {limit : ℕ}

theorem reads_value_succ
    (hitems : ∀ calls read r, Reads calls Prod.snd r (readItems calls limit read r))
    (hentries :
      ∀ calls ledger read r, Reads calls Prod.snd r (readEntries calls limit ledger read r))
    (calls : ℕ) (r : Rest) : Reads calls Prod.snd r (readValue calls (limit + 1) r) := by
  rw [readValue.eq_def]
  dsimp only
  split
  · rename_i t hopen
    split
    · exact .of_lt hopen weight_bracket ‹_›
    · refine .of_open hopen weight_bracket ((reads_filler _ _ _).bind fun r' => ?_)
      split
      · exact isBehind_drop r' 1
      · exact hitems _ _ r'
  · rename_i t hopen
    split
    · exact .of_lt hopen weight_brace ‹_›
    · refine .of_open hopen weight_brace (.of_isBehind (isBehind_skipBlanks _) ?_)
      split
      · exact isBehind_drop _ 1
      · exact hentries _ _ _ _
  · split
    · rename_i hcalls
      exact ⟨[], r.text, rfl, hcalls⟩
    · exact reads_scalar calls r

theorem reads_items_succ (hvalue : ∀ calls r, Reads calls Prod.snd r (readValue calls limit r))
    (hitems : ∀ calls read r, Reads calls Prod.snd r (readItems calls limit read r))
    (calls : ℕ) (read : List Value) (r : Rest) :
    Reads calls Prod.snd r (readItems calls (limit + 1) read r) := by
  rw [readItems]
  refine (hvalue calls r).bind fun read' => (reads_filler _ _ _).bind fun r' => ?_
  dsimp only [id]
  split
  · exact isBehind_drop r' 1
  · refine .of_isBehind (isBehind_drop r' 1) ((reads_filler _ _ _).bind fun r'' => ?_)
    split
    · exact isBehind_drop r'' 1
    · exact hitems _ _ r''
  · trivial

theorem reads_pair_succ (hvalue : ∀ calls r, Reads calls Prod.snd r (readValue calls limit r))
    (calls : ℕ) (r : Rest) :
    Reads calls (fun read => read.2.2) r (readPair calls (limit + 1) r) := by
  rw [readPair]
  refine (reads_key calls r).bind fun read' => ?_
  dsimp only
  split
  · trivial
  · refine .of_isBehind ((isBehind_skipBlanks _).trans (isBehind_drop read'.2 1)) ?_
    exact (hvalue calls _).bind fun read'' => List.suffix_rfl

theorem reads_entries_succ
    (hpair : ∀ calls r, Reads calls (fun read => read.2.2) r (readPair calls limit r))
    (hentries :
      ∀ calls ledger read r, Reads calls Prod.snd r (readEntries calls limit ledger read r))
    (calls : ℕ) (ledger : Ledger) (read : Entries) (r : Rest) :
    Reads calls Prod.snd r (readEntries calls (limit + 1) ledger read r) := by
  rw [readEntries]
  refine (hpair calls r).bind fun pair => ?_
  dsimp only
  split
  · trivial
  · split
    · trivial
    · trivial
    · refine .of_isBehind (isBehind_skipBlanks _) ?_
      split
      · exact isBehind_drop _ 1
      · exact .of_isBehind ((isBehind_skipBlanks _).trans (isBehind_drop _ 1))
          (hentries _ _ _ _)
      · trivial

end

/-- Reading a value, or what is left of an array or a table, with some calls open meets a place
at which more are needed than may be open, or it goes on behind what it has read. -/
theorem reads_values (limit : ℕ) :
    (∀ calls r, Reads calls Prod.snd r (readValue calls limit r)) ∧
    (∀ calls read r, Reads calls Prod.snd r (readItems calls limit read r)) ∧
    (∀ calls r, Reads calls (fun read => read.2.2) r (readPair calls limit r)) ∧
    ∀ calls ledger read r, Reads calls Prod.snd r (readEntries calls limit ledger read r) := by
  induction limit with
  | zero =>
    refine ⟨fun calls r => ?_, fun calls read r => ?_, fun calls r => ?_,
      fun calls ledger read r => ?_⟩
    · rw [readValue]; trivial
    · rw [readItems]; trivial
    · rw [readPair]; trivial
    · rw [readEntries]; trivial
  | succ limit ih =>
    obtain ⟨ihValue, ihItems, ihPair, ihEntries⟩ := ih
    exact ⟨reads_value_succ ihItems ihEntries, reads_items_succ ihValue ihItems,
      reads_pair_succ ihValue, reads_entries_succ ihPair ihEntries⟩

section

variable (d : Draft) (r : Rest)

theorem reads_header : Reads 0 Prod.snd r (readHeader d r) := by
  rw [readHeader]
  refine .of_isBehind ((isBehind_skipBlanks _).trans (isBehind_drop r 1)) ?_
  refine (reads_key 0 _).bind fun ⟨key, r'⟩ => ?_
  dsimp only
  split
  · trivial
  · split
    · trivial
    · split
      · trivial
      · exact isBehind_drop r' 1

theorem reads_listHeader : Reads 0 Prod.snd r (readListHeader d r) := by
  rw [readListHeader]
  refine .of_isBehind ((isBehind_skipBlanks _).trans (isBehind_drop r 2)) ?_
  refine (reads_key 0 _).bind fun ⟨key, r'⟩ => ?_
  dsimp only
  split
  · trivial
  · split
    · trivial
    · split
      · trivial
      · exact isBehind_drop r' 2

theorem reads_assignment : Reads 0 Prod.snd r (readAssignment d r) := by
  rw [readAssignment]
  refine ((reads_values _).2.2.1 0 r).bind fun ⟨key, v, r'⟩ => ?_
  dsimp only
  split
  · trivial
  · split
    · trivial
    · split
      · trivial
      · exact List.suffix_rfl

theorem reads_statement : Reads 0 Prod.snd r (readStatement d r) := by
  rw [readStatement.eq_def]
  dsimp only
  split
  · split
    · exact reads_listHeader _ r
    · exact reads_header _ r
  · exact List.suffix_rfl
  · split
    · exact reads_assignment d r
    · trivial
  · exact List.suffix_rfl

end

/-- Reading line after line meets a place at which more calls are needed than may be open, or it
leaves nothing or ends in another way. -/
theorem reads_lines (limit : ℕ) (d : Draft) (r : Rest) :
    Reads 0 (fun _ => ⟨[], 0⟩) r (readLines limit d r) := by
  induction limit generalizing d r with
  | zero => exact List.nil_suffix
  | succ limit ih =>
    rw [readLines]
    dsimp only
    refine .of_isBehind (isBehind_skipBlanks r) ?_
    split
    · exact List.nil_suffix
    · exact .of_isBehind (isBehind_drop _ 1) (ih d _)
    · refine (reads_statement d _).bind fun ⟨d', r'⟩ => .of_isBehind (isBehind_skipBlanks r') ?_
      refine (reads_comment 0 _).bind fun r'' => ?_
      dsimp only [id]
      split
      · exact List.nil_suffix
      · exact .of_isBehind (isBehind_drop r'' 1) (ih d' _)
      · trivial

/-- Reading goes too deep in crowded documents only. -/
theorem isCrowded_of_tooDeep {source : Text} (h : parse source = .error .tooDeep) :
    IsCrowded 0 (joinLineEnds source) := by
  have hreads := reads_lines ((joinLineEnds source).length + 1) {} ⟨joinLineEnds source, 0⟩
  rw [parse] at h
  rcases (bind_eq_error_iff _ _ _).mp h with h | ⟨d, -, h⟩
  · rwa [h] at hreads
  · cases h

theorem readValue_brackets {n calls limit : ℕ} (offset : ℕ) (hlimit : 2 * n ≤ limit)
    (hlow : calls ≤ NestingLimits.toml) (hhigh : NestingLimits.toml < calls + arrayCalls * n) :
    readValue calls limit ⟨brackets n, offset⟩ = .error .tooDeep := by
  induction n generalizing calls limit offset with
  | zero => omega
  | succ n ih =>
    obtain ⟨limit, rfl⟩ := Nat.exists_eq_add_of_le' hlimit
    have htext : brackets (n + 1) = '[' :: brackets n := List.replicate_succ
    have hdrop : Rest.drop ⟨'[' :: brackets n, offset⟩ 1 = ⟨brackets n, offset + 1⟩ := rfl
    rw [htext, show limit + 2 * (n + 1) = limit + 2 * n + 1 + 1 by omega]
    by_cases hcalls : NestingLimits.toml < calls + arrayCalls
    · simp only [readValue, hcalls, if_true]
    · have hitem : readValue (calls + arrayCalls) (limit + 2 * n) ⟨brackets n, offset + 1⟩ =
          .error .tooDeep := by
        refine ih _ (by omega) (by omega) ?_
        rw [Nat.mul_succ] at hhigh
        omega
      simp only [readValue, hcalls, if_false, hdrop, skipFiller_brackets, ok_bind,
        head?_brackets_ne, readItems, hitem, error_bind]

/-- Where brackets stand side by side, reading goes too deep as soon as they need more calls than
may be open. -/
theorem tooDeep_of_brackets {n : ℕ} (h : NestingLimits.toml < arrayCalls * n) :
    parse ("a=".toList ++ brackets n) = .error .tooDeep := by
  have hline : joinLineEnds ("a=".toList ++ brackets n) = 'a' :: '=' :: brackets n := by
    simp [joinLineEnds, joinLineEnds_brackets]
  have hkeyChar : isBareKeyChar 'a' = true := rfl
  have hsign : isBareKeyChar '=' = false := rfl
  have hkey : readKey ⟨'a' :: '=' :: brackets n, 0⟩ =
      .ok (["a".toList], ⟨'=' :: brackets n, 1⟩) := by
    simp [readKey, readKeyPart, readKeyParts, skipBlanks, Rest.skipWhile, Rest.drop, hkeyChar,
      hsign, isBlank]
  have hdrop : Rest.drop ⟨'=' :: brackets n, 1⟩ 1 = ⟨brackets n, 2⟩ := rfl
  have hpair (limit : ℕ) (hlimit : 2 * n ≤ limit) :
      readPair 0 (limit + 1) ⟨'a' :: '=' :: brackets n, 0⟩ = .error .tooDeep := by
    have hvalue : readValue 0 limit ⟨brackets n, 2⟩ = .error .tooDeep :=
      readValue_brackets 2 hlimit (Nat.zero_le _) (by omega)
    simp [readPair, hkey, hdrop, skipBlanks_brackets, hvalue]
  have hblanks : skipBlanks ⟨'a' :: '=' :: brackets n, 0⟩ = ⟨'a' :: '=' :: brackets n, 0⟩ := rfl
  have hassignment : readAssignment {} ⟨'a' :: '=' :: brackets n, 0⟩ = .error .tooDeep := by
    rw [readAssignment, hpair _ (by simp [brackets]; omega)]
    rfl
  have hstatement : readStatement {} ⟨'a' :: '=' :: brackets n, 0⟩ = .error .tooDeep := by
    simp [readStatement, hkeyChar, hassignment]
  rw [parse, hline]
  simp [readLines, hblanks, hstatement]

end

end LicenseNotices.TomlNesting
