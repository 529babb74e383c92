/-!
A text is the list of its characters, one entry for each code point. A position
in it is a line, counted from one, and a column, counted from zero; a line feed
alone ends a line. Reading a text moves the position forward character by
character, so the position behind two texts is found by reading one after the
other.
-/
namespace LicenseNotices

abbrev Text := List Char

/-- A place in a text. The column counts the characters since the last line feed. -/
structure Position where
  line : Nat := 1
  column : Nat := 0
  deriving DecidableEq, Repr

namespace Position

/-- The position behind one more character. -/
def next (p : Position) (c : Char) : Position :=
  if c = '\n' then ⟨p.line + 1, 0⟩ else ⟨p.line, p.column + 1⟩

/-- The position behind a whole text read from `p` on. -/
def advance (p : Position) (t : Text) : Position := t.foldl next p

@[simp] theorem advance_nil (p : Position) : p.advance [] = p := rfl

@[simp] theorem advance_cons (p : Position) (c : Char) (t : Text) :
    p.advance (c :: t) = (p.next c).advance t := rfl

theorem advance_append (p : Position) (s t : Text) :
    p.advance (s ++ t) = (p.advance s).advance t := List.foldl_append

end Position

namespace Text

/-- The characters behind the last line feed. -/
def lastLine (t : Text) : Text := (t.reverse.takeWhile (· ≠ '\n')).reverse

/-- The texts with `sep` between neighbours. -/
def join (sep : Text) : List Text → Text
  | [] => []
  | [t] => t
  | t :: rest => t ++ sep ++ join sep rest

@[simp] theorem join_nil (sep : Text) : join sep [] = [] := rfl

@[simp] theorem join_singleton (sep t : Text) : join sep [t] = t := rfl

theorem join_cons_cons (sep t u : Text) (rest : List Text) :
    join sep (t :: u :: rest) = t ++ sep ++ join sep (u :: rest) := rfl

theorem mem_join {sep : Text} {ts : List Text} {c : Char} (h : c ∈ join sep ts) :
    c ∈ sep ∨ ∃ t ∈ ts, c ∈ t := by
  fun_induction join sep ts with
  | case1 => simp at h
  | case2 t => exact .inr ⟨t, by simp, h⟩
  | case3 t rest _ ih =>
    rcases List.mem_append.mp h with h | h
    · rcases List.mem_append.mp h with h | h
      · exact .inr ⟨t, by simp, h⟩
      · exact .inl h
    · rcases ih h with h | ⟨u, hu, h⟩
      · exact .inl h
      · exact .inr ⟨u, List.mem_cons_of_mem t hu, h⟩

theorem mem_join_of_mem {sep t : Text} {ts : List Text} {c : Char} (ht : t ∈ ts) (hc : c ∈ t) :
    c ∈ join sep ts := by
  fun_induction join sep ts with
  | case1 => cases ht
  | case2 u =>
    rw [List.mem_singleton] at ht
    exact ht ▸ hc
  | case3 u rest _ ih =>
    rw [List.append_assoc, List.mem_append, List.mem_append]
    rcases List.mem_cons.mp ht with rfl | ht
    · exact .inl hc
    · exact .inr (.inr (ih ht))

end Text

end LicenseNotices
