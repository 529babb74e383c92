import LicenseNotices.JavaScript.Grammar

/-!
Where the goals inside strings come from. A goal that waits for the end of a string is put on the
stack by the quote that opens the string and in no other way, and quotes that open are of the two
ordinary kinds.
-/
namespace LicenseNotices.JavaScript

open Goal Token

/-- Only the quote that opens a string leaves a goal inside that string. -/
def Quotes (t : Token) (a : Alternatives) : Prop :=
  ∀ goals ∈ a, ∀ q, stringBody q ∈ goals → t = .quote q

section

variable {t : Token} {a b : Alternatives} {goals : List Goal}

@[simp] theorem quotes_nil : Quotes t [] := by
  simp [Quotes]

@[simp] theorem quotes_cons :
    Quotes t (goals :: a) ↔ (∀ q, stringBody q ∈ goals → t = .quote q) ∧ Quotes t a :=
  List.forall_mem_cons

@[simp] theorem quotes_append : Quotes t (a ++ b) ↔ Quotes t a ∧ Quotes t b :=
  List.forall_mem_append

@[simp] theorem quotes_map_append (h : ∀ q, stringBody q ∉ goals) :
    Quotes t (a.map (· ++ goals)) ↔ Quotes t a := by
  simp [Quotes, h]

@[simp] theorem quotes_wordOperand (s : Slot) (w : String) : Quotes t (wordOperand s w) := by
  rw [wordOperand.eq_def]
  repeat' split
  all_goals simp [classTail]

@[simp] theorem quotes_startOperand (s : Slot) : Quotes t (startOperand s t) := by
  rw [startOperand.eq_def]
  repeat' split
  all_goals simp

@[simp] theorem quotes_continueOperand (s : Slot) (o : Operand) :
    Quotes t (continueOperand s o t) := by
  rw [continueOperand.eq_def]
  dsimp only
  repeat' split
  all_goals simp

@[simp] theorem quotes_closeGroup (owner : Owner) (c : Cover) : Quotes t (closeGroup owner c) := by
  rw [closeGroup.eq_def]
  split <;> simp

@[simp] theorem quotes_closeLiteral (owner : Owner) (c : Cover) :
    Quotes t (closeLiteral owner c) := by
  rw [closeLiteral.eq_def]
  split <;> simp

@[simp] theorem quotes_readGroup (owner : Owner) (c : Cover) (state : ListState) :
    Quotes t (readGroup owner c state t) := by
  rw [readGroup.eq_def]
  dsimp only
  repeat' split
  all_goals simp

@[simp] theorem quotes_readArray (owner : Owner) (c : Cover) (state : ListState) :
    Quotes t (readArray owner c state t) := by
  rw [readArray.eq_def]
  split <;> simp

@[simp] theorem quotes_startKey {behind : Goal} (h : ∀ q, stringBody q ≠ behind) :
    Quotes t (startKey behind t) := by
  rw [startKey.eq_def]
  split <;> simp [h]

@[simp] theorem quotes_readObject (owner : Owner) (c : Cover) (state : MemberState) :
    Quotes t (readObject owner c state t) := by
  rw [readObject.eq_def]
  dsimp only
  repeat' split
  all_goals simp [methodTail]

@[simp] theorem quotes_startMember : Quotes t (startMember t) := by
  rw [startMember.eq_def]
  repeat' split
  all_goals simp

@[simp] theorem quotes_readField : Quotes t (readField t) := by
  rw [readField.eq_def]
  split <;> simp

@[simp] theorem quotes_readMember (state : MemberState) : Quotes t (readMember state t) := by
  rw [readMember.eq_def]
  repeat' split
  all_goals simp [methodTail]

@[simp] theorem quotes_readClass : Quotes t (readClass t) := by
  rw [readClass.eq_def]
  split <;> simp

@[simp] theorem quotes_nameStatement (w : String) : Quotes t (nameStatement w) := by
  rw [nameStatement]
  split <;> simp [expressionTail]

@[simp] theorem quotes_startStatement : Quotes t (startStatement t) := by
  rw [startStatement.eq_def]
  repeat' split
  all_goals simp [declarationTail, expressionTail]

theorem quotes_readModule (g : Goal) : Quotes t (readModule g t) := by
  rw [readModule.eq_def]
  repeat' split
  all_goals simp [declarationTail, sourceTail, importTail]

theorem quotes_readMarkup (g : Goal) : Quotes t (readMarkup g t) := by
  rw [readMarkup.eq_def]
  split <;> simp

theorem quotes_readFor (g : Goal) : Quotes t (readFor g t) := by
  rw [readFor.eq_def]
  repeat' split
  all_goals simp [forTail, forEachTail]

theorem quotes_readStatement (g : Goal) : Quotes t (readStatement g t) := by
  rw [readStatement.eq_def]
  repeat' split
  all_goals simp [methodTail, expressionTail, classTail]

theorem quotes_readExpression {g : Goal} (hg : ∀ q, g ≠ stringBody q) :
    Quotes t (readExpression g t) := by
  cases g
  case stringBody q => exact absurd rfl (hg q)
  all_goals
    rw [readExpression.eq_def]
    dsimp only
    repeat' split
    all_goals simp [classTail]

theorem quotes_read {g : Goal} (hg : ∀ q, g ≠ stringBody q) : Quotes t (g.read t) := by
  rw [Goal.read.eq_def]
  cases g <;>
    first
    | exact quotes_readModule _
    | exact quotes_readMarkup _
    | exact quotes_readFor _
    | exact quotes_readExpression hg
    | exact quotes_readStatement _

end

/-- A goal inside a string that is left of a goal is that goal, or its string is being opened. -/
theorem quote_of_mem_read {t : Token} {g : Goal} {goals : List Goal} (h : goals ∈ g.read t)
    {q : Char} (hq : stringBody q ∈ goals) : t = .quote q ∨ g = stringBody q := by
  by_cases hg : ∃ r, g = stringBody r
  · obtain ⟨r, rfl⟩ := hg
    change goals ∈ readExpression (stringBody r) t at h
    rw [readExpression.eq_def] at h
    dsimp only at h
    split at h
    · obtain rfl := List.mem_singleton.mp h
      exact .inr (List.mem_singleton.mp hq).symm
    · obtain rfl := List.mem_singleton.mp h
      simp at hq
    · simp at h
  · exact .inl (quotes_read (not_exists.mp hg) goals h q hq)

/-- An expression that is closed above the goal inside a string leaves that goal as it was. -/
theorem eq_of_accept {below : Goal} {s : Slot} {o : Operand} {q : Char}
    (h : below.accept s o = some (stringBody q)) : below = stringBody q := by
  rw [Goal.accept.eq_def] at h
  split at h <;> simp_all

theorem eq_of_close {g below : Goal} {q : Char} (h : g.close below = some (stringBody q)) :
    below = stringBody q := by
  rw [Goal.close] at h
  split at h
  · exact eq_of_accept h
  · exact Option.some.inj (Option.ite_none_right_eq_some.mp h).2

theorem quote_of_mem_readAtop {t : Token} {g : Goal} {rest goals : List Goal}
    (h : goals ∈ readAtop t g rest) {q : Char} (hq : stringBody q ∈ goals) :
    t = .quote q ∨ stringBody q ∈ g :: rest := by
  induction rest generalizing g with
  | nil =>
    rw [readAtop] at h
    exact (quote_of_mem_read h hq).imp_right fun hg => by simp [hg]
  | cons below rest ih =>
    rw [readAtop] at h
    rcases List.mem_append.mp h with h | h
    · obtain ⟨front, hfront, rfl⟩ := List.mem_map.mp h
      rcases List.mem_append.mp hq with hq | hq
      · exact (quote_of_mem_read hfront hq).imp_right fun hg => by simp [hg]
      · exact .inr (List.mem_cons_of_mem g hq)
    · split at h
      · rename_i closed hclosed
        refine (ih h).imp_right fun hmem => List.mem_cons_of_mem g ?_
        rcases List.mem_cons.mp hmem with hmem | hmem
        · subst hmem
          simp [eq_of_close hclosed]
        · exact List.mem_cons_of_mem below hmem
      · simp at h

/-- A goal inside a string is on the stack behind a token only if it was there before or the
token opens the string. -/
theorem quote_of_mem_readGoals {t : Token} {stack goals : List Goal}
    (h : goals ∈ readGoals t stack) {q : Char} (hq : stringBody q ∈ goals) :
    t = .quote q ∨ stringBody q ∈ stack := by
  cases stack with
  | nil => simp [readGoals] at h
  | cons g rest => exact quote_of_mem_readAtop h hq

end LicenseNotices.JavaScript
