/-!
Results that are a value or a failure. When a composed result is a value is said in terms
of the results that it is composed of. Two results may differ and yet fail alike.
-/
namespace LicenseNotices.Results

variable {α β ε δ : Type}

@[simp] theorem ok_bind (a : α) (f : α → Except ε β) : .ok a >>= f = f a := rfl

@[simp] theorem error_bind (e : ε) (f : α → Except ε β) : .error e >>= f = .error e := rfl

@[simp] theorem mapError_ok (f : ε → δ) (a : α) : (.ok a : Except ε α).mapError f = .ok a := rfl

@[simp] theorem mapError_error (f : ε → δ) (e : ε) :
    (.error e : Except ε α).mapError f = .error (f e) := rfl

theorem mapError_eq_ok_iff (f : ε → δ) (x : Except ε α) (a : α) :
    x.mapError f = .ok a ↔ x = .ok a := by
  cases x <;> simp

theorem mapError_eq_error_iff (f : ε → δ) (x : Except ε α) (d : δ) :
    x.mapError f = .error d ↔ ∃ e, x = .error e ∧ d = f e := by
  cases x <;> simp [eq_comm]

theorem map_eq_ok_iff (f : α → β) (x : Except ε α) (b : β) :
    x.map f = .ok b ↔ ∃ a, x = .ok a ∧ b = f a := by
  cases x <;> simp [Except.map, eq_comm]

theorem exists_map_eq_ok_iff (f : α → β) (x : Except ε α) :
    (∃ b, x.map f = .ok b) ↔ ∃ a, x = .ok a := by
  cases x <;> simp [Except.map]

theorem map_eq_error_iff (f : α → β) (x : Except ε α) (e : ε) :
    x.map f = .error e ↔ x = .error e := by
  cases x <;> simp [Except.map]

theorem bind_eq_ok_iff (x : Except ε α) (f : α → Except ε β) (b : β) :
    x >>= f = .ok b ↔ ∃ a, x = .ok a ∧ f a = .ok b := by
  cases x <;> simp

theorem bind_eq_error_iff (x : Except ε α) (f : α → Except ε β) (e : ε) :
    x >>= f = .error e ↔ x = .error e ∨ ∃ a, x = .ok a ∧ f a = .error e := by
  cases x <;> simp

theorem mapM_eq_ok_iff (f : α → Except ε β) (xs : List α) (ys : List β) :
    xs.mapM f = .ok ys ↔ xs.map f = ys.map .ok := by
  induction xs generalizing ys with
  | nil => cases ys <;> simp [pure, Except.pure]
  | cons x rest ih =>
    rw [List.mapM_cons, bind_eq_ok_iff]
    simp only [bind_eq_ok_iff, ih]
    cases ys with
    | nil => simp [pure, Except.pure]
    | cons y later => simp [pure, Except.pure]

theorem exists_ok_of_toOption {x : Except ε α} {f : α → β} {b : β}
    (h : x.toOption.map f = some b) : ∃ a, x = .ok a ∧ f a = b := by
  cases x with
  | ok a => exact ⟨a, rfl, Option.some.inj h⟩
  | error e => cases h

/-- Two results that are both values, or the same failure. -/
inductive FailAlike : Except ε α → Except ε β → Prop
  | ok (a : α) (b : β) : FailAlike (.ok a) (.ok b)
  | error (e : ε) : FailAlike (.error e) (.error e)

theorem FailAlike.refl (x : Except ε α) : FailAlike x x := by
  cases x with
  | ok a => exact .ok a a
  | error e => exact .error e

theorem FailAlike.bind {γ δ : Type} {x : Except ε α} {y : Except ε β} (h : FailAlike x y)
    {f : α → Except ε γ} {g : β → Except ε δ} (hfg : ∀ a b, FailAlike (f a) (g b)) :
    FailAlike (x >>= f) (y >>= g) := by
  cases h with
  | ok a b => exact hfg a b
  | error e => exact .error e

theorem FailAlike.eq_error {x : Except ε α} {y : Except ε β} (h : FailAlike x y)
    {e : ε} (hx : x = .error e) : y = .error e := by
  cases h with
  | ok a b => cases hx
  | error f =>
    cases hx
    rfl

end LicenseNotices.Results
