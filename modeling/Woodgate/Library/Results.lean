import Mathlib.Data.List.Basic

/-!
# Results

When a computation in `Except` succeeds: its parts did.
-/

namespace Library.Results

variable {A B E F : Type}

theorem bind_ok {x : Except E A} {f : A → Except E B} {b : B} : x >>= f = .ok b ↔ ∃ a, x = .ok a ∧ f a = .ok b := by
  cases x with
  | error e => simp [bind, Except.bind]
  | ok a => simp [bind, Except.bind]

/-- A sequence fails at its first part or after it. -/
theorem bind_error {x : Except E A} {f : A → Except E B} {e : E} :
    x >>= f = .error e ↔ x = .error e ∨ ∃ a, x = .ok a ∧ f a = .error e := by
  cases x with
  | error e => simp [bind, Except.bind]
  | ok a => simp [bind, Except.bind]

/-- A check followed by something else. -/
theorem bind_unit_ok {x : Except E PUnit} {f : PUnit → Except E B} {b : B} :
    x >>= f = .ok b ↔ x = .ok ⟨⟩ ∧ f ⟨⟩ = .ok b := by
  rw [bind_ok]
  constructor
  · rintro ⟨⟨⟩, passed, rest⟩
    exact ⟨passed, rest⟩
  · rintro ⟨passed, rest⟩
    exact ⟨⟨⟩, passed, rest⟩

theorem mapError_ok {x : Except E A} {f : E → F} {a : A} : x.mapError f = .ok a ↔ x = .ok a := by
  cases x <;> simp [Except.mapError]

theorem mapError_error {x : Except E A} {f : E → F} {e : F} : x.mapError f = .error e ↔ ∃ e', x = .error e' ∧ f e' = e := by
  cases x <;> simp [Except.mapError]

theorem toOption_eq_some {x : Except E A} {a : A} : x.toOption = some a ↔ x = .ok a := by
  cases x <;> simp [Except.toOption]

theorem mapM_eq_map {f : A → Except E B} {g : A → B} {xs : List A} (each : ∀ x ∈ xs, f x = .ok (g x)) :
    xs.mapM f = .ok (xs.map g) := by
  induction xs with
  | nil => rfl
  | cons x xs ih =>
    obtain ⟨first, later⟩ := List.forall_mem_cons.1 each
    rw [List.mapM_cons, first, ih later]
    rfl

end Library.Results
