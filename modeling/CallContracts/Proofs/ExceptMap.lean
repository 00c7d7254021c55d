set_option autoImplicit false

namespace CallContracts

variable {ε δ α β : Type}

theorem except_map_ok (f : α → β) (result : Except ε α) (y : β) :
    result.map f = .ok y ↔ ∃ x, result = .ok x ∧ f x = y := by
  cases result <;> simp [Except.map]

theorem map_error_ok (f : ε → δ) (result : Except ε α) (a : α) :
    result.mapError f = .ok a ↔ result = .ok a := by
  cases result with
  | ok b =>
      have passed : (Except.ok b : Except ε α).mapError f = .ok b := rfl
      rw [passed, Except.ok.injEq, Except.ok.injEq]
  | error e => exact ⟨nofun, nofun⟩

end CallContracts
