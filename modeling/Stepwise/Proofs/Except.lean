/-! # Computations that may fail -/

namespace Stepwise

variable {ε α β : Type} {x : Except ε α} {f : α → Except ε β} {b : β}

theorem ok_of_bind (h : x >>= f = .ok b) : ∃ a, x = .ok a ∧ f a = .ok b := by
  cases x with
  | error => cases h
  | ok a => exact ⟨a, rfl, h⟩

theorem bind_of_ok {a : α} (h : x = .ok a) : x >>= f = f a := by
  rw [h]
  rfl

end Stepwise
