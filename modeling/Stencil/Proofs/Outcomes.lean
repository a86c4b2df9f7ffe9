import Stencil.Fault

/-!
# Outcomes of steps

A sequence of steps has a result only if each step has one, and fails by the fault of a step.
-/

namespace Stencil.Fault

variable {α β : Type} {x : Except Fault α} {f : α → Except Fault β}

theorem ok_of_bind {b : β} (h : x >>= f = .ok b) : ∃ a, x = .ok a ∧ f a = .ok b := by
  cases x with
  | error fault => cases h
  | ok a => exact ⟨a, rfl, h⟩

theorem error_of_bind {fault : Fault} (h : x >>= f = .error fault) :
    x = .error fault ∨ ∃ a, f a = .error fault := by
  cases x with
  | error other =>
    cases h
    exact .inl rfl
  | ok a => exact .inr ⟨a, h⟩

end Stencil.Fault
