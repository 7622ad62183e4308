import Mathlib.Logic.Function.Basic

/-!
# Memory after a list of stores

A memory gives a value to every offset, and a list of stores is applied to it from its first
store on.  A store keeps every other offset, so that what a list of stores leaves at an offset
is decided by the stores to that offset alone.
-/

namespace TrustWasm.Lib

variable {β : Type}

/-- The memory after the stores. -/
def applyStores (memory : Nat → β) : List (Nat × β) → Nat → β
  | [] => memory
  | (offset, value) :: rest => applyStores (Function.update memory offset value) rest

@[simp]
theorem applyStores_nil (memory : Nat → β) : applyStores memory [] = memory :=
  rfl

theorem applyStores_append (memory : Nat → β) (first second : List (Nat × β)) :
    applyStores memory (first ++ second) = applyStores (applyStores memory first) second := by
  induction first generalizing memory with
  | nil => rfl
  | cons store rest ih => exact ih _

end TrustWasm.Lib
