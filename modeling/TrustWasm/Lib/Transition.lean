import Mathlib.Logic.Function.Basic

/-!
# Labelled transition systems

States, their initial ones, and steps that carry a label.  A run condition is a
predicate on the state before a step and on the step's label; restricting a
system to a condition keeps the runs all of whose steps meet it.
-/

namespace TrustWasm.Lib

open Function

/-- A transition system with states `σ` and labels `ι`. -/
structure System (σ ι : Type) where
  initial : σ → Prop
  step : σ → ι → σ → Prop

namespace System

variable {σ ι : Type}

/-- The states some run from an initial state ends in. -/
inductive Reachable (T : System σ ι) : σ → Prop where
  | start {state : σ} : T.initial state → Reachable T state
  | next {state after : σ} {label : ι} :
      Reachable T state → T.step state label after → Reachable T after

/-- The runs of `T` all of whose steps meet `allowed`. -/
def restrict (T : System σ ι) (allowed : σ → ι → Prop) : System σ ι where
  initial := T.initial
  step state label after := allowed state label ∧ T.step state label after

/-- The invariant rule.  Preservation may use that the state before the step is
reachable, so that an invariant can rest on those proved before it. -/
theorem Reachable.invariant {T : System σ ι} {P : σ → Prop}
    (holdsInitially : ∀ state, T.initial state → P state)
    (preserved : ∀ state label after, T.Reachable state → P state →
      T.step state label after → P after)
    {state : σ} (reachable : T.Reachable state) : P state := by
  induction reachable with
  | start initial => exact holdsInitially _ initial
  | next before step ih => exact preserved _ _ _ before ih step

/-- A run of a restricted system is a run of the system. -/
theorem Reachable.of_restrict {T : System σ ι} {allowed : σ → ι → Prop} {state : σ}
    (reachable : (T.restrict allowed).Reachable state) : T.Reachable state := by
  induction reachable with
  | start initial => exact .start initial
  | next _ step ih => exact .next ih step.2

/-- A run of a restricted system goes on by a step that meets the condition. -/
theorem Reachable.next_restrict {T : System σ ι} {allowed : σ → ι → Prop} {state after : σ}
    {label : ι} (reachable : (T.restrict allowed).Reachable state)
    (step : T.step state label after) (holds : allowed state label) :
    (T.restrict allowed).Reachable after :=
  .next reachable ⟨holds, step⟩

/-- A run of a system restricted twice goes on by a step that meets both
conditions. -/
theorem Reachable.next_restrict_restrict {T : System σ ι} {inner outer : σ → ι → Prop}
    {state after : σ} {label : ι} (reachable : ((T.restrict inner).restrict outer).Reachable state)
    (step : T.step state label after) (holds : inner state label)
    (holds' : outer state label) : ((T.restrict inner).restrict outer).Reachable after :=
  .next reachable ⟨holds', holds, step⟩

/-- A system all of whose steps are steps of another reaches states the other
reaches as well. -/
theorem Reachable.mono {T U : System σ ι} (initial : ∀ state, T.initial state → U.initial state)
    (step : ∀ state label after, T.step state label after → U.step state label after)
    {state : σ} (reachable : T.Reachable state) : U.Reachable state := by
  induction reachable with
  | start holds => exact .start (initial _ holds)
  | next _ taken ih => exact .next ih (step _ _ _ taken)

end System

/-! ## Families of components

The threads of a system are a family of optional components by number; a step
replaces one of them. -/

section Family

variable {β γ : Type} {family : Nat → Option β} {key : Nat} {value : Option β}

/-- What holds of every component and of the new one holds after the update. -/
theorem forall_of_update {P : Nat → β → Prop} {added : β} (new : P key added)
    (old : ∀ i member, family i = some member → P i member) (i : Nat) (member : β)
    (found : update family key (some added) i = some member) : P i member := by
  by_cases here : i = key
  · subst here
    rw [update_self] at found
    cases found
    exact new
  · rw [update_of_ne here] at found
    exact old i member found

theorem forall_of_remove {P : Nat → β → Prop}
    (old : ∀ i member, family i = some member → P i member) (i : Nat) (member : β)
    (found : update family key none i = some member) : P i member := by
  by_cases here : i = key
  · subst here
    rw [update_self] at found
    cases found
  · rw [update_of_ne here] at found
    exact old i member found

/-- A projection of the components follows the update. -/
theorem map_update (project : β → γ) :
    (fun i => (update family key value i).map project) =
      update (fun i => (family i).map project) key (value.map project) := by
  funext i
  by_cases here : i = key
  · subst here
    simp
  · simp [here]

/-- A projection the new component has in common with the old one is kept. -/
theorem map_update_of_eq (project : β → γ) (same : value.map project = (family key).map project) :
    (fun i => (update family key value i).map project) =
      fun i => (family i).map project := by
  rw [map_update, same]
  exact update_eq_self key _

end Family

end TrustWasm.Lib
