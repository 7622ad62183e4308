import Mathlib.Logic.Basic

/-!
# Peripherals seen through accesses

A peripheral answers accesses and may move on its own between them.  A list of accesses, answers
included, can be followed by the peripheral from one state to another.  `Takes` is a rule of pre-
and postconditions for such lists.
-/

namespace TrustWasm.Lib

/-- A device with states `σ` that is accessed by `ι`. -/
structure Peripheral (σ ι : Type) where
  settles : σ → σ → Prop
  access : σ → ι → σ → Prop

namespace Peripheral

variable {σ ι : Type} (device : Peripheral σ ι)

/-- The peripheral goes from one state to another when it is accessed so. -/
def Follows : σ → List ι → σ → Prop
  | source, [], target => target = source
  | source, label :: rest, target =>
    ∃ settled middle, device.settles source settled ∧ device.access settled label middle ∧
      Follows middle rest target

/-- From a state with `pre` the accesses lead to states with `post` only. -/
def Takes (pre : σ → Prop) (accesses : List ι) (post : σ → Prop) : Prop :=
  ∀ source target, pre source → device.Follows source accesses target → post target

variable {device} {source target : σ} {first second : List ι} {label : ι}
  {pre middle post : σ → Prop}

theorem follows_append :
    device.Follows source (first ++ second) target ↔
      ∃ between, device.Follows source first between ∧ device.Follows between second target := by
  induction first generalizing source with
  | nil =>
    constructor
    · exact fun follows => ⟨source, rfl, follows⟩
    · rintro ⟨_, rfl, follows⟩
      exact follows
  | cons label first ih =>
    constructor
    · rintro ⟨settled, next, settles, access, follows⟩
      obtain ⟨between, begun, rest⟩ := ih.mp follows
      exact ⟨between, ⟨settled, next, settles, access, begun⟩, rest⟩
    · rintro ⟨between, ⟨settled, next, settles, access, begun⟩, rest⟩
      exact ⟨settled, next, settles, access, ih.mpr ⟨between, begun, rest⟩⟩

theorem Follows.cons {settled next : σ} (settles : device.settles source settled)
    (access : device.access settled label next) (rest : device.Follows next second target) :
    device.Follows source (label :: second) target :=
  ⟨settled, next, settles, access, rest⟩

theorem takes_nil : device.Takes pre [] pre := by
  rintro source _ holds rfl
  exact holds

theorem takes_one (step : ∀ source settled target, pre source → device.settles source settled →
    device.access settled label target → post target) : device.Takes pre [label] post := by
  rintro source target holds ⟨settled, reached, settles, access, same⟩
  obtain rfl : target = reached := same
  exact step source settled target holds settles access

theorem Takes.append (begun : device.Takes pre first middle)
    (rest : device.Takes middle second post) : device.Takes pre (first ++ second) post := by
  intro source target holds follows
  obtain ⟨between, follows, follows'⟩ := follows_append.mp follows
  exact rest between target (begun source between holds follows) follows'

theorem Takes.cons (begun : device.Takes pre [label] middle)
    (rest : device.Takes middle second post) : device.Takes pre (label :: second) post :=
  begun.append rest

theorem Takes.mono {strong weak : σ → Prop} (takes : device.Takes pre first post)
    (stronger : ∀ state, strong state → pre state) (weaker : ∀ state, post state → weak state) :
    device.Takes strong first weak :=
  fun source target holds follows =>
    weaker target (takes source target (stronger source holds) follows)

end Peripheral

end TrustWasm.Lib
