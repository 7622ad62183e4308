import TrustWasm.Lib.Heap

/-!
# Ownership of heap blocks

Live blocks are given owners.  An actor that allocates blocks, and frees and
writes only blocks it owns, leaves the blocks of all other owners as they are.
-/

namespace TrustWasm.Lib

open Function

variable {α β ω : Type}

/-- Only live blocks have an owner, and the null address has none. -/
structure Owned (null : α) (heap : Heap α β) (owner : α → Option ω) : Prop where
  live : ∀ address o, owner address = some o → heap.Live address
  null : owner null = none

/-- The blocks whose owner is not an actor keep their owner and their content. -/
def KeepsOthers (actor : ω → Prop) (heap heap' : Heap α β) (owner owner' : α → Option ω) : Prop :=
  ∀ address o, owner address = some o → ¬actor o →
    owner' address = some o ∧ heap'.blocks address = heap.blocks address

theorem KeepsOthers.refl (actor : ω → Prop) (heap : Heap α β) (owner : α → Option ω) :
    KeepsOthers actor heap heap owner owner :=
  fun _ _ owned _ => ⟨owned, rfl⟩

/-- An actor may use the address: it is null or that of a block the actor owns. -/
def Mine (actor : ω → Prop) (null : α) (owner : α → Option ω) (address : α) : Prop :=
  address = null ∨ ∃ o, owner address = some o ∧ actor o

namespace Owned

variable {null address : α} {heap : Heap α β} {owner : α → Option ω}

theorem owner_eq_none (owned : Owned null heap owner) (dead : heap.blocks address = none) :
    owner address = none := by
  cases found : owner address with
  | none => rfl
  | some o => exact absurd dead (owned.live address o found)

variable {actor : ω → Prop}

theorem ne_of_mine (owned : Owned null heap owner) (mine : Mine actor null owner address)
    {other : α} {o : ω} (found : owner other = some o) (foreign : ¬actor o) : other ≠ address := by
  rintro rfl
  rcases mine with rfl | ⟨o', found', acts⟩
  · rw [owned.null] at found
    cases found
  · rw [found] at found'
    cases found'
    exact foreign acts

end Owned

/-- A step of the actor on the heap: only live blocks are owned after it, and the blocks of
others are as they were. -/
structure OwnedStep (actor : ω → Prop) (null : α) (heap heap' : Heap α β)
    (owner owner' : α → Option ω) : Prop where
  owned : Owned null heap' owner'
  keeps : KeepsOthers actor heap heap' owner owner'

namespace OwnedStep

variable {null address : α} {heap heap' : Heap α β} {owner : α → Option ω} {actor : ω → Prop}

theorem refl (owned : Owned null heap owner) : OwnedStep actor null heap heap owner owner :=
  ⟨owned, .refl _ _ _⟩

variable [DecidableEq α]

theorem alloc (owned : Owned null heap owner) (notNull : address ≠ null)
    (dead : heap.blocks address = none) (size : Nat) (junk : Nat → β) (o : ω) :
    OwnedStep actor null heap (heap.alloc address size junk) owner
      (update owner address (some o)) where
  owned.live := by
    intro other _ found
    by_cases here : other = address
    · subst here
      simp [Heap.Live]
    · rw [update_of_ne here] at found
      rw [Heap.Live, Heap.alloc_blocks_of_ne _ _ _ here]
      exact owned.live other _ found
  owned.null := by
    rw [update_of_ne notNull.symm]
    exact owned.null
  keeps := by
    intro other o' found _
    have distinct : other ≠ address := by
      rintro rfl
      rw [owned.owner_eq_none dead] at found
      cases found
    rw [update_of_ne distinct, Heap.alloc_blocks_of_ne _ _ _ distinct]
    exact ⟨found, rfl⟩

theorem free (owned : Owned null heap owner) (mine : Mine actor null owner address) :
    OwnedStep actor null heap (heap.free address) owner (update owner address none) where
  owned.live := by
    intro other _ found
    by_cases here : other = address
    · subst here
      simp at found
    · rw [update_of_ne here] at found
      rw [Heap.Live, Heap.free_blocks_of_ne _ here]
      exact owned.live other _ found
  owned.null := by
    by_cases here : null = address
    · subst here
      simp
    · rw [update_of_ne here]
      exact owned.null
  keeps := by
    intro other o found foreign
    have distinct := owned.ne_of_mine mine found foreign
    rw [update_of_ne distinct, Heap.free_blocks_of_ne _ distinct]
    exact ⟨found, rfl⟩

theorem store (owned : Owned null heap owner) (mine : Mine actor null owner address) (offset : Nat)
    (byte : β) : OwnedStep actor null heap (heap.store address offset byte) owner owner where
  owned.live := by
    intro other o found
    have live := owned.live other o found
    by_cases here : other = address
    · subst here
      rw [Heap.Live, Heap.store_blocks_self]
      simpa [Heap.Live] using live
    · rw [Heap.Live, Heap.store_blocks_of_ne _ _ _ here]
      exact live
  owned.null := owned.null
  keeps := by
    intro other o found foreign
    have distinct := owned.ne_of_mine mine found foreign
    rw [Heap.store_blocks_of_ne _ _ _ distinct]
    exact ⟨found, rfl⟩

end OwnedStep

/-- One operation of an actor on the heap and on the blocks it has in hand. -/
inductive HandStep [DecidableEq α] (null : α) (heap : Heap α β) (hand hand' : List α) :
    Heap α β → Prop where
  | keep : hand' ⊆ hand → HandStep null heap hand hand' heap
  | alloc {address : α} (size : Nat) (junk : Nat → β) :
      address ≠ null → heap.blocks address = none → hand' ⊆ address :: hand →
      HandStep null heap hand hand' (heap.alloc address size junk)
  | store {address : α} (offset : Nat) (byte : β) :
      address = null ∨ address ∈ hand → hand' ⊆ hand →
      HandStep null heap hand hand' (heap.store address offset byte)
  | free {address : α} :
      address = null ∨ address ∈ hand → hand' ⊆ hand → address ∉ hand' →
      HandStep null heap hand hand' (heap.free address)

/-- An actor that owns what it has in hand owns what it has in hand afterwards. -/
theorem HandStep.exists_owned [DecidableEq α] {null : α} {heap heap' : Heap α β}
    {owner : α → Option ω} {hand hand' : List α} {o : ω}
    (step : HandStep null heap hand hand' heap') (owned : Owned null heap owner)
    (actor : ω → Prop) (acts : actor o) (owns : ∀ address ∈ hand, owner address = some o) :
    ∃ owner', OwnedStep actor null heap heap' owner owner' ∧
      ∀ address ∈ hand', owner' address = some o := by
  have mineOf {address : α} (mine : address = null ∨ address ∈ hand) :
      Mine actor null owner address :=
    mine.imp_right fun member => ⟨o, owns address member, acts⟩
  cases step with
  | keep kept => exact ⟨owner, .refl owned, fun address member => owns address (kept member)⟩
  | @alloc address size junk notNull dead kept =>
    refine ⟨_, .alloc owned notNull dead size junk o, fun other member => ?_⟩
    by_cases here : other = address
    · rw [here, update_self]
    · rw [update_of_ne here]
      exact owns other (List.mem_of_ne_of_mem here (kept member))
  | store offset byte mine kept =>
    exact ⟨owner, .store owned (mineOf mine) offset byte, fun other member =>
      owns other (kept member)⟩
  | free mine kept gone =>
    refine ⟨_, .free owned (mineOf mine), fun other member => ?_⟩
    rw [update_of_ne (ne_of_mem_of_not_mem member gone)]
    exact owns other (kept member)

end TrustWasm.Lib
