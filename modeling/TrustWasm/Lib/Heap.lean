import Mathlib.Data.List.Basic
import Mathlib.Logic.Function.Basic

/-!
# A heap of separate blocks

A live block has a size, the bytes at its offsets and a mark for each offset
written since the block was allocated.  A fresh block holds junk.  Blocks are
separate: a store through a block's address changes that block alone, also
when the offset lies outside its size, so bounds are a property to prove and
not one the heap enforces.
-/

namespace TrustWasm.Lib

open Function

/-- A live heap block. -/
structure Block (β : Type) where
  size : Nat
  bytes : Nat → β
  written : Nat → Bool

/-- The live blocks by address. -/
structure Heap (α β : Type) where
  blocks : α → Option (Block β)

namespace Heap

variable {α β : Type} [DecidableEq α]

/-- No block is live. -/
def empty : Heap α β :=
  ⟨fun _ => none⟩

/-- A block is live at `address`. -/
def Live (heap : Heap α β) (address : α) : Prop :=
  heap.blocks address ≠ none

instance (heap : Heap α β) (address : α) : Decidable (heap.Live address) :=
  match found : heap.blocks address with
  | none => isFalse fun live => live found
  | some _ => isTrue fun dead => by simp [found] at dead

/-- Make a block of `size` bytes holding `junk` live at `address`. -/
def alloc (heap : Heap α β) (address : α) (size : Nat) (junk : Nat → β) : Heap α β :=
  ⟨update heap.blocks address (some ⟨size, junk, fun _ => false⟩)⟩

/-- End the life of the block at `address`. -/
def free (heap : Heap α β) (address : α) : Heap α β :=
  ⟨update heap.blocks address none⟩

/-- Write one byte of the block at `address`; without a live block nothing is
written. -/
def store (heap : Heap α β) (address : α) (offset : Nat) (byte : β) : Heap α β :=
  ⟨update heap.blocks address ((heap.blocks address).map fun block =>
    { block with
      bytes := update block.bytes offset byte
      written := update block.written offset true })⟩

/-- Write bytes of the block at `address` one after the other. -/
def storeAll (heap : Heap α β) (address : α) : List (Nat × β) → Heap α β
  | [] => heap
  | (offset, byte) :: rest => (heap.store address offset byte).storeAll address rest

/-- The first `count` bytes of the block at `address`. -/
def contents? (heap : Heap α β) (address : α) (count : Nat) : Option (List β) :=
  (heap.blocks address).map fun block => (List.range count).map block.bytes

section

variable (heap : Heap α β) (address other : α) (size offset : Nat) (junk : Nat → β) (byte : β)

@[simp]
theorem alloc_blocks_self :
    (heap.alloc address size junk).blocks address = some ⟨size, junk, fun _ => false⟩ := by
  simp [alloc]

theorem store_blocks_self :
    (heap.store address offset byte).blocks address =
      (heap.blocks address).map fun block =>
        { block with
          bytes := update block.bytes offset byte
          written := update block.written offset true } := by
  simp [store]

variable {address other}

theorem alloc_blocks_of_ne (distinct : other ≠ address) :
    (heap.alloc address size junk).blocks other = heap.blocks other := by
  simp [alloc, distinct]

theorem free_blocks_of_ne (distinct : other ≠ address) :
    (heap.free address).blocks other = heap.blocks other := by
  simp [free, distinct]

theorem store_blocks_of_ne (distinct : other ≠ address) :
    (heap.store address offset byte).blocks other = heap.blocks other := by
  simp [store, distinct]

end

theorem store_blocks_of_live {heap : Heap α β} {address : α} {block : Block β}
    (live : heap.blocks address = some block) (offset : Nat) (byte : β) :
    ∃ block', (heap.store address offset byte).blocks address = some block' ∧
      block'.size = block.size ∧
      ∀ other, block'.written other = true ↔ block.written other = true ∨ other = offset := by
  refine ⟨{ block with
      bytes := update block.bytes offset byte
      written := update block.written offset true },
    by rw [store_blocks_self, live, Option.map_some], rfl, fun other => ?_⟩
  by_cases here : other = offset
  · simp [here]
  · simp [here]

/-- Stores keep the size of the block and mark the offsets they go to. -/
theorem storeAll_blocks_of_live {heap : Heap α β} {address : α} {block : Block β}
    (live : heap.blocks address = some block) (stores : List (Nat × β)) :
    ∃ block', (heap.storeAll address stores).blocks address = some block' ∧
      block'.size = block.size ∧
      ∀ offset, block'.written offset = true ↔
        block.written offset = true ∨ offset ∈ stores.map (·.1) := by
  induction stores generalizing heap block with
  | nil => exact ⟨block, live, rfl, by simp⟩
  | cons first rest ih =>
    obtain ⟨stored, found, size, written⟩ := store_blocks_of_live live first.1 first.2
    obtain ⟨block', found', size', written'⟩ := ih found
    refine ⟨block', found', size'.trans size, fun offset => ?_⟩
    rw [written', written]
    simp [or_assoc]

end Heap

end TrustWasm.Lib
