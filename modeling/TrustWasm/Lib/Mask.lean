import Mathlib.Data.Finset.Card
import Mathlib.Data.Finset.Range
import Mathlib.Tactic.Linarith

/-!
# Bit masks as finite sets

A mask of width `w` stands for the set of the positions of its set bits.  The
shift count of `bit` is taken modulo the width, as a shift instruction does.
`ffs` is the find-first-set builtin: one more than the lowest member, zero on
the empty mask.
-/

namespace TrustWasm.Lib.Mask

variable {w : Nat}

/-- The mask `1 << n`. -/
def bit (w n : Nat) : BitVec w :=
  1#w <<< (n % w)

/-- The mask `(1 << n) - 1`. -/
def low (w n : Nat) : BitVec w :=
  bit w n - 1#w

/-- The positions of the set bits. -/
def members (mask : BitVec w) : Finset Nat :=
  (Finset.range w).filter fun i => mask.getLsbD i = true

/-- The number of set bits. -/
def popcount (mask : BitVec w) : Nat :=
  (members mask).card

/-- The position of the lowest set bit. -/
def lowest? (mask : BitVec w) : Option Nat :=
  (List.range w).find? fun i => mask.getLsbD i

/-- Find first set: positions count from one, zero says that no bit is set. -/
def ffs (mask : BitVec w) : Nat :=
  match lowest? mask with
  | some i => i + 1
  | none => 0

/-! ## Single bits -/

theorem getLsbD_bit (n i : Nat) :
    (bit w n).getLsbD i = (decide (i < w) && decide (i = n % w)) := by
  by_cases positive : 0 < w
  · have inRange : n % w < w := Nat.mod_lt n positive
    rw [bit, BitVec.getLsbD_shiftLeft, BitVec.getLsbD_one]
    by_cases equal : i = n % w
    · subst equal
      simp [inRange, positive]
    · have shifted : ¬(n % w ≤ i ∧ i - n % w = 0) := by omega
      by_cases below : i < n % w
      · simp [below, equal]
      · have nonzero : i - n % w ≠ 0 := by omega
        simp [equal, nonzero]
  · have zero : w = 0 := by omega
    subst zero
    simp

variable {n : Nat}

theorem getLsbD_bit_of_lt (inRange : n < w) (i : Nat) :
    (bit w n).getLsbD i = decide (i = n) := by
  rw [getLsbD_bit, Nat.mod_eq_of_lt inRange]
  by_cases equal : i = n
  · simp [equal, inRange]
  · simp [equal]

theorem and_bit_ne_zero_iff (inRange : n < w) (mask : BitVec w) :
    mask &&& bit w n ≠ 0 ↔ mask.getLsbD n = true := by
  constructor
  · intro nonzero
    by_contra clear
    apply nonzero
    apply BitVec.eq_of_getLsbD_eq
    intro i _
    rw [BitVec.getLsbD_and, getLsbD_bit_of_lt inRange]
    by_cases equal : i = n
    · subst equal
      simpa using clear
    · simp [equal]
  · intro isSet zero
    have cleared := congrArg (fun m => m.getLsbD n) zero
    simp [getLsbD_bit_of_lt inRange, isSet] at cleared

theorem getLsbD_or_bit (inRange : n < w) (mask : BitVec w) (i : Nat) :
    (mask ||| bit w n).getLsbD i = (mask.getLsbD i || decide (i = n)) := by
  rw [BitVec.getLsbD_or, getLsbD_bit_of_lt inRange]

theorem getLsbD_and_not_bit (inRange : n < w) (mask : BitVec w) (i : Nat) :
    (mask &&& ~~~bit w n).getLsbD i = (mask.getLsbD i && !decide (i = n)) := by
  rw [BitVec.getLsbD_and, BitVec.getLsbD_not, getLsbD_bit_of_lt inRange]
  by_cases inside : i < w
  · simp [inside]
  · simp [BitVec.getLsbD_of_ge mask i (by omega)]

/-! ## Low masks -/

theorem getLsbD_low (inRange : n < w) (i : Nat) :
    (low w n).getLsbD i = decide (i < n) := by
  have pow : 2 ^ n < 2 ^ w := Nat.pow_lt_pow_right (by omega) inRange
  have one : (1 : Nat) < 2 ^ w := Nat.one_lt_two_pow (by omega)
  have positive : 0 < 2 ^ n := Nat.two_pow_pos n
  have value : (low w n).toNat = 2 ^ n - 1 := by
    rw [low, bit, Nat.mod_eq_of_lt inRange, BitVec.toNat_sub, BitVec.toNat_shiftLeft,
      BitVec.toNat_ofNat, Nat.mod_eq_of_lt one, Nat.one_shiftLeft, Nat.mod_eq_of_lt pow]
    have split : 2 ^ w - 1 + 2 ^ n = 2 ^ w + (2 ^ n - 1) := by omega
    rw [split, Nat.add_mod_left, Nat.mod_eq_of_lt (by omega)]
  rw [← BitVec.testBit_toNat, value, Nat.testBit_two_pow_sub_one]

/-! ## The lowest member -/

theorem lowest?_eq_none_iff (mask : BitVec w) : lowest? mask = none ↔ mask = 0 := by
  rw [lowest?, List.find?_eq_none]
  constructor
  · intro clear
    apply BitVec.eq_of_getLsbD_eq
    intro i inRange
    simpa using clear i (List.mem_range.mpr inRange)
  · rintro rfl
    simp

theorem lowest?_eq_some_iff (mask : BitVec w) (n : Nat) :
    lowest? mask = some n ↔
      n < w ∧ mask.getLsbD n = true ∧ ∀ i < n, mask.getLsbD i = false := by
  rw [lowest?, List.find?_range_eq_some]
  simp only [List.mem_range, Bool.not_eq_eq_eq_not, Bool.not_true]
  tauto

theorem ffs_eq_of_lowest {mask : BitVec w} (found : lowest? mask = some n) :
    ffs mask = n + 1 := by
  rw [ffs, found]

/-- A mask that is not empty has a lowest member. -/
theorem lowest_of_ne_zero {mask : BitVec w} (nonempty : mask ≠ 0) :
    ∃ n, lowest? mask = some n ∧ n < w ∧ ffs mask - 1 = n := by
  cases found : lowest? mask with
  | none => exact absurd ((lowest?_eq_none_iff mask).mp found) nonempty
  | some n =>
    refine ⟨n, rfl, ((lowest?_eq_some_iff mask n).mp found).1, ?_⟩
    rw [ffs_eq_of_lowest found]
    rfl

/-- Clearing every position up to the lowest member clears that one only. -/
theorem and_not_low_eq_and_not_bit {mask : BitVec w} (found : lowest? mask = some n)
    (next : n + 1 < w) : mask &&& ~~~low w (n + 1) = mask &&& ~~~bit w n := by
  obtain ⟨inRange, -, lower⟩ := (lowest?_eq_some_iff mask n).mp found
  apply BitVec.eq_of_getLsbD_eq
  intro i inside
  rw [getLsbD_and_not_bit inRange, BitVec.getLsbD_and, BitVec.getLsbD_not, getLsbD_low next]
  by_cases below : i < n
  · simp [lower i below]
  · by_cases equal : i = n
    · simp [equal]
    · simp [equal, inside, show ¬i < n + 1 by omega]

/-- The mask below the width is empty: a shift by the width is a shift by zero. -/
theorem low_width (w : Nat) : low w w = 0#w := by
  rw [low, bit, Nat.mod_self, BitVec.shiftLeft_zero, BitVec.sub_self]

/-! ## Claiming and releasing one position -/

section LowestClear

variable {mask : BitVec w}

theorem getLsbD_of_lt_lowest_clear (found : lowest? (~~~mask) = some n) {i : Nat}
    (below : i < n) : mask.getLsbD i = true := by
  obtain ⟨inRange, -, lower⟩ := (lowest?_eq_some_iff _ _).mp found
  have clear := lower i below
  rw [BitVec.getLsbD_not] at clear
  simpa [show i < w by omega] using clear

theorem getLsbD_lowest_clear (found : lowest? (~~~mask) = some n) :
    mask.getLsbD n = false := by
  obtain ⟨inRange, isSet, -⟩ := (lowest?_eq_some_iff _ _).mp found
  rw [BitVec.getLsbD_not] at isSet
  simpa [inRange] using isSet

/-- Filling every position up to the lowest clear one changes that one only. -/
theorem or_low_eq_or_bit (found : lowest? (~~~mask) = some n) (next : n + 1 < w) :
    mask ||| low w (n + 1) = mask ||| bit w n := by
  apply BitVec.eq_of_getLsbD_eq
  intro i _
  rw [BitVec.getLsbD_or, getLsbD_low next, getLsbD_or_bit (by omega)]
  by_cases below : i < n
  · simp [getLsbD_of_lt_lowest_clear found below]
  · by_cases equal : i = n
    · simp [equal]
    · simp [equal, show ¬i < n + 1 by omega]

/-- When the top position is the lowest clear one, every other one is set. -/
theorem allOnes_eq_or_bit (found : lowest? (~~~mask) = some n) (last : n + 1 = w) :
    BitVec.allOnes w = mask ||| bit w n := by
  apply BitVec.eq_of_getLsbD_eq
  intro i inRange
  rw [getLsbD_or_bit (by omega), BitVec.getLsbD_allOnes]
  by_cases equal : i = n
  · simp [equal, show n < w by omega]
  · simp [inRange, getLsbD_of_lt_lowest_clear found (show i < n by omega)]

end LowestClear

@[simp]
theorem mem_members {mask : BitVec w} {i : Nat} :
    i ∈ members mask ↔ mask.getLsbD i = true := by
  simp only [members, Finset.mem_filter, Finset.mem_range, and_iff_right_iff_imp]
  exact BitVec.lt_of_getLsbD

theorem members_or_bit (inRange : n < w) (mask : BitVec w) :
    members (mask ||| bit w n) = insert n (members mask) := by
  ext i
  simp [getLsbD_bit_of_lt inRange, or_comm]

theorem members_and_not_bit (inRange : n < w) (mask : BitVec w) :
    members (mask &&& ~~~bit w n) = (members mask).erase n := by
  ext i
  rw [mem_members, getLsbD_and_not_bit inRange, Finset.mem_erase, mem_members]
  simp [and_comm]

theorem popcount_or_bit {mask : BitVec w} (inRange : n < w) (clear : mask.getLsbD n = false) :
    popcount (mask ||| bit w n) = popcount mask + 1 := by
  rw [popcount, members_or_bit inRange, Finset.card_insert_of_notMem (by simp [clear])]
  rfl

theorem popcount_and_not_bit {mask : BitVec w} (inRange : n < w) (isSet : mask.getLsbD n = true) :
    popcount (mask &&& ~~~bit w n) + 1 = popcount mask := by
  rw [popcount, members_and_not_bit inRange]
  exact Finset.card_erase_add_one (mem_members.mpr isSet)

theorem popcount_pos {mask : BitVec w} (isSet : mask.getLsbD n = true) :
    0 < popcount mask :=
  Finset.card_pos.mpr ⟨n, mem_members.mpr isSet⟩

theorem popcount_le (mask : BitVec w) : popcount mask ≤ w := by
  have bound := Finset.card_filter_le (Finset.range w) fun i => mask.getLsbD i = true
  rwa [Finset.card_range] at bound

@[simp]
theorem popcount_zero : popcount (0 : BitVec w) = 0 := by
  simp [popcount, members]

end TrustWasm.Lib.Mask
