import Mathlib.Data.BitVec

/-!
# Fields of a word

A word holds several fields of a few bits each.  A field is read by shifting it down and
masking it, and it is replaced by clearing its bits and setting the shifted value.
-/

namespace TrustWasm.Lib

variable {w : Nat}

/-- The mask of the low `width` bits. -/
def lowBits (w width : Nat) : BitVec w :=
  BitVec.ofNat w (2 ^ width - 1)

def field (word : BitVec w) (shift width : Nat) : BitVec w :=
  (word >>> shift) &&& lowBits w width

def setField (word : BitVec w) (shift width : Nat) (value : BitVec w) : BitVec w :=
  (word &&& ~~~(lowBits w width <<< shift)) ||| (value <<< shift)

variable {word value : BitVec w} {shift shift' width i : Nat}

theorem getLsbD_lowBits (below : i < w) : (lowBits w width).getLsbD i = decide (i < width) := by
  rw [lowBits, BitVec.getLsbD_ofNat, Nat.testBit_two_pow_sub_one]
  simp [below]

theorem getLsbD_field (below : i < w) :
    (field word shift width).getLsbD i = (word.getLsbD (shift + i) && decide (i < width)) := by
  rw [field, BitVec.getLsbD_and, BitVec.getLsbD_ushiftRight, getLsbD_lowBits below]

theorem getLsbD_of_small (small : value.toNat < 2 ^ width) (beyond : width ≤ i) :
    value.getLsbD i = false :=
  Nat.testBit_lt_two_pow (lt_of_lt_of_le small (Nat.pow_le_pow_right (by decide) beyond))

/-- A bit of the word outside the field that is replaced. -/
theorem getLsbD_setField_of_outside (small : value.toNat < 2 ^ width)
    (outside : i < shift ∨ shift + width ≤ i) :
    (setField word shift width value).getLsbD i = word.getLsbD i := by
  by_cases below : i < w
  · rw [setField, BitVec.getLsbD_or, BitVec.getLsbD_and, BitVec.getLsbD_not,
      BitVec.getLsbD_shiftLeft, BitVec.getLsbD_shiftLeft]
    rcases outside with before | after
    · simp [below, before]
    · have notBefore : ¬i < shift := by omega
      rw [getLsbD_of_small small (by omega : width ≤ i - shift),
        getLsbD_lowBits (by omega : i - shift < w)]
      have beyond : ¬i - shift < width := by omega
      simp [below, beyond]
  · rw [BitVec.getLsbD_of_ge _ _ (by omega), BitVec.getLsbD_of_ge _ _ (by omega)]

/-- A bit of the field that is replaced. -/
theorem getLsbD_setField_of_inside (below : shift + i < w) (inside : i < width) :
    (setField word shift width value).getLsbD (shift + i) = value.getLsbD i := by
  rw [setField, BitVec.getLsbD_or, BitVec.getLsbD_and, BitVec.getLsbD_not,
    BitVec.getLsbD_shiftLeft, BitVec.getLsbD_shiftLeft, Nat.add_sub_cancel_left,
    getLsbD_lowBits (by omega : i < w)]
  have notBefore : ¬shift + i < shift := by omega
  simp [below, inside, notBefore]

/-- A field that is replaced has the new value. -/
theorem field_setField (fits : shift + width ≤ w) (small : value.toNat < 2 ^ width) :
    field (setField word shift width value) shift width = value := by
  apply BitVec.eq_of_getLsbD_eq
  intro i below
  rw [getLsbD_field below]
  by_cases inside : i < width
  · rw [getLsbD_setField_of_inside (by omega) inside]
    simp [inside]
  · rw [getLsbD_of_small small (by omega)]
    simp [inside]

/-- A field apart from the one that is replaced keeps its value. -/
theorem field_setField_of_apart (small : value.toNat < 2 ^ width)
    (apart : shift' + width ≤ shift ∨ shift + width ≤ shift') :
    field (setField word shift width value) shift' width = field word shift' width := by
  apply BitVec.eq_of_getLsbD_eq
  intro i below
  rw [getLsbD_field below, getLsbD_field below]
  by_cases inside : i < width
  · rw [getLsbD_setField_of_outside small (by omega)]
  · simp [inside]

end TrustWasm.Lib
