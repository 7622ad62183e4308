import TrustWasm.Drivers.Bus
import Mathlib.Algebra.Order.Floor.Div
import Mathlib.Algebra.Group.Nat.Even
import Mathlib.Logic.Function.Basic
import Mathlib.Order.Bounds.Basic

/-!
# The clock of an I2C bus

A controller divides the core clock by the low half of its divider register, and a delay
register says how long it waits after a falling and after a rising edge.  `i2c_set_divider`
programs both for a requested rate.  It writes the delays to the low half of the delay register
and then, as a whole word, over the divider it has just written.  A register keeps the last
value written to it, and an access of 16 bits reaches its low half.
-/

namespace TrustWasm.Drivers.BusClock

open TrustWasm.Tee Function

/-- `CORE_CLK`, an unsigned long. -/
def coreClk : BitVec 64 := 250000000

def cdivMin : BitVec 32 := 0x0002
def cdivMax : BitVec 32 := 0xFFFE

/-- `BSC_DIV` and `BSC_DEL` of a controller. -/
structure ClockRegisters where
  div : BitVec 32
  del : BitVec 32
  deriving DecidableEq

/-- The clock registers of the controllers and `i2c_byte_wait_us`. -/
structure Clocks where
  registers : BitVec 8 → ClockRegisters
  byteWaitUs : BitVec 8 → BitVec 64

/-- `io_write16` cuts its value to 16 bits. -/
def ioWrite16 (register value : BitVec 32) : BitVec 32 :=
  (register &&& 0xFFFF0000) ||| (value &&& 0xFFFF)

def ioRead16 (register : BitVec 32) : BitVec 16 :=
  register.setWidth 16

/-- A change of the registers of one controller. -/
def Clocks.access (s : Clocks) (dev : BitVec 8) (change : ClockRegisters → ClockRegisters) :
    Clocks :=
  { s with registers := update s.registers dev (change (s.registers dev)) }

/-- `DIV_ROUND_UP`. -/
def divRoundUp (x y : BitVec 64) : BitVec 64 :=
  (x + y - 1) / y

/-- The divider `i2c_set_divider` computes: an odd one is incremented. -/
def dividerFor (busClkRate : BitVec 32) : BitVec 32 :=
  let divider := (divRoundUp coreClk (busClkRate.setWidth 64)).setWidth 32
  if divider &&& 1 ≠ 0 then divider + 1 else divider

/-- The word of both delays. -/
def delaysFor (divider : BitVec 32) : BitVec 32 :=
  let fedl := if 1 < divider / 16 then divider / 16 else 1
  let redl := if 1 < divider / 4 then divider / 4 else 1
  (fedl <<< 16) ||| (redl <<< 0)

def i2cSetDivider (dev : BitVec 8) (busClkRate : BitVec 32) (s : Clocks) : TeeResult × Clocks :=
  let divider := dividerFor busClkRate
  if divider < cdivMin ∨ cdivMax < divider then
    (teeErrorBadParameters, s)
  else
    let s := s.access dev fun regs => { regs with div := ioWrite16 regs.div divider }
    let s := s.access dev fun regs => { regs with del := ioWrite16 regs.del (delaysFor divider) }
    let s := s.access dev fun regs => { regs with div := delaysFor divider }
    (teeSuccess, s)

/-- The rates of the speeds, `I2C_SPEED_LOW` to `I2C_SPEED_HIGH`. -/
def speedRate (freq : BitVec 32) : Option (BitVec 32) :=
  match freq.toNat with
  | 0 => some 10000
  | 1 => some 100000
  | 2 => some 400000
  | 3 => some 1000000
  | 4 => some 3400000
  | _ => none

def i2cSetFrequency (dev : BitVec 8) (freq : BitVec 32) (s : Clocks) : TeeResult × Clocks :=
  match speedRate freq with
  | some rate => i2cSetDivider dev rate s
  | none => (teeErrorNotSupported, s)

/-- The time for one byte, eight bits and the acknowledgement, with a divider. -/
def byteWait (cdiv : BitVec 16) : BitVec 64 :=
  cdiv.setWidth 64 * 1000000 * 9 / coreClk

/-- The part of `i2c_acquire` that looks at the clock. -/
def i2cAcquire (dev : BitVec 8) (s : Clocks) : TeeResult × Clocks :=
  if i2cNum ≤ dev.toNat then
    (teeErrorBadParameters, s)
  else
    let cdiv := ioRead16 (s.registers dev).div
    (teeSuccess, { s with byteWaitUs := update s.byteWaitUs dev (byteWait cdiv) })

/-! ## What is asked for -/

/-- The dividers with which the bus is not faster than `rate`. -/
def Dividers (rate : Nat) : Set Nat :=
  {d | Even d ∧ coreClk.toNat ≤ d * rate ∧ 2 ≤ d ∧ d ≤ 0xFFFE}

/-- The registers and the wait of a controller whose clock is programmed for `rate` with the
divider `d`. -/
structure Programmed (rate d : Nat) (registers : ClockRegisters) (wait : BitVec 64) : Prop where
  least : IsLeast (Dividers rate) d
  divider : (ioRead16 registers.div).toNat = d
  delays : registers.del.toNat = max (d / 16) 1 * 2 ^ 16 + max (d / 4) 1
  falling : max (d / 16) 1 ≤ d / 2
  rising : max (d / 4) 1 ≤ d / 2
  wait : wait.toNat = d * 1000000 * 9 / coreClk.toNat

/-! ## The divider -/

variable {rate : BitVec 32} {dev : BitVec 8}

section Divider

variable (positive : rate ≠ 0)

include positive

theorem toNat_pos : 0 < rate.toNat :=
  Nat.pos_of_ne_zero fun zero => positive (BitVec.eq_of_toNat_eq zero)

theorem toNat_divRoundUp :
    ((divRoundUp coreClk (rate.setWidth 64)).setWidth 32).toNat = coreClk.toNat ⌈/⌉ rate.toNat := by
  have least := toNat_pos positive
  have bound := rate.isLt
  have clock : coreClk.toNat = 250000000 := rfl
  have wide : (rate.setWidth 64).toNat = rate.toNat := BitVec.toNat_setWidth_of_le (by decide)
  have sum : (coreClk + rate.setWidth 64 - 1).toNat = coreClk.toNat + rate.toNat - 1 := by
    rw [BitVec.toNat_sub, BitVec.toNat_add, wide, show (1 : BitVec 64).toNat = 1 from rfl]
    omega
  rw [divRoundUp, BitVec.toNat_setWidth, BitVec.toNat_udiv, sum, wide, Nat.ceilDiv_eq_add_pred_div]
  apply Nat.mod_eq_of_lt
  rw [Nat.div_lt_iff_lt_mul least, clock]
  omega

/-- The divider is the rounded quotient, or one more when that is odd. -/
theorem toNat_dividerFor :
    (dividerFor rate).toNat =
      coreClk.toNat ⌈/⌉ rate.toNat + (coreClk.toNat ⌈/⌉ rate.toNat) % 2 := by
  have quotient := toNat_divRoundUp positive
  have bound : coreClk.toNat ⌈/⌉ rate.toNat ≤ 250000000 := by
    rw [ceilDiv_le_iff_le_mul (toNat_pos positive)]
    exact Nat.le_mul_of_pos_left _ (toNat_pos positive)
  generalize coreClk.toNat ⌈/⌉ rate.toNat = c at quotient bound ⊢
  have parity : ((divRoundUp coreClk (rate.setWidth 64)).setWidth 32 &&& 1 : BitVec 32).toNat =
      c % 2 := by
    rw [BitVec.toNat_and, quotient]
    exact Nat.and_one_is_mod c
  unfold dividerFor
  dsimp only
  split
  · rename_i odd
    have isOne : c % 2 = 1 := by
      rcases Nat.mod_two_eq_zero_or_one c with even | isOne
      · exact absurd (BitVec.eq_of_toNat_eq (y := 0) (parity.trans even)) odd
      · exact isOne
    rw [BitVec.toNat_add, quotient, isOne, show (1 : BitVec 32).toNat = 1 from rfl]
    omega
  · rename_i even
    have isZero : c % 2 = 0 := by
      rw [← parity, not_not.mp even]
      rfl
    rw [quotient, isZero, Nat.add_zero]

/-- The divider is the least even one that keeps to the rate. -/
theorem dividerFor_isLeast :
    IsLeast {d | Even d ∧ coreClk.toNat ≤ d * rate.toNat} (dividerFor rate).toNat := by
  have least := toNat_pos positive
  rw [toNat_dividerFor positive]
  have keeps (d : Nat) : coreClk.toNat ≤ d * rate.toNat ↔ coreClk.toNat ⌈/⌉ rate.toNat ≤ d := by
    rw [ceilDiv_le_iff_le_mul least, Nat.mul_comm]
  simp only [keeps]
  generalize coreClk.toNat ⌈/⌉ rate.toNat = c
  refine ⟨⟨?_, Nat.le_add_right _ _⟩, ?_⟩
  · rw [Nat.even_iff]
    omega
  · rintro d ⟨even, keepsRate⟩
    rw [Nat.even_iff] at even
    omega

theorem two_le_dividerFor : 2 ≤ (dividerFor rate).toNat := by
  obtain ⟨⟨even, keepsRate⟩, -⟩ := dividerFor_isLeast positive
  have nonzero : (dividerFor rate).toNat ≠ 0 := by
    intro zero
    rw [zero, Nat.zero_mul] at keepsRate
    exact absurd keepsRate (by decide)
  rw [Nat.even_iff] at even
  omega

/-- The rates that need no larger divider than there is. -/
theorem dividerFor_le_iff : (dividerFor rate).toNat ≤ 0xFFFE ↔ 3815 ≤ rate.toNat := by
  have clock : coreClk.toNat = 250000000 := rfl
  obtain ⟨⟨-, keepsRate⟩, smallest⟩ := dividerFor_isLeast positive
  constructor
  · intro small
    have product : coreClk.toNat ≤ 0xFFFE * rate.toNat :=
      keepsRate.trans (Nat.mul_le_mul_right _ small)
    omega
  · intro fast
    exact smallest ⟨by decide, by omega⟩

theorem dividerFor_rejected_iff :
    (dividerFor rate < cdivMin ∨ cdivMax < dividerFor rate) ↔ rate.toNat < 3815 := by
  have lower := two_le_dividerFor positive
  have upper := dividerFor_le_iff positive
  rw [BitVec.lt_def, BitVec.lt_def, show cdivMin.toNat = 2 from rfl,
    show cdivMax.toNat = 0xFFFE from rfl]
  omega

/-- An accepted divider is the least there is for the rate. -/
theorem isLeast_of_accepted (accepted : 3815 ≤ rate.toNat) :
    IsLeast (Dividers rate.toNat) (dividerFor rate).toNat := by
  obtain ⟨⟨even, keepsRate⟩, smallest⟩ := dividerFor_isLeast positive
  refine ⟨⟨even, keepsRate, two_le_dividerFor positive, (dividerFor_le_iff positive).mpr accepted⟩,
    ?_⟩
  rintro d ⟨isEven, keeps, -, -⟩
  exact smallest ⟨isEven, keeps⟩

end Divider

/-! ## The registers -/

/-- What the registers hold after the divider was accepted. -/
theorem i2cSetDivider_accepted (positive : rate ≠ 0) (accepted : 3815 ≤ rate.toNat) (s : Clocks) :
    i2cSetDivider dev rate s = (teeSuccess, s.access dev fun regs =>
      ⟨delaysFor (dividerFor rate), ioWrite16 regs.del (delaysFor (dividerFor rate))⟩) := by
  have inRange := mt (dividerFor_rejected_iff positive).mp (Nat.not_lt.mpr accepted)
  unfold i2cSetDivider
  rw [if_neg inRange]
  simp [Clocks.access]

theorem i2cSetDivider_rejected (positive : rate ≠ 0) (slow : rate.toNat < 3815) (s : Clocks) :
    i2cSetDivider dev rate s = (teeErrorBadParameters, s) :=
  if_pos ((dividerFor_rejected_iff positive).mpr slow)

/-- The low half of the delays is what the controller takes for its divider. -/
theorem toNat_ioRead16_delaysFor {divider : BitVec 32} (small : divider.toNat ≤ 0xFFFE) :
    (ioRead16 (delaysFor divider)).toNat = max (divider.toNat / 4) 1 := by
  have quarter : (divider / 4).toNat = divider.toNat / 4 := BitVec.toNat_udiv
  have chosen : (if 1 < divider / 4 then divider / 4 else 1).toNat = max (divider.toNat / 4) 1 := by
    split
    · rename_i above
      rw [BitVec.lt_def, quarter, show (1 : BitVec 32).toNat = 1 from rfl] at above
      rw [quarter]
      omega
    · rename_i below
      rw [BitVec.lt_def, quarter, show (1 : BitVec 32).toNat = 1 from rfl] at below
      rw [show (1 : BitVec 32).toNat = 1 from rfl]
      omega
  have low : ioRead16 (delaysFor divider) =
      ((if 1 < divider / 4 then divider / 4 else 1) : BitVec 32).setWidth 16 := by
    unfold ioRead16 delaysFor
    ext i inside
    simp [BitVec.getElem_setWidth]
  rw [low, BitVec.toNat_setWidth, chosen]
  omega

/-- The controller gets a divider that is too small for the rate, unless it is asked for more
than half the core clock. -/
theorem i2cSetDivider_too_fast (positive : rate ≠ 0) (accepted : 3815 ≤ rate.toNat)
    (slow : rate.toNat < 125000000) (s : Clocks) :
    (ioRead16 ((i2cSetDivider dev rate s).2.registers dev).div).toNat * rate.toNat <
      coreClk.toNat := by
  have small := (dividerFor_le_iff positive).mpr accepted
  obtain ⟨⟨even, keepsRate⟩, smallest⟩ := dividerFor_isLeast positive
  have clock : coreClk.toNat = 250000000 := rfl
  rw [i2cSetDivider_accepted positive accepted]
  simp only [Clocks.access, update_self]
  rw [toNat_ioRead16_delaysFor small]
  have notTwo : 4 ≤ (dividerFor rate).toNat := by
    have lower := two_le_dividerFor positive
    have different : (dividerFor rate).toNat ≠ 2 := by
      intro two
      rw [two] at keepsRate
      omega
    rw [Nat.even_iff] at even
    omega
  -- two less than the divider does not keep to the rate, and a quarter of it even less
  have tooSmall : ¬coreClk.toNat ≤ ((dividerFor rate).toNat - 2) * rate.toNat := by
    intro keeps
    have minimal := smallest ⟨by rw [Nat.even_iff] at even ⊢; omega, keeps⟩
    omega
  have below : max ((dividerFor rate).toNat / 4) 1 ≤ (dividerFor rate).toNat - 2 := by omega
  exact Nat.lt_of_le_of_lt (Nat.mul_le_mul_right _ below) (Nat.not_le.mp tooSmall)

theorem speedRate_accepted {freq : BitVec 32} (speed : speedRate freq = some rate) :
    rate ≠ 0 ∧ 3815 ≤ rate.toNat ∧ rate.toNat < 125000000 := by
  unfold speedRate at speed
  split at speed <;> cases speed <;> decide

/-- Every speed that can be selected is programmed too fast. -/
theorem i2cSetFrequency_too_fast {freq : BitVec 32} (speed : speedRate freq = some rate)
    (s : Clocks) :
    (ioRead16 ((i2cSetFrequency dev freq s).2.registers dev).div).toNat * rate.toNat <
      coreClk.toNat := by
  obtain ⟨positive, accepted, slow⟩ := speedRate_accepted speed
  have selected : i2cSetFrequency dev freq s = i2cSetDivider dev rate s := by
    unfold i2cSetFrequency
    rw [speed]
  rw [selected]
  exact i2cSetDivider_too_fast positive accepted slow s

/-! ## The clock as programmed -/

/-- After a request that was accepted the divider is not the one it was asked for. -/
theorem not_programmed_of_accepted (positive : rate ≠ 0) (accepted : 3815 ≤ rate.toNat) (s : Clocks)
    (d : Nat) (wait : BitVec 64) :
    ¬Programmed rate.toNat d ((i2cSetDivider dev rate s).2.registers dev) wait := by
  intro programmed
  have divider := programmed.divider
  rw [i2cSetDivider_accepted positive accepted] at divider
  simp only [Clocks.access, update_self] at divider
  rw [toNat_ioRead16_delaysFor ((dividerFor_le_iff positive).mpr accepted),
    programmed.least.unique (isLeast_of_accepted positive accepted)] at divider
  have lower := two_le_dividerFor positive
  omega

/-- The clock is as it was asked for after every success exactly when no request for the rate
succeeds: those are the rates that need a larger divider than there is. -/
theorem i2cSetDivider_programs_iff {dev : BitVec 8} {rate : BitVec 32} (positive : rate ≠ 0)
    (s : Clocks) :
    ((i2cSetDivider dev rate s).1 = teeSuccess →
        ∃ d, Programmed rate.toNat d ((i2cSetDivider dev rate s).2.registers dev)
          ((i2cAcquire dev (i2cSetDivider dev rate s).2).2.byteWaitUs dev)) ↔
      rate.toNat < 3815 := by
  constructor
  · intro programs
    by_contra fast
    have accepted := Nat.not_lt.mp fast
    have succeeded : (i2cSetDivider dev rate s).1 = teeSuccess := by
      rw [i2cSetDivider_accepted positive accepted]
    obtain ⟨d, programmed⟩ := programs succeeded
    exact not_programmed_of_accepted positive accepted s d _ programmed
  · intro slow succeeded
    rw [i2cSetDivider_rejected positive slow] at succeeded
    exact absurd succeeded (show teeErrorBadParameters ≠ teeSuccess by decide)

/-- Registers and waits that are all zero. -/
def Clocks.unset : Clocks :=
  ⟨fun _ => ⟨0, 0⟩, fun _ => 0⟩

/-- On bus 1 a rate of 3 kHz is rejected and 100 kHz is accepted. -/
theorem i2cSetDivider_programs_iff_bus_one :
    (1 : BitVec 8).toNat < i2cNum ∧ (3000 : BitVec 32) ≠ 0 ∧ (100000 : BitVec 32) ≠ 0 ∧
      (((i2cSetDivider 1 3000 Clocks.unset).1 = teeSuccess →
        ∃ d, Programmed (3000 : BitVec 32).toNat d
          ((i2cSetDivider 1 3000 Clocks.unset).2.registers 1)
          ((i2cAcquire 1 (i2cSetDivider 1 3000 Clocks.unset).2).2.byteWaitUs 1)) ↔
        (3000 : BitVec 32).toNat < 3815) ∧
      (((i2cSetDivider 1 100000 Clocks.unset).1 = teeSuccess →
        ∃ d, Programmed (100000 : BitVec 32).toNat d
          ((i2cSetDivider 1 100000 Clocks.unset).2.registers 1)
          ((i2cAcquire 1 (i2cSetDivider 1 100000 Clocks.unset).2).2.byteWaitUs 1)) ↔
        (100000 : BitVec 32).toNat < 3815) :=
  ⟨by decide, by decide, by decide,
    i2cSetDivider_programs_iff (by decide) Clocks.unset,
    i2cSetDivider_programs_iff (by decide) Clocks.unset⟩

/-- For 100 kHz the divider is 2500.  The register ends as `0x009C0271`, with 625 in the half
that divides, and the upper half of the delays is never written. -/
theorem i2cSetDivider_misses_standard_mode :
    (i2cSetDivider 1 100000 Clocks.unset).1 = teeSuccess ∧
      IsLeast (Dividers 100000) 2500 ∧
      (i2cSetDivider 1 100000 Clocks.unset).2.registers 1 = ⟨0x009C0271, 0x0271⟩ ∧
      (i2cAcquire 1 (i2cSetDivider 1 100000 Clocks.unset).2).2.byteWaitUs 1 = 22 ∧
      ¬∃ d, Programmed 100000 d ((i2cSetDivider 1 100000 Clocks.unset).2.registers 1)
        ((i2cAcquire 1 (i2cSetDivider 1 100000 Clocks.unset).2).2.byteWaitUs 1) := by
  have positive : (100000 : BitVec 32) ≠ 0 := by decide
  have accepted : 3815 ≤ (100000 : BitVec 32).toNat := by decide
  refine ⟨by decide, ?_, by decide, by decide, ?_⟩
  · exact isLeast_of_accepted positive accepted
  · rintro ⟨d, programmed⟩
    exact not_programmed_of_accepted positive accepted Clocks.unset d _ programmed

end TrustWasm.Drivers.BusClock
