import Mathlib.Data.BitVec

/-!
# Measuring time

The drivers measure a wait with two readings of the system time.  `teetime_micro` multiplies the
seconds of a reading by a million in 32 bits and adds the microseconds in 64 bits, so that it is
the true time modulo `2^32` microseconds in its first part.  The difference of two readings is
the time between them exactly when the products of both wrap equally often.
-/

namespace TrustWasm.Drivers

/-- A reading of the system time, as far as the drivers use it. -/
structure TeeTime where
  seconds : BitVec 32
  micros : BitVec 64
  deriving DecidableEq

/-- The same function in the I2C, SPI and W25Q drivers. -/
def teetimeMicro (t : TeeTime) : BitVec 64 :=
  (t.seconds * 1000000).setWidth 64 + t.micros

/-- What the drivers take for the time between two readings. -/
def elapsed (start stop : TeeTime) : BitVec 64 :=
  teetimeMicro stop - teetimeMicro start

namespace TeeTime

/-- The microseconds of a reading make less than a second. -/
def Normal (t : TeeTime) : Prop :=
  t.micros.toNat < 1000000

instance (t : TeeTime) : Decidable t.Normal :=
  inferInstanceAs (Decidable (_ < _))

/-- The true time of a reading in microseconds. -/
def total (t : TeeTime) : Nat :=
  t.seconds.toNat * 1000000 + t.micros.toNat

/-- How often the product of `teetime_micro` wraps. -/
def wraps (t : TeeTime) : Nat :=
  t.seconds.toNat * 1000000 / 2 ^ 32

/-- The reading of a true time. -/
def ofMicros (micros : Nat) : TeeTime where
  seconds := BitVec.ofNat 32 (micros / 1000000)
  micros := BitVec.ofNat 64 (micros % 1000000)

theorem wraps_lt (t : TeeTime) : t.wraps < 2 ^ 20 := by
  have seconds := t.seconds.isLt
  simp only [wraps]
  omega

end TeeTime

variable {start stop : TeeTime}

/-- The computed time of a reading has the wraps taken off. -/
theorem toNat_teetimeMicro {t : TeeTime} (normal : t.Normal) :
    (teetimeMicro t).toNat + 2 ^ 32 * t.wraps = t.total := by
  have seconds := t.seconds.isLt
  have micros : t.micros.toNat < 1000000 := normal
  have product : (t.seconds * 1000000).toNat = t.seconds.toNat * 1000000 % 2 ^ 32 := by
    rw [BitVec.toNat_mul]
    rfl
  rw [teetimeMicro, BitVec.toNat_add, BitVec.toNat_setWidth, product, TeeTime.wraps, TeeTime.total]
  omega

/-- The computed distance of two readings is the true one less `2^32` for every wrap between
them, modulo `2^64`. -/
theorem toNat_elapsed (normal : start.Normal) (normal' : stop.Normal)
    (ordered : start.total ≤ stop.total) :
    start.wraps ≤ stop.wraps ∧
      (elapsed start stop).toNat + 2 ^ 32 * (stop.wraps - start.wraps) =
        (stop.total - start.total) +
          if stop.total - start.total < 2 ^ 32 * (stop.wraps - start.wraps) then 2 ^ 64 else 0 := by
  have first := toNat_teetimeMicro normal
  have last := toNat_teetimeMicro normal'
  have bound := (teetimeMicro start).isLt
  have bound' := (teetimeMicro stop).isLt
  have le : start.wraps ≤ stop.wraps := by
    simp only [TeeTime.wraps, TeeTime.total, TeeTime.Normal] at *
    omega
  have few := stop.wraps_lt
  refine ⟨le, ?_⟩
  rw [elapsed, BitVec.toNat_sub]
  split <;> omega

/-- The difference of two readings is the time between them exactly when the product wraps
equally often in both. -/
theorem toNat_elapsed_eq_iff (normal : start.Normal) (normal' : stop.Normal)
    (ordered : start.total ≤ stop.total) :
    (elapsed start stop).toNat = stop.total - start.total ↔ start.wraps = stop.wraps := by
  obtain ⟨le, computed⟩ := toNat_elapsed normal normal' ordered
  have few := stop.wraps_lt
  split at computed <;> omega

/-- A limit below `2^63` is exceeded by the computed time between two near readings exactly
when it truly is, unless the product wraps between them: then it always is. -/
theorem lt_elapsed_iff (normal : start.Normal) (normal' : stop.Normal)
    (ordered : start.total ≤ stop.total) (near : stop.total - start.total < 2 ^ 31)
    {limit : BitVec 64} (small : limit.toNat < 2 ^ 63) :
    limit < elapsed start stop ↔
      start.wraps ≠ stop.wraps ∨ limit.toNat < stop.total - start.total := by
  obtain ⟨le, computed⟩ := toNat_elapsed normal normal' ordered
  have few := stop.wraps_lt
  rw [BitVec.lt_def]
  split at computed <;> omega

end TrustWasm.Drivers
