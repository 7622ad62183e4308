import TrustWasm.Drivers.BscRead

/-!
# The bus functions on the controllers

`bscSemantics` runs the programs of the drivers on the registers of the I2C controllers,
one for each bus.  Every answer it gives is one that `BusAllows` lets through, so that what
holds of a driver for every answer of the bus functions holds of its runs on the registers.
-/

namespace TrustWasm.Drivers

open TrustWasm.Lib TrustWasm.Tee Function

/-- The memory from a buffer on: its bytes, and whatever is behind them. -/
def memoryFrom (past : Nat → Byte) (bytes : List Byte) : Nat → Byte :=
  fun i => bytes[i]?.getD (past i)

/-- The bus functions on the registers.  Acquiring and releasing a bus does not touch the
registers of a transfer, and neither do the functions of the other controllers. -/
def bscSemantics (input : BitVec 8 → BscInput) : Semantics Bus (BitVec 8 → Bsc) where
  guard _ _ := True
  step source op reply target :=
    match op, reply with
    | .i2cReadBytes dev addr isNull len flags, (transfer : Transfer) =>
      ∃ rounds s, Bsc.i2cReadBytes (input dev) rounds dev addr isNull len flags (source dev) =
        some (transfer, s) ∧ target = update source dev s
    | .i2cWriteBytes dev addr data len flags, (res : TeeResult) =>
      ∃ past rounds s, Bsc.i2cWriteBytes (input dev) rounds dev addr
        (data.map (memoryFrom past)) len flags (source dev) = some (res, s) ∧
          target = update source dev s
    | .i2cWriteWithPrefix dev addr head data len flags, (res : TeeResult) =>
      ∃ past rounds s, Bsc.i2cWriteWithPrefix (input dev) rounds dev addr
        (some (memoryFrom past head)) (BitVec.ofNat 16 head.length)
        (data.map (memoryFrom past)) len flags (source dev) = some (res, s) ∧
          target = update source dev s
    | op, reply => BusAllows op reply ∧ target = source

variable {input : BscInput} {rounds : Nat} {dev : BitVec 8} {addr len : BitVec 16}
  {flags : BitVec 8} {s s' : Bsc}

theorem Bsc.i2cReadBytes_allowed {isNull : Bool} {transfer : Transfer}
    (ran : Bsc.i2cReadBytes input rounds dev addr isNull len flags s = some (transfer, s')) :
    BusAllows (.i2cReadBytes dev addr isNull len flags) transfer := by
  simp only [BusAllows]
  split
  · rename_i rejected
    simp only [Bsc.i2cReadBytes, if_pos rejected] at ran
    cases ran
    rfl
  · rename_i accepted
    simp only [not_or, Nat.not_le, Bool.not_eq_true] at accepted
    obtain ⟨bus, nonempty, rfl⟩ := accepted
    obtain ⟨outcome, new, -, reads⟩ := Bsc.i2cReadBytes_reads bus nonempty ran
    refine ⟨outcome, ?_, fun success => ?_⟩
    · rw [reads.bytes_eq]
      exact reads.few
    · rw [reads.bytes_eq]
      exact (reads.success success).1

theorem Bsc.i2cWriteBytes_allowed {data : Option (List Byte)} {past : Nat → Byte} {res : TeeResult}
    (ran : Bsc.i2cWriteBytes input rounds dev addr (data.map (memoryFrom past)) len flags s =
      some (res, s')) :
    BusAllows (.i2cWriteBytes dev addr data len flags) res := by
  simp only [BusAllows]
  rcases data with _ | data
  · cases ran
    simp
  · simp only [Option.map_some, reduceCtorEq, false_or] at ran ⊢
    split
    · rename_i rejected
      rw [Bsc.i2cWriteBytes_rejected _ _ _ _ _ _ _ _ rejected] at ran
      cases ran
      rfl
    · rename_i accepted
      simp only [Bsc.i2cWriteBytes, if_neg accepted] at ran
      split at ran
      · exact (BscWrite.transmit_sends input ran).1
      · exact (BscWrite.transmit_sends input ran).1

theorem Bsc.i2cWriteWithPrefix_allowed {head : Nat → Byte} {heads : List Byte}
    {headLen : BitVec 16} {data : Option (List Byte)} {past : Nat → Byte} {res : TeeResult}
    (ran : Bsc.i2cWriteWithPrefix input rounds dev addr (some head) headLen
      (data.map (memoryFrom past)) len flags s = some (res, s')) :
    BusAllows (.i2cWriteWithPrefix dev addr heads data len flags) res := by
  simp only [BusAllows]
  rcases data with _ | data
  · cases ran
    simp
  · simp only [Option.map_some, reduceCtorEq, false_or] at ran ⊢
    split
    · rename_i rejected
      simp only [Bsc.i2cWriteWithPrefix, if_pos rejected] at ran
      cases ran
      rfl
    · rename_i accepted
      simp only [Bsc.i2cWriteWithPrefix, if_neg accepted] at ran
      split
      · rename_i addr10
        rw [if_pos addr10] at ran
        cases ran
        rfl
      · rename_i addr7
        rw [if_neg addr7] at ran
        exact (BscWrite.transmit_sends input ran).1

/-- The functions on the registers answer as the bus functions may. -/
theorem bscSemantics_allowed {input : BitVec 8 → BscInput} {source target : BitVec 8 → Bsc}
    {op : BusOp} {reply : Bus.Reply op}
    (step : (bscSemantics input).step source op reply target) : BusAllows op reply := by
  cases op with
  | i2cReadBytes dev addr isNull len flags =>
    obtain ⟨rounds, s, ran, -⟩ := step
    exact Bsc.i2cReadBytes_allowed ran
  | i2cWriteBytes dev addr data len flags =>
    obtain ⟨past, rounds, s, ran, -⟩ := step
    exact Bsc.i2cWriteBytes_allowed ran
  | i2cWriteWithPrefix dev addr head data len flags =>
    obtain ⟨past, rounds, s, ran, -⟩ := step
    exact Bsc.i2cWriteWithPrefix_allowed ran
  | i2cAcquire | i2cRelease | spiAcquire | spiRelease | spiTransferBytes | gpioInit | gpioSet
  | gpioGet => exact step.1

end TrustWasm.Drivers
