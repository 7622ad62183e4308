import TrustWasm.Drivers.BscRead
import TrustWasm.Drivers.Spi

/-!
# Timed waits

Three drivers wait with a timeout: the I2C driver for the start of a 10-bit transfer, the SPI
driver for its FIFOs and for the end of a transfer, in `spi_transfer_byte` and in the exchange of
the other transfers, and the flash driver until the memory is ready.  Each of them gives up
exactly when the time it computes between its last two readings exceeds its limit.  That is the
true time unless the product of `teetime_micro` wraps between the readings; then every wait gives
up.
-/

namespace TrustWasm.Drivers

open TrustWasm.Lib TrustWasm.Tee

/-! ## The wait of the flash driver -/

variable {timeout : BitVec 32} {ends : WaitEnd} {start stop : TeeTime} {rounds : Nat}
    {limit : BitVec 64}

namespace W25qxx

/-- What the wait of the flash driver does: it reads the status and the time. -/
inductive WaitOp where
  | readStatus
  | getSysTime
  deriving DecidableEq

abbrev WaitPort : Interface where
  Op := WaitOp
  Reply
    | .readStatus => Transfer
    | .getSysTime => TeeTime

/-- What a wait returns, with its two last readings unless a read of the status failed. -/
structure WaitEnd where
  res : TeeResult
  readings : Option (TeeTime × TeeTime)

def readyLoop (timeout : BitVec 32) (start : TeeTime) : Nat → Program WaitPort (Option WaitEnd)
  | 0 => return none
  | rounds + 1 => do
    let status ← Program.perform (I := WaitPort) .readStatus
    if status.res ≠ teeSuccess then
      return some ⟨status.res, none⟩
    let stop ← Program.perform (I := WaitPort) .getSysTime
    if status.bytes.headD 0 &&& statusBusy ≠ 0 ∧
        elapsed start stop ≤ timeout.setWidth 64 then
      readyLoop timeout start rounds
    else if timeout.setWidth 64 < elapsed start stop then
      return some ⟨teeErrorTimeout, some (start, stop)⟩
    else
      return some ⟨teeSuccess, some (start, stop)⟩

/-- `w25qxx_wait_until_ready_internal` with its readings of the time. -/
def timedWait (timeout : BitVec 32) (rounds : Nat) : Program WaitPort (Option WaitEnd) := do
  let start ← Program.perform (I := WaitPort) .getSysTime
  readyLoop timeout start rounds

/-- The wait on the board: the clock shows what it likes. -/
def waitSemantics {σ : Type} (S : Semantics Board σ) (bus cs : BitVec 8) :
    Semantics WaitPort σ where
  guard _ _ := True
  step source op reply target :=
    match op, reply with
    | .readStatus, (status : Transfer) =>
      (spiRead bus cs cmdReadStatus false 1).Exec S source status target
    | .getSysTime, _ => target = source

theorem exec_readyLoop {σ : Type} {S : Semantics Board σ} {bus cs : BitVec 8} {source target : σ}
    (run : (readyLoop timeout start rounds).Exec (waitSemantics S bus cs) source (some ends)
      target) :
    ∃ early, (waitUntilReadyInternal bus cs early).Exec S source ends.res target := by
  induction rounds generalizing source with
  | zero => cases run.1
  | succ rounds ih =>
    obtain ⟨status, middle, read, polled⟩ := Program.exec_perform_bind.mp run
    split at polled
    · rename_i failed
      obtain ⟨same, rfl⟩ := polled
      cases same
      refine ⟨0, Program.exec_bind.mpr ⟨status, _, read, ?_⟩⟩
      rw [if_pos failed]
      exact ⟨rfl, rfl⟩
    · rename_i succeeded
      obtain ⟨stop, _, rfl, rest⟩ := Program.exec_perform_bind.mp polled
      split at rest
      · rename_i goes
        obtain ⟨early, tail⟩ := ih rest
        refine ⟨early + 1, Program.exec_bind.mpr ⟨status, _, read, ?_⟩⟩
        rw [if_neg succeeded, if_pos goes.1]
        exact tail
      · rename_i isOver
        split at rest
        · obtain ⟨same, rfl⟩ := rest
          cases same
          refine ⟨0, Program.exec_bind.mpr ⟨status, _, read, ?_⟩⟩
          rw [if_neg succeeded]
          exact ⟨rfl, rfl⟩
        · rename_i early
          obtain ⟨same, rfl⟩ := rest
          cases same
          have ready : ¬(status.bytes.headD 0 &&& statusBusy ≠ 0) :=
            fun busy => isOver ⟨busy, BitVec.not_lt.mp early⟩
          refine ⟨1, Program.exec_bind.mpr ⟨status, _, read, ?_⟩⟩
          rw [if_neg succeeded, if_neg ready]
          exact ⟨rfl, rfl⟩

/-- The timed wait is a wait of the driver, with as many polls as are in time. -/
theorem exec_timedWait {σ : Type} {S : Semantics Board σ} {bus cs : BitVec 8} {source target : σ}
    (run : (timedWait timeout rounds).Exec (waitSemantics S bus cs) source (some ends) target) :
    ∃ early, (waitUntilReadyInternal bus cs early).Exec S source ends.res target := by
  obtain ⟨start, _, rfl, rest⟩ := run
  exact exec_readyLoop rest

theorem readyLoop_gives_up {σ : Type} {S : Semantics WaitPort σ} {begun : TeeTime}
    {source target : σ} {res : TeeResult}
    (run : (readyLoop timeout begun rounds).Exec S source (some ⟨res, some (start, stop)⟩) target) :
    res = teeErrorTimeout ↔ timeout.setWidth 64 < elapsed start stop := by
  induction rounds generalizing source with
  | zero => cases run.1
  | succ rounds ih =>
    obtain ⟨status, middle, read, rest⟩ := Program.exec_perform_bind.mp run
    split at rest
    · cases rest.1
    · obtain ⟨stop', _, -, rest⟩ := Program.exec_perform_bind.mp rest
      split at rest
      · exact ih rest
      · split at rest
        · rename_i late
          cases rest.1
          exact iff_of_true rfl late
        · rename_i early
          cases rest.1
          exact iff_of_false (by decide) early

theorem timedWait_gives_up {σ : Type} {S : Semantics WaitPort σ} {source target : σ}
    {res : TeeResult}
    (run : (timedWait timeout rounds).Exec S source (some ⟨res, some (start, stop)⟩) target) :
    res = teeErrorTimeout ↔ timeout.setWidth 64 < elapsed start stop := by
  obtain ⟨begun, _, -, rest⟩ := run
  exact readyLoop_gives_up rest

end W25qxx

/-! ## The wait of the I2C driver -/

namespace Bsc

variable {input : BscInput}

/-- A 10-bit read returns a timeout without starting to read. -/
def Waited.GivesUp (waited : Waited) : Prop :=
  i2cStartTimeoutUs < waited.elapsed ∨ waited.transferActive = false

instance (waited : Waited) : Decidable waited.GivesUp :=
  inferInstanceAs (Decidable (_ ∨ _))

theorem afterWait_eq (rounds : Nat) (len : BitVec 16) (waited : Waited) :
    afterWait input rounds len waited =
      if waited.GivesUp then
        some (⟨teeErrorTimeout, []⟩, waited.bsc.log (.writeStatus bscSClear))
      else
        BscRead.receive input rounds len.toNat (waited.bsc.log (.writeDlen (len.setWidth 32))) := by
  unfold afterWait
  by_cases late : i2cStartTimeoutUs < waited.elapsed
  · rw [if_pos late, if_pos (show waited.GivesUp from .inl late)]
  · by_cases active : waited.transferActive = true
    · have stays : ¬waited.GivesUp := by
        rintro (past | inactive)
        · exact late past
        · exact Bool.false_ne_true (inactive.symm.trans active)
      rw [if_neg late, if_pos active, if_neg stays]
    · rw [if_neg late, if_neg active,
        if_pos (show waited.GivesUp from .inr (Bool.eq_false_iff.mpr active))]

/-- The wait compares its first reading with its last. -/
theorem wait_gives_up {start : Nat} {s : Bsc} {waited : Waited}
    (returns : Loop.Returns (waitRound input start) s waited) :
    waited.GivesUp ↔
      i2cStartTimeoutUs <
        elapsed (.ofMicros start) (.ofMicros (input.clock (waited.bsc.ticks - 1))) := by
  obtain ⟨k, -, isOver, ends⟩ := (Loop.returns_iff_first (WaitOver input start) (waitNext input)
    (fun _ => waitRound_again) fun _ isOver => ⟨_, waitRound_done isOver⟩).mp returns
  rw [waitRound_done isOver] at ends
  cases ends
  constructor
  · rintro (late | inactive)
    · exact late
    · exact isOver.resolve_left (of_decide_eq_false inactive)
  · exact .inl

end Bsc

/-! ## The waits of the SPI driver -/

namespace Spi

theorem WaitEnd.ofReadings_gives_up (limit : BitVec 64) (start stop : TeeTime) :
    (WaitEnd.ofReadings limit start stop).res = teeErrorTimeout ↔ limit < elapsed start stop := by
  by_cases late : limit < elapsed start stop
  · exact iff_of_true (if_pos late) late
  · exact iff_of_false (fun same => absurd ((if_neg late).symm.trans same) (by decide)) late

/-- The wait of an exchange for its FIFOs. -/
def awaitMoved (plan : Plan) (rounds : Nat) : Program Port (Option WaitEnd) := do
  let start ← getSysTime .start
  let stop ← getSysTime (.stop .fifo plan.waitLimit)
  let moved ← moveLoop plan rounds ⟨0, 0, start, stop⟩
  return moved.map fun progress => .ofReadings plan.waitLimit progress.start progress.stop

theorem andThen_ofReadings (limit : BitVec 64) (start stop : TeeTime)
    (next : Program Port (Option TeeResult)) :
    WaitEnd.andThen next (some (.ofReadings limit start stop)) =
      if limit < elapsed start stop then finish teeErrorTimeout else next := by
  rw [WaitEnd.andThen, WaitEnd.ofReadings]
  by_cases late : limit < elapsed start stop
  · simp only [if_pos late]
    rw [if_neg (by decide)]
  · simp only [if_neg late]
    exact if_pos trivial

theorem awaitDone_eq (plan : Plan) (rounds : Nat) :
    awaitDone plan rounds =
      awaitFlag spiCsDone .done plan.doneLimit rounds >>= WaitEnd.andThen (finish teeSuccess) := by
  simp only [awaitDone, awaitFlag, doneLoop, bind_assoc, pure_bind]
  congr 1
  funext start
  congr 1
  funext waited
  cases waited with
  | none => rfl
  | some stop => exact (andThen_ofReadings ..).symm

/-- An exchange is its two waits, and returns what the last of them does. -/
theorem exchange_eq (plan : Plan) (rounds : Nat) :
    exchange plan rounds =
      awaitMoved plan rounds >>= WaitEnd.andThen
        (awaitFlag spiCsDone .done plan.doneLimit rounds >>=
          WaitEnd.andThen (finish teeSuccess)) := by
  simp only [exchange, awaitMoved, bind_assoc, pure_bind, ← awaitDone_eq]
  congr 1
  funext start
  congr 1
  funext stop
  congr 1
  funext moved
  cases moved with
  | none => rfl
  | some progress => exact (andThen_ofReadings ..).symm

section GivesUp

variable {σ : Type} {S : Semantics Port σ} {source target : σ}

theorem awaitFlag_gives_up {flag : BitVec 32} {wait : Wait}
    (run : (awaitFlag flag wait limit rounds).Exec S source (some ends) target) :
    ends.res = teeErrorTimeout ↔ limit < elapsed ends.start ends.stop := by
  obtain ⟨start, _, -, rest⟩ := Program.exec_perform_bind.mp run
  obtain ⟨waited, _, -, same, -⟩ := Program.exec_bind.mp rest
  obtain ⟨stop, -, rfl⟩ := Option.map_eq_some_iff.mp same.symm
  exact WaitEnd.ofReadings_gives_up limit start stop

theorem awaitMoved_gives_up {plan : Plan}
    (run : (awaitMoved plan rounds).Exec S source (some ends) target) :
    ends.res = teeErrorTimeout ↔ plan.waitLimit < elapsed ends.start ends.stop := by
  obtain ⟨start, _, -, rest⟩ := Program.exec_perform_bind.mp run
  obtain ⟨stop, _, -, rest⟩ := Program.exec_perform_bind.mp rest
  obtain ⟨moved, _, -, same, -⟩ := Program.exec_bind.mp rest
  obtain ⟨progress, -, rfl⟩ := Option.map_eq_some_iff.mp same.symm
  exact WaitEnd.ofReadings_gives_up _ _ _

end GivesUp

/-- A controller that never sets a flag, with a clock that shows `start` when a wait begins and
`stop` from then on. -/
def silentPort (start stop : TeeTime) : Semantics Port Unit where
  guard _ _ := True
  step _ op reply _ :=
    match op, reply with
    | .readCs, (status : BitVec 32) => status = 0
    | .getSysTime .start, (time : TeeTime) => time = start
    | .getSysTime (.stop ..), (time : TeeTime) => time = stop
    | _, _ => True

theorem silentPort_gives_up (flag : BitVec 32) (wait : Wait) (late : limit < elapsed start stop) :
    (awaitFlag flag wait limit 1).Exec (silentPort start stop) ()
      (some (.ofReadings limit start stop)) () := by
  refine Program.exec_perform_bind.mpr ⟨start, (), rfl, ?_⟩
  refine Program.exec_bind.mpr ⟨some stop, (), ?_, rfl, rfl⟩
  refine Program.exec_perform_bind.mpr ⟨(0 : BitVec 32), (), rfl, ?_⟩
  refine Program.exec_perform_bind.mpr ⟨stop, (), rfl, ?_⟩
  rw [if_neg fun again => BitVec.not_lt.mpr again.2 late]
  exact ⟨rfl, rfl⟩

end Spi

/-! ## Every timed wait -/

/-- A wait that has come to its end on its own, its last two readings, its limit, and that it
returns a timeout. -/
inductive WaitResult : TeeTime → TeeTime → BitVec 64 → Prop → Prop where
  | i2cStart {input : BscInput} {start : Nat} {s : Bsc} {waited : Bsc.Waited}
      (returns : Loop.Returns (Bsc.waitRound input start) s waited) :
      WaitResult (.ofMicros start) (.ofMicros (input.clock (waited.bsc.ticks - 1)))
        i2cStartTimeoutUs waited.GivesUp
  | spiByteTxd {σ : Type} {S : Semantics Spi.Port σ} {rounds : Nat} {source target : σ}
      {ends : Spi.WaitEnd}
      (run : (Spi.awaitFlag Spi.spiCsTxd .fifo Spi.spiWaitTxdUs rounds).Exec S source (some ends)
        target) :
      WaitResult ends.start ends.stop Spi.spiWaitTxdUs (ends.res = teeErrorTimeout)
  | spiByteDone {σ : Type} {S : Semantics Spi.Port σ} {rounds : Nat} {source target : σ}
      {ends : Spi.WaitEnd}
      (run : (Spi.awaitFlag Spi.spiCsDone .done Spi.spiTransferWaitDonePerbyteUs rounds).Exec S
        source (some ends) target) :
      WaitResult ends.start ends.stop Spi.spiTransferWaitDonePerbyteUs (ends.res = teeErrorTimeout)
  | spiFifo {σ : Type} {S : Semantics Spi.Port σ} {plan : Spi.Plan} {rounds : Nat}
      {source target : σ} {ends : Spi.WaitEnd}
      (run : (Spi.awaitMoved plan rounds).Exec S source (some ends) target) :
      WaitResult ends.start ends.stop plan.waitLimit (ends.res = teeErrorTimeout)
  | spiDone {σ : Type} {S : Semantics Spi.Port σ} {plan : Spi.Plan} {rounds : Nat}
      {source target : σ} {ends : Spi.WaitEnd}
      (run : (Spi.awaitFlag Spi.spiCsDone .done plan.doneLimit rounds).Exec S source (some ends)
        target) :
      WaitResult ends.start ends.stop plan.doneLimit (ends.res = teeErrorTimeout)
  | flashReady {σ : Type} {S : Semantics W25qxx.WaitPort σ} {timeout : BitVec 32} {rounds : Nat}
      {source target : σ} {res : TeeResult} {start stop : TeeTime}
      (run : (W25qxx.timedWait timeout rounds).Exec S source (some ⟨res, some (start, stop)⟩)
        target) :
      WaitResult start stop (timeout.setWidth 64) (res = teeErrorTimeout)

theorem Spi.Plan.waitLimit_small (plan : Spi.Plan) : plan.waitLimit.toNat < 2 ^ 63 := by
  rw [Spi.Plan.waitLimit]
  split
  · decide
  · decide

theorem Spi.perbyte_small (len : BitVec 32) :
    (Spi.spiTransferWaitDonePerbyteUs * len.setWidth 64).toNat < 2 ^ 63 := by
  have bound := len.isLt
  rw [BitVec.toNat_mul, BitVec.toNat_setWidth, Nat.mod_eq_of_lt (by omega : len.toNat < 2 ^ 64),
    show Spi.spiTransferWaitDonePerbyteUs.toNat = 1000 from rfl, Nat.mod_eq_of_lt (by omega)]
  omega

theorem Spi.Plan.doneLimit_small (plan : Spi.Plan) : plan.doneLimit.toNat < 2 ^ 63 := by
  rw [Spi.Plan.doneLimit]
  split
  · exact Spi.perbyte_small _
  · exact Spi.perbyte_small _
  · exact Spi.perbyte_small _
  · decide

/-- A wait gives up exactly when the time it computes exceeds its limit. -/
theorem WaitResult.gives_up {timedOut : Prop} (result : WaitResult start stop limit timedOut) :
    limit.toNat < 2 ^ 63 ∧ (timedOut ↔ limit < elapsed start stop) := by
  cases result with
  | i2cStart returns => exact ⟨by decide, Bsc.wait_gives_up returns⟩
  | spiByteTxd run => exact ⟨by decide, Spi.awaitFlag_gives_up run⟩
  | spiByteDone run => exact ⟨by decide, Spi.awaitFlag_gives_up run⟩
  | spiFifo run => exact ⟨Spi.Plan.waitLimit_small _, Spi.awaitMoved_gives_up run⟩
  | spiDone run => exact ⟨Spi.Plan.doneLimit_small _, Spi.awaitFlag_gives_up run⟩
  | flashReady run =>
    refine ⟨?_, W25qxx.timedWait_gives_up run⟩
    rw [BitVec.toNat_setWidth]
    omega

/-- The drivers measure the time between two readings exactly when the product of
`teetime_micro` wraps equally often in both.  Then what a wait returns is right; otherwise every
wait gives up, which is right only when its limit is truly exceeded. -/
theorem timeouts_measure_iff (normal : start.Normal) (normal' : stop.Normal)
    (ordered : start.total ≤ stop.total) (near : stop.total - start.total < 2 ^ 31) :
    ((elapsed start stop).toNat = stop.total - start.total ↔ start.wraps = stop.wraps) ∧
      ∀ limit timedOut, WaitResult start stop limit timedOut →
        ((timedOut ↔ limit.toNat < stop.total - start.total) ↔
          start.wraps = stop.wraps ∨ limit.toNat < stop.total - start.total) := by
  refine ⟨toNat_elapsed_eq_iff normal normal' ordered, fun limit timedOut result => ?_⟩
  obtain ⟨small, givesUp⟩ := result.gives_up
  rw [givesUp, lt_elapsed_iff normal normal' ordered near small]
  by_cases same : start.wraps = stop.wraps
  · simp [same]
  · simp [same]

/-- A wait of a second for room in the transmit FIFO returns a timeout, and rightly so. -/
theorem timeouts_measure_one_second :
    ∃ ends : Spi.WaitEnd,
      (Spi.awaitFlag Spi.spiCsTxd .fifo Spi.spiWaitTxdUs 1).Exec (Spi.silentPort ⟨10, 0⟩ ⟨11, 0⟩)
        () (some ends) () ∧
      ends.start = ⟨10, 0⟩ ∧ ends.stop = ⟨11, 0⟩ ∧ (elapsed ⟨10, 0⟩ ⟨11, 0⟩).toNat = 1000000 ∧
      (ends.res = teeErrorTimeout ↔ Spi.spiWaitTxdUs.toNat < 1000000) :=
  have run := Spi.silentPort_gives_up Spi.spiCsTxd .fifo
    (show Spi.spiWaitTxdUs < elapsed ⟨10, 0⟩ ⟨11, 0⟩ by decide)
  have measured := timeouts_measure_iff (show TeeTime.Normal ⟨10, 0⟩ by decide)
    (show TeeTime.Normal ⟨11, 0⟩ by decide) (by decide) (by decide)
  ⟨_, run, rfl, rfl, measured.1.mpr (by decide),
    (measured.2 _ _ (.spiByteTxd run)).mpr (.inl (by decide))⟩

/-- One microsecond after 4294 seconds and 999999 microseconds every wait of the drivers is
over; the wait of `spi_transfer_byte` for room in the FIFO, say, returns a timeout. -/
theorem timeouts_expire_at_wrap :
    TeeTime.total ⟨4295, 0⟩ - TeeTime.total ⟨4294, 999999⟩ = 1 ∧
      (elapsed ⟨4294, 999999⟩ ⟨4295, 0⟩).toNat ≠ 1 ∧
      i2cStartTimeoutUs < elapsed ⟨4294, 999999⟩ ⟨4295, 0⟩ ∧
      Spi.spiWaitTxdUs < elapsed ⟨4294, 999999⟩ ⟨4295, 0⟩ ∧
      W25qxx.chipEraseTimeoutUs.setWidth 64 < elapsed ⟨4294, 999999⟩ ⟨4295, 0⟩ ∧
      (Spi.awaitFlag Spi.spiCsTxd .fifo Spi.spiWaitTxdUs 1).Exec
        (Spi.silentPort ⟨4294, 999999⟩ ⟨4295, 0⟩) ()
        (some ⟨teeErrorTimeout, ⟨4294, 999999⟩, ⟨4295, 0⟩⟩) () :=
  ⟨by decide, by decide, by decide, by decide, by decide, Spi.silentPort_gives_up _ _ (by decide)⟩

end TrustWasm.Drivers
