import TrustWasm.Drivers.Board
import TrustWasm.Lib.Locks

/-!
# Which mutex each bus function uses

Each bus has a mutex that its acquire function locks and its release function unlocks, and a
transfer accesses the registers of the controller unless its argument checks reject it first.
An I2C transfer and the release of an I2C bus check the number of the bus as the acquire does,
so on a bus that does not exist none of them does anything.  The SPI functions do not agree
like this: acquiring checks the bus and the chip select, releasing only the bus, and most
transfers check nothing.
-/

namespace TrustWasm.Drivers

open TrustWasm.Lib TrustWasm.Tee

/-- The mutexes of the buses, by the number they are indexed with. -/
inductive Mutex where
  | i2c (bus : Nat)
  | spi (bus : Nat)
  deriving DecidableEq

def BusOp.effect : BusOp → LockEffect Mutex
  | .i2cAcquire dev => if dev.toNat < i2cNum then .lock (.i2c dev.toNat) else .idle
  | .i2cRelease dev => if dev.toNat < i2cNum then .unlock (.i2c dev.toNat) else .idle
  | .i2cReadBytes dev _ isNull len _ =>
    if i2cNum ≤ dev.toNat ∨ len = 0 ∨ isNull = true then .idle else .touch (.i2c dev.toNat)
  | .i2cWriteBytes dev _ data len flags =>
    if i2cNum ≤ dev.toNat ∨ len = 0 ∨ data = none ∨ (len = 0xFFFF ∧ flags &&& i2cAddr10 ≠ 0) then
      .idle
    else
      .touch (.i2c dev.toNat)
  | .i2cWriteWithPrefix dev _ _ data len flags =>
    if i2cNum ≤ dev.toNat ∨ len = 0 ∨ data = none ∨ flags &&& i2cAddr10 ≠ 0 then .idle
    else .touch (.i2c dev.toNat)
  | .spiAcquire bus cs _ _ =>
    if bus.toNat < spiNum ∧ cs.toNat < spiCsNum then .lock (.spi bus.toNat) else .idle
  | .spiRelease bus => if bus.toNat < spiNum then .unlock (.spi bus.toNat) else .idle
  | .spiTransferBytes bus .. => .touch (.spi bus.toNat)
  | .gpioInit .. | .gpioSet .. | .gpioGet .. => .idle

def busLocks : LockModel Bus Mutex where
  effect := BusOp.effect
  allows := BusAllows

/-- `i2c_set_frequency` writes the divider of a known frequency, and `spi_transfer_byte`
checks its arguments. -/
def BoardOp.effect : BoardOp → LockEffect Mutex
  | .bus op => op.effect
  | .i2cSetFrequency dev freq => if 4 < freq.toNat then .idle else .touch (.i2c dev.toNat)
  | .spiTransferByte spi cs _ _ _ =>
    if spiNum ≤ spi.toNat ∨ spiCsNum ≤ cs.toNat then .idle else .touch (.spi spi.toNat)
  | .spiTransferDiffBytes spi .. | .spiTransferRegs spi .. => .touch (.spi spi.toNat)

/-- What the functions that only the board has may answer does not matter to the mutexes. -/
def boardLocks : LockModel Board Mutex where
  effect := BoardOp.effect
  allows
    | .bus op => BusAllows op
    | .i2cSetFrequency .. | .spiTransferByte .. | .spiTransferDiffBytes ..
    | .spiTransferRegs .. => fun _ => True

variable {α : Type} {held : Mutex → Nat} {dev : BitVec 8}

/-- A program of bus functions does with the mutexes on the board what it does by itself. -/
theorem obeys_onBoard_iff {post : α → (Mutex → Nat) → Prop} {program : Program Bus α} :
    (onBoard program).Obeys boardLocks.semantics post held ↔
      program.Obeys busLocks.semantics post held :=
  Program.obeys_translate_iff fun _ _ _ => Iff.rfl

theorem balanced_onBoard {program : Program Bus α} (balanced : busLocks.Balanced program) :
    boardLocks.Balanced (onBoard program) :=
  fun held => obeys_onBoard_iff.mpr (balanced held)

/-! ## Between acquire and release of an I2C bus -/

/-- What is held after acquiring an I2C bus: one more if the bus exists. -/
def i2cHeld (dev : BitVec 8) (held : Mutex → Nat) : Mutex → Nat :=
  if dev.toNat < i2cNum then LockModel.add held (.i2c dev.toNat) else held

section Session

variable {post : α → (Mutex → Nat) → Prop} {rest : TeeResult → Program Bus α}

theorem obeys_i2cAcquire
    (session : ∀ res, BusAllows (.i2cAcquire dev) res →
      (rest res).Obeys busLocks.semantics post (i2cHeld dev held)) :
    (i2cAcquire dev >>= rest).Obeys busLocks.semantics post held := by
  by_cases present : dev.toNat < i2cNum
  · have locks : busLocks.effect (.i2cAcquire dev) = .lock (.i2c dev.toNat) := if_pos present
    refine LockModel.obeys_lock locks fun res allowed => ?_
    have obeys := session res allowed
    rwa [i2cHeld, if_pos present] at obeys
  · have idle : busLocks.effect (.i2cAcquire dev) = .idle := if_neg present
    refine LockModel.obeys_idle idle fun res allowed => ?_
    have obeys := session res allowed
    rwa [i2cHeld, if_neg present] at obeys

/-- A failed acquire holds nothing. -/
theorem i2cHeld_of_failed {res : TeeResult} (allowed : BusAllows (.i2cAcquire dev) res)
    (failed : res ≠ teeSuccess) : i2cHeld dev held = held := by
  apply if_neg
  intro present
  exact failed (allowed.trans (if_neg (Nat.not_le.mpr present)))

/-- An acquire whose failure ends the call. -/
theorem obeys_i2cAcquire_checked {refused : TeeResult → Program Bus α} {session : Program Bus α}
    (early : ∀ res, (refused res).Obeys busLocks.semantics post held)
    (obeys : session.Obeys busLocks.semantics post (i2cHeld dev held)) :
    (i2cAcquire dev >>= fun res => if res ≠ teeSuccess then refused res else session).Obeys
      busLocks.semantics post held := by
  refine obeys_i2cAcquire fun res allowed => ?_
  split
  · rename_i failed
    rw [i2cHeld_of_failed allowed failed]
    exact early res
  · exact obeys

theorem obeys_i2cRelease (after : ∀ res, (rest res).Obeys busLocks.semantics post held) :
    (i2cRelease dev >>= rest).Obeys busLocks.semantics post (i2cHeld dev held) := by
  by_cases present : dev.toNat < i2cNum
  · have unlocks : busLocks.effect (.i2cRelease dev) = .unlock (.i2c dev.toNat) := if_pos present
    rw [i2cHeld, if_pos present]
    exact LockModel.obeys_unlock unlocks fun res _ => after res
  · have idle : busLocks.effect (.i2cRelease dev) = .idle := if_neg present
    rw [i2cHeld, if_neg present]
    exact LockModel.obeys_idle idle fun res _ => after res

end Session

/-- A transfer on the given I2C bus. -/
def BusOp.TransfersOn (dev : BitVec 8) : BusOp → Prop
  | .i2cReadBytes bus .. | .i2cWriteBytes bus .. | .i2cWriteWithPrefix bus .. => bus = dev
  | _ => False

theorem BusOp.TransfersOn.within {op : BusOp} (transfers : op.TransfersOn dev) :
    busLocks.Within (.i2c dev.toNat) op := by
  cases op with
  | i2cReadBytes bus | i2cWriteBytes bus | i2cWriteWithPrefix bus =>
    obtain rfl : bus = dev := transfers
    exact ite_eq_or_eq _ _ _
  | _ => exact transfers.elim

theorem BusOp.TransfersOn.idle {op : BusOp} (transfers : op.TransfersOn dev)
    (absent : ¬dev.toNat < i2cNum) : busLocks.effect op = .idle := by
  cases op with
  | i2cReadBytes bus | i2cWriteBytes bus | i2cWriteWithPrefix bus =>
    obtain rfl : bus = dev := transfers
    exact if_pos (.inl (Nat.not_lt.mp absent))
  | _ => exact transfers.elim

/-- Transfers on a bus are fine after acquiring it, also when it does not exist. -/
theorem keeps_of_transfers {program : Program Bus α} (uses : program.Uses (BusOp.TransfersOn dev)) :
    busLocks.Keeps (i2cHeld dev held) program := by
  by_cases present : dev.toNat < i2cNum
  · rw [i2cHeld, if_pos present]
    exact LockModel.keeps_of_uses (uses.mono fun _ => BusOp.TransfersOn.within)
      (LockModel.add_pos held _)
  · exact LockModel.balanced_of_idle (uses.mono fun _ transfers => transfers.idle present) _

/-- One session: acquire, transfers, release. -/
theorem withBus_balanced {body : Program Bus Reply}
    (uses : body.Uses (BusOp.TransfersOn dev)) : busLocks.Balanced (withBus dev body) := by
  intro held
  refine obeys_i2cAcquire_checked (fun _ => rfl) ?_
  exact (keeps_of_transfers uses).then fun _ => obeys_i2cRelease fun _ => rfl

/-! ## What the drivers transfer -/

theorem i2cReadRegsFrom_uses (addr reg : BitVec 16) (isNull : Bool) (count i : Nat)
    (flags : BitVec 8) :
    (i2cReadRegsFrom dev addr reg isNull count i flags).Uses (BusOp.TransfersOn dev) := by
  induction count generalizing i flags with
  | zero => trivial
  | succ count ih =>
    refine .perform_bind rfl fun res => ?_
    split
    · trivial
    · refine .perform_bind rfl fun read => ?_
      split
      · trivial
      · exact (ih (i + 1) _).bind fun rest => trivial

theorem i2cReadRegs_uses (addr reg : BitVec 16) (isNull : Bool) (len : BitVec 16)
    (flags : BitVec 8) :
    (i2cReadRegs dev addr reg isNull len flags).Uses (BusOp.TransfersOn dev) := by
  unfold i2cReadRegs
  split
  · trivial
  · exact i2cReadRegsFrom_uses addr reg isNull len.toNat 0 flags

theorem i2cWriteReg_uses (addr reg : BitVec 16) (data : Byte) (flags : BitVec 8) :
    (i2cWriteReg dev addr reg data flags).Uses (BusOp.TransfersOn dev) := by
  unfold i2cWriteReg
  split
  · trivial
  · exact ⟨rfl, fun _ => trivial⟩

theorem i2cWriteRegs_uses (addr reg : BitVec 16) (data : Option (List Byte)) (len : BitVec 16)
    (flags : BitVec 8) :
    (i2cWriteRegs dev addr reg data len flags).Uses (BusOp.TransfersOn dev) := by
  unfold i2cWriteRegs
  split
  · trivial
  · refine .perform_bind rfl fun res => ?_
    split
    · trivial
    · exact ⟨rfl, fun _ => trivial⟩

section Devices

variable (dev : I2cDevice)

theorem mpuSampleFrom_uses (isNull : Bool) (count i : Nat) :
    (mpuSampleFrom dev isNull count i).Uses (BusOp.TransfersOn dev.i2c) := by
  induction count generalizing i with
  | zero => trivial
  | succ count ih =>
    refine (i2cReadRegs_uses _ _ _ _ _).bind fun read => ?_
    split
    · trivial
    · exact (ih (i + 1)).bind fun rest => trivial

theorem writeRegs_uses (writes : List (BitVec 16 × Byte)) :
    (writeRegs dev writes).Uses (BusOp.TransfersOn dev.i2c) := by
  induction writes with
  | nil => trivial
  | cons write rest ih =>
    refine (i2cWriteReg_uses _ _ _ _).bind fun res => ?_
    split
    · trivial
    · exact ih

namespace Tel0157

theorem readInto_uses (reg len : BitVec 16) :
    (readInto dev reg len).Uses (BusOp.TransfersOn dev.i2c) :=
  (i2cReadRegs_uses _ _ _ _ _).bind fun _ => trivial

theorem getDateInternal_uses : (getDateInternal dev).Uses (BusOp.TransfersOn dev.i2c) := by
  refine (i2cReadRegs_uses _ _ _ _ _).bind fun date => ?_
  split
  all_goals trivial

theorem getUtcInternal_uses : (getUtcInternal dev).Uses (BusOp.TransfersOn dev.i2c) := by
  refine (i2cReadRegs_uses _ _ _ _ _).bind fun utc => ?_
  split
  all_goals trivial

theorem getCoordinateInternal_uses (field : Coordinate) :
    (getCoordinateInternal dev field).Uses (BusOp.TransfersOn dev.i2c) := by
  refine (i2cReadRegs_uses _ _ _ _ _).bind fun read => ?_
  split
  · trivial
  · refine (i2cReadRegs_uses _ _ _ _ _).bind fun direction => ?_
    split
    all_goals trivial

theorem getGnssLenInternal_uses :
    (getGnssLenInternal dev).Uses (BusOp.TransfersOn dev.i2c) := by
  refine (i2cWriteReg_uses _ _ _ _).bind fun res => ?_
  split
  · trivial
  · refine (i2cReadRegs_uses _ _ _ _ _).bind fun len => ?_
    split
    all_goals trivial

theorem getAllDataInternal_uses (len : BitVec 16) :
    (getAllDataInternal dev len).Uses (BusOp.TransfersOn dev.i2c) := by
  refine .perform_bind rfl fun res => ?_
  split
  · trivial
  · exact ⟨rfl, fun _ => trivial⟩

theorem getAllGnssFrom_uses (len blocks count i : Nat) :
    (getAllGnssFrom dev len blocks count i).Uses (BusOp.TransfersOn dev.i2c) := by
  induction count generalizing i with
  | zero => trivial
  | succ count ih =>
    refine (getAllDataInternal_uses dev _).bind fun block => ?_
    split
    · trivial
    · exact (ih (i + 1)).bind fun rest => trivial

theorem getAllGnssInternal_uses (len : BitVec 16) :
    (getAllGnssInternal dev len).Uses (BusOp.TransfersOn dev.i2c) := by
  unfold getAllGnssInternal
  split
  · trivial
  · exact getAllGnssFrom_uses dev _ _ _ _

end Tel0157

theorem Atk301.uploadFrom_uses (count i : Nat) :
    (uploadFrom dev count i).Uses (BusOp.TransfersOn dev.i2c) := by
  induction count generalizing i with
  | zero => trivial
  | succ count ih =>
    refine .perform_bind rfl fun block => ?_
    split
    · trivial
    · exact (ih (i + 1)).bind fun rest => trivial

/-! ## The drivers are balanced -/

/-- A transfer in a session. -/
theorem obeys_transfer {op : BusOp} {rest : Bus.Reply op → Program Bus α}
    {post : α → (Mutex → Nat) → Prop} {i2c : BitVec 8} (transfers : op.TransfersOn i2c)
    (after : ∀ reply, (rest reply).Obeys busLocks.semantics post (i2cHeld i2c held)) :
    (Program.perform (I := Bus) op >>= rest).Obeys busLocks.semantics post (i2cHeld i2c held) :=
  (keeps_of_transfers ((Program.uses_perform _ op).mpr transfers)).then after

theorem bh1750fviInit_balanced : busLocks.Balanced (bh1750fviInit dev) :=
  withBus_balanced (Program.Uses.perform_bind rfl fun _ => trivial)

theorem bh1750fviSample_balanced : busLocks.Balanced (bh1750fviSample dev) := by
  intro held
  refine obeys_i2cAcquire_checked (fun _ => rfl) ?_
  refine obeys_transfer rfl fun res => ?_
  split
  · exact obeys_i2cRelease fun _ => rfl
  · refine obeys_transfer rfl fun res => ?_
    split
    · exact obeys_i2cRelease fun _ => rfl
    · refine obeys_i2cRelease fun _ => obeys_i2cAcquire fun _ _ => ?_
      refine obeys_transfer rfl fun raw => obeys_i2cRelease fun _ => ?_
      split
      all_goals rfl

theorem mpuInit_balanced : busLocks.Balanced (mpuInit dev) := by
  apply withBus_balanced
  refine (writeRegs_uses dev _).bind fun res => ?_
  split
  · trivial
  · refine (i2cReadRegs_uses _ _ _ _ _).bind fun read => ?_
    split
    · trivial
    · split
      · trivial
      · exact (writeRegs_uses dev _).bind fun res => trivial

theorem mpuDeinit_balanced : busLocks.Balanced (mpuDeinit dev) :=
  withBus_balanced ((writeRegs_uses dev _).bind fun _ => trivial)

theorem mpuSample_balanced (isNull : Bool) : busLocks.Balanced (mpuSample dev isNull) :=
  withBus_balanced (mpuSampleFrom_uses dev isNull 14 0)

theorem at24cxxRead_balanced (addr : BitVec 16) (isNull : Bool) (len : BitVec 32) :
    busLocks.Balanced (at24cxxRead dev addr isNull len) := by
  intro held
  refine obeys_i2cAcquire fun _ _ => obeys_transfer rfl fun res => ?_
  split
  · exact obeys_i2cRelease fun _ => rfl
  · exact obeys_transfer rfl fun read => obeys_i2cRelease fun _ => rfl

theorem at24cxxWrite_balanced (addr : BitVec 16) (data : Option (List Byte)) (len : BitVec 32) :
    busLocks.Balanced (at24cxxWrite dev addr data len) :=
  fun _ => obeys_i2cAcquire fun _ _ => obeys_transfer rfl fun _ => obeys_i2cRelease fun _ => rfl

theorem Tel0157.init_balanced (gnssMode rgb : Byte) :
    busLocks.Balanced (Tel0157.init dev gnssMode rgb) := by
  apply withBus_balanced
  refine (i2cWriteReg_uses _ _ _ _).bind fun res => ?_
  split
  · trivial
  · have setsMode : (setGnssModeInternal dev gnssMode).Uses (BusOp.TransfersOn dev.i2c) := by
      unfold setGnssModeInternal
      split
      · trivial
      · exact i2cWriteReg_uses _ _ _ _
    refine setsMode.bind fun res => ?_
    split
    · trivial
    · exact (i2cWriteReg_uses _ _ _ _).bind fun res => trivial

theorem Tel0157.deinit_balanced : busLocks.Balanced (Tel0157.deinit dev) :=
  withBus_balanced ((i2cWriteReg_uses _ _ _ _).bind fun _ => trivial)

theorem Tel0157.getUtcTime_balanced : busLocks.Balanced (Tel0157.getUtcTime dev) := by
  apply withBus_balanced
  refine (getDateInternal_uses dev).bind fun date => ?_
  split
  · trivial
  · exact (getUtcInternal_uses dev).bind fun utc => trivial

namespace Atk301

theorem exchangeHead_balanced (command : Byte) :
    busLocks.Balanced (exchangeHead dev command) := by
  intro held
  refine obeys_i2cAcquire_checked (fun _ => rfl) ?_
  refine obeys_transfer rfl fun res => ?_
  split
  · exact obeys_i2cRelease fun _ => rfl
  · refine obeys_i2cRelease fun _ => obeys_i2cAcquire fun _ _ => ?_
    exact obeys_transfer rfl fun _ => obeys_transfer rfl fun _ => obeys_i2cRelease fun _ => rfl

theorem init_balanced : busLocks.Balanced (Atk301.init dev) := by
  refine (exchangeHead_balanced dev _).bind fun head => ?_
  split
  · exact LockModel.balanced_pure _
  · split
    all_goals exact LockModel.balanced_pure _

theorem getFingerprintImage_balanced : busLocks.Balanced (getFingerprintImage dev) := by
  refine (exchangeHead_balanced dev _).bind fun head => ?_
  split
  · exact LockModel.balanced_pure _
  · split
    all_goals exact LockModel.balanced_pure _

theorem uploadFingerprintImage_balanced : busLocks.Balanced (uploadFingerprintImage dev) := by
  refine (exchangeHead_balanced dev _).bind fun head => ?_
  split
  · exact LockModel.balanced_pure _
  · split
    · exact LockModel.balanced_pure _
    · dsimp only
      split
      · exact LockModel.balanced_pure _
      · refine fun held => obeys_i2cAcquire fun _ _ => ?_
        exact (keeps_of_transfers (uploadFrom_uses dev 80 0)).then fun _ =>
          obeys_i2cRelease fun _ => rfl

end Atk301

end Devices

namespace Dht

/-- A function of a pin. -/
def IsGpio (op : BusOp) : Prop :=
  op.effect = .idle

theorem spin_uses (pin : BitVec 32) (keep : Int → Bool) (timeOut : Nat) :
    (spin pin keep timeOut).Uses IsGpio := by
  induction timeOut with
  | zero => trivial
  | succ timeOut ih =>
    refine .perform_bind rfl fun level => ?_
    split
    · exact ih
    · trivial

theorem sendStartSignal_uses (pin : BitVec 32) : (sendStartSignal pin).Uses IsGpio := by
  refine .perform_bind rfl fun _ => Program.Uses.perform_bind rfl fun _ => ?_
  refine .perform_bind rfl fun _ => Program.Uses.perform_bind rfl fun _ => ?_
  refine .perform_bind rfl fun level => ?_
  split
  · refine (spin_uses pin _ _).bind fun timeOut => ?_
    split
    all_goals trivial
  · trivial

theorem busyWaitReadFrom_uses (pin : BitVec 32) (count pos timeOut : Nat) (data : Frame) :
    (busyWaitReadFrom pin count pos timeOut data).Uses IsGpio := by
  induction count generalizing pos timeOut data with
  | zero => trivial
  | succ count ih =>
    refine (spin_uses pin _ _).bind fun timeOut => ?_
    split
    · trivial
    · refine (spin_uses pin _ _).bind fun timeOut => ?_
      split
      · trivial
      · exact .perform_bind rfl fun level => ih _ _ _

theorem read_balanced (pin type : BitVec 32) : busLocks.Balanced (read pin type) := by
  suffices uses : (read pin type).Uses IsGpio from LockModel.balanced_of_idle uses
  refine (sendStartSignal_uses pin).bind fun started => ?_
  split
  · trivial
  · refine (busyWaitReadFrom_uses pin _ _ _ _).bind fun frame => ?_
    obtain ⟨res, data⟩ := frame
    dsimp only
    split
    · trivial
    · split
      · trivial
      · split
        all_goals trivial

end Dht

/-- The call is one of a device driver, not of a bus function. -/
def DriverCall.IsDevice : DriverCall → Prop
  | .i2cAcquire .. | .i2cRelease .. | .i2cWriteBytes .. | .i2cReadBytes .. | .i2cReadRegs ..
  | .spiAcquire .. | .spiRelease .. | .spiTransferBytes .. => False
  | _ => True

theorem DriverCall.IsDevice.balanced {call : DriverCall} (isDevice : call.IsDevice) :
    busLocks.Balanced call.program := by
  cases call with
  | dhtRead pin type => exact Dht.read_balanced pin type
  | bh1750fviSample dev => exact bh1750fviSample_balanced dev
  | mpuSample dev isNull => exact mpuSample_balanced dev isNull
  | at24cxxRead dev addr isNull len => exact at24cxxRead_balanced dev addr isNull len
  | at24cxxWrite dev addr data len => exact at24cxxWrite_balanced dev addr data len
  | tel0157GetGnssLen dev => exact withBus_balanced (Tel0157.getGnssLenInternal_uses dev)
  | tel0157GetAllGnss dev len => exact withBus_balanced (Tel0157.getAllGnssInternal_uses dev len)
  | tel0157GetUtcTime dev => exact Tel0157.getUtcTime_balanced dev
  | tel0157GetGnssMode dev => exact withBus_balanced (Tel0157.readInto_uses dev 34 1)
  | tel0157GetNumSatUsed dev => exact withBus_balanced (Tel0157.readInto_uses dev 19 1)
  | tel0157GetLon dev | tel0157GetLat dev =>
    exact withBus_balanced (Tel0157.getCoordinateInternal_uses dev _)
  | tel0157GetAlt dev => exact withBus_balanced (Tel0157.readInto_uses dev 20 3)
  | tel0157GetSog dev => exact withBus_balanced (Tel0157.readInto_uses dev 23 3)
  | tel0157GetCog dev => exact withBus_balanced (Tel0157.readInto_uses dev 26 3)
  | atk301GetFingerprintImage dev => exact Atk301.getFingerprintImage_balanced dev
  | atk301UploadFingerprintImage dev => exact Atk301.uploadFingerprintImage_balanced dev
  | _ => exact isDevice.elim

end TrustWasm.Drivers
