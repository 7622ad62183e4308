import TrustWasm.Drivers.FlashLocks
import TrustWasm.IoHelper.Locality
import TrustWasm.Pta.Services

/-!
# The bus mutexes in every entry point

An entry point that uses a bus is a command of a service, a function of a driver or a request
handler.  All of them run on one platform: the functions of the board, and the operations of
the request handlers, which do nothing with the bus mutexes.  Every entry point unlocks and
touches only what it holds and returns holding nothing, apart from the functions of the flash
driver that ignore a failed acquire and the service commands that call them.
-/

namespace TrustWasm.Pta

open TrustWasm.Lib TrustWasm.Tee TrustWasm.Drivers TrustWasm.IoHelper

variable {α β : Type} {held : Mutex → Nat}

/-! ## Services -/

variable {dev : BitVec 8} {types expected : BitVec 32} {params : ServiceParams} {fits : Bool}
    {reply : Reply → ServiceReply} {call : DriverCall}

/-- Transfers on an I2C bus, as functions of the board. -/
theorem onBoard_within {program : Program Bus α} (uses : program.Uses (BusOp.TransfersOn dev)) :
    (onBoard program).Uses (boardLocks.Within (.i2c dev.toNat)) := by
  refine Program.Uses.translate (fun op transfers => ?_) uses
  exact ⟨transfers.within, fun _ => trivial⟩

theorem i2cCommand_balanced {transfer : Program Board Transfer} {reply : Transfer → ServiceReply}
    (uses : transfer.Uses (boardLocks.Within (.i2c params.i2c.toNat))) :
    boardLocks.Balanced (i2cCommand expected types params transfer reply) := by
  unfold i2cCommand
  split
  · exact LockModel.balanced_pure _
  · have brackets :
        (boardLocks.effect (.bus (.i2cAcquire params.i2c)) = .lock (.i2c params.i2c.toNat) ∧
          boardLocks.effect (.bus (.i2cRelease params.i2c)) = .unlock (.i2c params.i2c.toNat) ∧
          ∀ res, BusAllows (.i2cAcquire params.i2c) res → ¬(res ≠ teeSuccess)) ∨
        (boardLocks.effect (.bus (.i2cAcquire params.i2c)) = .idle ∧
          ∀ res, BusAllows (.i2cAcquire params.i2c) res → res ≠ teeSuccess) := by
      by_cases present : params.i2c.toNat < i2cNum
      · refine .inl ⟨if_pos present, if_pos present, fun res allowed => ?_⟩
        exact not_not.mpr (allowed.trans (if_neg (Nat.not_le.mpr present)))
      · refine .inr ⟨if_neg present, fun res allowed => ?_⟩
        have failed : res = teeErrorBadParameters := allowed.trans (if_pos (Nat.not_lt.mp present))
        rw [failed]
        exact (by decide : teeErrorBadParameters ≠ teeSuccess)
    exact fun held => LockModel.obeys_session brackets uses (fun _ => rfl) fun _ => rfl

theorem spiCommand_balanced {transfer : Program Board Transfer} {reply : Transfer → ServiceReply}
    (uses : transfer.Uses (boardLocks.Within (.spi params.spi.toNat))) :
    boardLocks.Balanced (spiCommand expected types params fits transfer reply) := by
  unfold spiCommand
  split
  · exact LockModel.balanced_pure _
  · exact fun held => obeys_spiSession uses (fun _ => rfl) fun _ => rfl

theorem deviceCommand_balanced {run : Program Board Reply} (balanced : boardLocks.Balanced run) :
    boardLocks.Balanced (deviceCommand expected types params fits run reply) := by
  unfold deviceCommand
  split
  · exact LockModel.balanced_pure _
  · exact balanced.bind fun _ => LockModel.balanced_pure _

theorem deviceCommand_call_balanced (isDevice : call.IsDevice) :
    boardLocks.Balanced
      (deviceCommand expected types params fits (onBoard call.program) reply) :=
  deviceCommand_balanced (balanced_onBoard isDevice.balanced)

section Services

variable (types : BitVec 32) (params : ServiceParams) (cmd : BitVec 32)

theorem i2cService_balanced : boardLocks.Balanced (i2cService types params cmd) := by
  unfold i2cService
  split
  · exact i2cCommand_balanced (onBoard_within ⟨rfl, fun _ => trivial⟩)
  · exact i2cCommand_balanced (onBoard_within ⟨rfl, fun _ => trivial⟩)
  · exact i2cCommand_balanced (onBoard_within ⟨rfl, fun _ => trivial⟩)
  · exact i2cCommand_balanced (onBoard_within ⟨rfl, fun _ => trivial⟩)
  · exact i2cCommand_balanced (onBoard_within (i2cReadRegs_uses _ _ _ _ _))
  · exact i2cCommand_balanced (onBoard_within (i2cReadRegs_uses _ _ _ _ _))
  · exact i2cCommand_balanced (onBoard_within ((i2cWriteReg_uses _ _ _ _).bind fun _ => trivial))
  · exact i2cCommand_balanced (onBoard_within ((i2cWriteRegs_uses _ _ _ _ _).bind fun _ => trivial))
  · unfold ptaI2cSetFreq
    dsimp only
    split
    · exact LockModel.balanced_pure _
    · exact i2cCommand_balanced ⟨ite_eq_or_eq _ _ _, fun _ => trivial⟩
  · exact LockModel.balanced_pure _
  · exact LockModel.balanced_pure _

theorem spiService_balanced : boardLocks.Balanced (spiService types params cmd) := by
  unfold spiService
  split
  · refine spiCommand_balanced ?_
    have transfers (out : Byte) (isNull : Bool) :
        (spiTransferByte params.spi params.spiCs params.spiCont out isNull).Uses
          (boardLocks.Within (.spi params.spi.toNat)) :=
      ⟨ite_eq_or_eq _ _ _, fun _ => trivial⟩
    split
    · exact transfers _ _
    · split
      · exact transfers _ _
      · split
        · exact transfers _ _
        · trivial
  · refine spiCommand_balanced ?_
    have transfers (out : Option (List Byte)) (isNull : Bool) (len : BitVec 64) :
        (onBoard (spiTransferBytes params.spi params.spiCs params.spiCont out isNull len)).Uses
          (boardLocks.Within (.spi params.spi.toNat)) :=
      ⟨.inr rfl, fun _ => trivial⟩
    split
    · exact transfers _ _ _
    · split
      · exact transfers _ _ _
      · split
        · exact transfers _ _ _
        · trivial
  · exact spiCommand_balanced ⟨.inr rfl, fun _ => trivial⟩
  · exact LockModel.balanced_pure _

theorem at24cxxService_balanced : boardLocks.Balanced (at24cxxService types params cmd) := by
  unfold at24cxxService
  split
  · exact deviceCommand_call_balanced trivial
  · exact deviceCommand_call_balanced trivial
  · exact LockModel.balanced_pure _

theorem bh1750fviService_balanced : boardLocks.Balanced (bh1750fviService types params cmd) := by
  unfold bh1750fviService
  split
  · exact deviceCommand_balanced (balanced_onBoard (bh1750fviInit_balanced _))
  · exact deviceCommand_call_balanced trivial
  · exact LockModel.balanced_pure _

theorem mpu6050Service_balanced : boardLocks.Balanced (mpu6050Service types params cmd) := by
  unfold mpu6050Service
  split
  · exact deviceCommand_balanced (balanced_onBoard (mpuInit_balanced _))
  · exact deviceCommand_balanced (balanced_onBoard (mpuDeinit_balanced _))
  · exact deviceCommand_call_balanced trivial
  · exact LockModel.balanced_pure _

theorem tel0157Service_balanced : boardLocks.Balanced (tel0157Service types params cmd) := by
  unfold tel0157Service
  split
  any_goals exact deviceCommand_call_balanced trivial
  · exact deviceCommand_balanced (balanced_onBoard (Tel0157.init_balanced _ _ _))
  · exact deviceCommand_balanced (balanced_onBoard (Tel0157.deinit_balanced _))
  · exact LockModel.balanced_pure _

theorem atk301Service_balanced : boardLocks.Balanced (atk301Service types params cmd) := by
  unfold atk301Service
  split
  · exact deviceCommand_balanced (balanced_onBoard (Atk301.init_balanced _))
  · exact deviceCommand_call_balanced trivial
  · exact deviceCommand_call_balanced trivial
  · exact LockModel.balanced_pure _

end Services

/-! ## The flash service -/

section Flash

variable (polls : W25qxx.Polls) (types : BitVec 32) (params : ServiceParams) (id : BitVec 16)
  (cmd : BitVec 32)

/-- The command reaches a function of the flash driver that ignores a failed acquire. -/
def ReachesUnchecked (types cmd : BitVec 32) : Prop :=
  (cmd.toNat = 0 ∧ valueTypes = types) ∨ (cmd.toNat = 2 ∧ i2cReadTypes = types) ∨
    (cmd.toNat = 4 ∧ sectorEraseTypes = types) ∨ (cmd.toNat = 5 ∧ valueTypes = types)

/-- The chip the flash service addresses. -/
def FlashChip (params : ServiceParams) : Prop :=
  SelectsChip (params.p0.a.setWidth 8) (params.p0.b.setWidth 8)

theorem flashCommand_disciplined_iff {call : W25qxx.Call} (unchecked : ¬call.IsChecked) :
    boardLocks.Disciplined (flashCommand polls types params expected call reply) ↔
      (expected = types → FlashChip params) := by
  unfold flashCommand deviceCommand
  by_cases same : expected = types
  · rw [if_neg (by simp [same])]
    have driver : boardLocks.Disciplined (call.program polls _ _) ↔ FlashChip params :=
      call.disciplined_iff unchecked
    simp only [same, true_implies, ← driver]
    rw [LockModel.Disciplined, Program.obeys_bind_iff]
    exact Iff.rfl
  · rw [if_pos (.inl same)]
    exact ⟨fun _ equal => absurd equal same, fun _ => rfl⟩

theorem flashCommand_balanced {call : W25qxx.Call} (isChecked : call.IsChecked) :
    boardLocks.Balanced (flashCommand polls types params expected call reply) :=
  deviceCommand_balanced isChecked.balanced

theorem w25qxxService_disciplined_iff :
    boardLocks.Disciplined (w25qxxService polls types params id cmd) ↔
      (ReachesUnchecked types cmd → FlashChip params) := by
  unfold w25qxxService ReachesUnchecked
  split
  · rename_i isInit
    refine Iff.trans (flashCommand_disciplined_iff polls types params (by exact not_false)) ?_
    simp [isInit]
  · rename_i isReadId
    simp only [isReadId]
    refine iff_of_true (LockModel.Balanced.disciplined ?_) (by simp)
    exact flashCommand_balanced polls types params (by trivial)
  · rename_i isReadData
    refine Iff.trans (flashCommand_disciplined_iff polls types params (by exact not_false)) ?_
    simp [isReadData]
  · rename_i isPageProgram
    simp only [isPageProgram]
    refine iff_of_true (LockModel.Balanced.disciplined ?_) (by simp)
    exact flashCommand_balanced polls types params (by trivial)
  · rename_i isSectorErase
    refine Iff.trans (flashCommand_disciplined_iff polls types params (by exact not_false)) ?_
    simp [isSectorErase]
  · rename_i isChipErase
    refine Iff.trans (flashCommand_disciplined_iff polls types params (by exact not_false)) ?_
    simp [isChipErase]
  · rename_i notInit _ notReadData _ notSectorErase notChipErase
    refine iff_of_true (LockModel.balanced_pure _).disciplined fun reaches => ?_
    simp_all

end Flash

/-! ## Request handlers -/

/-- An operation of the platform: a function of the board or an operation of a request
handler. -/
inductive PlatformOp where
  | board (op : BoardOp)
  | helper (op : HelperOp)
  deriving DecidableEq

abbrev Platform : Interface where
  Op := PlatformOp
  Reply
    | .board op => Board.Reply op
    | .helper op => Helper.Reply op

def onPlatform (program : Program Board α) : Program Platform α :=
  program.translate fun op => Program.perform (I := Platform) (.board op)

/-- A driver call of a request handler runs the driver. -/
def handlerStep : (op : HelperOp) → Program Platform (Helper.Reply op)
  | .driver call => onPlatform (onBoard call.program)
  | op => Program.perform (I := Platform) (.helper op)

def handlerOnPlatform (program : Program Helper α) : Program Platform α :=
  program.translate handlerStep

def platformLocks : LockModel Platform Mutex where
  effect
    | .board op => op.effect
    | .helper _ => .idle
  allows
    | .board op => boardLocks.allows op
    | .helper _ => fun _ => True

theorem obeys_onPlatform_iff {post : α → (Mutex → Nat) → Prop} {program : Program Board α} :
    (onPlatform program).Obeys platformLocks.semantics post held ↔
      program.Obeys boardLocks.semantics post held :=
  Program.obeys_translate_iff fun _ _ _ => Iff.rfl

/-- The driver calls are calls of device drivers. -/
def DrivesDevice : HelperOp → Prop
  | .driver call => call.IsDevice
  | _ => True

theorem handlerOnPlatform_balanced {program : Program Helper α}
    (uses : program.Uses DrivesDevice) : platformLocks.Balanced (handlerOnPlatform program) := by
  refine LockModel.balanced_translate (fun op drives => ?_) uses
  cases op with
  | driver call =>
    exact fun held => obeys_onPlatform_iff.mpr
      (obeys_onBoard_iff.mpr (DriverCall.IsDevice.balanced drives held))
  | _ => exact LockModel.balanced_of_idle ⟨rfl, fun _ => trivial⟩

/-- Handlers of secure storage call no driver. -/
theorem Works.drivesDevice {program : Program Helper α} {periphNo signo : Nat}
    (works : Works .secureStorage periphNo signo program) : program.Uses DrivesDevice := by
  refine works.mono fun op worksOn => ?_
  cases op with
  | driver call =>
    have target : call.target = (.secureStorage, 0) := worksOn
    cases call
    all_goals simp [DriverCall.target] at target
  | _ => trivial

theorem storeAll_drives (out : Ptr) (stores : List (Nat × Byte)) :
    (storeAll out stores).Uses DrivesDevice :=
  Works.drivesDevice (show Works .secureStorage 0 0 _ from storeAll_works out stores)

theorem sourceBytes_drives (param : TeeParam) : (sourceBytes param).Uses DrivesDevice :=
  Works.drivesDevice (show Works .secureStorage 0 0 _ from sourceBytes_works param)

theorem callDriver_drives (isDevice : call.IsDevice) (out : Ptr) :
    (callDriver call out).Uses DrivesDevice :=
  ⟨isDevice, fun reply => (storeAll_drives out reply.out).bind fun _ => trivial⟩

theorem publish_drives (periphNo signo : Nat) (ret len : BitVec 32) (buf : Ptr) :
    (publish periphNo signo ret len buf).Uses DrivesDevice :=
  ⟨trivial, fun _ => ⟨trivial, fun _ => ⟨trivial, fun _ => trivial⟩⟩⟩

section Handlers

variable {req : IoReq} {periphNo : Nat}

theorem handleSample_balanced {size : BitVec 32} {noMemory : TeeResult} (isDevice : call.IsDevice) :
    platformLocks.Balanced
      (handlerOnPlatform (handleSample size noMemory call req periphNo)) := by
  apply handlerOnPlatform_balanced
  refine .perform_bind trivial fun buf => ?_
  split
  · exact ⟨trivial, fun _ => trivial⟩
  · refine (callDriver_drives isDevice buf).bind fun res => ?_
    split
    · exact ⟨trivial, fun _ => ⟨trivial, fun _ => trivial⟩⟩
    · exact (publish_drives _ _ _ _ _).bind fun _ => trivial

theorem handleMpu6050Sample_balanced :
    platformLocks.Balanced (handlerOnPlatform (handleMpu6050Sample req periphNo)) := by
  apply handlerOnPlatform_balanced
  refine .perform_bind trivial fun data => ?_
  refine (callDriver_drives (by trivial) data).bind fun res => ?_
  split
  · exact ⟨trivial, fun _ => ⟨trivial, fun _ => trivial⟩⟩
  · exact (publish_drives _ _ _ _ _).bind fun _ => trivial

theorem handleAt24cxxWrite_balanced :
    platformLocks.Balanced (handlerOnPlatform (handleAt24cxxWrite req periphNo)) := by
  apply handlerOnPlatform_balanced
  refine (sourceBytes_drives _).bind fun data => ?_
  refine (callDriver_drives (by trivial) null).bind fun res => ?_
  exact (publish_drives _ _ _ _ _).bind fun _ => ⟨trivial, fun _ => trivial⟩

theorem handleAtk301GetFingerprintImage_balanced :
    platformLocks.Balanced
      (handlerOnPlatform (handleAtk301GetFingerprintImage req periphNo)) := by
  apply handlerOnPlatform_balanced
  refine (callDriver_drives (by trivial) null).bind fun res => ?_
  exact (publish_drives _ _ _ _ _).bind fun _ => trivial

/-! ### Handlers that acquire a bus themselves -/

variable {post : α → (Mutex → Nat) → Prop}

/-- A driver call of a handler, by what the driver does with the mutexes. -/
theorem obeys_callDriver {out : Ptr} {rest : TeeResult → Program Helper α}
    (obeys : call.program.Obeys busLocks.semantics (fun reply after =>
      (handlerOnPlatform (rest reply.res)).Obeys platformLocks.semantics post after) held) :
    (handlerOnPlatform (callDriver call out >>= rest)).Obeys platformLocks.semantics post held := by
  have driven := obeys_onPlatform_iff.mpr (obeys_onBoard_iff.mpr obeys)
  refine Program.Obeys.bind driven fun reply after next => ?_
  have stores : platformLocks.Keeps after (handlerOnPlatform (storeAll out reply.out)) :=
    handlerOnPlatform_balanced (storeAll_drives out reply.out) after
  show (handlerOnPlatform
    ((storeAll out reply.out >>= fun _ => pure reply.res) >>= rest)).Obeys _ _ _
  rw [bind_assoc, handlerOnPlatform, Program.translate_bind]
  exact stores.then fun _ => next

theorem obeys_handler_i2cAcquire {refused : TeeResult → Program Helper α}
    {session : Program Helper α}
    (early : ∀ res, (handlerOnPlatform (refused res)).Obeys platformLocks.semantics post held)
    (obeys : (handlerOnPlatform session).Obeys platformLocks.semantics post (i2cHeld dev held)) :
    (handlerOnPlatform (callDriver (.i2cAcquire dev) null >>= fun res =>
      if res ≠ teeSuccess then refused res else session)).Obeys platformLocks.semantics post
        held := by
  refine obeys_callDriver (obeys_i2cAcquire fun res allowed => ?_)
  show (handlerOnPlatform (if res ≠ teeSuccess then refused res else session)).Obeys _ _ _
  split
  · rename_i failed
    rw [i2cHeld_of_failed allowed failed]
    exact early res
  · exact obeys

theorem obeys_handler_transfer {out : Ptr} {rest : TeeResult → Program Helper α}
    (uses : call.program.Uses (BusOp.TransfersOn dev))
    (obeys : ∀ res, (handlerOnPlatform (rest res)).Obeys platformLocks.semantics post
      (i2cHeld dev held)) :
    (handlerOnPlatform (callDriver call out >>= rest)).Obeys platformLocks.semantics post
      (i2cHeld dev held) := by
  refine obeys_callDriver ?_
  refine (keeps_of_transfers uses).mono fun reply after same => ?_
  rw [same]
  exact obeys reply.res

theorem obeys_handler_i2cRelease {rest : TeeResult → Program Helper α}
    (obeys : ∀ res, (handlerOnPlatform (rest res)).Obeys platformLocks.semantics post held) :
    (handlerOnPlatform (callDriver (.i2cRelease dev) null >>= rest)).Obeys
      platformLocks.semantics post (i2cHeld dev held) :=
  obeys_callDriver (obeys_i2cRelease fun res => obeys res)

/-- What a handler does between its sessions. -/
theorem obeys_handler_then {first : Program Helper β} {rest : β → Program Helper α}
    (drives : first.Uses DrivesDevice)
    (obeys : ∀ value, (handlerOnPlatform (rest value)).Obeys platformLocks.semantics post held) :
    (handlerOnPlatform (first >>= rest)).Obeys platformLocks.semantics post held := by
  rw [handlerOnPlatform, Program.translate_bind]
  exact LockModel.Keeps.then (handlerOnPlatform_balanced drives held) obeys

theorem obeys_handler_of_drives {program : Program Helper α} (drives : program.Uses DrivesDevice) :
    (handlerOnPlatform program).Obeys platformLocks.semantics (fun _ after => after = held) held :=
  handlerOnPlatform_balanced drives held

theorem handleI2cWriteBytes_balanced :
    platformLocks.Balanced (handlerOnPlatform (handleI2cWriteBytes req periphNo)) := by
  intro held
  refine obeys_handler_i2cAcquire (fun res => ?_) ?_
  · exact obeys_handler_of_drives ⟨trivial, fun _ => trivial⟩
  · refine obeys_handler_then (sourceBytes_drives _) fun data => ?_
    refine obeys_handler_transfer ⟨rfl, fun _ => trivial⟩ fun res => ?_
    refine obeys_handler_i2cRelease fun _ => ?_
    refine obeys_handler_of_drives ((publish_drives _ _ _ _ _).bind fun _ => ?_)
    exact ⟨trivial, fun _ => trivial⟩

theorem handleI2cRead_balanced {size : BitVec 32}
    (uses : call.program.Uses (BusOp.TransfersOn (i2cOf periphNo))) :
    platformLocks.Balanced (handlerOnPlatform (handleI2cRead size call req periphNo)) := by
  intro held
  refine obeys_handler_then ⟨trivial, fun _ => trivial⟩ fun buf => ?_
  split
  · exact obeys_handler_of_drives ⟨trivial, fun _ => trivial⟩
  · refine obeys_handler_i2cAcquire (fun res => ?_) ?_
    · exact obeys_handler_of_drives ⟨trivial, fun _ => ⟨trivial, fun _ => trivial⟩⟩
    · refine obeys_handler_transfer uses fun res => obeys_handler_i2cRelease fun _ => ?_
      split
      · exact obeys_handler_of_drives ⟨trivial, fun _ => ⟨trivial, fun _ => trivial⟩⟩
      · refine obeys_handler_of_drives ((publish_drives _ _ _ _ _).bind fun _ => ?_)
        trivial

/-- The transfer a handler asks for is on its own bus. -/
theorem spiTransferCall_obeys {held : Mutex → Nat} (source : Option (List Byte))
    (holds : 0 < held (.spi (spiOf periphNo).toNat)) :
    busLocks.Keeps held (spiTransferCall req periphNo source).program := by
  have uses : (spiTransferCall req periphNo source).program.Uses
      (busLocks.Within (.spi (spiOf periphNo).toNat)) := by
    unfold spiTransferCall
    dsimp only
    split
    · exact ⟨.inr rfl, fun _ => trivial⟩
    · split
      · exact ⟨.inr rfl, fun _ => trivial⟩
      · exact ⟨.inr rfl, fun _ => trivial⟩
  exact LockModel.keeps_of_uses uses holds

theorem obeys_handler_spiAcquire {bus cs : BitVec 8} {mode clk : BitVec 32}
    {refused : TeeResult → Program Helper α} {session : Program Helper α}
    (early : ∀ res, (handlerOnPlatform (refused res)).Obeys platformLocks.semantics post held)
    (obeys : SelectsChip bus cs → (handlerOnPlatform session).Obeys platformLocks.semantics post
      (LockModel.add held (.spi bus.toNat))) :
    (handlerOnPlatform (callDriver (.spiAcquire bus cs mode clk) null >>= fun res =>
      if res ≠ teeSuccess then refused res else session)).Obeys platformLocks.semantics post
        held := by
  refine obeys_callDriver ?_
  by_cases selects : SelectsChip bus cs
  · have locks : busLocks.effect (.spiAcquire bus cs mode clk) = .lock (.spi bus.toNat) :=
      if_pos selects
    refine LockModel.obeys_lock locks fun res allowed => ?_
    show (handlerOnPlatform (if res ≠ teeSuccess then _ else _)).Obeys _ _ _
    rw [if_neg (not_not.mpr ((spiAcquire_answer mode clk allowed).mpr selects))]
    exact obeys selects
  · have idle : busLocks.effect (.spiAcquire bus cs mode clk) = .idle := if_neg selects
    refine LockModel.obeys_idle idle fun res allowed => ?_
    show (handlerOnPlatform (if res ≠ teeSuccess then _ else _)).Obeys _ _ _
    rw [if_pos (mt (spiAcquire_answer mode clk allowed).mp selects)]
    exact early res

theorem spiTransferWith_balanced (buf : Ptr) :
    platformLocks.Balanced (handlerOnPlatform (spiTransferWith buf req periphNo)) := by
  intro held
  refine obeys_handler_spiAcquire (fun res => ?_) fun selects => ?_
  · exact obeys_handler_of_drives ⟨trivial, fun _ => ⟨trivial, fun _ => trivial⟩⟩
  · have unlocks : busLocks.effect (.spiRelease (spiOf periphNo)) =
        .unlock (.spi (spiOf periphNo).toNat) := if_pos selects.1
    refine obeys_handler_then (sourceBytes_drives _) fun source => ?_
    refine obeys_callDriver ((spiTransferCall_obeys source (LockModel.add_pos held _)).mono
      fun reply after same => ?_)
    rw [same]
    refine obeys_callDriver (LockModel.obeys_unlock unlocks fun _ _ => ?_)
    show (handlerOnPlatform (if reply.res ≠ teeSuccess then _ else _)).Obeys _ _ _
    split
    · exact obeys_handler_of_drives
        ⟨trivial, fun _ => ⟨trivial, fun _ => ⟨trivial, fun _ => trivial⟩⟩⟩
    · refine obeys_handler_of_drives ((publish_drives _ _ _ _ _).bind fun _ => ?_)
      exact ⟨trivial, fun _ => trivial⟩

theorem handleSpiTransferBytes_balanced :
    platformLocks.Balanced (handlerOnPlatform (handleSpiTransferBytes req periphNo)) := by
  unfold handleSpiTransferBytes
  split
  · intro held
    refine obeys_handler_then ⟨trivial, fun _ => trivial⟩ fun buf => ?_
    split
    · exact obeys_handler_of_drives ⟨trivial, fun _ => trivial⟩
    · exact spiTransferWith_balanced buf held
  · exact spiTransferWith_balanced null

theorem handleReq_balanced :
    platformLocks.Balanced (handlerOnPlatform (handleReq req periphNo)) := by
  unfold handleReq
  cases req.type with
  | dhtRead | bh1750fviSample | at24cxxRead | tel0157GetGnssLen | tel0157GetAllGnss
  | tel0157GetUtcTime | tel0157GetGnssMode | tel0157GetNumSatUsed | tel0157GetLon | tel0157GetLat
  | tel0157GetAlt | tel0157GetSog | tel0157GetCog | atk301UploadFingerprintImage =>
    exact handleSample_balanced trivial
  | mpu6050Sample => exact handleMpu6050Sample_balanced
  | writeSecureObject =>
    exact handlerOnPlatform_balanced
      (Works.drivesDevice (handleWriteSecureObject_works req periphNo))
  | readSecureObject =>
    refine handlerOnPlatform_balanced (Program.Uses.bind ?_ fun _ => ⟨trivial, fun _ => trivial⟩)
    exact Works.drivesDevice (readSecureObject_works req periphNo)
  | i2cWriteBytes => exact handleI2cWriteBytes_balanced
  | i2cReadBytes => exact handleI2cRead_balanced ⟨rfl, fun _ => trivial⟩
  | i2cReadRegs => exact handleI2cRead_balanced ((i2cReadRegs_uses _ _ _ _ _).bind fun _ => trivial)
  | spiTransferBytes => exact handleSpiTransferBytes_balanced
  | at24cxxWrite => exact handleAt24cxxWrite_balanced
  | atk301GetFingerprintImage => exact handleAtk301GetFingerprintImage_balanced
  | _ => exact handlerOnPlatform_balanced ⟨trivial, fun _ => trivial⟩

end Handlers

/-! ## Every entry point -/

/-- The entry points that use a bus: the services, the drivers and the request handlers. -/
inductive EntryPoint where
  | i2cService (types : BitVec 32) (params : ServiceParams) (cmd : BitVec 32)
  | spiService (types : BitVec 32) (params : ServiceParams) (cmd : BitVec 32)
  | at24cxxService (types : BitVec 32) (params : ServiceParams) (cmd : BitVec 32)
  | bh1750fviService (types : BitVec 32) (params : ServiceParams) (cmd : BitVec 32)
  | mpu6050Service (types : BitVec 32) (params : ServiceParams) (cmd : BitVec 32)
  | tel0157Service (types : BitVec 32) (params : ServiceParams) (cmd : BitVec 32)
  | atk301Service (types : BitVec 32) (params : ServiceParams) (cmd : BitVec 32)
  | w25qxxService (types : BitVec 32) (params : ServiceParams) (id : BitVec 16) (cmd : BitVec 32)
  | bh1750fviInit (dev : I2cDevice)
  | mpuInit (dev : I2cDevice)
  | mpuDeinit (dev : I2cDevice)
  | tel0157Init (dev : I2cDevice) (gnssMode rgb : Byte)
  | tel0157Deinit (dev : I2cDevice)
  | atk301Init (dev : I2cDevice)
  | device (call : { call : DriverCall // call.IsDevice })
  | flash (bus cs : BitVec 8) (call : W25qxx.Call)
  | handler (req : IoReq) (periphNo : Nat)

/-- The program without its answer. -/
def unanswered (program : Program Platform α) : Program Platform Unit := do
  let _ ← program

/-- The program of an entry point; what it answers is left out. -/
def EntryPoint.program (polls : W25qxx.Polls) : EntryPoint → Program Platform Unit
  | .i2cService types params cmd => unanswered (onPlatform (Pta.i2cService types params cmd))
  | .spiService types params cmd => unanswered (onPlatform (Pta.spiService types params cmd))
  | .at24cxxService types params cmd =>
    unanswered (onPlatform (Pta.at24cxxService types params cmd))
  | .bh1750fviService types params cmd =>
    unanswered (onPlatform (Pta.bh1750fviService types params cmd))
  | .mpu6050Service types params cmd =>
    unanswered (onPlatform (Pta.mpu6050Service types params cmd))
  | .tel0157Service types params cmd =>
    unanswered (onPlatform (Pta.tel0157Service types params cmd))
  | .atk301Service types params cmd => unanswered (onPlatform (Pta.atk301Service types params cmd))
  | .w25qxxService types params id cmd =>
    unanswered (onPlatform (Pta.w25qxxService polls types params id cmd))
  | .bh1750fviInit dev => unanswered (onPlatform (onBoard (Drivers.bh1750fviInit dev)))
  | .mpuInit dev => unanswered (onPlatform (onBoard (Drivers.mpuInit dev)))
  | .mpuDeinit dev => unanswered (onPlatform (onBoard (Drivers.mpuDeinit dev)))
  | .tel0157Init dev gnssMode rgb =>
    unanswered (onPlatform (onBoard (Tel0157.init dev gnssMode rgb)))
  | .tel0157Deinit dev => unanswered (onPlatform (onBoard (Tel0157.deinit dev)))
  | .atk301Init dev => unanswered (onPlatform (onBoard (Atk301.init dev)))
  | .device call => unanswered (onPlatform (onBoard call.1.program))
  | .flash bus cs call => unanswered (onPlatform (call.program polls bus cs))
  | .handler req periphNo => unanswered (handlerOnPlatform (handleReq req periphNo))

/-- The flash driver is only reached with a bus and a chip select that exist, or through a
function that checks them. -/
def EntryPoint.ReachesChip : EntryPoint → Prop
  | .w25qxxService types params _ cmd => ReachesUnchecked types cmd → FlashChip params
  | .flash bus cs call => call.IsChecked ∨ SelectsChip bus cs
  | _ => True

theorem disciplined_unanswered_iff {program : Program Platform α} :
    platformLocks.Disciplined (unanswered program) ↔ platformLocks.Disciplined program := by
  rw [LockModel.Disciplined, unanswered, Program.obeys_bind_iff]
  exact Iff.rfl

theorem disciplined_onPlatform_iff {program : Program Board α} :
    platformLocks.Disciplined (unanswered (onPlatform program)) ↔
      boardLocks.Disciplined program :=
  disciplined_unanswered_iff.trans obeys_onPlatform_iff

/-- A balanced program is disciplined whatever it reaches. -/
theorem iff_of_balanced {program : Program Board α} (balanced : boardLocks.Balanced program) :
    platformLocks.Disciplined (unanswered (onPlatform program)) ↔ True :=
  iff_of_true (disciplined_onPlatform_iff.mpr balanced.disciplined) trivial

/-- Every entry point unlocks and touches only what it holds, and returns with every mutex
unlocked as often as it locked it, exactly when the flash driver is reached as it expects. -/
theorem entryPoint_disciplined_iff (polls : W25qxx.Polls) (entry : EntryPoint) :
    platformLocks.Disciplined (entry.program polls) ↔ entry.ReachesChip := by
  cases entry with
  | i2cService types params cmd => exact iff_of_balanced (i2cService_balanced types params cmd)
  | spiService types params cmd => exact iff_of_balanced (spiService_balanced types params cmd)
  | at24cxxService types params cmd =>
    exact iff_of_balanced (at24cxxService_balanced types params cmd)
  | bh1750fviService types params cmd =>
    exact iff_of_balanced (bh1750fviService_balanced types params cmd)
  | mpu6050Service types params cmd =>
    exact iff_of_balanced (mpu6050Service_balanced types params cmd)
  | tel0157Service types params cmd =>
    exact iff_of_balanced (tel0157Service_balanced types params cmd)
  | atk301Service types params cmd =>
    exact iff_of_balanced (atk301Service_balanced types params cmd)
  | w25qxxService types params id cmd =>
    exact disciplined_onPlatform_iff.trans (w25qxxService_disciplined_iff polls types params id cmd)
  | bh1750fviInit dev => exact iff_of_balanced (balanced_onBoard (bh1750fviInit_balanced dev))
  | mpuInit dev => exact iff_of_balanced (balanced_onBoard (mpuInit_balanced dev))
  | mpuDeinit dev => exact iff_of_balanced (balanced_onBoard (mpuDeinit_balanced dev))
  | tel0157Init dev gnssMode rgb =>
    exact iff_of_balanced (balanced_onBoard (Tel0157.init_balanced dev gnssMode rgb))
  | tel0157Deinit dev => exact iff_of_balanced (balanced_onBoard (Tel0157.deinit_balanced dev))
  | atk301Init dev => exact iff_of_balanced (balanced_onBoard (Atk301.init_balanced dev))
  | device call => exact iff_of_balanced (balanced_onBoard call.2.balanced)
  | flash bus cs call =>
    refine disciplined_onPlatform_iff.trans ?_
    by_cases isChecked : call.IsChecked
    · exact iff_of_true isChecked.balanced.disciplined (.inl isChecked)
    · rw [call.disciplined_iff isChecked]
      exact ⟨.inr, fun reaches => reaches.resolve_left isChecked⟩
  | handler req periphNo =>
    exact iff_of_true (disciplined_unanswered_iff.mpr handleReq_balanced.disciplined) trivial

/-- Reading the status register with the fourth chip select: the acquire is rejected, and the
transfer touches the registers of a bus that is not held. -/
theorem readStatus_undisciplined :
    ¬∃ polls : W25qxx.Polls,
      platformLocks.Disciplined ((EntryPoint.flash 0 3 (.readStatus false)).program polls) := by
  rintro ⟨polls, disciplined⟩
  have driver : boardLocks.Disciplined (W25qxx.readStatus 0 3 false) ↔ SelectsChip 0 3 :=
    W25qxx.unchecked_disciplined_iff (W25qxx.spiTransferRegs_uses.bind fun _ => trivial) rfl
  exact absurd (driver.mp (disciplined_onPlatform_iff.mp disciplined)) (by decide)

end TrustWasm.Pta
