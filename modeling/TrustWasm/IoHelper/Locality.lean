import TrustWasm.IoHelper.System

/-!
# Operations that leave the slots alone

Slots change in four places: a slot is allocated, made ready or released, and a
request is enqueued.  Every other operation is local: it reads globals or works
on the result table, the heap, a driver or secure storage, and the masks, the
counts and the queues stay as they are.  The request handlers are made of local
operations only.
-/

namespace TrustWasm.IoHelper

open TrustWasm.Lib TrustWasm.Lib.Mask TrustWasm.Tee TrustWasm.Drivers

/-- The operation changes no mask, no count and no queue. -/
def HelperOp.IsLocal : HelperOp → Prop
  | .setReadySignal .. | .allocateSigno .. | .releaseSigno .. | .enqueue .. => False
  | _ => True

/-- The program calls local operations only. -/
abbrev Local {α : Type} (program : Program Helper α) : Prop :=
  program.Uses HelperOp.IsLocal

/-- The kind of peripheral a request type is served on. -/
def IoReqType.periphType : IoReqType → PeriphType
  | .spiTransferBytes | .spiTransferByte | .spiTransferDiffBytes => .spi
  | .writeSecureObject | .readSecureObject => .secureStorage
  | .dhtRead | .reqTypeNone | .other _ => .gpio
  | _ => .i2c

/-- The pin or bus a handler makes of its peripheral number. -/
def recoveredNo (type : PeriphType) (periphNo : Nat) : Nat :=
  match type with
  | .gpio => (periphNoToGpio periphNo).toNat
  | .i2c => (i2cOf periphNo).toNat
  | .spi => (spiOf periphNo).toNat
  | .secureStorage => 0

/-- The operations of a handler for slot `signo` of peripheral `periphNo`: it writes
the result entry of the slot and works on the heap, on the drivers for its own pin or
bus, or on secure storage. -/
def HelperOp.WorksOn (type : PeriphType) (periphNo signo : Nat) : HelperOp → Prop
  | .setRet p q _ | .setLen p q _ | .setBuf p q _ => p = periphNo ∧ q = signo
  | .malloc .. | .free .. | .loadByte .. | .storeByte .. => True
  | .driver call => call.target = (type, recoveredNo type periphNo)
  | .storage _ => type = .secureStorage
  | _ => False

variable {signo periphNo : Nat} {op : HelperOp} {type : PeriphType} {call : DriverCall} {s s' : Pta}

theorem HelperOp.WorksOn.isLocal (works : op.WorksOn type periphNo signo) : op.IsLocal := by
  cases op
  case setReadySignal | allocateSigno | releaseSigno | enqueue => exact works.elim
  all_goals trivial

/-! ## The request handlers -/

/-- The program is made of the operations of a handler. -/
abbrev Works {α : Type} (type : PeriphType) (periphNo signo : Nat) (program : Program Helper α) :
    Prop :=
  program.Uses (HelperOp.WorksOn type periphNo signo)

theorem loadFrom_works (ptr : Ptr) (count offset : Nat) :
    Works type periphNo signo (loadFrom ptr count offset) := by
  induction count generalizing offset with
  | zero => trivial
  | succ count ih =>
    refine Program.Uses.bind ⟨trivial, fun _ => trivial⟩ fun byte => ?_
    exact (ih (offset + 1)).bind fun _ => trivial

theorem storeAll_works (ptr : Ptr) (stores : List (Nat × Byte)) :
    Works type periphNo signo (storeAll ptr stores) := by
  induction stores with
  | nil => trivial
  | cons store rest ih => exact Program.Uses.bind ⟨trivial, fun _ => trivial⟩ fun _ => ih

theorem callDriver_works (out : Ptr) (addressed : call.target = (type, recoveredNo type periphNo)) :
    Works type periphNo signo (callDriver call out) := by
  refine Program.Uses.bind ⟨addressed, fun _ => trivial⟩ fun reply => ?_
  exact (storeAll_works out reply.out).bind fun _ => trivial

theorem sourceBytes_works (param : TeeParam) : Works type periphNo signo (sourceBytes param) := by
  unfold sourceBytes
  split
  · trivial
  · exact (loadFrom_works _ _ _).bind fun _ => trivial

theorem publish_works (ret len : BitVec 32) (buf : Ptr) :
    Works type periphNo signo (publish periphNo signo ret len buf) :=
  ⟨⟨rfl, rfl⟩, fun _ => ⟨⟨rfl, rfl⟩, fun _ => ⟨⟨rfl, rfl⟩, fun _ => trivial⟩⟩⟩

theorem setRet_works {α : Type} (ret : BitVec 32) {rest : Program Helper α}
    (after : Works type periphNo signo rest) :
    Works type periphNo signo (do setRet periphNo signo ret; rest) :=
  ⟨⟨rfl, rfl⟩, fun _ => after⟩

theorem handleSample_works (size : BitVec 32) (noMemory : TeeResult) (req : IoReq) (periphNo : Nat)
    (addressed : call.target = (type, recoveredNo type periphNo)) :
    Works type periphNo req.signo (handleSample size noMemory call req periphNo) := by
  refine .perform_bind trivial fun buf => ?_
  split
  · exact setRet_works _ trivial
  · refine (callDriver_works buf addressed).bind fun res => ?_
    split
    · exact ⟨trivial, fun _ => setRet_works _ trivial⟩
    · exact (publish_works _ _ _).bind fun _ => trivial

theorem handleMpu6050Sample_works (req : IoReq) (periphNo : Nat) :
    Works .i2c periphNo req.signo (handleMpu6050Sample req periphNo) := by
  refine .perform_bind trivial fun data => ?_
  refine (callDriver_works data rfl).bind fun res => ?_
  split
  · exact ⟨trivial, fun _ => setRet_works _ trivial⟩
  · exact (publish_works _ _ _).bind fun _ => trivial

theorem handleWriteSecureObject_works (req : IoReq) (periphNo : Nat) :
    Works .secureStorage periphNo req.signo (handleWriteSecureObject req periphNo) := by
  have reported (res : TeeResult) : Works .secureStorage periphNo req.signo (do
      publish periphNo req.signo res 0 null
      free req.p0.buffer
      free req.p1.buffer
      return res) :=
    (publish_works _ _ _).bind fun _ => ⟨trivial, fun _ => ⟨trivial, fun _ => trivial⟩⟩
  refine (loadFrom_works _ _ _).bind fun id => ?_
  refine .perform_bind rfl fun created => ?_
  dsimp only
  split
  · exact reported created.res
  · refine (loadFrom_works _ _ _).bind fun data => ?_
    refine .perform_bind rfl fun written => ?_
    split
    · exact ⟨rfl, fun _ => reported written.res⟩
    · exact ⟨rfl, fun _ => reported written.res⟩

theorem readSecureObject_works (req : IoReq) (periphNo : Nat) :
    Works .secureStorage periphNo req.signo (readSecureObject req periphNo) := by
  refine (loadFrom_works _ _ _).bind fun id => ?_
  refine .perform_bind rfl fun opened => ?_
  split
  · exact setRet_works _ trivial
  · refine .perform_bind rfl fun info => ?_
    split
    · exact setRet_works _ trivial
    · refine .perform_bind trivial fun buf => ?_
      split
      · exact setRet_works _ ⟨rfl, fun _ => trivial⟩
      · refine .perform_bind rfl fun read => ?_
        refine (storeAll_works _ _).bind fun _ => ?_
        split
        · exact setRet_works _ ⟨rfl, fun _ => ⟨trivial, fun _ => trivial⟩⟩
        · dsimp only
          split
          · exact setRet_works _ ⟨rfl, fun _ => ⟨trivial, fun _ => trivial⟩⟩
          · exact (publish_works _ _ _).bind fun _ => trivial

theorem handleI2cWriteBytes_works (req : IoReq) (periphNo : Nat) :
    Works .i2c periphNo req.signo (handleI2cWriteBytes req periphNo) := by
  refine (callDriver_works _ rfl).bind fun acquired => ?_
  split
  · exact setRet_works _ trivial
  · refine (sourceBytes_works _).bind fun data => ?_
    refine (callDriver_works _ rfl).bind fun res => ?_
    refine (callDriver_works _ rfl).bind fun _ => ?_
    exact (publish_works _ _ _).bind fun _ => ⟨trivial, fun _ => trivial⟩

theorem handleI2cRead_works (size : BitVec 32) (req : IoReq) (periphNo : Nat)
    (addressed : call.target = (.i2c, recoveredNo .i2c periphNo)) :
    Works .i2c periphNo req.signo (handleI2cRead size call req periphNo) := by
  refine .perform_bind trivial fun buf => ?_
  split
  · exact setRet_works _ trivial
  · refine (callDriver_works _ rfl).bind fun acquired => ?_
    split
    · exact ⟨trivial, fun _ => setRet_works _ trivial⟩
    · refine (callDriver_works _ addressed).bind fun res => ?_
      refine (callDriver_works _ rfl).bind fun _ => ?_
      split
      · exact ⟨trivial, fun _ => setRet_works _ trivial⟩
      · exact (publish_works _ _ _).bind fun _ => trivial

theorem spiTransferCall_target (req : IoReq) (periphNo : Nat) (source : Option (List Byte)) :
    (spiTransferCall req periphNo source).target = (.spi, recoveredNo .spi periphNo) := by
  unfold spiTransferCall
  dsimp only
  split
  · rfl
  · split
    · rfl
    · rfl

theorem spiTransferWith_works (buf : Ptr) (req : IoReq) (periphNo : Nat) :
    Works .spi periphNo req.signo (spiTransferWith buf req periphNo) := by
  refine (callDriver_works _ rfl).bind fun acquired => ?_
  split
  · exact setRet_works _ ⟨trivial, fun _ => trivial⟩
  · refine (sourceBytes_works _).bind fun source => ?_
    refine (callDriver_works _ (spiTransferCall_target ..)).bind fun res => ?_
    refine (callDriver_works _ rfl).bind fun _ => ?_
    split
    · exact ⟨trivial, fun _ => ⟨trivial, fun _ => setRet_works _ trivial⟩⟩
    · exact (publish_works _ _ _).bind fun _ => ⟨trivial, fun _ => trivial⟩

theorem handleSpiTransferBytes_works (req : IoReq) (periphNo : Nat) :
    Works .spi periphNo req.signo (handleSpiTransferBytes req periphNo) := by
  unfold handleSpiTransferBytes
  split
  · refine .perform_bind trivial fun buf => ?_
    split
    · exact setRet_works _ trivial
    · exact spiTransferWith_works _ req periphNo
  · exact spiTransferWith_works null req periphNo

theorem handleAt24cxxWrite_works (req : IoReq) (periphNo : Nat) :
    Works .i2c periphNo req.signo (handleAt24cxxWrite req periphNo) := by
  refine (sourceBytes_works _).bind fun data => ?_
  refine (callDriver_works _ rfl).bind fun res => ?_
  exact (publish_works _ _ _).bind fun _ => ⟨trivial, fun _ => trivial⟩

/-- A handler touches no mask, no count and no queue, only the result entry of its
own slot, and only the pin or bus its peripheral number stands for. -/
theorem handleReq_works (req : IoReq) (periphNo : Nat) :
    Works req.type.periphType periphNo req.signo (handleReq req periphNo) := by
  unfold handleReq
  cases req.type with
  | mpu6050Sample => exact handleMpu6050Sample_works req periphNo
  | writeSecureObject => exact handleWriteSecureObject_works req periphNo
  | readSecureObject =>
    exact (readSecureObject_works req periphNo).bind fun _ =>
      ⟨trivial, fun _ => trivial⟩
  | i2cWriteBytes => exact handleI2cWriteBytes_works req periphNo
  | spiTransferBytes => exact handleSpiTransferBytes_works req periphNo
  | at24cxxWrite => exact handleAt24cxxWrite_works req periphNo
  | atk301GetFingerprintImage =>
    exact (callDriver_works _ rfl).bind fun res =>
      (publish_works _ _ _).bind fun _ => trivial
  | dhtRead =>
    refine handleSample_works _ _ req periphNo ?_
    exact congrArg (Prod.mk _) (BitVec.toNat_setWidth_of_le (by decide))
  | bh1750fviSample | at24cxxRead | atk301UploadFingerprintImage
  | tel0157GetGnssLen | tel0157GetAllGnss | tel0157GetUtcTime | tel0157GetGnssMode
  | tel0157GetNumSatUsed | tel0157GetLon | tel0157GetLat | tel0157GetAlt | tel0157GetSog
  | tel0157GetCog => exact handleSample_works _ _ req periphNo rfl
  | i2cReadBytes | i2cReadRegs => exact handleI2cRead_works _ req periphNo rfl
  | i2cWriteRegs | spiTransferByte | spiTransferDiffBytes | bme280Sample
  | bme280GetCalibration | reqTypeNone | other => exact setRet_works _ trivial

theorem handleReq_local (req : IoReq) (periphNo : Nat) : Local (handleReq req periphNo) :=
  (handleReq_works req periphNo).mono fun _ => HelperOp.WorksOn.isLocal

/-! ## What the operations do to the slots -/

/-- The masks, the counts and the queues agree. -/
structure SameSlots (s s' : Pta) : Prop where
  sigusing : s'.sigusing = s.sigusing
  sigpending : s'.sigpending = s.sigpending
  reqNums : s'.reqNums = s.reqNums
  reqQueues : s'.reqQueues = s.reqQueues

theorem SameSlots.refl (s : Pta) : SameSlots s s :=
  ⟨rfl, rfl, rfl, rfl⟩

theorem SameSlots.trans {s'' : Pta} (first : SameSlots s s') (second : SameSlots s' s'') :
    SameSlots s s'' :=
  ⟨second.sigusing.trans first.sigusing, second.sigpending.trans first.sigpending,
    second.reqNums.trans first.reqNums, second.reqQueues.trans first.reqQueues⟩

theorem getReadySignal_sameSlots {reply : Option Nat}
    (step : s.getReadySignal periphNo = (reply, s')) : SameSlots s s' := by
  unfold Pta.getReadySignal at step
  split at step
  · cases step
    exact ⟨rfl, rfl, rfl, rfl⟩
  · cases step
    exact ⟨rfl, rfl, rfl, rfl⟩

/-- A local operation keeps the slots. -/
theorem sameSlots_of_isLocal {reply : Helper.Reply op} (step : helperStep s op reply s')
    (isLocal : op.IsLocal) : SameSlots s s' := by
  cases op with
  | getReadySignal periphNo => exact getReadySignal_sameSlots step
  | setReadySignal | allocateSigno | releaseSigno | enqueue => exact isLocal.elim
  | isReadySignal | isUsingSigno | getReqNum | getRet | getLen | getBuf | getPollTimes
  | driver | storage =>
    obtain ⟨-, rfl⟩ := step
    exact .refl _
  | malloc size =>
    rcases step with ⟨-, rfl⟩ | ⟨-, -, junk, rfl⟩
    · exact .refl _
    · exact ⟨rfl, rfl, rfl, rfl⟩
  | setRet | setLen | setBuf | setPollTimes | free | storeByte =>
    obtain rfl : s' = _ := step
    exact ⟨rfl, rfl, rfl, rfl⟩
  | loadByte =>
    obtain ⟨rfl, -⟩ := step
    exact .refl _
  | loadClient =>
    obtain rfl : s' = s := step
    exact .refl _

/-- A program of local operations run in one go keeps the slots. -/
theorem sameSlots_of_exec {α : Type} {program : Program Helper α} {result : α}
    (uses : Local program) (run : program.Exec helper s result s') : SameSlots s s' :=
  uses.rel_of_exec SameSlots.refl (fun _ _ _ => SameSlots.trans)
    (fun _ _ _ _ isLocal step => sameSlots_of_isLocal step isLocal) run

/-- `allocate_signo` gives out the lowest slot not in use and marks that slot
alone. -/
theorem allocateSigno_some (step : s.allocateSigno periphNo = (some signo, s')) :
    lowest? (~~~s.sigusing periphNo) = some signo ∧
      s' =
        { s.setEntry periphNo signo { s.entry periphNo signo with pollTimes := 0 } with
          sigusing := Function.update s.sigusing periphNo (s.sigusing periphNo ||| bit 64 signo)
          reqNums := Function.update s.reqNums periphNo (s.reqNums periphNo + 1) } := by
  unfold Pta.allocateSigno at step
  split at step
  · cases step
  · rename_i notFull
    cases found : lowest? (~~~s.sigusing periphNo) with
    | none =>
      have empty := (lowest?_eq_none_iff _).mp found
      exact absurd (by rw [← BitVec.not_not (b := s.sigusing periphNo), empty]; rfl) notFull
    | some n =>
      have inRange := ((lowest?_eq_some_iff _ _).mp found).1
      rw [ffs_eq_of_lowest found] at step
      simp only [Nat.add_sub_cancel] at step
      have mask : (if n + 1 = 64 then BitVec.allOnes 64
          else s.sigusing periphNo ||| low 64 (n + 1)) = s.sigusing periphNo ||| bit 64 n := by
        by_cases last : n + 1 = 64
        · rw [if_pos last]
          exact allOnes_eq_or_bit found last
        · rw [if_neg last]
          exact or_low_eq_or_bit found (by omega)
      rw [mask] at step
      cases step
      exact ⟨rfl, rfl⟩

theorem allocateSigno_none (step : s.allocateSigno periphNo = (none, s')) :
    s.sigusing periphNo = BitVec.allOnes 64 ∧ s' = s := by
  unfold Pta.allocateSigno at step
  split at step
  · rename_i full
    cases step
    exact ⟨full, rfl⟩
  · cases step

theorem isReadySignal_eq_true_iff (inRange : signo < 64) :
    s.isReadySignal periphNo signo = true ↔ (s.sigpending periphNo).getLsbD signo = true := by
  rw [Pta.isReadySignal, bne_iff_ne]
  exact and_bit_ne_zero_iff inRange _

/-! ## Polls -/

/-- The operations polls are made of, on existing slots. -/
def HelperOp.IsPoll : HelperOp → Prop
  | .getReadySignal p | .getReqNum p => p < nPeriph
  | .isUsingSigno p q | .isReadySignal p q | .getPollTimes p q | .setPollTimes p q _ =>
    p < nPeriph ∧ q < nSubSig
  | _ => False

theorem HelperOp.IsPoll.isLocal (isPoll : op.IsPoll) : op.IsLocal := by
  cases op with
  | setReadySignal | allocateSigno | releaseSigno | enqueue => exact isPoll.elim
  | _ => trivial

theorem poll_uses (paramTypes : BitVec 32) (params : Params) :
    (poll paramTypes params).Uses HelperOp.IsPoll := by
  unfold poll
  split
  · trivial
  · split
    · trivial
    · rename_i periph
      have periph := Nat.lt_of_not_le periph
      refine .perform_bind periph fun signo => ?_
      cases signo with
      | none =>
        refine .perform_bind periph fun reqNum => ?_
        split
        · trivial
        · trivial
      | some signo => trivial

theorem pollSubsignal_uses (paramTypes : BitVec 32) (params : Params) :
    (pollSubsignal paramTypes params).Uses HelperOp.IsPoll := by
  unfold pollSubsignal
  split
  · trivial
  · split
    · trivial
    · rename_i slot
      have slot := (not_or.mp slot).imp Nat.lt_of_not_le Nat.lt_of_not_le
      refine .perform_bind slot fun inUse => ?_
      split
      · trivial
      · refine .perform_bind slot fun count => ?_
        refine .perform_bind slot fun _ => ?_
        exact .perform_bind slot fun ready => trivial

end TrustWasm.IoHelper
