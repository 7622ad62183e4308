import TrustWasm.Native.Async

/-!
# Peripheral numbers

An asynchronous function turns a pin or bus into a peripheral number, and the handler
turns the number back.  The two agree, and numbers of different peripherals differ, for
the peripherals that exist.  The functions of the GNSS module take every bus number and
let it wrap around.
-/

namespace TrustWasm.Native

open TrustWasm.Lib TrustWasm.Tee TrustWasm.Drivers TrustWasm.IoHelper

/-- How many peripherals of a type there are. -/
def periphCount : PeriphType → Nat
  | .gpio => 28
  | .i2c => 2
  | .spi => 1
  | .secureStorage => 1

/-- The number of the first peripheral of a type. -/
def firstPeriphNo : PeriphType → Nat
  | .gpio => 0
  | .i2c => 28
  | .spi => 30
  | .secureStorage => 31

/-- The numbers reserved for a type. -/
def Reserved (type : PeriphType) (periphNo : Nat) : Prop :=
  firstPeriphNo type ≤ periphNo ∧ periphNo < firstPeriphNo type + periphCount type

/-- The operation addresses no peripheral but the given one. -/
def Addresses (type : PeriphType) (no : Nat) : HelperOp → Prop
  | .driver call => call.target = (type, no)
  | .storage _ => type = .secureStorage
  | _ => True

/-- A request is enqueued under a number reserved for the type of its peripheral, and
its handler addresses that peripheral alone. -/
def EnqueuesFor (type : PeriphType) (no : Nat) : HelperOp → Prop
  | .enqueue periphNo req =>
    Reserved type periphNo ∧ (handleReq req periphNo).Uses (Addresses type no)
  | _ => True

/-- The peripheral number a submission names. -/
def periphNoOf (submission : Submission) : Nat :=
  toUint16 submission.params.p0.a

namespace Operation

/-- There is a peripheral of the number the operation names. -/
def PeriphExists (op : Operation) : Prop :=
  op.periph.2.toNat < periphCount op.periph.1

instance (op : Operation) : Decidable op.PeriphExists :=
  inferInstanceAs (Decidable (_ < _))

/-- A submission of the operation reaches the peripheral the operation names: it is
submitted under a reserved number, and so is each request it enqueues, whose handler
addresses the peripheral named. -/
def Reaches (op : Operation) (submission : Submission) : Prop :=
  Reserved op.periph.1 (periphNoOf submission) ∧
    ∀ serial, (submission.program serial).Uses (EnqueuesFor op.periph.1 op.periph.2.toNat)

/-- The functions that do not test the number of their bus. -/
def IsTel0157 : Operation → Prop
  | tel0157GetGnssLen .. | tel0157GetAllGnss .. | tel0157GetUtcTime .. | tel0157GetGnssMode ..
  | tel0157GetNumSatUsed .. | tel0157GetLon .. | tel0157GetLat .. | tel0157GetAlt ..
  | tel0157GetSog .. | tel0157GetCog .. => True
  | _ => False

end Operation

/-! ## The numbers -/

theorem low6_toNat (word : BitVec 32) :
    (((word &&& 0x3f).setWidth 16).setWidth 32).toNat = word.toNat % 64 := by
  have low : (word &&& 0x3f).toNat = word.toNat % 64 := by
    rw [BitVec.toNat_and]
    exact Nat.and_two_pow_sub_one_eq_mod word.toNat 6
  rw [BitVec.toNat_setWidth, BitVec.toNat_setWidth, low]
  omega

/-- The peripheral number counts from the first of its type and wraps around at 64. -/
theorem ptaPeriphNo_toNat (type : PeriphType) (no : BitVec 32) :
    (ptaPeriphNo type no).toNat = (no.toNat + firstPeriphNo type) % 64 := by
  have shifted (first : Nat) :
      (no + BitVec.ofNat 32 first).toNat % 64 = (no.toNat + first) % 64 := by
    rw [BitVec.toNat_add, BitVec.toNat_ofNat]
    omega
  cases type with
  | gpio => exact low6_toNat no
  | i2c => exact (low6_toNat (no + 28)).trans (shifted 28)
  | spi => exact (low6_toNat (no + 30)).trans (shifted 30)
  | secureStorage => exact (low6_toNat (no + 31)).trans (shifted 31)

theorem reqCode_cast (op : Operation) : IoReqType.ofCode (reqCode op.reqType) = op.reqType := by
  cases op <;> rfl

theorem periphType_reqType (op : Operation) : op.reqType.periphType = op.periph.1 := by
  cases op <;> rfl

/-- A handler makes the pin or bus of its number again when it exists. -/
theorem recoveredNo_of_exists {type : PeriphType} {no : Nat} (small : no < periphCount type) :
    recoveredNo type (no + firstPeriphNo type) = no := by
  cases type with
  | gpio =>
    have pin : no < 28 := small
    exact Nat.mod_eq_of_lt (show no < 65536 by omega)
  | i2c =>
    have bus : no < 2 := small
    obtain rfl | rfl : no = 0 ∨ no = 1 := by omega
    · rfl
    · rfl
  | spi =>
    obtain rfl : no = 0 := Nat.lt_one_iff.mp small
    rfl
  | secureStorage => exact (Nat.lt_one_iff.mp small).symm

/-- The numbers of different peripherals differ. -/
theorem firstPeriphNo_injective {type type' : PeriphType} {no no' : Nat}
    (small : no < periphCount type) (small' : no' < periphCount type')
    (same : no + firstPeriphNo type = no' + firstPeriphNo type') : type = type' ∧ no = no' := by
  cases type
  all_goals
    cases type'
    all_goals
      simp only [periphCount, firstPeriphNo, reduceCtorEq, true_and, false_and] at *
      omega

/-! ## What is submitted -/

/-- What every submission of an operation has in common: its first parameter, and types
that the io_helper expects.  The number was tested unless the operation is one of the
GNSS module, which submit a READ_REQ. -/
structure Submitted (op : Operation) (submission : Submission) : Prop where
  param : submission.params.p0 = op.reqParam
  tested : ¬op.IsTel0157 → op.PeriphExists
  isRead : op.IsTel0157 → submission.cmd = .readReq ∧ submission.paramTypes = readReqTypes

variable {op : Operation} {submission : Submission}

theorem submitted_of_request {mem : Linear} {uninit : Ptr}
    (accepted : op.request mem uninit = .ok submission) :
    Submitted op submission := by
  cases op with
  | dhtRead | bh1750fviSample | mpu6050Sample | atk301GetFingerprintImage
  | atk301UploadFingerprintImage | i2cReadBytes | i2cReadRegs | at24cxxRead =>
    obtain ⟨_, small, returned⟩ := bind_eq_ok.mp accepted
    cases returned
    exact ⟨rfl, fun _ => Nat.lt_succ_of_le (checkNo_eq_ok.mp small), fun tel => tel.elim⟩
  | i2cWriteBytes | spiTransferBytes | at24cxxWrite =>
    obtain ⟨_, _, accepted⟩ := bind_eq_ok.mp accepted
    obtain ⟨_, small, accepted⟩ := bind_eq_ok.mp accepted
    obtain ⟨_, _, returned⟩ := bind_eq_ok.mp accepted
    cases returned
    exact ⟨rfl, fun _ => Nat.lt_succ_of_le (checkNo_eq_ok.mp small), fun tel => tel.elim⟩
  | writeSecureObject =>
    obtain ⟨_, _, accepted⟩ := bind_eq_ok.mp accepted
    obtain ⟨_, _, accepted⟩ := bind_eq_ok.mp accepted
    obtain ⟨_, _, accepted⟩ := bind_eq_ok.mp accepted
    obtain ⟨_, _, returned⟩ := bind_eq_ok.mp accepted
    cases returned
    exact ⟨rfl, fun _ => Nat.one_pos, fun tel => tel.elim⟩
  | readSecureObject =>
    obtain ⟨_, _, accepted⟩ := bind_eq_ok.mp accepted
    obtain ⟨_, _, returned⟩ := bind_eq_ok.mp accepted
    cases returned
    exact ⟨rfl, fun _ => Nat.one_pos, fun tel => tel.elim⟩
  | tel0157GetGnssLen | tel0157GetAllGnss | tel0157GetUtcTime | tel0157GetGnssMode
  | tel0157GetNumSatUsed | tel0157GetLon | tel0157GetLat | tel0157GetAlt | tel0157GetSog
  | tel0157GetCog =>
    cases accepted
    exact ⟨rfl, fun tested => absurd trivial tested, fun _ => ⟨rfl, rfl⟩⟩

theorem Submitted.periphNo (submitted : Submitted op submission) :
    submission.params.p0.a.toNat = (op.periph.2.toNat + firstPeriphNo op.periph.1) % 64 := by
  rw [submitted.param, Operation.reqParam, TeeParam.value_a, ptaPeriphNo_toNat]

theorem Submitted.small (submitted : Submitted op submission) :
    submission.params.p0.a.toNat < nPeriph := by
  rw [submitted.periphNo]
  exact Nat.mod_lt _ (by decide)

theorem Submitted.periphNoOf_eq (submitted : Submitted op submission) :
    periphNoOf submission = (op.periph.2.toNat + firstPeriphNo op.periph.1) % 64 := by
  rw [periphNoOf, toUint16_eq_of_lt submitted.small, submitted.periphNo]

theorem Submitted.type (submitted : Submitted op submission) :
    IoReqType.ofCode submission.params.p0.b = op.reqType := by
  rw [submitted.param, Operation.reqParam, TeeParam.value_b, reqCode_cast]

/-- The number of a peripheral that exists does not wrap around. -/
theorem Submitted.periphNo_of_exists (submitted : Submitted op submission)
    (present : op.PeriphExists) :
    periphNoOf submission = op.periph.2.toNat + firstPeriphNo op.periph.1 := by
  rw [submitted.periphNoOf_eq]
  refine Nat.mod_eq_of_lt ?_
  unfold Operation.PeriphExists at present
  cases type : op.periph.1 with
  | gpio | i2c | spi | secureStorage =>
    simp only [type, periphCount, firstPeriphNo] at *
    omega

/-! ## What the handler addresses -/

theorem handleReq_addresses (req : IoReq) (p : Nat) :
    (handleReq req p).Uses (Addresses req.type.periphType (recoveredNo req.type.periphType p)) := by
  refine (handleReq_works req p).mono fun op works => ?_
  cases op with
  | driver call => exact works
  | storage call => exact works
  | _ => trivial

/-- An operation on a peripheral that exists reaches it. -/
theorem Submitted.reaches (submitted : Submitted op submission) (present : op.PeriphExists) :
    op.Reaches submission := by
  have number := submitted.periphNo_of_exists present
  have reserved : Reserved op.periph.1 (periphNoOf submission) := by
    rw [number]
    exact ⟨Nat.le_add_left _ _, by rw [Nat.add_comm]; exact Nat.add_lt_add_left present _⟩
  refine ⟨reserved, fun serial => ?_⟩
  refine (submission.submits serial).uses (fun _ => trivial) trivial ?_ fun req type => ?_
  · intro op isCopy
    cases op
    case loadClient | storeByte => trivial
    all_goals exact isCopy.elim
  · refine ⟨reserved, ?_⟩
    have addresses := handleReq_addresses req (periphNoOf submission)
    rw [type, submitted.type, periphType_reqType, number, recoveredNo_of_exists present,
      ← number] at addresses
    exact addresses

section Unchecked

variable {P : HelperOp → Prop}

/-- An accepted READ_REQ can enqueue its request. -/
theorem enqueue_of_uses {serial : Nat} {params : Params} (small : params.p0.a.toNat < nPeriph)
    (uses : (readReq serial readReqTypes params).Uses P) :
    ∃ req : IoReq, req.type = .ofCode params.p0.b ∧ P (.enqueue (toUint16 params.p0.a) req) := by
  unfold readReq at uses
  rw [if_neg (fun bad => bad rfl), if_neg (Nat.not_le_of_lt small)] at uses
  exact ⟨_, rfl, (uses.2 (some 0)).1⟩

/-- A sample handler can call its driver. -/
theorem driver_of_uses {size : BitVec 32} {noMemory : TeeResult} {call : DriverCall} {req : IoReq}
    {p : Nat} (uses : (handleSample size noMemory call req p).Uses P) : P (.driver call) := by
  rw [handleSample, malloc_bind] at uses
  have served := uses.2 1
  dsimp only at served
  rw [if_neg (show (1 : Ptr) ≠ null by decide)] at served
  exact served.1

/-- The handlers of the GNSS module can call the driver for the bus of their number. -/
theorem tel0157_addresses (tel : op.IsTel0157) {req : IoReq} {p : Nat}
    (type : req.type = op.reqType) (uses : (handleReq req p).Uses P) :
    ∃ call : DriverCall, call.target = (.i2c, (i2cOf p).toNat) ∧ P (.driver call) := by
  unfold handleReq at uses
  rw [type] at uses
  cases op with
  | tel0157GetGnssLen | tel0157GetAllGnss | tel0157GetUtcTime | tel0157GetGnssMode
  | tel0157GetNumSatUsed | tel0157GetLon | tel0157GetLat | tel0157GetAlt | tel0157GetSog
  | tel0157GetCog => exact ⟨_, rfl, driver_of_uses uses⟩
  | _ => exact tel.elim

end Unchecked

theorem periph_of_tel0157 (tel : op.IsTel0157) : op.periph.1 = .i2c := by
  cases op with
  | tel0157GetGnssLen | tel0157GetAllGnss | tel0157GetUtcTime | tel0157GetGnssMode
  | tel0157GetNumSatUsed | tel0157GetLon | tel0157GetLat | tel0157GetAlt | tel0157GetSog
  | tel0157GetCog => rfl
  | _ => exact tel.elim

/-- A GNSS function on a bus that does not exist does not reach it: its number is
reserved for something else, or it has wrapped around and stands for another bus. -/
theorem Submitted.not_reaches (submitted : Submitted op submission) (absent : ¬op.PeriphExists) :
    ¬op.Reaches submission := by
  rintro ⟨reserved, uses⟩
  have tel : op.IsTel0157 := by
    by_contra other
    exact absent (submitted.tested other)
  have bus := periph_of_tel0157 tel
  obtain ⟨cmd, types⟩ := submitted.isRead tel
  have enqueues := uses 0
  rw [Submission.program, cmd] at enqueues
  dsimp only at enqueues
  rw [types] at enqueues
  obtain ⟨req, type, -, handles⟩ := enqueue_of_uses submitted.small enqueues
  obtain ⟨call, target, addressed⟩ := tel0157_addresses tel (type.trans submitted.type) handles
  have same : (i2cOf (periphNoOf submission)).toNat = op.periph.2.toNat :=
    congrArg Prod.snd (target.symm.trans addressed)
  unfold Operation.PeriphExists at absent
  unfold Reserved at reserved
  rw [submitted.periphNoOf_eq] at reserved same
  simp only [bus, firstPeriphNo, periphCount] at reserved same absent
  have wrapped : (op.periph.2.toNat + 28) % 64 = 28 ∨ (op.periph.2.toNat + 28) % 64 = 29 := by
    omega
  rcases wrapped with number | number
  · rw [number] at same
    exact absent (by rw [← same]; decide)
  · rw [number] at same
    exact absent (by rw [← same]; decide)

/-- Any two asynchronous calls that are accepted reach the peripherals they name, under
numbers that differ when the peripherals do, exactly when both peripherals exist. -/
theorem numbering_faithful_iff (mem mem' : Linear) (uninit uninit' : Ptr) (call call' : AsyncCall)
    {submission submission' : Submission} (accepted : call.op.request mem uninit = .ok submission)
    (accepted' : call'.op.request mem' uninit' = .ok submission') :
    (call.op.Reaches submission ∧ call'.op.Reaches submission' ∧
        (call.op.periph ≠ call'.op.periph → periphNoOf submission ≠ periphNoOf submission')) ↔
      call.op.PeriphExists ∧ call'.op.PeriphExists := by
  have first := submitted_of_request accepted
  have second := submitted_of_request accepted'
  constructor
  · rintro ⟨reaches, reaches', -⟩
    constructor
    · by_contra absent
      exact first.not_reaches absent reaches
    · by_contra absent
      exact second.not_reaches absent reaches'
  · rintro ⟨present, present'⟩
    refine ⟨first.reaches present, second.reaches present', fun differ same => differ ?_⟩
    rw [first.periphNo_of_exists present, second.periphNo_of_exists present'] at same
    obtain ⟨type, no⟩ := firstPeriphNo_injective present present' same
    exact Prod.ext type (BitVec.eq_of_toNat_eq no)

theorem numbering_of_pin_and_bus :
    ∃ submission submission',
      (Operation.dhtRead 4 11).request onePage null = .ok submission ∧
      (Operation.tel0157GetLon 1 32).request onePage null = .ok submission' ∧
      (Operation.dhtRead 4 11).Reaches submission ∧
      (Operation.tel0157GetLon 1 32).Reaches submission' ∧
      periphNoOf submission ≠ periphNoOf submission' := by
  have faithful := (numbering_faithful_iff onePage onePage null null
    ⟨.dhtRead 4 11, .async 1, rfl⟩ ⟨.tel0157GetLon 1 32, .asyncFuture, rfl⟩ rfl rfl).mpr
    ⟨by decide, by decide⟩
  exact ⟨_, _, rfl, rfl, faithful.1, faithful.2.1, faithful.2.2 (by decide)⟩

/-- The longitude on I2C bus 2 is asked for under the number of the SPI bus, and on bus
64 under the number of bus 0, as on bus 0 itself. -/
theorem gnss_bus_wraps_around :
    ∃ onTwo onWrapped onFirst,
      (Operation.tel0157GetLon 2 32).request onePage null = .ok onTwo ∧
      (Operation.tel0157GetLon 64 32).request onePage null = .ok onWrapped ∧
      (Operation.tel0157GetLon 0 32).request onePage null = .ok onFirst ∧
      periphNoOf onTwo = firstPeriphNo .spi ∧ ¬(Operation.tel0157GetLon 2 32).Reaches onTwo ∧
      periphNoOf onWrapped = periphNoOf onFirst ∧
      ¬(Operation.tel0157GetLon 64 32).Reaches onWrapped := by
  have onTwo : (Operation.tel0157GetLon 2 32).request onePage null = .ok _ := rfl
  have onWrapped : (Operation.tel0157GetLon 64 32).request onePage null = .ok _ := rfl
  exact ⟨_, _, _, onTwo, onWrapped, rfl, rfl,
    (submitted_of_request onTwo).not_reaches (by decide), rfl,
    (submitted_of_request onWrapped).not_reaches (by decide)⟩

end TrustWasm.Native
