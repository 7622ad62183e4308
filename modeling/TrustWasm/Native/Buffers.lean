import TrustWasm.Native.Collect
import TrustWasm.Native.SecureObject
import Mathlib.Tactic.IntervalCases
import Mathlib.Tactic.MkIffOfInductiveProp
import Mathlib.Tactic.Simps.Basic

/-!
# Buffer arguments

Every native function that takes a buffer treats its pointer in one of three ways: most check
its signature and tag and clear them, the functions that collect a result and those that
exchange bytes over SPI do so unless the pointer is 0, and those that report times do neither.
They validate the buffer and access the linear memory from the address that is left, as far as
the buffer goes; `read_secure_object` alone goes further, with its length.

A signed pointer keeps 17 bits of the address, so it names its buffer when that is empty or
starts in the first 128 KiB.
-/

namespace TrustWasm.Native

open TrustWasm.Tee TrustWasm.Drivers

/-! ## Arguments -/

/-- What a function asks of a pointer. -/
inductive PtrCheck where
  | signed
  | signedOrZero
  | nothing
  deriving DecidableEq

/-- The address that a pointer leaves, unless it is refused. -/
def PtrCheck.address : PtrCheck → BitVec 32 → Except TeeResult (BitVec 32)
  | signed => signedArg
  | signedOrZero => optionalPtr
  | nothing => .ok

def PtrCheck.Accepts (check : PtrCheck) (ptr : BitVec 32) : Prop :=
  ∃ addr, check.address ptr = .ok addr

/-- A buffer argument: its pointer, the length that is validated, and the number of bytes that
are accessed. -/
structure BufferArg where
  check : PtrCheck
  ptr : BitVec 32
  len : BitVec 32
  touched : BitVec 32
  skipsEmpty : Bool
  deriving DecidableEq

namespace BufferArg

@[simps]
def plain (check : PtrCheck) (ptr len : BitVec 32) : BufferArg :=
  ⟨check, ptr, len, len, false⟩

/-- A buffer that is looked at only when it is not empty. -/
@[simps]
def unlessEmpty (check : PtrCheck) (ptr len : BitVec 32) : BufferArg :=
  ⟨check, ptr, len, len, true⟩

/-- A cell of four bytes that `TEE_ReadObjectData` takes for a `size_t`. -/
@[simps]
def count (ptr : BitVec 32) : BufferArg :=
  ⟨.signed, ptr, 4, 8, false⟩

/-- The bytes a function accesses by an argument, unless it returns at once. -/
def access (mem : Linear) (arg : BufferArg) : Except TeeResult Range := do
  let addr ← arg.check.address arg.ptr
  if arg.skipsEmpty = true ∧ arg.len = 0 then
    return ⟨addr, arg.touched⟩
  else
    let range ← mem.validated addr arg.len
    return { range with len := arg.touched }

end BufferArg

/-! ## Functions -/

/-- The buffers of an asynchronous function. -/
def Operation.args : Operation → List BufferArg
  | .i2cWriteBytes _ _ _ srcBufAddr bufLen => [.plain .signed srcBufAddr bufLen]
  | .spiTransferBytes _ _ _ _ _ srcLen _ srcBufAddr => [.plain .signed srcBufAddr srcLen]
  | .writeSecureObject idAddr idLen dataAddr dataLen =>
    [.plain .signed idAddr idLen, .plain .signed dataAddr dataLen]
  | .readSecureObject idAddr idLen => [.plain .signed idAddr idLen]
  | .at24cxxWrite _ _ _ srcBufAddr srcLen => [.plain .signed srcBufAddr srcLen]
  | _ => []

/-- The native functions that take a buffer, with the arguments that say where it is. -/
inductive BufferCall where
  | i2cReadBytes (dstBufAddr bufLen : BitVec 32)
  | i2cWriteBytes (srcBufAddr bufLen : BitVec 32)
  | i2cReadRegs (dstBufAddr bufLen : BitVec 32)
  | i2cWriteRegs (srcBufAddr bufLen : BitVec 32)
  | dhtRead (dstTempAddr dstHumAddr : BitVec 32)
  | bh1750fviSample (dstLuxAddr : BitVec 32)
  | mpu6050Sample (dstAddr : BitVec 32)
  | w25qxxReadId (idDstAddr : BitVec 32)
  | w25qxxReadData (dstBufAddr len : BitVec 32)
  | w25qxxPageProgram (dstBufAddr len : BitVec 32)
  | tel0157GetGnssLen (lenDstAddr : BitVec 32)
  | tel0157GetAllGnss (dstBufAddr len : BitVec 32)
  | tel0157GetUtcTime (utcDstAddr : BitVec 32)
  | tel0157GetGnssMode (modeDstAddr : BitVec 32)
  | tel0157GetNumSatUsed (numDstAddr : BitVec 32)
  | tel0157GetLon (lonDstAddr : BitVec 32)
  | tel0157GetLat (latDstAddr : BitVec 32)
  | tel0157GetAlt (altDstAddr : BitVec 32)
  | tel0157GetSog (sogDstAddr : BitVec 32)
  | tel0157GetCog (cogDstAddr : BitVec 32)
  | spiTransferByte (needByteIn dstByteAddr : BitVec 32)
  | spiTransferBytes (srcLen dstLen srcBufAddr dstBufAddr : BitVec 32)
  | spiTransferDiffBytes (srcLen dstLen srcBufAddr dstBufAddr : BitVec 32)
  | writeSecureObject (idAddr idLen dataAddr dataLen : BitVec 32)
  | readSecureObject (args : ReadArgs)
  | deleteSecureObject (idAddr idLen : BitVec 32)
  | at24cxxRead (dstBufAddr len : BitVec 32)
  | at24cxxWrite (srcBufAddr len : BitVec 32)
  | atk301UploadFingerprintImage (dstBufAddr : BitVec 32)
  | submit (op : Operation)
  | collect (call : CollectCall)
  | getBenchmarkTime (outTimeAddr : BitVec 32)
  | getPollTimes (dstPollTimesAddr : BitVec 32)
  | getRuntimePollTimes (dstPollTimesAddr : BitVec 32)
  | getRuntimeProfileTimes (dstProfileTimesAddr : BitVec 32)
  | i2cGetOverheadTimestamp (bufAddr : BitVec 32)
  | ioHelperGetOverheadTimestamp (bufAddr : BitVec 32)

namespace BufferCall

/-- The buffers of a function, in the order in which the pointers are checked.  A length that
the program keeps in a cell is read from the cleared address. -/
def args (mem : Linear) : BufferCall → List BufferArg
  | i2cReadBytes ptr len | i2cWriteBytes ptr len | i2cReadRegs ptr len | i2cWriteRegs ptr len
  | w25qxxReadData ptr len | w25qxxPageProgram ptr len | tel0157GetAllGnss ptr len
  | at24cxxRead ptr len | at24cxxWrite ptr len | deleteSecureObject ptr len =>
    [.plain .signed ptr len]
  | dhtRead dstTempAddr dstHumAddr => [.plain .signed dstTempAddr 2, .plain .signed dstHumAddr 2]
  | bh1750fviSample ptr | w25qxxReadId ptr | tel0157GetGnssLen ptr => [.plain .signed ptr 2]
  | mpu6050Sample ptr => [.plain .signed ptr 14]
  | tel0157GetUtcTime ptr => [.plain .signed ptr Tel0157.timeSize]
  | tel0157GetGnssMode ptr | tel0157GetNumSatUsed ptr => [.plain .signed ptr 1]
  | tel0157GetLon ptr | tel0157GetLat ptr => [.plain .signed ptr Tel0157.lonLatSize]
  | tel0157GetAlt ptr | tel0157GetSog ptr | tel0157GetCog ptr => [.plain .signed ptr 3]
  | atk301UploadFingerprintImage ptr => [.plain .signed ptr Atk301.fingerprintImageDataLen]
  | spiTransferByte needByteIn ptr => [.unlessEmpty .signed ptr (if 0 < needByteIn then 1 else 0)]
  | spiTransferBytes srcLen dstLen src dst | spiTransferDiffBytes srcLen dstLen src dst =>
    [.unlessEmpty .signedOrZero dst dstLen, .unlessEmpty .signedOrZero src srcLen]
  | writeSecureObject idAddr idLen dataAddr dataLen =>
    [.plain .signed idAddr idLen, .plain .signed dataAddr dataLen]
  | readSecureObject args =>
    [.plain .signed args.dataAddr (mem.word (clearSignatureAndTag args.dataLenAddr).toNat),
      .count args.dataLenAddr, .plain .signed args.idAddr args.idLen]
  | submit op => op.args
  | collect call =>
    [.plain .signedOrZero call.dstBufAddr
      (mem.word (clearSignatureAndTag call.dstBufLenAddr).toNat),
      .plain .signedOrZero call.dstBufLenAddr 4]
  | getBenchmarkTime ptr | getPollTimes ptr | getRuntimePollTimes ptr
  | getRuntimeProfileTimes ptr => [.plain .nothing ptr 8]
  | i2cGetOverheadTimestamp ptr => [.plain .nothing ptr 800]
  | ioHelperGetOverheadTimestamp ptr => [.plain .nothing ptr 1600]

/-- What a function accesses of the linear memory, as far as its pointers let it. -/
def accesses (mem : Linear) (call : BufferCall) : Except TeeResult (List Range) :=
  (call.args mem).mapM (BufferArg.access mem)

end BufferCall

/-! ## Signed pointers -/

/-- Two ranges cover the same bytes when they are equally long and, unless they are empty,
start at the same address. -/
theorem Range.covers_iff (range other : Range) :
    (∀ i, range.Covers i ↔ other.Covers i) ↔
      range.len = other.len ∧ (range.len = 0 ∨ range.addr = other.addr) := by
  have zero : (0 : BitVec 32).toNat = 0 := rfl
  simp only [Range.Covers, ← BitVec.toNat_inj]
  constructor
  · intro same
    have first := same range.addr.toNat
    have otherFirst := same other.addr.toNat
    have last := same (range.addr.toNat + range.len.toNat - 1)
    have otherLast := same (other.addr.toNat + other.len.toNat - 1)
    omega
  · rintro ⟨length, start⟩ i
    omega

theorem signPtr_ne_zero (ptr : BitVec 32) : signPtr ptr 0xE5 0x12 ≠ 0 := by
  intro zero
  have signed := checkPtrSigned_signPtr ptr
  rw [zero] at signed
  exact absurd signed (by decide)

/-- Signing changes every address but those that carry the signature and the tag already. -/
theorem signPtr_eq_self_iff (ptr : BitVec 32) :
    signPtr ptr 0xE5 0x12 = ptr ↔ checkPtrSigned ptr = true := by
  constructor
  · intro same
    rw [← same]
    exact checkPtrSigned_signPtr ptr
  · intro signed
    obtain ⟨signature, tag⟩ := (checkPtrSigned_iff ptr).mp signed
    refine BitVec.eq_of_getLsbD_eq fun i bound => ?_
    have signatureBit := congrArg (fun byte => byte.getLsbD (i - 24)) signature
    have tagBit := congrArg (fun byte => byte.getLsbD (i - 17)) tag
    simp only [getSignature, getTag, BitVec.getLsbD_setWidth, BitVec.getLsbD_ushiftRight,
      BitVec.getLsbD_and] at signatureBit tagBit
    rw [signPtr_global, BitVec.getLsbD_or, BitVec.getLsbD_and]
    interval_cases i <;>
      simp_all [fatPtrAddressMask, fatPtrSignatureMask, fatPtrTagMask, globalSignature, globalTag]

namespace PtrCheck

variable {check : PtrCheck}

theorem address_signPtr (checks : check ≠ nothing) (addr : BitVec 32) :
    check.address (signPtr addr 0xE5 0x12) =
      .ok (clearSignatureAndTag (signPtr addr 0xE5 0x12)) := by
  have accepted : signedArg (signPtr addr 0xE5 0x12) =
      .ok (clearSignatureAndTag (signPtr addr 0xE5 0x12)) :=
    if_pos (checkPtrSigned_signPtr addr)
  cases check with
  | signed => exact accepted
  | signedOrZero => exact (if_pos (signPtr_ne_zero addr)).trans accepted
  | nothing => exact absurd rfl checks

/-- Only a check of every pointer tells the signed ones from the others. -/
theorem accepts_iff :
    (∀ ptr, check.Accepts ptr ↔
      getSignature ptr = globalSignature ∧ getTag ptr = globalTag) ↔ check = signed := by
  constructor
  · intro accepts
    have zero : ¬check.Accepts 0 := fun accepted => absurd ((accepts 0).mp accepted) (by decide)
    cases check with
    | signed => rfl
    | signedOrZero => exact absurd ⟨0, rfl⟩ zero
    | nothing => exact absurd ⟨0, rfl⟩ zero
  · rintro rfl ptr
    rw [← checkPtrSigned_iff]
    show (∃ addr, (if checkPtrSigned ptr then Except.ok _ else _) = Except.ok addr) ↔ _
    cases checkPtrSigned ptr <;> simp

end PtrCheck

namespace BufferArg

variable {mem : Linear} {arg : BufferArg} {addr : BitVec 32}

/-- The bytes accessed by an argument are those of the buffer at `addr`. -/
def Names (mem : Linear) (arg : BufferArg) (addr : BitVec 32) : Prop :=
  ∃ range, arg.access mem = .ok range ∧ ∀ i, range.Covers i ↔ (⟨addr, arg.len⟩ : Range).Covers i

theorem plain_ne_count (check : PtrCheck) (ptr len cell : BitVec 32) :
    plain check ptr len ≠ count cell := by
  intro same
  have length : len = 4 := congrArg BufferArg.len same
  have touched : len = 8 := congrArg BufferArg.touched same
  exact absurd (length.symm.trans touched) (by decide)

/-- An address inside the memory passes the validation. -/
theorem access_of_inside {left : BitVec 32} (address : arg.check.address arg.ptr = .ok left)
    (inside : left.toNat + arg.len.toNat ≤ mem.size) :
    arg.access mem = .ok ⟨left, arg.touched⟩ := by
  have valid : mem.validated left arg.len = .ok ⟨left, arg.len⟩ :=
    if_pos ((mem.validateAppAddr_iff _ _).mpr inside)
  unfold access
  rw [address]
  simp only [bind, Except.bind, valid, pure, Except.pure, ite_self]

/-- A signed pointer that is checked names its buffer when the buffer is all that is accessed,
and is empty or starts in the first 128 KiB. -/
theorem names_iff_of_checked (checks : arg.check ≠ .nothing)
    (signed : arg.ptr = signPtr addr 0xE5 0x12) (inside : addr.toNat + arg.len.toNat ≤ mem.size) :
    arg.Names mem addr ↔ arg.touched = arg.len ∧ (arg.len = 0 ∨ addr.toNat < 2 ^ 17) := by
  have cleared := clearSignatureAndTag_signPtr addr
  have address := PtrCheck.address_signPtr checks addr
  rw [← signed] at address cleared
  have low := Nat.mod_le addr.toNat (2 ^ 17)
  have accessed : arg.access mem = .ok ⟨clearSignatureAndTag arg.ptr, arg.touched⟩ :=
    access_of_inside address (by omega)
  have starts : clearSignatureAndTag arg.ptr = addr ↔ addr.toNat < 2 ^ 17 := by
    rw [← BitVec.toNat_inj, cleared]
    omega
  unfold Names
  simp only [accessed, Except.ok.injEq, exists_eq_left', Range.covers_iff, starts]
  constructor
  · rintro ⟨length, start⟩
    exact ⟨length, length ▸ start⟩
  · rintro ⟨length, start⟩
    exact ⟨length, length.symm ▸ start⟩

/-- A signed pointer that is taken as it is names a buffer only where signing changes
nothing. -/
theorem names_iff_of_unchecked {ptr len : BitVec 32} (nonempty : len ≠ 0)
    (signed : ptr = signPtr addr 0xE5 0x12) (inside : addr.toNat + len.toNat ≤ mem.size) :
    (plain .nothing ptr len).Names mem addr ↔ checkPtrSigned addr = true := by
  rw [← signPtr_eq_self_iff, ← signed]
  constructor
  · rintro ⟨range, accessed, covers⟩
    obtain ⟨_, ⟨⟩, validates⟩ := bind_eq_ok.mp accessed
    obtain ⟨range', valid, ⟨⟩⟩ := bind_eq_ok.mp validates
    obtain ⟨rfl, -⟩ := Linear.validated_ok valid
    exact ((Range.covers_iff _ _).mp covers).2.resolve_left nonempty
  · rintro rfl
    exact ⟨_, access_of_inside rfl inside, fun _ => Iff.rfl⟩

end BufferArg

namespace BufferCall

/-- The functions that report times, which take every pointer as it is. -/
def Reports : BufferCall → Prop
  | getBenchmarkTime _ | getPollTimes _ | getRuntimePollTimes _ | getRuntimeProfileTimes _
  | i2cGetOverheadTimestamp _ | ioHelperGetOverheadTimestamp _ => True
  | _ => False

/-- The functions that take a pointer of 0 as it is. -/
def TakesZero : BufferCall → Prop
  | spiTransferBytes .. | spiTransferDiffBytes .. | collect _ => True
  | _ => False

/-- The length of `read_secure_object`. -/
def IsCount : BufferCall → BufferArg → Prop
  | readSecureObject args, arg => arg = .count args.dataLenAddr
  | _, _ => False

/-- The condition on a buffer at `addr`: it is empty or starts in the first 128 KiB, and is not
the length of `read_secure_object`.  For a function that reports times, the address carries the
signature and the tag of its own. -/
def Keeps (call : BufferCall) (arg : BufferArg) (addr : BitVec 32) : Prop :=
  (call.Reports ∧ checkPtrSigned addr = true) ∨
    (¬call.Reports ∧ ¬call.IsCount arg ∧ (arg.len = 0 ∨ addr.toNat < 2 ^ 17))

/-- How an argument is treated, read off the functions one by one. -/
@[mk_iff]
structure Treats (call : BufferCall) (arg : BufferArg) : Prop where
  reported : call.Reports → arg.len ≠ 0 ∧ arg = .plain .nothing arg.ptr arg.len
  checked : ¬call.Reports → arg.check ≠ .nothing
  touched : arg.touched = arg.len ↔ ¬call.IsCount arg
  signed : arg.check = .signed ↔ ¬call.Reports ∧ ¬call.TakesZero

theorem treats (mem : Linear) (call : BufferCall) : ∀ arg ∈ call.args mem, call.Treats arg := by
  cases call with
  | submit op => cases op <;> simp [args, Operation.args, treats_iff, Reports, TakesZero, IsCount]
  | _ => simp [args, treats_iff, Reports, TakesZero, IsCount, BufferArg.plain_ne_count]

end BufferCall

/-- Pointers pass `check_ptr_signed` by their signature and tag alone.  A buffer in the linear
memory whose signed pointer is handed to a native function is what the function accesses by
that argument exactly under the condition above, and a function refuses exactly the pointers
without the signature and the tag unless it reports times or takes a pointer of 0. -/
theorem signed_buffer_accessed_iff (mem : Linear) (call : BufferCall) (arg : BufferArg)
    (isArg : arg ∈ call.args mem) (addr : BitVec 32) (signed : arg.ptr = signPtr addr 0xE5 0x12)
    (inside : addr.toNat + arg.len.toNat ≤ mem.size) :
    (∀ ptr, checkPtrSigned ptr = true ↔
      getSignature ptr = globalSignature ∧ getTag ptr = globalTag) ∧
    checkPtrSigned arg.ptr = true ∧
    (arg.Names mem addr ↔ call.Keeps arg addr) ∧
    ((∀ ptr, arg.check.Accepts ptr ↔
      getSignature ptr = globalSignature ∧ getTag ptr = globalTag) ↔
        ¬call.Reports ∧ ¬call.TakesZero) := by
  have treated := call.treats mem arg isArg
  refine ⟨checkPtrSigned_iff, signed ▸ checkPtrSigned_signPtr addr, ?_,
    PtrCheck.accepts_iff.trans treated.signed⟩
  unfold BufferCall.Keeps
  by_cases reports : call.Reports
  · obtain ⟨nonempty, isPlain⟩ := treated.reported reports
    rw [isPlain, BufferArg.names_iff_of_unchecked nonempty signed inside]
    simp [reports]
  · rw [BufferArg.names_iff_of_checked (treated.checked reports) signed inside, treated.touched]
    simp [reports]

theorem signed_buffer_in_first_page :
    (BufferArg.plain .signed (signPtr 16 0xE5 0x12) 8).Names onePage 16 :=
  (signed_buffer_accessed_iff onePage (.i2cReadBytes (signPtr 16 0xE5 0x12) 8) _
    (List.mem_singleton.mpr rfl) 16 rfl (by decide)).2.2.1.mpr
    (.inr ⟨id, id, .inr (by decide)⟩)

/-- A memory of three pages. -/
def threePages : Linear :=
  { onePage with size := 196608, small := by decide, fits := by decide }

/-- A read of four bytes to the start of the third page goes to address 0.  A report of the
number of polls refuses a signed pointer and takes one that is not signed, and a result is
collected to address 0 without a signature. -/
theorem signed_buffer_in_third_page :
    (BufferCall.i2cReadBytes (signPtr 131072 0xE5 0x12) 4).accesses threePages = .ok [⟨0, 4⟩] ∧
      (BufferCall.getPollTimes (signPtr 16 0xE5 0x12)).accesses threePages =
        .error teeErrorAccessDenied ∧
      (BufferCall.getPollTimes 16).accesses threePages = .ok [⟨16, 8⟩] ∧
      (BufferCall.collect ⟨.asyncData 4 0, 0, signPtr 16 0xE5 0x12⟩).accesses threePages =
        .ok [⟨0, 0⟩, ⟨16, 4⟩] :=
  ⟨rfl, rfl, rfl, rfl⟩

/-! ## The functions that are modelled in full -/

section Modelled

variable {mem : Linear}

theorem BufferArg.access_plain (check : PtrCheck) {ptr len left : BitVec 32} {range : Range}
    (checked : check.address ptr = .ok left) (valid : mem.validated left len = .ok range) :
    (plain check ptr len).access mem = .ok range := by
  obtain ⟨rfl, inside⟩ := Linear.validated_ok valid
  exact access_of_inside checked inside

/-- A call that collects a result accesses its buffer and its cell. -/
theorem CollectCall.accesses_of_prepare {call : CollectCall} {prepared : Prepared}
    (passed : call.prepare mem = .ok prepared) :
    (BufferCall.collect call).accesses mem = .ok [prepared.dst, prepared.cell] := by
  obtain ⟨_, -, passed⟩ := bind_eq_ok.mp passed
  obtain ⟨dst, isDst, passed⟩ := bind_eq_ok.mp passed
  obtain ⟨cell, isCell, passed⟩ := bind_eq_ok.mp passed
  obtain ⟨_, -, passed⟩ := bind_eq_ok.mp passed
  obtain ⟨cellRange, cellValid, passed⟩ := bind_eq_ok.mp passed
  obtain ⟨dstRange, dstValid, ⟨⟩⟩ := bind_eq_ok.mp passed
  rw [(Linear.validated_ok cellValid).1, optionalPtr_ok isCell] at dstValid
  rw [BufferCall.accesses, BufferCall.args, List.mapM_cons,
    BufferArg.access_plain .signedOrZero isDst dstValid, List.mapM_cons,
    BufferArg.access_plain .signedOrZero isCell cellValid]
  rfl

/-- A submission hands out the buffers that its function accesses. -/
theorem Operation.accesses_of_request {uninit : Ptr} {op : Operation}
    {submission : IoHelper.Submission} (requested : op.request mem uninit = .ok submission) :
    ∃ ranges, (BufferCall.submit op).accesses mem = .ok ranges ∧
      ∀ range ∈ ranges, mem.memref range ∈ [submission.params.p1, submission.params.p2] := by
  cases op with
  | i2cWriteBytes | spiTransferBytes | at24cxxWrite =>
    obtain ⟨_, signed, requested⟩ := bind_eq_ok.mp requested
    obtain ⟨_, -, requested⟩ := bind_eq_ok.mp requested
    obtain ⟨src, valid, ⟨⟩⟩ := bind_eq_ok.mp requested
    refine ⟨[src], ?_, by simp [writeRequest]⟩
    rw [BufferCall.accesses, BufferCall.args, args, List.mapM_cons,
      BufferArg.access_plain .signed signed valid]
    rfl
  | writeSecureObject =>
    obtain ⟨_, idSigned, requested⟩ := bind_eq_ok.mp requested
    obtain ⟨_, dataSigned, requested⟩ := bind_eq_ok.mp requested
    obtain ⟨data, dataValid, requested⟩ := bind_eq_ok.mp requested
    obtain ⟨id, idValid, ⟨⟩⟩ := bind_eq_ok.mp requested
    refine ⟨[id, data], ?_, by simp⟩
    rw [BufferCall.accesses, BufferCall.args, args, List.mapM_cons,
      BufferArg.access_plain .signed idSigned idValid, List.mapM_cons,
      BufferArg.access_plain .signed dataSigned dataValid]
    rfl
  | readSecureObject =>
    obtain ⟨_, signed, requested⟩ := bind_eq_ok.mp requested
    obtain ⟨id, valid, ⟨⟩⟩ := bind_eq_ok.mp requested
    refine ⟨[id], ?_, by simp⟩
    rw [BufferCall.accesses, BufferCall.args, args, List.mapM_cons,
      BufferArg.access_plain .signed signed valid]
    rfl
  | _ => exact ⟨[], rfl, nofun⟩

/-- A read of a secure object accesses its buffers, and eight bytes at its cell. -/
theorem ReadArgs.accesses_of_valid {args : ReadArgs} (signed : args.Signed)
    (valid : args.cleared.Valid mem) :
    (BufferCall.readSecureObject args).accesses mem =
      .ok [args.cleared.data mem, ⟨args.cleared.dataLenAddr, 8⟩, args.cleared.id] := by
  have data : (BufferArg.plain .signed args.dataAddr (args.cleared.data mem).len).access mem =
      .ok ⟨args.cleared.dataAddr, (args.cleared.data mem).len⟩ :=
    BufferArg.access_of_inside (if_pos signed.1) valid.data
  have cell : (BufferArg.count args.dataLenAddr).access mem = .ok ⟨args.cleared.dataLenAddr, 8⟩ :=
    BufferArg.access_of_inside (if_pos signed.2.1) valid.cell
  have id : (BufferArg.plain .signed args.idAddr args.idLen).access mem =
      .ok ⟨args.cleared.idAddr, args.idLen⟩ :=
    BufferArg.access_of_inside (if_pos signed.2.2) valid.id
  show List.mapM (BufferArg.access mem)
    [.plain .signed args.dataAddr (args.cleared.data mem).len, .count args.dataLenAddr,
      .plain .signed args.idAddr args.idLen] = _
  rw [List.mapM_cons, data, List.mapM_cons, cell, List.mapM_cons, id]
  rfl

end Modelled

end TrustWasm.Native
