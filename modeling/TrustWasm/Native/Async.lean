import TrustWasm.IoHelper.Shape
import TrustWasm.Native.Memory

/-!
# Asynchronous native functions

An asynchronous function checks its arguments and submits a request to the io_helper
under the number of its peripheral: 28 pins come first, then two I2C buses, the SPI
bus and secure storage.  The handler that serves the request makes the pin or bus of
that number again.  The callback form of a function registers a handler for the slot
it is answered with, the future form returns the slot and the promise form returns
the peripheral with it; up to the answer of the io_helper the forms are the same.
-/

namespace TrustWasm.Native

open TrustWasm.Lib TrustWasm.Tee TrustWasm.Drivers TrustWasm.IoHelper

def maxGpioPinNum : BitVec 32 := 27
def maxI2cNum : BitVec 32 := 1
def maxSpiNum : BitVec 32 := 0

/-- `tzio_periph_to_io_signal_no`. -/
def tzioPeriphToIoSignalNo (periphType : PeriphType) (periphNo : BitVec 32) : BitVec 32 :=
  match periphType with
  | .gpio => periphNo &&& 0x3f
  | .i2c => (periphNo + 28) &&& 0x3f
  | .spi => (periphNo + 30) &&& 0x3f
  | .secureStorage => (periphNo + 31) &&& 0x3f

/-- `(uint16_t)periph_to_pta_periph_no(type, no)`, widened for the parameter. -/
def ptaPeriphNo (periphType : PeriphType) (periphNo : BitVec 32) : BitVec 32 :=
  ((tzioPeriphToIoSignalNo periphType periphNo).setWidth 16).setWidth 32

/-- The code of an enumerator. -/
def reqCode (type : IoReqType) : BitVec 32 :=
  BitVec.ofNat 32 (IoReqType.enumerators.idxOf type)

/-! ## Operations -/

/-- The operations that have an asynchronous form, with the arguments of that form. -/
inductive Operation where
  | dhtRead (pin dhtType : BitVec 32)
  | bh1750fviSample (i2cNo i2cAddr : BitVec 32)
  | mpu6050Sample (i2cNo i2cAddr : BitVec 32)
  | atk301GetFingerprintImage (i2cNo i2cAddr : BitVec 32)
  | atk301UploadFingerprintImage (i2cNo i2cAddr : BitVec 32)
  | i2cReadBytes (i2cNo i2cAddr flags readLen : BitVec 32)
  | i2cWriteBytes (i2cNo i2cAddr flags srcBufAddr bufLen : BitVec 32)
  | i2cReadRegs (i2cNo i2cAddr flags reg readLen : BitVec 32)
  | spiTransferBytes (spiNo spiCsNo cont mode freq srcLen dstLen srcBufAddr : BitVec 32)
  | writeSecureObject (idAddr idLen dataAddr dataLen : BitVec 32)
  | readSecureObject (idAddr idLen : BitVec 32)
  | at24cxxRead (i2cNo i2cAddr readAddr readLen : BitVec 32)
  | at24cxxWrite (i2cNo i2cAddr writeAddr srcBufAddr srcLen : BitVec 32)
  | tel0157GetGnssLen (i2cNo i2cAddr : BitVec 32)
  | tel0157GetAllGnss (i2cNo i2cAddr gnssLen : BitVec 32)
  | tel0157GetUtcTime (i2cNo i2cAddr : BitVec 32)
  | tel0157GetGnssMode (i2cNo i2cAddr : BitVec 32)
  | tel0157GetNumSatUsed (i2cNo i2cAddr : BitVec 32)
  | tel0157GetLon (i2cNo i2cAddr : BitVec 32)
  | tel0157GetLat (i2cNo i2cAddr : BitVec 32)
  | tel0157GetAlt (i2cNo i2cAddr : BitVec 32)
  | tel0157GetSog (i2cNo i2cAddr : BitVec 32)
  | tel0157GetCog (i2cNo i2cAddr : BitVec 32)
  deriving DecidableEq

namespace Operation

/-- The peripheral an operation names: its type and the number given for it. -/
def periph : Operation → PeriphType × BitVec 32
  | dhtRead pin _ => (.gpio, pin)
  | spiTransferBytes spiNo .. => (.spi, spiNo)
  | writeSecureObject .. | readSecureObject .. => (.secureStorage, 0)
  | bh1750fviSample i2cNo _ | mpu6050Sample i2cNo _ | atk301GetFingerprintImage i2cNo _
  | atk301UploadFingerprintImage i2cNo _ | i2cReadBytes i2cNo .. | i2cWriteBytes i2cNo ..
  | i2cReadRegs i2cNo .. | at24cxxRead i2cNo .. | at24cxxWrite i2cNo ..
  | tel0157GetGnssLen i2cNo _ | tel0157GetAllGnss i2cNo .. | tel0157GetUtcTime i2cNo _
  | tel0157GetGnssMode i2cNo _ | tel0157GetNumSatUsed i2cNo _ | tel0157GetLon i2cNo _
  | tel0157GetLat i2cNo _ | tel0157GetAlt i2cNo _ | tel0157GetSog i2cNo _
  | tel0157GetCog i2cNo _ => (.i2c, i2cNo)

def reqType : Operation → IoReqType
  | dhtRead .. => .dhtRead
  | bh1750fviSample .. => .bh1750fviSample
  | mpu6050Sample .. => .mpu6050Sample
  | atk301GetFingerprintImage .. => .atk301GetFingerprintImage
  | atk301UploadFingerprintImage .. => .atk301UploadFingerprintImage
  | i2cReadBytes .. => .i2cReadBytes
  | i2cWriteBytes .. => .i2cWriteBytes
  | i2cReadRegs .. => .i2cReadRegs
  | spiTransferBytes .. => .spiTransferBytes
  | writeSecureObject .. => .writeSecureObject
  | readSecureObject .. => .readSecureObject
  | at24cxxRead .. => .at24cxxRead
  | at24cxxWrite .. => .at24cxxWrite
  | tel0157GetGnssLen .. => .tel0157GetGnssLen
  | tel0157GetAllGnss .. => .tel0157GetAllGnss
  | tel0157GetUtcTime .. => .tel0157GetUtcTime
  | tel0157GetGnssMode .. => .tel0157GetGnssMode
  | tel0157GetNumSatUsed .. => .tel0157GetNumSatUsed
  | tel0157GetLon .. => .tel0157GetLon
  | tel0157GetLat .. => .tel0157GetLat
  | tel0157GetAlt .. => .tel0157GetAlt
  | tel0157GetSog .. => .tel0157GetSog
  | tel0157GetCog .. => .tel0157GetCog

/-! ## Requests -/

/-- The test of a pin or bus number. -/
def checkNo (no max : BitVec 32) : Except TeeResult Unit :=
  if max < no then .error teeErrorBadParameters else .ok ()

/-- The first parameter of every submission. -/
def reqParam (op : Operation) : TeeParam :=
  .value (ptaPeriphNo op.periph.1 op.periph.2) (reqCode op.reqType)

/-- A READ_REQ; the parameters are zero where nothing is assigned. -/
def readRequest (op : Operation) (uninit : Ptr) (p1 p2 : TeeParam) : Submission where
  cmd := .readReq
  paramTypes := readReqTypes
  params := ⟨op.reqParam, p1, p2, .value 0 0⟩
  uninit := uninit

/-- A WRITE_REQ with one source buffer. -/
def writeRequest (op : Operation) (uninit : Ptr) (src p2 p3 : TeeParam) : Submission where
  cmd := .writeReq
  paramTypes := bufferReqTypes
  params := ⟨op.reqParam, src, p2, p3⟩
  uninit := uninit

/-- What an asynchronous function submits, or the code it returns at once.  The
functions of the GNSS module do not test the number of the bus.  `uninit` is the
stack content WRITE_REQ will meet. -/
def request (mem : Linear) (uninit : Ptr) (op : Operation) : Except TeeResult Submission :=
  match op with
  | dhtRead pin dhtType => do
    checkNo pin maxGpioPinNum
    return op.readRequest uninit (.value dhtType 0) (.value 0 0)
  | bh1750fviSample i2cNo i2cAddr | mpu6050Sample i2cNo i2cAddr
  | atk301GetFingerprintImage i2cNo i2cAddr | atk301UploadFingerprintImage i2cNo i2cAddr => do
    checkNo i2cNo maxI2cNum
    return op.readRequest uninit (.value i2cAddr 0) (.value 0 0)
  | i2cReadBytes i2cNo i2cAddr flags readLen => do
    checkNo i2cNo maxI2cNum
    return op.readRequest uninit (.value i2cAddr readLen) (.value flags 0)
  | i2cWriteBytes i2cNo i2cAddr flags srcBufAddr bufLen => do
    let addr ← signedArg srcBufAddr
    checkNo i2cNo maxI2cNum
    let src ← mem.validated addr bufLen
    return op.writeRequest uninit (mem.memref src) (.value i2cAddr flags) (.value 0 0)
  | i2cReadRegs i2cNo i2cAddr flags reg readLen => do
    checkNo i2cNo maxI2cNum
    return op.readRequest uninit (.value i2cAddr reg) (.value readLen flags)
  | spiTransferBytes spiNo spiCsNo cont mode freq srcLen dstLen srcBufAddr => do
    let addr ← signedArg srcBufAddr
    checkNo spiNo maxSpiNum
    let src ← mem.validated addr srcLen
    return op.writeRequest uninit (mem.memref src) (.value spiCsNo cont)
      (.value ((mode <<< 16) ||| (freq &&& 0xFFFF)) dstLen)
  | writeSecureObject idAddr idLen dataAddr dataLen => do
    let idAddr ← signedArg idAddr
    let dataAddr ← signedArg dataAddr
    let data ← mem.validated dataAddr dataLen
    let id ← mem.validated idAddr idLen
    return {
      cmd := .writeReqWithBuffer
      paramTypes := twoBufferReqTypes
      params := ⟨op.reqParam, mem.memref id, mem.memref data, .value 0 0⟩
      uninit := uninit }
  | readSecureObject idAddr idLen => do
    let idAddr ← signedArg idAddr
    let id ← mem.validated idAddr idLen
    return {
      cmd := .readReqWithBuffer
      paramTypes := bufferReqTypes
      params := ⟨op.reqParam, mem.memref id, .value 0 0, .value 0 0⟩
      uninit := uninit }
  | at24cxxRead i2cNo i2cAddr readAddr readLen => do
    checkNo i2cNo maxI2cNum
    return op.readRequest uninit (.value i2cAddr readAddr) (.value readLen 0)
  | at24cxxWrite i2cNo i2cAddr writeAddr srcBufAddr srcLen => do
    let addr ← signedArg srcBufAddr
    checkNo i2cNo maxI2cNum
    let src ← mem.validated addr srcLen
    return op.writeRequest uninit (mem.memref src) (.value i2cAddr writeAddr) (.value 0 0)
  | tel0157GetAllGnss _ i2cAddr gnssLen =>
    return op.readRequest uninit (.value i2cAddr gnssLen) (.value 0 0)
  | tel0157GetGnssLen _ i2cAddr | tel0157GetUtcTime _ i2cAddr | tel0157GetGnssMode _ i2cAddr
  | tel0157GetNumSatUsed _ i2cAddr | tel0157GetLon _ i2cAddr | tel0157GetLat _ i2cAddr
  | tel0157GetAlt _ i2cAddr | tel0157GetSog _ i2cAddr | tel0157GetCog _ i2cAddr =>
    return op.readRequest uninit (.value i2cAddr 0) (.value 0 0)

end Operation

/-! ## Checks -/

theorem bind_eq_ok {α β : Type} {first : Except TeeResult α} {rest : α → Except TeeResult β}
    {result : β} :
    (first >>= rest) = .ok result ↔ ∃ value, first = .ok value ∧ rest value = .ok result := by
  cases first with
  | error code => simp [bind, Except.bind]
  | ok value => simp [bind, Except.bind]

theorem checkNo_eq_ok {no max : BitVec 32} :
    Operation.checkNo no max = .ok () ↔ no.toNat ≤ max.toNat := by
  unfold Operation.checkNo
  split
  · rename_i large
    rw [BitVec.lt_def] at large
    simp only [reduceCtorEq, false_iff]
    omega
  · rename_i small
    rw [BitVec.lt_def] at small
    simp only [true_iff]
    omega

/-- An early return carries an error code. -/
def Fails {α : Type} (checked : Except TeeResult α) : Prop :=
  ∀ code, checked = .error code → code ≠ teeSuccess

theorem fails_ok {α : Type} (value : α) : Fails (.ok value) :=
  nofun

theorem fails_bind {α β : Type} {first : Except TeeResult α} {rest : α → Except TeeResult β}
    (failsFirst : Fails first) (failsRest : ∀ value, Fails (rest value)) :
    Fails (first >>= rest) := by
  cases first with
  | error code =>
    rintro _ ⟨⟩
    exact failsFirst code rfl
  | ok value => exact failsRest value

theorem checkNo_fails (no max : BitVec 32) : Fails (Operation.checkNo no max) := by
  unfold Operation.checkNo
  split
  · rintro _ ⟨⟩
    decide
  · exact fails_ok ()

theorem signedArg_fails (ptr : BitVec 32) : Fails (signedArg ptr) := by
  unfold signedArg
  split
  · exact fails_ok _
  · rintro _ ⟨⟩
    decide

theorem validated_fails (mem : Linear) (addr len : BitVec 32) : Fails (mem.validated addr len) := by
  unfold Linear.validated
  split
  · exact fails_ok _
  · rintro _ ⟨⟩
    decide

theorem request_fails (op : Operation) (mem : Linear) (uninit : Ptr) :
    Fails (op.request mem uninit) := by
  cases op with
  | dhtRead | bh1750fviSample | mpu6050Sample | atk301GetFingerprintImage
  | atk301UploadFingerprintImage | i2cReadBytes | i2cReadRegs | at24cxxRead =>
    exact fails_bind (checkNo_fails _ _) fun _ => fails_ok _
  | i2cWriteBytes | spiTransferBytes | at24cxxWrite =>
    exact fails_bind (signedArg_fails _) fun _ => fails_bind (checkNo_fails _ _) fun _ =>
      fails_bind (validated_fails _ _ _) fun _ => fails_ok _
  | writeSecureObject =>
    exact fails_bind (signedArg_fails _) fun _ => fails_bind (signedArg_fails _) fun _ =>
      fails_bind (validated_fails _ _ _) fun _ => fails_bind (validated_fails _ _ _) fun _ =>
        fails_ok _
  | readSecureObject =>
    exact fails_bind (signedArg_fails _) fun _ => fails_bind (validated_fails _ _ _) fun _ =>
      fails_ok _
  | tel0157GetGnssLen | tel0157GetAllGnss | tel0157GetUtcTime | tel0157GetGnssMode
  | tel0157GetNumSatUsed | tel0157GetLon | tel0157GetLat | tel0157GetAlt | tel0157GetSog
  | tel0157GetCog => exact fails_ok _

/-! ## Functions -/

/-- The forms of an asynchronous function. -/
inductive Form where
  | async (handlerFuncPtr : BitVec 32)
  | asyncFuture
  | asyncPromise
  deriving DecidableEq

/-- The forms an operation is exported in: all have a future, thirteen a callback and
one a promise. -/
def Operation.exports : Operation → Form → Bool
  | _, .asyncFuture => true
  | .dhtRead .., .async _ | .at24cxxRead .., .async _ | .at24cxxWrite .., .async _
  | .i2cReadBytes .., .async _ | .i2cReadRegs .., .async _ | .bh1750fviSample .., .async _
  | .mpu6050Sample .., .async _ | .atk301GetFingerprintImage .., .async _
  | .atk301UploadFingerprintImage .., .async _ | .tel0157GetUtcTime .., .async _
  | .tel0157GetLon .., .async _ | .tel0157GetLat .., .async _ | .tel0157GetAlt .., .async _ => true
  | .dhtRead .., .asyncPromise => true
  | _, _ => false

/-- A call of an exported asynchronous function. -/
structure AsyncCall where
  op : Operation
  form : Form
  exported : op.exports form = true
  deriving DecidableEq

end TrustWasm.Native
