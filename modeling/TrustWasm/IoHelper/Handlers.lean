import TrustWasm.IoHelper.Interface

/-!
# Request handlers

The worker loop of a peripheral runs `handleReq` on each request it takes from
the queue.  A handler calls its driver and leaves the outcome in the result
entry of the request's slot.  Handlers that differ only in their driver call,
their buffer size and their out-of-memory code are instances of
`handleSample` and of `handleI2cRead`; the others have bodies of their own.
-/

namespace TrustWasm.IoHelper

open TrustWasm.Lib TrustWasm.Tee TrustWasm.Drivers

def availableGpioNum : BitVec 16 := 28
def availableI2cNum : BitVec 16 := 2

def periphNoToGpio (periphNo : Nat) : BitVec 16 :=
  BitVec.ofNat 16 periphNo

def periphNoToI2c (periphNo : Nat) : BitVec 16 :=
  BitVec.ofNat 16 periphNo - availableGpioNum

def periphNoToSpi (periphNo : Nat) : BitVec 16 :=
  BitVec.ofNat 16 periphNo - availableGpioNum - availableI2cNum

/-- `(i2c_t)periph_no_to_i2c(periph_no)`. -/
def i2cOf (periphNo : Nat) : BitVec 8 :=
  (periphNoToI2c periphNo).setWidth 8

/-- `(spi_t)periph_no_to_spi(periph_no)`. -/
def spiOf (periphNo : Nat) : BitVec 8 :=
  (periphNoToSpi periphNo).setWidth 8

/-- The I2C device a handler addresses: the bus of its peripheral and the
address in the low byte of the given word. -/
def deviceOf (periphNo : Nat) (addr : BitVec 32) : I2cDevice :=
  ⟨i2cOf periphNo, addr.setWidth 8⟩

/-- Set the three fields of a result entry in the order of the code. -/
def publish (periphNo signo : Nat) (ret len : BitVec 32) (buf : Ptr) : Program Helper Unit := do
  setRet periphNo signo ret
  setLen periphNo signo len
  setBuf periphNo signo buf

/-- Allocate a result buffer of `size` bytes, let the driver fill it, and
publish it; a failed call frees it and publishes the code alone. -/
def handleSample (size : BitVec 32) (noMemory : TeeResult) (call : DriverCall)
    (req : IoReq) (periphNo : Nat) : Program Helper TeeResult := do
  let buf ← malloc size.toNat
  if buf = null then
    setRet periphNo req.signo noMemory
    return noMemory
  let res ← callDriver call buf
  if res ≠ teeSuccess then
    free buf
    setRet periphNo req.signo res
    return res
  publish periphNo req.signo size size buf
  return teeSuccess

def handleDhtRead (req : IoReq) (periphNo : Nat) : Program Helper TeeResult :=
  handleSample 4 teeErrorBadState
    (.dhtRead ((periphNoToGpio periphNo).setWidth 32) req.p0.a) req periphNo

def handleBh1750fviSample (req : IoReq) (periphNo : Nat) : Program Helper TeeResult :=
  handleSample 2 teeErrorBadState (.bh1750fviSample (deviceOf periphNo req.p0.a)) req periphNo

/-- `handle_mpu6050_sample` does not check the result of `malloc`. -/
def handleMpu6050Sample (req : IoReq) (periphNo : Nat) : Program Helper TeeResult := do
  let data ← malloc 14
  let res ← callDriver (.mpuSample (deviceOf periphNo req.p0.a) (data == null)) data
  if res ≠ teeSuccess then
    free data
    setRet periphNo req.signo res
    return res
  publish periphNo req.signo 14 14 data
  return teeSuccess

/-- The bytes of a memory reference passed to secure storage. -/
def memrefBytes (param : TeeParam) : Program Helper (List Byte) :=
  loadFrom param.buffer param.size.toNat 0

/-- A created object is closed when the write succeeds and deleted when it
fails; both argument buffers are freed on every path. -/
def handleWriteSecureObject (req : IoReq) (periphNo : Nat) : Program Helper TeeResult := do
  let id ← memrefBytes req.p0
  let created ← storage (.objCreate id)
  let res ←
    if created.res ≠ teeSuccess then
      pure created.res
    else do
      let obj := created.value.setWidth 32
      let data ← memrefBytes req.p1
      let written ← storage (.objWrite obj data)
      if written.res ≠ teeSuccess then
        let _ ← storage (.objDel obj)
      else
        let _ ← storage (.objClose obj)
      pure written.res
  publish periphNo req.signo res 0 null
  free req.p0.buffer
  free req.p1.buffer
  return res

/-- `handle_read_secure_object` up to its exit label. -/
def readSecureObject (req : IoReq) (periphNo : Nat) : Program Helper TeeResult := do
  let id ← memrefBytes req.p0
  let opened ← storage (.objOpen id)
  if opened.res ≠ teeSuccess then
    setRet periphNo req.signo opened.res
    return opened.res
  let obj := opened.value.setWidth 32
  let info ← storage (.objGetInfo obj)
  if info.res ≠ teeSuccess then
    setRet periphNo req.signo info.res
    return info.res
  let dataSize := info.value.setWidth 32
  let buf ← malloc dataSize.toNat
  if buf = null then
    setRet periphNo req.signo teeErrorOutOfMemory
    let _ ← storage (.objClose obj)
    return teeErrorOutOfMemory
  let read ← storage (.objRead obj dataSize)
  storeAll buf (storesFrom 0 read.bytes)
  let readBytes := read.value.setWidth 32
  if read.res ≠ teeSuccess then
    setRet periphNo req.signo read.res
    let _ ← storage (.objClose obj)
    free buf
    return read.res
  if dataSize ≠ readBytes then
    setRet periphNo req.signo teeErrorBadState
    let _ ← storage (.objClose obj)
    free buf
    return teeErrorBadState
  publish periphNo req.signo dataSize dataSize buf
  return read.res

/-- The identifier buffer is freed on every path; the object is closed only on
the failure paths after its size is known. -/
def handleReadSecureObject (req : IoReq) (periphNo : Nat) : Program Helper TeeResult := do
  let res ← readSecureObject req periphNo
  free req.p0.buffer
  return res

def handleI2cWriteBytes (req : IoReq) (periphNo : Nat) : Program Helper TeeResult := do
  let i2c := i2cOf periphNo
  let acquired ← callDriver (.i2cAcquire i2c) null
  if acquired ≠ teeSuccess then
    setRet periphNo req.signo acquired
    return acquired
  let data ← sourceBytes req.p0
  let res ← callDriver (.i2cWriteBytes i2c (req.p1.a.setWidth 16) data
    (req.p0.size.setWidth 16) (req.p1.b.setWidth 8)) null
  let _ ← callDriver (.i2cRelease i2c) null
  publish periphNo req.signo res 0 null
  free req.p0.buffer
  return res

/-- Allocate `size` bytes, then acquire the bus, read into the buffer, release
the bus and publish. -/
def handleI2cRead (size : BitVec 32) (call : DriverCall) (req : IoReq) (periphNo : Nat) :
    Program Helper TeeResult := do
  let i2c := i2cOf periphNo
  let buf ← malloc size.toNat
  if buf = null then
    setRet periphNo req.signo teeErrorOutOfMemory
    return teeErrorOutOfMemory
  let acquired ← callDriver (.i2cAcquire i2c) null
  if acquired ≠ teeSuccess then
    free buf
    setRet periphNo req.signo acquired
    return acquired
  let res ← callDriver call buf
  let _ ← callDriver (.i2cRelease i2c) null
  if res ≠ teeSuccess then
    free buf
    setRet periphNo req.signo res
    return res
  publish periphNo req.signo size size buf
  return teeSuccess

def handleI2cReadBytes (req : IoReq) (periphNo : Nat) : Program Helper TeeResult :=
  handleI2cRead req.p0.b
    (.i2cReadBytes (i2cOf periphNo) (req.p0.a.setWidth 16) false (req.p0.b.setWidth 16)
      (req.p1.a.setWidth 8)) req periphNo

def handleI2cReadRegs (req : IoReq) (periphNo : Nat) : Program Helper TeeResult :=
  handleI2cRead req.p1.a
    (.i2cReadRegs (i2cOf periphNo) (req.p0.a.setWidth 16) (req.p0.b.setWidth 16) false
      (req.p1.a.setWidth 16) (req.p1.b.setWidth 8)) req periphNo

/-- The transfer `handle_spi_transfer_bytes` asks for: write only when no read
length is given, read only when no source is given, and otherwise an exchange
over the length of the source. -/
def spiTransferCall (req : IoReq) (periphNo : Nat) (source : Option (List Byte)) : DriverCall :=
  let spi := spiOf periphNo
  let cs := req.p1.a.setWidth 8
  let cont := req.p1.b != 0
  if req.p2.b = 0 then
    .spiTransferBytes spi cs cont source true req.p0.size
  else if req.p0.size = 0 then
    .spiTransferBytes spi cs cont none false (req.p2.b.setWidth 64)
  else
    .spiTransferBytes spi cs cont source false req.p0.size

/-- The part of `handle_spi_transfer_bytes` after its read buffer is allocated;
`buf` is null when no read length is given. -/
def spiTransferWith (buf : Ptr) (req : IoReq) (periphNo : Nat) : Program Helper TeeResult := do
  let spi := spiOf periphNo
  let acquired ← callDriver (.spiAcquire spi (req.p1.a.setWidth 8)
    ((req.p2.a >>> 16) &&& 0xFFFF) (req.p2.a &&& 0xFFFF)) null
  if acquired ≠ teeSuccess then
    setRet periphNo req.signo acquired
    free buf
    return acquired
  let source ← sourceBytes req.p0
  let res ← callDriver (spiTransferCall req periphNo source) buf
  let _ ← callDriver (.spiRelease spi) null
  if res ≠ teeSuccess then
    free req.p0.buffer
    free buf
    setRet periphNo req.signo res
    return res
  publish periphNo req.signo req.p2.b req.p2.b buf
  free req.p0.buffer
  return teeSuccess

def handleSpiTransferBytes (req : IoReq) (periphNo : Nat) : Program Helper TeeResult :=
  if 0 < req.p2.b.toNat then do
    let buf ← malloc req.p2.b.toNat
    if buf = null then
      setRet periphNo req.signo teeErrorOutOfMemory
      return teeErrorOutOfMemory
    spiTransferWith buf req periphNo
  else
    spiTransferWith null req periphNo

def handleAt24cxxRead (req : IoReq) (periphNo : Nat) : Program Helper TeeResult :=
  handleSample req.p1.a teeErrorOutOfMemory
    (.at24cxxRead (deviceOf periphNo req.p0.a) (req.p0.b.setWidth 16) false req.p1.a)
    req periphNo

def handleAt24cxxWrite (req : IoReq) (periphNo : Nat) : Program Helper TeeResult := do
  let data ← sourceBytes req.p0
  let res ← callDriver (.at24cxxWrite (deviceOf periphNo req.p1.a) (req.p1.b.setWidth 16) data
    (req.p0.size.setWidth 32)) null
  publish periphNo req.signo res 0 null
  free req.p0.buffer
  return res

/-- The GNSS handlers: a fixed-size result of one driver call. -/
def handleTel0157 (size : BitVec 32) (call : I2cDevice → DriverCall) (req : IoReq)
    (periphNo : Nat) : Program Helper TeeResult :=
  handleSample size teeErrorOutOfMemory (call (deviceOf periphNo req.p0.a)) req periphNo

def handleTel0157GetGnssLen : IoReq → Nat → Program Helper TeeResult :=
  handleTel0157 2 .tel0157GetGnssLen

def handleTel0157GetAllGnss (req : IoReq) (periphNo : Nat) : Program Helper TeeResult :=
  handleTel0157 req.p0.b (fun dev => .tel0157GetAllGnss dev (req.p0.b.setWidth 16)) req periphNo

def handleTel0157GetUtcTime : IoReq → Nat → Program Helper TeeResult :=
  handleTel0157 Tel0157.timeSize .tel0157GetUtcTime

def handleTel0157GetGnssMode : IoReq → Nat → Program Helper TeeResult :=
  handleTel0157 1 .tel0157GetGnssMode

def handleTel0157GetNumSatUsed : IoReq → Nat → Program Helper TeeResult :=
  handleTel0157 1 .tel0157GetNumSatUsed

def handleTel0157GetLon : IoReq → Nat → Program Helper TeeResult :=
  handleTel0157 Tel0157.lonLatSize .tel0157GetLon

def handleTel0157GetLat : IoReq → Nat → Program Helper TeeResult :=
  handleTel0157 Tel0157.lonLatSize .tel0157GetLat

def handleTel0157GetAlt : IoReq → Nat → Program Helper TeeResult :=
  handleTel0157 3 .tel0157GetAlt

def handleTel0157GetSog : IoReq → Nat → Program Helper TeeResult :=
  handleTel0157 3 .tel0157GetSog

def handleTel0157GetCog : IoReq → Nat → Program Helper TeeResult :=
  handleTel0157 3 .tel0157GetCog

def handleAtk301GetFingerprintImage (req : IoReq) (periphNo : Nat) :
    Program Helper TeeResult := do
  let res ← callDriver (.atk301GetFingerprintImage (deviceOf periphNo req.p0.a)) null
  publish periphNo req.signo res 0 null
  return teeSuccess

def handleAtk301UploadFingerprintImage (req : IoReq) (periphNo : Nat) :
    Program Helper TeeResult :=
  handleSample Atk301.fingerprintImageDataLen teeErrorOutOfMemory
    (.atk301UploadFingerprintImage (deviceOf periphNo req.p0.a)) req periphNo

/-- `handle_req`; the types without a handler are not supported. -/
def handleReq (req : IoReq) (periphNo : Nat) : Program Helper TeeResult :=
  match req.type with
  | .dhtRead => handleDhtRead req periphNo
  | .bh1750fviSample => handleBh1750fviSample req periphNo
  | .mpu6050Sample => handleMpu6050Sample req periphNo
  | .writeSecureObject => handleWriteSecureObject req periphNo
  | .readSecureObject => handleReadSecureObject req periphNo
  | .i2cWriteBytes => handleI2cWriteBytes req periphNo
  | .i2cReadBytes => handleI2cReadBytes req periphNo
  | .i2cReadRegs => handleI2cReadRegs req periphNo
  | .spiTransferBytes => handleSpiTransferBytes req periphNo
  | .at24cxxRead => handleAt24cxxRead req periphNo
  | .at24cxxWrite => handleAt24cxxWrite req periphNo
  | .tel0157GetGnssLen => handleTel0157GetGnssLen req periphNo
  | .tel0157GetAllGnss => handleTel0157GetAllGnss req periphNo
  | .tel0157GetUtcTime => handleTel0157GetUtcTime req periphNo
  | .tel0157GetGnssMode => handleTel0157GetGnssMode req periphNo
  | .tel0157GetNumSatUsed => handleTel0157GetNumSatUsed req periphNo
  | .tel0157GetLon => handleTel0157GetLon req periphNo
  | .tel0157GetLat => handleTel0157GetLat req periphNo
  | .tel0157GetAlt => handleTel0157GetAlt req periphNo
  | .tel0157GetSog => handleTel0157GetSog req periphNo
  | .tel0157GetCog => handleTel0157GetCog req periphNo
  | .atk301GetFingerprintImage => handleAtk301GetFingerprintImage req periphNo
  | .atk301UploadFingerprintImage => handleAtk301UploadFingerprintImage req periphNo
  | .i2cWriteRegs | .spiTransferByte | .spiTransferDiffBytes | .bme280Sample
  | .bme280GetCalibration | .reqTypeNone | .other _ => do
    setRet periphNo req.signo teeErrorNotSupported
    return teeErrorNotSupported

/-- What the worker loop does with a request it has taken from the queue. -/
def serve (req : IoReq) (periphNo : Nat) : Program Helper Unit := do
  let _ ← handleReq req periphNo
  setReadySignal periphNo req.signo

end TrustWasm.IoHelper
