import TrustWasm.Drivers.Bus
import TrustWasm.Lib.Stores

/-!
# The device drivers

The sensor, positioning, memory and fingerprint drivers as programs over the
bus functions.  A driver that fills a buffer or a structure of its caller
answers with the stores it made, as offsets into that buffer in the order of
the stores; the caller applies them.  `DriverCall` collects the calls made by
the request handlers and by the synchronous services, and `DeviceAllows` is
what such a call may answer under any behaviour of the devices.
-/

namespace TrustWasm.Drivers

open TrustWasm.Lib TrustWasm.Tee Function

/-- The answer of a driver call: its code and its stores. -/
structure Reply where
  res : TeeResult
  out : List (Nat × Byte)
  deriving DecidableEq

/-- Stores of consecutive bytes from `offset` on. -/
def storesFrom (offset : Nat) : List Byte → List (Nat × Byte)
  | [] => []
  | byte :: rest => (offset, byte) :: storesFrom (offset + 1) rest

theorem storesFrom_append (offset : Nat) (first second : List Byte) :
    storesFrom offset (first ++ second) =
      storesFrom offset first ++ storesFrom (offset + first.length) second := by
  induction first generalizing offset with
  | nil => rfl
  | cons byte rest ih =>
    simp only [List.cons_append, storesFrom, ih, List.length_cons, Nat.add_assoc, Nat.add_comm 1]

/-- Consecutive bytes in memory. -/
theorem applyStores_storesFrom (memory : Nat → Byte) (start : Nat) (bytes : List Byte)
    (offset : Nat) :
    applyStores memory (storesFrom start bytes) offset =
      if offset < start then memory offset else bytes[offset - start]?.getD (memory offset) := by
  induction bytes generalizing memory start with
  | nil => simp [storesFrom]
  | cons byte rest ih =>
    refine (ih _ _).trans ?_
    rcases Nat.lt_trichotomy offset start with before | rfl | behind
    · rw [if_pos (by omega), if_pos before, update_of_ne (by omega)]
    · rw [if_pos (by omega), if_neg (by omega), update_self, Nat.sub_self]
      rfl
    · rw [if_neg (by omega), if_neg (by omega), update_of_ne (by omega),
        show offset - start = offset - (start + 1) + 1 by omega, List.getElem?_cons_succ]

/-- The bytes of a 16-bit and of a 32-bit word in memory order. -/
def bytes16 (word : BitVec 16) : List Byte :=
  [word.setWidth 8, (word >>> 8).setWidth 8]

def bytes32 (word : BitVec 32) : List Byte :=
  [word.setWidth 8, (word >>> 8).setWidth 8, (word >>> 16).setWidth 8, (word >>> 24).setWidth 8]

def Transfer.toReply (transfer : Transfer) : Reply :=
  ⟨transfer.res, storesFrom 0 transfer.bytes⟩

/-- An I2C device: its bus and its address. -/
structure I2cDevice where
  i2c : BitVec 8
  addr : BitVec 8
  deriving DecidableEq

/-- The 16-bit address the bus functions take. -/
def I2cDevice.busAddr (dev : I2cDevice) : BitVec 16 :=
  dev.addr.setWidth 16

/-- Acquire the bus, run the body, release the bus: the frame of every
`tel0157_get_*` function and of `mpu_sample`. -/
def withBus (i2c : BitVec 8) (body : Program Bus Reply) : Program Bus Reply := do
  let res ← i2cAcquire i2c
  if res ≠ teeSuccess then
    return ⟨res, []⟩
  let reply ← body
  let _ ← i2cRelease i2c
  return reply

/-! ## Light and motion sensors -/

/-- `bh1750fvi_sample`; the second acquire is not checked. -/
def bh1750fviSample (dev : I2cDevice) : Program Bus Reply := do
  let res ← i2cAcquire dev.i2c
  if res ≠ teeSuccess then
    return ⟨res, []⟩
  let res ← i2cWriteByte dev.i2c dev.busAddr 0x01 0
  if res ≠ teeSuccess then
    let _ ← i2cRelease dev.i2c
    return ⟨res, []⟩
  let res ← i2cWriteByte dev.i2c dev.busAddr 0x20 0
  if res ≠ teeSuccess then
    let _ ← i2cRelease dev.i2c
    return ⟨res, []⟩
  let _ ← i2cRelease dev.i2c
  let _ ← i2cAcquire dev.i2c
  let raw ← i2cReadBytes dev.i2c dev.busAddr false 2 0
  let _ ← i2cRelease dev.i2c
  if raw.res ≠ teeSuccess then
    return ⟨raw.res, []⟩
  let high := (raw.bytes.getD 0 0).setWidth 32
  let low := (raw.bytes.getD 1 0).setWidth 32
  let lux := ((high <<< 24) ||| (low <<< 16)) / 78642
  return ⟨teeSuccess, storesFrom 0 (bytes16 (lux.setWidth 16))⟩

/-- The register loop of `mpu_sample` from register `i` on. -/
def mpuSampleFrom (dev : I2cDevice) (isNull : Bool) : Nat → Nat → Program Bus Reply
  | 0, _ => return ⟨teeSuccess, []⟩
  | count + 1, i => do
    let read ← i2cReadReg dev.i2c dev.busAddr (BitVec.ofNat 16 (0x3B + i)) (isNull && i == 0) 0
    if read.res ≠ teeSuccess then
      return ⟨read.res, storesFrom i read.bytes⟩
    let rest ← mpuSampleFrom dev isNull count (i + 1)
    return ⟨rest.res, storesFrom i read.bytes ++ rest.out⟩

def mpuSample (dev : I2cDevice) (isNull : Bool) : Program Bus Reply :=
  withBus dev.i2c (mpuSampleFrom dev isNull 14 0)

/-! ## EEPROM -/

/-- `at24cxx_read`; the acquire is not checked and the 32-bit length is cut to
16 bits by the bus function. -/
def at24cxxRead (dev : I2cDevice) (addr : BitVec 16) (isNull : Bool) (len : BitVec 32) :
    Program Bus Reply := do
  let _ ← i2cAcquire dev.i2c
  let res ← i2cWriteBytes dev.i2c dev.busAddr (some [(addr >>> 8).setWidth 8, addr.setWidth 8]) 2 0
  if res ≠ teeSuccess then
    let _ ← i2cRelease dev.i2c
    return ⟨res, []⟩
  let read ← i2cReadBytes dev.i2c dev.busAddr isNull (len.setWidth 16) i2cCont
  let _ ← i2cRelease dev.i2c
  return read.toReply

def at24cxxWrite (dev : I2cDevice) (addr : BitVec 16) (data : Option (List Byte))
    (len : BitVec 32) : Program Bus Reply := do
  let _ ← i2cAcquire dev.i2c
  let res ← i2cWriteWithPrefix dev.i2c dev.busAddr
    [(addr >>> 8).setWidth 8, addr.setWidth 8] data (len.setWidth 16) 0
  let _ ← i2cRelease dev.i2c
  return ⟨res, []⟩

/-! ## GNSS receiver -/

namespace Tel0157

/-- Read registers straight into the caller's buffer. -/
def readInto (dev : I2cDevice) (reg len : BitVec 16) : Program Bus Reply := do
  let read ← i2cReadRegs dev.i2c dev.busAddr reg false len 0
  return read.toReply

/-- `tel0157_time_t`: year at 0, then month, date, hour, minute and second; the
structure is padded to eight bytes. -/
def timeSize : BitVec 32 := 8

/-- `tel0157_lon_lat_t`: two 32-bit words, then six bytes, padded to sixteen. -/
def lonLatSize : BitVec 32 := 16

def getDateInternal (dev : I2cDevice) : Program Bus Reply := do
  let date ← i2cReadRegs dev.i2c dev.busAddr 0 false 4 0
  if date.res ≠ teeSuccess then
    return ⟨date.res, []⟩
  let year := ((date.bytes.getD 0 0).setWidth 16 <<< 8) ||| (date.bytes.getD 1 0).setWidth 16
  return ⟨date.res, storesFrom 0 (bytes16 year) ++
    [(2, date.bytes.getD 2 0), (3, date.bytes.getD 3 0)]⟩

def getUtcInternal (dev : I2cDevice) : Program Bus Reply := do
  let utc ← i2cReadRegs dev.i2c dev.busAddr 4 false 3 0
  if utc.res ≠ teeSuccess then
    return ⟨utc.res, []⟩
  return ⟨utc.res, [(4, utc.bytes.getD 0 0), (5, utc.bytes.getD 1 0), (6, utc.bytes.getD 2 0)]⟩

def getUtcTime (dev : I2cDevice) : Program Bus Reply :=
  withBus dev.i2c do
    let date ← getDateInternal dev
    if date.res ≠ teeSuccess then
      return date
    let utc ← getUtcInternal dev
    return ⟨utc.res, date.out ++ utc.out⟩

/-- Degrees, minutes and direction of one coordinate: the registers they are
read from and the offsets of the fields they are stored to. -/
structure Coordinate where
  first : BitVec 16
  direction : BitVec 16
  minutesOffset : Nat
  degreesOffset : Nat
  directionOffset : Nat

def lon : Coordinate := ⟨13, 12, 0, 8, 12⟩
def lat : Coordinate := ⟨7, 18, 4, 10, 13⟩

/-- `tel0157_get_lon_internal` and `tel0157_get_lat_internal`. -/
def getCoordinateInternal (dev : I2cDevice) (field : Coordinate) : Program Bus Reply := do
  let read ← i2cReadRegs dev.i2c dev.busAddr field.first false 6 0
  if read.res ≠ teeSuccess then
    return ⟨read.res, []⟩
  let word (i : Nat) := (read.bytes.getD i 0).setWidth 32
  let minutes := (word 2 <<< 16) ||| (word 3 <<< 8) ||| word 4
  let stores := [(field.degreesOffset, read.bytes.getD 0 0),
    (field.degreesOffset + 1, read.bytes.getD 1 0)] ++
      storesFrom field.minutesOffset (bytes32 minutes)
  let direction ← i2cReadRegs dev.i2c dev.busAddr field.direction false 1 0
  if direction.res ≠ teeSuccess then
    return ⟨direction.res, stores⟩
  return ⟨direction.res, stores ++ [(field.directionOffset, direction.bytes.getD 0 0)]⟩

def getLon (dev : I2cDevice) : Program Bus Reply :=
  withBus dev.i2c (getCoordinateInternal dev lon)

def getLat (dev : I2cDevice) : Program Bus Reply :=
  withBus dev.i2c (getCoordinateInternal dev lat)

def getAlt (dev : I2cDevice) : Program Bus Reply :=
  withBus dev.i2c (readInto dev 20 3)

def getSog (dev : I2cDevice) : Program Bus Reply :=
  withBus dev.i2c (readInto dev 23 3)

def getCog (dev : I2cDevice) : Program Bus Reply :=
  withBus dev.i2c (readInto dev 26 3)

def getNumSatUsed (dev : I2cDevice) : Program Bus Reply :=
  withBus dev.i2c (readInto dev 19 1)

def getGnssMode (dev : I2cDevice) : Program Bus Reply :=
  withBus dev.i2c (readInto dev 34 1)

def getGnssLenInternal (dev : I2cDevice) : Program Bus Reply := do
  let res ← i2cWriteReg dev.i2c dev.busAddr 29 0x55 0
  if res ≠ teeSuccess then
    return ⟨res, []⟩
  let len ← i2cReadRegs dev.i2c dev.busAddr 31 false 2 0
  if len.res ≠ teeSuccess then
    return ⟨len.res, []⟩
  let word := ((len.bytes.getD 0 0).setWidth 16 <<< 8) ||| (len.bytes.getD 1 0).setWidth 16
  return ⟨len.res, storesFrom 0 (bytes16 word)⟩

def getGnssLen (dev : I2cDevice) : Program Bus Reply :=
  withBus dev.i2c (getGnssLenInternal dev)

/-- The stores that replace each NUL of a block by a newline. -/
def newlinesFrom (offset : Nat) : List Byte → List (Nat × Byte)
  | [] => []
  | byte :: rest =>
    if byte = 0 then (offset, 10) :: newlinesFrom (offset + 1) rest
    else newlinesFrom (offset + 1) rest

def getAllDataInternal (dev : I2cDevice) (len : BitVec 16) : Program Bus Transfer := do
  let res ← i2cWriteByte dev.i2c dev.busAddr 33 0
  if res ≠ teeSuccess then
    return ⟨res, []⟩
  i2cReadBytes dev.i2c dev.busAddr false len i2cCont

/-- The size of block `i` of `blocks`. -/
def blockSize (len blocks i : Nat) : Nat :=
  if i + 1 = blocks ∧ len % 32 ≠ 0 then len % 32 else 32

/-- The block loop of `tel0157_get_all_gnss_internal` from block `i` on. -/
def getAllGnssFrom (dev : I2cDevice) (len blocks : Nat) : Nat → Nat → Program Bus Reply
  | 0, _ => return ⟨teeSuccess, []⟩
  | count + 1, i => do
    let block ← getAllDataInternal dev (BitVec.ofNat 16 (blockSize len blocks i))
    if block.res ≠ teeSuccess then
      return ⟨block.res, storesFrom (32 * i) block.bytes⟩
    let rest ← getAllGnssFrom dev len blocks count (i + 1)
    return ⟨rest.res, storesFrom (32 * i) block.bytes ++ newlinesFrom (32 * i) block.bytes ++
      rest.out⟩

def getAllGnssInternal (dev : I2cDevice) (len : BitVec 16) : Program Bus Reply :=
  if 1024 + 200 < len.toNat ∨ len = 0 then
    return ⟨teeErrorBadParameters, []⟩
  else
    let blocks := (len.toNat + 31) / 32
    getAllGnssFrom dev len.toNat blocks blocks 0

def getAllGnss (dev : I2cDevice) (len : BitVec 16) : Program Bus Reply :=
  withBus dev.i2c (getAllGnssInternal dev len)

end Tel0157

/-! ## Fingerprint reader -/

namespace Atk301

def fingerprintImageDataLen : BitVec 32 := 12800

/-- Send a command and read the three head bytes of the answer; the first read
only triggers the answer and its result is dropped. -/
def exchangeHead (dev : I2cDevice) (command : Byte) : Program Bus Transfer := do
  let res ← i2cAcquire dev.i2c
  if res ≠ teeSuccess then
    return ⟨res, []⟩
  let res ← i2cWriteByte dev.i2c dev.busAddr command 0
  if res ≠ teeSuccess then
    let _ ← i2cRelease dev.i2c
    return ⟨res, []⟩
  let _ ← i2cRelease dev.i2c
  let _ ← i2cAcquire dev.i2c
  let _ ← i2cReadBytes dev.i2c dev.busAddr false 1 0
  let head ← i2cReadBytes dev.i2c dev.busAddr false 3 0
  let _ ← i2cRelease dev.i2c
  return head

def getFingerprintImage (dev : I2cDevice) : Program Bus Reply := do
  let head ← exchangeHead dev 0x02
  if head.res ≠ teeSuccess then
    return ⟨head.res, []⟩
  if head.bytes.getD 0 0 ≠ 0x01 then
    return ⟨teeErrorItemNotFound, []⟩
  return ⟨head.res, []⟩

/-- The block loop of `atk301_upload_fingerprint_image` from block `i` on. -/
def uploadFrom (dev : I2cDevice) : Nat → Nat → Program Bus Reply
  | 0, _ => return ⟨teeSuccess, []⟩
  | count + 1, i => do
    let block ← i2cReadBytes dev.i2c dev.busAddr false 160 0
    if block.res ≠ teeSuccess then
      return ⟨block.res, storesFrom (160 * i) block.bytes⟩
    let rest ← uploadFrom dev count (i + 1)
    return ⟨rest.res, storesFrom (160 * i) block.bytes ++ rest.out⟩

def uploadFingerprintImage (dev : I2cDevice) : Program Bus Reply := do
  let head ← exchangeHead dev 0x03
  if head.res ≠ teeSuccess then
    return ⟨head.res, []⟩
  if head.bytes.getD 0 0 ≠ 0x02 then
    return ⟨teeErrorNoData, []⟩
  let len := ((head.bytes.getD 1 0).setWidth 16 <<< 8) ||| (head.bytes.getD 2 0).setWidth 16
  if len ≠ fingerprintImageDataLen.setWidth 16 then
    return ⟨teeErrorNoData, []⟩
  let _ ← i2cAcquire dev.i2c
  let image ← uploadFrom dev 80 0
  let _ ← i2cRelease dev.i2c
  return image

end Atk301

end TrustWasm.Drivers
