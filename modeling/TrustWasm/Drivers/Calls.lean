import TrustWasm.Drivers.Dht

/-!
# Driver calls and storage calls

The calls that cross from the request handlers and the synchronous services
into the drivers and into secure storage.  Buffers appear by content: a source
buffer by its bytes, or `none` for a null pointer, and a destination buffer
only by whether its pointer is null, because its address is the caller's
affair.
-/

namespace TrustWasm.Drivers

open TrustWasm.Lib TrustWasm.Tee

/-- A call of a driver function. -/
inductive DriverCall where
  | dhtRead (pin type : BitVec 32)
  | bh1750fviSample (dev : I2cDevice)
  | mpuSample (dev : I2cDevice) (isNull : Bool)
  | i2cAcquire (dev : BitVec 8)
  | i2cRelease (dev : BitVec 8)
  | i2cWriteBytes (dev : BitVec 8) (addr : BitVec 16) (data : Option (List Byte))
      (len : BitVec 16) (flags : BitVec 8)
  | i2cReadBytes (dev : BitVec 8) (addr : BitVec 16) (isNull : Bool) (len : BitVec 16)
      (flags : BitVec 8)
  | i2cReadRegs (dev : BitVec 8) (addr reg : BitVec 16) (isNull : Bool) (len : BitVec 16)
      (flags : BitVec 8)
  | spiAcquire (bus cs : BitVec 8) (mode clk : BitVec 32)
  | spiRelease (bus : BitVec 8)
  | spiTransferBytes (bus cs : BitVec 8) (cont : Bool) (out : Option (List Byte))
      (isNull : Bool) (len : BitVec 64)
  | at24cxxRead (dev : I2cDevice) (addr : BitVec 16) (isNull : Bool) (len : BitVec 32)
  | at24cxxWrite (dev : I2cDevice) (addr : BitVec 16) (data : Option (List Byte)) (len : BitVec 32)
  | tel0157GetGnssLen (dev : I2cDevice)
  | tel0157GetAllGnss (dev : I2cDevice) (len : BitVec 16)
  | tel0157GetUtcTime (dev : I2cDevice)
  | tel0157GetGnssMode (dev : I2cDevice)
  | tel0157GetNumSatUsed (dev : I2cDevice)
  | tel0157GetLon (dev : I2cDevice)
  | tel0157GetLat (dev : I2cDevice)
  | tel0157GetAlt (dev : I2cDevice)
  | tel0157GetSog (dev : I2cDevice)
  | tel0157GetCog (dev : I2cDevice)
  | atk301GetFingerprintImage (dev : I2cDevice)
  | atk301UploadFingerprintImage (dev : I2cDevice)
  deriving DecidableEq

/-- `periph_type_t`. -/
inductive PeriphType where
  | gpio
  | i2c
  | spi
  | secureStorage
  deriving DecidableEq

/-- The peripheral a call addresses: a pin or a bus. -/
def DriverCall.target : DriverCall → PeriphType × Nat
  | .dhtRead pin _ => (.gpio, pin.toNat)
  | .bh1750fviSample dev | .mpuSample dev _ | .at24cxxRead dev .. | .at24cxxWrite dev ..
  | .tel0157GetGnssLen dev | .tel0157GetAllGnss dev _ | .tel0157GetUtcTime dev
  | .tel0157GetGnssMode dev | .tel0157GetNumSatUsed dev | .tel0157GetLon dev
  | .tel0157GetLat dev | .tel0157GetAlt dev | .tel0157GetSog dev | .tel0157GetCog dev
  | .atk301GetFingerprintImage dev | .atk301UploadFingerprintImage dev => (.i2c, dev.i2c.toNat)
  | .i2cAcquire dev | .i2cRelease dev | .i2cWriteBytes dev .. | .i2cReadBytes dev ..
  | .i2cReadRegs dev .. => (.i2c, dev.toNat)
  | .spiAcquire bus .. | .spiRelease bus | .spiTransferBytes bus .. => (.spi, bus.toNat)

/-- A result code with no stores. -/
def Reply.ofResult (res : TeeResult) : Reply :=
  ⟨res, []⟩

/-- The driver function a call runs. -/
def DriverCall.program : DriverCall → Program Bus Reply
  | .dhtRead pin type => Dht.read pin type
  | .bh1750fviSample dev => Drivers.bh1750fviSample dev
  | .mpuSample dev isNull => Drivers.mpuSample dev isNull
  | .i2cAcquire dev => Reply.ofResult <$> Drivers.i2cAcquire dev
  | .i2cRelease dev => Reply.ofResult <$> Drivers.i2cRelease dev
  | .i2cWriteBytes dev addr data len flags =>
    Reply.ofResult <$> Drivers.i2cWriteBytes dev addr data len flags
  | .i2cReadBytes dev addr isNull len flags =>
    Transfer.toReply <$> Drivers.i2cReadBytes dev addr isNull len flags
  | .i2cReadRegs dev addr reg isNull len flags =>
    Transfer.toReply <$> Drivers.i2cReadRegs dev addr reg isNull len flags
  | .spiAcquire bus cs mode clk => Reply.ofResult <$> Drivers.spiAcquire bus cs mode clk
  | .spiRelease bus => Reply.ofResult <$> Drivers.spiRelease bus
  | .spiTransferBytes bus cs cont out isNull len =>
    Transfer.toReply <$> Drivers.spiTransferBytes bus cs cont out isNull len
  | .at24cxxRead dev addr isNull len => Drivers.at24cxxRead dev addr isNull len
  | .at24cxxWrite dev addr data len => Drivers.at24cxxWrite dev addr data len
  | .tel0157GetGnssLen dev => Tel0157.getGnssLen dev
  | .tel0157GetAllGnss dev len => Tel0157.getAllGnss dev len
  | .tel0157GetUtcTime dev => Tel0157.getUtcTime dev
  | .tel0157GetGnssMode dev => Tel0157.getGnssMode dev
  | .tel0157GetNumSatUsed dev => Tel0157.getNumSatUsed dev
  | .tel0157GetLon dev => Tel0157.getLon dev
  | .tel0157GetLat dev => Tel0157.getLat dev
  | .tel0157GetAlt dev => Tel0157.getAlt dev
  | .tel0157GetSog dev => Tel0157.getSog dev
  | .tel0157GetCog dev => Tel0157.getCog dev
  | .atk301GetFingerprintImage dev => Atk301.getFingerprintImage dev
  | .atk301UploadFingerprintImage dev => Atk301.uploadFingerprintImage dev

/-- The replies a driver call can give under some behaviour of the devices. -/
def DeviceAllows (call : DriverCall) (reply : Reply) : Prop :=
  call.program.Exec busSemantics () reply ()

/-- A call of secure storage by content; objects are 32-bit handles. -/
inductive StorageCall where
  | objCreate (id : List Byte)
  | objOpen (id : List Byte)
  | objGetInfo (obj : BitVec 32)
  | objRead (obj : BitVec 32) (size : BitVec 32)
  | objWrite (obj : BitVec 32) (data : List Byte)
  | objDel (obj : BitVec 32)
  | objClose (obj : BitVec 32)
  deriving DecidableEq

/-- The answer of a storage call: its code, the handle, data size or byte count
it returns, and the bytes it stores from the start of the caller's buffer. -/
structure StorageReply where
  res : TeeResult
  value : BitVec 64
  bytes : List Byte
  deriving DecidableEq

/-- The answers storage may give: a TEE code, and a read stores at most `size`
bytes and on success exactly as many as it counts. -/
def StorageAllows : StorageCall → StorageReply → Prop
  | .objRead _ size, reply =>
    Lawful reply.res ∧ reply.bytes.length ≤ size.toNat ∧
      (reply.res = teeSuccess → reply.value.toNat = reply.bytes.length)
  | _, reply => Lawful reply.res ∧ reply.bytes = []

end TrustWasm.Drivers
