import TrustWasm.Drivers.Board

/-!
# The synchronous services

Each peripheral has a pseudo trusted application whose commands run a transfer or a driver
function while the caller waits.  A command first compares the kinds of its parameters with
the ones it expects, and reads a parameter only as the kind it has then.  The words of a value
and the buffer of a memory reference therefore stand side by side here.  A command answers
with its code, with the parameters as it leaves them, and with its stores to the buffer of its
output parameter.
-/

namespace TrustWasm.Pta

open TrustWasm.Lib TrustWasm.Tee TrustWasm.Drivers

/-- A parameter: two words, and a buffer by its content, `none` for a null pointer. -/
structure ServiceParam where
  a : BitVec 32
  b : BitVec 32
  data : Option (List Byte)
  size : BitVec 64
  deriving DecidableEq

def ServiceParam.isNull (param : ServiceParam) : Bool :=
  param.data.isNone

structure ServiceParams where
  p0 : ServiceParam
  p1 : ServiceParam
  p2 : ServiceParam
  p3 : ServiceParam
  deriving DecidableEq

structure ServiceReply where
  res : TeeResult
  params : ServiceParams
  out : List (Nat × Byte)
  deriving DecidableEq

namespace ServiceParams

variable (params : ServiceParams)

/-- A code with the parameters left as they are. -/
def answer (res : TeeResult) : ServiceReply :=
  ⟨res, params, []⟩

/-- Success with a word in the first parameter. -/
def answerWord (word : BitVec 32) : ServiceReply :=
  ⟨teeSuccess, { params with p0 := { params.p0 with a := word } }, []⟩

/-- A code with stores to the output buffer. -/
def answerStores (reply : Reply) : ServiceReply :=
  ⟨reply.res, params, reply.out⟩

/-- `(i2c_t)params[0].value.a`. -/
def i2c : BitVec 8 :=
  params.p0.a.setWidth 8

/-- `(uint16_t)params[0].value.b`. -/
def i2cAddr : BitVec 16 :=
  params.p0.b.setWidth 16

/-- `(uint8_t)params[1].value.a`. -/
def i2cFlags : BitVec 8 :=
  params.p1.a.setWidth 8

/-- `(uint16_t)params[1].value.b`. -/
def i2cReg : BitVec 16 :=
  params.p1.b.setWidth 16

/-- The device of a driver command: bus and address in the first parameter. -/
def device : I2cDevice :=
  ⟨params.p0.a.setWidth 8, params.p0.b.setWidth 8⟩

/-- `(spi_t)((params[0].value.a >> 16) & 0xFFFF)`. -/
def spi : BitVec 8 :=
  ((params.p0.a >>> 16) &&& 0xFFFF).setWidth 8

/-- `(spi_cs_t)(params[0].value.a & 0xFFFF)`. -/
def spiCs : BitVec 8 :=
  (params.p0.a &&& 0xFFFF).setWidth 8

/-- `params[0].value.b > 0`. -/
def spiCont : Bool :=
  params.p0.b != 0

end ServiceParams

/-- The byte a list of stores leaves at an offset of a zeroed buffer. -/
def byteAt (out : List (Nat × Byte)) (offset : Nat) : Byte :=
  ((out.reverse.find? (·.1 == offset)).map Prod.snd).getD 0

/-- The 16-bit word a list of stores leaves at an offset. -/
def wordAt (out : List (Nat × Byte)) (offset : Nat) : BitVec 16 :=
  ((byteAt out (offset + 1)).setWidth 16 <<< 8) ||| (byteAt out offset).setWidth 16

/-! ## I2C service -/

/-- A command of the I2C service: the transfer runs between acquire and release. -/
def i2cCommand (expected types : BitVec 32) (params : ServiceParams)
    (transfer : Program Board Transfer) (reply : Transfer → ServiceReply) :
    Program Board ServiceReply :=
  if expected ≠ types then
    return params.answer teeErrorBadParameters
  else do
    let acquired ← onBoard (i2cAcquire params.i2c)
    if acquired ≠ teeSuccess then
      return params.answer teeErrorBadParameters
    let transferred ← transfer
    let _ ← onBoard (i2cRelease params.i2c)
    return reply transferred

/-- A transfer that fills no buffer. -/
def codeOnly (res : TeeResult) : Transfer :=
  ⟨res, []⟩

section I2c

variable (types : BitVec 32) (params : ServiceParams)

def i2cByteTypes : BitVec 32 :=
  teeParamTypes teeParamTypeValueInout teeParamTypeValueInput teeParamTypeNone teeParamTypeNone

def i2cReadTypes : BitVec 32 :=
  teeParamTypes teeParamTypeValueInput teeParamTypeValueInput teeParamTypeMemrefOutput
    teeParamTypeNone

def i2cWriteTypes : BitVec 32 :=
  teeParamTypes teeParamTypeValueInput teeParamTypeValueInput teeParamTypeMemrefInput
    teeParamTypeNone

/-- The answer of the commands that return a byte in the first parameter. -/
def ServiceParams.answerByte (read : Transfer) : ServiceReply :=
  if read.res ≠ teeSuccess then params.answer read.res
  else params.answerWord ((read.bytes.headD 0).setWidth 32)

def ptaI2cReadByte : Program Board ServiceReply :=
  i2cCommand i2cByteTypes types params
    (onBoard (i2cReadByte params.i2c params.i2cAddr false params.i2cFlags)) params.answerByte

def ptaI2cReadBytes : Program Board ServiceReply :=
  i2cCommand i2cReadTypes types params
    (onBoard (i2cReadBytes params.i2c params.i2cAddr params.p2.isNull (params.p2.size.setWidth 16)
      params.i2cFlags))
    fun read => params.answerStores read.toReply

def ptaI2cWriteByte : Program Board ServiceReply :=
  i2cCommand
    (teeParamTypes teeParamTypeValueInput teeParamTypeValueInput teeParamTypeNone
      teeParamTypeNone) types params
    (onBoard (codeOnly <$>
      i2cWriteByte params.i2c params.i2cAddr (params.p1.b.setWidth 8) params.i2cFlags))
    fun written => params.answer written.res

def ptaI2cWriteBytes : Program Board ServiceReply :=
  i2cCommand i2cWriteTypes types params
    (onBoard (codeOnly <$>
      i2cWriteBytes params.i2c params.i2cAddr params.p2.data (params.p2.size.setWidth 16)
        params.i2cFlags))
    fun written => params.answer written.res

def ptaI2cReadReg : Program Board ServiceReply :=
  i2cCommand i2cByteTypes types params
    (onBoard (i2cReadReg params.i2c params.i2cAddr params.i2cReg false params.i2cFlags))
    params.answerByte

def ptaI2cReadRegs : Program Board ServiceReply :=
  i2cCommand i2cReadTypes types params
    (onBoard (i2cReadRegs params.i2c params.i2cAddr params.i2cReg params.p2.isNull
      (params.p2.size.setWidth 16) params.i2cFlags))
    fun read => params.answerStores read.toReply

def ptaI2cWriteReg : Program Board ServiceReply :=
  i2cCommand
    (teeParamTypes teeParamTypeValueInput teeParamTypeValueInput teeParamTypeValueInput
      teeParamTypeNone) types params
    (onBoard (codeOnly <$>
      i2cWriteReg params.i2c params.i2cAddr params.i2cReg (params.p2.a.setWidth 8) params.i2cFlags))
    fun written => params.answer written.res

def ptaI2cWriteRegs : Program Board ServiceReply :=
  i2cCommand i2cWriteTypes types params
    (onBoard (codeOnly <$>
      i2cWriteRegs params.i2c params.i2cAddr params.i2cReg params.p2.data
        (params.p2.size.setWidth 16) params.i2cFlags))
    fun written => params.answer written.res

def i2cSpeedFastPlus : BitVec 32 := 3

def ptaI2cSetFreq : Program Board ServiceReply :=
  let expected := teeParamTypes teeParamTypeValueInput teeParamTypeNone teeParamTypeNone
    teeParamTypeNone
  if expected = types ∧ i2cSpeedFastPlus < params.p0.b then
    return params.answer teeErrorNotSupported
  else
    i2cCommand expected types params
      (codeOnly <$> i2cSetFrequency params.i2c params.p0.b)
      fun set => params.answer set.res

/-- Without the benchmark build there are no timestamps. -/
def ptaI2cGetOverheadTimestamp : ServiceReply :=
  if teeParamTypes teeParamTypeMemrefOutput teeParamTypeNone teeParamTypeNone teeParamTypeNone ≠
      types then
    params.answer teeErrorBadParameters
  else
    params.answer teeErrorNotImplemented

def i2cService (cmd : BitVec 32) : Program Board ServiceReply :=
  match cmd.toNat with
  | 0 => ptaI2cReadByte types params
  | 1 => ptaI2cReadBytes types params
  | 2 => ptaI2cWriteByte types params
  | 3 => ptaI2cWriteBytes types params
  | 4 => ptaI2cReadReg types params
  | 5 => ptaI2cReadRegs types params
  | 6 => ptaI2cWriteReg types params
  | 7 => ptaI2cWriteRegs types params
  | 8 => ptaI2cSetFreq types params
  | 9 => return ptaI2cGetOverheadTimestamp types params
  | _ => return params.answer teeErrorNotSupported

end I2c

/-! ## SPI service -/

/-- A command of the SPI service.  The kinds, the mode and the clock are checked first, then
what the command itself asks of its parameters. -/
def spiCommand (expected types : BitVec 32) (params : ServiceParams) (fits : Bool)
    (transfer : Program Board Transfer) (reply : Transfer → ServiceReply) :
    Program Board ServiceReply :=
  if types ≠ expected ∨ 3 < params.p1.a.toNat ∨ 5 < params.p1.b.toNat ∨ fits = false then
    return params.answer teeErrorBadParameters
  else do
    let acquired ← onBoard (spiAcquire params.spi params.spiCs params.p1.a params.p1.b)
    if acquired ≠ teeSuccess then
      return params.answer acquired
    let transferred ← transfer
    let _ ← onBoard (spiRelease params.spi)
    return reply transferred

section Spi

variable (types : BitVec 32) (params : ServiceParams)

/-- Whether to send and whether to receive are the words of the third parameter. -/
def ptaSpiTransferByte : Program Board ServiceReply :=
  let out := params.p3.a.setWidth 8
  spiCommand
    (teeParamTypes teeParamTypeValueInout teeParamTypeValueInput teeParamTypeValueInput
      teeParamTypeValueInput) types params true
    (if params.p2.a ≠ 0 ∧ params.p2.b ≠ 0 then
      spiTransferByte params.spi params.spiCs params.spiCont out false
    else if params.p2.a ≠ 0 ∧ params.p2.b = 0 then
      spiTransferByte params.spi params.spiCs params.spiCont out true
    else if params.p2.a = 0 ∧ params.p2.b ≠ 0 then
      spiTransferByte params.spi params.spiCs params.spiCont 0 false
    else
      return ⟨teeSuccess, []⟩)
    fun transferred =>
      if params.p2.b ≠ 0 ∧ transferred.res = teeSuccess then
        params.answerWord ((transferred.bytes.headD 0).setWidth 32)
      else
        params.answer transferred.res

def spiBytesTypes : BitVec 32 :=
  teeParamTypes teeParamTypeValueInput teeParamTypeValueInput teeParamTypeMemrefInput
    teeParamTypeMemrefOutput

/-- An exchange of the same number of bytes, or only a write, or only a read. -/
def ptaSpiTransferBytes : Program Board ServiceReply :=
  spiCommand spiBytesTypes types params
    (!(params.p2.size != 0 && params.p3.size != 0 && params.p2.size != params.p3.size))
    (if params.p2.size = params.p3.size ∧ params.p2.size ≠ 0 then
      onBoard (spiTransferBytes params.spi params.spiCs params.spiCont params.p2.data
        params.p3.isNull params.p2.size)
    else if params.p2.size ≠ 0 ∧ params.p3.size = 0 then
      onBoard (spiTransferBytes params.spi params.spiCs params.spiCont params.p2.data true
        params.p2.size)
    else if params.p3.size ≠ 0 ∧ params.p2.size = 0 then
      onBoard (spiTransferBytes params.spi params.spiCs params.spiCont none params.p3.isNull
        params.p3.size)
    else
      return ⟨teeSuccess, []⟩)
    fun transferred => params.answerStores transferred.toReply

def ptaSpiTransferDiffBytes : Program Board ServiceReply :=
  spiCommand spiBytesTypes types params true
    (spiTransferDiffBytes params.spi params.spiCs params.spiCont params.p2.data params.p3.isNull
      params.p2.size params.p3.size)
    fun transferred => params.answerStores transferred.toReply

def spiService (cmd : BitVec 32) : Program Board ServiceReply :=
  match cmd.toNat with
  | 0 => ptaSpiTransferByte types params
  | 1 => ptaSpiTransferBytes types params
  | 2 => ptaSpiTransferDiffBytes types params
  | _ => return params.answer teeErrorNotSupported

end Spi

/-! ## Device services -/

/-- A command that calls a driver after its checks. -/
def deviceCommand (expected types : BitVec 32) (params : ServiceParams) (fits : Bool)
    (run : Program Board Reply) (reply : Reply → ServiceReply) : Program Board ServiceReply :=
  if expected ≠ types ∨ fits = false then
    return params.answer teeErrorBadParameters
  else do
    let answered ← run
    return reply answered

def valueTypes : BitVec 32 :=
  teeParamTypes teeParamTypeValueInput teeParamTypeNone teeParamTypeNone teeParamTypeNone

def inoutTypes : BitVec 32 :=
  teeParamTypes teeParamTypeValueInout teeParamTypeNone teeParamTypeNone teeParamTypeNone

def valueOutputTypes : BitVec 32 :=
  teeParamTypes teeParamTypeValueInput teeParamTypeMemrefOutput teeParamTypeNone teeParamTypeNone

section Devices

variable (types : BitVec 32) (params : ServiceParams)

/-- A command that only reports a code. -/
def resultCommand (run : Program Bus Reply) : Program Board ServiceReply :=
  deviceCommand valueTypes types params true (onBoard run) fun reply => params.answer reply.res

/-- A command that fills its output buffer; `size` is the size it asks for, if any. -/
def outputCommand (size : Option (BitVec 64)) (call : DriverCall) : Program Board ServiceReply :=
  deviceCommand valueOutputTypes types params (size.all (· == params.p1.size))
    (onBoard call.program) params.answerStores

/-- A command that returns what its driver leaves in a variable. -/
def wordCommand (call : DriverCall) (word : List (Nat × Byte) → BitVec 32) :
    Program Board ServiceReply :=
  deviceCommand inoutTypes types params true (onBoard call.program) fun reply =>
    if reply.res ≠ teeSuccess then params.answer reply.res else params.answerWord (word reply.out)

def ptaAt24cxxRead : Program Board ServiceReply :=
  deviceCommand i2cReadTypes types params true
    (onBoard (DriverCall.at24cxxRead params.device (params.p1.a.setWidth 16) params.p2.isNull
      (params.p2.size.setWidth 32)).program) params.answerStores

def ptaAt24cxxWrite : Program Board ServiceReply :=
  deviceCommand i2cWriteTypes types params true
    (onBoard (DriverCall.at24cxxWrite params.device (params.p1.a.setWidth 16) params.p2.data
      (params.p2.size.setWidth 32)).program) fun reply => params.answer reply.res

def at24cxxService (cmd : BitVec 32) : Program Board ServiceReply :=
  match cmd.toNat with
  | 0 => ptaAt24cxxRead types params
  | 1 => ptaAt24cxxWrite types params
  | _ => return params.answer teeErrorBadParameters

def ptaBh1750fviInit : Program Board ServiceReply :=
  resultCommand types params (bh1750fviInit params.device)

def ptaBh1750fviSample : Program Board ServiceReply :=
  wordCommand types params (.bh1750fviSample params.device) fun out => (wordAt out 0).setWidth 32

def bh1750fviService (cmd : BitVec 32) : Program Board ServiceReply :=
  match cmd.toNat with
  | 0 => ptaBh1750fviInit types params
  | 1 => ptaBh1750fviSample types params
  | _ => return params.answer teeErrorNotSupported

def ptaMpu6050Init : Program Board ServiceReply :=
  resultCommand types params (mpuInit params.device)

def ptaMpu6050Deinit : Program Board ServiceReply :=
  resultCommand types params (mpuDeinit params.device)

def ptaMpu6050Sample : Program Board ServiceReply :=
  outputCommand types params (some 14) (.mpuSample params.device params.p1.isNull)

def mpu6050Service (cmd : BitVec 32) : Program Board ServiceReply :=
  match cmd.toNat with
  | 0 => ptaMpu6050Init types params
  | 1 => ptaMpu6050Deinit types params
  | 2 => ptaMpu6050Sample types params
  | _ => return params.answer teeErrorNotSupported

def ptaTel0157Init : Program Board ServiceReply :=
  deviceCommand
    (teeParamTypes teeParamTypeValueInput teeParamTypeValueInput teeParamTypeNone
      teeParamTypeNone) types params true
    (onBoard (Tel0157.init params.device (params.p1.a.setWidth 8) (params.p1.b.setWidth 8)))
    fun reply => params.answer reply.res

def ptaTel0157Deinit : Program Board ServiceReply :=
  resultCommand types params (Tel0157.deinit params.device)

def ptaTel0157GetUtcTime : Program Board ServiceReply :=
  outputCommand types params (some (Tel0157.timeSize.setWidth 64))
    (.tel0157GetUtcTime params.device)

def ptaTel0157GetLon : Program Board ServiceReply :=
  outputCommand types params (some (Tel0157.lonLatSize.setWidth 64)) (.tel0157GetLon params.device)

def ptaTel0157GetLat : Program Board ServiceReply :=
  outputCommand types params (some (Tel0157.lonLatSize.setWidth 64)) (.tel0157GetLat params.device)

def ptaTel0157GetAlt : Program Board ServiceReply :=
  outputCommand types params (some 3) (.tel0157GetAlt params.device)

def ptaTel0157GetSog : Program Board ServiceReply :=
  outputCommand types params (some 3) (.tel0157GetSog params.device)

def ptaTel0157GetCog : Program Board ServiceReply :=
  outputCommand types params (some 3) (.tel0157GetCog params.device)

def ptaTel0157GetNumSatUsed : Program Board ServiceReply :=
  wordCommand types params (.tel0157GetNumSatUsed params.device) fun out =>
    (byteAt out 0).setWidth 32

def ptaTel0157GetGnssMode : Program Board ServiceReply :=
  wordCommand types params (.tel0157GetGnssMode params.device) fun out => (byteAt out 0).setWidth 32

def ptaTel0157GetGnssLen : Program Board ServiceReply :=
  wordCommand types params (.tel0157GetGnssLen params.device) fun out => (wordAt out 0).setWidth 32

/-- The length is the size of the buffer cut to 16 bits. -/
def ptaTel0157GetAllGnss : Program Board ServiceReply :=
  outputCommand types params none (.tel0157GetAllGnss params.device (params.p1.size.setWidth 16))

def tel0157Service (cmd : BitVec 32) : Program Board ServiceReply :=
  match cmd.toNat with
  | 0 => ptaTel0157Init types params
  | 1 => ptaTel0157Deinit types params
  | 2 => ptaTel0157GetUtcTime types params
  | 3 => ptaTel0157GetLon types params
  | 4 => ptaTel0157GetLat types params
  | 5 => ptaTel0157GetAlt types params
  | 6 => ptaTel0157GetSog types params
  | 7 => ptaTel0157GetCog types params
  | 8 => ptaTel0157GetNumSatUsed types params
  | 9 => ptaTel0157GetGnssMode types params
  | 10 => ptaTel0157GetGnssLen types params
  | 11 => ptaTel0157GetAllGnss types params
  | _ => return params.answer teeErrorNotSupported

def ptaAtk301Init : Program Board ServiceReply :=
  resultCommand types params (Atk301.init params.device)

def ptaAtk301GetFingerprintImage : Program Board ServiceReply :=
  resultCommand types params (DriverCall.atk301GetFingerprintImage params.device).program

def ptaAtk301UploadFingerprintImage : Program Board ServiceReply :=
  outputCommand types params (some (Atk301.fingerprintImageDataLen.setWidth 64))
    (.atk301UploadFingerprintImage params.device)

def atk301Service (cmd : BitVec 32) : Program Board ServiceReply :=
  match cmd.toNat with
  | 0 => ptaAtk301Init types params
  | 1 => ptaAtk301GetFingerprintImage types params
  | 2 => ptaAtk301UploadFingerprintImage types params
  | _ => return params.answer teeErrorBadParameters

/-- `pta_dht_read` stores both readings whatever the driver answers; they are zero when it
stored nothing. -/
def ptaDhtRead : Program Board ServiceReply :=
  deviceCommand
    (teeParamTypes teeParamTypeValueInput teeParamTypeValueOutput teeParamTypeNone
      teeParamTypeNone) types params true
    (onBoard (DriverCall.dhtRead params.p0.a params.p0.b).program) fun reply =>
      ⟨reply.res, { params with p1 := { params.p1 with
        a := (wordAt reply.out 0).signExtend 32
        b := (wordAt reply.out 2).signExtend 32 } }, []⟩

end Devices

/-! ## Flash service -/

section Flash

variable (polls : W25qxx.Polls) (types : BitVec 32) (params : ServiceParams)

/-- `(spi_t)params[0].value.a` and `(spi_cs_t)params[0].value.b`. -/
def flashCommand (expected : BitVec 32) (call : W25qxx.Call) (reply : Reply → ServiceReply) :
    Program Board ServiceReply :=
  deviceCommand expected types params true
    (call.program polls (params.p0.a.setWidth 8) (params.p0.b.setWidth 8)) reply

def ptaW25qxxInit : Program Board ServiceReply :=
  flashCommand polls types params valueTypes .init fun reply => params.answer reply.res

/-- The identifier is read into a variable that is not set before. -/
def ptaW25qxxReadId (id : BitVec 16) : Program Board ServiceReply :=
  flashCommand polls types params inoutTypes (.readId id) fun reply =>
    if reply.res ≠ teeSuccess then params.answer reply.res
    else params.answerWord ((wordAt reply.out 0).setWidth 32)

def ptaW25qxxReadData : Program Board ServiceReply :=
  flashCommand polls types params i2cReadTypes
    (.readData params.p2.isNull params.p1.a (params.p2.size.setWidth 32)) params.answerStores

def ptaW25qxxPageProgram : Program Board ServiceReply :=
  flashCommand polls types params i2cWriteTypes
    (.pageProgram params.p2.data params.p1.a (params.p2.size.setWidth 32)) fun reply =>
      params.answer reply.res

def sectorEraseTypes : BitVec 32 :=
  teeParamTypes teeParamTypeValueInput teeParamTypeValueInput teeParamTypeNone teeParamTypeNone

def ptaW25qxxSectorErase : Program Board ServiceReply :=
  flashCommand polls types params sectorEraseTypes (.sectorErase params.p1.a) fun reply =>
    params.answer reply.res

def ptaW25qxxChipErase : Program Board ServiceReply :=
  flashCommand polls types params valueTypes .chipErase fun reply => params.answer reply.res

/-- `id` is what the stack holds where `pta_w25qxx_read_id` puts its variable. -/
def w25qxxService (id : BitVec 16) (cmd : BitVec 32) : Program Board ServiceReply :=
  match cmd.toNat with
  | 0 => ptaW25qxxInit polls types params
  | 1 => ptaW25qxxReadId polls types params id
  | 2 => ptaW25qxxReadData polls types params
  | 3 => ptaW25qxxPageProgram polls types params
  | 4 => ptaW25qxxSectorErase polls types params
  | 5 => ptaW25qxxChipErase polls types params
  | _ => return params.answer teeErrorNotSupported

end Flash

end TrustWasm.Pta
