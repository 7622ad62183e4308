import TrustWasm.Drivers.Calls

/-!
# The other bus functions and the drivers on them

The synchronous services and the flash driver also use bus functions that no request handler
calls: setting the frequency of an I2C bus, and the other forms of an SPI transfer.  `Board`
adds them to the bus functions, and a driver over the bus functions is a driver over `Board`.
The functions that start and stop a device and the flash driver are modelled here.
-/

namespace TrustWasm.Drivers

open TrustWasm.Lib TrustWasm.Tee

/-- A call of a function of the board. -/
inductive BoardOp where
  | bus (op : BusOp)
  | i2cSetFrequency (dev : BitVec 8) (freq : BitVec 32)
  | spiTransferByte (bus cs : BitVec 8) (cont : Bool) (out : Byte) (isNull : Bool)
  | spiTransferDiffBytes (bus cs : BitVec 8) (cont : Bool) (out : Option (List Byte))
      (isNull : Bool) (outLen inLen : BitVec 64)
  | spiTransferRegs (bus cs : BitVec 8) (reg : Byte) (out : Option (List Byte)) (isNull : Bool)
      (len : BitVec 64)
  deriving DecidableEq

/-- The functions of the board as an interface. -/
abbrev Board : Interface where
  Op := BoardOp
  Reply
    | .bus op => Bus.Reply op
    | .i2cSetFrequency .. => TeeResult
    | .spiTransferByte .. | .spiTransferDiffBytes .. | .spiTransferRegs .. => Transfer

/-- A program of bus functions, as one of functions of the board. -/
def onBoard {α : Type} (program : Program Bus α) : Program Board α :=
  program.translate fun op => Program.perform (I := Board) (.bus op)

def i2cSetFrequency (dev : BitVec 8) (freq : BitVec 32) : Program Board TeeResult :=
  Program.perform (I := Board) (.i2cSetFrequency dev freq)

def spiTransferByte (bus cs : BitVec 8) (cont : Bool) (out : Byte) (isNull : Bool) :
    Program Board Transfer :=
  Program.perform (I := Board) (.spiTransferByte bus cs cont out isNull)

def spiTransferDiffBytes (bus cs : BitVec 8) (cont : Bool) (out : Option (List Byte))
    (isNull : Bool) (outLen inLen : BitVec 64) : Program Board Transfer :=
  Program.perform (I := Board) (.spiTransferDiffBytes bus cs cont out isNull outLen inLen)

def spiTransferRegs (bus cs : BitVec 8) (reg : Byte) (out : Option (List Byte)) (isNull : Bool)
    (len : BitVec 64) : Program Board Transfer :=
  Program.perform (I := Board) (.spiTransferRegs bus cs reg out isNull len)

/-! ## Starting and stopping a device -/

def bh1750fviInit (dev : I2cDevice) : Program Bus Reply :=
  withBus dev.i2c do
    let res ← i2cWriteByte dev.i2c dev.busAddr 0x00 0
    return ⟨if res ≠ teeSuccess then teeErrorItemNotFound else teeSuccess, []⟩

/-- Register writes one after the other, up to the first that fails. -/
def writeRegs (dev : I2cDevice) : List (BitVec 16 × Byte) → Program Bus TeeResult
  | [] => return teeSuccess
  | (reg, data) :: rest => do
    let res ← i2cWriteReg dev.i2c dev.busAddr reg data 0
    if res ≠ teeSuccess then
      return res
    writeRegs dev rest

def mpu6050I2cAddr : Byte := 0x68

/-- `mpu_init`: reset, sample rate, filter and ranges, then the identifier of the device, and
last the clock. -/
def mpuInit (dev : I2cDevice) : Program Bus Reply :=
  withBus dev.i2c do
    let res ← writeRegs dev
      [(0x6B, 0x80), (0x68, 0x07), (0x19, 0x00), (0x1A, 0x07), (0x1B, 0x00), (0x1C, 0x00)]
    if res ≠ teeSuccess then
      return ⟨res, []⟩
    let read ← i2cReadReg dev.i2c dev.busAddr 0x75 false 0
    if read.res ≠ teeSuccess then
      return ⟨read.res, []⟩
    if read.bytes ≠ [mpu6050I2cAddr] then
      return ⟨teeErrorItemNotFound, []⟩
    let res ← writeRegs dev [(0x6B, 0x01)]
    return ⟨res, []⟩

def mpuDeinit (dev : I2cDevice) : Program Bus Reply :=
  withBus dev.i2c (Reply.ofResult <$> writeRegs dev [(0x6B, 0x40)])

namespace Tel0157

def sleepModeReg : BitVec 16 := 35
def gnssModeReg : BitVec 16 := 34
def rgbModeReg : BitVec 16 := 36

/-- `tel0157_set_gnss_mode_internal`; the modes are 1 to 7. -/
def setGnssModeInternal (dev : I2cDevice) (gnssMode : Byte) : Program Bus TeeResult :=
  if 7 < gnssMode.toNat then
    return teeErrorNotSupported
  else
    i2cWriteReg dev.i2c dev.busAddr gnssModeReg gnssMode 0

def setRgbInternal (dev : I2cDevice) (rgb : Byte) : Program Bus TeeResult :=
  i2cWriteReg dev.i2c dev.busAddr rgbModeReg (if rgb ≠ 0 then 0x05 else 0x02) 0

def init (dev : I2cDevice) (gnssMode rgb : Byte) : Program Bus Reply :=
  withBus dev.i2c do
    let res ← i2cWriteReg dev.i2c dev.busAddr sleepModeReg 0 0
    if res ≠ teeSuccess then
      return ⟨res, []⟩
    let res ← setGnssModeInternal dev gnssMode
    if res ≠ teeSuccess then
      return ⟨res, []⟩
    let res ← setRgbInternal dev rgb
    return ⟨res, []⟩

def deinit (dev : I2cDevice) : Program Bus Reply :=
  withBus dev.i2c (Reply.ofResult <$> i2cWriteReg dev.i2c dev.busAddr sleepModeReg 1 0)

end Tel0157

/-- `atk301_init`: a handshake. -/
def Atk301.init (dev : I2cDevice) : Program Bus Reply := do
  let head ← exchangeHead dev 0x01
  if head.res ≠ teeSuccess then
    return ⟨head.res, []⟩
  if head.bytes.getD 0 0 ≠ 0x01 then
    return ⟨teeErrorItemNotFound, []⟩
  return ⟨head.res, []⟩

/-! ## Flash memory -/

namespace W25qxx

def cmdReadId : Byte := 0x9F
def cmdReadStatus : Byte := 0x05
def cmdWriteStatus : Byte := 0x01
def cmdWriteEnable : Byte := 0x06
def cmdWriteDisable : Byte := 0x04
def cmdPageProgram : Byte := 0x02
def cmdReadData : Byte := 0x03
def cmdSectorErase : Byte := 0x20
def cmdChipErase : Byte := 0xC7
def statusBusy : Byte := 0x01

def writeEnableTimeoutUs : BitVec 32 := 2000
def sectorEraseTimeoutUs : BitVec 32 := 2000000
def chipEraseTimeoutUs : BitVec 32 := 80000000
def pageProgramTimeoutPerByteUs : BitVec 32 := 10000

/-- What the clock lets a wait do: how many polls of the first, and of the second, wait of a
call end within a timeout. -/
abbrev Polls := Nat → BitVec 32 → Nat

variable (polls : Polls) (bus cs : BitVec 8)

def spiWrite (cmd : Byte) (data : Option (List Byte)) (len : BitVec 64) :
    Program Board TeeResult :=
  Transfer.res <$> spiTransferRegs bus cs cmd data true len

def spiRead (cmd : Byte) (isNull : Bool) (len : BitVec 64) : Program Board Transfer :=
  spiTransferRegs bus cs cmd none isNull len

/-- `w25qxx_wait_until_ready_internal`, with the number of polls that end within the
timeout; the poll after them ends late. -/
def waitUntilReadyInternal : Nat → Program Board TeeResult
  | 0 => do
    let status ← spiRead bus cs cmdReadStatus false 1
    if status.res ≠ teeSuccess then
      return status.res
    return teeErrorTimeout
  | early + 1 => do
    let status ← spiRead bus cs cmdReadStatus false 1
    if status.res ≠ teeSuccess then
      return status.res
    if status.bytes.headD 0 &&& statusBusy ≠ 0 then
      waitUntilReadyInternal early
    else
      return teeSuccess

def writeEnableInternal : Program Board TeeResult := do
  let res ← spiWrite bus cs cmdWriteEnable none 0
  if res ≠ teeSuccess then
    return res
  waitUntilReadyInternal bus cs (polls 0 writeEnableTimeoutUs)

def writeDisableInternal : Program Board TeeResult := do
  let res ← spiWrite bus cs cmdWriteDisable none 1
  if res ≠ teeSuccess then
    return res
  waitUntilReadyInternal bus cs (polls 0 writeEnableTimeoutUs)

/-- Every function acquires the bus in mode 0 at 40 MHz. -/
def acquire : Program Board TeeResult :=
  onBoard (spiAcquire bus cs 0 5)

def release : Program Board TeeResult :=
  onBoard (spiRelease bus)

/-- The functions that ignore what acquiring the bus answers. -/
def unchecked (body : Program Board Reply) : Program Board Reply := do
  let _ ← acquire bus cs
  let reply ← body
  let _ ← release bus
  return reply

/-- The functions that return when the bus cannot be acquired. -/
def checked (body : Program Board Reply) : Program Board Reply := do
  let res ← acquire bus cs
  if res ≠ teeSuccess then
    return ⟨res, []⟩
  let reply ← body
  let _ ← release bus
  return reply

/-- The three bytes of a flash address, high byte first. -/
def addrBytes (addr : BitVec 32) : List Byte :=
  [(addr >>> 16).setWidth 8, (addr >>> 8).setWidth 8, addr.setWidth 8]

def waitUntilReady (timeout : BitVec 32) : Program Board Reply :=
  unchecked bus cs (Reply.ofResult <$> waitUntilReadyInternal bus cs (polls 0 timeout))

def readStatus (isNull : Bool) : Program Board Reply :=
  unchecked bus cs (Transfer.toReply <$> spiRead bus cs cmdReadStatus isNull 1)

def writeStatus (status : Byte) : Program Board Reply :=
  unchecked bus cs (Reply.ofResult <$> spiWrite bus cs cmdWriteStatus (some [status]) 1)

def init : Program Board Reply :=
  unchecked bus cs (Reply.ofResult <$> writeEnableInternal polls bus cs)

def writeEnable : Program Board Reply :=
  unchecked bus cs (Reply.ofResult <$> writeEnableInternal polls bus cs)

/-- `w25qxx_read_id` sets bits of the caller's `id` without clearing it first. -/
def readId (id : BitVec 16) : Program Board Reply :=
  checked bus cs do
    let read ← spiTransferRegs bus cs cmdReadId none false 3
    if read.res = teeSuccess then
      let new := id ||| ((read.bytes.getD 1 0).setWidth 16 <<< 8) |||
        (read.bytes.getD 2 0).setWidth 16
      return ⟨read.res, storesFrom 0 (bytes16 new)⟩
    else
      return ⟨read.res, []⟩

def writeDisable : Program Board Reply :=
  unchecked bus cs (Reply.ofResult <$> writeDisableInternal polls bus cs)

/-- `w25qxx_read_data` does not report what the transfer of the data answered. -/
def readData (isNull : Bool) (readAddr len : BitVec 32) : Program Board Reply :=
  unchecked bus cs do
    let res ← spiWrite bus cs cmdReadData (some (addrBytes readAddr)) 3
    if res ≠ teeSuccess then
      return ⟨res, []⟩
    let read ← onBoard (spiTransferBytes bus cs false none isNull (len.setWidth 64))
    return ⟨teeSuccess, storesFrom 0 read.bytes⟩

def pageProgram (data : Option (List Byte)) (writeAddr len : BitVec 32) : Program Board Reply :=
  checked bus cs do
    let res ← writeEnableInternal polls bus cs
    if res ≠ teeSuccess then
      return ⟨res, []⟩
    let res ← spiWrite bus cs cmdPageProgram (some (addrBytes writeAddr)) 3
    if res ≠ teeSuccess then
      return ⟨res, []⟩
    let written ← onBoard (spiTransferBytes bus cs true data true (len.setWidth 64))
    if written.res ≠ teeSuccess then
      return ⟨written.res, []⟩
    let _ ← waitUntilReadyInternal bus cs (polls 1 (pageProgramTimeoutPerByteUs * len))
    return ⟨teeSuccess, []⟩

def sectorErase (eraseAddr : BitVec 32) : Program Board Reply :=
  unchecked bus cs do
    let res ← writeEnableInternal polls bus cs
    if res ≠ teeSuccess then
      return ⟨res, []⟩
    let res ← spiWrite bus cs cmdSectorErase (some (addrBytes eraseAddr)) 3
    if res ≠ teeSuccess then
      return ⟨res, []⟩
    let _ ← waitUntilReadyInternal bus cs (polls 1 sectorEraseTimeoutUs)
    return ⟨teeSuccess, []⟩

def chipErase : Program Board Reply :=
  unchecked bus cs do
    let res ← writeEnableInternal polls bus cs
    if res ≠ teeSuccess then
      return ⟨res, []⟩
    let res ← spiWrite bus cs cmdChipErase none 0
    if res ≠ teeSuccess then
      return ⟨res, []⟩
    let _ ← waitUntilReadyInternal bus cs (polls 1 chipEraseTimeoutUs)
    return ⟨teeSuccess, []⟩

/-- A call of the flash driver. -/
inductive Call where
  | waitUntilReady (timeout : BitVec 32)
  | readStatus (isNull : Bool)
  | writeStatus (status : Byte)
  | init
  | writeEnable
  | readId (id : BitVec 16)
  | writeDisable
  | readData (isNull : Bool) (readAddr len : BitVec 32)
  | pageProgram (data : Option (List Byte)) (writeAddr len : BitVec 32)
  | sectorErase (eraseAddr : BitVec 32)
  | chipErase
  deriving DecidableEq

def Call.program : Call → Program Board Reply
  | .waitUntilReady timeout => W25qxx.waitUntilReady polls bus cs timeout
  | .readStatus isNull => W25qxx.readStatus bus cs isNull
  | .writeStatus status => W25qxx.writeStatus bus cs status
  | .init => W25qxx.init polls bus cs
  | .writeEnable => W25qxx.writeEnable polls bus cs
  | .readId id => W25qxx.readId bus cs id
  | .writeDisable => W25qxx.writeDisable polls bus cs
  | .readData isNull readAddr len => W25qxx.readData bus cs isNull readAddr len
  | .pageProgram data writeAddr len => W25qxx.pageProgram polls bus cs data writeAddr len
  | .sectorErase eraseAddr => W25qxx.sectorErase polls bus cs eraseAddr
  | .chipErase => W25qxx.chipErase polls bus cs

end W25qxx

end TrustWasm.Drivers
