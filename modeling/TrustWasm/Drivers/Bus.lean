import TrustWasm.Lib.Program
import TrustWasm.Tee.Api

/-!
# The bus functions the device drivers call

The device drivers reach the hardware through the I2C, SPI and GPIO functions
of the board.  Those functions are the operations of this interface.  A buffer
a function fills is returned with the reply, in the order of its bytes, and the
caller says whether the pointer it passed was null.  `BusAllows` is what each
function may answer: its own argument checks, and the rule that it stores at
most as many bytes as its length parameter says and reports success only when
it stored all of them.
-/

namespace TrustWasm.Drivers

open TrustWasm.Lib TrustWasm.Tee

/-- The board has two I2C buses, one SPI bus with three chip selects and 54
pins. -/
def i2cNum : Nat := 2
def spiNum : Nat := 1
def spiCsNum : Nat := 3
def rpi3MaxPinNum : Nat := 53

/-- Flags of an I2C transfer. -/
def i2cAddr10 : BitVec 8 := 0x01
def i2cReg16 : BitVec 8 := 0x02
def i2cCont : BitVec 8 := 0x10

/-- Modes of a pin. -/
inductive GpioMode where
  | input
  | output
  | inputPullUp
  deriving DecidableEq

/-- A call of a bus function.  `data` is the content of a source buffer, or
`none` for a null pointer; `isNull` says that a destination pointer is null. -/
inductive BusOp where
  | i2cAcquire (dev : BitVec 8)
  | i2cRelease (dev : BitVec 8)
  | i2cReadBytes (dev : BitVec 8) (addr : BitVec 16) (isNull : Bool) (len : BitVec 16)
      (flags : BitVec 8)
  | i2cWriteBytes (dev : BitVec 8) (addr : BitVec 16) (data : Option (List Byte))
      (len : BitVec 16) (flags : BitVec 8)
  | i2cWriteWithPrefix (dev : BitVec 8) (addr : BitVec 16) (head : List Byte)
      (data : Option (List Byte)) (len : BitVec 16) (flags : BitVec 8)
  | spiAcquire (bus cs : BitVec 8) (mode clk : BitVec 32)
  | spiRelease (bus : BitVec 8)
  | spiTransferBytes (bus cs : BitVec 8) (cont : Bool) (out : Option (List Byte))
      (isNull : Bool) (len : BitVec 64)
  | gpioInit (pin : BitVec 32) (mode : GpioMode)
  | gpioSet (pin : BitVec 32) (level : Bool)
  | gpioGet (pin : BitVec 32)
  deriving DecidableEq

/-- The answer of a function that fills a buffer from its start. -/
structure Transfer where
  res : TeeResult
  bytes : List Byte
  deriving DecidableEq

/-- The bus functions as an interface. -/
abbrev Bus : Interface where
  Op := BusOp
  Reply
    | .i2cAcquire .. | .i2cRelease .. | .i2cWriteBytes .. | .i2cWriteWithPrefix ..
    | .spiAcquire .. | .spiRelease .. => TeeResult
    | .i2cReadBytes .. | .spiTransferBytes .. => Transfer
    | .gpioInit .. | .gpioSet .. => Unit
    | .gpioGet .. => Int

/-- The codes an I2C transfer ends with once its arguments are accepted. -/
def I2cOutcome (res : TeeResult) : Prop :=
  res = teeSuccess ∨ res = teeErrorNoData ∨ res = teeErrorTimeout ∨ res = teeErrorBadState

/-- The codes an SPI transfer ends with. -/
def SpiOutcome (res : TeeResult) : Prop :=
  res = teeSuccess ∨ res = teeErrorTimeout

/-- At most `count` bytes are stored, and all of them on success. -/
def Transfer.Fills (transfer : Transfer) (count : Nat) : Prop :=
  transfer.bytes.length ≤ count ∧
    (transfer.res = teeSuccess → transfer.bytes.length = count)

/-- The answers a bus function may give. -/
def BusAllows : (op : BusOp) → Bus.Reply op → Prop
  | .i2cAcquire dev, (res : TeeResult) =>
    res = if i2cNum ≤ dev.toNat then teeErrorBadParameters else teeSuccess
  | .i2cRelease dev, (res : TeeResult) =>
    res = if i2cNum ≤ dev.toNat then teeErrorBadParameters else teeSuccess
  | .i2cReadBytes dev _ isNull len _, (transfer : Transfer) =>
    if i2cNum ≤ dev.toNat ∨ len = 0 ∨ isNull = true then
      transfer = ⟨teeErrorBadParameters, []⟩
    else
      I2cOutcome transfer.res ∧ transfer.Fills len.toNat
  | .i2cWriteBytes dev _ data len flags, (res : TeeResult) =>
    if i2cNum ≤ dev.toNat ∨ len = 0 ∨ data = none ∨
        (len = 0xFFFF ∧ flags &&& i2cAddr10 ≠ 0) then
      res = teeErrorBadParameters
    else
      I2cOutcome res
  | .i2cWriteWithPrefix dev _ _ data len flags, (res : TeeResult) =>
    if i2cNum ≤ dev.toNat ∨ len = 0 ∨ data = none ∨
        (len = 0xFFFF ∧ flags &&& i2cAddr10 ≠ 0) then
      res = teeErrorBadParameters
    else if flags &&& i2cAddr10 ≠ 0 then
      res = teeErrorNotImplemented
    else
      I2cOutcome res
  | .spiAcquire bus cs _ _, (res : TeeResult) =>
    res = if spiNum ≤ bus.toNat ∨ spiCsNum ≤ cs.toNat then teeErrorBadParameters else teeSuccess
  | .spiRelease bus, (res : TeeResult) =>
    res = if spiNum ≤ bus.toNat then teeErrorBadParameters else teeSuccess
  | .spiTransferBytes _ _ _ out isNull len, (transfer : Transfer) =>
    if isNull = true then
      transfer.bytes = [] ∧ SpiOutcome transfer.res ∧
        (out = none → transfer.res = teeSuccess)
    else
      SpiOutcome transfer.res ∧ transfer.Fills len.toNat
  | .gpioInit .., () => True
  | .gpioSet .., () => True
  | .gpioGet pin, (level : Int) =>
    if rpi3MaxPinNum < pin.toNat then level = -1 else level = 0 ∨ level = 1

/-- Every device behaviour the bus functions let through. -/
def busSemantics : Semantics Bus Unit where
  guard _ _ := True
  step _ op reply _ := BusAllows op reply

/-! ## The bus functions as programs -/

def i2cAcquire (dev : BitVec 8) : Program Bus TeeResult :=
  Program.perform (I := Bus) (.i2cAcquire dev)

def i2cRelease (dev : BitVec 8) : Program Bus TeeResult :=
  Program.perform (I := Bus) (.i2cRelease dev)

def i2cReadBytes (dev : BitVec 8) (addr : BitVec 16) (isNull : Bool) (len : BitVec 16)
    (flags : BitVec 8) : Program Bus Transfer :=
  Program.perform (I := Bus) (.i2cReadBytes dev addr isNull len flags)

def i2cWriteBytes (dev : BitVec 8) (addr : BitVec 16) (data : Option (List Byte))
    (len : BitVec 16) (flags : BitVec 8) : Program Bus TeeResult :=
  Program.perform (I := Bus) (.i2cWriteBytes dev addr data len flags)

def i2cWriteWithPrefix (dev : BitVec 8) (addr : BitVec 16) (head : List Byte)
    (data : Option (List Byte)) (len : BitVec 16) (flags : BitVec 8) :
    Program Bus TeeResult :=
  Program.perform (I := Bus) (.i2cWriteWithPrefix dev addr head data len flags)

def spiAcquire (bus cs : BitVec 8) (mode clk : BitVec 32) : Program Bus TeeResult :=
  Program.perform (I := Bus) (.spiAcquire bus cs mode clk)

def spiRelease (bus : BitVec 8) : Program Bus TeeResult :=
  Program.perform (I := Bus) (.spiRelease bus)

def spiTransferBytes (bus cs : BitVec 8) (cont : Bool) (out : Option (List Byte))
    (isNull : Bool) (len : BitVec 64) : Program Bus Transfer :=
  Program.perform (I := Bus) (.spiTransferBytes bus cs cont out isNull len)

def gpioInit (pin : BitVec 32) (mode : GpioMode) : Program Bus Unit :=
  Program.perform (I := Bus) (.gpioInit pin mode)

def gpioSet (pin : BitVec 32) (level : Bool) : Program Bus Unit :=
  Program.perform (I := Bus) (.gpioSet pin level)

def gpioGet (pin : BitVec 32) : Program Bus Int :=
  Program.perform (I := Bus) (.gpioGet pin)

/-! ## Functions built on the byte transfers -/

def i2cWriteByte (dev : BitVec 8) (addr : BitVec 16) (data : Byte) (flags : BitVec 8) :
    Program Bus TeeResult :=
  i2cWriteBytes dev addr (some [data]) 1 flags

def i2cReadByte (dev : BitVec 8) (addr : BitVec 16) (isNull : Bool) (flags : BitVec 8) :
    Program Bus Transfer :=
  i2cReadBytes dev addr isNull 1 flags

/-- The loop of `i2c_read_regs` from index `i` on, with `count` registers left.
Only the first destination address can be null. -/
def i2cReadRegsFrom (dev : BitVec 8) (addr reg : BitVec 16) (isNull : Bool) :
    Nat → Nat → BitVec 8 → Program Bus Transfer
  | 0, _, _ => return ⟨teeSuccess, []⟩
  | count + 1, i, flags => do
    let res ← i2cWriteByte dev addr (reg.setWidth 8 + BitVec.ofNat 8 i) flags
    if res ≠ teeSuccess then
      return ⟨res, []⟩
    let flags := flags ||| i2cCont
    let read ← i2cReadByte dev addr (isNull && i == 0) flags
    if read.res ≠ teeSuccess then
      return read
    let rest ← i2cReadRegsFrom dev addr reg isNull count (i + 1) flags
    return ⟨rest.res, read.bytes ++ rest.bytes⟩

def i2cReadRegs (dev : BitVec 8) (addr reg : BitVec 16) (isNull : Bool) (len : BitVec 16)
    (flags : BitVec 8) : Program Bus Transfer :=
  if flags &&& i2cReg16 ≠ 0 then
    return ⟨teeErrorNotImplemented, []⟩
  else
    i2cReadRegsFrom dev addr reg isNull len.toNat 0 flags

def i2cReadReg (dev : BitVec 8) (addr reg : BitVec 16) (isNull : Bool) (flags : BitVec 8) :
    Program Bus Transfer :=
  i2cReadRegs dev addr reg isNull 1 flags

def i2cWriteReg (dev : BitVec 8) (addr reg : BitVec 16) (data : Byte) (flags : BitVec 8) :
    Program Bus TeeResult :=
  if flags &&& i2cReg16 ≠ 0 then
    return teeErrorNotImplemented
  else
    i2cWriteBytes dev addr (some [reg.setWidth 8, data]) 2 flags

/-- `i2c_write_regs` writes the register and then the data, in two transfers. -/
def i2cWriteRegs (dev : BitVec 8) (addr reg : BitVec 16) (data : Option (List Byte))
    (len : BitVec 16) (flags : BitVec 8) : Program Bus TeeResult :=
  if flags &&& i2cReg16 ≠ 0 then
    return teeErrorNotImplemented
  else do
    let res ← i2cWriteBytes dev addr (some [reg.setWidth 8]) 1 flags
    if res ≠ teeSuccess then
      return res
    i2cWriteBytes dev addr data len (flags ||| i2cCont)

end TrustWasm.Drivers
