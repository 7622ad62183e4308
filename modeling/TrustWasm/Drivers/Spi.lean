import TrustWasm.Drivers.Board
import TrustWasm.Drivers.Clock
import TrustWasm.Lib.Mask

/-!
# SPI transfers

The SPI driver reaches its controller through the control and status register and the FIFO, and
measures its waits with two readings of the system time.  These accesses and those to the
caller's buffers are the operations of the port.  `spi_transfer_bytes`, `spi_transfer_diff_bytes`
and `spi_transfer_regs` are one exchange with different parameters: rounds that fill the transmit
FIFO and drain the receive FIFO until both buffers are through or nothing moves for too long, and
then a wait for the controller to be done.  `spi_transfer_byte` has two waits of its own.

A loop of the driver that only the hardware or the clock ends is given a number of rounds; a
transfer that has not returned within it answers `none`.
-/

namespace TrustWasm.Drivers.Spi

open TrustWasm.Lib TrustWasm.Tee

def spiCsTxd : BitVec 32 := 0x00040000
def spiCsRxd : BitVec 32 := 0x00020000
def spiCsDone : BitVec 32 := 0x00010000
def spiCsTa : BitVec 32 := 0x00000080
def spiCsClear : BitVec 32 := 0x00000030
def spiCsCs : BitVec 32 := 0x00000003

def spiWaitTxdUs : BitVec 64 := 10000
def spiWaitRxdUs : BitVec 64 := 10000
def spiTransferWaitDonePerbyteUs : BitVec 64 := 1000

/-! Each flag of the status is one bit. -/

section Flags

variable (status : BitVec 32)

theorem and_spiCsTxd : status &&& spiCsTxd ≠ 0 ↔ status.getLsbD 18 = true :=
  Mask.and_bit_ne_zero_iff (w := 32) (n := 18) (by decide) status

theorem and_spiCsRxd : status &&& spiCsRxd ≠ 0 ↔ status.getLsbD 17 = true :=
  Mask.and_bit_ne_zero_iff (w := 32) (n := 17) (by decide) status

theorem and_spiCsDone : status &&& spiCsDone ≠ 0 ↔ status.getLsbD 16 = true :=
  Mask.and_bit_ne_zero_iff (w := 32) (n := 16) (by decide) status

theorem and_spiCsTa : status &&& spiCsTa ≠ 0 ↔ status.getLsbD 7 = true :=
  Mask.and_bit_ne_zero_iff (w := 32) (n := 7) (by decide) status

end Flags

/-- What a timed loop of the driver waits for: room or data in a FIFO, or the end of the
transfer. -/
inductive Wait where
  | fifo
  | done
  deriving DecidableEq

/-- The variable a reading of the system time goes to.  A reading of the end of a wait names the
limit the driver compares it with. -/
inductive Timer where
  | start
  | stop (wait : Wait) (limit : BitVec 64)
  deriving DecidableEq

/-- An access of the driver: to its registers, to the clock and to the buffers of its caller. -/
inductive PortOp where
  | readCs
  | writeCs (value : BitVec 32)
  | readFifo
  | writeFifo (value : BitVec 32)
  | getSysTime (timer : Timer)
  | load (i : Nat)
  | store (i : Nat) (byte : Byte)
  deriving DecidableEq

abbrev Port : Interface where
  Op := PortOp
  Reply
    | .readCs | .readFifo => BitVec 32
    | .getSysTime _ => TeeTime
    | .load _ => Byte
    | .writeCs _ | .writeFifo _ | .store .. => Unit

def readCs : Program Port (BitVec 32) :=
  Program.perform (I := Port) .readCs

def writeCs (value : BitVec 32) : Program Port Unit :=
  Program.perform (I := Port) (.writeCs value)

def readFifo : Program Port (BitVec 32) :=
  Program.perform (I := Port) .readFifo

def writeFifo (byte : Byte) : Program Port Unit :=
  Program.perform (I := Port) (.writeFifo (byte.setWidth 32))

def getSysTime (timer : Timer) : Program Port TeeTime :=
  Program.perform (I := Port) (.getSysTime timer)

def load (i : Nat) : Program Port Byte :=
  Program.perform (I := Port) (.load i)

def store (i : Nat) (byte : Byte) : Program Port Unit :=
  Program.perform (I := Port) (.store i byte)

/-! ## The driver -/

def spiSetbits (value mask : BitVec 32) : Program Port Unit := do
  let v ← readCs
  writeCs ((v &&& ~~~mask) ||| (value &&& mask))

def spiChipSelect (cs : BitVec 8) : Program Port Unit := do
  let v ← readCs
  writeCs ((v &&& ~~~spiCsCs) ||| cs.setWidth 32)

/-- What a transfer is to do: whether it clears the FIFOs first, the register byte it sends
before the data, and the lengths of the buffers, `none` for a null pointer. -/
structure Plan where
  clears : Bool
  reg : Option Byte
  outLen : Option (BitVec 32)
  inLen : Option (BitVec 32)
  deriving DecidableEq

namespace Plan

variable (plan : Plan)

/-- The number of bytes to send from the buffer, and of those to store. -/
def outCount : Nat :=
  plan.outLen.elim 0 BitVec.toNat

def inCount : Nat :=
  plan.inLen.elim 0 BitVec.toNat

/-- One of the buffers is given. -/
def Moves : Prop :=
  plan.outLen ≠ none ∨ plan.inLen ≠ none

instance : Decidable plan.Moves :=
  inferInstanceAs (Decidable (_ ∨ _))

def waitLimit : BitVec 64 :=
  if plan.outLen = none then spiWaitRxdUs else spiWaitTxdUs

/-- The time the end of the transfer may take, for the longer of the buffers. -/
def doneLimit : BitVec 64 :=
  spiTransferWaitDonePerbyteUs *
    match plan.outLen, plan.inLen with
    | some outLen, some inLen => (if inLen < outLen then outLen else inLen).setWidth 64
    | some outLen, none => outLen.setWidth 64
    | none, some inLen => inLen.setWidth 64
    | none, none => 0

end Plan

/-- The loop that fills the transmit FIFO, with `left` bytes still to send; it returns the number
of bytes sent and the time of the last one. -/
def fill : Nat → Nat → TeeTime → Program Port (Nat × TeeTime)
  | 0, sent, start => do
    let _ ← readCs
    return (sent, start)
  | left + 1, sent, start => do
    let status ← readCs
    if status &&& spiCsTxd = 0 then
      return (sent, start)
    let byte ← load sent
    writeFifo byte
    let start ← getSysTime .start
    fill left (sent + 1) start

/-- The loop that drains the receive FIFO, with `left` bytes still to receive. -/
def drain : Nat → Nat → TeeTime → Program Port (Nat × TeeTime)
  | 0, received, start => do
    let _ ← readCs
    return (received, start)
  | left + 1, received, start => do
    let status ← readCs
    if status &&& spiCsRxd = 0 then
      return (received, start)
    let value ← readFifo
    store received (value.setWidth 8)
    let start ← getSysTime .start
    drain left (received + 1) start

/-- The variables of the driver. -/
structure Progress where
  sent : Nat
  received : Nat
  start : TeeTime
  stop : TeeTime

variable (plan : Plan)

def fillOut (sent : Nat) (start : TeeTime) : Program Port (Nat × TeeTime) :=
  if plan.outLen = none then
    return (sent, start)
  else
    fill (plan.outCount - sent) sent start

def drainIn (received : Nat) (start : TeeTime) : Program Port (Nat × TeeTime) :=
  if plan.inLen = none then
    return (received, start)
  else
    drain (plan.inCount - received) received start

def round (progress : Progress) : Program Port Progress := do
  let filled ← fillOut plan progress.sent progress.start
  let drained ← drainIn plan progress.received filled.2
  let stop ← getSysTime (.stop .fifo plan.waitLimit)
  return ⟨filled.1, drained.1, drained.2, stop⟩

/-- Bytes are left to send or to receive. -/
def Progress.Pending (progress : Progress) : Prop :=
  progress.sent < plan.outCount ∨ progress.received < plan.inCount

instance (progress : Progress) : Decidable (progress.Pending plan) :=
  inferInstanceAs (Decidable (_ ∨ _))

def moveLoop : Nat → Progress → Program Port (Option Progress)
  | 0, _ => return none
  | rounds + 1, progress =>
    if progress.Pending plan ∧ elapsed progress.start progress.stop ≤ plan.waitLimit then do
      let progress ← round plan progress
      moveLoop rounds progress
    else
      return some progress

/-- The wait for a flag of the status; it returns the last reading of the time. -/
def flagLoop (flag : BitVec 32) (wait : Wait) (limit : BitVec 64) (start : TeeTime) :
    Nat → Program Port (Option TeeTime)
  | 0 => return none
  | rounds + 1 => do
    let status ← readCs
    let stop ← getSysTime (.stop wait limit)
    if status &&& flag = 0 ∧ elapsed start stop ≤ limit then
      flagLoop flag wait limit start rounds
    else
      return some stop

def doneLoop : BitVec 64 → TeeTime → Nat → Program Port (Option TeeTime) :=
  flagLoop spiCsDone .done

/-- Every return of a transfer sets TA to 0. -/
def finish (res : TeeResult) : Program Port (Option TeeResult) := do
  spiSetbits 0 spiCsTa
  return some res

def awaitDone (rounds : Nat) : Program Port (Option TeeResult) := do
  let start ← getSysTime .start
  let waited ← doneLoop plan.doneLimit start rounds
  match waited with
  | none => return none
  | some stop =>
    if plan.doneLimit < elapsed start stop then
      finish teeErrorTimeout
    else
      finish teeSuccess

def exchange (rounds : Nat) : Program Port (Option TeeResult) := do
  let start ← getSysTime .start
  let stop ← getSysTime (.stop .fifo plan.waitLimit)
  let moved ← moveLoop plan rounds ⟨0, 0, start, stop⟩
  match moved with
  | none => return none
  | some progress =>
    if plan.waitLimit < elapsed progress.start progress.stop then
      finish teeErrorTimeout
    else
      awaitDone plan rounds

/-- A timed wait that is over: its result and its last two readings of the time. -/
structure WaitEnd where
  res : TeeResult
  start : TeeTime
  stop : TeeTime

/-- The test after the loop of a wait. -/
def WaitEnd.ofReadings (limit : BitVec 64) (start stop : TeeTime) : WaitEnd :=
  ⟨if limit < elapsed start stop then teeErrorTimeout else teeSuccess, start, stop⟩

def awaitFlag (flag : BitVec 32) (wait : Wait) (limit : BitVec 64) (rounds : Nat) :
    Program Port (Option WaitEnd) := do
  let start ← getSysTime .start
  let waited ← flagLoop flag wait limit start rounds
  return waited.map (.ofReadings limit start)

/-- What follows a wait: a wait that took too long ends the transfer. -/
def WaitEnd.andThen (next : Program Port (Option TeeResult)) :
    Option WaitEnd → Program Port (Option TeeResult)
  | none => return none
  | some ends => if ends.res = teeSuccess then next else finish ends.res

def clearFifos : Program Port Unit :=
  if plan.clears then spiSetbits spiCsClear spiCsClear else return ()

def sendReg : Program Port Unit :=
  match plan.reg with
  | none => return ()
  | some reg => writeFifo reg

def transfer (cs : BitVec 8) (rounds : Nat) : Program Port (Option TeeResult) := do
  spiChipSelect cs
  clearFifos plan
  spiSetbits spiCsTa spiCsTa
  sendReg plan
  if plan.Moves then
    exchange plan rounds
  else
    finish teeSuccess

/-- The length of a buffer, unless its pointer is null. -/
def buffer (isNull : Bool) (len : BitVec 32) : Option (BitVec 32) :=
  if isNull then none else some len

def spiTransferBytes (cs : BitVec 8) (cont outNull inNull : Bool) (len : BitVec 32) :
    Nat → Program Port (Option TeeResult) :=
  transfer ⟨!cont, none, buffer outNull len, buffer inNull len⟩ cs

def spiTransferDiffBytes (cs : BitVec 8) (cont outNull inNull : Bool) (outLen inLen : BitVec 32) :
    Nat → Program Port (Option TeeResult) :=
  transfer ⟨!cont, none, buffer outNull outLen, buffer inNull inLen⟩ cs

def spiTransferRegs (cs : BitVec 8) (reg : Byte) (outNull inNull : Bool) (len : BitVec 32) :
    Nat → Program Port (Option TeeResult) :=
  transfer ⟨true, some reg, buffer outNull len, buffer inNull len⟩ cs

/-- `spi_transfer_byte`, the one transfer that checks its arguments; it waits for room in the
transmit FIFO and, with the byte in it, for the end of the transfer. -/
def spiTransferByte (bus cs : BitVec 8) (cont : Bool) (out : Byte) (inNull : Bool)
    (rounds : Nat) : Program Port (Option TeeResult) :=
  if spiNum ≤ bus.toNat ∨ spiCsNum ≤ cs.toNat then
    return some teeErrorBadParameters
  else do
    spiChipSelect cs
    if !cont then
      spiSetbits spiCsClear spiCsClear
    spiSetbits spiCsTa spiCsTa
    awaitFlag spiCsTxd .fifo spiWaitTxdUs rounds >>= WaitEnd.andThen do
      writeFifo out
      awaitFlag spiCsDone .done spiTransferWaitDonePerbyteUs rounds >>= WaitEnd.andThen do
        if !inNull then
          let value ← readFifo
          store 0 (value.setWidth 8)
        finish teeSuccess

end TrustWasm.Drivers.Spi
