import TrustWasm.Drivers.BusLocks
import TrustWasm.Lib.BitField
import TrustWasm.Lib.Transition

/-!
# Pin functions under concurrency

The function of a pin is a field of three bits in one of the GPFSEL registers, and ten pins
share a register.  A function is selected by reading the register, replacing the field and
writing the word back.  Acquiring and releasing a bus select the functions of its pins while
the mutex of the bus is held, and `gpio_init` selects the function of its pin without a mutex,
so calls on different pins can read and write one register in between each other.

A thread runs one call at a time, and every access to a register is a step of its own.
-/

namespace TrustWasm.Drivers

open TrustWasm.Lib Function

/-! ## Registers -/

/-- `Rpi3_FunctionSelect_GPFSEL`. -/
inductive FunctionSelect where
  | inpt
  | outp
  | alt0
  | alt1
  | alt2
  | alt3
  | alt4
  | alt5
  deriving DecidableEq

def FunctionSelect.code : FunctionSelect → BitVec 32
  | inpt => 0x00
  | outp => 0x01
  | alt0 => 0x04
  | alt1 => 0x05
  | alt2 => 0x06
  | alt3 => 0x07
  | alt4 => 0x03
  | alt5 => 0x02

def gpioFselMask : BitVec 32 := 0x07

def rpi3GpioFselBank (pin : Nat) : Nat :=
  pin / 10

def rpi3GpioFselShift (pin : Nat) : Nat :=
  pin % 10 * 3

/-- The word `io_clrsetbits32` writes after it has read `word`. -/
def ioClrsetbits32 (word clearMask setMask : BitVec 32) : BitVec 32 :=
  (word &&& ~~~clearMask) ||| setMask

/-- A call of `rpi3_set_gpio_pin_function`. -/
structure PinWrite where
  pin : Nat
  function : FunctionSelect
  deriving DecidableEq

namespace PinWrite

def bank (write : PinWrite) : Nat :=
  rpi3GpioFselBank write.pin

def apply (write : PinWrite) (word : BitVec 32) : BitVec 32 :=
  ioClrsetbits32 word (gpioFselMask <<< rpi3GpioFselShift write.pin)
    (write.function.code <<< rpi3GpioFselShift write.pin)

end PinWrite

/-- The FSEL field of a pin. -/
def fselOf (gpfsel : Nat → BitVec 32) (pin : Nat) : BitVec 32 :=
  field (gpfsel (rpi3GpioFselBank pin)) (rpi3GpioFselShift pin) 3

theorem FunctionSelect.code_lt (function : FunctionSelect) : function.code.toNat < 2 ^ 3 := by
  cases function <;> decide

theorem PinWrite.apply_eq (write : PinWrite) (word : BitVec 32) :
    write.apply word = setField word (rpi3GpioFselShift write.pin) 3 write.function.code :=
  rfl

/-- Writing back the word that is in the register selects the function. -/
theorem fselOf_write_self (gpfsel : Nat → BitVec 32) (write : PinWrite) :
    fselOf (update gpfsel write.bank (write.apply (gpfsel write.bank))) write.pin =
      write.function.code := by
  unfold fselOf
  rw [show rpi3GpioFselBank write.pin = write.bank from rfl, update_self,
    PinWrite.apply_eq]
  refine field_setField ?_ write.function.code_lt
  unfold rpi3GpioFselShift
  omega

/-- Writing back the word that is in the register keeps the other pins as they are. -/
theorem fselOf_write_other (gpfsel : Nat → BitVec 32) {write : PinWrite} {pin : Nat}
    (other : pin ≠ write.pin) :
    fselOf (update gpfsel write.bank (write.apply (gpfsel write.bank))) pin =
      fselOf gpfsel pin := by
  unfold fselOf
  by_cases together : rpi3GpioFselBank pin = write.bank
  · rw [together, update_self, PinWrite.apply_eq]
    refine field_setField_of_apart write.function.code_lt ?_
    unfold PinWrite.bank rpi3GpioFselBank at together
    unfold rpi3GpioFselShift
    omega
  · rw [update_of_ne together]

/-! ## Calls -/

/-- `gpio_mode_t`, with the values it does not list. -/
inductive PinMode where
  | input
  | output
  | inputPullUp
  | inputPullDown
  | openDrain
  | openDrainPullUp
  | unrecognized
  deriving DecidableEq

/-- The function `gpio_init` selects for a mode. -/
def PinMode.function : PinMode → Option FunctionSelect
  | input | inputPullUp | inputPullDown => some .inpt
  | output | openDrain | openDrainPullUp => some .outp
  | unrecognized => none

inductive PinCall where
  | i2cAcquire (dev : BitVec 8)
  | i2cRelease (dev : BitVec 8)
  | spiAcquire (bus cs : BitVec 8) (mode clk : BitVec 32)
  | spiRelease (bus : BitVec 8)
  | gpioInit (pin : BitVec 32) (mode : PinMode)
  deriving DecidableEq

/-- SDA and SCL of a bus. -/
def i2cPins (dev : BitVec 8) : List Nat :=
  if dev = 1 then [2, 3] else [0, 1]

/-- CE1, CE0, MISO, MOSI and SCLK. -/
def spiPins (bus : BitVec 8) : List Nat :=
  if bus = 0 then [7, 8, 9, 10, 11] else []

/-- `gpio_fsel` for one pin after the other. -/
def gpioFsel (function : FunctionSelect) (pins : List Nat) : List PinWrite :=
  pins.map (⟨·, function⟩)

namespace PinCall

/-- The functions a call selects, in its order. -/
def writes : PinCall → List PinWrite
  | i2cAcquire dev => if i2cNum ≤ dev.toNat then [] else gpioFsel .alt0 (i2cPins dev)
  | i2cRelease dev => if i2cNum ≤ dev.toNat then [] else gpioFsel .inpt (i2cPins dev)
  | spiAcquire bus cs _ _ =>
    if spiNum ≤ bus.toNat ∨ spiCsNum ≤ cs.toNat then [] else gpioFsel .alt0 (spiPins bus)
  | spiRelease bus => if spiNum ≤ bus.toNat then [] else gpioFsel .inpt (spiPins bus)
  | gpioInit pin mode =>
    if rpi3MaxPinNum < pin.toNat then []
    else
      match mode.function with
      | some function => [⟨pin.toNat, function⟩]
      | none => []

/-- An acquire locks the mutex before it selects the functions, and a release unlocks it
after. -/
def effect : PinCall → LockEffect Mutex
  | i2cAcquire dev => (BusOp.i2cAcquire dev).effect
  | i2cRelease dev => (BusOp.i2cRelease dev).effect
  | spiAcquire bus cs mode clk => (BusOp.spiAcquire bus cs mode clk).effect
  | spiRelease bus => (BusOp.spiRelease bus).effect
  | gpioInit .. => .idle

def Targets (call : PinCall) (pin : Nat) : Prop :=
  ∃ write ∈ call.writes, write.pin = pin

/-- The function a call selects for a pin. -/
def functionFor (call : PinCall) (pin : Nat) : Option FunctionSelect :=
  (call.writes.find? (·.pin == pin)).map (·.function)

end PinCall

/-- The pins of the buses. -/
def busPins : List Nat := [0, 1, 2, 3, 7, 8, 9, 10, 11]

/-- `gpio_init` is used for the other pins. -/
def PinCall.OnOtherPins : PinCall → Prop
  | gpioInit pin _ => pin.toNat ∉ busPins
  | _ => True

instance : DecidablePred PinCall.OnOtherPins := fun call => by
  cases call <;> unfold PinCall.OnOtherPins <;> infer_instance

/-! ## Threads -/

/-- A call in progress: what it has still to write, and the word it has read for it. -/
structure PinRun where
  call : PinCall
  todo : List PinWrite
  read : Option (BitVec 32)

/-- The registers, the thread that holds each mutex, the calls in progress, and the calls that
have returned, the last one first. -/
structure PinState where
  gpfsel : Nat → BitVec 32
  holder : Mutex → Option Nat
  threads : Nat → Option PinRun
  completed : List PinCall

inductive PinStep where
  | start (call : PinCall)
  | ioRead32
  | ioWrite32
  | finish

namespace PinState

/-- The holders when a call starts, if it can: a thread waits for a mutex that is held, and
releases only what it holds. -/
def holderAtStart (holder : Mutex → Option Nat) (thread : Nat) :
    LockEffect Mutex → Option (Mutex → Option Nat)
  | .lock mutex =>
    if holder mutex = none then some (update holder mutex (some thread)) else none
  | .unlock mutex | .touch mutex => if holder mutex = some thread then some holder else none
  | .idle => some holder

def holderAtFinish (holder : Mutex → Option Nat) : LockEffect Mutex → Mutex → Option Nat
  | .unlock mutex => update holder mutex none
  | _ => holder

/-- One step of a thread. -/
def next (s : PinState) (thread : Nat) : PinStep → Option PinState
  | .start call =>
    match s.threads thread with
    | some _ => none
    | none =>
      (holderAtStart s.holder thread call.effect).map fun holder =>
        { s with
          holder := holder
          threads := update s.threads thread (some ⟨call, call.writes, none⟩) }
  | .ioRead32 =>
    match s.threads thread with
    | some ⟨call, write :: rest, none⟩ =>
      some { s with
        threads := update s.threads thread
          (some ⟨call, write :: rest, some (s.gpfsel write.bank)⟩) }
    | _ => none
  | .ioWrite32 =>
    match s.threads thread with
    | some ⟨call, write :: rest, some word⟩ =>
      some { s with
        gpfsel := update s.gpfsel write.bank (write.apply word)
        threads := update s.threads thread (some ⟨call, rest, none⟩) }
    | _ => none
  | .finish =>
    match s.threads thread with
    | some ⟨call, [], none⟩ =>
      some { s with
        holder := holderAtFinish s.holder call.effect
        threads := update s.threads thread none
        completed := call :: s.completed }
    | _ => none

/-- No call has been made. -/
def fresh (gpfsel : Nat → BitVec 32) : PinState :=
  ⟨gpfsel, fun _ => none, fun _ => none, []⟩

end PinState

/-- Calls that are started are those the threads make. -/
def PinStep.Admitted : PinStep → Prop
  | start call => call.OnOtherPins
  | _ => True

instance : DecidablePred PinStep.Admitted := fun step => by
  cases step <;> unfold PinStep.Admitted <;> infer_instance

/-- The threads, from given contents of the registers. -/
def pinSystem (start : Nat → BitVec 32) : System PinState (Nat × PinStep) where
  initial s := s = .fresh start
  step s label s' := label.2.Admitted ∧ s.next label.1 label.2 = some s'

/-- The field of a pin after the calls that have returned: the function of the last call that
targets the pin, or what it was before. -/
def lastFunction (completed : List PinCall) (pin : Nat) (before : BitVec 32) : BitVec 32 :=
  match completed.findSome? (·.functionFor pin) with
  | some function => function.code
  | none => before

/-- A word is written back only while it is what the call has read, and `gpio_init` starts
only while no call in progress targets its pin. -/
def Undisturbed (s : PinState) : Nat × PinStep → Prop
  | (thread, .ioWrite32) =>
    ∀ call write rest word, s.threads thread = some ⟨call, write :: rest, some word⟩ →
      s.gpfsel write.bank = word
  | (_, .start (.gpioInit pin _)) =>
    ∀ other run, s.threads other = some run → ¬run.call.Targets pin.toNat
  | _ => True

end TrustWasm.Drivers
