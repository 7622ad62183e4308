import TrustWasm.Drivers.Clock
import TrustWasm.Drivers.Devices
import TrustWasm.Lib.Loop

/-!
# The I2C controller

The transfer functions of the I2C driver work on the registers of a serial controller:
they set the length and the address, start the transfer, and move bytes between a buffer
and the FIFO for as long as the status register asks for it.  Nothing is assumed about the
controller: `BscInput` says what each read of a register and of the clock answers, and a
transfer leaves the list of its accesses, in order, to the registers, the clock and the
caller's buffers.

The two inner loops count a counter down and are recursive in it.  The loops that wait for
the controller are bounded by a number of rounds, and a transfer that needs more of them
has no result.
-/

namespace TrustWasm.Drivers

open TrustWasm.Lib TrustWasm.Tee

/-! ## Registers -/

/-- Bits of the control register. -/
def bscCI2cen : BitVec 32 := 0x8000
def bscCSt : BitVec 32 := 0x80
def bscCClear : BitVec 32 := 0x10
def bscCRead : BitVec 32 := 0x01

/-- Bits of the status register. -/
def bscSClkt : BitVec 32 := 0x200
def bscSErr : BitVec 32 := 0x100
def bscSRxd : BitVec 32 := 0x20
def bscSTxd : BitVec 32 := 0x10
def bscSDone : BitVec 32 := 0x02
def bscSTa : BitVec 32 := 0x01

/-- The status bits a transfer clears by writing ones to them. -/
def bscSClear : BitVec 32 := bscSClkt ||| bscSErr ||| bscSDone

def bscFifoSize : Nat := 16

def i2cStartTimeoutUs : BitVec 64 := 1000

/-- One access of a transfer.  `loadHead` and `load` read the caller's prefix and data,
`store` writes the caller's data. -/
inductive BscAccess where
  | readControl (value : BitVec 32)
  | writeControl (value : BitVec 32)
  | readStatus (value : BitVec 32)
  | writeStatus (value : BitVec 32)
  | writeDlen (value : BitVec 32)
  | writeAddress (value : BitVec 32)
  | pushFifo (byte : Byte)
  | popFifo (byte : Byte)
  | readClock (micros : Nat)
  | loadHead (index : Nat)
  | load (index : Nat)
  | store (index : Nat) (byte : Byte)
  deriving DecidableEq

/-- The access reads one of the caller's buffers. -/
def BscAccess.isLoad : BscAccess → Bool
  | .loadHead _ | .load _ => true
  | _ => false

/-- What the reads of the control register, the status register, the FIFO and the clock
answer, each from the first read on.  The clock is in microseconds. -/
structure BscInput where
  control : Nat → BitVec 32
  status : Nat → BitVec 32
  fifo : Nat → BitVec 32
  clock : Nat → Nat

/-- A controller in use: how many reads of each kind there were, and all accesses. -/
structure Bsc where
  controls : Nat
  statuses : Nat
  fetched : Nat
  ticks : Nat
  trace : List BscAccess

namespace Bsc

variable (input : BscInput)

def log (s : Bsc) (access : BscAccess) : Bsc :=
  { s with trace := s.trace ++ [access] }

/-- The next read of the status register has `bit` set. -/
abbrev NextHas (bit : BitVec 32) (s : Bsc) : Prop :=
  input.status s.statuses &&& bit ≠ 0

def readStatus (s : Bsc) : Bsc :=
  { s with
    statuses := s.statuses + 1
    trace := s.trace ++ [.readStatus (input.status s.statuses)] }

/-- `io_setbits32` on the control register. -/
def setControl (mask : BitVec 32) (s : Bsc) : Bsc :=
  let value := input.control s.controls
  { s with
    controls := s.controls + 1
    trace := s.trace ++ [.readControl value, .writeControl (value ||| mask)] }

/-- `io_setbits32` on the status register. -/
def setStatus (mask : BitVec 32) (s : Bsc) : Bsc :=
  (s.readStatus input).log (.writeStatus (input.status s.statuses ||| mask))

def readClock (s : Bsc) : Bsc :=
  { s with
    ticks := s.ticks + 1
    trace := s.trace ++ [.readClock (input.clock s.ticks)] }

/-- Unless the transfer continues the last one, the FIFO and the status are cleared. -/
def clearUnlessCont (flags : BitVec 8) (s : Bsc) : Bsc :=
  if flags &&& i2cCont = 0 then
    (s.setControl input bscCClear).log (.writeStatus bscSClear)
  else
    s

/-- The tests of the error bits at the end of a transfer, with `remain` bytes not moved.
The read of the status register after a test that found an error is for the debug message. -/
def outcome (remain : Nat) (s : Bsc) : TeeResult × Bsc :=
  let tested := s.readStatus input
  if s.NextHas input bscSErr then
    (teeErrorNoData, tested.readStatus input)
  else if tested.NextHas input bscSClkt then
    (teeErrorTimeout, (tested.readStatus input).readStatus input)
  else if remain ≠ 0 then
    (teeErrorBadState, tested.readStatus input)
  else
    (teeSuccess, tested.readStatus input)

end Bsc

/-! ## Writing -/

/-- Where a write takes its bytes from: the access that loads the byte at a position of the
stream, and the byte. -/
structure BscSource where
  load : Nat → BscAccess
  byte : Nat → Byte
  isLoad_load : ∀ position, (load position).isLoad = true

/-- The counters of a write. -/
structure BscWrite where
  sent : Nat
  remain : Nat
  failSafe : Nat
  safeTimeout : Bool
  bsc : Bsc

namespace BscWrite

variable (input : BscInput) (source : BscSource)

def readStatus (w : BscWrite) : BscWrite :=
  { w with bsc := w.bsc.readStatus input }

def push (w : BscWrite) : BscWrite :=
  { w with
    sent := w.sent + 1
    remain := w.remain - 1
    bsc := (w.bsc.log (source.load w.sent)).log (.pushFifo (source.byte w.sent)) }

/-- The loop that fills the FIFO before the start; it runs at most `bscFifoSize` times. -/
def prefill : Nat → BscWrite → BscWrite
  | 0, w => w
  | rounds + 1, w =>
    if w.remain ≠ 0 ∧ w.sent < bscFifoSize then
      prefill rounds (w.push source)
    else
      w

/-- A counter of 64 bits goes down; below zero it wraps. -/
def decrement (counter : Nat) : Nat :=
  if counter = 0 then 2 ^ 64 - 1 else counter - 1

/-- `if(--fail_safe==0)`. -/
def countDown (w : BscWrite) : BscWrite :=
  { w with
    failSafe := decrement w.failSafe
    safeTimeout := w.safeTimeout || decrement w.failSafe == 0 }

/-- The inner loop, with `remain` as the recursion's counter.  The break of a timeout is
the test of the next round. -/
def fill : Nat → BscWrite → BscWrite
  | 0, w => w
  | remain + 1, w =>
    if w.safeTimeout = true then
      w
    else if w.bsc.NextHas input bscSTxd then
      fill remain (((w.readStatus input).push source).countDown)
    else
      w.readStatus input

/-- A round of the outer loop. -/
def round (w : BscWrite) : Round BscWrite BscWrite :=
  if w.safeTimeout = true then
    .done w
  else if w.bsc.NextHas input bscSDone then
    .done (w.readStatus input)
  else
    .again (fill input source w.remain (w.readStatus input)).countDown

def finish (w : BscWrite) : TeeResult × Bsc :=
  let (res, bsc) :=
    if w.safeTimeout = true then (teeErrorTimeout, w.bsc) else w.bsc.outcome input w.remain
  (res, bsc.setStatus input bscSClear)

/-- A write once the length and the address are set. -/
def transmit (rounds : Nat) (w : BscWrite) : Option (TeeResult × Bsc) :=
  let filled := w.prefill source bscFifoSize
  let started := { filled with bsc := filled.bsc.log (.writeControl (bscCI2cen ||| bscCSt)) }
  (Loop.run (round input source) rounds started).map (finish input)

end BscWrite

/-! ## Reading -/

/-- The counters of a read; `received` are the bytes stored so far. -/
structure BscRead where
  received : List Byte
  remain : Nat
  bsc : Bsc

namespace BscRead

variable (input : BscInput)

def readStatus (r : BscRead) : BscRead :=
  { r with bsc := r.bsc.readStatus input }

def pop (r : BscRead) : BscRead :=
  let byte := (input.fifo r.bsc.fetched).setWidth 8
  { received := r.received ++ [byte]
    remain := r.remain - 1
    bsc :=
      { r.bsc with
        fetched := r.bsc.fetched + 1
        trace := r.bsc.trace ++ [.popFifo byte, .store r.received.length byte] } }

/-- The loop that empties the FIFO, with `remain` as the recursion's counter. -/
def drain : Nat → BscRead → BscRead
  | 0, r => r
  | remain + 1, r =>
    if r.bsc.NextHas input bscSRxd then
      drain remain ((r.readStatus input).pop input)
    else
      r.readStatus input

/-- A round of the loop that waits for the end of the transfer. -/
def round (r : BscRead) : Round BscRead BscRead :=
  if r.bsc.NextHas input bscSDone then
    .done (r.readStatus input)
  else
    .again (drain input r.remain (r.readStatus input))

def finish (r : BscRead) : Transfer × Bsc :=
  let drained := r.drain input r.remain
  let (res, bsc) := drained.bsc.outcome input drained.remain
  (⟨res, drained.received⟩, bsc.log (.writeStatus bscSClear))

/-- A read once the length and the address are set. -/
def receive (rounds : Nat) (len : Nat) (s : Bsc) : Option (Transfer × Bsc) :=
  let started := s.log (.writeControl (bscCI2cen ||| bscCSt ||| bscCRead))
  (Loop.run (round input) rounds ⟨[], len, started⟩).map (finish input)

end BscRead

/-! ## The transfer functions -/

namespace Bsc

variable (input : BscInput) (rounds : Nat)

/-- The length and the address of a transfer to a 7-bit address. -/
def select (dlen : BitVec 32) (addr : BitVec 16) (s : Bsc) : Bsc :=
  (s.log (.writeDlen dlen)).log (.writeAddress ((addr.setWidth 8).setWidth 32))

/-- What the wait for the start of a 10-bit transfer ends with. -/
structure Waited where
  transferActive : Bool
  elapsed : BitVec 64
  bsc : Bsc

/-- A round of the wait for the start of a 10-bit transfer, begun at `start`. -/
def waitRound (start : Nat) (s : Bsc) : Round Bsc Waited :=
  let transferActive := decide (s.NextHas input bscSTa)
  let elapsed := Drivers.elapsed (.ofMicros start) (.ofMicros (input.clock s.ticks))
  let next := (s.readStatus input).readClock input
  if transferActive = false ∧ elapsed ≤ i2cStartTimeoutUs then
    .again next
  else
    .done ⟨transferActive, elapsed, next⟩

/-- The address phase of a 10-bit read up to the first reading of the clock. -/
def sendAddr10 (addr : BitVec 16) (s : Bsc) : Bsc :=
  (((s.log (.writeDlen 1)).log (.pushFifo (addr.setWidth 8))).log
    (.writeAddress (((addr >>> 8 &&& 0x03).setWidth 8 ||| 0x78#8).setWidth 32))).log
      (.writeControl (bscCSt ||| bscCI2cen))

/-- A 10-bit read from the end of the wait on. -/
def afterWait (len : BitVec 16) (waited : Waited) : Option (Transfer × Bsc) :=
  if i2cStartTimeoutUs < waited.elapsed then
    some (⟨teeErrorTimeout, []⟩, waited.bsc.log (.writeStatus bscSClear))
  else if waited.transferActive = true then
    BscRead.receive input rounds len.toNat (waited.bsc.log (.writeDlen (len.setWidth 32)))
  else
    some (⟨teeErrorTimeout, []⟩, waited.bsc.log (.writeStatus bscSClear))

def i2cReadBytes (dev : BitVec 8) (addr : BitVec 16) (isNull : Bool) (len : BitVec 16)
    (flags : BitVec 8) (s : Bsc) : Option (Transfer × Bsc) :=
  if i2cNum ≤ dev.toNat ∨ len = 0 ∨ isNull = true then
    some (⟨teeErrorBadParameters, []⟩, s)
  else
    let s := s.clearUnlessCont input flags
    if flags &&& i2cAddr10 ≠ 0 then
      let s := s.sendAddr10 addr
      let start := input.clock s.ticks
      (Loop.run (waitRound input start) rounds ((s.readClock input).readClock input)).bind
        (afterWait input rounds len)
    else
      BscRead.receive input rounds len.toNat (s.select (len.setWidth 32) addr)

/-- The length of a write to a 10-bit address; both address bytes go into the FIFO. -/
def select10 (len addr : BitVec 16) (s : Bsc) : Bsc :=
  ((s.log (.writeDlen (BitVec.ofNat 32 (len.toNat + 1)))).log (.pushFifo (addr.setWidth 8))).log
    (.pushFifo ((addr >>> 8 &&& 0x03).setWidth 8 ||| 0x78))

/-- The bytes of one buffer. -/
def plainSource (data : Nat → Byte) : BscSource where
  load := .load
  byte := data
  isLoad_load _ := rfl

/-- `i2c_write_bytes`, where `data` is the memory from the pointer on, or `none` for a null
pointer.  The 10-bit path counts one of the two address bytes as sent data. -/
def i2cWriteBytes (dev : BitVec 8) (addr : BitVec 16) (data : Option (Nat → Byte))
    (len : BitVec 16) (flags : BitVec 8) (s : Bsc) : Option (TeeResult × Bsc) :=
  match data with
  | none => some (teeErrorBadParameters, s)
  | some data =>
    if i2cNum ≤ dev.toNat ∨ len = 0 ∨ (len = 0xFFFF ∧ flags &&& i2cAddr10 ≠ 0) then
      some (teeErrorBadParameters, s)
    else
      let s := s.clearUnlessCont input flags
      let failSafe := len.toNat * 10000
      if flags &&& i2cAddr10 ≠ 0 then
        BscWrite.transmit input (plainSource data) rounds
          { sent := 1
            remain := len.toNat
            failSafe := failSafe
            safeTimeout := false
            bsc := s.select10 len addr }
      else
        BscWrite.transmit input (plainSource data) rounds
          { sent := 0
            remain := len.toNat
            failSafe := failSafe
            safeTimeout := false
            bsc := s.select (len.setWidth 32) addr }

/-- The bytes of a prefix of `headLen` bytes, then those of the data. -/
def prefixedSource (head : Nat → Byte) (headLen : Nat) (data : Nat → Byte) : BscSource where
  load position := if position < headLen then .loadHead position else .load (position - headLen)
  byte position := if position < headLen then head position else data (position - headLen)
  isLoad_load position := by split <;> rfl

/-- `i2c_write_with_prefix`; the count of the bytes left is cut to 16 bits. -/
def i2cWriteWithPrefix (dev : BitVec 8) (addr : BitVec 16) (head : Option (Nat → Byte))
    (headLen : BitVec 16) (data : Option (Nat → Byte)) (len : BitVec 16) (flags : BitVec 8)
    (s : Bsc) : Option (TeeResult × Bsc) :=
  match head, data with
  | some head, some data =>
    if i2cNum ≤ dev.toNat ∨ len = 0 ∨ (len = 0xFFFF ∧ flags &&& i2cAddr10 ≠ 0) then
      some (teeErrorBadParameters, s)
    else if flags &&& i2cAddr10 ≠ 0 then
      some (teeErrorNotImplemented, s)
    else
      let s := s.clearUnlessCont input flags
      BscWrite.transmit input (prefixedSource head headLen.toNat data) rounds
        { sent := 0
          remain := (headLen + len).toNat
          failSafe := (headLen.toNat + len.toNat) * 10000
          safeTimeout := false
          bsc := s.select (headLen.setWidth 32 + len.setWidth 32) addr }
  | _, _ => some (teeErrorBadParameters, s)

end Bsc

/-! ## What a list of accesses moved -/

section Trace

variable (accesses more : List BscAccess)

/-- The bytes put into the FIFO. -/
def pushes : List Byte :=
  accesses.filterMap fun
    | .pushFifo byte => some byte
    | _ => none

/-- The loads from the caller's buffers. -/
def loads : List BscAccess :=
  accesses.filter BscAccess.isLoad

/-- The lengths set. -/
def lengths : List (BitVec 32) :=
  accesses.filterMap fun
    | .writeDlen value => some value
    | _ => none

/-- The bytes taken from the FIFO. -/
def pops : List Byte :=
  accesses.filterMap fun
    | .popFifo byte => some byte
    | _ => none

/-- The bytes stored in the caller's buffer, with their offsets. -/
def stores : List (Nat × Byte) :=
  accesses.filterMap fun
    | .store index byte => some (index, byte)
    | _ => none

@[simp]
theorem pushes_append : pushes (accesses ++ more) = pushes accesses ++ pushes more :=
  List.filterMap_append

@[simp]
theorem loads_append : loads (accesses ++ more) = loads accesses ++ loads more :=
  List.filter_append ..

@[simp]
theorem lengths_append : lengths (accesses ++ more) = lengths accesses ++ lengths more :=
  List.filterMap_append

@[simp]
theorem pops_append : pops (accesses ++ more) = pops accesses ++ pops more :=
  List.filterMap_append

@[simp]
theorem stores_append : stores (accesses ++ more) = stores accesses ++ stores more :=
  List.filterMap_append

/-- The accesses move no byte and set no length. -/
structure Idle : Prop where
  pushed : pushes accesses = []
  loaded : loads accesses = []
  sized : lengths accesses = []
  popped : pops accesses = []
  stored : stores accesses = []

end Trace

theorem Idle.append {accesses more : List BscAccess} (first : Idle accesses)
    (second : Idle more) : Idle (accesses ++ more) where
  pushed := by rw [pushes_append, first.pushed, second.pushed, List.append_nil]
  loaded := by rw [loads_append, first.loaded, second.loaded, List.append_nil]
  sized := by rw [lengths_append, first.sized, second.sized, List.append_nil]
  popped := by rw [pops_append, first.popped, second.popped, List.append_nil]
  stored := by rw [stores_append, first.stored, second.stored, List.append_nil]

namespace Bsc

variable (input : BscInput)

/-! ## The parts the transfers share -/

theorem clearUnlessCont_idle (flags : BitVec 8) (s : Bsc) :
    ∃ new, (s.clearUnlessCont input flags).trace = s.trace ++ new ∧ Idle new ∧
      new.length ≤ 3 := by
  unfold clearUnlessCont
  split
  · exact ⟨_, List.append_assoc _ _ _, ⟨rfl, rfl, rfl, rfl, rfl⟩, Nat.le_refl 3⟩
  · exact ⟨[], (List.append_nil _).symm, ⟨rfl, rfl, rfl, rfl, rfl⟩, Nat.zero_le 3⟩

@[simp]
theorem clearUnlessCont_statuses (flags : BitVec 8) (s : Bsc) :
    (s.clearUnlessCont input flags).statuses = s.statuses := by
  unfold clearUnlessCont
  split <;> rfl

theorem select_trace (dlen : BitVec 32) (addr : BitVec 16) (s : Bsc) :
    ∃ new, (s.select dlen addr).trace = s.trace ++ new ∧ pushes new = [] ∧ loads new = [] ∧
      lengths new = [dlen] ∧ pops new = [] ∧ stores new = [] ∧ new.length = 2 :=
  ⟨_, List.append_assoc _ _ _, rfl, rfl, rfl, rfl, rfl, rfl⟩

theorem select10_trace (len addr : BitVec 16) (s : Bsc) :
    ∃ new, (s.select10 len addr).trace = s.trace ++ new ∧
      pushes new = [addr.setWidth 8, (addr >>> 8 &&& 0x03).setWidth 8 ||| 0x78] ∧
      loads new = [] ∧ lengths new = [BitVec.ofNat 32 (len.toNat + 1)] ∧ new.length = 3 :=
  ⟨_, (List.append_assoc _ _ _).trans (List.append_assoc _ _ _), rfl, rfl, rfl, rfl⟩

/-- What the tests at the end of a transfer found, with the accesses they made. -/
inductive Outcome (remain : Nat) : TeeResult → List BscAccess → Prop where
  | nack (tested shown : BitVec 32) (set : tested &&& bscSErr ≠ 0) :
      Outcome remain teeErrorNoData [.readStatus tested, .readStatus shown]
  | stretched (tested again shown : BitVec 32) (clear : tested &&& bscSErr = 0)
      (set : again &&& bscSClkt ≠ 0) :
      Outcome remain teeErrorTimeout [.readStatus tested, .readStatus again, .readStatus shown]
  | incomplete (tested again : BitVec 32) (clear : tested &&& bscSErr = 0)
      (unstretched : again &&& bscSClkt = 0) (left : remain ≠ 0) :
      Outcome remain teeErrorBadState [.readStatus tested, .readStatus again]
  | complete (tested again : BitVec 32) (clear : tested &&& bscSErr = 0)
      (unstretched : again &&& bscSClkt = 0) (all : remain = 0) :
      Outcome remain teeSuccess [.readStatus tested, .readStatus again]

theorem outcome_spec (remain : Nat) (s : Bsc) :
    ∃ new, (s.outcome input remain).2.trace = s.trace ++ new ∧
      Outcome remain (s.outcome input remain).1 new := by
  unfold outcome
  simp only
  split
  · rename_i set
    exact ⟨_, by simp [readStatus], .nack _ (input.status (s.statuses + 1)) set⟩
  · rename_i clear
    split
    · rename_i set
      exact ⟨_, by simp [readStatus],
        .stretched _ _ (input.status (s.statuses + 1 + 1)) (not_not.mp clear) set⟩
    · rename_i unstretched
      split
      · rename_i left
        exact ⟨_, by simp [readStatus],
          .incomplete _ _ (not_not.mp clear) (not_not.mp unstretched) left⟩
      · rename_i all
        exact ⟨_, by simp [readStatus],
          .complete _ _ (not_not.mp clear) (not_not.mp unstretched) (not_not.mp all)⟩

theorem outcome_clear {s : Bsc} (noErr : ¬s.NextHas input bscSErr)
    (noClkt : ¬(s.readStatus input).NextHas input bscSClkt) :
    (s.outcome input 0).1 = teeSuccess := by
  unfold outcome
  simp only [if_neg noErr, if_neg noClkt, ne_eq, not_true_eq_false, if_false]

variable {remain : Nat} {res : TeeResult} {new : List BscAccess}

theorem Outcome.idle (outcome : Outcome remain res new) : Idle new := by
  cases outcome <;> exact ⟨rfl, rfl, rfl, rfl, rfl⟩

theorem Outcome.length_le (outcome : Outcome remain res new) : new.length ≤ 3 := by
  cases outcome <;> simp

theorem Outcome.all_of_success (outcome : Outcome remain teeSuccess new) : remain = 0 := by
  generalize code : teeSuccess = res at outcome
  cases outcome with
  | complete tested again clear unstretched all => exact all
  | nack | stretched | incomplete => exact absurd code (by decide)

theorem Outcome.i2cOutcome (outcome : Outcome remain res new) : I2cOutcome res := by
  cases outcome <;> simp [I2cOutcome]

end Bsc

end TrustWasm.Drivers
