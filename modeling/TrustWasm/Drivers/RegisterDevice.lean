import TrustWasm.Drivers.BscBus
import TrustWasm.Lib.Replay

/-!
# A device with byte registers on the I2C bus

The controller has one FIFO for both directions, which nothing but the CLEAR bit empties.  A write
of one byte sets the pointer of the device, and a read of one byte puts the register at the pointer
into the FIFO.  The transaction takes place at any moment after the start, or fails; DONE is shown
only when it is over.

The driver's accesses, with the answers it got, are followed on this hardware.  A write of one byte
that succeeds leaves the FIFO empty and the pointer set, and a read that succeeds has taken the
register and leaves the FIFO empty, whether or not the driver clears the FIFO before.
-/

namespace TrustWasm.Drivers

open TrustWasm.Lib TrustWasm.Tee

/-- A device with 256 registers. -/
structure RegisterDevice where
  address : BitVec 7
  registers : Byte → Byte

namespace RegisterDevice

inductive Direction where
  | send
  | receive

inductive Failure where
  | nack
  | stretch

/-- The status bit that shows a failure. -/
def Failure.bit : Failure → BitVec 32
  | nack => bscSErr
  | stretch => bscSClkt

/-- The controller and the pointer of the device: the FIFO, the address and length registers, the
transaction under way and how the last one failed. -/
structure Wire where
  fifo : List Byte
  pointer : Byte
  address : BitVec 32
  dlen : BitVec 32
  pending : Option Direction
  failed : Option Failure

/-- The end of a transaction.  A read may end without a byte; a write that does not reach the device
fails. -/
inductive Acts (device : RegisterDevice) : Wire → Wire → Prop where
  | deliver {wire : Wire} {byte : Byte} {rest : List Byte} (sending : wire.pending = some .send)
      (selected : wire.address = device.address.setWidth 32) (single : wire.dlen = 1)
      (holds : wire.fifo = byte :: rest) :
      Acts device wire { wire with fifo := rest, pointer := byte, pending := none }
  | answer {wire : Wire} (receiving : wire.pending = some .receive)
      (selected : wire.address = device.address.setWidth 32) (single : wire.dlen = 1)
      (room : wire.fifo.length < bscFifoSize) :
      Acts device wire
        { wire with fifo := wire.fifo ++ [device.registers wire.pointer], pending := none }
  | starve {wire : Wire} (receiving : wire.pending = some .receive) :
      Acts device wire { wire with pending := none }
  | fail {wire : Wire} {direction : Direction} (started : wire.pending = some direction)
      (failure : Failure) :
      Acts device wire { wire with pending := none, failed := some failure }

namespace Wire

/-- What the status register may show. -/
structure Shows (wire : Wire) (value : BitVec 32) : Prop where
  rxd : value &&& bscSRxd ≠ 0 ↔ wire.fifo ≠ []
  done : value &&& bscSDone ≠ 0 → wire.pending = none
  err : value &&& bscSErr ≠ 0 ↔ wire.failed = some .nack
  clkt : value &&& bscSClkt ≠ 0 ↔ wire.failed = some .stretch

/-- A write of the control register; its start bit reads as zero. -/
def control (wire : Wire) (value : BitVec 32) : Wire :=
  { wire with
    fifo := if value &&& bscCClear = 0 then wire.fifo else []
    pending :=
      if value &&& bscCSt = 0 then wire.pending
      else some (if value &&& bscCRead = 0 then .send else .receive) }

/-- A byte pushed to a full FIFO is lost. -/
def push (wire : Wire) (byte : Byte) : Wire :=
  { wire with fifo := if wire.fifo.length < bscFifoSize then wire.fifo ++ [byte] else wire.fifo }

/-- One access of the driver with its answer; nothing is known of a byte from an empty FIFO. -/
def access (wire : Wire) : BscAccess → Wire → Prop
  | .readControl value, after => value &&& bscCSt = 0 ∧ after = wire
  | .writeControl value, after => after = wire.control value
  | .readStatus value, after => wire.Shows value ∧ after = wire
  | .writeStatus value, after =>
    after = { wire with failed := wire.failed.filter fun failure => value &&& failure.bit = 0 }
  | .writeDlen value, after => after = { wire with dlen := value }
  | .writeAddress value, after => after = { wire with address := value }
  | .pushFifo byte, after => after = wire.push byte
  | .popFifo byte, after =>
    match wire.fifo with
    | [] => after = wire
    | head :: rest => byte = head ∧ after = { wire with fifo := rest }
  | .readClock _, after | .loadHead _, after | .load _, after | .store .., after => after = wire

/-- The FIFO is empty, no transaction is under way and the device points to `pointer`. -/
structure RestsAt (pointer : Byte) (wire : Wire) : Prop where
  empty : wire.fifo = []
  isOver : wire.pending = none
  points : wire.pointer = pointer

end Wire

/-- The controller and the device, as the driver's accesses meet them. -/
def hardware (device : RegisterDevice) : Peripheral Wire BscAccess where
  settles wire after := after = wire ∨ Acts device wire after
  access := Wire.access

variable {device : RegisterDevice} {wire after : Wire}

/-- Without a transaction under way the hardware does not move. -/
theorem eq_of_settles (isOver : wire.pending = none)
    (settles : device.hardware.settles wire after) :
    after = wire := by
  rcases settles with same | acts
  · exact same
  · cases acts with
    | deliver started | answer started | starve started | fail started =>
      simp [isOver] at started

variable {pre middle post : Wire → Prop} {label : BscAccess}

/-- An access while no transaction is under way. -/
theorem takes_over (isOver : ∀ wire, pre wire → wire.pending = none)
    (step : ∀ wire after, pre wire → wire.access label after → post after) :
    device.hardware.Takes pre [label] post := by
  refine Peripheral.takes_one fun source settled target holds settles access => ?_
  obtain rfl := eq_of_settles (isOver source holds) settles
  exact step settled target holds access

/-! ## Parts of a transfer -/

/-- The accesses between two states of the driver lead the hardware from `pre` to `post`. -/
def Drives (device : RegisterDevice) (pre : Wire → Prop) (s s' : Bsc) (post : Wire → Prop) : Prop :=
  ∃ new, s'.trace = s.trace ++ new ∧ device.hardware.Takes pre new post

variable {s s' s'' : Bsc} {pointer : Byte}

theorem Drives.trans (first : Drives device pre s s' middle)
    (second : Drives device middle s' s'' post) : Drives device pre s s'' post := by
  obtain ⟨new, trace, takes⟩ := first
  obtain ⟨added, trace', takes'⟩ := second
  exact ⟨new ++ added, by rw [trace', trace, List.append_assoc], takes.append takes'⟩

theorem drives_refl (s : Bsc) : Drives device pre s s pre :=
  ⟨[], (List.append_nil _).symm, Peripheral.takes_nil⟩

theorem Drives.mono {weak : Wire → Prop} (drives : Drives device pre s s' post)
    (weaker : ∀ wire, post wire → weak wire) : Drives device pre s s' weak := by
  obtain ⟨new, trace, takes⟩ := drives
  exact ⟨new, trace, takes.mono (fun _ => id) weaker⟩

theorem drives_log (takes : device.hardware.Takes pre [label] post) :
    Drives device pre s (s.log label) post :=
  ⟨[label], rfl, takes⟩

/-- A read of the status register, with what it shows. -/
theorem drives_readStatus (input : BscInput)
    (step : ∀ source wire, pre source → device.hardware.settles source wire →
      wire.Shows (input.status s.statuses) → post wire) :
    Drives device pre s (s.readStatus input) post := by
  refine ⟨_, rfl, Peripheral.takes_one fun source settled target holds settles access => ?_⟩
  obtain ⟨shows, rfl⟩ := access
  exact step source target holds settles shows

/-- A read of the status register while no transaction is under way. -/
theorem drives_readStatus_over (input : BscInput) (isOver : ∀ wire, pre wire → wire.pending = none)
    (step : ∀ wire, pre wire → wire.Shows (input.status s.statuses) → post wire) :
    Drives device pre s (s.readStatus input) post :=
  drives_readStatus input fun source wire holds settles shows => by
    obtain rfl := eq_of_settles (isOver source holds) settles
    exact step wire holds shows

theorem takes_writeStatus (value : BitVec 32) :
    device.hardware.Takes (Wire.RestsAt pointer) [.writeStatus value] (Wire.RestsAt pointer) := by
  refine takes_over (fun _ rests => rests.isOver) ?_
  rintro wire _ rests rfl
  exact ⟨rests.empty, rests.isOver, rests.points⟩

/-- Setting the CLEAR bit starts nothing. -/
theorem control_clear {value : BitVec 32} (idle : value &&& bscCSt = 0) (wire : Wire) :
    wire.control (value ||| bscCClear) = { wire with fifo := [] } := by
  have clear : (value ||| bscCClear) &&& bscCClear ≠ 0 := by
    rw [BitVec.and_or_distrib_right, BitVec.and_self]
    intro none
    exact absurd (BitVec.or_eq_zero_iff.mp none).2 (by decide)
  have still : (value ||| bscCClear) &&& bscCSt = 0 := by
    rw [BitVec.and_or_distrib_right, idle]
    rfl
  simp only [Wire.control, if_neg clear, if_pos still]

/-- The start of a transfer finds the hardware at rest, whether or not it clears the FIFO. -/
theorem drives_clearUnlessCont (input : BscInput) (flags : BitVec 8) (s : Bsc) :
    Drives device (Wire.RestsAt pointer) s (s.clearUnlessCont input flags)
      (Wire.RestsAt pointer) := by
  unfold Bsc.clearUnlessCont
  split
  · refine ⟨_, List.append_assoc _ _ _, Peripheral.Takes.append ?_ (takes_writeStatus bscSClear)⟩
    have looked : device.hardware.Takes (Wire.RestsAt pointer)
        [.readControl (input.control s.controls)]
        (fun wire => wire.RestsAt pointer ∧ input.control s.controls &&& bscCSt = 0) := by
      refine takes_over (fun _ rests => rests.isOver) ?_
      rintro wire _ rests ⟨idle, rfl⟩
      exact ⟨rests, idle⟩
    refine looked.cons (takes_over (fun _ rests => rests.1.isOver) ?_)
    rintro wire _ ⟨rests, idle⟩ rfl
    rw [control_clear idle]
    exact ⟨rfl, rests.isOver, rests.points⟩
  · exact drives_refl s

theorem drives_select (dlen : BitVec 32) (addr : BitVec 16) (s : Bsc) :
    Drives device (Wire.RestsAt pointer) s (s.select dlen addr) (Wire.RestsAt pointer) := by
  have sized : device.hardware.Takes (Wire.RestsAt pointer) [.writeDlen dlen]
      (Wire.RestsAt pointer) := by
    refine takes_over (fun _ rests => rests.isOver) ?_
    rintro wire _ rests rfl
    exact ⟨rests.empty, rests.isOver, rests.points⟩
  refine (drives_log sized).trans (drives_log (takes_over (fun _ rests => rests.isOver) ?_))
  rintro wire _ rests rfl
  exact ⟨rests.empty, rests.isOver, rests.points⟩

/-- The tests at the end of a transfer that succeeds. -/
theorem outcome_success {input : BscInput} {remain : Nat}
    (success : (s.outcome input remain).1 = teeSuccess) :
    ¬s.NextHas input bscSErr ∧ ¬(s.readStatus input).NextHas input bscSClkt ∧
      (s.outcome input remain).2 = (s.readStatus input).readStatus input := by
  unfold Bsc.outcome at success ⊢
  simp only at success ⊢
  split at success
  · exact absurd success (show teeErrorNoData ≠ teeSuccess by decide)
  · rename_i noErr
    split at success
    · exact absurd success (show teeErrorTimeout ≠ teeSuccess by decide)
    · rename_i noClkt
      rw [if_neg noErr, if_neg noClkt]
      refine ⟨noErr, noClkt, ?_⟩
      split <;> rfl

/-- The tests of the error bits find that the transaction has not failed. -/
theorem drives_tests {input : BscInput} (isOver : ∀ wire, pre wire → wire.pending = none)
    (noErr : ¬s.NextHas input bscSErr) (noClkt : ¬(s.readStatus input).NextHas input bscSClkt) :
    Drives device pre s ((s.readStatus input).readStatus input)
      (fun wire => pre wire ∧ wire.failed = none) := by
  have acknowledged : Drives device pre s (s.readStatus input)
      (fun wire => pre wire ∧ wire.failed ≠ some .nack) :=
    drives_readStatus_over input isOver fun wire holds shows =>
      ⟨holds, fun nack => noErr (shows.err.mpr nack)⟩
  refine acknowledged.trans (drives_readStatus_over input (fun wire holds => isOver wire holds.1)
    fun wire holds shows => ⟨holds.1, ?_⟩)
  match state : wire.failed with
  | none => rfl
  | some .nack => exact absurd state holds.2
  | some .stretch => exact absurd (shows.clkt.mpr state) noClkt

/-! ## A write of one byte -/

/-- The byte is still in the FIFO, or the transaction is over: it has failed or set the pointer. -/
def Sending (byte : Byte) (wire : Wire) : Prop :=
  (wire.pending = some .send ∧ wire.fifo = [byte]) ∨
    (wire.pending = none ∧ (wire.failed = none → wire.fifo = [] ∧ wire.pointer = byte))

variable {byte : Byte}

theorem Sending.settles (sending : Sending byte wire)
    (settles : device.hardware.settles wire after) : Sending byte after := by
  rcases sending with ⟨started, loaded⟩ | ended
  · rcases settles with rfl | acts
    · exact .inl ⟨started, loaded⟩
    · cases acts with
      | deliver _ _ _ holds =>
        rw [loaded] at holds
        cases holds
        exact .inr ⟨rfl, fun _ => ⟨rfl, rfl⟩⟩
      | answer receiving => simp [started] at receiving
      | starve receiving => simp [started] at receiving
      | fail _ failure => exact .inr ⟨rfl, fun none => by cases none⟩
  · obtain rfl := eq_of_settles ended.1 settles
    exact .inr ended

theorem takes_load (index : Nat) :
    device.hardware.Takes (Wire.RestsAt pointer) [.load index] (Wire.RestsAt pointer) := by
  refine takes_over (fun _ rests => rests.isOver) ?_
  rintro wire _ rests rfl
  exact rests

theorem takes_push (byte : Byte) :
    device.hardware.Takes (Wire.RestsAt pointer) [.pushFifo byte]
      (fun wire => wire.fifo = [byte] ∧ wire.pending = none) := by
  refine takes_over (fun _ rests => rests.isOver) ?_
  rintro wire _ rests rfl
  refine ⟨?_, rests.isOver⟩
  simp [Wire.push, rests.empty, bscFifoSize]

theorem takes_start_write (byte : Byte) :
    device.hardware.Takes (fun wire => wire.fifo = [byte] ∧ wire.pending = none)
      [.writeControl (bscCI2cen ||| bscCSt)] (Sending byte) := by
  refine takes_over (fun _ holds => holds.2) ?_
  rintro wire _ holds rfl
  exact .inl ⟨rfl, holds.1⟩

/-- A write of one byte up to the loop that waits for its end. -/
theorem drives_started (data : Nat → Byte) (s : Bsc) :
    Drives device (Wire.RestsAt pointer) s
      (BscWrite.started (Bsc.plainSource data) ⟨0, 1, 10000, false, s⟩).bsc (Sending (data 0)) :=
  ((drives_log (takes_load 0)).trans (drives_log (takes_push (data 0)))).trans
    (drives_log (takes_start_write (data 0)))

/-- The loop that waits for the end of a write that has nothing left to push. -/
theorem drives_wait {input : BscInput} {source : BscSource} {start last : BscWrite}
    (pushed : start.remain = 0) (begun : Drives device pre s start.bsc (Sending byte))
    (returns : Loop.Returns (BscWrite.round input source) start last)
    (timely : last.safeTimeout = false) :
    Drives device pre s last.bsc (fun wire => Sending byte wire ∧ wire.pending = none) := by
  refine Loop.Returns.invariant
    (I := fun w : BscWrite => w.remain = 0 ∧ Drives device pre s w.bsc (Sending byte))
    (Q := fun w : BscWrite => w.safeTimeout = false →
      Drives device pre s w.bsc (fun wire => Sending byte wire ∧ wire.pending = none))
    returns ⟨pushed, begun⟩ ?_ ?_ timely
  · rintro w w' ⟨pushed, drives⟩ goesOn
    unfold BscWrite.round at goesOn
    split at goesOn
    · cases goesOn
    · split at goesOn
      · cases goesOn
      · rw [pushed] at goesOn
        cases goesOn
        exact ⟨pushed, drives.trans
          (drives_readStatus input fun _ _ sending settles _ => sending.settles settles)⟩
  · rintro w w' ⟨pushed, drives⟩ ends timely
    unfold BscWrite.round at ends
    split at ends
    · rename_i late
      cases ends
      rw [late] at timely
      cases timely
    · split at ends
      · rename_i done
        cases ends
        exact drives.trans (drives_readStatus input fun _ _ sending settles shows =>
          ⟨sending.settles settles, shows.done done⟩)
      · cases ends

theorem finish_success {input : BscInput} {w : BscWrite}
    (success : (w.finish input).1 = teeSuccess) :
    w.safeTimeout = false ∧ (w.bsc.outcome input w.remain).1 = teeSuccess ∧
      (w.finish input).2 = (w.bsc.outcome input w.remain).2.setStatus input bscSClear := by
  unfold BscWrite.finish at success ⊢
  cases late : w.safeTimeout with
  | false =>
    rw [late] at success
    exact ⟨rfl, success, rfl⟩
  | true =>
    rw [late] at success
    exact absurd success (show teeErrorTimeout ≠ teeSuccess by decide)

variable {input : BscInput} {rounds : Nat} {dev : BitVec 8} {addr : BitVec 16} {flags : BitVec 8}

/-- A write of one byte that succeeds has set the pointer and leaves the FIFO empty. -/
theorem write_drives {data : Nat → Byte} (addr7 : flags &&& i2cAddr10 = 0)
    (ran : Bsc.i2cWriteBytes input rounds dev addr (some data) 1 flags s = some (teeSuccess, s')) :
    Drives device (Wire.RestsAt pointer) s s' (Wire.RestsAt (data 0)) := by
  by_cases bus : dev.toNat < i2cNum
  · rw [Bsc.i2cWriteBytes_addr7 _ _ _ _ _ _ _ _ bus (by decide) addr7, BscWrite.transmit_eq,
      Option.map_eq_some_iff] at ran
    obtain ⟨last, looped, finished⟩ := ran
    obtain ⟨timely, success, ended⟩ := finish_success (congrArg Prod.fst finished)
    obtain ⟨noErr, noClkt, tested⟩ := outcome_success success
    obtain rfl : (last.finish input).2 = s' := congrArg Prod.snd finished
    rw [ended, tested]
    have waited : Drives device (Wire.RestsAt pointer) s last.bsc
        (fun wire => Sending (data 0) wire ∧ wire.pending = none) :=
      drives_wait rfl (((drives_clearUnlessCont input flags s).trans (drives_select _ addr _)).trans
        (drives_started data _)) ⟨rounds, looped⟩ timely
    have checked : Drives device (Wire.RestsAt pointer) s _ (Wire.RestsAt (data 0)) :=
      (waited.trans (drives_tests (fun _ holds => holds.2) noErr noClkt)).mono fun wire holds => by
        obtain ⟨⟨sending, isOver⟩, sound⟩ := holds
        rcases sending with ⟨started, -⟩ | ⟨-, reached⟩
        · simp [isOver] at started
        · exact ⟨(reached sound).1, isOver, (reached sound).2⟩
    exact (checked.trans (drives_readStatus_over input (fun _ rests => rests.isOver)
      fun _ rests _ => rests)).trans (drives_log (takes_writeStatus _))
  · rw [Bsc.i2cWriteBytes_rejected _ _ _ _ _ _ _ _ (.inl (Nat.le_of_not_lt bus))] at ran
    exact absurd (congrArg Prod.fst (Option.some.inj ran))
      (show teeErrorBadParameters ≠ teeSuccess by decide)

/-! ## A read of one byte -/

/-- Of the register at the pointer the driver has taken `received`, and the FIFO holds the rest,
if the transaction is over. -/
structure Receiving (device : RegisterDevice) (pointer : Byte) (received : List Byte)
    (wire : Wire) : Prop where
  points : wire.pointer = pointer
  stream : (wire.pending = some .receive ∧ wire.fifo = [] ∧ received = []) ∨
    (wire.pending = none ∧
      (received ++ wire.fifo = [] ∨ received ++ wire.fifo = [device.registers pointer]))

variable {received : List Byte}

theorem Receiving.settles (receiving : Receiving device pointer received wire)
    (settles : device.hardware.settles wire after) : Receiving device pointer received after := by
  obtain ⟨points, ⟨started, empty, rfl⟩ | ended⟩ := receiving
  · rcases settles with rfl | acts
    · exact ⟨points, .inl ⟨started, empty, rfl⟩⟩
    · cases acts with
      | deliver sending => simp [started] at sending
      | answer => exact ⟨points, .inr ⟨rfl, .inr (by simp [empty, points])⟩⟩
      | starve | fail => exact ⟨points, .inr ⟨rfl, .inl (by simp [empty])⟩⟩
  · obtain rfl := eq_of_settles ended.1 settles
    exact ⟨points, .inr ended⟩

/-- A byte in the FIFO is the register. -/
theorem Receiving.isOver (receiving : Receiving device pointer received wire)
    (nonempty : wire.fifo ≠ []) : wire.pending = none := by
  rcases receiving.stream with ⟨-, empty, -⟩ | ⟨isOver, -⟩
  · exact absurd empty nonempty
  · exact isOver

theorem takes_pop (byte : Byte) :
    device.hardware.Takes (fun wire => Receiving device pointer received wire ∧ wire.fifo ≠ [])
      [.popFifo byte] (Receiving device pointer (received ++ [byte])) := by
  refine takes_over (fun _ holds => holds.1.isOver holds.2) ?_
  rintro wire after ⟨receiving, nonempty⟩ access
  obtain ⟨head, rest, loaded⟩ := List.exists_cons_of_ne_nil nonempty
  simp only [Wire.access, loaded] at access
  obtain ⟨rfl, rfl⟩ := access
  obtain ⟨points, ⟨-, empty, -⟩ | ⟨isOver, stream⟩⟩ := receiving
  · exact absurd empty nonempty
  · rw [loaded] at stream
    exact ⟨points, .inr ⟨isOver, by simpa using stream⟩⟩

theorem takes_store (index : Nat) (byte : Byte) :
    device.hardware.Takes (Receiving device pointer received) [.store index byte]
      (Receiving device pointer received) := by
  refine Peripheral.takes_one ?_
  rintro source settled target receiving settles rfl
  exact receiving.settles settles

theorem drives_drain (count : Nat) (r : BscRead) :
    Drives device (Receiving device pointer r.received) r.bsc (r.drain input count).bsc
      (Receiving device pointer (r.drain input count).received) := by
  induction count generalizing r with
  | zero => exact drives_refl r.bsc
  | succ count ih =>
    unfold BscRead.drain
    split
    · rename_i ready
      refine Drives.trans ?_ (ih ((r.readStatus input).pop input))
      exact (drives_readStatus input fun _ _ receiving settles shows =>
        ⟨receiving.settles settles, shows.rxd.mp ready⟩).trans
          ⟨_, rfl, (takes_pop _).cons (takes_store _ _)⟩
    · exact drives_readStatus input fun _ _ receiving settles _ => receiving.settles settles

theorem takes_start_read :
    device.hardware.Takes (Wire.RestsAt pointer) [.writeControl (bscCI2cen ||| bscCSt ||| bscCRead)]
      (Receiving device pointer []) := by
  refine takes_over (fun _ rests => rests.isOver) ?_
  rintro wire _ rests rfl
  exact ⟨rests.points, .inl ⟨rfl, rests.empty, rfl⟩⟩

/-- A read from its start to the tests of the error bits. -/
theorem drives_poll {start last : BscRead}
    (begun : Drives device pre s start.bsc (Receiving device pointer start.received))
    (returns : Loop.Returns (BscRead.round input) start last) :
    Drives device pre s (last.drain input last.remain).bsc
      (Receiving device pointer (last.drain input last.remain).received) := by
  have polled := Loop.Returns.invariant
    (I := fun r : BscRead => Drives device pre s r.bsc (Receiving device pointer r.received))
    (Q := fun r : BscRead => Drives device pre s r.bsc (Receiving device pointer r.received))
    returns begun
    (fun r r' drives goesOn => by
      unfold BscRead.round at goesOn
      split at goesOn
      · cases goesOn
      · cases goesOn
        exact (drives.trans (drives_readStatus input fun _ _ receiving settles _ =>
          receiving.settles settles)).trans (drives_drain r.remain (r.readStatus input)))
    (fun r r' drives ends => by
      unfold BscRead.round at ends
      split at ends
      · cases ends
        exact drives.trans (drives_readStatus input fun _ _ receiving settles _ =>
          receiving.settles settles)
      · cases ends)
  exact polled.trans (drives_drain last.remain last)

/-- All of a register has been taken. -/
theorem Receiving.rests (receiving : Receiving device pointer received wire)
    (one : received.length = 1) :
    wire.RestsAt pointer ∧ received = [device.registers pointer] := by
  obtain ⟨points, ⟨-, -, rfl⟩ | ⟨isOver, none | all⟩⟩ := receiving
  · cases one
  · rw [(List.append_eq_nil_iff.mp none).1] at one
    cases one
  · have lengths := congrArg List.length all
    rw [List.length_append, one, List.length_singleton] at lengths
    have empty : wire.fifo = [] := List.length_eq_zero_iff.mp (by omega)
    rw [empty, List.append_nil] at all
    exact ⟨⟨empty, isOver, points⟩, all⟩

/-- A read of one byte that succeeds has taken the register at the pointer and leaves the FIFO
empty. -/
theorem read_drives {transfer : Transfer} (addr7 : flags &&& i2cAddr10 = 0)
    (ran : Bsc.i2cReadBytes input rounds dev addr false 1 flags s = some (transfer, s'))
    (success : transfer.res = teeSuccess) :
    Drives device (Wire.RestsAt pointer) s s'
      (fun wire => wire.RestsAt pointer ∧ transfer.bytes = [device.registers pointer]) := by
  by_cases bus : dev.toNat < i2cNum
  · rw [Bsc.i2cReadBytes_addr7 bus (by decide) addr7] at ran
    have one : transfer.bytes.length = 1 := by
      obtain ⟨-, new, -, reads, -⟩ := BscRead.receive_reads ran
      rw [reads.bytes_eq]
      exact (reads.success success).1
    simp only [BscRead.receive, Option.map_eq_some_iff] at ran
    obtain ⟨last, looped, finished⟩ := ran
    rw [BscRead.finish_eq] at finished
    cases finished
    obtain ⟨noErr, noClkt, tested⟩ := outcome_success success
    rw [tested]
    have polled : Drives device (Wire.RestsAt pointer) s (last.drain input last.remain).bsc
        (Receiving device pointer (last.drain input last.remain).received) :=
      drives_poll (((drives_clearUnlessCont input flags s).trans (drives_select _ addr _)).trans
        (drives_log takes_start_read)) ⟨rounds, looped⟩
    have drained := polled.mono fun wire receiving => receiving.rests one
    refine (drained.trans (drives_tests (fun _ holds => holds.1.isOver) noErr noClkt)).trans
      (drives_log (takes_over (fun _ holds => holds.1.1.isOver) ?_))
    rintro wire _ ⟨⟨rests, all⟩, -⟩ rfl
    exact ⟨⟨rests.empty, rests.isOver, rests.points⟩, all⟩
  · have rejected : i2cNum ≤ dev.toNat ∨ (1 : BitVec 16) = 0 ∨ false = true :=
      .inl (Nat.le_of_not_lt bus)
    simp only [Bsc.i2cReadBytes, if_pos rejected] at ran
    cases ran
    exact absurd success (by decide)

end RegisterDevice

end TrustWasm.Drivers
