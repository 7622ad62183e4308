import TrustWasm.Drivers.RegisterDevice

/-!
# Reading a block of registers

`i2c_read_regs` writes the number of a register and reads one byte, for each register in turn.
From the second transaction on the driver does not clear the FIFO.  As every transaction that
succeeds leaves the FIFO empty, each byte read is the register whose number was just written.

A run is recorded as the list of its transactions, each with the FIFO it found.
-/

namespace TrustWasm.Drivers.RegisterDevice

open TrustWasm.Lib TrustWasm.Tee Function

/-- A transaction: the FIFO before it, its result and the bytes it took from the FIFO. -/
structure Transaction where
  fifo : List Byte
  res : TeeResult
  popped : List Byte

/-- The result of a byte transfer. -/
def outcome? : (op : BusOp) → Bus.Reply op → Option TeeResult
  | .i2cReadBytes .., (transfer : Transfer) => some transfer.res
  | .i2cWriteBytes .., (res : TeeResult) | .i2cWriteWithPrefix .., (res : TeeResult) => some res
  | .i2cAcquire .., _ | .i2cRelease .., _ | .spiAcquire .., _ | .spiRelease .., _
  | .spiTransferBytes .., _ | .gpioInit .., _ | .gpioSet .., _ | .gpioGet .., _ => none

/-- The controllers, the wire of the device's bus and the transactions so far. -/
structure Station where
  bsc : BitVec 8 → Bsc
  wire : Wire
  log : List Transaction

/-- The bus functions with the device on bus `dev`: on the registers of the controllers, whose
answers are those of the hardware. -/
def semantics (device : RegisterDevice) (dev : BitVec 8) : Semantics Bus Station where
  guard _ _ := True
  step source op reply target :=
    ∃ input new, (bscSemantics input).step source.bsc op reply target.bsc ∧
      (target.bsc dev).trace = (source.bsc dev).trace ++ new ∧
      device.hardware.Follows source.wire new target.wire ∧
      target.log = source.log ++
        (outcome? op reply).toList.map fun res => ⟨source.wire.fifo, res, pops new⟩

/-- The register number `index` after `reg`. -/
def register (device : RegisterDevice) (reg : BitVec 16) (index : Nat) : Byte :=
  device.registers (BitVec.ofNat 8 (reg.toNat + index))

variable {device : RegisterDevice} {dev : BitVec 8} {addr reg : BitVec 16} {flags : BitVec 8}
variable {source target : Station} {pointer byte : Byte}

theorem writtenRegister (reg : BitVec 16) (index : Nat) :
    reg.setWidth 8 + BitVec.ofNat 8 index = BitVec.ofNat 8 (reg.toNat + index) := by
  apply BitVec.eq_of_toNat_eq
  simp only [BitVec.toNat_add, BitVec.toNat_setWidth, BitVec.toNat_ofNat]
  omega

/-! ## One transaction -/

theorem step_write {res : TeeResult} (addr7 : flags &&& i2cAddr10 = 0)
    (rests : source.wire.RestsAt pointer)
    (step : (device.semantics dev).step source (.i2cWriteBytes dev addr (some [byte]) 1 flags) res
      target) :
    ∃ popped, target.log = source.log ++ [⟨source.wire.fifo, res, popped⟩] ∧
      (res = teeSuccess → target.wire.RestsAt byte) := by
  obtain ⟨input, new, ⟨past, rounds, s, ran, updated⟩, trace, follows, logged⟩ := step
  refine ⟨pops new, logged, ?_⟩
  rintro rfl
  rw [updated, update_self] at trace
  have drives : Drives device (Wire.RestsAt pointer) _ _ (Wire.RestsAt byte) :=
    write_drives addr7 ran
  obtain ⟨accesses, trace', takes⟩ := drives
  obtain rfl : new = accesses := List.append_cancel_left (trace.symm.trans trace')
  exact takes _ _ rests follows

variable {transfer : Transfer} {input : BscInput} {count index k : Nat}

theorem popped_eq {rounds : Nat} {s s' : Bsc} {new : List BscAccess}
    (ran : Bsc.i2cReadBytes input rounds dev addr false 1 flags s = some (transfer, s'))
    (trace : s'.trace = s.trace ++ new) : transfer.bytes = pops new := by
  by_cases bus : dev.toNat < i2cNum
  · obtain ⟨-, accesses, trace', reads⟩ := Bsc.i2cReadBytes_reads bus (by decide) ran
    obtain rfl : new = accesses := List.append_cancel_left (trace.symm.trans trace')
    exact reads.bytes_eq
  · have rejected : i2cNum ≤ dev.toNat ∨ (1 : BitVec 16) = 0 ∨ false = true :=
      .inl (Nat.le_of_not_lt bus)
    simp only [Bsc.i2cReadBytes, if_pos rejected] at ran
    cases ran
    rw [List.self_eq_append_right.mp trace]
    rfl

theorem step_read (addr7 : flags &&& i2cAddr10 = 0) (rests : source.wire.RestsAt pointer)
    (step : (device.semantics dev).step source (.i2cReadBytes dev addr false 1 flags) transfer
      target) :
    target.log = source.log ++ [⟨source.wire.fifo, transfer.res, transfer.bytes⟩] ∧
      (transfer.res = teeSuccess →
        target.wire.RestsAt pointer ∧ transfer.bytes = [device.registers pointer]) := by
  obtain ⟨input, new, ⟨rounds, s, ran, updated⟩, trace, follows, logged⟩ := step
  rw [updated, update_self] at trace
  rw [popped_eq ran trace]
  refine ⟨logged, fun success => ?_⟩
  have drives : Drives device (Wire.RestsAt pointer) _ _ _ := read_drives addr7 ran success
  obtain ⟨accesses, trace', takes⟩ := drives
  obtain rfl : new = accesses := List.append_cancel_left (trace.symm.trans trace')
  rw [← popped_eq ran trace]
  exact takes _ _ rests follows

/-! ## The block -/

/-- What the loop of `i2c_read_regs` did from index `index` on with `count` registers left: its
transactions, each on an empty FIFO, and its result. -/
inductive Block (device : RegisterDevice) (reg : BitVec 16) :
    Nat → Nat → List Transaction → Transfer → Prop where
  | done (index : Nat) : Block device reg index 0 [] ⟨teeSuccess, []⟩
  | unselected {index count : Nat} {write : Transaction} (failed : write.res ≠ teeSuccess)
      (empty : write.fifo = []) : Block device reg index (count + 1) [write] ⟨write.res, []⟩
  | unread {index count : Nat} {write read : Transaction} (selected : write.res = teeSuccess)
      (empty : write.fifo = []) (failed : read.res ≠ teeSuccess) (empty' : read.fifo = []) :
      Block device reg index (count + 1) [write, read] ⟨read.res, read.popped⟩
  | next {index count : Nat} {write read : Transaction} {rest : List Transaction}
      {transfer : Transfer} (selected : write.res = teeSuccess) (empty : write.fifo = [])
      (received : read.res = teeSuccess) (empty' : read.fifo = [])
      (goesOn : Block device reg (index + 1) count rest transfer) :
      Block device reg index (count + 1) (write :: read :: rest)
        ⟨transfer.res, device.register reg index :: transfer.bytes⟩

theorem cont_addr7 (addr7 : flags &&& i2cAddr10 = 0) : (flags ||| i2cCont) &&& i2cAddr10 = 0 := by
  rw [BitVec.and_or_distrib_right, addr7]
  rfl

/-- The ways a round of the loop of `i2c_read_regs` goes: the write fails, the read fails, or the
loop goes on. -/
inductive ReadRound {σ : Type} (S : Semantics Bus σ) (dev : BitVec 8) (addr reg : BitVec 16)
    (index count : Nat) (flags : BitVec 8) (source : σ) : Transfer → σ → Prop where
  | unselected {res : TeeResult} {target : σ} (failed : res ≠ teeSuccess)
      (wrote : S.step source (.i2cWriteBytes dev addr
        (some [reg.setWidth 8 + BitVec.ofNat 8 index]) 1 flags) res target) :
      ReadRound S dev addr reg index count flags source ⟨res, []⟩ target
  | unread {selected target : σ} {read : Transfer} (failed : read.res ≠ teeSuccess)
      (wrote : S.step source (.i2cWriteBytes dev addr
        (some [reg.setWidth 8 + BitVec.ofNat 8 index]) 1 flags) teeSuccess selected)
      (took : S.step selected (.i2cReadBytes dev addr false 1 (flags ||| i2cCont)) read target) :
      ReadRound S dev addr reg index count flags source read target
  | next {selected received target : σ} {read rest : Transfer} (success : read.res = teeSuccess)
      (wrote : S.step source (.i2cWriteBytes dev addr
        (some [reg.setWidth 8 + BitVec.ofNat 8 index]) 1 flags) teeSuccess selected)
      (took : S.step selected (.i2cReadBytes dev addr false 1 (flags ||| i2cCont)) read received)
      (goesOn : (i2cReadRegsFrom dev addr reg false count (index + 1) (flags ||| i2cCont)).Exec S
        received rest target) :
      ReadRound S dev addr reg index count flags source ⟨rest.res, read.bytes ++ rest.bytes⟩ target

theorem exec_readRegs_succ {σ : Type} {S : Semantics Bus σ} {source target : σ} :
    (i2cReadRegsFrom dev addr reg false (count + 1) index flags).Exec S source transfer target ↔
      ReadRound S dev addr reg index count flags source transfer target := by
  constructor
  · intro run
    obtain ⟨res, selected, wrote, run⟩ := Program.exec_perform_bind.mp run
    by_cases failed : res = teeSuccess
    · rw [if_neg (not_not.mpr failed)] at run
      subst failed
      obtain ⟨read, received, took, run⟩ := Program.exec_perform_bind.mp run
      by_cases failed : read.res = teeSuccess
      · rw [if_neg (not_not.mpr failed)] at run
        obtain ⟨rest, _, goesOn, rfl, rfl⟩ := Program.exec_bind.mp run
        exact .next failed wrote took goesOn
      · rw [if_pos failed] at run
        obtain ⟨rfl, rfl⟩ := run
        exact .unread failed wrote took
    · rw [if_pos failed] at run
      obtain ⟨rfl, rfl⟩ := run
      exact .unselected failed wrote
  · intro round
    cases round with
    | unselected failed wrote =>
      refine Program.exec_perform_bind.mpr ⟨_, _, wrote, ?_⟩
      rw [if_pos failed]
      exact ⟨rfl, rfl⟩
    | unread failed wrote took =>
      refine Program.exec_perform_bind.mpr ⟨_, _, wrote, ?_⟩
      rw [if_neg (not_not.mpr rfl)]
      refine Program.exec_perform_bind.mpr ⟨_, _, took, ?_⟩
      rw [if_pos failed]
      exact ⟨rfl, rfl⟩
    | next success wrote took goesOn =>
      refine Program.exec_perform_bind.mpr ⟨_, _, wrote, ?_⟩
      rw [if_neg (not_not.mpr rfl)]
      refine Program.exec_perform_bind.mpr ⟨_, _, took, ?_⟩
      rw [if_neg (not_not.mpr success)]
      exact Program.exec_bind.mpr ⟨_, _, goesOn, rfl, rfl⟩

/-- The loop reads a block, whatever the pointer was. -/
theorem block_of_exec (addr7 : flags &&& i2cAddr10 = 0) (rests : source.wire.RestsAt pointer)
    (run : (i2cReadRegsFrom dev addr reg false count index flags).Exec (device.semantics dev) source
      transfer target) :
    ∃ made, target.log = source.log ++ made ∧ Block device reg index count made transfer := by
  induction count generalizing index flags source pointer transfer with
  | zero =>
    obtain ⟨rfl, rfl⟩ := run
    exact ⟨[], (List.append_nil _).symm, .done index⟩
  | succ count ih =>
    cases exec_readRegs_succ.mp run with
    | unselected failed wrote =>
      obtain ⟨popped, logged, -⟩ := step_write addr7 rests wrote
      exact ⟨_, logged, .unselected failed rests.empty⟩
    | unread failed wrote took =>
      obtain ⟨popped, logged, points⟩ := step_write addr7 rests wrote
      obtain ⟨logged', -⟩ := step_read (cont_addr7 addr7) (points rfl) took
      rw [logged, List.append_assoc] at logged'
      exact ⟨_, logged', .unread rfl rests.empty failed (points rfl).empty⟩
    | next success wrote took goesOn =>
      obtain ⟨popped, logged, points⟩ := step_write addr7 rests wrote
      obtain ⟨logged', holds⟩ := step_read (cont_addr7 addr7) (points rfl) took
      obtain ⟨rests', bytes⟩ := holds success
      obtain ⟨made, logged'', block⟩ := ih (cont_addr7 addr7) rests' goesOn
      rw [logged', logged, List.append_assoc, List.append_assoc] at logged''
      refine ⟨_, logged'', ?_⟩
      rw [bytes, writtenRegister]
      exact .next rfl rests.empty success (points rfl).empty block

variable {made : List Transaction}

theorem Block.fifo_empty (block : Block device reg index count made transfer) :
    ∀ transaction ∈ made, transaction.fifo = [] := by
  induction block with
  | done index => simp
  | unselected failed empty => simpa using empty
  | unread selected empty failed empty' => simpa using ⟨empty, empty'⟩
  | next selected empty received empty' goesOn ih => simpa using ⟨empty, empty', ih⟩

/-- When all transactions succeed there are two for each register, and all are read. -/
theorem Block.complete (block : Block device reg index count made transfer)
    (success : ∀ transaction ∈ made, transaction.res = teeSuccess) :
    made.length = 2 * count ∧ transfer.res = teeSuccess ∧
      transfer.bytes = (List.range' index count).map (device.register reg) := by
  induction block with
  | done index => exact ⟨rfl, rfl, rfl⟩
  | unselected failed empty => exact absurd (success _ (by simp)) failed
  | unread selected empty failed empty' => exact absurd (success _ (by simp)) failed
  | next selected empty received empty' goesOn ih =>
    obtain ⟨length, res, bytes⟩ := ih fun transaction member =>
      success transaction (by simp [member])
    refine ⟨?_, res, ?_⟩
    · rw [List.length_cons, List.length_cons, length]
      omega
    · rw [bytes]
      rfl

/-- The first transaction that fails is the last, and half of those before it read a register. -/
theorem Block.incomplete (block : Block device reg index count made transfer) {last : Transaction}
    (found : made[k]? = some last)
    (before : ∀ i < k, ∀ transaction ∈ made[i]?, transaction.res = teeSuccess)
    (failed : last.res ≠ teeSuccess) (nothing : last.popped = []) :
    made.length = k + 1 ∧ transfer.res = last.res ∧
      transfer.bytes = (List.range' index (k / 2)).map (device.register reg) := by
  induction block generalizing k with
  | done index => cases found
  | unselected failed empty =>
    obtain rfl | later := Nat.eq_zero_or_pos k
    · cases found
      exact ⟨rfl, rfl, rfl⟩
    · exact absurd (before 0 later _ rfl) failed
  | unread selected empty unread empty' =>
    match k, found with
    | 0, found =>
      cases found
      exact absurd selected failed
    | 1, found =>
      cases found
      exact ⟨rfl, rfl, nothing⟩
  | next selected empty received empty' goesOn ih =>
    match k, found with
    | 0, found =>
      cases found
      exact absurd selected failed
    | 1, found =>
      cases found
      exact absurd received failed
    | k + 2, found =>
      obtain ⟨length, res, bytes⟩ := ih found (fun i earlier => before (i + 2) (by omega))
      refine ⟨?_, res, ?_⟩
      · rw [List.length_cons, List.length_cons, length]
      · rw [bytes, Nat.add_div_right k (by decide)]
        rfl

/-! ## Runs in which the transactions succeed up to a point -/

/-- The status the hardware shows. -/
def Wire.status (wire : Wire) : BitVec 32 :=
  (if wire.fifo = [] then 0 else bscSRxd) ||| (if wire.pending.isNone then bscSDone else 0) |||
    (wire.failed.map Failure.bit).getD 0

theorem shows_status (wire : Wire) : wire.Shows wire.status := by
  obtain ⟨fifo, pointer, address, dlen, pending, failed⟩ := wire
  constructor <;> rcases fifo with _ | ⟨_, _⟩ <;> rcases pending with _ | _ <;>
    rcases failed with _ | _ | _ <;> simp [Wire.status, Failure.bit] <;> decide

variable {wire ended after : Wire} {labels : List BscAccess}

theorem follows_status {value : BitVec 32} (shown : wire.status = value)
    (rest : device.hardware.Follows wire labels after) :
    device.hardware.Follows wire (.readStatus value :: labels) after :=
  .cons (.inl rfl) ⟨shown ▸ shows_status wire, rfl⟩ rest

/-- A read of the status that finds the transaction over. -/
theorem follows_status_acts {value : BitVec 32} (acts : Acts device wire ended)
    (shown : ended.status = value) (rest : device.hardware.Follows ended labels after) :
    device.hardware.Follows wire (.readStatus value :: labels) after :=
  .cons (.inr acts) ⟨shown ▸ shows_status ended, rfl⟩ rest

/-- The length and the address are set, whether or not the FIFO is cleared before. -/
theorem follows_opened (device : RegisterDevice) (silent : ∀ i, input.control i = 0)
    (rests : wire.RestsAt pointer) (sound : wire.failed = none) (flags : BitVec 8)
    (dlen : BitVec 32) (addr : BitVec 16) (s : Bsc) :
    ∃ new, ((s.clearUnlessCont input flags).select dlen addr).trace = s.trace ++ new ∧
      pops new = [] ∧ device.hardware.Follows wire new
        { wire with dlen := dlen, address := (addr.setWidth 8).setWidth 32 } := by
  have opened : device.hardware.Follows wire
      [.writeDlen dlen, .writeAddress ((addr.setWidth 8).setWidth 32)]
      { wire with dlen := dlen, address := (addr.setWidth 8).setWidth 32 } :=
    .cons (.inl rfl) rfl (.cons (.inl rfl) rfl rfl)
  unfold Bsc.clearUnlessCont
  split
  · refine ⟨[.readControl 0, .writeControl (0 ||| bscCClear), .writeStatus bscSClear,
      .writeDlen dlen, .writeAddress ((addr.setWidth 8).setWidth 32)], ?_, rfl, ?_⟩
    · simp [Bsc.select, Bsc.setControl, Bsc.log, silent]
    · have cleared : { wire.control (0 ||| bscCClear) with
          failed := (wire.control (0 ||| bscCClear)).failed.filter fun failure =>
            bscSClear &&& failure.bit = 0 } = wire := by
        rw [control_clear rfl]
        obtain ⟨fifo, pointer, address, dlen, pending, failed⟩ := wire
        obtain rfl : fifo = [] := rests.empty
        obtain rfl : failed = none := sound
        rfl
      exact .cons (.inl rfl) ⟨rfl, rfl⟩
        (.cons (.inl rfl) rfl (.cons (.inl rfl) cleared.symm opened))
  · refine ⟨_, List.append_assoc _ _ _, rfl, opened⟩

/-- The answers of the registers to a transfer. -/
def answers (status : Nat → BitVec 32) (fifo : Byte) : BscInput where
  control _ := 0
  status := status
  fifo _ := fifo.setWidth 32
  clock _ := 0

theorem device_address (address : BitVec 7) :
    ((address.setWidth 16).setWidth 8).setWidth 32 = address.setWidth 32 := by
  apply BitVec.eq_of_toNat_eq
  simp only [BitVec.toNat_setWidth]
  omega

/-- The wire once a transfer of one byte to the device is set up. -/
def Wire.selecting (wire : Wire) (device : RegisterDevice) : Wire :=
  { wire with dlen := 1, address := device.address.setWidth 32 }

/-- The transaction of a write of one byte is under way. -/
def Wire.sending (wire : Wire) (byte : Byte) : Wire :=
  { wire with fifo := [byte], pending := some .send }

/-- The accesses of a write of one byte that shows `status`. -/
def writeAccesses (byte : Byte) (status : BitVec 32) : List BscAccess :=
  [.load 0, .pushFifo byte, .writeControl (bscCI2cen ||| bscCSt), .readStatus status,
    .readStatus status, .readStatus status, .readStatus status, .writeStatus (status ||| bscSClear)]

/-- A write of one byte whose transaction ends at once. -/
theorem follows_written (acts : Acts device (wire.sending byte) ended)
    (rests : wire.RestsAt pointer) :
    ∃ after, device.hardware.Follows wire (writeAccesses byte ended.status) after ∧
      (ended.failed = none → after.failed = none) := by
  have loaded : ({ wire with fifo := [byte] } : Wire) = wire.push byte := by
    simp [Wire.push, rests.empty, bscFifoSize]
  refine ⟨_, .cons (.inl rfl) rfl (.cons (.inl rfl) loaded (.cons (.inl rfl) rfl
    (follows_status_acts acts rfl (follows_status rfl (follows_status rfl
      (follows_status rfl (.cons (.inl rfl) rfl rfl))))))), fun sound => ?_⟩
  simp [sound]

/-- What a transfer returns that has moved all bytes and is shown `status`. -/
def resultOf (status : BitVec 32) : TeeResult :=
  if status &&& bscSErr = 0 then teeSuccess else teeErrorNoData

theorem outcome_shown (input : BscInput) {shown : BitVec 32} {remain : Nat} (s : Bsc)
    (first : input.status s.statuses = shown) (second : input.status (s.statuses + 1) = shown)
    (unstretched : shown &&& bscSClkt = 0) (complete : shown &&& bscSErr = 0 → remain = 0) :
    s.outcome input remain = (resultOf shown, (s.readStatus input).readStatus input) := by
  have unstretched' : ¬(s.readStatus input).NextHas input bscSClkt := by
    show ¬input.status (s.statuses + 1) &&& bscSClkt ≠ 0
    rw [second]
    exact not_not.mpr unstretched
  have tested : s.NextHas input bscSErr ↔ shown &&& bscSErr ≠ 0 := by
    show input.status s.statuses &&& bscSErr ≠ 0 ↔ _
    rw [first]
  unfold Bsc.outcome resultOf
  by_cases err : shown &&& bscSErr = 0
  · simp only [if_neg (mt tested.mp (not_not.mpr err)), if_neg unstretched', if_pos err,
      if_neg (not_not.mpr (complete err))]
  · simp only [if_pos (tested.mpr err), if_neg err]

/-- A write of one byte that is shown the same status all the time. -/
theorem transmit_one (data : Nat → Byte) (s : Bsc) {status : BitVec 32}
    (done : status &&& bscSDone ≠ 0) (unstretched : status &&& bscSClkt = 0) :
    ∃ s', BscWrite.transmit (answers (fun _ => status) 0) (Bsc.plainSource data) 1
        ⟨0, 1, 10000, false, s⟩ = some (resultOf status, s') ∧
      s'.trace = s.trace ++ writeAccesses (data 0) status := by
  have ends : BscWrite.round (answers (fun _ => status) 0) (Bsc.plainSource data)
      (BscWrite.started (Bsc.plainSource data) ⟨0, 1, 10000, false, s⟩) =
        .done ((BscWrite.started (Bsc.plainSource data) ⟨0, 1, 10000, false, s⟩).readStatus
          (answers (fun _ => status) 0)) :=
    (if_neg Bool.false_ne_true).trans (if_pos done)
  have tests := outcome_shown (answers (fun _ => status) 0)
    ((BscWrite.started (Bsc.plainSource data) ⟨0, 1, 10000, false, s⟩).readStatus
      (answers (fun _ => status) 0)).bsc rfl rfl unstretched fun _ => rfl
  rw [BscWrite.transmit_eq, Loop.run_done ends]
  refine ⟨_, congrArg (fun tested : TeeResult × Bsc =>
    some (tested.1, tested.2.setStatus (answers (fun _ => status) 0) bscSClear)) tests, ?_⟩
  simp [Bsc.setStatus, Bsc.readStatus, Bsc.log, BscWrite.readStatus, BscWrite.started,
    BscWrite.prefill, BscWrite.push, Bsc.plainSource, bscFifoSize, answers, writeAccesses]

theorem exists_step_write {status : BitVec 32} (bus : dev.toNat < i2cNum)
    (addr7 : flags &&& i2cAddr10 = 0) (rests : source.wire.RestsAt pointer)
    (sound : source.wire.failed = none)
    (acts : Acts device ((source.wire.selecting device).sending byte) ended)
    (shown : ended.status = status) (done : status &&& bscSDone ≠ 0)
    (unstretched : status &&& bscSClkt = 0) :
    ∃ target, (device.semantics dev).step source
        (.i2cWriteBytes dev (device.address.setWidth 16) (some [byte]) 1 flags) (resultOf status)
        target ∧
      target.log = source.log ++ [⟨[], resultOf status, []⟩] ∧
      (ended.failed = none → target.wire.failed = none) := by
  have silent : ∀ i, (answers (fun _ => status) 0).control i = 0 := fun _ => rfl
  have begun := follows_opened device silent rests sound flags 1 (device.address.setWidth 16)
    (source.bsc dev)
  rw [device_address] at begun
  obtain ⟨opened, trace, popped, follows⟩ := begun
  obtain ⟨after, follows', failed⟩ := follows_written acts ⟨rests.empty, rests.isOver, rests.points⟩
  rw [shown] at follows'
  obtain ⟨s', ran, trace'⟩ := transmit_one (memoryFrom (fun _ => 0) [byte])
    (((source.bsc dev).clearUnlessCont (answers (fun _ => status) 0) flags).select 1
      (device.address.setWidth 16)) done unstretched
  refine ⟨⟨update source.bsc dev s', after, source.log ++ [⟨[], resultOf status, []⟩]⟩,
    ⟨fun _ => answers (fun _ => status) 0, opened ++ writeAccesses byte status,
      ⟨fun _ => 0, 1, s', (Bsc.i2cWriteBytes_addr7 _ _ _ _ _ _ _ _ bus (by decide) addr7).trans ran,
        rfl⟩, ?_, Peripheral.follows_append.mpr ⟨_, follows, follows'⟩, ?_⟩, rfl, failed⟩
  · show (update source.bsc dev s' dev).trace = _
    rw [update_self, trace', trace, List.append_assoc]
    rfl
  · rw [pops_append, popped, rests.empty]
    rfl

/-- A write of one byte may succeed. -/
theorem exists_write (device : RegisterDevice) (bus : dev.toNat < i2cNum)
    (addr7 : flags &&& i2cAddr10 = 0)
    (rests : source.wire.RestsAt pointer) (sound : source.wire.failed = none) (byte : Byte) :
    ∃ target, (device.semantics dev).step source
        (.i2cWriteBytes dev (device.address.setWidth 16) (some [byte]) 1 flags) teeSuccess target ∧
      target.wire.failed = none := by
  let ended : Wire := ⟨[], byte, device.address.setWidth 32, 1, none, source.wire.failed⟩
  have acts : Acts device ((source.wire.selecting device).sending byte) ended :=
    .deliver rfl rfl rfl rfl
  have shown : ended.status = bscSDone := by
    simp [Wire.status, ended, sound]
  obtain ⟨target, step, -, failed⟩ :=
    exists_step_write bus addr7 rests sound acts shown (by decide) (by decide)
  exact ⟨target, step, failed sound⟩

/-- A write of one byte may not be acknowledged. -/
theorem exists_write_nack (device : RegisterDevice) (bus : dev.toNat < i2cNum)
    (addr7 : flags &&& i2cAddr10 = 0)
    (rests : source.wire.RestsAt pointer) (sound : source.wire.failed = none) (byte : Byte) :
    ∃ target, (device.semantics dev).step source
        (.i2cWriteBytes dev (device.address.setWidth 16) (some [byte]) 1 flags) teeErrorNoData
        target ∧ target.log = source.log ++ [⟨[], teeErrorNoData, []⟩] := by
  let ended : Wire := ⟨[byte], source.wire.pointer, device.address.setWidth 32, 1, none, some .nack⟩
  have acts : Acts device ((source.wire.selecting device).sending byte) ended := .fail rfl .nack
  have shown : ended.status = bscSRxd ||| bscSDone ||| bscSErr := rfl
  obtain ⟨target, step, logged, -⟩ :=
    exists_step_write bus addr7 rests sound acts shown (by decide) (by decide)
  exact ⟨target, step, logged⟩

/-- The transaction of a read is under way. -/
def Wire.receiving (wire : Wire) : Wire :=
  { wire with pending := some .receive }

/-- The accesses of a read that finds one byte. -/
def readAccesses (byte : Byte) : List BscAccess :=
  [.writeControl (bscCI2cen ||| bscCSt ||| bscCRead), .readStatus (bscSRxd ||| bscSDone),
    .readStatus (bscSRxd ||| bscSDone), .popFifo byte, .store 0 byte, .readStatus bscSDone,
    .readStatus bscSDone, .writeStatus bscSClear]

/-- The accesses of a read that finds nothing and is not acknowledged. -/
def nackAccesses : List BscAccess :=
  [.writeControl (bscCI2cen ||| bscCSt ||| bscCRead), .readStatus (bscSDone ||| bscSErr),
    .readStatus (bscSDone ||| bscSErr), .readStatus (bscSDone ||| bscSErr),
    .readStatus (bscSDone ||| bscSErr), .writeStatus bscSClear]

/-- A read of one byte after the first look at the status. -/
def polled (input : BscInput) (s : Bsc) : BscRead :=
  ⟨[], 1, (s.log (.writeControl (bscCI2cen ||| bscCSt ||| bscCRead))).readStatus input⟩

/-- A read of one byte that sees the end at once, with the tests after `drained`. -/
theorem receive_shown {s : Bsc} {drained : BscRead} (shown : BitVec 32)
    (done : input.status s.statuses &&& bscSDone ≠ 0)
    (drains : (polled input s).drain input 1 = drained)
    (first : input.status drained.bsc.statuses = shown)
    (second : input.status (drained.bsc.statuses + 1) = shown)
    (unstretched : shown &&& bscSClkt = 0) (complete : shown &&& bscSErr = 0 → drained.remain = 0) :
    BscRead.receive input 1 1 s = some (⟨resultOf shown, drained.received⟩,
      ((drained.bsc.readStatus input).readStatus input).log (.writeStatus bscSClear)) := by
  have ends : BscRead.round input
      ⟨[], 1, s.log (.writeControl (bscCI2cen ||| bscCSt ||| bscCRead))⟩ =
        .done (polled input s) := if_pos done
  have drains' : (polled input s).drain input (polled input s).remain = drained := drains
  rw [BscRead.receive, Loop.run_done ends, Option.map_some, BscRead.finish_eq, drains',
    outcome_shown input drained.bsc first second unstretched complete]

/-- The status shows a byte in the two reads from the one of number `start` on. -/
def oneByte (start : Nat) (byte : Byte) : BscInput :=
  answers (fun i => if i < start + 2 then bscSRxd ||| bscSDone else bscSDone) byte

theorem receive_one (byte : Byte) {start : Nat} {s : Bsc} (counts : s.statuses = start) :
    ∃ s', BscRead.receive (oneByte start byte) 1 1 s = some (⟨teeSuccess, [byte]⟩, s') ∧
      s'.trace = s.trace ++ readAccesses byte := by
  subst counts
  let input := oneByte s.statuses byte
  have first : input.status s.statuses = bscSRxd ||| bscSDone := if_pos (by omega)
  have second : input.status (s.statuses + 1) = bscSRxd ||| bscSDone := if_pos (by omega)
  have third : input.status (s.statuses + 2) = bscSDone := if_neg (by omega)
  have fourth : input.status (s.statuses + 3) = bscSDone := if_neg (by omega)
  have byte_eq : (input.fifo s.fetched).setWidth 8 = byte :=
    show (byte.setWidth 32).setWidth 8 = byte by simp
  have done : input.status s.statuses &&& bscSDone ≠ 0 := by
    rw [first]
    decide
  have ready : input.status (s.statuses + 1) &&& bscSRxd ≠ 0 := by
    rw [second]
    decide
  have drains : (polled input s).drain input 1 = ((polled input s).readStatus input).pop input :=
    if_pos ready
  have received : BscRead.received (((polled input s).readStatus input).pop input) = [byte] :=
    congrArg (fun b => [b]) byte_eq
  have ran := receive_shown bscSDone done drains third fourth (by decide) fun _ => rfl
  rw [received] at ran
  refine ⟨_, ran, ?_⟩
  simp [polled, Bsc.readStatus, BscRead.readStatus, BscRead.pop, Bsc.log, readAccesses, first,
    second, third, fourth, byte_eq]

theorem receive_nack (s : Bsc) :
    ∃ s', BscRead.receive (answers (fun _ => bscSDone ||| bscSErr) 0) 1 1 s =
        some (⟨teeErrorNoData, []⟩, s') ∧ s'.trace = s.trace ++ nackAccesses := by
  have done : (bscSDone ||| bscSErr) &&& bscSDone ≠ 0 := by decide
  have empty : ¬(bscSDone ||| bscSErr) &&& bscSRxd ≠ 0 := by decide
  let input := answers (fun _ => bscSDone ||| bscSErr) 0
  have drains : (polled input s).drain input 1 = (polled input s).readStatus input := if_neg empty
  refine ⟨_, receive_shown (bscSDone ||| bscSErr) done drains rfl rfl (by decide)
    fun clear => absurd clear (by decide), ?_⟩
  simp [input, polled, Bsc.readStatus, BscRead.readStatus, Bsc.log, answers, nackAccesses]

theorem exists_step_read {s' : Bsc} {accesses : List BscAccess} (bus : dev.toNat < i2cNum)
    (addr7 : flags &&& i2cAddr10 = 0) (rests : source.wire.RestsAt pointer)
    (sound : source.wire.failed = none) (silent : ∀ i, input.control i = 0)
    (follows : device.hardware.Follows (source.wire.selecting device) accesses after)
    (ran : BscRead.receive input 1 1 (((source.bsc dev).clearUnlessCont input flags).select 1
      (device.address.setWidth 16)) = some (transfer, s'))
    (trace : s'.trace = (((source.bsc dev).clearUnlessCont input flags).select 1
      (device.address.setWidth 16)).trace ++ accesses) :
    ∃ target, (device.semantics dev).step source
        (.i2cReadBytes dev (device.address.setWidth 16) false 1 flags) transfer target ∧
      target.wire = after := by
  have begun := follows_opened device silent rests sound flags 1 (device.address.setWidth 16)
    (source.bsc dev)
  rw [device_address] at begun
  obtain ⟨opened, trace', -, follows'⟩ := begun
  refine ⟨⟨update source.bsc dev s', after, _⟩, ⟨fun _ => input, opened ++ accesses,
    ⟨1, s', (Bsc.i2cReadBytes_addr7 bus (by decide) addr7).trans ran, rfl⟩, ?_,
    Peripheral.follows_append.mpr ⟨_, follows', follows⟩, rfl⟩, rfl⟩
  show (update source.bsc dev s' dev).trace = _
  rw [update_self, trace, trace', List.append_assoc]

/-- A read of one byte may succeed. -/
theorem exists_read (device : RegisterDevice) (bus : dev.toNat < i2cNum)
    (addr7 : flags &&& i2cAddr10 = 0)
    (rests : source.wire.RestsAt pointer) (sound : source.wire.failed = none) :
    ∃ target, (device.semantics dev).step source
        (.i2cReadBytes dev (device.address.setWidth 16) false 1 flags)
        ⟨teeSuccess, [device.registers pointer]⟩ target ∧ target.wire.failed = none := by
  let byte := device.registers pointer
  let full : Wire := ⟨[byte], pointer, device.address.setWidth 32, 1, none, none⟩
  let taken : Wire := ⟨[], pointer, device.address.setWidth 32, 1, none, none⟩
  have selected : source.wire.selecting device = taken := by
    obtain ⟨empty, isOver, points⟩ := rests
    simp only [Wire.selecting, empty, isOver, points, sound, taken]
  have acts : Acts device taken.receiving full :=
    .answer rfl rfl rfl (show 0 < bscFifoSize by decide)
  have popped : full.access (.popFifo byte) taken := ⟨rfl, rfl⟩
  have shown : taken.status = bscSDone := by
    simp [Wire.status, taken]
  have shown' : full.status = bscSRxd ||| bscSDone := by
    simp [Wire.status, full]
  have follows : device.hardware.Follows taken (readAccesses byte) taken :=
    .cons (.inl rfl) rfl (follows_status_acts acts shown' (follows_status shown'
      (.cons (.inl rfl) popped (.cons (.inl rfl) rfl
        (follows_status shown (follows_status shown (.cons (.inl rfl) rfl rfl)))))))
  have counts := Bsc.clearUnlessCont_statuses (oneByte (source.bsc dev).statuses byte) flags
    (source.bsc dev)
  obtain ⟨s', ran, trace⟩ := receive_one byte (s := Bsc.select 1 (device.address.setWidth 16) _)
    counts
  rw [← selected] at follows
  obtain ⟨target, step, reached⟩ := exists_step_read bus addr7 rests sound (fun _ => rfl) follows
    ran trace
  refine ⟨target, step, ?_⟩
  rw [reached]
  exact sound

/-- A read of one byte may not be acknowledged. -/
theorem exists_read_nack (device : RegisterDevice) (bus : dev.toNat < i2cNum)
    (addr7 : flags &&& i2cAddr10 = 0)
    (rests : source.wire.RestsAt pointer) (sound : source.wire.failed = none) :
    ∃ target, (device.semantics dev).step source
        (.i2cReadBytes dev (device.address.setWidth 16) false 1 flags) ⟨teeErrorNoData, []⟩
        target := by
  let selected := source.wire.selecting device
  let ended : Wire := { selected with pending := none, failed := some .nack }
  have empty : selected.fifo = [] := rests.empty
  have shown : ended.status = bscSDone ||| bscSErr := by
    simp [Wire.status, empty, ended, Failure.bit]
  have acts : Acts device selected.receiving ended := .fail rfl .nack
  have follows : ∃ after, device.hardware.Follows selected nackAccesses after :=
    ⟨_, .cons (.inl rfl) rfl (follows_status_acts acts shown (follows_status shown
      (follows_status shown (follows_status shown (.cons (.inl rfl) rfl rfl)))))⟩
  obtain ⟨after, follows⟩ := follows
  obtain ⟨s', ran, trace⟩ := receive_nack _
  obtain ⟨target, step, -⟩ :=
    exists_step_read bus addr7 rests sound (fun _ => rfl) follows ran trace
  exact ⟨target, step⟩

/-- The first `k` transactions succeed, and one after them fails and takes nothing. -/
def FailsAt (k : Nat) (made : List Transaction) : Prop :=
  ∀ i transaction, made[i]? = some transaction →
    if i < k then transaction.res = teeSuccess
    else transaction.res ≠ teeSuccess ∧ transaction.popped = []

theorem failsAt_nil (k : Nat) : FailsAt k [] := by
  intro i transaction found
  cases found

theorem failsAt_zero {transaction : Transaction} (failed : transaction.res ≠ teeSuccess)
    (nothing : transaction.popped = []) : FailsAt 0 [transaction] := by
  intro i last found
  match i, found with
  | 0, found =>
    cases found
    exact ⟨failed, nothing⟩

theorem FailsAt.cons {transaction : Transaction} (fails : FailsAt k made)
    (success : transaction.res = teeSuccess) : FailsAt (k + 1) (transaction :: made) := by
  intro i last found
  match i, found with
  | 0, found =>
    cases found
    exact success
  | i + 1, found => simpa using fails i last found

/-- For every number of transactions there is a run in which so many succeed and the next one,
if there is any, fails and takes nothing. -/
theorem exists_run (bus : dev.toNat < i2cNum) (addr7 : flags &&& i2cAddr10 = 0)
    (rests : source.wire.RestsAt pointer) (sound : source.wire.failed = none)
    (few : k ≤ 2 * count) :
    ∃ transfer target made,
      (i2cReadRegsFrom dev (device.address.setWidth 16) reg false count index flags).Exec
        (device.semantics dev) source transfer target ∧
      target.log = source.log ++ made ∧ made.length = min (k + 1) (2 * count) ∧
      FailsAt k made := by
  have nack : teeErrorNoData ≠ teeSuccess := by decide
  induction count generalizing index flags source pointer k with
  | zero =>
    obtain rfl : k = 0 := by omega
    exact ⟨_, source, [], ⟨rfl, rfl⟩, (List.append_nil _).symm, rfl, failsAt_nil 0⟩
  | succ count ih =>
    let byte := reg.setWidth 8 + BitVec.ofNat 8 index
    obtain rfl | more := Nat.eq_zero_or_pos k
    · -- the first write is not acknowledged
      obtain ⟨target, wrote, logged⟩ := exists_write_nack device bus addr7 rests sound byte
      refine ⟨⟨teeErrorNoData, []⟩, target, _,
        exec_readRegs_succ.mpr (.unselected nack wrote), logged, ?_, failsAt_zero nack rfl⟩
      rw [List.length_singleton]
      omega
    · obtain ⟨selected, wrote, sound'⟩ := exists_write device bus addr7 rests sound byte
      obtain ⟨popped, logged, points⟩ := step_write addr7 rests wrote
      have addr7' := cont_addr7 addr7
      match k, more, few with
      | 1, _, _ =>
        -- the first read is not acknowledged
        obtain ⟨target, took⟩ := exists_read_nack device bus addr7' (points rfl) sound'
        obtain ⟨logged', -⟩ := step_read addr7' (points rfl) took
        rw [logged, List.append_assoc] at logged'
        refine ⟨⟨teeErrorNoData, []⟩, target, _,
          exec_readRegs_succ.mpr (.unread nack wrote took), logged', ?_,
          (failsAt_zero nack rfl).cons rfl⟩
        show 2 = _
        omega
      | k + 2, _, few =>
        obtain ⟨received, took, sound''⟩ := exists_read device bus addr7' (points rfl) sound'
        obtain ⟨logged', holds⟩ := step_read addr7' (points rfl) took
        obtain ⟨rest, target, made, goesOn, logged'', length, fails⟩ :=
          ih addr7' (holds rfl).1 sound'' (show k ≤ 2 * count by omega)
        rw [logged', logged, List.append_assoc, List.append_assoc] at logged''
        refine ⟨_, target, _, exec_readRegs_succ.mpr (.next rfl wrote took goesOn), logged'',
          ?_, (fails.cons rfl).cons rfl⟩
        show made.length + 1 + 1 = _
        omega

/-! ## The whole function -/

/-- The data holds the first `count` registers from `reg` on, and is otherwise untouched. -/
def Fills (device : RegisterDevice) (reg : BitVec 16) (count : Nat) (bytes : List Byte) : Prop :=
  ∀ data i, memoryFrom data bytes i = if i < count then device.register reg i else data i

theorem fills_range (device : RegisterDevice) (reg : BitVec 16) (count : Nat) :
    device.Fills reg count ((List.range' 0 count).map (device.register reg)) := by
  intro data i
  rw [← List.range_eq_range']
  by_cases below : i < count
  · simp [memoryFrom, below]
  · simp [memoryFrom, below]

theorem i2cReadRegs_eq (dev : BitVec 8) (addr reg len : BitVec 16) (reg8 : flags &&& i2cReg16 = 0) :
    i2cReadRegs dev addr reg false len flags =
      i2cReadRegsFrom dev addr reg false len.toNat 0 flags := by
  rw [i2cReadRegs, if_neg (not_not.mpr reg8)]

/-- `i2c_read_regs` on a controller with an empty FIFO.  Every transaction finds the FIFO empty.
When all succeed, the data holds the registers from `reg` on; when one fails and takes nothing,
those read before it, and its error is returned.  On a bus of the board, every number of
transactions may succeed. -/
theorem i2cReadRegs_reads_block (device : RegisterDevice) (dev : BitVec 8) (reg len : BitVec 16)
    (flags : BitVec 8) (reg8 : flags &&& i2cReg16 = 0) (addr7 : flags &&& i2cAddr10 = 0)
    (source : Station) (empty : source.wire.fifo = []) (isOver : source.wire.pending = none) :
    (∀ transfer target,
      (i2cReadRegs dev (device.address.setWidth 16) reg false len flags).Exec (device.semantics dev)
        source transfer target →
      ∃ made, target.log = source.log ++ made ∧ (∀ transaction ∈ made, transaction.fifo = []) ∧
        ((∀ transaction ∈ made, transaction.res = teeSuccess) →
          made.length = 2 * len.toNat ∧ transfer.res = teeSuccess ∧
            device.Fills reg len.toNat transfer.bytes) ∧
        ∀ k last, made[k]? = some last →
          (∀ i < k, ∀ transaction ∈ made[i]?, transaction.res = teeSuccess) →
          last.res ≠ teeSuccess → last.popped = [] →
          made.length = k + 1 ∧ transfer.res = last.res ∧
            device.Fills reg (k / 2) transfer.bytes) ∧
    (dev.toNat < i2cNum → source.wire.failed = none → ∀ k ≤ 2 * len.toNat,
      ∃ transfer target made,
        (i2cReadRegs dev (device.address.setWidth 16) reg false len flags).Exec
          (device.semantics dev) source transfer target ∧
        target.log = source.log ++ made ∧ made.length = min (k + 1) (2 * len.toNat) ∧
        FailsAt k made) := by
  have rests : source.wire.RestsAt source.wire.pointer := ⟨empty, isOver, rfl⟩
  rw [i2cReadRegs_eq dev _ reg len reg8]
  refine ⟨fun transfer target run => ?_, fun bus sound k few =>
    exists_run bus addr7 rests sound few⟩
  obtain ⟨made, logged, block⟩ := block_of_exec addr7 rests run
  refine ⟨made, logged, block.fifo_empty, fun success => ?_,
    fun k last found before failed nothing => ?_⟩
  · obtain ⟨length, res, bytes⟩ := block.complete success
    exact ⟨length, res, bytes ▸ fills_range device reg len.toNat⟩
  · obtain ⟨length, res, bytes⟩ := block.incomplete found before failed nothing
    exact ⟨length, res, bytes ▸ fills_range device reg (k / 2)⟩

/-- The two registers from `0xFF` on of a device whose registers hold their own number. -/
theorem i2cReadRegs_reads_two :
    ∃ transfer target made, (i2cReadRegs 1 0x68 0xFF false 2 0).Exec
        (semantics ⟨0x68, id⟩ 1) ⟨fun _ => ⟨0, 0, 0, 0, []⟩, ⟨[], 0, 0, 0, none, none⟩, []⟩ transfer
        target ∧
      target.log = made ∧ made.length = 4 ∧ (∀ transaction ∈ made, transaction.fifo = []) ∧
      transfer.res = teeSuccess ∧ Fills ⟨0x68, id⟩ 0xFF 2 transfer.bytes := by
  have reads := i2cReadRegs_reads_block ⟨0x68, id⟩ 1 0xFF 2 0 (by decide) (by decide)
    ⟨fun _ => ⟨0, 0, 0, 0, []⟩, ⟨[], 0, 0, 0, none, none⟩, []⟩ rfl rfl
  obtain ⟨transfer, target, made, run, logged, length, fails⟩ :=
    reads.2 (by decide) rfl 4 (by decide)
  obtain ⟨made', logged', empty, complete, -⟩ := reads.1 transfer target run
  obtain rfl : made = made' := logged.symm.trans logged'
  have success : ∀ transaction ∈ made, transaction.res = teeSuccess := by
    intro transaction member
    obtain ⟨i, below, found⟩ := List.mem_iff_getElem.mp member
    have holds := fails i transaction (by rw [List.getElem?_eq_getElem below, found])
    rwa [if_pos (show i < 4 by change made.length = 4 at length; omega)] at holds
  obtain ⟨-, res, fills⟩ := complete success
  exact ⟨transfer, target, made, run, logged, length, empty, res, fills⟩

end TrustWasm.Drivers.RegisterDevice
