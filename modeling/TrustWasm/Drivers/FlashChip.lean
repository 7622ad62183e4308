import TrustWasm.Drivers.FlashLocks
import TrustWasm.Drivers.Success

/-!
# The flash driver on a flash memory

The memory takes a new command whenever its chip select is asserted.  Page program and read data
are a command byte, three address bytes and the data within one assertion.  The driver sends the
command with the address and then the data in two transfers, and every transfer is an assertion
of its own: the memory takes the first byte of the data for a command, and nobody answers while
the data is to be read.  What is read back is therefore what an undriven line shows.
-/

namespace TrustWasm.Drivers.W25qxx

open TrustWasm.Lib TrustWasm.Tee

/-- The memory: its cells, whether they may be written, and how many status reads still show it
busy. -/
structure Chip where
  mem : BitVec 24 → Byte
  writable : Bool
  busy : Nat

inductive Command where
  | writeEnable
  | writeDisable
  | readStatus
  | pageProgram
  | readData
  | sectorErase
  | chipErase
  deriving DecidableEq

def Command.ofByte (byte : Byte) : Option Command :=
  if byte = cmdWriteEnable then some .writeEnable
  else if byte = cmdWriteDisable then some .writeDisable
  else if byte = cmdReadStatus then some .readStatus
  else if byte = cmdPageProgram then some .pageProgram
  else if byte = cmdReadData then some .readData
  else if byte = cmdSectorErase then some .sectorErase
  else if byte = cmdChipErase then some .chipErase
  else none

/-- What the input of the bus shows while the memory does not drive it, and what a transfer without
bytes to send puts on the output. -/
def undriven : Byte := 0xFF

/-- The cells of the page, after data from an offset on; the offset wraps at the end of the page. -/
def pageData (page : BitVec 8 → Byte) (offset : BitVec 8) : List Byte → BitVec 8 → Byte
  | [] => page
  | byte :: rest => pageData (Function.update page offset byte) (offset + 1) rest

namespace Chip

/-- Programming clears bits of one page. -/
def programmed (chip : Chip) (addr : BitVec 24) (data : List Byte) (cell : BitVec 24) : Byte :=
  if cell >>> 8 = addr >>> 8 then
    chip.mem cell &&& pageData (fun _ => 0xFF) (addr.setWidth 8) data (cell.setWidth 8)
  else
    chip.mem cell

def address (high middle low : Byte) : BitVec 24 :=
  (high ++ middle ++ low).setWidth 24

/-- What a command does when its assertion ends; `duration` is the number of status reads that
show the memory busy with it. -/
def execute (duration : Command → Nat) (chip : Chip) : Command → List Byte → Chip
  | .writeEnable, _ => { chip with writable := true }
  | .writeDisable, _ => { chip with writable := false }
  | .pageProgram, high :: middle :: low :: byte :: data =>
    if chip.writable then
      { mem := chip.programmed (address high middle low) (byte :: data)
        writable := false
        busy := duration .pageProgram }
    else
      chip
  | .sectorErase, [high, middle, low] =>
    if chip.writable then
      { mem := fun cell =>
          if cell >>> 12 = address high middle low >>> 12 then 0xFF else chip.mem cell
        writable := false
        busy := duration .sectorErase }
    else
      chip
  | .chipErase, [] =>
    if chip.writable then
      { mem := fun _ => 0xFF, writable := false, busy := duration .chipErase }
    else
      chip
  | .readStatus, _ | .readData, _ | .pageProgram, _ | .sectorErase, _ | .chipErase, _ => chip

/-- What the memory answers to the bytes after a command. -/
def answer (chip : Chip) : Command → List Byte → List Byte
  | .readData, high :: middle :: low :: rest =>
    List.replicate 3 undriven ++
      (List.range rest.length).map fun i => chip.mem (address high middle low + BitVec.ofNat 24 i)
  | _, rest => List.replicate rest.length undriven

def status (chip : Chip) : Byte :=
  (if chip.busy = 0 then 0 else statusBusy) ||| (if chip.writable then 0x02 else 0)

/-- One assertion of the chip select: the bytes sent, and those answered.  A busy memory only
answers its status. -/
def select (duration : Command → Nat) (chip : Chip) : List Byte → Chip × List Byte
  | [] => (chip, [])
  | byte :: rest =>
    match Command.ofByte byte with
    | none => (chip, List.replicate (rest.length + 1) undriven)
    | some .readStatus =>
      ({ chip with busy := chip.busy - 1 }, undriven :: List.replicate rest.length chip.status)
    | some command =>
      if chip.busy = 0 then
        (chip.execute duration command rest, undriven :: chip.answer command rest)
      else
        (chip, List.replicate (rest.length + 1) undriven)

end Chip

/-- The bytes a transfer sends from its buffers. -/
def wire (out : Option (List Byte)) (isNull : Bool) (len : BitVec 64) : List Byte :=
  match out with
  | some data => data.take len.toNat
  | none => if isNull then [] else List.replicate len.toNat undriven

/-- Every transfer exchanges its bytes with the memory in one assertion and succeeds. -/
def chipSemantics (duration : Command → Nat) : Semantics Board Chip where
  guard _ _ := True
  step chip op reply after :=
    match op, reply with
    | .bus (.spiTransferBytes _ _ _ out isNull len), (transfer : Transfer) =>
      after = (chip.select duration (wire out isNull len)).1 ∧
        transfer = ⟨teeSuccess,
          if isNull then [] else (chip.select duration (wire out isNull len)).2⟩
    | .spiTransferRegs _ _ reg out isNull len, (transfer : Transfer) =>
      after = (chip.select duration (reg :: wire out isNull len)).1 ∧
        transfer = ⟨teeSuccess,
          if isNull then [] else (chip.select duration (reg :: wire out isNull len)).2.tail⟩
    | .bus op, reply => BusAllows op reply ∧ after = chip
    | .i2cSetFrequency .., _ | .spiTransferByte .., _ | .spiTransferDiffBytes .., _ => after = chip

variable {duration : Command → Nat} {bus cs : BitVec 8} {chip after : Chip}

/-! ## The parts of the driver -/

variable {res : TeeResult} {polls : Polls}

theorem exec_acquire (selects : SelectsChip bus cs)
    (run : (acquire bus cs).Exec (chipSemantics duration) chip res after) :
    res = teeSuccess ∧ after = chip := by
  obtain ⟨_, _, ⟨allowed, rfl⟩, rfl, rfl⟩ := run
  exact ⟨(spiAcquire_answer _ _ allowed).mpr selects, rfl⟩

theorem exec_release (run : (release bus).Exec (chipSemantics duration) chip res after) :
    after = chip := by
  obtain ⟨_, _, ⟨-, rfl⟩, rfl, rfl⟩ := run
  rfl

theorem exec_spiWrite {cmd : Byte} {data : Option (List Byte)} {len : BitVec 64}
    (run : (spiWrite bus cs cmd data len).Exec (chipSemantics duration) chip res after) :
    res = teeSuccess ∧ after = (chip.select duration (cmd :: wire data true len)).1 := by
  obtain ⟨_, _, ⟨rfl, rfl⟩, same, rfl⟩ := run
  exact ⟨same, rfl⟩

theorem exec_transferBytes {cont isNull : Bool} {out : Option (List Byte)} {len : BitVec 64}
    {transfer : Transfer}
    (run : (onBoard (spiTransferBytes bus cs cont out isNull len)).Exec (chipSemantics duration)
      chip transfer after) :
    after = (chip.select duration (wire out isNull len)).1 ∧
      transfer = ⟨teeSuccess,
        if isNull then [] else (chip.select duration (wire out isNull len)).2⟩ := by
  obtain ⟨_, _, ⟨rfl, rfl⟩, rfl, rfl⟩ := run
  exact ⟨rfl, rfl⟩

/-- A read of the status. -/
theorem exec_readStatus {status : Transfer}
    (run : (spiRead bus cs cmdReadStatus false 1).Exec (chipSemantics duration) chip status after) :
    after = { chip with busy := chip.busy - 1 } ∧ status = ⟨teeSuccess, [chip.status]⟩ := by
  obtain ⟨_, _, ⟨rfl, rfl⟩, rfl, rfl⟩ := run
  exact ⟨rfl, rfl⟩

theorem status_busy (chip : Chip) : chip.status &&& statusBusy ≠ 0 ↔ chip.busy ≠ 0 := by
  rw [Chip.status]
  by_cases idle : chip.busy = 0 <;> cases chip.writable <;> simp [idle, statusBusy]

/-- A wait leaves the cells alone, and succeeds when the memory is not busy for too long. -/
theorem exec_wait {early : Nat}
    (run : (waitUntilReadyInternal bus cs early).Exec (chipSemantics duration) chip res after) :
    after.mem = chip.mem ∧ (chip.busy < early → res = teeSuccess) := by
  induction early generalizing chip with
  | zero =>
    obtain ⟨status, middle, read, run⟩ := Program.exec_bind.mp run
    obtain ⟨rfl, rfl⟩ := exec_readStatus read
    rw [if_neg (not_not.mpr rfl)] at run
    obtain ⟨-, rfl⟩ := run
    exact ⟨rfl, fun less => absurd less (Nat.not_lt_zero _)⟩
  | succ early ih =>
    obtain ⟨status, middle, read, run⟩ := Program.exec_bind.mp run
    obtain ⟨rfl, rfl⟩ := exec_readStatus read
    rw [if_neg (not_not.mpr rfl)] at run
    dsimp only at run
    split at run
    · rename_i busy
      have positive := (status_busy chip).mp busy
      obtain ⟨mem, ends⟩ := ih run
      exact ⟨mem, fun less => ends (by show chip.busy - 1 < early; omega)⟩
    · obtain ⟨rfl, rfl⟩ := run
      exact ⟨rfl, fun _ => rfl⟩

/-! ## A command without its data -/

theorem select_undriven (duration : Command → Nat) (chip : Chip) (count : Nat) :
    chip.select duration (List.replicate count undriven) =
      (chip, List.replicate count undriven) := by
  cases count with
  | zero => rfl
  | succ count =>
    rw [List.replicate_succ, Chip.select, show Command.ofByte undriven = none by decide]
    dsimp only
    rw [List.length_replicate, List.replicate_succ]

theorem mem_select_writeEnable (duration : Command → Nat) (chip : Chip) :
    (chip.select duration [cmdWriteEnable]).1.mem = chip.mem ∧
      (chip.select duration [cmdWriteEnable]).1.busy = chip.busy := by
  rw [Chip.select, show Command.ofByte cmdWriteEnable = some .writeEnable by decide]
  dsimp only
  split
  · exact ⟨rfl, rfl⟩
  · exact ⟨rfl, rfl⟩

/-- A page program or a read that ends with its address does nothing. -/
theorem select_address (duration : Command → Nat) (chip : Chip) {cmd : Byte}
    (command : cmd = cmdPageProgram ∨ cmd = cmdReadData) (addr : BitVec 32) :
    (chip.select duration (cmd :: addrBytes addr)).1 = chip := by
  rcases command with rfl | rfl
  · rw [Chip.select, show Command.ofByte cmdPageProgram = some .pageProgram by decide]
    dsimp only
    split
    · rfl
    · rfl
  · rw [Chip.select, show Command.ofByte cmdReadData = some .readData by decide]
    dsimp only
    split
    · rfl
    · rfl

theorem wire_addrBytes (addr : BitVec 32) : wire (some (addrBytes addr)) true 3 = addrBytes addr :=
  rfl

/-! ## Programming and reading back -/

/-- Reading shows the undriven line, whatever the memory holds. -/
theorem exec_readData_undriven (selects : SelectsChip bus cs) {readAddr len : BitVec 32}
    {reply : Reply}
    (run : (readData bus cs false readAddr len).Exec (chipSemantics duration) chip reply after) :
    reply = ⟨teeSuccess, storesFrom 0 (List.replicate len.toNat undriven)⟩ ∧ after = chip := by
  obtain ⟨res, middle, acquired, session⟩ := Program.exec_bind.mp run
  obtain ⟨-, rfl⟩ := exec_acquire selects acquired
  obtain ⟨answer, last, body, ending⟩ := Program.exec_bind.mp session
  obtain ⟨_, _, released, rfl, rfl⟩ := Program.exec_bind.mp ending
  rw [exec_release released]
  obtain ⟨sent, addressed, wrote, reading⟩ := Program.exec_bind.mp body
  obtain ⟨rfl, same⟩ := exec_spiWrite wrote
  rw [wire_addrBytes, select_address duration _ (.inr rfl)] at same
  subst same
  rw [if_neg (not_not.mpr rfl)] at reading
  obtain ⟨read, _, transferred, rfl, rfl⟩ := Program.exec_bind.mp reading
  obtain ⟨rfl, rfl⟩ := exec_transferBytes transferred
  have dummies : wire none false (len.setWidth 64) = List.replicate len.toNat undriven := by
    show List.replicate (len.setWidth 64).toNat undriven = _
    rw [BitVec.toNat_setWidth, Nat.mod_eq_of_lt (by omega)]
  rw [dummies, select_undriven]
  exact ⟨rfl, rfl⟩

theorem exec_writeEnableInternal (ready : chip.busy < polls 0 writeEnableTimeoutUs)
    (run : (writeEnableInternal polls bus cs).Exec (chipSemantics duration) chip res after) :
    res = teeSuccess ∧ after.mem = chip.mem := by
  obtain ⟨sent, enabled, wrote, waiting⟩ := Program.exec_bind.mp run
  obtain ⟨rfl, rfl⟩ := exec_spiWrite wrote
  rw [if_neg (not_not.mpr rfl)] at waiting
  obtain ⟨mem, busy⟩ := mem_select_writeEnable duration chip
  obtain ⟨kept, ends⟩ := exec_wait waiting
  exact ⟨ends (busy.trans_lt ready), kept.trans mem⟩

/-- Programming answers success, and what it does to the cells is what the data does as a command
of its own. -/
theorem exec_pageProgram_command (selects : SelectsChip bus cs)
    (ready : chip.busy < polls 0 writeEnableTimeoutUs) {data : List Byte}
    {writeAddr len : BitVec 32} (whole : data.length = len.toNat) {reply : Reply}
    (run : (pageProgram polls bus cs (some data) writeAddr len).Exec (chipSemantics duration) chip
      reply after) :
    reply = ⟨teeSuccess, []⟩ ∧ ∃ enabled : Chip, enabled.mem = chip.mem ∧
      after.mem = (enabled.select duration data).1.mem := by
  obtain ⟨res, middle, acquired, session⟩ := Program.exec_bind.mp run
  obtain ⟨rfl, rfl⟩ := exec_acquire selects acquired
  rw [if_neg (not_not.mpr rfl)] at session
  obtain ⟨answer, last, body, ending⟩ := Program.exec_bind.mp session
  obtain ⟨_, _, released, rfl, rfl⟩ := Program.exec_bind.mp ending
  rw [exec_release released]
  obtain ⟨res, enabled, enables, programming⟩ := Program.exec_bind.mp body
  obtain ⟨rfl, mem⟩ := exec_writeEnableInternal ready enables
  rw [if_neg (not_not.mpr rfl)] at programming
  obtain ⟨res, addressed, wrote, sending⟩ := Program.exec_bind.mp programming
  obtain ⟨rfl, same⟩ := exec_spiWrite wrote
  rw [wire_addrBytes, select_address duration _ (.inl rfl)] at same
  subst same
  rw [if_neg (not_not.mpr rfl)] at sending
  obtain ⟨written, sent, transferred, waiting⟩ := Program.exec_bind.mp sending
  obtain ⟨rfl, rfl⟩ := exec_transferBytes transferred
  rw [if_neg (not_not.mpr rfl)] at waiting
  obtain ⟨waited, _, waits, rfl, rfl⟩ := Program.exec_bind.mp waiting
  have all : wire (some data) true (len.setWidth 64) = data := by
    refine List.take_of_length_le ?_
    rw [BitVec.toNat_setWidth, whole]
    omega
  rw [all] at waits
  exact ⟨rfl, addressed, mem, (exec_wait waits).1⟩

theorem chipSemantics_total (duration : Command → Nat) (chip : Chip) (op : BoardOp) :
    ∃ reply after, (chipSemantics duration).step chip op reply after := by
  cases op with
  | bus op =>
    obtain ⟨reply, allowed⟩ := busAllows_total op
    cases op with
    | spiTransferBytes bus cs cont out isNull len => exact ⟨_, _, rfl, rfl⟩
    | _ => exact ⟨reply, chip, allowed, rfl⟩
  | i2cSetFrequency dev freq => exact ⟨teeSuccess, chip, rfl⟩
  | spiTransferByte bus cs cont out isNull => exact ⟨⟨teeSuccess, []⟩, chip, rfl⟩
  | spiTransferDiffBytes bus cs cont out isNull outLen inLen => exact ⟨⟨teeSuccess, []⟩, chip, rfl⟩
  | spiTransferRegs bus cs reg out isNull len => exact ⟨_, _, rfl, rfl⟩

theorem map_snd_storesFrom (offset : Nat) (bytes : List Byte) :
    (storesFrom offset bytes).map Prod.snd = bytes := by
  induction bytes generalizing offset with
  | nil => rfl
  | cons byte rest ih => exact congrArg (byte :: ·) (ih _)

/-- `w25qxx_page_program` followed by `w25qxx_read_data` of the same cells. -/
def programAndRead (polls : Polls) (bus cs : BitVec 8) (data : List Byte) (addr len : BitVec 32) :
    Program Board (Reply × Reply) := do
  let written ← pageProgram polls bus cs (some data) addr len
  let read ← readData bus cs false addr len
  return (written, read)

/-- Both calls answer success, the data is read back, and no other cell is changed. -/
def RoundTrip (polls : Polls) (duration : Command → Nat) (bus cs : BitVec 8) (chip : Chip)
    (data : List Byte) (addr len : BitVec 32) : Prop :=
  ∀ replies after,
    (programAndRead polls bus cs data addr len).Exec (chipSemantics duration) chip replies after →
    replies.1.res = teeSuccess ∧ replies.2 = ⟨teeSuccess, storesFrom 0 data⟩ ∧
      ∀ cell : BitVec 24, ¬(addr.toNat ≤ cell.toNat ∧ cell.toNat < addr.toNat + len.toNat) →
        after.mem cell = chip.mem cell

section RoundTrip

variable {data : List Byte} {addr len : BitVec 32}

theorem exec_programAndRead (selects : SelectsChip bus cs)
    (ready : chip.busy < polls 0 writeEnableTimeoutUs) (whole : data.length = len.toNat)
    {replies : Reply × Reply}
    (run : (programAndRead polls bus cs data addr len).Exec (chipSemantics duration) chip replies
      after) :
    replies = (⟨teeSuccess, []⟩, ⟨teeSuccess, storesFrom 0 (List.replicate len.toNat undriven)⟩) ∧
      ∃ enabled : Chip, enabled.mem = chip.mem ∧
        after.mem = (enabled.select duration data).1.mem := by
  obtain ⟨written, middle, programs, reading⟩ := Program.exec_bind.mp run
  obtain ⟨read, last, reads, rfl, rfl⟩ := Program.exec_bind.mp reading
  obtain ⟨rfl, cells⟩ := exec_pageProgram_command selects ready whole programs
  obtain ⟨rfl, rfl⟩ := exec_readData_undriven selects reads
  exact ⟨rfl, cells⟩

theorem undriven_of_roundTrip (selects : SelectsChip bus cs)
    (ready : chip.busy < polls 0 writeEnableTimeoutUs) (whole : data.length = len.toNat)
    (roundTrip : RoundTrip polls duration bus cs chip data addr len) :
    data = List.replicate len.toNat undriven := by
  obtain ⟨replies, after, run⟩ :=
    (Program.uses_all (programAndRead polls bus cs data addr len)).exists_exec
      (fun chip op _ => chipSemantics_total duration chip op) chip
  obtain ⟨rfl, -⟩ := exec_programAndRead selects ready whole run
  have same : storesFrom 0 (List.replicate len.toNat undriven) = storesFrom 0 data :=
    congrArg Reply.out (roundTrip _ _ run).2.1
  rw [← map_snd_storesFrom 0 data, ← same, map_snd_storesFrom]

theorem roundTrip_of_undriven (selects : SelectsChip bus cs)
    (ready : chip.busy < polls 0 writeEnableTimeoutUs)
    (blank : data = List.replicate len.toNat undriven) :
    RoundTrip polls duration bus cs chip data addr len := by
  subst blank
  intro replies after run
  obtain ⟨rfl, enabled, mem, same⟩ := exec_programAndRead selects ready (List.length_replicate) run
  rw [select_undriven, mem] at same
  exact ⟨rfl, rfl, fun cell _ => congrFun same cell⟩

/-- Data that is programmed is read back exactly when it is all ones, as the cells of an erased
page are. -/
theorem roundTrip_iff (duration : Command → Nat) (selects : SelectsChip bus cs)
    (ready : chip.busy < polls 0 writeEnableTimeoutUs) (whole : data.length = len.toNat) :
    RoundTrip polls duration bus cs chip data addr len ↔
      data = List.replicate len.toNat 0xFF :=
  ⟨undriven_of_roundTrip selects ready whole, roundTrip_of_undriven selects ready⟩

theorem roundTrip_two_blank :
    RoundTrip (fun _ _ => 4) (fun _ => 2) 0 0 ⟨fun _ => 0xFF, false, 0⟩ [0xFF, 0xFF] 0x1000 2 :=
  (roundTrip_iff _ (by decide) (by decide) rfl).mpr rfl

/-- A byte programmed to an erased memory that is ready in time is not read back. -/
theorem not_roundTrip_one_byte :
    ¬RoundTrip (fun _ _ => 4) (fun _ => 2) 0 0 ⟨fun _ => 0xFF, false, 0⟩ [0x42] 0x1000 1 := by
  intro roundTrip
  have blank := undriven_of_roundTrip (by decide) (by decide) rfl roundTrip
  exact absurd blank (by decide)

end RoundTrip

end TrustWasm.Drivers.W25qxx
