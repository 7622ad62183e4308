import TrustWasm.Drivers.Board

/-!
# What the flash driver reports

An operation of the flash driver acquires the bus, makes transfers and waits until the memory is
ready.  `Steps` are these parts of an operation, each with its answer.  Several operations go on
after a part has failed: most of them do not look at the answer of acquiring the bus, reading data
drops the answer of the transfer of the data, and programming and erasing drop the answer of their
last wait.  An operation reports its failures exactly when none of the parts it ignores fails.
-/

namespace TrustWasm.Drivers.W25qxx

open TrustWasm.Lib TrustWasm.Tee

/-- What a wait returns, and the status byte it read last. -/
structure ReadyWait where
  res : TeeResult
  status : Byte
  deriving DecidableEq

/-- A part of an operation; the waits of an operation are counted. -/
inductive StepOp where
  | acquire
  | release
  | write (cmd : Byte) (data : Option (List Byte)) (len : BitVec 64)
  | transfer (cont : Bool) (out : Option (List Byte)) (isNull : Bool) (len : BitVec 64)
  | ready (index : Nat) (timeout : BitVec 32)
  deriving DecidableEq

abbrev Steps : Interface where
  Op := StepOp
  Reply
    | .acquire | .release | .write .. => TeeResult
    | .transfer .. => Transfer
    | .ready .. => ReadyWait

namespace Steps

def acquire : Program Steps TeeResult :=
  Program.perform (I := Steps) .acquire

def release : Program Steps TeeResult :=
  Program.perform (I := Steps) .release

def write (cmd : Byte) (data : Option (List Byte)) (len : BitVec 64) : Program Steps TeeResult :=
  Program.perform (I := Steps) (.write cmd data len)

def transfer (cont : Bool) (out : Option (List Byte)) (isNull : Bool) (len : BitVec 64) :
    Program Steps Transfer :=
  Program.perform (I := Steps) (.transfer cont out isNull len)

def ready (index : Nat) (timeout : BitVec 32) : Program Steps TeeResult :=
  ReadyWait.res <$> Program.perform (I := Steps) (.ready index timeout)

end Steps

/-- An operation that reads, programs or erases the memory, or lets it be written. -/
inductive Operation where
  | readData (isNull : Bool) (readAddr len : BitVec 32)
  | pageProgram (data : Option (List Byte)) (writeAddr len : BitVec 32)
  | sectorErase (eraseAddr : BitVec 32)
  | chipErase
  | writeEnable
  | writeDisable
  deriving DecidableEq

/-- A command that is followed by a wait. -/
def writeAndWait (cmd : Byte) (len : BitVec 64) : Program Steps TeeResult := do
  let res ← Steps.write cmd none len
  if res ≠ teeSuccess then
    return res
  Steps.ready 0 writeEnableTimeoutUs

/-- The operations that ignore what acquiring the bus answers. -/
def uncheckedSteps (body : Program Steps Reply) : Program Steps Reply := do
  let _ ← Steps.acquire
  let reply ← body
  let _ ← Steps.release
  return reply

/-- Enabling writes and a command; the answer of the wait after it is dropped. -/
def eraseSteps (cmd : Byte) (data : Option (List Byte)) (len : BitVec 64) (timeout : BitVec 32) :
    Program Steps Reply := do
  let res ← writeAndWait cmdWriteEnable 0
  if res ≠ teeSuccess then
    return ⟨res, []⟩
  let res ← Steps.write cmd data len
  if res ≠ teeSuccess then
    return ⟨res, []⟩
  let _ ← Steps.ready 1 timeout
  return ⟨teeSuccess, []⟩

namespace Operation

def toCall : Operation → Call
  | .readData isNull readAddr len => .readData isNull readAddr len
  | .pageProgram data writeAddr len => .pageProgram data writeAddr len
  | .sectorErase eraseAddr => .sectorErase eraseAddr
  | .chipErase => .chipErase
  | .writeEnable => .writeEnable
  | .writeDisable => .writeDisable

def steps : Operation → Program Steps Reply
  | .readData isNull readAddr len => uncheckedSteps do
      let res ← Steps.write cmdReadData (some (addrBytes readAddr)) 3
      if res ≠ teeSuccess then
        return ⟨res, []⟩
      let read ← Steps.transfer false none isNull (len.setWidth 64)
      return ⟨teeSuccess, storesFrom 0 read.bytes⟩
  | .pageProgram data writeAddr len => do
    let res ← Steps.acquire
    if res ≠ teeSuccess then
      return ⟨res, []⟩
    let reply ← (do
      let res ← writeAndWait cmdWriteEnable 0
      if res ≠ teeSuccess then
        return ⟨res, []⟩
      let res ← Steps.write cmdPageProgram (some (addrBytes writeAddr)) 3
      if res ≠ teeSuccess then
        return ⟨res, []⟩
      let written ← Steps.transfer true data true (len.setWidth 64)
      if written.res ≠ teeSuccess then
        return ⟨written.res, []⟩
      let _ ← Steps.ready 1 (pageProgramTimeoutPerByteUs * len)
      return ⟨teeSuccess, []⟩ : Program Steps Reply)
    let _ ← Steps.release
    return reply
  | .sectorErase eraseAddr =>
    uncheckedSteps (eraseSteps cmdSectorErase (some (addrBytes eraseAddr)) 3 sectorEraseTimeoutUs)
  | .chipErase => uncheckedSteps (eraseSteps cmdChipErase none 0 chipEraseTimeoutUs)
  | .writeEnable => uncheckedSteps (Reply.ofResult <$> writeAndWait cmdWriteEnable 0)
  | .writeDisable => uncheckedSteps (Reply.ofResult <$> writeAndWait cmdWriteDisable 1)

end Operation

/-! ## The parts on the board -/

section Board

variable (polls : Polls) (bus cs : BitVec 8)

/-- `w25qxx_wait_until_ready_internal` with the status byte it read last. -/
def readyWait : Nat → Program Board ReadyWait
  | 0 => do
    let status ← spiRead bus cs cmdReadStatus false 1
    if status.res ≠ teeSuccess then
      return ⟨status.res, status.bytes.headD 0⟩
    return ⟨teeErrorTimeout, status.bytes.headD 0⟩
  | early + 1 => do
    let status ← spiRead bus cs cmdReadStatus false 1
    if status.res ≠ teeSuccess then
      return ⟨status.res, status.bytes.headD 0⟩
    if status.bytes.headD 0 &&& statusBusy ≠ 0 then
      readyWait early
    else
      return ⟨teeSuccess, status.bytes.headD 0⟩

def stepProgram : (op : StepOp) → Program Board (Steps.Reply op)
  | .acquire => acquire bus cs
  | .release => release bus
  | .write cmd data len => spiWrite bus cs cmd data len
  | .transfer cont out isNull len => onBoard (spiTransferBytes bus cs cont out isNull len)
  | .ready index timeout => readyWait bus cs (polls index timeout)

variable {polls bus cs}

theorem res_readyWait (early : Nat) :
    ReadyWait.res <$> readyWait bus cs early = waitUntilReadyInternal bus cs early := by
  induction early with
  | zero =>
    simp only [readyWait, waitUntilReadyInternal, map_bind]
    refine congrArg (spiRead bus cs cmdReadStatus false 1 >>= ·) (funext fun status => ?_)
    split
    · rfl
    · rfl
  | succ early ih =>
    simp only [readyWait, waitUntilReadyInternal, map_bind]
    refine congrArg (spiRead bus cs cmdReadStatus false 1 >>= ·) (funext fun status => ?_)
    split
    · rfl
    · split
      · exact ih
      · rfl

theorem translate_acquire :
    Steps.acquire.translate (stepProgram polls bus cs) = acquire bus cs :=
  Program.translate_perform _ _

theorem translate_release :
    Steps.release.translate (stepProgram polls bus cs) = release bus :=
  Program.translate_perform _ _

theorem translate_write (cmd : Byte) (data : Option (List Byte)) (len : BitVec 64) :
    (Steps.write cmd data len).translate (stepProgram polls bus cs) =
      spiWrite bus cs cmd data len :=
  Program.translate_perform _ _

theorem translate_transfer (cont : Bool) (out : Option (List Byte)) (isNull : Bool)
    (len : BitVec 64) :
    (Steps.transfer cont out isNull len).translate (stepProgram polls bus cs) =
      onBoard (spiTransferBytes bus cs cont out isNull len) :=
  Program.translate_perform _ _

theorem translate_ready (index : Nat) (timeout : BitVec 32) :
    (Steps.ready index timeout).translate (stepProgram polls bus cs) =
      waitUntilReadyInternal bus cs (polls index timeout) := by
  rw [← res_readyWait, Steps.ready, map_eq_pure_bind, Program.translate_bind,
    Program.translate_perform, map_eq_pure_bind]
  rfl

theorem translate_writeAndWait (cmd : Byte) (len : BitVec 64) :
    (writeAndWait cmd len).translate (stepProgram polls bus cs) = (do
      let res ← spiWrite bus cs cmd none len
      if res ≠ teeSuccess then
        return res
      waitUntilReadyInternal bus cs (polls 0 writeEnableTimeoutUs)) := by
  simp only [writeAndWait, Program.translate_bind, Program.translate_ite, Program.translate_pure,
    translate_write, translate_ready]

theorem translate_uncheckedSteps {body : Program Steps Reply} {driver : Program Board Reply}
    (same : body.translate (stepProgram polls bus cs) = driver) :
    (uncheckedSteps body).translate (stepProgram polls bus cs) = unchecked bus cs driver := by
  simp only [uncheckedSteps, unchecked, Program.translate_bind, Program.translate_pure,
    translate_acquire, translate_release, same]

theorem translate_eraseSteps (cmd : Byte) (data : Option (List Byte)) (len : BitVec 64)
    (timeout : BitVec 32) :
    (eraseSteps cmd data len timeout).translate (stepProgram polls bus cs) = (do
      let res ← writeEnableInternal polls bus cs
      if res ≠ teeSuccess then
        return ⟨res, []⟩
      let res ← spiWrite bus cs cmd data len
      if res ≠ teeSuccess then
        return ⟨res, []⟩
      let _ ← waitUntilReadyInternal bus cs (polls 1 timeout)
      return ⟨teeSuccess, []⟩) := by
  simp only [eraseSteps, writeEnableInternal, Program.translate_bind, Program.translate_ite,
    Program.translate_pure, translate_writeAndWait, translate_write, translate_ready]

/-- The parts of an operation make up the operation of the driver. -/
theorem translate_steps (operation : Operation) :
    operation.steps.translate (stepProgram polls bus cs) =
      operation.toCall.program polls bus cs := by
  cases operation with
  | readData isNull readAddr len =>
    refine translate_uncheckedSteps ?_
    simp only [Program.translate_bind, Program.translate_ite, Program.translate_pure,
      translate_write, translate_transfer]
  | pageProgram data writeAddr len =>
    simp only [Operation.steps, Operation.toCall, Call.program, pageProgram, checked,
      writeEnableInternal, Program.translate_bind, Program.translate_ite, Program.translate_pure,
      translate_acquire, translate_release, translate_writeAndWait, translate_write,
      translate_transfer, translate_ready]
  | sectorErase | chipErase => exact translate_uncheckedSteps (translate_eraseSteps _ _ _ _)
  | writeEnable | writeDisable =>
    refine translate_uncheckedSteps ?_
    rw [map_eq_pure_bind, Program.translate_bind, translate_writeAndWait, map_eq_pure_bind]
    rfl

end Board

/-! ## Outcomes -/

/-- A part of an operation with its answer. -/
abbrev Event := (op : StepOp) × Steps.Reply op

namespace Event

def Succeeded : Event → Prop
  | ⟨.acquire, (res : TeeResult)⟩ => res = teeSuccess
  | ⟨.release, _⟩ => True
  | ⟨.write .., (res : TeeResult)⟩ => res = teeSuccess
  | ⟨.transfer .., (transfer : Transfer)⟩ => transfer.res = teeSuccess
  | ⟨.ready .., (wait : ReadyWait)⟩ => wait.res = teeSuccess

def readyWait? : Event → Option ReadyWait
  | ⟨.ready .., (wait : ReadyWait)⟩ => some wait
  | ⟨.acquire, _⟩ | ⟨.release, _⟩ | ⟨.write .., _⟩ | ⟨.transfer .., _⟩ => none

end Event

/-- The last wait of a record. -/
def lastWait (record : List Event) : Option ReadyWait :=
  (record.filterMap Event.readyWait?).getLast?

/-- The parts whose answers an operation does not look at. -/
def Operation.Ignores : Operation → StepOp → Prop
  | .pageProgram .., .acquire => False
  | _, .acquire => True
  | .readData .., .transfer .. => True
  | _, .transfer .. => False
  | _, .ready index _ => index = 1
  | _, .write .. => False
  | _, .release => True

/-- The board: acquiring a bus and transferring bytes answer as they do, the other transfers as
they like. -/
def boardOutcomes : Semantics Board Unit where
  guard _ _ := True
  step _ op reply _ :=
    match op, reply with
    | .bus op, reply => BusAllows op reply
    | .i2cSetFrequency .., _ | .spiTransferByte .., _ | .spiTransferDiffBytes .., _
    | .spiTransferRegs .., _ => True

/-- The parts of an operation with every outcome they can have. -/
def outcomes (polls : Polls) (bus cs : BitVec 8) : Semantics Steps Unit where
  guard _ _ := True
  step _ op reply _ := (stepProgram polls bus cs op).Exec boardOutcomes () reply ()

/-- An operation with the record of its parts. -/
def recording (polls : Polls) (bus cs : BitVec 8) : Semantics Steps (Unit × List Event) :=
  Program.recorded (outcomes polls bus cs) fun op reply => [⟨op, reply⟩]

variable {polls : Polls} {bus cs : BitVec 8}

/-- A wait that succeeds has seen the memory ready. -/
theorem ready_of_success {early : Nat} {wait : ReadyWait}
    (run : (readyWait bus cs early).Exec boardOutcomes () wait ())
    (success : wait.res = teeSuccess) :
    wait.status &&& statusBusy = 0 := by
  induction early with
  | zero =>
    obtain ⟨status, _, -, run⟩ := Program.exec_bind.mp run
    split at run
    · rename_i failed
      rw [run.1] at success
      exact absurd success failed
    · rw [run.1] at success
      exact absurd success (show teeErrorTimeout ≠ teeSuccess by decide)
  | succ early ih =>
    obtain ⟨status, _, -, run⟩ := Program.exec_bind.mp run
    split at run
    · rename_i failed
      rw [run.1] at success
      exact absurd success failed
    · split at run
      · exact ih run
      · rename_i ready
        rw [run.1]
        exact not_not.mp ready

/-! ## Which answers decide the result -/

section Reports

variable {operation : Operation} {α : Type} {answer : α → TeeResult}

/-- Every part whose answer the operation looks at has succeeded. -/
def Operation.Checked (operation : Operation) (record : List Event) : Prop :=
  ∀ event ∈ record, ¬operation.Ignores event.1 → event.Succeeded

theorem checked_concat (record : List Event) (event : Event) :
    operation.Checked (record ++ [event]) ↔
      operation.Checked record ∧ (¬operation.Ignores event.1 → event.Succeeded) := by
  simp only [Operation.Checked, List.forall_mem_append, List.forall_mem_singleton]

/-- A program answers success exactly when the parts it adds to the record have succeeded, as far
as the operation looks at them. -/
def Reports (polls : Polls) (bus cs : BitVec 8) (operation : Operation) (answer : α → TeeResult)
    (program : Program Steps α) : Prop :=
  ∀ before, program.Obeys (recording polls bus cs)
    (fun value after =>
      operation.Checked after.2 ↔ operation.Checked before ∧ answer value = teeSuccess)
    ((), before)

theorem reports_pure {value : α} (success : answer value = teeSuccess) :
    Reports polls bus cs operation answer (pure value) :=
  fun _ => ⟨fun checked => ⟨checked, success⟩, And.left⟩

/-- A part whose answer is looked at. -/
theorem reports_part {op : StepOp} {answer : Steps.Reply op → TeeResult}
    (looked : ¬operation.Ignores op)
    (succeeded : ∀ reply, Event.Succeeded ⟨op, reply⟩ ↔ answer reply = teeSuccess) :
    Reports polls bus cs operation answer (Program.perform (I := Steps) op) := by
  intro before
  refine .recorded_bind trivial fun reply _ _ => ?_
  show operation.Checked (before ++ [⟨op, reply⟩]) ↔ _
  rw [checked_concat, imp_iff_right looked, succeeded]

/-- A part whose answer is ignored. -/
theorem reports_ignored {op : StepOp} {rest : Steps.Reply op → Program Steps α}
    (ignored : operation.Ignores op)
    (reports : ∀ reply, Reports polls bus cs operation answer (rest reply)) :
    Reports polls bus cs operation answer (Program.perform (I := Steps) op >>= rest) := by
  intro before
  refine .recorded_bind trivial fun reply _ _ => ?_
  refine (reports reply _).mono fun value after ends => ?_
  rw [ends, checked_concat, and_iff_left fun looked => absurd ignored looked]

/-- A program that stops when its first part fails. -/
theorem Reports.orReturn {β : Type} {result : β → TeeResult} {first : Program Steps β}
    {rest : β → Program Steps α} {refused : β → α}
    (refuses : ∀ value, answer (refused value) = result value)
    (reports : Reports polls bus cs operation result first)
    (reportsRest : ∀ value, Reports polls bus cs operation answer (rest value)) :
    Reports polls bus cs operation answer (first >>= fun value =>
      if result value ≠ teeSuccess then pure (refused value) else rest value) := by
  intro before
  refine (reports before).bind fun value middle ends => ?_
  obtain ⟨⟨⟩, record⟩ := middle
  split
  · rename_i failed
    show operation.Checked record ↔ _ ∧ answer (refused value) = teeSuccess
    rw [refuses]
    exact ends
  · rename_i succeeded
    refine (reportsRest value record).mono fun last after endsRest => ?_
    rw [endsRest, ends, and_iff_left (not_not.mp succeeded)]

theorem Reports.map {β : Type} {f : α → β} {result : β → TeeResult} {program : Program Steps α}
    (same : ∀ value, result (f value) = answer value)
    (reports : Reports polls bus cs operation answer program) :
    Reports polls bus cs operation result (f <$> program) := by
  intro before
  rw [map_eq_pure_bind]
  refine (reports before).bind fun value middle ends => ?_
  show operation.Checked middle.2 ↔ _ ∧ result (f value) = teeSuccess
  rw [same]
  exact ends

/-! Every operation looks at the commands it sends and at its first wait. -/

theorem not_ignores_write (operation : Operation) (cmd : Byte) (data : Option (List Byte))
    (len : BitVec 64) : ¬operation.Ignores (.write cmd data len) := by
  cases operation <;> exact id

theorem not_ignores_first (operation : Operation) (timeout : BitVec 32) :
    ¬operation.Ignores (.ready 0 timeout) := by
  cases operation <;> exact Nat.zero_ne_one

theorem ignores_second (operation : Operation) (timeout : BitVec 32) :
    operation.Ignores (.ready 1 timeout) := by
  cases operation <;> exact rfl

theorem ignores_release (operation : Operation) : operation.Ignores .release := by
  cases operation <;> exact trivial

/-- Releasing the bus at the end. -/
theorem Reports.andRelease {body : Program Steps α}
    (reports : Reports polls bus cs operation answer body) :
    Reports polls bus cs operation answer (do
      let value ← body
      let _ ← Steps.release
      return value) := by
  intro before
  refine (reports before).bind fun value middle ends => ?_
  obtain ⟨⟨⟩, record⟩ := middle
  refine .recorded_bind trivial fun reply _ _ => ?_
  show operation.Checked (record ++ [⟨.release, reply⟩]) ↔ _
  rw [checked_concat, and_iff_left fun looked => absurd (ignores_release operation) looked]
  exact ends

theorem reports_write (cmd : Byte) (data : Option (List Byte)) (len : BitVec 64) :
    Reports polls bus cs operation id (Steps.write cmd data len) :=
  reports_part (not_ignores_write operation cmd data len) fun _ => Iff.rfl

theorem reports_writeAndWait (cmd : Byte) (len : BitVec 64) :
    Reports polls bus cs operation id (writeAndWait cmd len) := by
  refine (reports_write cmd none len).orReturn (fun _ => rfl) fun _ => ?_
  exact (reports_part (not_ignores_first operation _) fun _ => Iff.rfl).map fun _ => rfl

theorem reports_uncheckedSteps {body : Program Steps Reply} (ignored : operation.Ignores .acquire)
    (reports : Reports polls bus cs operation Reply.res body) :
    Reports polls bus cs operation Reply.res (uncheckedSteps body) :=
  reports_ignored ignored fun _ => reports.andRelease

theorem reports_eraseSteps (cmd : Byte) (data : Option (List Byte)) (len : BitVec 64)
    (timeout : BitVec 32) :
    Reports polls bus cs operation Reply.res (eraseSteps cmd data len timeout) := by
  refine (reports_writeAndWait _ _).orReturn (fun _ => rfl) fun _ => ?_
  refine (reports_write cmd data len).orReturn (fun _ => rfl) fun _ => ?_
  exact reports_ignored (ignores_second operation timeout) fun _ => reports_pure rfl

/-- An operation answers success exactly when every part it looks at has succeeded. -/
theorem reports_steps (operation : Operation) :
    Reports polls bus cs operation Reply.res operation.steps := by
  cases operation with
  | readData isNull readAddr len =>
    refine reports_uncheckedSteps trivial ?_
    refine (reports_write _ _ _).orReturn (fun _ => rfl) fun _ => ?_
    exact reports_ignored trivial fun _ => reports_pure rfl
  | pageProgram data writeAddr len =>
    have acquires : Reports polls bus cs (.pageProgram data writeAddr len) id Steps.acquire :=
      reports_part id fun _ => Iff.rfl
    have transfers : Reports polls bus cs (.pageProgram data writeAddr len) Transfer.res
        (Steps.transfer true data true (len.setWidth 64)) :=
      reports_part id fun _ => Iff.rfl
    refine acquires.orReturn (fun _ => rfl) fun _ => Reports.andRelease ?_
    refine (reports_writeAndWait _ _).orReturn (fun _ => rfl) fun _ => ?_
    refine (reports_write _ _ _).orReturn (fun _ => rfl) fun _ => ?_
    refine transfers.orReturn (fun _ => rfl) fun _ => ?_
    exact reports_ignored (ignores_second _ _) fun _ => reports_pure rfl
  | sectorErase | chipErase =>
    exact reports_uncheckedSteps trivial (reports_eraseSteps _ _ _ _)
  | writeEnable | writeDisable =>
    exact reports_uncheckedSteps trivial ((reports_writeAndWait _ _).map fun _ => rfl)

end Reports

/-- The waits of a record have seen the memory ready if they succeeded. -/
theorem ready_of_recorded {operation : Operation} {reply : Reply} {record : List Event}
    (run : operation.steps.Exec (recording polls bus cs) ((), []) reply ((), record)) :
    ∀ event ∈ record, ∀ wait, Event.readyWait? event = some wait → Event.Succeeded event →
      wait.status &&& statusBusy = 0 := by
  refine run.forall_recorded (P := fun event => ∀ wait, Event.readyWait? event = some wait →
    Event.Succeeded event → wait.status &&& statusBusy = 0) ?_ (by simp)
  intro _ op reply _ step event member wait found success
  obtain rfl := List.mem_singleton.mp member
  cases op with
  | ready index timeout =>
    cases found
    exact ready_of_success step success
  | acquire => cases found
  | release => cases found
  | write cmd data len => cases found
  | transfer cont out isNull len => cases found

/-- An operation reports every failure exactly when a part it looks at has failed, or none of the
parts it ignores has. -/
theorem Operation.reports_failures_iff (operation : Operation) (polls : Polls) (bus cs : BitVec 8)
    {reply : Reply} {record : List Event}
    (run : operation.steps.Exec (recording polls bus cs) ((), []) reply ((), record)) :
    (reply.res = teeSuccess → (∀ event ∈ record, Event.Succeeded event) ∧
        ∀ wait, lastWait record = some wait → wait.status &&& statusBusy = 0) ↔
      (∃ event ∈ record, ¬operation.Ignores event.1 ∧ ¬Event.Succeeded event) ∨
        ∀ event ∈ record, operation.Ignores event.1 → Event.Succeeded event := by
  have decides : operation.Checked record ↔ reply.res = teeSuccess := by
    have ends := (reports_steps operation []).post_of_exec run
    exact ends.trans (and_iff_right fun _ member => absurd member List.not_mem_nil)
  rw [← decides]
  constructor
  · intro reports
    by_cases checked : operation.Checked record
    · exact .inr fun event member _ => (reports checked).1 event member
    · left
      simpa only [Operation.Checked, not_forall, exists_prop] using checked
  · rintro (⟨event, member, looked, failed⟩ | fine) checked
    · exact absurd (checked event member looked) failed
    · have all : ∀ event ∈ record, Event.Succeeded event := by
        intro event member
        by_cases ignored : operation.Ignores event.1
        · exact fine event member ignored
        · exact checked event member ignored
      refine ⟨all, fun wait last => ?_⟩
      obtain ⟨event, member, found⟩ := List.mem_filterMap.mp (List.mem_of_getLast? last)
      exact ready_of_recorded run event member wait found (all event member)

/-- Reading data with a transfer that answers `read`. -/
theorem exec_readData (polls : Polls) (readAddr len : BitVec 32) (read : Transfer)
    (allowed : BusAllows (.spiTransferBytes 0 0 false none false (len.setWidth 64)) read) :
    (Operation.readData false readAddr len).steps.Exec (recording polls 0 0) ((), [])
      ⟨teeSuccess, storesFrom 0 read.bytes⟩
      ((), [⟨.acquire, teeSuccess⟩, ⟨.write cmdReadData (some (addrBytes readAddr)) 3, teeSuccess⟩,
        ⟨.transfer false none false (len.setWidth 64), read⟩, ⟨.release, teeSuccess⟩]) := by
  have acquires : (stepProgram polls 0 0 .acquire).Exec boardOutcomes () teeSuccess () :=
    ⟨teeSuccess, (), rfl, rfl, rfl⟩
  have releases : (stepProgram polls 0 0 .release).Exec boardOutcomes () teeSuccess () :=
    ⟨teeSuccess, (), rfl, rfl, rfl⟩
  have writes : (stepProgram polls 0 0 (.write cmdReadData (some (addrBytes readAddr)) 3)).Exec
      boardOutcomes () teeSuccess () := ⟨⟨teeSuccess, []⟩, (), trivial, rfl, rfl⟩
  have reads : (stepProgram polls 0 0 (.transfer false none false (len.setWidth 64))).Exec
      boardOutcomes () read () := ⟨read, (), allowed, rfl, rfl⟩
  refine ⟨teeSuccess, ((), _), ⟨acquires, rfl⟩, ?_⟩
  refine ⟨teeSuccess, ((), _), ⟨writes, rfl⟩, ?_⟩
  refine ⟨read, ((), _), ⟨reads, rfl⟩, ?_⟩
  exact ⟨teeSuccess, ((), _), ⟨releases, rfl⟩, rfl, rfl⟩

/-- Writes are enabled, and the wait sees the memory ready at its first look. -/
theorem Operation.reports_failures_of_write_enable :
    ∃ record, Operation.writeEnable.steps.Exec (recording (fun _ _ => 1) 0 0) ((), [])
      ⟨teeSuccess, []⟩ ((), record) ∧ lastWait record = some ⟨teeSuccess, 0⟩ ∧
      ∀ event ∈ record, Event.Succeeded event := by
  have acquires : (stepProgram (fun _ _ => 1) 0 0 .acquire).Exec boardOutcomes () teeSuccess () :=
    ⟨teeSuccess, (), rfl, rfl, rfl⟩
  have writes : (stepProgram (fun _ _ => 1) 0 0 (.write cmdWriteEnable none 0)).Exec
      boardOutcomes () teeSuccess () := ⟨⟨teeSuccess, []⟩, (), trivial, rfl, rfl⟩
  have waits : (stepProgram (fun _ _ => 1) 0 0 (.ready 0 writeEnableTimeoutUs)).Exec
      boardOutcomes () ⟨teeSuccess, 0⟩ () := ⟨⟨teeSuccess, [0]⟩, (), trivial, rfl, rfl⟩
  have releases : (stepProgram (fun _ _ => 1) 0 0 .release).Exec boardOutcomes () teeSuccess () :=
    ⟨teeSuccess, (), rfl, rfl, rfl⟩
  have run : Operation.writeEnable.steps.Exec (recording (fun _ _ => 1) 0 0) ((), [])
      ⟨teeSuccess, []⟩ ((), [⟨.acquire, teeSuccess⟩, ⟨.write cmdWriteEnable none 0, teeSuccess⟩,
        ⟨.ready 0 writeEnableTimeoutUs, ⟨teeSuccess, 0⟩⟩, ⟨.release, teeSuccess⟩]) :=
    ⟨teeSuccess, ((), _), ⟨acquires, rfl⟩, teeSuccess, ((), _), ⟨writes, rfl⟩,
      (⟨teeSuccess, 0⟩ : ReadyWait), ((), _), ⟨waits, rfl⟩,
      teeSuccess, ((), _), ⟨releases, rfl⟩, rfl, rfl⟩
  refine ⟨_, run, rfl, ((Operation.reports_failures_iff .writeEnable _ 0 0 run).mpr (.inr ?_)
    rfl).1⟩
  simp [Event.Succeeded]

/-- The transfer of the data runs into its timeout, stores nothing, and reading reports
success. -/
theorem Operation.readData_hides_timeout :
    ∃ reply record, (Operation.readData false 0 16).steps.Exec (recording (fun _ _ => 0) 0 0)
      ((), []) reply ((), record) ∧ reply = ⟨teeSuccess, []⟩ ∧
      ¬∀ event ∈ record, Event.Succeeded event := by
  refine ⟨_, _, exec_readData _ 0 16 ⟨teeErrorTimeout, []⟩
    ⟨.inr rfl, Nat.zero_le _, fun success => absurd success (by decide)⟩, rfl, ?_⟩
  intro all
  have transferred := all ⟨.transfer false none false ((16 : BitVec 32).setWidth 64),
    (⟨teeErrorTimeout, []⟩ : Transfer)⟩ (by simp)
  exact absurd transferred (show teeErrorTimeout ≠ teeSuccess by decide)

end TrustWasm.Drivers.W25qxx
