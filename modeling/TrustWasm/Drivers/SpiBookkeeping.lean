import TrustWasm.Drivers.Spi

/-!
# Bookkeeping of an SPI transfer

Whatever the status register, the FIFO and the clock answer, a transfer sends the bytes of its
buffer in order, stores the bytes it receives in order, touches the FIFO only while TA is set and
returns with TA cleared.  `View` is what a transfer has done so far, and the guards of
`bookkeeping` are what it must not do.
-/

namespace TrustWasm.Drivers.Spi

open TrustWasm.Lib TrustWasm.Tee

/-- What a transfer has done: the value last written to TA, the bytes pushed and popped, the
stores to the buffer of the caller, whether DONE was seen since the last access to the FIFO, and
the last readings of the time with the limit of the wait they belong to. -/
structure View where
  ta : Bool
  pushed : List Byte
  popped : List Byte
  stored : List (Nat × Byte)
  done : Bool
  start : TeeTime
  stop : TeeTime
  limit : BitVec 64

namespace View

def next (view : View) : (op : PortOp) → Port.Reply op → View
  | .readCs, (status : BitVec 32) => { view with done := view.done || status &&& spiCsDone != 0 }
  | .writeCs value, () => { view with ta := value &&& spiCsTa != 0 }
  | .readFifo, (value : BitVec 32) =>
    { view with popped := view.popped ++ [value.setWidth 8], done := false }
  | .writeFifo value, () => { view with pushed := view.pushed ++ [value.setWidth 8], done := false }
  | .getSysTime .start, (time : TeeTime) => { view with start := time }
  | .getSysTime (.stop _ limit), (time : TeeTime) => { view with stop := time, limit := limit }
  | .load _, _ => view
  | .store i byte, () => { view with stored := view.stored ++ [(i, byte)] }

/-- The FIFO is accessed while TA is set, and the buffers within their lengths. -/
def Allows (plan : Plan) (view : View) : PortOp → Prop
  | .readFifo | .writeFifo _ => view.ta = true
  | .load i => i < plan.outCount
  | .store i _ => i < plan.inCount
  | .readCs | .writeCs _ | .getSysTime _ => True

/-- Nothing has been done yet. -/
def Fresh (view : View) : Prop :=
  view.pushed = [] ∧ view.popped = [] ∧ view.stored = []

/-- The view at the call of a transfer. -/
def begin (ta : Bool) (time : TeeTime) : View where
  ta := ta
  pushed := []
  popped := []
  stored := []
  done := false
  start := time
  stop := time
  limit := 0

end View

/-- The buffer of the caller answers its bytes; everything else answers what it likes. -/
def Answers (out : Nat → Byte) : (op : PortOp) → Port.Reply op → Prop
  | .load i, (byte : Byte) => byte = out i
  | .readCs, _ | .writeCs _, _ | .readFifo, _ | .writeFifo _, _ | .getSysTime _, _
  | .store .., _ => True

def bookkeeping (plan : Plan) (out : Nat → Byte) : Semantics Port View where
  guard view op := view.Allows plan op
  step view op reply after := Answers out op reply ∧ after = view.next op reply

variable {plan : Plan} {out : Nat → Byte} {view : View}

theorem obeys_access {α : Type} {post : α → View → Prop} {op : PortOp}
    {rest : Port.Reply op → Program Port α} (allowed : view.Allows plan op)
    (second : ∀ reply, Answers out op reply →
      (rest reply).Obeys (bookkeeping plan out) post (view.next op reply)) :
    (Program.perform (I := Port) op >>= rest).Obeys (bookkeeping plan out) post view := by
  refine ⟨allowed, fun reply after step => ?_⟩
  obtain ⟨answers, rfl⟩ := step
  exact second reply answers

/-- The state of a transfer while it moves bytes. -/
structure Moving (plan : Plan) (out : Nat → Byte) (sent received : Nat) (start : TeeTime)
    (view : View) : Prop where
  ta : view.ta = true
  pushed : view.pushed = plan.reg.toList ++ (List.range sent).map out
  sent_le : sent ≤ plan.outCount
  popped : view.popped.length = received
  received_le : received ≤ plan.inCount
  stored : view.stored = storesFrom 0 view.popped
  start : view.start = start

variable {sent received : Nat} {start : TeeTime}

theorem Moving.readCs (moving : Moving plan out sent received start view) (status : BitVec 32) :
    Moving plan out sent received start (view.next .readCs status) :=
  ⟨moving.ta, moving.pushed, moving.sent_le, moving.popped, moving.received_le, moving.stored,
    moving.start⟩

theorem Moving.restart (moving : Moving plan out sent received start view) (time : TeeTime) :
    Moving plan out sent received time (view.next (.getSysTime .start) time) :=
  ⟨moving.ta, moving.pushed, moving.sent_le, moving.popped, moving.received_le, moving.stored, rfl⟩

theorem Moving.stop (moving : Moving plan out sent received start view) (wait : Wait)
    (limit : BitVec 64) (time : TeeTime) :
    Moving plan out sent received start (view.next (.getSysTime (.stop wait limit)) time) :=
  ⟨moving.ta, moving.pushed, moving.sent_le, moving.popped, moving.received_le, moving.stored,
    moving.start⟩

theorem Moving.push (moving : Moving plan out sent received start view)
    (inside : sent < plan.outCount) :
    Moving plan out (sent + 1) received start
      (view.next (.writeFifo ((out sent).setWidth 32)) ()) where
  ta := moving.ta
  pushed := by
    show view.pushed ++ [((out sent).setWidth 32).setWidth 8] = _
    rw [moving.pushed, List.range_succ, List.map_append, ← List.append_assoc,
      BitVec.setWidth_setWidth_of_le _ (by decide), BitVec.setWidth_eq]
    rfl
  sent_le := inside
  popped := moving.popped
  received_le := moving.received_le
  stored := moving.stored
  start := moving.start

theorem Moving.pop (moving : Moving plan out sent received start view)
    (inside : received < plan.inCount) (value : BitVec 32) :
    Moving plan out sent (received + 1) start
      ((view.next .readFifo value).next (.store received (value.setWidth 8)) ()) where
  ta := moving.ta
  pushed := moving.pushed
  sent_le := moving.sent_le
  popped := by
    show (view.popped ++ [value.setWidth 8]).length = _
    rw [List.length_append, moving.popped]
    rfl
  received_le := inside
  stored := by
    show view.stored ++ [(received, value.setWidth 8)] = storesFrom 0 (view.popped ++ [_])
    rw [storesFrom_append, moving.stored, moving.popped, Nat.zero_add]
    rfl
  start := moving.start

/-! ## The loops -/

theorem fill_obeys (left : Nat) (inside : sent + left = plan.outCount)
    (moving : Moving plan out sent received start view) :
    (fill left sent start).Obeys (bookkeeping plan out)
      (fun filled after => Moving plan out filled.1 received filled.2 after) view := by
  induction left generalizing sent start view with
  | zero => exact obeys_access trivial fun status _ => moving.readCs status
  | succ left ih =>
    refine obeys_access trivial fun status _ => ?_
    split
    · exact moving.readCs status
    · have more : sent < plan.outCount := by omega
      refine obeys_access more fun byte loaded => ?_
      obtain rfl : byte = out sent := loaded
      refine obeys_access moving.ta fun _ _ => ?_
      refine obeys_access trivial fun time _ => ?_
      exact ih (by omega) (((moving.readCs status).push more).restart time)

theorem drain_obeys (left : Nat) (inside : received + left = plan.inCount)
    (moving : Moving plan out sent received start view) :
    (drain left received start).Obeys (bookkeeping plan out)
      (fun drained after => Moving plan out sent drained.1 drained.2 after) view := by
  induction left generalizing received start view with
  | zero => exact obeys_access trivial fun status _ => moving.readCs status
  | succ left ih =>
    refine obeys_access trivial fun status _ => ?_
    split
    · exact moving.readCs status
    · have more : received < plan.inCount := by omega
      refine obeys_access moving.ta fun value _ => ?_
      refine obeys_access more fun _ _ => ?_
      refine obeys_access trivial fun time _ => ?_
      exact ih (by omega) (((moving.readCs status).pop more value).restart time)

/-- A round ends with its own reading of the time. -/
structure Moved (plan : Plan) (out : Nat → Byte) (progress : Progress) (view : View) : Prop
    extends Moving plan out progress.sent progress.received progress.start view where
  stop : view.stop = progress.stop
  limit : view.limit = plan.waitLimit

theorem fillOut_obeys (moving : Moving plan out sent received start view) :
    (fillOut plan sent start).Obeys (bookkeeping plan out)
      (fun filled after => Moving plan out filled.1 received filled.2 after) view := by
  rw [fillOut]
  split
  · exact moving
  · exact fill_obeys _ (Nat.add_sub_cancel' moving.sent_le) moving

theorem drainIn_obeys (moving : Moving plan out sent received start view) :
    (drainIn plan received start).Obeys (bookkeeping plan out)
      (fun drained after => Moving plan out sent drained.1 drained.2 after) view := by
  rw [drainIn]
  split
  · exact moving
  · exact drain_obeys _ (Nat.add_sub_cancel' moving.received_le) moving

theorem round_obeys {progress : Progress} (moved : Moved plan out progress view) :
    (round plan progress).Obeys (bookkeeping plan out) (Moved plan out) view := by
  refine (fillOut_obeys moved.toMoving).bind fun filled middle moving => ?_
  refine (drainIn_obeys moving).bind fun drained middle moving => ?_
  refine obeys_access trivial fun time _ => ?_
  exact ⟨moving.stop .fifo _ time, rfl, rfl⟩

/-- The loop ends when everything is through or the time is over. -/
theorem moveLoop_obeys (rounds : Nat) {progress : Progress} (moved : Moved plan out progress view) :
    (moveLoop plan rounds progress).Obeys (bookkeeping plan out)
      (fun result after => ∀ last, result = some last → Moved plan out last after ∧
        ¬(last.Pending plan ∧ elapsed last.start last.stop ≤ plan.waitLimit)) view := by
  induction rounds generalizing progress view with
  | zero =>
    intro last same
    cases same
  | succ rounds ih =>
    rw [moveLoop]
    split
    · exact (round_obeys moved).bind fun _ _ moved => ih moved
    · rename_i isOver
      intro last same
      cases same
      exact ⟨moved, isOver⟩

theorem doneLoop_obeys {limit : BitVec 64} (rounds : Nat)
    (moving : Moving plan out sent received start view) :
    (doneLoop limit start rounds).Obeys (bookkeeping plan out)
      (fun result after => ∀ last, result = some last →
        Moving plan out sent received start after ∧ after.stop = last ∧ after.limit = limit ∧
          (after.done = true ∨ limit < elapsed start last)) view := by
  induction rounds generalizing view with
  | zero =>
    intro last same
    cases same
  | succ rounds ih =>
    refine obeys_access trivial fun status _ => ?_
    refine obeys_access trivial fun time _ => ?_
    have moving := (moving.readCs status).stop .done limit time
    split
    · exact ih moving
    · rename_i isOver
      intro last same
      cases same
      refine ⟨moving, rfl, rfl, ?_⟩
      rw [not_and_or, BitVec.not_le] at isOver
      rcases isOver with seen | late
      · left
        show (view.done || status &&& spiCsDone != 0) = true
        rw [Bool.or_eq_true, bne_iff_ne]
        exact .inr seen
      · exact .inr late

/-! ## A whole transfer -/

/-- What holds when a transfer returns `res`. -/
structure Ended (plan : Plan) (out : Nat → Byte) (res : TeeResult) (view : View) : Prop where
  ta : view.ta = false
  pushed : ∃ sent ≤ plan.outCount,
    view.pushed = plan.reg.toList ++ (List.range sent).map out ∧
      (res = teeSuccess → sent = plan.outCount)
  popped : view.popped.length ≤ plan.inCount
  stored : view.stored = storesFrom 0 view.popped
  filled : res = teeSuccess → view.popped.length = plan.inCount
  done : res = teeSuccess → plan.Moves → view.done = true
  outcome : SpiOutcome res
  still : ¬plan.Moves → res = teeSuccess
  limit : plan.Moves → view.limit = plan.waitLimit ∨ view.limit = plan.doneLimit
  late : plan.Moves → (res = teeErrorTimeout ↔ view.limit < elapsed view.start view.stop)

/-- `spi_setbits` replaces the bits of its mask. -/
theorem getLsbD_setbits (v value mask : BitVec 32) {i : Nat} (inside : i < 32) :
    ((v &&& ~~~mask) ||| (value &&& mask)).getLsbD i =
      if mask.getLsbD i then value.getLsbD i else v.getLsbD i := by
  rw [BitVec.getLsbD_or, BitVec.getLsbD_and, BitVec.getLsbD_and, BitVec.getLsbD_not]
  cases mask.getLsbD i <;> simp [inside]

theorem ta_cleared (v : BitVec 32) :
    ((v &&& ~~~spiCsTa ||| 0 &&& spiCsTa) &&& spiCsTa != 0) = false := by
  rw [bne_eq_false_iff_eq, ← not_ne_iff, and_spiCsTa, getLsbD_setbits _ _ _ (by decide),
    if_pos (by decide)]
  decide

theorem ta_set (v : BitVec 32) :
    ((v &&& ~~~spiCsTa ||| spiCsTa &&& spiCsTa) &&& spiCsTa != 0) = true := by
  rw [bne_iff_ne, and_spiCsTa, getLsbD_setbits _ _ _ (by decide), if_pos (by decide)]
  decide

theorem finish_obeys {res : TeeResult} {post : TeeResult → View → Prop}
    (ended : ∀ done, post res { view with ta := false, done := view.done || done }) :
    (finish res).Obeys (bookkeeping plan out)
      (fun result after => ∀ res, result = some res → post res after) view := by
  refine obeys_access trivial fun status _ => ?_
  refine obeys_access trivial fun _ _ => ?_
  intro res same
  cases same
  have last := ended (status &&& spiCsDone != 0)
  rw [← ta_cleared status] at last
  exact last

theorem awaitDone_obeys (moves : plan.Moves) (rounds : Nat)
    (moving : Moving plan out plan.outCount plan.inCount start view) :
    (awaitDone plan rounds).Obeys (bookkeeping plan out)
      (fun result after => ∀ res, result = some res → Ended plan out res after) view := by
  refine obeys_access trivial fun start _ => ?_
  refine (doneLoop_obeys rounds (moving.restart start)).bind fun waited middle isOver => ?_
  cases waited with
  | none =>
    intro res same
    cases same
  | some last =>
    obtain ⟨moving, stop, limit, isOver⟩ := isOver last rfl
    have times : middle.limit < elapsed middle.start middle.stop ↔
        plan.doneLimit < elapsed start last := by
      rw [limit, moving.start, stop]
    dsimp only
    split
    · rename_i late
      refine finish_obeys fun done => ?_
      exact {
        ta := rfl
        pushed := ⟨plan.outCount, Nat.le_refl _, moving.pushed, fun _ => rfl⟩
        popped := Nat.le_of_eq moving.popped
        stored := moving.stored
        filled := fun _ => moving.popped
        done := fun success => absurd success (by decide)
        outcome := .inr rfl
        still := fun still => absurd moves still
        limit := fun _ => .inr limit
        late := fun _ => ⟨fun _ => times.mpr late, fun _ => rfl⟩ }
    · rename_i early
      refine finish_obeys fun done => ?_
      exact {
        ta := rfl
        pushed := ⟨plan.outCount, Nat.le_refl _, moving.pushed, fun _ => rfl⟩
        popped := Nat.le_of_eq moving.popped
        stored := moving.stored
        filled := fun _ => moving.popped
        done := fun _ _ => by
          rw [isOver.resolve_right early]
          rfl
        outcome := .inl rfl
        still := fun still => absurd moves still
        limit := fun _ => .inr limit
        late := fun _ => ⟨fun same => absurd same (by decide),
          fun late => absurd (times.mp late) early⟩ }

theorem exchange_obeys (moves : plan.Moves) (rounds : Nat)
    (moving : Moving plan out 0 0 start view) :
    (exchange plan rounds).Obeys (bookkeeping plan out)
      (fun result after => ∀ res, result = some res → Ended plan out res after) view := by
  refine obeys_access trivial fun start _ => ?_
  refine obeys_access trivial fun stop _ => ?_
  have moved : Moved plan out ⟨0, 0, start, stop⟩ _ :=
    ⟨(moving.restart start).stop .fifo plan.waitLimit stop, rfl, rfl⟩
  refine (moveLoop_obeys rounds moved).bind fun result middle isOver => ?_
  cases result with
  | none =>
    intro res same
    cases same
  | some last =>
    obtain ⟨moved, isOver⟩ := isOver last rfl
    dsimp only
    split
    · rename_i late
      refine finish_obeys fun done => ?_
      exact {
        ta := rfl
        pushed := ⟨last.sent, moved.sent_le, moved.pushed, fun same => absurd same (by decide)⟩
        popped := Nat.le_trans (Nat.le_of_eq moved.popped) moved.received_le
        stored := moved.stored
        filled := fun same => absurd same (by decide)
        done := fun same => absurd same (by decide)
        outcome := .inr rfl
        still := fun still => absurd moves still
        limit := fun _ => .inl moved.limit
        late := fun _ => ⟨fun _ => by
          show middle.limit < elapsed middle.start middle.stop
          rw [moved.limit, moved.start, moved.stop]
          exact late, fun _ => rfl⟩ }
    · rename_i early
      have idle : ¬last.Pending plan := fun pending => isOver ⟨pending, BitVec.not_lt.mp early⟩
      rw [Progress.Pending, not_or, Nat.not_lt, Nat.not_lt] at idle
      have moving := moved.toMoving
      rw [Nat.le_antisymm moving.sent_le idle.1,
        Nat.le_antisymm moving.received_le idle.2] at moving
      exact awaitDone_obeys moves rounds moving

theorem spiChipSelect_obeys (cs : BitVec 8) (fresh : view.Fresh) :
    (spiChipSelect cs).Obeys (bookkeeping plan out) (fun _ after => after.Fresh) view := by
  refine obeys_access trivial fun status _ => ?_
  exact obeys_access trivial fun _ _ => fresh

theorem clearFifos_obeys (fresh : view.Fresh) :
    (clearFifos plan).Obeys (bookkeeping plan out) (fun _ after => after.Fresh) view := by
  rw [clearFifos]
  split
  · refine obeys_access trivial fun status _ => ?_
    exact obeys_access trivial fun _ _ => fresh
  · exact fresh

theorem setTa_obeys (fresh : view.Fresh) :
    (spiSetbits spiCsTa spiCsTa).Obeys (bookkeeping plan out)
      (fun _ after => after.Fresh ∧ after.ta = true) view := by
  refine obeys_access trivial fun status _ => ?_
  exact obeys_access trivial fun _ _ => ⟨fresh, ta_set status⟩

theorem Moving.of_fresh (fresh : view.Fresh) (ta : view.ta = true) (reg : plan.reg = none) :
    Moving plan out 0 0 view.start view := by
  obtain ⟨pushed, popped, stored⟩ := fresh
  refine ⟨ta, ?_, Nat.zero_le _, ?_, Nat.zero_le _, ?_, rfl⟩
  · rw [pushed, reg]
    rfl
  · rw [popped]
    rfl
  · rw [stored, popped]
    rfl

theorem Moving.of_reg (fresh : view.Fresh) (ta : view.ta = true) {reg : Byte}
    (given : plan.reg = some reg) :
    Moving plan out 0 0 view.start (view.next (.writeFifo (reg.setWidth 32)) ()) := by
  obtain ⟨pushed, popped, stored⟩ := fresh
  refine ⟨ta, ?_, Nat.zero_le _, ?_, Nat.zero_le _, ?_, rfl⟩
  · show view.pushed ++ [(reg.setWidth 32).setWidth 8] = _
    rw [pushed, given, BitVec.setWidth_setWidth_of_le _ (by decide), BitVec.setWidth_eq]
    rfl
  · show view.popped.length = 0
    rw [popped]
    rfl
  · show view.stored = storesFrom 0 view.popped
    rw [stored, popped]
    rfl

theorem sendReg_obeys (fresh : view.Fresh) (ta : view.ta = true) :
    (sendReg plan).Obeys (bookkeeping plan out)
      (fun _ after => Moving plan out 0 0 after.start after) view := by
  rw [sendReg]
  split
  · rename_i none
    exact .of_fresh fresh ta none
  · rename_i reg given
    exact obeys_access ta fun _ _ => .of_reg fresh ta given

/-- A transfer keeps the books of its buffers, of TA and of its waits. -/
theorem transfer_obeys (cs : BitVec 8) (rounds : Nat) (fresh : view.Fresh) :
    (transfer plan cs rounds).Obeys (bookkeeping plan out)
      (fun result after => ∀ res, result = some res → Ended plan out res after) view := by
  refine (spiChipSelect_obeys cs fresh).bind fun _ view fresh => ?_
  refine (clearFifos_obeys fresh).bind fun _ view fresh => ?_
  refine (setTa_obeys fresh).bind fun _ view fresh => ?_
  refine (sendReg_obeys fresh.1 fresh.2).bind fun _ view moving => ?_
  split
  · rename_i moves
    exact exchange_obeys moves rounds moving
  · rename_i still
    have nothing : plan.outCount = 0 ∧ plan.inCount = 0 := by
      rw [Plan.Moves, not_or, not_ne_iff, not_ne_iff] at still
      rw [Plan.outCount, Plan.inCount, still.1, still.2]
      exact ⟨rfl, rfl⟩
    refine finish_obeys fun done => ?_
    exact {
      ta := rfl
      pushed := ⟨0, Nat.zero_le _, moving.pushed, fun _ => nothing.1.symm⟩
      popped := Nat.le_trans (Nat.le_of_eq moving.popped) (Nat.zero_le _)
      stored := moving.stored
      filled := fun _ => moving.popped.trans nothing.2.symm
      done := fun _ moves => absurd moves still
      outcome := .inl rfl
      still := fun _ => rfl
      limit := fun moves => absurd moves still
      late := fun moves => absurd moves still }

/-! ## The three functions -/

/-- A call of one of the transfer functions; the flags say that a pointer is null. -/
inductive Call where
  | spiTransferBytes (cont outNull inNull : Bool) (len : BitVec 32)
  | spiTransferDiffBytes (cont outNull inNull : Bool) (outLen inLen : BitVec 32)
  | spiTransferRegs (reg : Byte) (outNull inNull : Bool) (len : BitVec 32)
  deriving DecidableEq

namespace Call

def program (cs : BitVec 8) : Call → Nat → Program Port (Option TeeResult)
  | .spiTransferBytes cont outNull inNull len => Spi.spiTransferBytes cs cont outNull inNull len
  | .spiTransferDiffBytes cont outNull inNull outLen inLen =>
    Spi.spiTransferDiffBytes cs cont outNull inNull outLen inLen
  | .spiTransferRegs reg outNull inNull len => Spi.spiTransferRegs cs reg outNull inNull len

def toPlan : Call → Plan
  | .spiTransferBytes cont outNull inNull len =>
    ⟨!cont, none, buffer outNull len, buffer inNull len⟩
  | .spiTransferDiffBytes cont outNull inNull outLen inLen =>
    ⟨!cont, none, buffer outNull outLen, buffer inNull inLen⟩
  | .spiTransferRegs reg outNull inNull len =>
    ⟨true, some reg, buffer outNull len, buffer inNull len⟩

theorem program_eq (call : Call) (cs : BitVec 8) (rounds : Nat) :
    call.program cs rounds = transfer call.toPlan cs rounds := by
  cases call <;> rfl

/-- Whatever the hardware and the clock answer, each transfer function sends a first part of its
buffer in order after its register byte, stores what it receives in order and within its buffer,
accesses the FIFO only with TA set, and returns with TA clear; on success everything has been
sent and received, and DONE was seen. -/
theorem program_keeps_books (call : Call) (cs : BitVec 8) (out : Nat → Byte) (ta : Bool)
    (time : TeeTime) (rounds : Nat) :
    (call.program cs rounds).Obeys (bookkeeping call.toPlan out)
      (fun result after => ∀ res, result = some res → Ended call.toPlan out res after)
      (.begin ta time) := by
  rw [program_eq]
  exact transfer_obeys cs rounds ⟨rfl, rfl, rfl⟩

end Call

end TrustWasm.Drivers.Spi
