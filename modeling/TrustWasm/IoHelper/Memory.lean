import TrustWasm.IoHelper.HeapContract

/-!
# The io_helper and the memory it lives in

The state keeps the masks, the counts, the table and the queued requests apart.  In memory
the arrays lie one behind the other, and a queued request is the content of a heap block,
that of its node.  Here an operation outside its array may leave anything in the arrays,
and one that frees or writes through an address that is not live, or the block of a queue
node, may leave anything in the heap and with it in the queues.

In a run of matched submissions and of whole commands on existing slots no operation is of
this kind, so the system has no other runs than with arrays and queues that are kept apart.
A store past the end of a live block is the one thing not shown here: `Submission.Matched`
rules it out.
-/

namespace TrustWasm.IoHelper

open TrustWasm.Lib TrustWasm.Tee TrustWasm.Drivers Function

/-- A request waits in a node at `addr`. -/
def Pta.NodeAt (s : Pta) (addr : Ptr) : Prop :=
  ∃ p, ∃ node ∈ s.reqQueues p, node.addr = addr

/-- The operation stays inside the array it indexes, and what it frees or writes is a live
block that is not a queue node. -/
def HelperOp.Inside (s : Pta) : HelperOp → Prop
  | .getReadySignal p | .setReadySignal p _ | .isReadySignal p _ | .isUsingSigno p _
  | .getReqNum p | .allocateSigno p | .releaseSigno p _ | .enqueue p _ => p < nPeriph
  | .getRet p q | .getLen p q | .getBuf p q | .getPollTimes p q
  | .setRet p q _ | .setLen p q _ | .setBuf p q _ | .setPollTimes p q _ =>
    slotIndex p q < nPeriph * nSubSig
  | .free ptr | .storeByte ptr _ _ => ptr = null ∨ (s.heap.Live ptr ∧ ¬s.NodeAt ptr)
  | .malloc .. | .loadByte .. | .loadClient .. | .driver .. | .storage .. => True

/-- What an operation that is not inside may leave behind. -/
def Pta.Overwritten (s s' : Pta) : HelperOp → Prop
  | .free _ | .storeByte .. => ∃ heap queues, s' = { s with heap := heap, reqQueues := queues }
  | .getReadySignal .. | .setReadySignal .. | .allocateSigno .. | .releaseSigno ..
  | .setRet .. | .setLen .. | .setBuf .. | .setPollTimes .. =>
    s'.heap = s.heap ∧ s'.reqQueues = s.reqQueues
  | .enqueue .. => True
  | _ => s' = s

/-- The operations in memory, when `malloc` never fails. -/
def memory : Semantics Helper Pta where
  guard _ _ := True
  step s op reply s' :=
    ((op.Inside s → helperStep s op reply s') ∧ (¬op.Inside s → s.Overwritten s' op)) ∧
      Allocated op reply

variable {op : HelperOp} {p q serial : Nat} {action : Action}

theorem reliable_of_inside {s s' : Pta} {reply : Helper.Reply op} (inside : op.Inside s)
    (step : memory.step s op reply s') : reliable.step s op reply s' :=
  ⟨step.1.1 inside, step.2⟩

theorem memory_of_inside {s s' : Pta} {reply : Helper.Reply op} (inside : op.Inside s)
    (step : helperStep s op reply s') (allocated : Allocated op reply) :
    memory.step s op reply s' :=
  ⟨⟨fun _ => step, absurd inside⟩, allocated⟩

theorem memory_of_outside {s s' : Pta} {reply : Helper.Reply op} (outside : ¬op.Inside s)
    (left : s.Overwritten s' op) (allocated : Allocated op reply) :
    memory.step s op reply s' :=
  ⟨⟨fun inside => absurd inside outside, fun _ => left⟩, allocated⟩

/-! ## Operations that stay inside -/

section Inside

variable {s : Sys} {owner : Ptr → Option Owner}

theorem slotIndex_lt (inRange : InRange (p, q)) :
    slotIndex p q < nPeriph * nSubSig := by
  obtain ⟨periph, signo⟩ := inRange
  dsimp only [slotIndex, nPeriph, nSubSig] at *
  omega

theorem SlotsOk.inRange_of_holds {stage : Stage} (ok : SlotsOk s)
    (holds : Holds s p q serial stage) : InRange (p, q) := by
  refine ⟨?_, ok.lt_of_holds holds⟩
  obtain ⟨-, -, board, inv⟩ := ok
  refine inv.inRange p q ?_
  rw [(inv.holds_iff p q serial stage).mp holds]
  exact Option.some_ne_none _

/-- A buffer of a request is live and no queue node. -/
theorem HeapInv.not_nodeAt (inv : HeapInv s owner) {ptr : Ptr}
    (refers : Refers s ⟨serial, false⟩ ptr) : s.pta.heap.Live ptr ∧ ¬s.pta.NodeAt ptr := by
  have owned := inv.refers _ _ refers
  refine ⟨inv.owned.live _ _ owned, ?_⟩
  rintro ⟨p, node, member, rfl⟩
  rw [inv.refers _ _ (.node member)] at owned
  cases owned

theorem HeapOk.inside_submitOp {next : Helper.Reply op → Program Helper CommandResult}
    {phase : SubmitPhase} {args : List Ptr} (ok : HeapOk s)
    (found : s.submits serial = some ⟨.call op next, phase, args⟩) : op.Inside s.pta := by
  obtain ⟨owner, inv⟩ := ok.owned
  have slots : submitGuard serial phase op := (ok.slots.threads.submits serial _ found).1
  have allowed : submitHeapGuard args op := (ok.threads.submits serial _ found).1
  cases op with
  | storeByte ptr offset byte => exact .inr (inv.not_nodeAt (.argument found allowed))
  | enqueue p req =>
    have holds : Holds s p req.signo serial .allocated := ⟨_, found, slots.1⟩
    exact (ok.slots.inRange_of_holds holds).1
  | allocateSigno p => exact slots.2
  | malloc | loadClient => trivial
  | _ => exact allowed.elim

theorem HeapOk.inside_loopOp {req : IoReq} {next : Helper.Reply op → Program Helper Unit}
    {served : Bool} {work : WorkView} (ok : HeapOk s)
    (found : s.loops p = some ⟨req, .call op next, served, work⟩) :
    op.Inside s.pta := by
  obtain ⟨owner, inv⟩ := ok.owned
  have slots : loopGuard p req.signo served op := (ok.slots.threads.loops p _ found).1
  obtain ⟨rfl, -⟩ := loopGuard_cases slots
  have allowed : workGuard p req.signo work op := (ok.threads.loops p _ found rfl).1.1
  have holds : Holds s p req.signo req.ticket.serial .handling := ⟨_, found, rfl, rfl, rfl⟩
  have inRange := ok.slots.inRange_of_holds holds
  cases op with
  | free | storeByte =>
    exact allowed.imp_right fun member => inv.not_nodeAt (.working found rfl member)
  | setRet | setLen | setBuf =>
    obtain ⟨rfl, rfl⟩ := allowed
    exact slotIndex_lt inRange
  | setReadySignal =>
    obtain ⟨⟨rfl, -⟩, -⟩ := allowed
    exact inRange.1
  | malloc | loadByte | loadClient | driver | storage => trivial
  | _ => exact allowed.elim

theorem HelperOp.IsPoll.inside (isPoll : op.IsPoll) (s : Pta) : op.Inside s := by
  cases op with
  | getReadySignal | getReqNum => exact isPoll
  | isUsingSigno | isReadySignal => exact isPoll.1
  | getPollTimes | setPollTimes => exact slotIndex_lt isPoll
  | _ => exact isPoll.elim

/-- If the slot reports a result with data, its buffer is live and no queue node. -/
def Pta.Backed (s : Pta) (p q : Nat) : Prop :=
  isNegative (s.entry p q).ret = false → (s.entry p q).len ≠ 0 →
    s.heap.Live (s.entry p q).buf ∧ ¬s.NodeAt (s.entry p q).buf

/-- The buffer of a ready result belongs to its request. -/
theorem HeapOk.backed {slot : Nat × Nat} (ok : HeapOk s) (inRange : InRange slot)
    (gets : ∀ id, s.gets id = none) (isReady : s.pta.isReadySignal slot.1 slot.2 = true) :
    s.pta.Backed slot.1 slot.2 := by
  intro notNegative notEmpty
  obtain ⟨owner, inv⟩ := ok.owned
  obtain ⟨-, -, board, slots⟩ := ok.slots
  obtain ⟨serial, isSerial⟩ := (slots.isReadySignal_iff inRange.2).mp isReady
  have notTaken : ¬s.Taken slot.1 slot.2 := by
    rintro ⟨id, thread, found, -⟩
    rw [gets id] at found
    cases found
  exact inv.not_nodeAt (.result isSerial notTaken notNegative notEmpty)

/-- A collection that runs alone stays inside.  Until it frees the result it changes
nothing, so what backs the result at its ready check backs it at the free. -/
theorem reliable_of_collection {program : Program Helper CommandResult} {phase : GetPhase}
    {freed : Bool} {s s' : Pta} {result : CommandResult} (inRange : InRange (p, q))
    (keeps : GetThread.Keeps ⟨p, q, program, phase, none, freed⟩ s)
    (checks : phase = .unchecked → s.isReadySignal p q = true → s.Backed p q)
    (holds : phase = .holding → freed = false → s.Backed p q)
    (run : program.Exec memory s result s') : program.Exec reliable s result s' := by
  induction program generalizing phase freed s with
  | pure value => exact run
  | call op next ih =>
    obtain ⟨reply, middle, step, tail⟩ := run
    have both := keeps
    obtain ⟨view, ⟨allowed, -⟩, rfl, rfl, agrees⟩ := both
    change getHeapGuard p q view op at allowed
    have inside : op.Inside s := by
      cases op with
      | isReadySignal | releaseSigno =>
        obtain ⟨-, rfl, rfl⟩ := allowed
        exact inRange.1
      | getRet | getLen | getBuf | getPollTimes | setRet | setLen | setPollTimes =>
        obtain ⟨-, rfl, rfl⟩ := allowed
        exact slotIndex_lt inRange
      | free ptr =>
        obtain ⟨data, rfl⟩ := allowed
        obtain ⟨ret, len, buf⟩ := agrees ⟨data.holding, by simp⟩
        rw [buf]
        exact .inr (holds data.holding data.notFreed (ret ▸ data.notNegative) (len ▸ data.notEmpty))
      | loadByte => trivial
      | _ => exact allowed.elim
    have taken := reliable_of_inside inside step
    -- what the next operation finds: nothing has changed, or the result is freed or released
    suffices after : (view.phase.after op reply = .unchecked →
          middle.isReadySignal p q = true → middle.Backed p q) ∧
        (view.phase.after op reply = .holding → freedAfter view.freed op = false →
          middle.Backed p q) from
      ⟨reply, middle, taken, ih reply (keeps.getOp taken.1) after.1 after.2 tail⟩
    cases op with
    | isReadySignal =>
      obtain ⟨unchecked, rfl, rfl⟩ := allowed
      obtain ⟨rfl, rfl⟩ := taken.1
      refine ⟨fun _ => checks unchecked, fun holding _ => checks unchecked ?_⟩
      by_contra notReady
      rw [GetPhase.after, if_neg notReady, unchecked] at holding
      cases holding
    | releaseSigno =>
      refine ⟨fun unchecked => ?_, fun holding _ => ?_⟩
      · cases unchecked
      · cases holding
    | setRet | setLen | setPollTimes =>
      obtain ⟨⟨holding, isFreed⟩, -⟩ := allowed
      refine ⟨fun unchecked => ?_, fun _ notFreed => ?_⟩
      · cases holding.symm.trans unchecked
      · cases isFreed.symm.trans notFreed
    | free =>
      refine ⟨fun unchecked => ?_, fun _ notFreed => ?_⟩
      · cases allowed.1.holding.symm.trans unchecked
      · cases notFreed
    | getRet | getLen | getBuf | getPollTimes =>
      obtain ⟨-, rfl⟩ := taken.1
      exact ⟨checks, holds⟩
    | loadByte =>
      obtain ⟨rfl, -⟩ := taken.1
      exact ⟨checks, holds⟩
    | _ => exact allowed.elim

end Inside

/-! ## Runs -/

/-- Steps of whole commands on existing slots with matched submissions. -/
def MatchedCommands (s : Sys) (action : Action) : Prop :=
  WholeCommands s action ∧ action.Matched

/-- The io_helper with `malloc` that never fails, run by clients whose
collections are whole commands on existing slots and whose submissions match
their handlers. -/
def matchedCommandSystem : System Sys Action :=
  (ioHelper reliable).restrict MatchedCommands

section Runs

variable {s s' : Sys}

theorem wholeCommands_of_matched (reachable : matchedCommandSystem.Reachable s) :
    wholeCommandSystem.Reachable s := by
  apply reachable.mono
  · intro state initial
    exact initial
  · intro state action after step
    exact ⟨step.1.1, step.2⟩

/-- Without collections in progress no two overlap. -/
theorem orderly_of_gets (gets : ∀ id, s.gets id = none) (allowed : MatchedCommands s action) :
    Orderly s action := by
  refine ⟨?_, allowed.2⟩
  cases action with
  | getData paramTypes params =>
    refine ⟨allowed.1, ?_⟩
    rintro ⟨id, thread, found, -⟩
    rw [gets id] at found
    cases found
  | getStart | getOp => exact allowed.1.elim
  | submit | submitOp | dequeue | loopOp | poll | pollSubsignal => trivial

theorem orderly_of_matched (reachable : matchedCommandSystem.Reachable s)
    (allowed : MatchedCommands s action) : Orderly s action :=
  orderly_of_gets (gets_of_wholeCommands (wholeCommands_of_matched reachable)) allowed

theorem step_of_reliable (step : Step reliable s action s') :
    Step helper s action s' :=
  Step.mono (fun _ _ _ _ (taken : reliable.step _ _ _ _) => taken.1) step

theorem heapOk_of_matched (reachable : matchedCommandSystem.Reachable s) : HeapOk s := by
  refine reachable.invariant ?_ ?_
  · rintro state rfl
    exact HeapOk.init
  · intro state action after before ok step
    exact ok.step (orderly_of_matched before step.1) (step_of_reliable step.2)

/-- In matched commands every operation stays inside. -/
theorem HeapOk.reliable_of_memory (ok : HeapOk s) (gets : ∀ id, s.gets id = none)
    (allowed : MatchedCommands s action) (step : Step memory s action s') :
    Step reliable s action s' := by
  have polls {program : Program Helper CommandResult} {result : CommandResult} {after : Pta}
      (uses : program.Uses HelperOp.IsPoll) (run : program.Exec memory s.pta result after) :
      program.Exec reliable s.pta result after :=
    uses.exec_mono (fun _ _ _ _ isPoll => reliable_of_inside (isPoll.inside _)) run
  cases step with
  | submit submission => exact .submit s submission
  | submitOp serial op next phase args reply after found step =>
    exact .submitOp s serial op next phase args reply after found
      (reliable_of_inside (ok.inside_submitOp found) step)
  | dequeue p req after idle step => exact .dequeue s p req after idle step
  | loopOp p req op next served work reply after found step =>
    exact .loopOp s p req op next served work reply after found
      (reliable_of_inside (ok.inside_loopOp found) step)
  | loopDone p req served work found => exact .loopDone s p req served work found
  | poll paramTypes params reply after run =>
    exact .poll s paramTypes params reply after (polls (poll_uses _ _) run)
  | pollSubsignal paramTypes params reply after run =>
    exact .pollSubsignal s paramTypes params reply after (polls (pollSubsignal_uses _ _) run)
  | getData paramTypes params reply after run =>
    have inRange : InRange (slotOf params) := allowed.1
    have keeps : GetThread.Keeps
        ⟨(slotOf params).1, (slotOf params).2, getData paramTypes params, .unchecked, none, false⟩
        s.pta :=
      ⟨⟨.unchecked, false, 0, 0, null⟩, getData_get paramTypes params rfl rfl, rfl, rfl,
        fun holding => nomatch holding.1⟩
    exact .getData s paramTypes params reply after (reliable_of_collection inRange keeps
      (fun _ => ok.backed inRange gets) (fun holding => nomatch holding) run)
  | getStart | getOp => exact allowed.1.elim

/-- The io_helper in memory, run by clients whose collections are whole commands on existing
slots and whose submissions match their handlers. -/
def memorySystem : System Sys Action :=
  (ioHelper memory).restrict MatchedCommands

/-- Such clients never get the io_helper to leave its arrays and blocks. -/
theorem matched_of_memory (reachable : memorySystem.Reachable s) :
    matchedCommandSystem.Reachable s := by
  induction reachable with
  | start initial => exact .start initial
  | next _ step ih =>
    have gets := gets_of_wholeCommands (wholeCommands_of_matched ih)
    exact .next ih ⟨step.1, (heapOk_of_matched ih).reliable_of_memory gets step.1 step.2⟩

/-- For every interleaving of matched submissions, workers and whole commands and for
every peripheral, the slots are used as the protocol says. -/
theorem slotProtocol_of_reachable (reachable : memorySystem.Reachable s) (p : Nat) :
    SlotProtocol s p := by
  obtain ⟨-, -, board, inv⟩ := (heapOk_of_matched (matched_of_memory reachable)).slots
  exact inv.slotProtocol p

end Runs

/-- The parameters of a GET_DATA with room for `size` bytes. -/
def getDataParams (p q : BitVec 32) (size : BitVec 64) : Params :=
  ⟨.value p q, ⟨null, size⟩, ⟨null, 0⟩, ⟨null, 0⟩⟩

/-- A READ_REQ on peripheral 1 of a type without a handler, and its request. -/
def unsupportedSubmission : Submission where
  cmd := .readReq
  paramTypes := readReqTypes
  params := ⟨.value 1 5, .value 0 0, .value 0 0, .value 0 0⟩
  uninit := null

def unsupportedReq : IoReq where
  type := .i2cWriteRegs
  signo := 0
  p0 := .value 0 0
  p1 := .value 0 0
  p2 := .value 0 0
  ticket := ⟨0, []⟩

theorem unsupportedSubmission_matched : unsupportedSubmission.Matched where
  first := False.elim
  second := False.elim
  fits := by decide

/-- The request waits in a node at address 3. -/
def queuedState : Sys where
  pta := (Pta.zero.allocateSigno 1).2.enqueueNode 1 3 (fun _ => 0) unsupportedReq
  next := 1
  submits := update (fun _ => none) 0
    (some ⟨.pure ⟨teeSuccess, ⟨.value 0 5, .value 0 0, .value 0 0, .value 0 0⟩, []⟩, .enqueued, []⟩)
  loops _ := none
  gets _ := none
  ready _ _ := none
  log := [.enqueued 1 unsupportedReq]

theorem unsupported_queued : memorySystem.Reachable queuedState := by
  have booted : memorySystem.Reachable Sys.init := .start rfl
  have submitted := booted.next_restrict (Step.submit _ unsupportedSubmission)
    ⟨trivial, unsupportedSubmission_matched⟩
  have allocated := submitted.next_restrict
    (Step.submitOp _ 0 (.allocateSigno 1) _ .fresh [] (some 0) _ rfl
      (memory_of_inside (show 1 < nPeriph by decide) rfl trivial)) ⟨trivial, trivial⟩
  have enqueued := allocated.next_restrict
    (Step.submitOp _ 0 (.enqueue 1 unsupportedReq) _ (.held 1 0) [] teeSuccess _ rfl
      (memory_of_inside (show 1 < nPeriph by decide)
        (.inr ⟨rfl, 3, fun _ => 0, by decide, rfl, rfl⟩) rfl)) ⟨trivial, trivial⟩
  have replace : ∀ submits, submits = queuedState.submits →
      memorySystem.Reachable { queuedState with submits := submits } →
      memorySystem.Reachable queuedState := by
    rintro _ rfl reachable
    exact reachable
  refine replace _ ?_ enqueued
  simp only [Sys.init, update_idem]
  rfl

/-- A request waits in the queue, and its slot is in use and not ready. -/
theorem slotProtocol_while_queued :
    ∃ s, memorySystem.Reachable s ∧ Holds s 1 0 0 .queued ∧ SlotProtocol s 1 := by
  have queued : Holds queuedState 1 0 0 .queued :=
    ⟨⟨3, unsupportedReq⟩, List.mem_cons_self, rfl, rfl⟩
  exact ⟨_, unsupported_queued, queued, slotProtocol_of_reachable unsupported_queued 1⟩

/-- A WRITE_REQ of no bytes to the EEPROM, whose stack holds the address 3. -/
def emptyWriteSubmission : Submission where
  cmd := .writeReq
  paramTypes := bufferReqTypes
  params := ⟨.value 28 22, ⟨null, 0⟩, .value 0 0, .value 0 0⟩
  uninit := 3

def emptyWriteReq : IoReq where
  type := .at24cxxWrite
  signo := 0
  p0 := ⟨3, 0⟩
  p1 := .value 0 0
  p2 := .value 0 0
  ticket := ⟨1, []⟩

/-- What the worker of peripheral 1 reads where the request was. -/
def forgedReq : IoReq :=
  { unsupportedReq with signo := 5 }

/-- A WRITE_REQ of no bytes frees the address on its stack.  Here that is the node of a
queued request, so its worker takes what stands there next and makes a slot ready that
nobody owns. -/
theorem emptyWrite_frees_node :
    ∃ s, ((ioHelper memory).restrict WholeCommands).Reachable s ∧ ¬SlotProtocol s 1 := by
  have queued : ((ioHelper memory).restrict WholeCommands).Reachable queuedState := by
    refine unsupported_queued.mono ?_ ?_
    · exact fun _ initial => initial
    · exact fun _ _ _ step => ⟨step.1.1, step.2⟩
  have submitted := queued.next_restrict (Step.submit _ emptyWriteSubmission) trivial
  have allocated := submitted.next_restrict
    (Step.submitOp _ 1 (.allocateSigno 28) _ .fresh [] (some 0) _ rfl
      (memory_of_inside (show 28 < nPeriph by decide) rfl trivial)) trivial
  have enqueued := allocated.next_restrict
    (Step.submitOp _ 1 (.enqueue 28 emptyWriteReq) _ (.held 28 0) [] teeSuccess _ rfl
      (memory_of_inside (show 28 < nPeriph by decide)
        (.inr ⟨rfl, 4, fun _ => 0, by decide, rfl, rfl⟩) rfl)) trivial
  have dequeued := enqueued.next_restrict (Step.dequeue _ 28 emptyWriteReq _ rfl rfl) trivial
  have called := dequeued.next_restrict
    (Step.loopOp _ 28 emptyWriteReq (.driver (.at24cxxWrite ⟨0, 0⟩ 0 (some []) 0)) _ false _
      ⟨teeErrorBadParameters, []⟩ _ rfl
      (memory_of_inside trivial
        ⟨⟨teeSuccess, (), rfl, teeErrorBadParameters, (), rfl, teeSuccess, (), rfl, rfl, rfl⟩,
          rfl⟩ trivial)) trivial
  have entry : slotIndex 28 0 < nPeriph * nSubSig := by decide
  have coded := called.next_restrict
    (Step.loopOp _ 28 emptyWriteReq (.setRet 28 0 teeErrorBadParameters) _ false _ () _ rfl
      (memory_of_inside entry rfl trivial)) trivial
  have sized := coded.next_restrict
    (Step.loopOp _ 28 emptyWriteReq (.setLen 28 0 0) _ false _ () _ rfl
      (memory_of_inside entry rfl trivial)) trivial
  have published := sized.next_restrict
    (Step.loopOp _ 28 emptyWriteReq (.setBuf 28 0 null) _ false _ () _ rfl
      (memory_of_inside entry rfl trivial)) trivial
  have freed := published.next_restrict
    (Step.loopOp _ 28 emptyWriteReq (.free 3) _ false _ () _ rfl
      (memory_of_outside
        (fun inside => (inside.resolve_left (by decide)).2
          ⟨1, ⟨3, unsupportedReq⟩, List.mem_cons_self, rfl⟩)
        ⟨.empty, update (fun _ => []) 1 [⟨3, forgedReq⟩], rfl⟩ trivial)) trivial
  have dequeued := freed.next_restrict (Step.dequeue _ 1 forgedReq _ rfl rfl) trivial
  have coded := dequeued.next_restrict
    (Step.loopOp _ 1 forgedReq (.setRet 1 5 teeErrorNotSupported) _ false _ () _ rfl
      (memory_of_inside (show slotIndex 1 5 < nPeriph * nSubSig by decide) rfl trivial)) trivial
  have finished := coded.next_restrict
    (Step.loopOp _ 1 forgedReq (.setReadySignal 1 5) _ false _ () _ rfl
      (memory_of_inside (show 1 < nPeriph by decide) rfl trivial)) trivial
  exact ⟨_, finished, fun protocol => absurd protocol.pendingInUse (by decide)⟩

end TrustWasm.IoHelper
