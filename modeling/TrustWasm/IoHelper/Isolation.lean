import TrustWasm.IoHelper.CommandRuns
import TrustWasm.IoHelper.SlotContract

/-!
# Peripherals apart from each other

A command names a peripheral, and some commands name a slot of it.  The state of
the io_helper falls into regions: the masks, the counts and the queue of a
peripheral with the entries of its slots in the result table.  An operation within
a region changes nothing outside of it and answers by what the region holds, and so
does a program made of such operations.  Which numbers a command lets through is
decided by its checks, some of which come after a cast to 16 bits.

START_LOOP serves what its queue holds.  The queues are kept apart from the heap here, as
they are in memory while the submissions match their handlers (`matched_of_memory`); a
free or a store outside the blocks of a request could put another one into a queue.
-/

namespace TrustWasm.IoHelper

open TrustWasm.Lib TrustWasm.Lib.Mask TrustWasm.Tee Function

/-! ## Regions of the state -/

/-- A peripheral and some places of the result table. -/
structure Region where
  periph : Nat
  entries : Nat → Prop

/-- A peripheral with the entries of all its slots. -/
def Region.row (p : Nat) : Region where
  periph := p
  entries i := ∃ q < nSubSig, i = slotIndex p q

/-- A peripheral with the entry of one slot. -/
def Region.slot (p q : Nat) : Region where
  periph := p
  entries i := i = slotIndex p q

/-- Nothing outside of the region has changed. -/
structure SameOutside (R : Region) (s s' : Pta) : Prop where
  sigpending : ∀ p ≠ R.periph, s'.sigpending p = s.sigpending p
  pollTimes : ∀ p ≠ R.periph, s'.pollTimes p = s.pollTimes p
  sigusing : ∀ p ≠ R.periph, s'.sigusing p = s.sigusing p
  reqNums : ∀ p ≠ R.periph, s'.reqNums p = s.reqNums p
  reqQueues : ∀ p ≠ R.periph, s'.reqQueues p = s.reqQueues p
  signalTable : ∀ i, ¬R.entries i → s'.signalTable i = s.signalTable i

/-- Two states hold the same in the region, and the same heap. -/
structure SameWithin (R : Region) (s t : Pta) : Prop where
  sigpending : t.sigpending R.periph = s.sigpending R.periph
  pollTimes : t.pollTimes R.periph = s.pollTimes R.periph
  sigusing : t.sigusing R.periph = s.sigusing R.periph
  reqNums : t.reqNums R.periph = s.reqNums R.periph
  reqQueues : t.reqQueues R.periph = s.reqQueues R.periph
  signalTable : ∀ i, R.entries i → t.signalTable i = s.signalTable i
  heap : t.heap = s.heap

theorem SameOutside.refl (R : Region) (s : Pta) : SameOutside R s s :=
  ⟨fun _ _ => rfl, fun _ _ => rfl, fun _ _ => rfl, fun _ _ => rfl, fun _ _ => rfl, fun _ _ => rfl⟩

variable {s s' t : Pta} {R : Region} {p q : Nat} {req : IoReq}

theorem SameOutside.trans {s'' : Pta} (first : SameOutside R s s') (second : SameOutside R s' s'') :
    SameOutside R s s'' where
  sigpending p other := (second.sigpending p other).trans (first.sigpending p other)
  pollTimes p other := (second.pollTimes p other).trans (first.pollTimes p other)
  sigusing p other := (second.sigusing p other).trans (first.sigusing p other)
  reqNums p other := (second.reqNums p other).trans (first.reqNums p other)
  reqQueues p other := (second.reqQueues p other).trans (first.reqQueues p other)
  signalTable i outside := (second.signalTable i outside).trans (first.signalTable i outside)

theorem SameOutside.setEntry (inside : R.entries (slotIndex p q)) (s : Pta) (value : SigEntry) :
    SameOutside R s (s.setEntry p q value) := by
  refine { SameOutside.refl R s with signalTable := ?_ }
  intro i outside
  refine update_of_ne ?_ _ _
  rintro rfl
  exact outside inside

theorem SameWithin.entry (same : SameWithin R s t) (inside : R.entries (slotIndex p q)) :
    t.entry p q = s.entry p q :=
  same.signalTable _ inside

theorem SameWithin.setEntry (same : SameWithin R s t) (p q : Nat) (value : SigEntry) :
    SameWithin R (s.setEntry p q value) (t.setEntry p q value) := by
  refine { same with signalTable := ?_ }
  intro i inside
  simp only [Pta.setEntry]
  by_cases here : i = slotIndex p q
  · subst here
    rw [update_self, update_self]
  · rw [update_of_ne here, update_of_ne here]
    exact same.signalTable i inside

theorem ffs_sub_one_lt (mask : BitVec 64) : ffs mask - 1 < nSubSig := by
  unfold ffs
  split
  · rename_i found
    exact ((lowest?_eq_some_iff _ _).mp found).1
  · decide

/-! ## Operations within a region -/

/-- The operation reads and changes globals of the region only. -/
def HelperOp.Within (R : Region) : HelperOp → Prop
  | .getReadySignal p | .allocateSigno p => p = R.periph ∧ ∀ q < nSubSig, R.entries (slotIndex p q)
  | .setReadySignal p _ | .isReadySignal p _ | .isUsingSigno p _ | .getReqNum p
  | .releaseSigno p _ | .enqueue p _ => p = R.periph
  | .getRet p q | .getLen p q | .getBuf p q | .getPollTimes p q | .setRet p q _ | .setLen p q _
  | .setBuf p q _ | .setPollTimes p q _ => R.entries (slotIndex p q)
  | .malloc .. | .free .. | .loadByte .. | .storeByte .. | .loadClient .. | .driver ..
  | .storage .. => True

/-- The heap is in no region. -/
theorem sameOutside_heap (R : Region) (s : Pta) (heap : Heap Ptr Byte) :
    SameOutside R s { s with heap := heap } :=
  { SameOutside.refl R s with }

theorem sameOutside_of_within {op : HelperOp} {reply : Helper.Reply op} (within : op.Within R)
    (step : helperStep s op reply s') :
    SameOutside R s s' := by
  cases op with
  | getReadySignal p =>
    obtain ⟨rfl, inside⟩ := within
    have after : s' = (s.getReadySignal R.periph).2 := by rw [show _ = _ from step]
    subst after
    unfold Pta.getReadySignal
    dsimp only
    split
    · have marked := SameOutside.setEntry (inside _ (ffs_sub_one_lt (s.sigpending R.periph))) s
        { s.entry R.periph (ffs (s.sigpending R.periph) - 1) with
          pollTimes := s.pollTimes R.periph + 1 }
      exact { marked with pollTimes := fun p other => update_of_ne other _ _ }
    · exact { SameOutside.refl R _ with
        pollTimes := fun p other => update_of_ne other _ _ }
  | allocateSigno p =>
    obtain ⟨rfl, inside⟩ := within
    have after : s' = (s.allocateSigno R.periph).2 := by rw [show _ = _ from step]
    subst after
    unfold Pta.allocateSigno
    split
    · exact .refl R _
    · have marked := SameOutside.setEntry
        (inside _ (ffs_sub_one_lt (~~~s.sigusing R.periph))) s
        { s.entry R.periph (ffs (~~~s.sigusing R.periph) - 1) with pollTimes := 0 }
      exact { marked with
        sigusing := fun p other => update_of_ne other _ _
        reqNums := fun p other => update_of_ne other _ _ }
  | setReadySignal p q =>
    obtain rfl : p = R.periph := within
    obtain rfl : s' = _ := step
    refine { SameOutside.refl R _ with sigpending := fun p other => ?_ }
    exact update_of_ne other _ _
  | releaseSigno p q =>
    obtain rfl : p = R.periph := within
    obtain rfl : s' = _ := step
    refine { SameOutside.refl R _ with
      sigpending := fun p other => update_of_ne other _ _
      sigusing := fun p other => update_of_ne other _ _
      reqNums := fun p other => update_of_ne other _ _ }
  | enqueue p req =>
    obtain rfl : p = R.periph := within
    rcases step with ⟨-, rfl⟩ | ⟨-, addr, junk, -, -, rfl⟩
    · exact .refl R _
    · exact { SameOutside.refl R _ with
        reqQueues := fun p other => update_of_ne other _ _ }
  | setRet p q | setLen p q | setBuf p q | setPollTimes p q =>
    obtain rfl : s' = _ := step
    exact SameOutside.setEntry within s _
  | isReadySignal | isUsingSigno | getReqNum | getRet | getLen | getBuf | getPollTimes
  | driver | storage =>
    obtain ⟨-, rfl⟩ := step
    exact .refl R _
  | malloc size =>
    rcases step with ⟨-, rfl⟩ | ⟨-, -, junk, rfl⟩
    · exact .refl R _
    · exact sameOutside_heap R _ _
  | free | storeByte =>
    obtain rfl : s' = _ := step
    exact sameOutside_heap R _ _
  | loadByte =>
    obtain ⟨rfl, -⟩ := step
    exact .refl R _
  | loadClient =>
    obtain rfl : s' = s := step
    exact .refl R _

/-- What is written to the peripheral of a region is the same in both states. -/
theorem update_same {α : Type} {f g : Nat → α} {first second : α} (values : second = first) :
    update g p second p = update f p first p := by
  rw [update_self, update_self, values]

/-- An operation within a region can be followed from a state that agrees there,
with the same answer. -/
theorem follows_of_within {op : HelperOp} {reply : Helper.Reply op} (within : op.Within R)
    (same : SameWithin R s t) (step : helperStep s op reply s') :
    ∃ t', helperStep t op reply t' ∧ SameWithin R s' t' := by
  cases op with
  | getReadySignal p =>
    obtain ⟨rfl, inside⟩ := within
    obtain ⟨rfl, rfl⟩ : (s.getReadySignal R.periph).1 = reply ∧
        (s.getReadySignal R.periph).2 = s' :=
      ⟨congrArg Prod.fst step, congrArg Prod.snd step⟩
    refine ⟨(t.getReadySignal R.periph).2, Prod.ext ?_ rfl, ?_⟩
    · simp only [Pta.getReadySignal, same.sigpending]
      split <;> rfl
    · simp only [Pta.getReadySignal, same.sigpending, same.pollTimes]
      split
      · rw [same.entry (inside _ (ffs_sub_one_lt _))]
        exact { same.setEntry _ _ _ with pollTimes := update_same rfl }
      · exact { same with pollTimes := update_same rfl }
  | allocateSigno p =>
    obtain ⟨rfl, inside⟩ := within
    obtain ⟨rfl, rfl⟩ : (s.allocateSigno R.periph).1 = reply ∧ (s.allocateSigno R.periph).2 = s' :=
      ⟨congrArg Prod.fst step, congrArg Prod.snd step⟩
    refine ⟨(t.allocateSigno R.periph).2, Prod.ext ?_ rfl, ?_⟩
    · simp only [Pta.allocateSigno, same.sigusing]
      split <;> rfl
    · simp only [Pta.allocateSigno, same.sigusing, same.reqNums]
      split
      · exact same
      · rw [same.entry (inside _ (ffs_sub_one_lt _))]
        exact { same.setEntry _ _ _ with
          sigusing := update_same rfl
          reqNums := update_same rfl }
  | setReadySignal p q =>
    obtain rfl : p = R.periph := within
    obtain rfl : s' = _ := step
    exact ⟨_, rfl, { same with sigpending := update_same (by rw [same.sigpending]) }⟩
  | releaseSigno p q =>
    obtain rfl : p = R.periph := within
    obtain rfl : s' = _ := step
    exact ⟨_, rfl, { same with
      sigpending := update_same (by rw [same.sigpending])
      sigusing := update_same (by rw [same.sigusing])
      reqNums := update_same (by rw [same.reqNums]) }⟩
  | enqueue p req =>
    obtain rfl : p = R.periph := within
    rcases step with ⟨failed, rfl⟩ | ⟨succeeded, addr, junk, notNull, fresh, rfl⟩
    · exact ⟨t, .inl ⟨failed, rfl⟩, same⟩
    · refine ⟨_, .inr ⟨succeeded, addr, junk, notNull, by rw [same.heap]; exact fresh, rfl⟩,
        { same with
          reqQueues := update_same (by rw [same.reqQueues])
          heap := ?_ }⟩
      simp only [Pta.enqueueNode, same.heap]
  | isReadySignal p q =>
    obtain rfl : p = R.periph := within
    obtain ⟨rfl, rfl⟩ := step
    refine ⟨t, ⟨?_, rfl⟩, same⟩
    simp only [Pta.isReadySignal, same.sigpending]
  | isUsingSigno p q =>
    obtain rfl : p = R.periph := within
    obtain ⟨rfl, rfl⟩ := step
    refine ⟨t, ⟨?_, rfl⟩, same⟩
    simp only [Pta.isUsingSigno, same.sigusing]
  | getReqNum p =>
    obtain rfl : p = R.periph := within
    obtain ⟨rfl, rfl⟩ := step
    exact ⟨t, ⟨same.reqNums.symm, rfl⟩, same⟩
  | getRet p q | getLen p q | getBuf p q | getPollTimes p q =>
    obtain ⟨rfl, rfl⟩ := step
    exact ⟨t, ⟨by rw [same.entry within], rfl⟩, same⟩
  | setRet p q | setLen p q | setBuf p q | setPollTimes p q =>
    obtain rfl : s' = _ := step
    refine ⟨_, rfl, ?_⟩
    rw [same.entry within]
    exact same.setEntry p q _
  | malloc size =>
    rcases step with ⟨failed, rfl⟩ | ⟨notNull, fresh, junk, rfl⟩
    · exact ⟨t, .inl ⟨failed, rfl⟩, same⟩
    · refine ⟨_, .inr ⟨notNull, by rw [same.heap]; exact fresh, junk, rfl⟩,
        { same with heap := ?_ }⟩
      rw [same.heap]
  | free | storeByte =>
    obtain rfl : s' = _ := step
    refine ⟨_, rfl, { same with heap := ?_ }⟩
    rw [same.heap]
  | loadByte ptr offset =>
    obtain ⟨rfl, read⟩ := step
    exact ⟨t, ⟨rfl, by rw [same.heap]; exact read⟩, same⟩
  | loadClient =>
    obtain rfl : s' = s := step
    exact ⟨t, rfl, same⟩
  | driver | storage =>
    obtain ⟨allowed, rfl⟩ := step
    exact ⟨t, ⟨allowed, rfl⟩, same⟩

/-! ## Programs within a region -/

/-- The program reads and changes globals of the region only. -/
abbrev StaysWithin {α : Type} (R : Region) (program : Program Helper α) : Prop :=
  program.Uses (HelperOp.Within R)

section StaysWithin

variable {α : Type} {program : Program Helper α} {result : α}

theorem sameOutside_of_exec (stays : StaysWithin R program)
    (run : program.Exec helper s result s') : SameOutside R s s' :=
  stays.rel_of_exec (SameOutside.refl R) (fun _ _ _ => SameOutside.trans)
    (fun _ _ _ _ within step => sameOutside_of_within within step) run

theorem follows_of_exec (stays : StaysWithin R program) (same : SameWithin R s t)
    (run : program.Exec helper s result s') :
    ∃ t', program.Exec helper t result t' ∧ SameWithin R s' t' :=
  stays.simulates (R := SameWithin R)
    (fun _ _ _ _ _ within same step => follows_of_within within same step) same run

end StaysWithin

theorem row_entries (small : q < nSubSig) : (Region.row p).entries (slotIndex p q) :=
  ⟨q, small, rfl⟩

theorem poll_within (paramTypes : BitVec 32) (params : Params) :
    StaysWithin (.row (toUint16 params.p0.a)) (poll paramTypes params) := by
  unfold poll
  split
  · trivial
  · split
    · trivial
    · refine .perform_bind ⟨rfl, fun _ => row_entries⟩ fun signo => ?_
      cases signo with
      | none =>
        refine .perform_bind rfl fun reqNum => ?_
        split
        · trivial
        · trivial
      | some signo => trivial

theorem pollSubsignal_within (paramTypes : BitVec 32) (params : Params) :
    StaysWithin (.slot (toUint16 params.p0.a) params.p0.b.toNat)
      (pollSubsignal paramTypes params) := by
  unfold pollSubsignal
  split
  · trivial
  · split
    · trivial
    · refine .perform_bind rfl fun inUse => ?_
      split
      · trivial
      · refine .perform_bind rfl fun count => ?_
        refine .perform_bind rfl fun _ => ?_
        exact .perform_bind rfl fun ready => trivial

section Collection

variable (params : Params) (p q : Nat)

theorem loadFrom_within (R : Region) (ptr : Ptr) (count offset : Nat) :
    StaysWithin R (loadFrom ptr count offset) := by
  induction count generalizing offset with
  | zero => trivial
  | succ count ih =>
    refine Program.Uses.bind ⟨trivial, fun _ => trivial⟩ fun byte => ?_
    exact (ih (offset + 1)).bind fun _ => trivial

theorem takeData_within : StaysWithin (.slot p q) (takeData params p q) := by
  refine .perform_bind rfl fun buf => ?_
  refine .perform_bind rfl fun len => ?_
  refine (loadFrom_within _ _ _ _).bind fun out => ?_
  refine .perform_bind rfl fun buf => ?_
  refine .perform_bind trivial fun _ => ?_
  refine .perform_bind rfl fun ret => ?_
  refine .perform_bind rfl fun times => ?_
  refine .perform_bind rfl fun len => ?_
  refine .perform_bind rfl fun _ => ?_
  refine .perform_bind rfl fun _ => ?_
  refine .perform_bind rfl fun _ => ?_
  exact .perform_bind rfl fun _ => trivial

theorem dataBufMissing_within : StaysWithin (.slot p q) (dataBufMissing p q) := by
  refine .perform_bind rfl fun len => ?_
  split
  · exact .perform_bind rfl fun buf => trivial
  · trivial

theorem getReadyData_within : StaysWithin (.slot p q) (getReadyData params p q) := by
  refine .perform_bind rfl fun ret => ?_
  split
  · refine .perform_bind rfl fun ret => ?_
    exact .perform_bind rfl fun _ => trivial
  · refine .perform_bind rfl fun len => ?_
    split
    · exact .perform_bind rfl fun len => trivial
    · refine (dataBufMissing_within p q).bind fun missing => ?_
      split
      · exact .perform_bind rfl fun _ => trivial
      · refine .perform_bind rfl fun len => ?_
        split
        · refine .perform_bind rfl fun ret => ?_
          exact .perform_bind rfl fun _ => trivial
        · exact takeData_within params p q

theorem getData_within (paramTypes : BitVec 32) :
    StaysWithin (.slot (toUint16 params.p0.a) params.p0.b.toNat) (getData paramTypes params) := by
  unfold getData
  split
  · trivial
  · dsimp only
    split
    · trivial
    · refine .perform_bind rfl fun ready => ?_
      split
      · trivial
      · exact getReadyData_within params _ _

end Collection

/-- A submission stays with its peripheral. -/
theorem submits_within {serial : Nat} {type : IoReqType} {args : List Ptr}
    {program : Program Helper CommandResult} (submits : Submits serial p type args program) :
    StaysWithin (.row p) program := by
  refine submits.uses (fun _ => trivial) ⟨rfl, fun _ => row_entries⟩ (fun op isCopy => ?_)
    fun _ _ => rfl
  cases op
  case loadClient | storeByte => trivial
  all_goals exact isCopy.elim

/-- A worker stays with its peripheral. -/
theorem serve_within (req : IoReq) (p : Nat) (small : req.signo < nSubSig) :
    StaysWithin (.row p) (serve req p) := by
  refine ((handleReq_works req p).mono fun op works => ?_).bind fun _ => ?_
  · cases op
    case setRet | setLen | setBuf =>
      obtain ⟨rfl, rfl⟩ := works
      exact row_entries small
    case malloc | free | loadByte | storeByte | driver | storage => trivial
    all_goals exact works.elim
  · exact .perform_bind rfl fun _ => trivial

/-! ## START_LOOP -/

/-- The operations of the thread that serves a peripheral. -/
inductive WorkerOp where
  | initMutexes (periphNo : Nat)
  | dequeue (periphNo : Nat)
  | helper (op : HelperOp)

abbrev Worker : Interface where
  Op := WorkerOp
  Reply
    | .initMutexes _ => Unit
    | .dequeue _ => IoReq
    | .helper op => Helper.Reply op

/-- Mutexes and condition variables are not part of the state; a worker waits while
its queue is empty. -/
def workerStep (s : Pta) : (op : WorkerOp) → Worker.Reply op → Pta → Prop
  | .initMutexes _, _, s' => s' = s
  | .dequeue periphNo, (req : IoReq), s' => s.dequeue periphNo = some (req, s')
  | .helper op, reply, s' => helperStep s op reply s'

def worker : Semantics Worker Pta where
  guard _ _ := True
  step := workerStep

/-- A program of the handlers as part of a worker. -/
def asWorker {α : Type} : Program Helper α → Program Worker α
  | .pure value => .pure value
  | .call op next => .call (I := Worker) (.helper op) fun reply => asWorker (next reply)

theorem exec_asWorker {α : Type} (program : Program Helper α) (s s' : Pta) (result : α) :
    (asWorker program).Exec worker s result s' ↔ program.Exec helper s result s' := by
  induction program generalizing s with
  | pure value => rfl
  | call op next ih =>
    constructor
    · rintro ⟨reply, middle, step, tail⟩
      exact ⟨reply, middle, step, (ih reply middle).mp tail⟩
    · rintro ⟨reply, middle, step, tail⟩
      exact ⟨reply, middle, step, (ih reply middle).mpr tail⟩

/-- The first turns of the loop of `start_loop`. -/
def workerLoop (periphNo : Nat) : Nat → Program Worker Unit
  | 0 => return
  | turns + 1 => do
    let req ← Program.perform (I := Worker) (.dequeue periphNo)
    asWorker (serve req periphNo)
    workerLoop periphNo turns

/-- The parameter types of START_LOOP. -/
def startLoopTypes : BitVec 32 :=
  teeParamTypes teeParamTypeValueInput teeParamTypeNone teeParamTypeNone teeParamTypeNone

/-- `start_loop` until it returns, or through the given number of turns of its
loop, which it never leaves; `none` says that it is still running. -/
def startLoop (paramTypes : BitVec 32) (params : Params) (turns : Nat) :
    Program Worker (Option CommandResult) :=
  if paramTypes ≠ startLoopTypes then
    return some (.error teeErrorBadParameters params)
  else if nPeriph ≤ toUint16 params.p0.a then
    return some (.error teeErrorBadParameters params)
  else do
    let periphNo := toUint16 params.p0.a
    Program.perform (I := Worker) (.initMutexes periphNo)
    workerLoop periphNo turns
    return none

/-- The queued requests name slots that exist. -/
def SignosExist (s : Pta) : Prop :=
  ∀ p, ∀ node ∈ s.reqQueues p, node.req.signo < nSubSig

/-- In every state the system reaches the queued requests name slots that exist. -/
theorem signosExist_of_slotsOk {sys : Sys} (ok : SlotsOk sys) : SignosExist sys.pta := by
  obtain ⟨-, -, board, inv⟩ := ok
  intro p node member
  have queued := (inv.describes.queued p node.req.signo node.req.ticket.serial).mpr
    ⟨node, member, rfl, rfl⟩
  exact inv.describes.lt_of_some (p := p) (by simp [queued])

theorem reqQueues_of_serve (run : (serve req p).Exec helper s () s') :
    s'.reqQueues = s.reqQueues := by
  obtain ⟨res, middle, handled, _, ready, published, -, rfl⟩ :=
    Program.exec_bind.mp run
  obtain rfl : s' = _ := published
  exact (sameSlots_of_exec (handleReq_local req p) handled).reqQueues

/-- A request taken from the queue, with what is left. -/
theorem dequeue_some (taken : s.dequeue p = some (req, s')) :
    ∃ node rest, s.reqQueues p = node :: rest ∧ node.req = req ∧
      s' = { s with
        reqQueues := update s.reqQueues p rest
        heap := s.heap.free node.addr } := by
  unfold Pta.dequeue at taken
  split at taken
  · cases taken
  · rename_i node rest queue
    cases taken
    exact ⟨node, rest, queue, rfl, rfl⟩

theorem SignosExist.dequeue (exist : SignosExist s) (taken : s.dequeue p = some (req, s')) :
    req.signo < nSubSig ∧ SignosExist s' := by
  obtain ⟨node, rest, queue, rfl, rfl⟩ := dequeue_some taken
  refine ⟨exist p node (by simp [queue]), fun p' node' member => ?_⟩
  by_cases here : p' = p
  · subst here
    simp only [update_self] at member
    exact exist p' node' (by simp [queue, member])
  · simp only [update_of_ne here] at member
    exact exist p' node' member

/-- One turn of the loop. -/
theorem exec_workerLoop_succ (p turns : Nat) (s s' : Pta) :
    (workerLoop p (turns + 1)).Exec worker s () s' ↔ ∃ req taken served,
      s.dequeue p = some (req, taken) ∧ (serve req p).Exec helper taken () served ∧
      (workerLoop p turns).Exec worker served () s' := by
  rw [workerLoop, Program.perform_bind_eq, Program.exec_call]
  constructor
  · rintro ⟨req, taken, isTaken, run⟩
    obtain ⟨_, served, serving, rest⟩ := Program.exec_bind.mp run
    exact ⟨req, taken, served, isTaken, (exec_asWorker _ _ _ _).mp serving, rest⟩
  · rintro ⟨req, taken, served, isTaken, serving, rest⟩
    refine ⟨req, taken, isTaken, Program.exec_bind.mpr ?_⟩
    exact ⟨(), served, (exec_asWorker _ _ _ _).mpr serving, rest⟩

/-- One turn after the other, a worker changes nothing outside of its
peripheral. -/
theorem workerLoop_sameOutside {turns : Nat} (exist : SignosExist s)
    (run : (workerLoop p turns).Exec worker s () s') : SameOutside (.row p) s s' := by
  induction turns generalizing s with
  | zero =>
    obtain ⟨-, rfl⟩ := run
    exact .refl _ _
  | succ turns ih =>
    obtain ⟨req, taken, served, isTaken, serving, rest⟩ :=
      (exec_workerLoop_succ p turns s s').mp run
    obtain ⟨small, remaining⟩ := exist.dequeue isTaken
    have dequeued : SameOutside (.row p) s taken := by
      obtain ⟨node, queue, -, -, rfl⟩ := dequeue_some isTaken
      exact { SameOutside.refl _ _ with
        reqQueues := fun p' other => update_of_ne other _ _ }
    have after : SignosExist served := by
      unfold SignosExist
      rw [reqQueues_of_serve serving]
      exact remaining
    exact (dequeued.trans (sameOutside_of_exec (serve_within req p small) serving)).trans
      (ih after rest)

/-- A worker does the same in states that agree on its peripheral. -/
theorem workerLoop_follows {turns : Nat} (exist : SignosExist s) (same : SameWithin (.row p) s t)
    (run : (workerLoop p turns).Exec worker s () s') :
    ∃ t', (workerLoop p turns).Exec worker t () t' ∧ SameWithin (.row p) s' t' := by
  induction turns generalizing s t with
  | zero =>
    obtain ⟨-, rfl⟩ := run
    exact ⟨t, ⟨rfl, rfl⟩, same⟩
  | succ turns ih =>
    obtain ⟨req, taken, served, isTaken, serving, rest⟩ :=
      (exec_workerLoop_succ p turns s s').mp run
    obtain ⟨small, remaining⟩ := exist.dequeue isTaken
    have after : SignosExist served := by
      unfold SignosExist
      rw [reqQueues_of_serve serving]
      exact remaining
    obtain ⟨taken', isTaken', same⟩ : ∃ taken', t.dequeue p = some (req, taken') ∧
        SameWithin (.row p) taken taken' := by
      obtain ⟨node, queue, found, rfl, rfl⟩ := dequeue_some isTaken
      have found' : t.reqQueues p = node :: queue := same.reqQueues.trans found
      refine ⟨{ t with
        reqQueues := update t.reqQueues p queue
        heap := t.heap.free node.addr }, by simp only [Pta.dequeue, found'], ?_⟩
      exact { same with
        reqQueues := update_same rfl
        heap := by rw [same.heap] }
    obtain ⟨served', serving', same⟩ := follows_of_exec (serve_within req p small) same serving
    obtain ⟨t', rest', same⟩ := ih after same rest
    exact ⟨t', (exec_workerLoop_succ p turns t t').mpr
      ⟨req, taken', served', isTaken', serving', rest'⟩, same⟩

/-! ## Commands that name a peripheral -/

/-- A command that takes a peripheral number, and maybe a slot number, in its first
parameter. -/
inductive Command where
  | startLoop
  | submit (cmd : SubmitCmd) (serial : Nat) (uninit : Ptr)
  | poll
  | pollSubsignal
  | getData

namespace Command

/-- The parameter types a command expects. -/
def types : Command → BitVec 32
  | startLoop => startLoopTypes
  | submit .readReq .. => readReqTypes
  | submit .readReqWithBuffer .. | submit .writeReq .. => bufferReqTypes
  | submit .writeReqWithBuffer .. => twoBufferReqTypes
  | poll | pollSubsignal => pollTypes
  | getData => getDataTypes

/-- The command executed alone from `s` has come to `s'`, and has returned with
`reply` or is still running. -/
def Runs (command : Command) (paramTypes : BitVec 32) (params : Params) (s : Pta)
    (reply : Option CommandResult) (s' : Pta) : Prop :=
  match command with
  | startLoop => ∃ turns, (IoHelper.startLoop paramTypes params turns).Exec worker s reply s'
  | submit cmd serial uninit => ∃ result, reply = some result ∧
      (Submission.program ⟨cmd, paramTypes, params, uninit⟩ serial).Exec helper s result s'
  | poll => ∃ result, reply = some result ∧
      (IoHelper.poll paramTypes params).Exec helper s result s'
  | pollSubsignal => ∃ result, reply = some result ∧
      (IoHelper.pollSubsignal paramTypes params).Exec helper s result s'
  | getData => ∃ result, reply = some result ∧
      (IoHelper.getData paramTypes params).Exec helper s result s'

/-- The command uses the second word of its first parameter as a slot number. -/
def NamesSlot : Command → Prop
  | pollSubsignal | getData => True
  | _ => False

instance : DecidablePred NamesSlot
  | startLoop | submit .. | poll => inferInstanceAs (Decidable False)
  | pollSubsignal | getData => inferInstanceAs (Decidable True)

/-- The 32-bit peripheral number or the slot number does not exist. -/
def OutOfRange (command : Command) (params : Params) : Prop :=
  nPeriph ≤ params.p0.a.toNat ∨ command.NamesSlot ∧ nSubSig ≤ params.p0.b.toNat

/-- What belongs to the peripheral, or to the slot, that the parameters name. -/
def region (command : Command) (params : Params) : Region :=
  if command.NamesSlot then .slot params.p0.a.toNat params.p0.b.toNat
  else .row params.p0.a.toNat

/-- Numbers that do not exist are rejected and leave everything alone; numbers that
exist confine the command to what they name. -/
structure Isolated (command : Command) (paramTypes : BitVec 32) (params : Params) : Prop where
  rejects : command.OutOfRange params → ∀ s reply s',
    command.Runs paramTypes params s reply s' →
    reply = some (.error teeErrorBadParameters params) ∧ s' = s
  changes : ¬command.OutOfRange params → ∀ s reply s', SignosExist s →
    command.Runs paramTypes params s reply s' → SameOutside (command.region params) s s'
  reads : ¬command.OutOfRange params → ∀ s t reply s', SignosExist s →
    SameWithin (command.region params) s t → command.Runs paramTypes params s reply s' →
    ∃ t', command.Runs paramTypes params t reply t' ∧ SameWithin (command.region params) s' t'

/-- The numbers whose check is the one they need: START_LOOP and the polls check the
peripheral after a cast to 16 bits, GET_DATA does not check it at all and accepts
slot 64. -/
def ChecksSuffice (command : Command) (params : Params) : Prop :=
  match command with
  | startLoop | poll => params.p0.a.toNat < nPeriph ∨ nPeriph ≤ toUint16 params.p0.a
  | submit .. => True
  | pollSubsignal => params.p0.a.toNat < nPeriph ∨ nPeriph ≤ toUint16 params.p0.a ∨
      nSubSig ≤ params.p0.b.toNat
  | getData => params.p0.a.toNat < nPeriph ∧ params.p0.b.toNat ≠ nSubSig ∨
      nSubSig < params.p0.b.toNat

instance (command : Command) (params : Params) : Decidable (command.ChecksSuffice params) :=
  match command with
  | startLoop | poll | pollSubsignal | getData => inferInstanceAs (Decidable (_ ∨ _))
  | submit .. => inferInstanceAs (Decidable True)

/-- The checks a command makes before its first operation. -/
def Rejected (command : Command) (paramTypes : BitVec 32) (params : Params) : Prop :=
  paramTypes ≠ command.types ∨
    match command with
    | startLoop | poll => nPeriph ≤ toUint16 params.p0.a
    | submit .. => nPeriph ≤ params.p0.a.toNat
    | pollSubsignal => nPeriph ≤ toUint16 params.p0.a ∨ nSubSig ≤ params.p0.b.toNat
    | getData => nSubSig < params.p0.b.toNat

variable {command : Command} {paramTypes : BitVec 32} {params : Params}

/-- A program behind two checks that answer alike. -/
theorem checked_eq {I : Interface} {α : Type} {first second : Prop} [Decidable first]
    [Decidable second] {answer program : Program I α} (bad : first ∨ second) :
    (if first then answer else if second then answer else program) = answer := by
  rcases bad with bad | bad
  · rw [if_pos bad]
  · rw [if_pos bad, ite_self]

theorem exec_of_accepted {I : Interface} {α : Type} {first second : Prop} [Decidable first]
    [Decidable second] {answer program : Program I α} {S : Semantics I Pta} {result : α}
    (accepted : ¬(first ∨ second)) (run : program.Exec S s result s') :
    (if first then answer else if second then answer else program).Exec S s result s' := by
  rw [if_neg fun bad => accepted (.inl bad), if_neg fun bad => accepted (.inr bad)]
  exact run

/-- A rejected command answers at once and does nothing. -/
theorem runs_of_rejected (rejected : command.Rejected paramTypes params)
    {reply : Option CommandResult} : command.Runs paramTypes params s reply s' ↔
      reply = some (.error teeErrorBadParameters params) ∧ s' = s := by
  have answers {program : Program Helper CommandResult}
      (same : program = .pure (.error teeErrorBadParameters params)) :
      (∃ result, reply = some result ∧ program.Exec helper s result s') ↔
        reply = some (.error teeErrorBadParameters params) ∧ s' = s := by
    subst same
    constructor
    · rintro ⟨_, rfl, rfl, rfl⟩
      exact ⟨rfl, rfl⟩
    · rintro ⟨rfl, rfl⟩
      exact ⟨_, rfl, rfl, rfl⟩
  cases command with
  | startLoop =>
    have same (turns : Nat) : IoHelper.startLoop paramTypes params turns =
        .pure (some (.error teeErrorBadParameters params)) := checked_eq rejected
    simp only [Runs, same, Program.exec_pure, exists_const]
  | submit cmd serial uninit =>
    refine answers ?_
    cases cmd with
    | readReq | readReqWithBuffer | writeReqWithBuffer => exact checked_eq rejected
    | writeReq => exact checked_eq rejected
  | poll | pollSubsignal | getData => exact answers (checked_eq rejected)

/-- At boot an accepted command does not answer like a rejected one. -/
theorem runs_of_accepted (accepted : ¬command.Rejected paramTypes params)
    (unchecked : ∀ cmd serial uninit, command ≠ .submit cmd serial uninit) :
    ∃ reply s', command.Runs paramTypes params Pta.zero reply s' ∧
      reply ≠ some (.error teeErrorBadParameters params) := by
  cases command with
  | startLoop =>
    refine ⟨none, Pta.zero, ⟨0, exec_of_accepted accepted ?_⟩, by simp⟩
    exact ⟨(), Pta.zero, rfl, rfl, rfl⟩
  | submit cmd serial uninit => exact absurd rfl (unchecked cmd serial uninit)
  | poll =>
    refine ⟨_, _, ⟨_, rfl, exec_of_accepted accepted
      ⟨none, _, rfl, 0, _, ⟨rfl, rfl⟩, rfl, rfl⟩⟩, ?_⟩
    exact fun same => absurd (congrArg CommandResult.res (Option.some.inj same))
      (show teeSuccess ≠ teeErrorBadParameters by decide)
  | pollSubsignal =>
    refine ⟨_, _, ⟨_, rfl, exec_of_accepted accepted ⟨false, _, ⟨?_, rfl⟩, rfl, rfl⟩⟩, ?_⟩
    · simp [Pta.isUsingSigno, Pta.zero]
    · exact fun same => absurd (congrArg CommandResult.res (Option.some.inj same))
        (show teeErrorBadState ≠ teeErrorBadParameters by decide)
  | getData =>
    refine ⟨_, _, ⟨_, rfl, exec_of_accepted accepted ⟨false, _, ⟨?_, rfl⟩, rfl, rfl⟩⟩, ?_⟩
    · simp [Pta.isReadySignal, Pta.zero]
    · exact fun same => absurd (congrArg CommandResult.res (Option.some.inj same))
        (show teeErrorNoData ≠ teeErrorBadParameters by decide)

theorem exec_startLoop (accepted : ¬startLoop.Rejected paramTypes params) (turns : Nat)
    (s s' : Pta) (reply : Option CommandResult) :
    (IoHelper.startLoop paramTypes params turns).Exec worker s reply s' ↔
      reply = none ∧ (workerLoop (toUint16 params.p0.a) turns).Exec worker s () s' := by
  have types : ¬paramTypes ≠ startLoopTypes := fun bad => accepted (.inl bad)
  have number : ¬nPeriph ≤ toUint16 params.p0.a := fun bad => accepted (.inr bad)
  rw [IoHelper.startLoop, if_neg types, if_neg number]
  dsimp only
  rw [Program.perform_bind_eq, Program.exec_call]
  constructor
  · rintro ⟨_, _, rfl, run⟩
    obtain ⟨_, _, looping, rfl, rfl⟩ := Program.exec_bind.mp run
    exact ⟨rfl, looping⟩
  · rintro ⟨rfl, looping⟩
    exact ⟨(), s, rfl, Program.exec_bind.mpr ⟨(), s', looping, rfl, rfl⟩⟩

/-- A command on numbers that exist stays within what they name. -/
theorem confined (inRange : ¬command.OutOfRange params) {reply : Option CommandResult}
    (exist : SignosExist s) (run : command.Runs paramTypes params s reply s') :
    SameOutside (command.region params) s s' ∧ ∀ t, SameWithin (command.region params) s t →
      ∃ t', command.Runs paramTypes params t reply t' ∧
        SameWithin (command.region params) s' t' := by
  obtain ⟨periph, slot⟩ := not_or.mp inRange
  have number : toUint16 params.p0.a = params.p0.a.toNat :=
    toUint16_eq_of_lt (Nat.lt_of_not_le periph)
  have stays {R : Region} {program : Program Helper CommandResult} (stays : StaysWithin R program)
      (returned : ∃ result, reply = some result ∧ program.Exec helper s result s') :
      SameOutside R s s' ∧ ∀ t, SameWithin R s t →
        ∃ t', (∃ result, reply = some result ∧ program.Exec helper t result t') ∧
          SameWithin R s' t' := by
    obtain ⟨result, isReply, executed⟩ := returned
    refine ⟨sameOutside_of_exec stays executed, fun t same => ?_⟩
    obtain ⟨t', executed', same'⟩ := follows_of_exec stays same executed
    exact ⟨t', ⟨result, isReply, executed'⟩, same'⟩
  cases command with
  | startLoop =>
    by_cases rejected : startLoop.Rejected paramTypes params
    · obtain ⟨rfl, rfl⟩ := (runs_of_rejected rejected).mp run
      exact ⟨.refl _ _, fun t same => ⟨t, (runs_of_rejected rejected).mpr ⟨rfl, rfl⟩, same⟩⟩
    · obtain ⟨turns, executed⟩ := run
      obtain ⟨rfl, looping⟩ := (exec_startLoop rejected turns s s' reply).mp executed
      rw [number] at looping
      refine ⟨workerLoop_sameOutside exist looping, fun t same => ?_⟩
      obtain ⟨t', looping', same'⟩ := workerLoop_follows exist same looping
      rw [← number] at looping'
      exact ⟨t', ⟨turns, (exec_startLoop rejected turns t t' none).mpr ⟨rfl, looping'⟩⟩, same'⟩
  | submit cmd serial uninit =>
    have within := submits_within (Submission.submits ⟨cmd, paramTypes, params, uninit⟩ serial)
    rw [number] at within
    exact stays within run
  | poll =>
    have within := poll_within paramTypes params
    rw [number] at within
    exact stays within run
  | pollSubsignal =>
    have within := pollSubsignal_within paramTypes params
    rw [number] at within
    exact stays within run
  | getData =>
    have within := getData_within params paramTypes
    rw [number] at within
    exact stays within run

/-- Where the checks suffice, a number that does not exist is rejected. -/
theorem rejected_of_checksSuffice (suffice : command.ChecksSuffice params)
    (outOfRange : command.OutOfRange params) : command.Rejected paramTypes params := by
  refine .inr ?_
  cases command with
  | startLoop | poll =>
    rcases outOfRange with periph | ⟨impossible, -⟩
    · exact suffice.resolve_left (Nat.not_lt_of_le periph)
    · exact impossible.elim
  | submit cmd serial uninit =>
    rcases outOfRange with periph | ⟨impossible, -⟩
    · exact periph
    · exact impossible.elim
  | pollSubsignal =>
    rcases outOfRange with periph | ⟨-, slot⟩
    · exact suffice.resolve_left (Nat.not_lt_of_le periph)
    · exact .inr slot
  | getData =>
    rcases suffice with ⟨periph, notLast⟩ | beyond
    · rcases outOfRange with bad | ⟨-, slot⟩
      · exact absurd periph (Nat.not_lt_of_le bad)
      · exact Nat.lt_of_le_of_ne slot (Ne.symm notLast)
    · exact beyond

/-- Where they do not, some number that does not exist is accepted. -/
theorem accepted_of_not_checksSuffice (types : paramTypes = command.types)
    (insufficient : ¬command.ChecksSuffice params) :
    command.OutOfRange params ∧ ¬command.Rejected paramTypes params ∧
      ∀ cmd serial uninit, command ≠ .submit cmd serial uninit := by
  have decoded (check : Prop) (accepted : ¬check) : ¬(paramTypes ≠ command.types ∨ check) := by
    rintro (bad | bad)
    · exact bad types
    · exact accepted bad
  cases command with
  | startLoop | poll | pollSubsignal =>
    obtain ⟨periph, check⟩ := not_or.mp insufficient
    exact ⟨.inl (Nat.le_of_not_lt periph), decoded _ check, by simp⟩
  | submit cmd serial uninit => exact absurd trivial insufficient
  | getData =>
    obtain ⟨numbers, check⟩ := not_or.mp insufficient
    refine ⟨?_, decoded _ check, by simp⟩
    by_cases periph : params.p0.a.toNat < nPeriph
    · have last : params.p0.b.toNat = nSubSig := by
        by_contra notLast
        exact numbers ⟨periph, notLast⟩
      exact .inr ⟨trivial, last.ge⟩
    · exact .inl (Nat.le_of_not_lt periph)

theorem not_isolated (types : paramTypes = command.types)
    (insufficient : ¬command.ChecksSuffice params) : ¬command.Isolated paramTypes params := by
  intro isolated
  obtain ⟨outOfRange, accepted, notSubmit⟩ := accepted_of_not_checksSuffice types insufficient
  obtain ⟨reply, s', run, other⟩ := runs_of_accepted accepted notSubmit
  exact other (isolated.rejects outOfRange _ _ _ run).1

/-- A command rejects the numbers that do not exist and is confined by those that do,
for every value of its first parameter, exactly where its checks suffice. -/
theorem isolated_iff_checksSuffice (command : Command) (paramTypes : BitVec 32)
    (params : Params) : command.Isolated paramTypes params ↔
      paramTypes ≠ command.types ∨ command.ChecksSuffice params := by
  constructor
  · intro isolated
    by_contra neither
    obtain ⟨types, insufficient⟩ := not_or.mp neither
    exact not_isolated (not_not.mp types) insufficient isolated
  · intro either
    refine ⟨fun outOfRange s reply s' run => ?_, fun inRange s reply s' exist run => ?_,
      fun inRange s t reply s' exist same run => ?_⟩
    · have rejected : command.Rejected paramTypes params := by
        rcases either with types | suffice
        · exact .inl types
        · exact rejected_of_checksSuffice suffice outOfRange
      exact (runs_of_rejected rejected).mp run
    · exact (confined inRange exist run).1
    · exact (confined inRange exist run).2 t same

end Command

/-- The parameters of a command on peripheral `a` and slot `b`. -/
def numbered (a b : BitVec 32) : Params :=
  ⟨.value a b, ⟨null, 0⟩, ⟨null, 0⟩, ⟨null, 0⟩⟩

/-- START_LOOP and the polls take peripheral 65536 for peripheral 0; GET_DATA accepts
peripheral 64 and slot 64. -/
theorem numbers_beyond_range_accepted :
    ¬Command.startLoop.Isolated startLoopTypes (numbered 65536 0) ∧
    ¬Command.poll.Isolated pollTypes (numbered 65536 0) ∧
    ¬Command.pollSubsignal.Isolated pollTypes (numbered 65536 0) ∧
    ¬Command.getData.Isolated getDataTypes (numbered 64 0) ∧
    ¬Command.getData.Isolated getDataTypes (numbered 0 64) := by
  refine ⟨Command.not_isolated rfl ?_, Command.not_isolated rfl ?_, Command.not_isolated rfl ?_,
    Command.not_isolated rfl ?_, Command.not_isolated rfl ?_⟩
  · decide
  · decide
  · decide
  · decide
  · decide

end TrustWasm.IoHelper
