import TrustWasm.Lib.Transition
import TrustWasm.IoHelper.Commands

/-!
# The io_helper as a concurrent system

Clients submit requests, one worker loop for each peripheral serves them, and
clients poll and collect.  Submissions and worker loops proceed by single
operations, in any interleaving.  A collection is either one step (`getData`)
or a thread that proceeds by single operations as well (`getStart`, `getOp`);
the polls are one step.  Threads carry ghost data: which slot they hold between
which of their operations, and which request they hold it for.  The log records
what a client can observe.
-/

namespace TrustWasm.IoHelper

open TrustWasm.Lib TrustWasm.Tee Function

/-- Change what a table by peripheral and slot says of one slot. -/
def setSlot {α : Type} (table : Nat → Nat → α) (periphNo signo : Nat) (value : α) :
    Nat → Nat → α :=
  update table periphNo (update (table periphNo) signo value)

section SetSlot

variable {α : Type} (table : Nat → Nat → α) (value : α)

@[simp]
theorem setSlot_self (p q : Nat) : setSlot table p q value p q = value := by
  simp [setSlot]

theorem setSlot_of_ne {p q p' q' : Nat} (other : ¬(p' = p ∧ q' = q)) :
    setSlot table p q value p' q' = table p' q' := by
  by_cases periph : p' = p
  · subst periph
    have signo : q' ≠ q := fun equal => other ⟨rfl, equal⟩
    simp [setSlot, signo]
  · simp [setSlot, periph]

theorem setSlot_apply (p q p' q' : Nat) :
    setSlot table p q value p' q' = if p' = p ∧ q' = q then value else table p' q' := by
  by_cases here : p' = p ∧ q' = q
  · obtain ⟨rfl, rfl⟩ := here
    simp
  · rw [setSlot_of_ne _ _ here, if_neg here]

end SetSlot

/-- A request that occupies a slot goes through these stages. -/
inductive Stage where
  | allocated
  | queued
  | handling
  | ready
  deriving DecidableEq

/-- Where a submission stands: before its slot allocation, holding a slot no
request is enqueued for, or past its enqueue. -/
inductive SubmitPhase where
  | fresh
  | held (periphNo signo : Nat)
  | enqueued
  deriving DecidableEq

def SubmitPhase.after (phase : SubmitPhase) : (op : HelperOp) → Helper.Reply op → SubmitPhase
  | .allocateSigno periphNo, some signo => .held periphNo signo
  | .enqueue _ _, (res : TeeResult) => if res = teeSuccess then .enqueued else phase
  | _, _ => phase

/-- The argument buffers a submission has allocated and still owns. -/
def argsAfter (args : List Ptr) : (op : HelperOp) → Helper.Reply op → List Ptr
  | .malloc _, (ptr : Ptr) => if ptr = null then args else args ++ [ptr]
  | .enqueue _ _, (res : TeeResult) => if res = teeSuccess then [] else args
  | _, _ => args

/-- A submission command in progress. -/
structure SubmitThread where
  prog : Program Helper CommandResult
  phase : SubmitPhase
  args : List Ptr

/-- The fields of a result entry a handler has set so far. -/
structure Written where
  ret : Option (BitVec 32)
  len : Option (BitVec 32)
  buf : Option Ptr
  deriving DecidableEq

/-- What a worker has in hand while it serves a request: the heap blocks that
belong to the request and the result fields it has set. -/
structure WorkView where
  owned : List Ptr
  written : Written
  deriving DecidableEq

/-- A request as a worker takes it from the queue. -/
def WorkView.start (req : IoReq) : WorkView :=
  ⟨req.ticket.args, ⟨none, none, none⟩⟩

def WorkView.after (work : WorkView) : (op : HelperOp) → Helper.Reply op → WorkView
  | .malloc _, (ptr : Ptr) => if ptr = null then work else { work with owned := ptr :: work.owned }
  | .free ptr, _ => { work with owned := work.owned.filter (· ≠ ptr) }
  | .setRet _ _ ret, _ => { work with written := { work.written with ret := some ret } }
  | .setLen _ _ len, _ => { work with written := { work.written with len := some len } }
  | .setBuf _ _ buf, _ => { work with written := { work.written with buf := some buf } }
  | _, _ => work

/-- The worker has made the request ready. -/
def servedAfter (served : Bool) : (op : HelperOp) → Helper.Reply op → Bool
  | .setReadySignal _ _, _ => true
  | _, _ => served

/-- A worker loop serving a request. -/
structure LoopThread where
  req : IoReq
  prog : Program Helper Unit
  served : Bool
  work : WorkView

/-- Where a collection stands: before its ready check, between that check and
its release of the slot, or past the release. -/
inductive GetPhase where
  | unchecked
  | holding
  | released
  deriving DecidableEq

def GetPhase.after (phase : GetPhase) : (op : HelperOp) → Helper.Reply op → GetPhase
  | .isReadySignal _ _, (ready : Bool) => if ready then .holding else phase
  | .releaseSigno _ _, _ => .released
  | _, _ => phase

/-- A collection in progress on one slot.  `claimed` is the request that was
ready there at its ready check. -/
structure GetThread where
  periphNo : Nat
  subSigno : Nat
  prog : Program Helper CommandResult
  phase : GetPhase
  claimed : Option Nat
  freed : Bool

/-- The collection has found its slot ready and has neither released it nor
returned. -/
def GetThread.Holding (thread : GetThread) : Prop :=
  thread.phase = .holding ∧ ∀ reply, thread.prog ≠ .pure reply

/-- What a handler left for the client: a return value, and the bytes of its
result when the value is not negative. -/
structure Result where
  ret : BitVec 32
  data : List Byte
  deriving DecidableEq

/-- The result a code, a length and a buffer stand for. -/
def resultOf (heap : Heap Ptr Byte) (ret len : BitVec 32) (buf : Ptr) : Result where
  ret := ret
  data := if isNegative ret then [] else (heap.contents? buf len.toNat).getD []

/-- The result the entry of a slot stands for. -/
def Pta.result (s : Pta) (periphNo signo : Nat) : Result :=
  let entry := s.entry periphNo signo
  resultOf s.heap entry.ret entry.len entry.buf

/-- The result a handler has produced with the fields it has set. -/
def WorkView.result (work : WorkView) (heap : Heap Ptr Byte) : Result :=
  resultOf heap (work.written.ret.getD 0) (work.written.len.getD 0) (work.written.buf.getD null)

/-- What a client observes. -/
inductive Event where
  | enqueued (periphNo : Nat) (req : IoReq)
  | finished (periphNo : Nat) (req : IoReq) (result : Result)
  | collected (paramTypes : BitVec 32) (params : Params) (reply : CommandResult)

/-- The system: the io_helper, its threads, and the ghost record of the request
that is ready in each slot. -/
structure Sys where
  pta : Pta
  next : Nat
  submits : Nat → Option SubmitThread
  loops : Nat → Option LoopThread
  gets : Nat → Option GetThread
  ready : Nat → Nat → Option Nat
  log : List Event

def Sys.init : Sys where
  pta := Pta.zero
  next := 0
  submits _ := none
  loops _ := none
  gets _ := none
  ready _ _ := none
  log := []

/-- The steps of the system, named by who takes them. -/
inductive Action where
  | submit (submission : Submission)
  | submitOp (serial : Nat)
  | dequeue (periphNo : Nat)
  | loopOp (periphNo : Nat)
  | poll (paramTypes : BitVec 32) (params : Params)
  | pollSubsignal (paramTypes : BitVec 32) (params : Params)
  | getData (paramTypes : BitVec 32) (params : Params)
  | getStart (paramTypes : BitVec 32) (params : Params)
  | getOp (id : Nat)

/-- The slot the parameters of a collection name. -/
def slotOf (params : Params) : Nat × Nat :=
  (toUint16 params.p0.a, params.p0.b.toNat)

/-- The events of a submission's operation. -/
def submitEvents : (op : HelperOp) → Helper.Reply op → List Event
  | .enqueue periphNo req, (res : TeeResult) =>
    if res = teeSuccess then [.enqueued periphNo req] else []
  | _, _ => []

/-- The events of a worker's operation, with what it has in hand before. -/
def loopEvents (heap : Heap Ptr Byte) (req : IoReq) (work : WorkView) (op : HelperOp) :
    List Event :=
  match op with
  | .setReadySignal periphNo _ => [.finished periphNo req (work.result heap)]
  | _ => []

/-- The request ready in each slot after a worker's operation. -/
def readyAfterLoop (ready : Nat → Nat → Option Nat) (req : IoReq) (op : HelperOp) :
    Nat → Nat → Option Nat :=
  match op with
  | .setReadySignal periphNo signo => setSlot ready periphNo signo (some req.ticket.serial)
  | _ => ready

/-- A slot released by a collection holds no ready request. -/
def readyAfterGet (ready : Nat → Nat → Option Nat) (op : HelperOp) :
    Nat → Nat → Option Nat :=
  match op with
  | .releaseSigno periphNo signo => setSlot ready periphNo signo none
  | _ => ready

/-- After a collection in one step its slot holds a ready request only if it is
still marked ready. -/
def readyAfterGetData (ready : Nat → Nat → Option Nat) (after : Pta) (params : Params) :
    Nat → Nat → Option Nat :=
  let slot := slotOf params
  if after.isReadySignal slot.1 slot.2 then ready else setSlot ready slot.1 slot.2 none

/-- The request a collection claims with its ready check. -/
def claimedAfter (s : Sys) (claimed : Option Nat) : (op : HelperOp) → Helper.Reply op → Option Nat
  | .isReadySignal periphNo signo, (isReady : Bool) =>
    if isReady then s.ready periphNo signo else claimed
  | _, _ => claimed

def freedAfter (freed : Bool) : HelperOp → Bool
  | .free _ => true
  | _ => freed

/-- The steps of the system when operations behave as `S` says. -/
inductive Step (S : Semantics Helper Pta) : Sys → Action → Sys → Prop where
  | submit (s : Sys) (submission : Submission) :
      Step S s (.submit submission)
        { s with
          next := s.next + 1
          submits := update s.submits s.next
            (some ⟨submission.program s.next, .fresh, []⟩) }
  | submitOp (s : Sys) (serial : Nat) (op : HelperOp)
      (next : Helper.Reply op → Program Helper CommandResult) (phase : SubmitPhase)
      (args : List Ptr) (reply : Helper.Reply op) (after : Pta) :
      s.submits serial = some ⟨.call op next, phase, args⟩ →
      S.step s.pta op reply after →
      Step S s (.submitOp serial)
        { s with
          pta := after
          submits := update s.submits serial
            (some ⟨next reply, phase.after op reply, argsAfter args op reply⟩)
          log := s.log ++ submitEvents op reply }
  | dequeue (s : Sys) (periphNo : Nat) (req : IoReq) (after : Pta) :
      s.loops periphNo = none →
      s.pta.dequeue periphNo = some (req, after) →
      Step S s (.dequeue periphNo)
        { s with
          pta := after
          loops := update s.loops periphNo
            (some ⟨req, serve req periphNo, false, .start req⟩) }
  | loopOp (s : Sys) (periphNo : Nat) (req : IoReq) (op : HelperOp)
      (next : Helper.Reply op → Program Helper Unit) (served : Bool) (work : WorkView)
      (reply : Helper.Reply op) (after : Pta) :
      s.loops periphNo = some ⟨req, .call op next, served, work⟩ →
      S.step s.pta op reply after →
      Step S s (.loopOp periphNo)
        { s with
          pta := after
          loops := update s.loops periphNo
            (some ⟨req, next reply, servedAfter served op reply, work.after op reply⟩)
          ready := readyAfterLoop s.ready req op
          log := s.log ++ loopEvents s.pta.heap req work op }
  | loopDone (s : Sys) (periphNo : Nat) (req : IoReq) (served : Bool) (work : WorkView) :
      s.loops periphNo = some ⟨req, .pure (), served, work⟩ →
      Step S s (.loopOp periphNo) { s with loops := update s.loops periphNo none }
  | poll (s : Sys) (paramTypes : BitVec 32) (params : Params) (reply : CommandResult)
      (after : Pta) :
      (poll paramTypes params).Exec S s.pta reply after →
      Step S s (.poll paramTypes params) { s with pta := after }
  | pollSubsignal (s : Sys) (paramTypes : BitVec 32) (params : Params)
      (reply : CommandResult) (after : Pta) :
      (pollSubsignal paramTypes params).Exec S s.pta reply after →
      Step S s (.pollSubsignal paramTypes params) { s with pta := after }
  | getData (s : Sys) (paramTypes : BitVec 32) (params : Params) (reply : CommandResult)
      (after : Pta) :
      (getData paramTypes params).Exec S s.pta reply after →
      Step S s (.getData paramTypes params)
        { s with
          pta := after
          ready := readyAfterGetData s.ready after params
          log := s.log ++ [.collected paramTypes params reply] }
  | getStart (s : Sys) (paramTypes : BitVec 32) (params : Params) :
      Step S s (.getStart paramTypes params)
        { s with
          next := s.next + 1
          gets := update s.gets s.next
            (some ⟨(slotOf params).1, (slotOf params).2, getData paramTypes params,
              .unchecked, none, false⟩) }
  | getOp (s : Sys) (id periphNo subSigno : Nat) (op : HelperOp)
      (next : Helper.Reply op → Program Helper CommandResult) (phase : GetPhase)
      (claimed : Option Nat) (freed : Bool) (reply : Helper.Reply op) (after : Pta) :
      s.gets id = some ⟨periphNo, subSigno, .call op next, phase, claimed, freed⟩ →
      S.step s.pta op reply after →
      Step S s (.getOp id)
        { s with
          pta := after
          gets := update s.gets id
            (some ⟨periphNo, subSigno, next reply, phase.after op reply,
              claimedAfter s claimed op reply, freedAfter freed op⟩)
          ready := readyAfterGet s.ready op }

/-- With operations that can do more the system can do more. -/
theorem Step.mono {S T : Semantics Helper Pta}
    (weaker : ∀ source op reply target, S.step source op reply target →
      T.step source op reply target)
    {s s' : Sys} {action : Action} (step : Step S s action s') : Step T s action s' := by
  cases step with
  | submit submission => exact .submit s submission
  | submitOp serial op next phase args reply after found step =>
    exact .submitOp s serial op next phase args reply after found (weaker _ _ _ _ step)
  | dequeue p req after idle step => exact .dequeue s p req after idle step
  | loopOp p req op next served work reply after found step =>
    exact .loopOp s p req op next served work reply after found (weaker _ _ _ _ step)
  | loopDone p req served work found => exact .loopDone s p req served work found
  | poll paramTypes params reply after run =>
    exact .poll s paramTypes params reply after (run.mono weaker)
  | pollSubsignal paramTypes params reply after run =>
    exact .pollSubsignal s paramTypes params reply after (run.mono weaker)
  | getData paramTypes params reply after run =>
    exact .getData s paramTypes params reply after (run.mono weaker)
  | getStart paramTypes params => exact .getStart s paramTypes params
  | getOp id p q op next phase claimed freed reply after found step =>
    exact .getOp s id p q op next phase claimed freed reply after found (weaker _ _ _ _ step)

/-- The io_helper system from boot. -/
def ioHelper (S : Semantics Helper Pta) : System Sys Action where
  initial s := s = Sys.init
  step := Step S

/-- `malloc` and the allocation of a queue node did not fail. -/
def Allocated : (op : HelperOp) → Helper.Reply op → Prop
  | .malloc _, (ptr : Ptr) => ptr ≠ null
  | .enqueue _ _, (res : TeeResult) => res = teeSuccess
  | _, _ => True

/-- The operations when `malloc` never fails. -/
def reliable : Semantics Helper Pta where
  guard _ _ := True
  step s op reply s' := helperStep s op reply s' ∧ Allocated op reply

end TrustWasm.IoHelper
