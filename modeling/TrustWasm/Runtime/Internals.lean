import Mathlib.Logic.Relation
import TrustWasm.Runtime.Dispatch

/-!
# Steps below the program

Between two native calls the workers of the io_helper go on, and a submission takes its
operations one by one.  A request on a pin goes through two such stretches: it gets a
slot and a place in the queue, and a worker serves it.  Both are stated once here, for
a read of a DHT that the worker cannot allocate its buffer for.
-/

namespace TrustWasm.Runtime

open TrustWasm.Lib TrustWasm.Tee TrustWasm.IoHelper Function

/-- A step below the program: of a worker, or of a submission that is under way. -/
def IsInternal : RtAction → Prop
  | .worker _ | .submitOp => True
  | _ => False

/-- Any number of steps below the program. -/
def Internals (mode : Mode) : Rt → Rt → Prop :=
  Relation.ReflTransGen fun s s' => ∃ action, IsInternal action ∧ RtStep mode s action s'

theorem Internals.next {mode : Mode} {s middle s' : Rt} {action : RtAction}
    (internals : Internals mode s middle) (step : RtStep mode middle action s')
    (kind : IsInternal action) : Internals mode s s' :=
  internals.tail ⟨action, kind, step⟩

/-- A run goes on below the program. -/
theorem after_internals {mode : Mode} {T : System Rt RtAction} {s s' : Rt}
    (reachable : T.Reachable s) (internals : Internals mode s s')
    (allowed : ∀ {s action s'}, IsInternal action → RtStep mode s action s' → T.step s action s') :
    T.Reachable s' := by
  induction internals with
  | refl => exact reachable
  | tail _ step ih =>
    obtain ⟨action, kind, step⟩ := step
    exact ih.next (allowed kind step)

/-! ## A request on a pin -/

/-- `dht_read_async` on a pin: READ_REQ for a DHT11. -/
def dhtSubmission (pin : BitVec 32) : Submission where
  cmd := .readReq
  paramTypes := readReqTypes
  params := ⟨.value pin 0, .value 11 0, .value 0 0, .value 0 0⟩
  uninit := null

def dhtReq (serial : Nat) (signo : Nat) : IoReq where
  type := .dhtRead
  signo := signo
  p0 := .value 11 0
  p1 := .value 0 0
  p2 := .value 0 0
  ticket := ⟨serial, []⟩

/-- A module of five functions whose table holds functions 2 and 3 in elements 1
and 2. -/
def twoHandlers : Instance where
  instanceNo := 0
  elems := [nullRef, 2, 3]
  functionCount := 5

section Pin

variable {mode : Mode} {s : Rt} {serial p q : Nat} {after : Pta}

/-- The submission has enqueued its request and is to return. -/
def Rt.queued (s : Rt) (serial p q : Nat) (submission : Submission) (handler : Option (BitVec 32))
    (req : IoReq) (after : Pta) (rest : Program Helper CommandResult) : Rt :=
  { s with
    sys := { s.sys with
      pta := after
      submits := update s.sys.submits serial (some ⟨rest, .enqueued, []⟩)
      log := s.sys.log ++ [.enqueued p req] }
    task := .submit serial submission handler (some q) }

/-- A submission without buffers allocates its slot and enqueues its request. -/
theorem internals_queue {submission : Submission} {handler : Option (BitVec 32)} {req : IoReq}
    {middle : Pta} {next : Option Nat → Program Helper CommandResult}
    {rest : TeeResult → Program Helper CommandResult}
    (task : s.task = .submit serial submission handler none)
    (found : s.sys.submits serial = some ⟨.call (.allocateSigno p) next, .fresh, []⟩)
    (allocated : s.sys.pta.allocateSigno p = (some q, middle))
    (goesOn : next (some q) = .call (.enqueue p req) rest)
    (enqueued : helperStep middle (.enqueue p req) teeSuccess after) :
    Internals mode s (s.queued serial p q submission handler req after (rest teeSuccess)) := by
  have started : Internals mode s s := .refl
  have holding := started.next (RtStep.submitOp s serial submission handler none
    (.allocateSigno p) next .fresh [] (some q) middle task found allocated) trivial
  have ended := holding.next (RtStep.submitOp _ serial submission handler (some q)
    (.enqueue p req) rest (.held p q) [] teeSuccess after rfl
    (by
      rw [← goesOn]
      exact update_self serial _ s.sys.submits) enqueued) trivial
  convert ended using 1
  simp [Rt.queued, submitEvents, SubmitPhase.after, argsAfter, slotAfter]

/-- The worker of the pin has failed for want of memory and made the request ready. -/
def Rt.refused (s : Rt) (serial p q : Nat) (after : Pta) : Rt :=
  let req := dhtReq serial q
  let work : WorkView := ⟨[], ⟨some teeErrorBadState, none, none⟩⟩
  { s with
    sys := { s.sys with
      pta :=
        (after.setEntry p q { after.entry p q with ret := teeErrorBadState }).setReadySignal p q
      loops := update s.sys.loops p (some ⟨req, .pure (), true, work⟩)
      ready := setSlot s.sys.ready p q (some serial)
      log := s.sys.log ++ [.finished p req (work.result after.heap)] } }

/-- The worker of the pin serves the request. -/
theorem internals_refuse (idle : s.sys.loops p = none)
    (queue : s.sys.pta.dequeue p = some (dhtReq serial q, after)) :
    Internals mode s (s.refused serial p q after) := by
  have started : Internals mode s s := .refl
  have dequeued := started.next (RtStep.worker _ (.dequeue p) _ trivial
    (.dequeue _ p (dhtReq serial q) after idle queue)) trivial
  have unallocated := dequeued.next (RtStep.worker _ (.loopOp p) _ trivial
    (.loopOp _ p (dhtReq serial q) (.malloc 4) _ false _ null _
      (update_self p _ s.sys.loops) (.inl ⟨rfl, rfl⟩))) trivial
  have failed := unallocated.next (RtStep.worker _ (.loopOp p) _ trivial
    (.loopOp _ p (dhtReq serial q) (.setRet p q teeErrorBadState) _ false _ () _
      (update_self p _ _) rfl)) trivial
  have ready := failed.next (RtStep.worker _ (.loopOp p) _ trivial
    (.loopOp _ p (dhtReq serial q) (.setReadySignal p q) _ false _ () _
      (update_self p _ _) rfl)) trivial
  convert ready using 1
  simp [Rt.refused, servedAfter, WorkView.start, WorkView.after, readyAfterLoop, loopEvents, dhtReq,
    Pta.setEntry]

end Pin

end TrustWasm.Runtime
