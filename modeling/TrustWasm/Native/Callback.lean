import TrustWasm.IoHelper.Collection
import TrustWasm.Native.Async
import TrustWasm.Runtime.Pending
import Mathlib.Logic.Relation

/-!
# Calls that register a handler

The callback form of an asynchronous function submits its request first and registers
the handler afterwards; `promise_set_callback` registers a handler for a request that
was submitted before.  A registration fails for table element 0 only.  It takes every
other element, and stores a null function for one that does not resolve.
-/

namespace TrustWasm.Native

open TrustWasm.Lib TrustWasm.Lib.Mask TrustWasm.Tee TrustWasm.IoHelper TrustWasm.Runtime Function

/-- The calls that register a handler. -/
inductive CallbackCall where
  | async (op : Operation) (handlerFuncPtr : BitVec 32)
      (exported : op.exports (.async handlerFuncPtr) = true)
  | promiseSetCallback (promise handlerFuncPtr : BitVec 32)

def CallbackCall.handler : CallbackCall → BitVec 32
  | .async _ handlerFuncPtr _ | .promiseSetCallback _ handlerFuncPtr => handlerFuncPtr

/-- The slot a promise stands for. -/
def promiseSlot (promise : BitVec 32) : Nat × Nat :=
  (((promise.sshiftRight 16).setWidth 16).toNat, ((promise &&& 0xFFFF).setWidth 16).toNat)

/-- How a call ended: the code it returned, the request it submitted, the slot it
registered its handler for when the request or promise was not refused, and the state
it left. -/
structure Ending where
  code : TeeResult
  request : Option Nat
  slot : Option (Nat × Nat)
  state : Rt

/-- A step of a worker or of the submission in progress. -/
def Meanwhile (mode : Mode) (s s' : Rt) : Prop :=
  ∃ action, (action = .submitOp ∨ ∃ taken, action = .worker taken) ∧ RtStep mode s action s'

/-- The code that stands for the result of `tzio_register_handler`. -/
def registerCode (s : Rt) (mode : Mode) (allocated : Bool) (signo subSigno : Nat)
    (handler : BitVec 32) : TeeResult :=
  match s.globals.registerHandler mode s.inst allocated signo subSigno handler with
  | none => teeErrorGeneric
  | some _ => teeSuccess

/-- A call from `s` can end so.  `allocated` says whether the allocation of an AOT
function object succeeds. -/
inductive Returns (mode : Mode) (mem : Linear) (allocated : Bool) :
    CallbackCall → Rt → Ending → Prop where
  | rejected {op : Operation} {handler : BitVec 32} {exported : op.exports (.async handler) = true}
      {s : Rt} {uninit : Ptr} {code : TeeResult} :
      s.task = .wasm → op.request mem uninit = .error code →
      Returns mode mem allocated (.async op handler exported) s ⟨code, none, none, s⟩
  | refused {op : Operation} {handler : BitVec 32} {exported : op.exports (.async handler) = true}
      {s started last : Rt} {uninit : Ptr} {submission : Submission} {serial : Nat}
      {slot : Option Nat} {reply : CommandResult} {phase : SubmitPhase} {args : List Ptr} :
      op.request mem uninit = .ok submission →
      RtStep mode s (.submit submission (some handler)) started →
      Relation.ReflTransGen (Meanwhile mode) started last →
      last.task = .submit serial submission (some handler) slot →
      last.sys.submits serial = some ⟨.pure reply, phase, args⟩ → reply.res ≠ teeSuccess →
      Returns mode mem allocated (.async op handler exported) s
        ⟨reply.res, some serial, none,
          last.submitted mode allocated submission (some handler) reply⟩
  | answered {op : Operation} {handler : BitVec 32} {exported : op.exports (.async handler) = true}
      {s started last : Rt} {uninit : Ptr} {submission : Submission} {serial : Nat}
      {slot : Option Nat} {reply : CommandResult} {phase : SubmitPhase} {args : List Ptr} :
      op.request mem uninit = .ok submission →
      RtStep mode s (.submit submission (some handler)) started →
      Relation.ReflTransGen (Meanwhile mode) started last →
      last.task = .submit serial submission (some handler) slot →
      last.sys.submits serial = some ⟨.pure reply, phase, args⟩ → reply.res = teeSuccess →
      Returns mode mem allocated (.async op handler exported) s
        ⟨registerCode last mode allocated (toUint16 submission.params.p0.a)
          reply.params.p0.a.toNat handler, some serial,
          some (toUint16 submission.params.p0.a, reply.params.p0.a.toNat),
          last.submitted mode allocated submission (some handler) reply⟩
  | outOfRange {promise handler : BitVec 32} {s : Rt} :
      s.task = .wasm → ¬InRange (promiseSlot promise) →
      Returns mode mem allocated (.promiseSetCallback promise handler) s
        ⟨teeErrorBadParameters, none, none, s⟩
  | notInUse {promise handler : BitVec 32} {s : Rt} {reply : CommandResult} {after : Pta} :
      s.task = .wasm → InRange (promiseSlot promise) →
      (pollSubsignal pollTypes (slotParams (promiseSlot promise).1 (promiseSlot promise).2)).Exec
        helper s.sys.pta reply after → reply.res ≠ teeSuccess →
      Returns mode mem allocated (.promiseSetCallback promise handler) s
        ⟨teeErrorAccessDenied, none, none, s.withPta after⟩
  | inUse {promise handler : BitVec 32} {s : Rt} {reply : CommandResult} {after : Pta} :
      s.task = .wasm → InRange (promiseSlot promise) →
      (pollSubsignal pollTypes (slotParams (promiseSlot promise).1 (promiseSlot promise).2)).Exec
        helper s.sys.pta reply after → reply.res = teeSuccess →
      Returns mode mem allocated (.promiseSetCallback promise handler) s
        ⟨registerCode (s.withPta after) mode allocated (promiseSlot promise).1
          (promiseSlot promise).2 handler, none, some (promiseSlot promise),
          (s.withPta after).register mode allocated (promiseSlot promise).1
            (promiseSlot promise).2 handler⟩

/-- A call that returns an error has left no request of its own in the io_helper and
has not changed the tables of the runtime; one that succeeds has stored the function
the table element holds. -/
structure LeavesNothing (call : CallbackCall) (s : Rt) (ending : Ending) : Prop where
  failed : ending.code ≠ teeSuccess →
    (∀ serial p q stage, ending.request = some serial → ¬Holds ending.state.sys p q serial stage) ∧
      ending.state.globals = s.globals
  succeeded : ending.code = teeSuccess → ∃ p q element,
    ending.slot = some (p, q) ∧ s.inst.elems[call.handler.toNat]? = some element ∧
      element ≠ nullRef ∧
      ending.state.globals.sigtable p q = ⟨some ⟨s.inst.instanceNo, element⟩, call.handler, element⟩

/-- The table element a call names is fine for it: it holds a function, or it is the
one `promise_set_callback` turns down. -/
def CallbackCall.Resolves (mode : Mode) (allocated : Bool) (inst : Instance) :
    CallbackCall → Prop
  | .async _ handler _ => handler ≠ 0 ∧ inst.getIndirectFunction mode allocated handler ≠ none
  | .promiseSetCallback _ handler =>
    handler = 0 ∨ inst.getIndirectFunction mode allocated handler ≠ none

/-! ## Registration -/

/-- The entry a registration stores. -/
def handlerEntry (inst : Instance) (mode : Mode) (allocated : Bool) (handler : BitVec 32) :
    IoSigentry :=
  ⟨inst.getIndirectFunction mode allocated handler, handler,
    match inst.getIndirectFunction mode allocated handler with
    | some function => function.funcIdx
    | none => 0⟩

/-- The entry names the function the element holds when the element resolves. -/
theorem handlerEntry_iff (inst : Instance) (mode : Mode) (allocated : Bool) (handler : BitVec 32) :
    (∃ element, inst.elems[handler.toNat]? = some element ∧ element ≠ nullRef ∧
        handlerEntry inst mode allocated handler =
          ⟨some ⟨inst.instanceNo, element⟩, handler, element⟩) ↔
      inst.getIndirectFunction mode allocated handler ≠ none := by
  unfold handlerEntry
  cases found : inst.getIndirectFunction mode allocated handler with
  | none =>
    simp only [ne_eq, not_true_eq_false, iff_false]
    rintro ⟨element, -, -, same⟩
    cases same
  | some function =>
    obtain ⟨element, notNull, here⟩ := Instance.getIndirectFunction_eq_some found
    simp only [ne_eq, reduceCtorEq, not_false_eq_true, iff_true]
    exact ⟨function.funcIdx, element, notNull, by rw [← here]⟩

variable {p q serial : Nat} {s s' start : Rt} {handler : Option (BitVec 32)} {mode : Mode}
    {submission : Submission} {reply : CommandResult}

section Registration

variable {handler : BitVec 32} (s : Rt) (mode : Mode) (allocated : Bool)

/-- A registration for a slot that exists fails for element 0 and then changes
nothing. -/
theorem register_zero (small : p < 64) (subSmall : q < 64) (zero : handler = 0) :
    registerCode s mode allocated p q handler = teeErrorGeneric ∧
      (s.register mode allocated p q handler).globals = s.globals := by
  have nothing : s.globals.registerHandler mode s.inst allocated p q handler = none :=
    (Globals.registerHandler_eq_none_iff small subSmall).mpr zero
  unfold registerCode Rt.register
  rw [nothing]
  exact ⟨rfl, rfl⟩

/-- Every other element is taken. -/
theorem register_nonzero (small : p < 64) (subSmall : q < 64) (nonzero : handler ≠ 0) :
    registerCode s mode allocated p q handler = teeSuccess ∧
      (s.register mode allocated p q handler).globals.sigtable p q =
        handlerEntry s.inst mode allocated handler := by
  unfold registerCode Rt.register
  cases registered : s.globals.registerHandler mode s.inst allocated p q handler with
  | none =>
    exact absurd ((Globals.registerHandler_eq_none_iff small subSmall).mp registered) nonzero
  | some globals =>
    obtain ⟨-, rfl⟩ := Globals.registerHandler_eq_some registered
    refine ⟨rfl, ?_⟩
    dsimp only
    rw [Globals.setSignalPending_sigtable]
    exact setSlot_self _ _ p q

end Registration

/-! ## While a submission runs -/

/-- A slot that stays in use stays with its request, when no other submission takes a
step. -/
theorem holds_of_keepsUse {s s' : Sys} {action : Action} (ok : SlotsOk s) (ok' : SlotsOk s')
    (exclusive : Exclusive s action) (step : Step helper s action s')
    (keeps : KeepsUse s.pta s'.pta) {stage : Stage}
    (others : ∀ i, i ≠ serial → s'.submits i = s.submits i) (holds : Holds s p q serial stage) :
    ∃ stage', Holds s' p q serial stage' := by
  have used : (s.pta.sigusing p).getLsbD q = true := by
    obtain ⟨-, -, board, inv⟩ := ok
    exact ((inv.slotProtocol p).owned q).mpr ⟨serial, stage, holds⟩
  obtain ⟨owner, stage', holds'⟩ : ∃ owner stage', Holds s' p q owner stage' := by
    obtain ⟨-, -, board, inv⟩ := id ok'
    exact ((inv.slotProtocol p).owned q).mp (keeps p q used)
  by_cases own : owner = serial
  · exact ⟨stage', own ▸ holds'⟩
  · rcases holds_of_step ok exclusive step holds' with ⟨before, held⟩ | ⟨thread, found, fresh⟩
    · exact absurd (ok.oneOwner held holds).1 own
    · exact absurd holds' (ok'.not_holds_of_fresh ((others owner own).trans found) fresh)

/-- The submission `serial` is in progress since `start`: it has no slot, or it has one
that its request owns, and the tables are as they were. -/
structure InProgress (start : Rt) (serial : Nat) (submission : Submission)
    (handler : Option (BitVec 32)) (s : Rt) : Prop where
  globals : s.globals = start.globals
  inst : s.inst = start.inst
  task : ∃ slot thread, s.task = .submit serial submission handler slot ∧
    s.sys.submits serial = some thread ∧ (slot = none → thread.phase = .fresh) ∧
    ∀ q, slot = some q → ∃ stage, Holds s.sys (toUint16 submission.params.p0.a) q serial stage

theorem inProgress_of_submit {started : Rt}
    (step : RtStep mode s (.submit submission handler) started) :
    InProgress s s.sys.next submission handler started := by
  cases step with
  | submit _ _ sys _ step =>
    cases step with
    | submit => exact ⟨rfl, rfl, none, _, rfl, update_self .., fun _ => rfl, nofun⟩

/-- A submission that has no slot after an operation had none before and is still
fresh. -/
theorem fresh_of_slotAfter {phase : SubmitPhase} {op : HelperOp} {reply : Helper.Reply op}
    {slot : Option Nat} (allowed : submitGuard serial phase op)
    (fresh : slot = none → phase = .fresh) (noSlot : slotAfter slot op reply = none) :
    phase.after op reply = .fresh := by
  rcases submitGuard_cases allowed with isLocal | ⟨p, rfl, isFresh, -⟩ | ⟨p, req, rfl, held, -⟩
  · rw [phase.after_of_isLocal isLocal]
    refine fresh (Eq.trans ?_ noSlot)
    cases op
    case allocateSigno => exact isLocal.elim
    all_goals rfl
  · cases reply with
    | none => exact isFresh
    | some q => cases noSlot
  · have isNone : slot = none := noSlot
    rw [fresh isNone] at held
    cases held

theorem InProgress.step (reachable : (runtime mode).Reachable s)
    (progress : InProgress start serial submission handler s) (step : Meanwhile mode s s') :
    InProgress start serial submission handler s' := by
  obtain ⟨slot, thread, task, found, fresh, held⟩ := progress.task
  obtain ⟨action, kind, step⟩ := step
  have ok := slotsOk reachable
  have ok' := slotsOk (reachable.next step)
  cases id step with
  | worker action sys isWorker taken =>
    have same : sys.submits = s.sys.submits := by
      cases taken
      case dequeue | loopOp | loopDone => rfl
      all_goals exact isWorker.elim
    refine ⟨progress.globals, progress.inst, slot, thread, task, same ▸ found, fresh, ?_⟩
    intro q isSlot
    obtain ⟨stage, holds⟩ := held q isSlot
    refine holds_of_keepsUse ok ok' ?_ taken ?_ (fun i _ => by rw [same]) holds
    · cases action
      case dequeue | loopOp => trivial
      all_goals exact isWorker.elim
    · intro p q inUse
      rw [sigusing_of_worker ok.threads isWorker taken]
      exact inUse
  | submitOp serial' submission' handler' slot' op next phase args reply after task' found' taken =>
    rw [task] at task'
    cases task'
    rw [found] at found'
    cases found'
    have allowed : submitGuard serial phase op := (ok.threads.submits serial _ found).1
    refine ⟨progress.globals, progress.inst, _, _, rfl, update_self ..,
      fresh_of_slotAfter allowed fresh, ?_⟩
    intro q isSlot
    obtain ⟨thread, found', obeys, -⟩ := (tracked_of_reachable reachable).submitting _ _ _ _ task
    rw [found] at found'
    cases found'
    cases slot with
    | some q' =>
      -- the slot was allocated before: it is kept
      obtain rfl : q' = q := Option.some.inj ((slotAfter_of_some obeys.1 rfl).symm.trans isSlot)
      obtain ⟨stage, holds⟩ := held q' rfl
      have alone : Exclusive s.sys (.submitOp serial) := trivial
      refine holds_of_keepsUse ok ok' alone (.submitOp _ _ _ _ _ _ _ _ found taken)
        (keepsUse_of_submitOp allowed taken) ?_ holds
      exact fun i other => update_of_ne other _ _
    | none =>
      have onPeriph := obeys.1
      cases op
      case allocateSigno p' =>
        obtain ⟨rfl, -⟩ := onPeriph
        cases reply with
        | none => cases isSlot
        | some q' =>
          cases isSlot
          exact ⟨.allocated, _, update_self .., rfl⟩
      all_goals cases isSlot
  | _ => simp at kind

/-! ## Endings -/

theorem InProgress.run {started last : Rt} (reachable : (runtime mode).Reachable started)
    (progress : InProgress start serial submission handler started)
    (run : Relation.ReflTransGen (Meanwhile mode) started last) :
    (runtime mode).Reachable last ∧ InProgress start serial submission handler last := by
  induction run with
  | refl => exact ⟨reachable, progress⟩
  | tail _ step ih =>
    obtain ⟨reached, progress⟩ := ih
    refine ⟨?_, progress.step reached step⟩
    obtain ⟨action, -, taken⟩ := step
    exact reached.next taken

section Replies

variable {serial' : Nat} {submission' : Submission} {handler' : Option (BitVec 32)}
    {slot : Option Nat} {phase : SubmitPhase} {args : List Ptr}

/-- A submission that reports a failure has not got a slot. -/
theorem InProgress.fresh_of_failed (progress : InProgress start serial submission handler s)
    (reached : (runtime mode).Reachable s)
    (task : s.task = .submit serial' submission' handler' slot)
    (returned : s.sys.submits serial' = some ⟨.pure reply, phase, args⟩)
    (failed : reply.res ≠ teeSuccess) :
    ∃ thread, s.sys.submits serial' = some thread ∧ thread.phase = .fresh := by
  obtain ⟨slot', thread, isTask, found, fresh, -⟩ := progress.task
  rw [task] at isTask
  cases isTask
  obtain ⟨thread', found', obeys, -⟩ := (tracked_of_reachable reached).submitting _ _ _ _ task
  rw [returned] at found'
  cases found'
  exact ⟨thread, found, fresh (obeys.failed failed)⟩

/-- A submission that reports success has answered with the slot its request owns. -/
theorem InProgress.slot_of_succeeded (progress : InProgress start serial submission handler s)
    (reached : (runtime mode).Reachable s)
    (task : s.task = .submit serial' submission' handler' slot)
    (returned : s.sys.submits serial' = some ⟨.pure reply, phase, args⟩)
    (succeeded : reply.res = teeSuccess) :
    toUint16 submission'.params.p0.a < 64 ∧ ∃ q, reply.params.p0.a.toNat = q ∧ q < 64 ∧
      ∃ stage, Holds s.sys (toUint16 submission'.params.p0.a) q serial' stage := by
  obtain ⟨slot', thread, isTask, -, -, held⟩ := progress.task
  rw [task] at isTask
  cases isTask
  obtain ⟨thread', found', obeys, inUse⟩ := (tracked_of_reachable reached).submitting _ _ _ _ task
  rw [returned] at found'
  cases found'
  obtain ⟨small, q, isSlot, answer⟩ := obeys.succeeded succeeded
  have range : q < 64 := BitVec.lt_of_getLsbD (inUse q isSlot)
  refine ⟨small, q, ?_, range, held q isSlot⟩
  rw [answer, BitVec.toNat_ofNat]
  omega

end Replies

section Endings

variable {mem : Linear} {allocated : Bool}

/-- A call that was refused has left nothing. -/
theorem leavesNothing_of_refused {call : CallbackCall} {ending : Ending}
    (failed : ending.code ≠ teeSuccess)
    (nowhere : ∀ serial p q stage, ending.request = some serial →
      ¬Holds ending.state.sys p q serial stage) (same : ending.state.globals = s.globals) :
    LeavesNothing call s ending :=
  ⟨fun _ => ⟨nowhere, same⟩, fun succeeded => absurd succeeded failed⟩

/-- A call whose handler was registered has stored what the element holds when the
element resolves. -/
theorem leavesNothing_registered_iff (call : CallbackCall) (last : Rt) {request : Option Nat}
    {state : Rt} (small : p < 64) (subSmall : q < 64) (nonzero : call.handler ≠ 0)
    (inst : last.inst = s.inst)
    (isState : state.globals = (last.register mode allocated p q call.handler).globals) :
    LeavesNothing call s
        ⟨registerCode last mode allocated p q call.handler, request, some (p, q), state⟩ ↔
      s.inst.getIndirectFunction mode allocated call.handler ≠ none := by
  obtain ⟨success, stored⟩ := register_nonzero last mode allocated small subSmall nonzero
  rw [success, ← handlerEntry_iff]
  rw [← isState, inst] at stored
  constructor
  · rintro ⟨-, succeeded⟩
    obtain ⟨p', q', element, isSlot, held, notNull, entry⟩ := succeeded rfl
    cases isSlot
    exact ⟨element, held, notNull, stored.symm.trans entry⟩
  · rintro ⟨element, held, notNull, entry⟩
    exact ⟨fun failed => absurd rfl failed,
      fun _ => ⟨p, q, element, rfl, held, notNull, stored.trans entry⟩⟩

theorem submitted_of_failed (failed : reply.res ≠ teeSuccess) :
    s.submitted mode allocated submission handler reply = { s with task := .wasm } := by
  unfold Rt.submitted
  rw [if_pos failed]

theorem submitted_of_succeeded {handler : BitVec 32} (succeeded : reply.res = teeSuccess) :
    s.submitted mode allocated submission (some handler) reply =
      s.register mode allocated (toUint16 submission.params.p0.a) reply.params.p0.a.toNat
        handler := by
  unfold Rt.submitted
  rw [if_neg (not_not_intro succeeded)]

/-- In every reachable state a call that registers a handler leaves nothing behind when
it fails, and stores the function of its table element when it succeeds, exactly when
it is refused before the registration or its element resolves; a callback call must not
name element 0 besides. -/
theorem leavesNothing_iff {call : CallbackCall} {s : Rt} {ending : Ending}
    (reachable : (runtime mode).Reachable s) (returns : Returns mode mem allocated call s ending) :
    LeavesNothing call s ending ↔ ending.slot = none ∨ call.Resolves mode allocated s.inst := by
  cases returns with
  | rejected wasm rejected =>
    exact ⟨fun _ => .inl rfl,
      fun _ => leavesNothing_of_refused (request_fails _ _ _ _ rejected) nofun rfl⟩
  | refused accepted step run task returned failed =>
    obtain ⟨reached, progress⟩ := (inProgress_of_submit step).run (reachable.next step) run
    refine ⟨fun _ => .inl rfl, fun _ => leavesNothing_of_refused failed ?_ ?_⟩
    · rintro _ p q stage ⟨⟩
      dsimp only
      rw [submitted_of_failed failed]
      obtain ⟨thread, found, fresh⟩ := progress.fresh_of_failed reached task returned failed
      exact (slotsOk reached).not_holds_of_fresh found fresh
    · dsimp only
      rw [submitted_of_failed failed]
      exact progress.globals
  | @answered op handler exported _ started last uninit submission serial slot reply phase args
      accepted step run task returned succeeded =>
      obtain ⟨reached, progress⟩ := (inProgress_of_submit step).run (reachable.next step) run
      obtain ⟨small, q, toNat, subSmall, stage, holds⟩ :=
        progress.slot_of_succeeded reached task returned succeeded
      rw [submitted_of_succeeded succeeded, toNat]
      by_cases zero : handler = 0
      · obtain ⟨code, -⟩ := register_zero last mode allocated small subSmall zero
        have failed : teeErrorGeneric ≠ teeSuccess := by decide
        constructor
        · rintro ⟨left, -⟩
          refine absurd ?_ ((left (code.trans_ne failed)).1 serial
            (toUint16 submission.params.p0.a) q stage rfl)
          dsimp only
          rw [register_sys]
          exact holds
        · rintro (refused | ⟨nonzero, -⟩)
          · cases refused
          · exact absurd zero nonzero
      · refine (leavesNothing_registered_iff (.async op handler exported) last small subSmall zero
          progress.inst rfl).trans ⟨fun found => .inr ⟨zero, found⟩, ?_⟩
        rintro (refused | ⟨-, found⟩)
        · cases refused
        · exact found
  | outOfRange wasm outside =>
    have failed : teeErrorBadParameters ≠ teeSuccess := by decide
    exact ⟨fun _ => .inl rfl, fun _ => leavesNothing_of_refused failed nofun rfl⟩
  | notInUse wasm inRange run refused =>
    have failed : teeErrorAccessDenied ≠ teeSuccess := by decide
    exact ⟨fun _ => .inl rfl, fun _ => leavesNothing_of_refused failed nofun rfl⟩
  | @inUse promise handler _ reply after wasm inRange run succeeded =>
    by_cases zero : handler = 0
    · obtain ⟨code, same⟩ := register_zero (s.withPta after) mode allocated inRange.1 inRange.2 zero
      have failed : teeErrorGeneric ≠ teeSuccess := by decide
      exact ⟨fun _ => .inr (.inl zero),
        fun _ => leavesNothing_of_refused (code.trans_ne failed) nofun same⟩
    · have same : (s.withPta after).inst = s.inst := rfl
      refine (leavesNothing_registered_iff (.promiseSetCallback promise handler)
        (s.withPta after) inRange.1 inRange.2 zero same rfl).trans
        ⟨fun found => .inr (.inr found), ?_⟩
      rintro (refused | isZero | found)
      · cases refused
      · exact absurd isZero zero
      · exact found

end Endings

theorem during_start {action : RtAction} (_ : RtStep mode s action s') :
    Relation.ReflTransGen (Meanwhile mode) s' s' :=
  .refl

theorem during_submitOp {first : Rt} (run : Relation.ReflTransGen (Meanwhile mode) first s)
    (step : RtStep mode s .submitOp s') :
    Relation.ReflTransGen (Meanwhile mode) first s' :=
  run.tail ⟨_, .inl rfl, step⟩

/-- `dht_read_async` on pin 4 from the start of a program, up to the answer of the
io_helper: the request is queued. -/
theorem dht_submitted (handler : BitVec 32) :
    ∃ started last phase args reply,
      RtStep .interp (Rt.init twoHandlers) (.submit (dhtSubmission 4) (some handler)) started ∧
      Relation.ReflTransGen (Meanwhile .interp) started last ∧
      last.task = .submit 0 (dhtSubmission 4) (some handler) (some 0) ∧
      last.sys.submits 0 = some ⟨.pure reply, phase, args⟩ ∧
      reply.res = teeSuccess ∧ reply.params.p0.a.toNat = 0 ∧
      last.globals = Globals.init ∧ last.inst = twoHandlers ∧ Holds last.sys 4 0 0 .queued := by
  have step : RtStep .interp (Rt.init twoHandlers) _ _ :=
    RtStep.submit _ (dhtSubmission 4) (some handler) _ rfl (.submit _ _)
  have allocates : helperStep Pta.zero (.allocateSigno 4) (some 0) _ := rfl
  have allocated := during_submitOp (during_start step)
    (RtStep.submitOp _ 0 _ _ none (.allocateSigno 4) _ .fresh [] (some 0) _ rfl rfl allocates)
  have enqueued := during_submitOp allocated
    (RtStep.submitOp _ 0 _ _ (some 0) (.enqueue 4 (dhtReq 0 0)) _ (.held 4 0) [] teeSuccess _ rfl
      rfl (.inr ⟨rfl, 1, fun _ => 0, by decide, rfl, rfl⟩))
  exact ⟨_, _, _, _, _, step, enqueued, rfl, rfl, rfl, rfl, rfl, rfl, _, .head _, rfl, rfl⟩

/-- A callback for a handler the table holds. -/
theorem dht_callback_leaves_nothing :
    ∃ ending, Returns .interp onePage true (.async (.dhtRead 4 11) 1 rfl) (Rt.init twoHandlers)
        ending ∧ LeavesNothing (.async (.dhtRead 4 11) 1 rfl) (Rt.init twoHandlers) ending := by
  obtain ⟨started, last, phase, args, reply, step, run, task, returned, succeeded, -⟩ :=
    dht_submitted 1
  have request : (Operation.dhtRead 4 11).request onePage null = .ok (dhtSubmission 4) := rfl
  have exported : (Operation.dhtRead 4 11).exports (.async 1) = true := rfl
  have returns : Returns .interp onePage true (.async _ 1 exported) _ _ :=
    .answered request step run task returned succeeded
  have start : (runtime .interp).Reachable (Rt.init twoHandlers) := .start ⟨twoHandlers, rfl⟩
  exact ⟨_, returns, (leavesNothing_iff start returns).mpr (.inr ⟨by decide, by decide⟩)⟩

/-- With element 0 the call fails and its request stays queued; with an element the
table does not have it succeeds and stores a null function. -/
theorem dht_callback_leaves_request :
    (∃ ending, Returns .interp onePage true (.async (.dhtRead 4 11) 0 rfl) (Rt.init twoHandlers)
        ending ∧ ending.code = teeErrorGeneric ∧ ending.request = some 0 ∧
      Holds ending.state.sys 4 0 0 .queued) ∧
    ∃ ending, Returns .interp onePage true (.async (.dhtRead 4 11) 7 rfl) (Rt.init twoHandlers)
        ending ∧ ending.code = teeSuccess ∧ twoHandlers.elems[7]? = none ∧
      ending.state.globals.sigtable 4 0 = ⟨none, 7, 0⟩ := by
  have exported (handler : BitVec 32) :
      (Operation.dhtRead 4 11).exports (.async handler) = true := rfl
  have request : (Operation.dhtRead 4 11).request onePage null = .ok (dhtSubmission 4) := rfl
  have periphNo : toUint16 (dhtSubmission 4).params.p0.a = 4 := rfl
  constructor
  · obtain ⟨started, last, phase, args, reply, step, run, task, returned, succeeded, slot, -, -,
      queued⟩ := dht_submitted 0
    have returns : Returns .interp onePage true (.async _ 0 (exported 0)) _ _ :=
      .answered request step run task returned succeeded
    refine ⟨_, returns, ?_, rfl, ?_⟩
    · rw [slot]
      exact (register_zero (p := 4) (q := 0) last .interp true (by decide) (by decide) rfl).1
    · dsimp only
      rw [submitted_of_succeeded succeeded, register_sys]
      exact queued
  · obtain ⟨started, last, phase, args, reply, step, run, task, returned, succeeded, slot, -, inst,
      -⟩ := dht_submitted 7
    have returns : Returns .interp onePage true (.async _ 7 (exported 7)) _ _ :=
      .answered request step run task returned succeeded
    obtain ⟨code, stored⟩ := register_nonzero (p := 4) (q := 0) last .interp true
      (by decide) (by decide) (show (7 : BitVec 32) ≠ 0 by decide)
    refine ⟨_, returns, ?_, rfl, ?_⟩
    · rw [slot]
      exact code
    · dsimp only
      rw [submitted_of_succeeded succeeded, periphNo, slot, stored, inst]
      rfl

end TrustWasm.Native
