import TrustWasm.Runtime.Registration

/-!
# One run after another

A session runs any number of Wasm programs one after the other, each in its own mode.
Each run has a module instance of its own, which is torn down at its end together with
the heap its function objects live in.  The signal table, the masks and the io_helper are
left as they are.  A run is kept apart from those before when they have left no
peripheral pending and no slot in use and, for AOT code, no pointer in the table.
-/

namespace TrustWasm.Runtime

open TrustWasm.Lib TrustWasm.Lib.Mask TrustWasm.Tee TrustWasm.IoHelper

/-- The start of the next run, in a new instance.  The globals and the io_helper stay;
ghost data are about the new run. -/
def Rt.rerun (s : Rt) (inst : Instance) : Rt :=
  { s with inst := inst, task := .wasm, owners := fun _ _ => none, dispatched := [] }

/-- The run of a program that follows a run that ended in `ended`. -/
def nextRun (mode : Mode) (ended : Rt) (inst : Instance) : System Rt RtAction where
  initial s := s = ended.rerun inst
  step := RtStep mode

/-- What the end of a run must have left for the next one. -/
structure Settled (mode : Mode) (s : Rt) : Prop where
  noPending : s.globals.sigpending = 0
  outside : s.globals.inHandler = false
  noRequest : ∀ p q, ¬s.InUse p q
  noPointer : mode = .aot → ∀ p q, (s.globals.sigtable p q).function = none

/-! ## Sessions -/

/-- A session: its current run and the mode of that. -/
structure Session where
  mode : Mode
  rt : Rt

inductive SessionAction where
  | run (action : RtAction)
  | rerun (mode : Mode) (inst : Instance)

/-- A step of the current run, or the start of the next one.  A run may end anywhere in Wasm
code, in a handler too. -/
inductive SessionStep : Session → SessionAction → Session → Prop where
  | run (s : Session) (action : RtAction) (rt : Rt) :
      RtStep s.mode s.rt action rt → SessionStep s (.run action) { s with rt := rt }
  | rerun (s : Session) (mode : Mode) (inst : Instance) :
      s.rt.task = .wasm → SessionStep s (.rerun mode inst) ⟨mode, s.rt.rerun inst⟩

def session : System Session SessionAction where
  initial s := ∃ mode inst, s = ⟨mode, Rt.init inst⟩
  step := SessionStep

/-- A session starts with a run of the runtime. -/
theorem session_of_runtime {mode : Mode} {s : Rt} (reachable : (runtime mode).Reachable s) :
    session.Reachable ⟨mode, s⟩ := by
  induction reachable with
  | start initial =>
    obtain ⟨inst, rfl⟩ := initial
    exact .start ⟨mode, inst, rfl⟩
  | next _ step ih => exact ih.next (.run _ _ _ step)

/-- The io_helper runs on through the whole session. -/
theorem sys_reachable_of_session {s : Session} (reachable : session.Reachable s) :
    ((ioHelper helper).restrict WholeCommands).Reachable s.rt.sys := by
  refine reachable.invariant
    (P := fun s => ((ioHelper helper).restrict WholeCommands).Reachable s.rt.sys) ?_ ?_
  · rintro _ ⟨mode, inst, rfl⟩
    exact .start rfl
  · rintro state action after - ih step
    cases step with
    | run action rt step => exact sys_reachable_of_next ih step
    | rerun mode inst wasm => exact ih

/-! ## Pointers in the table -/

/-- The function pointers in the signal table are those of the running instance. -/
def PointersOwn (s : Rt) : Prop :=
  ∀ p q function, (s.globals.sigtable p q).function = some function →
    function.instanceNo = s.inst.instanceNo

namespace PointersOwn

variable {s : Rt} {mode : Mode}

theorem register (own : PointersOwn s) (allocated : Bool) (p q : Nat) (handler : BitVec 32) :
    PointersOwn (s.register mode allocated p q handler) := by
  unfold Rt.register
  split
  · exact own
  · rename_i globals registered
    obtain ⟨-, rfl⟩ := Globals.registerHandler_eq_some registered
    intro p' q' function stored
    dsimp only at stored ⊢
    rw [Globals.setSignalPending_sigtable] at stored
    change (setSlot s.globals.sigtable p q _ p' q').function = some function at stored
    rw [setSlot_apply] at stored
    split at stored
    · exact (Instance.getIndirectFunction_eq_some stored).2.2
    · exact own p' q' function stored

theorem submitted (own : PointersOwn s) (allocated : Bool) (submission : Submission)
    (handler : Option (BitVec 32)) (reply : CommandResult) :
    PointersOwn (s.submitted mode allocated submission handler reply) := by
  unfold Rt.submitted
  split
  · exact own
  · split
    · exact own
    · exact own.register allocated _ _ _

theorem scanned (own : PointersOwn s) (dispatches : Bool) (tmpSigpending : BitVec 64)
    (answer : PollResult) :
    PointersOwn (s.scanned mode dispatches (scanRound s.globals tmpSigpending answer)) := by
  unfold scanRound
  cases answer with
  | success subSigno =>
    cases dispatches with
    | true =>
      obtain ⟨-, -, inst, table⟩ := dispatch_frame s mode (ffs tmpSigpending - 1) subSigno
      show PointersOwn (s.dispatch mode (ffs tmpSigpending - 1) subSigno)
      unfold PointersOwn
      rw [inst, table]
      exact own
    | false => exact own
  | noData | communication | busy | generic => exact own

theorem step {s' : Rt} {action : RtAction} (own : PointersOwn s)
    (step : RtStep mode s action s') : PointersOwn s' := by
  cases step with
  | submitDone serial submission handler slot reply phase args allocated task returned =>
    exact own.submitted allocated submission handler reply
  | setCallback p q handler allocated reply after wasm inRange run =>
    have same : PointersOwn (s.withPta after) := own
    split
    · exact same
    · exact same.register allocated p q handler
  | poll tmpSigpending dispatches reply after task run =>
    have same : PointersOwn (s.withPta after) := own
    exact same.scanned dispatches tmpSigpending _
  | handlerDone wasm inHandler =>
    unfold Rt.handlerDone
    cases mode with
    | interp => exact own
    | aot => exact own
  | worker | submit | submitOp | pollSubsignal | collect | checkpoint | changeTable => exact own

end PointersOwn

/-! ## Isolation -/

/-- The start of the run that comes next in a session. -/
theorem nextRun_starts {before : Session} (_ : session.Reachable before) (mode : Mode)
    (inst : Instance) (allowed : Rt → RtAction → Prop) :
    ((nextRun mode before.rt inst).restrict allowed).Reachable (before.rt.rerun inst) :=
  .start rfl

section NextRun

variable {mode mode' : Mode} {ended : Rt} {inst : Instance}

theorem tracked_of_settled (settled : Settled mode ended) : Tracked (ended.rerun inst) where
  submitting _ _ _ _ task := by cases task
  scanning _ _ task := by cases task
  parked inHandler := by
    have outside := settled.outside
    rw [show ended.globals.inHandler = true from inHandler] at outside
    cases outside
  inUse _ _ owned := absurd rfl owned
  pending _ _ owned := absurd rfl owned
  notNested _ member := by cases member

theorem registered_of_settled (settled : Settled mode ended) : Registered (ended.rerun inst) where
  quiet := trivial
  covered p q _ inUse := absurd inUse (settled.noRequest p q)
  resolved _ _ _ owned := by cases owned
  right _ member := by cases member

/-- What holds throughout the next run. -/
structure Apart (mode : Mode) (s : Rt) : Prop where
  sys : ((ioHelper helper).restrict WholeCommands).Reachable s.sys
  tracked : Tracked s
  registered : Registered s
  pointers : mode = .aot → PointersOwn s

theorem apart_of_settled (sys : ((ioHelper helper).restrict WholeCommands).Reachable ended.sys)
    (settled : Settled mode ended) : Apart mode (ended.rerun inst) where
  sys := sys
  tracked := tracked_of_settled settled
  registered := registered_of_settled settled
  pointers := by
    intro isAot p q function stored
    have cleared := settled.noPointer isAot p q
    rw [show (ended.globals.sigtable p q).function = some function from stored] at cleared
    cases cleared

/-- After a session that has left nothing, in every run of a program that keeps requests
with and without handlers apart, every handler a checkpoint has called was registered
by this run for the request in the slot, and in AOT code every function pointer in the
signal table belongs to the instance of this run. -/
theorem nextRun_isolated {before : Session} (reached : session.Reachable before)
    (settled : Settled mode before.rt) {s : Rt}
    (reachable : ((nextRun mode before.rt inst).restrict (KeepsKindsApart mode)).Reachable s) :
    (∀ call ∈ s.dispatched, call.IsRight) ∧ (mode = .aot → PointersOwn s) := by
  suffices apart : Apart mode s from ⟨apart.registered.right, apart.pointers⟩
  refine reachable.invariant ?_ ?_
  · rintro _ rfl
    exact apart_of_settled (sys_reachable_of_session reached) settled
  · rintro state action after - apart ⟨kindsApart, step⟩
    have ok : SlotsOk state.sys :=
      slotsOk_of_reachable (exclusive_of_wholeCommands (fun _ _ _ _ => id) apart.sys)
    exact ⟨sys_reachable_of_next apart.sys step, apart.tracked.step ok step,
      apart.registered.step apart.tracked ok kindsApart step,
      fun isAot => (apart.pointers isAot).step step⟩

end NextRun

/-- The instance of a second run. -/
def secondInstance : Instance where
  instanceNo := 1
  elems := [nullRef, 4]
  functionCount := 5

/-- The first run's callback on pin 4 is served, called and collected, and a checkpoint then
finds the pin without requests.  The second run makes a callback call on the same pin, and a
checkpoint calls its function 4. -/
theorem nextRun_isolated_after_callback :
    ∃ before, session.Reachable before ∧ Settled .interp before.rt ∧
      before.rt.dispatched = [⟨4, 0, 2, some ⟨1, some 2⟩, false⟩] ∧
      ∃ s, ((nextRun .interp before.rt secondInstance).restrict
          (KeepsKindsApart .interp)).Reachable s ∧
        s.dispatched = [⟨4, 0, 4, some ⟨1, some 4⟩, false⟩] ∧
        ∀ call ∈ s.dispatched, call.IsRight := by
  have booted : (runtime .interp).Reachable (Rt.init twoHandlers) := .start ⟨twoHandlers, rfl⟩
  have submitted := booted.next (RtStep.submit _ (dhtSubmission 4) (some 1) _ rfl (.submit _ _))
  have queued := after_internals submitted (internals_queue rfl rfl rfl rfl
    (.inr ⟨rfl, 1, fun _ => 0, by decide, rfl, rfl⟩)) fun _ => id
  have registered := queued.next (RtStep.submitDone _ 0 _ _ (some 0) _ _ _ true rfl rfl)
  have ready := after_internals registered (internals_refuse (p := 4) rfl rfl) fun _ => id
  have idle := ready.next
    (RtStep.worker _ (.loopOp 4) _ trivial (.loopDone _ 4 (dhtReq 0 0) _ _ rfl))
  have checkpoint := idle.next (RtStep.checkpoint _ rfl)
  have handling := checkpoint.next (RtStep.poll _ _ true _ _ rfl ⟨some 0, _, rfl, rfl, rfl⟩)
  have collected := handling.next
    (RtStep.collect _ getDataTypes (slotParams 4 0) _ _ rfl (by decide)
      ⟨true, _, ⟨rfl, rfl⟩, _, _, ⟨rfl, rfl⟩, _, _, ⟨rfl, rfl⟩, (), _, rfl, rfl, rfl⟩)
  have handled := collected.next (RtStep.handlerDone _ rfl rfl)
  have checkpoint := handled.next (RtStep.checkpoint _ rfl)
  have ended := checkpoint.next
    (RtStep.poll _ _ true _ _ rfl ⟨none, _, rfl, _, _, ⟨rfl, rfl⟩, rfl, rfl⟩)
  have reached := session_of_runtime ended
  refine ⟨_, reached, (fun settled : Settled .interp _ => ⟨settled, rfl, ?next⟩)
    ⟨rfl, rfl, ?unused, nofun⟩⟩
  case unused =>
    intro p q
    show ¬(Function.update (Function.update (fun _ => (0 : BitVec 64)) 4 1) 4 0 p).getLsbD q = true
    by_cases here : p = 4 <;> simp [here]
  have started := nextRun_starts reached .interp secondInstance (KeepsKindsApart .interp)
  have submitted := started.next_restrict
    (RtStep.submit _ (dhtSubmission 4) (some 1) _ rfl (.submit _ _))
    (show ∀ q, _ from fun q inUse => absurd inUse (settled.noRequest 4 q))
  have queued := after_internals submitted (internals_queue rfl rfl rfl rfl
    (.inr ⟨rfl, 1, fun _ => 0, by decide, rfl, rfl⟩))
    fun kind step => ⟨keepsKindsApart_of_internal kind, step⟩
  have registered := queued.next_restrict
    (RtStep.submitDone _ 1 _ _ (some 0) _ _ _ true rfl rfl)
    (fun _ _ _ _ task _ => by cases task; rfl)
  have ready := after_internals registered (internals_refuse (p := 4) rfl rfl)
    fun kind step => ⟨keepsKindsApart_of_internal kind, step⟩
  have checkpoint := ready.next_restrict (RtStep.checkpoint _ rfl) trivial
  have handling := checkpoint.next_restrict
    (RtStep.poll _ _ true _ _ rfl ⟨some 0, _, rfl, rfl, rfl⟩) trivial
  exact ⟨_, handling, rfl, (nextRun_isolated reached settled handling).1⟩

/-- A run ends with a request on pin 4 outstanding.  When the request gets ready during
the next run, a checkpoint there calls function 2, which the first run has registered.
When the next run is AOT code and registers a handler for the slot, the pointer it frees
is one of the first run. -/
theorem nextRun_calls_old_handler :
    (∃ ended s, (runtime .interp).Reachable ended ∧ ended.task = .wasm ∧
      (nextRun .interp ended secondInstance).Reachable s ∧
      s.dispatched = [⟨4, 0, 2, none, false⟩]) ∧
    ∃ ended s, (runtime .aot).Reachable ended ∧ ended.task = .wasm ∧
      RtStep .aot (ended.rerun secondInstance) (.setCallback 4 0 1 true) s ∧
      ((ended.rerun secondInstance).globals.sigtable 4 0).function = some ⟨0, 2⟩ ∧
      (s.globals.sigtable 4 0).function = some ⟨1, 4⟩ := by
  constructor
  · have booted : (runtime .interp).Reachable (Rt.init twoHandlers) := .start ⟨twoHandlers, rfl⟩
    have submitted := booted.next (RtStep.submit _ (dhtSubmission 4) (some 1) _ rfl (.submit _ _))
    have queued := after_internals submitted (internals_queue rfl rfl rfl rfl
      (.inr ⟨rfl, 1, fun _ => 0, by decide, rfl, rfl⟩)) fun _ => id
    have ended := queued.next (RtStep.submitDone _ 0 _ _ (some 0) _ _ _ true rfl rfl)
    have started := nextRun_starts (session_of_runtime ended) .interp secondInstance fun _ _ => True
    have ready := after_internals started (internals_refuse (p := 4) rfl rfl)
      fun _ step => ⟨trivial, step⟩
    have checkpoint := ready.of_restrict.next (RtStep.checkpoint _ rfl)
    have handling := checkpoint.next (RtStep.poll _ _ true _ _ rfl ⟨some 0, _, rfl, rfl, rfl⟩)
    exact ⟨_, _, ended, rfl, handling, rfl⟩
  · have booted : (runtime .aot).Reachable (Rt.init twoHandlers) := .start ⟨twoHandlers, rfl⟩
    have submitted := booted.next (RtStep.submit _ (dhtSubmission 4) (some 1) _ rfl (.submit _ _))
    have queued := after_internals submitted (internals_queue rfl rfl rfl rfl
      (.inr ⟨rfl, 1, fun _ => 0, by decide, rfl, rfl⟩)) fun _ => id
    have ended := queued.next (RtStep.submitDone _ 0 _ _ (some 0) _ _ _ true rfl rfl)
    exact ⟨_, _, ended, rfl, RtStep.setCallback _ 4 0 1 true _ _ rfl (by decide)
      ⟨true, _, ⟨rfl, rfl⟩, 0, _, ⟨rfl, rfl⟩, (), _, rfl, false, _, ⟨rfl, rfl⟩, rfl, rfl⟩, rfl, rfl⟩

end TrustWasm.Runtime
