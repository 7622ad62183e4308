import TrustWasm.Runtime.Pending

/-!
# The handler of a request

A checkpoint polls peripherals, not slots.  It finds the right handler as long as
every slot in use of a polled peripheral has a handler registered for its request.
The condition on a program is that it keeps requests without a handler away from
the peripherals that are polled, and that the handlers it names exist.
-/

namespace TrustWasm.Runtime

open TrustWasm.Lib TrustWasm.Lib.Mask TrustWasm.Tee TrustWasm.IoHelper

/-- A slot holds a request. -/
def Rt.InUse (s : Rt) (p q : Nat) : Prop :=
  (s.sys.pta.sigusing p).getLsbD q = true

/-- A call that goes on to register a handler: element 0 is never registered. -/
def Registers : Option (BitVec 32) → Prop
  | none => False
  | some handler => handler ≠ 0

instance : DecidablePred Registers
  | none => inferInstanceAs (Decidable False)
  | some handler => inferInstanceAs (Decidable (handler ≠ 0))

/-- The peripheral of a submission. -/
def periphOf (submission : Submission) : Nat :=
  toUint16 submission.params.p0.a

/-- The condition on the native calls of a program.  A request without a handler
is submitted only on a peripheral that is not pending; a handler is registered only
when the other requests of its peripheral have handlers, and only when its element
holds a function. -/
def KeepsKindsApart (mode : Mode) (s : Rt) : RtAction → Prop
  | .submit submission handler =>
    if Registers handler then
      ∀ q, s.InUse (periphOf submission) q → s.owners (periphOf submission) q ≠ none
    else s.globals.active.getLsbD (periphOf submission) = false
  | .submitDone allocated =>
    ∀ serial submission handler slot,
      s.task = .submit serial submission (some handler) slot → handler ≠ 0 →
      (s.inst.getIndirectFunction mode allocated handler).isSome
  | .setCallback p q handler allocated =>
    handler ≠ 0 → (∀ q', q' ≠ q → s.InUse p q' → s.owners p q' ≠ none) ∧
      (s.inst.getIndirectFunction mode allocated handler).isSome
  | _ => True

/-- The handler called is the one registered for the request in the slot. -/
def Dispatch.IsRight (call : Dispatch) : Prop :=
  ∃ registration function, call.owner = some registration ∧
    registration.target = some function ∧ call.called = function

/-! ## The invariant -/

/-- The peripherals whose slots the task of the runtime relies on. -/
def Task.Watches : Task → Nat → Prop
  | .wasm, _ | .fault, _ => False
  | .scan tmpSigpending _, p => tmpSigpending.getLsbD p = true
  | .submit _ submission handler _, p => Registers handler ∧ periphOf submission = p

/-- The slot of a callback call that has not registered its handler yet. -/
def Task.Excuses : Task → Nat → Nat → Prop
  | .submit _ submission handler slot, p, q =>
    Registers handler ∧ periphOf submission = p ∧ slot = some q
  | _, _, _ => False

/-- A call without a handler is in progress only on a peripheral that is not
pending. -/
def Task.Quiet (task : Task) (active : BitVec 64) : Prop :=
  match task with
  | .submit _ submission handler _ =>
    ¬Registers handler → active.getLsbD (periphOf submission) = false
  | _ => True

/-- Every request of a pending peripheral has a handler, and the signal table
holds the handlers that were registered. -/
structure Registered (s : Rt) : Prop where
  quiet : s.task.Quiet s.globals.active
  covered : ∀ p q, s.globals.active.getLsbD p = true ∨ s.task.Watches p → s.InUse p q →
    s.owners p q ≠ none ∨ s.task.Excuses p q
  resolved : ∀ p q registration, s.owners p q = some registration → ∃ function,
    registration.target = some function.funcIdx ∧
    (s.globals.sigtable p q).function = some function ∧
    (s.globals.sigtable p q).funcIdx = function.funcIdx
  right : ∀ call ∈ s.dispatched, call.IsRight

namespace Registered

variable {s : Rt} {mode : Mode}

theorem init (inst : Instance) : Registered (Rt.init inst) where
  quiet := trivial
  covered p q _ inUse := by
    simp [Rt.InUse, Rt.init, Sys.init, Pta.zero] at inUse
  resolved _ _ _ owned := by cases owned
  right _ member := by cases member

/-- A step of the io_helper that takes no slot into use. -/
theorem frame {sys : Sys} (registered : Registered s)
    (noNew : sys.pta.sigusing = s.sys.pta.sigusing) : Registered { s with sys := sys } := by
  refine { registered with covered := ?_ }
  intro p q watched inUse
  refine registered.covered p q watched ?_
  unfold Rt.InUse at inUse ⊢
  rwa [← noNew]

theorem resume (registered : Registered s) (noExcuse : ∀ p q, ¬s.task.Excuses p q) :
    Registered { s with task := .wasm } := by
  refine { registered with quiet := trivial, covered := ?_ }
  rintro p q (pending | impossible) inUse
  · exact .inl ((registered.covered p q (.inl pending) inUse).resolve_right (noExcuse p q))
  · exact impossible.elim

/-- A registration covers the slot it is for when the other requests of the
peripheral have handlers already. -/
theorem register {p q : Nat} {handler : BitVec 32} {allocated : Bool}
    (registered : Registered s) (small : p < 64) (subSmall : q < 64)
    (resolves : handler ≠ 0 → (s.inst.getIndirectFunction mode allocated handler).isSome)
    (others : handler ≠ 0 → ∀ q', q' ≠ q → s.InUse p q' → s.owners p q' ≠ none)
    (excused : ∀ p' q', s.task.Excuses p' q' → handler ≠ 0 ∧ p' = p ∧ q' = q) :
    Registered (s.register mode allocated p q handler) := by
  unfold Rt.register
  split
  · rename_i failed
    have zero := (Globals.registerHandler_eq_none_iff small subSmall).mp failed
    exact registered.resume fun p' q' excuse => (excused p' q' excuse).1 zero
  · rename_i globals success
    obtain ⟨nonzero, rfl⟩ := Globals.registerHandler_eq_some success
    obtain ⟨function, target⟩ := Option.isSome_iff_exists.mp (resolves nonzero)
    refine { registered with quiet := trivial, covered := ?_, resolved := ?_ }
    · rintro p' q' (pending | impossible) inUse
      · left
        by_cases here : p' = p ∧ q' = q
        · obtain ⟨rfl, rfl⟩ := here
          simp [setSlot_self]
        · dsimp only
          rw [setSlot_of_ne _ _ here]
          rw [Globals.setSignalPending_active, getLsbD_or_bit small, Bool.or_eq_true] at pending
          by_cases samePeriph : p' = p
          · subst samePeriph
            exact others nonzero q' (fun same => here ⟨rfl, same⟩) inUse
          · have pending := pending.resolve_right (by simp [samePeriph])
            refine (registered.covered p' q' (.inl pending) inUse).resolve_right fun excuse => ?_
            exact here (excused p' q' excuse).2
      · exact impossible.elim
    · intro p' q' registration owned
      rw [Globals.setSignalPending_sigtable]
      by_cases here : p' = p ∧ q' = q
      · obtain ⟨rfl, rfl⟩ := here
        simp only [setSlot_self, target, Option.map_some] at owned ⊢
        cases owned
        exact ⟨function, rfl, rfl, rfl⟩
      · dsimp only at owned ⊢
        rw [setSlot_of_ne _ _ here] at owned ⊢
        exact registered.resolved p' q' registration owned

theorem submitOp {serial : Nat} {submission : Submission} {handler : Option (BitVec 32)}
    {slot : Option Nat} {op : HelperOp} {next : Helper.Reply op → Program Helper CommandResult}
    {phase : SubmitPhase} {args newArgs : List Ptr} {reply : Helper.Reply op} {after : Pta}
    {log : List Event} (registered : Registered s) (tracked : Tracked s) (threads : Threads s.sys)
    (task : s.task = .submit serial submission handler slot)
    (found : s.sys.submits serial = some ⟨.call op next, phase, args⟩)
    (step : helperStep s.sys.pta op reply after) :
    Registered { s with
      sys := { s.sys with
        pta := after
        submits := Function.update s.sys.submits serial
          (some ⟨next reply, phase.after op reply, newArgs⟩)
        log := log }
      task := .submit serial submission handler (slotAfter slot op reply) } := by
  have allowed : submitGuard serial phase op := (threads.submits serial _ found).1
  obtain ⟨thread, isThread, obeys, -⟩ := tracked.submitting _ _ _ _ task
  rw [found] at isThread
  cases isThread
  have own := obeys.1
  have quiet := registered.quiet
  have covered := registered.covered
  rw [task] at quiet covered
  refine { registered with quiet := quiet, covered := ?_ }
  intro p q watched inUse
  rcases inUse_of_submitOp own allowed step inUse with used | ⟨here, isSlot⟩
  · refine (covered p q watched used).imp id ?_
    rintro ⟨registers, here, isSlot⟩
    exact ⟨registers, here, slotAfter_of_some own isSlot⟩
  · -- a peripheral that is watched has a new slot only from a callback call
    refine .inr ⟨?_, here.symm, isSlot⟩
    rcases watched with pending | ⟨registers, -⟩
    · by_contra noHandler
      have calm := quiet noHandler
      rw [show periphOf submission = p from here.symm, pending] at calm
      cases calm
    · exact registers

/-- A callback call that has returned registers the handler of its slot, and only
that slot was without one. -/
theorem submitted {serial : Nat} {submission : Submission} {handler : Option (BitVec 32)}
    {slot : Option Nat} {reply : CommandResult} {phase : SubmitPhase} {args : List Ptr}
    {allocated : Bool} (registered : Registered s) (tracked : Tracked s)
    (task : s.task = .submit serial submission handler slot)
    (returned : s.sys.submits serial = some ⟨.pure reply, phase, args⟩)
    (resolves : ∀ element, handler = some element → element ≠ 0 →
      (s.inst.getIndirectFunction mode allocated element).isSome) :
    Registered (s.submitted mode allocated submission handler reply) := by
  obtain ⟨thread, isThread, obeys, held⟩ := tracked.submitting _ _ _ _ task
  rw [returned] at isThread
  cases isThread
  have excuse_iff (p q : Nat) : s.task.Excuses p q ↔
      Registers handler ∧ periphOf submission = p ∧ slot = some q := by
    rw [task]
    rfl
  unfold Rt.submitted
  split
  · rename_i failed
    refine registered.resume fun p q excuse => ?_
    obtain ⟨-, -, isSlot⟩ := (excuse_iff p q).mp excuse
    rw [obeys.failed failed] at isSlot
    cases isSlot
  · rename_i succeeded
    obtain ⟨small, q, isSlot, answer⟩ := obeys.succeeded (not_not.mp succeeded)
    have range : q < 64 := BitVec.lt_of_getLsbD (held q isSlot)
    have toNat : reply.params.p0.a.toNat = q := by
      rw [answer, BitVec.toNat_ofNat]
      omega
    cases handler with
    | none => exact registered.resume fun p' q' excuse => ((excuse_iff p' q').mp excuse).1
    | some element =>
      dsimp only
      rw [toNat]
      refine registered.register small range (resolves element rfl) ?_ ?_
      · intro nonzero q' other inUse
        have watched : s.task.Watches (periphOf submission) := by
          rw [task]
          exact ⟨nonzero, rfl⟩
        refine (registered.covered _ q' (.inr watched) inUse).resolve_right fun excuse => ?_
        obtain ⟨-, -, isSlot'⟩ := (excuse_iff _ _).mp excuse
        rw [isSlot] at isSlot'
        exact other (Option.some.inj isSlot').symm
      · intro p' q' excuse
        obtain ⟨nonzero, here, isSlot'⟩ := (excuse_iff _ _).mp excuse
        rw [isSlot] at isSlot'
        exact ⟨nonzero, here.symm, (Option.some.inj isSlot').symm⟩

/-- The mask a scan starts with holds pending peripherals. -/
theorem scan (registered : Registered s) (tracked : Tracked s)
    (noExcuse : ∀ p q, ¬s.task.Excuses p q) (dispatches : Bool) :
    Registered (s.scan dispatches) := by
  have resumed := registered.resume noExcuse
  unfold Rt.scan
  split
  · exact resumed
  · rename_i nonempty
    refine { resumed with quiet := trivial, covered := ?_ }
    rintro p q (pending | inMask) inUse
    · exact .inl ((resumed.covered p q (.inl pending) inUse).resolve_right id)
    · refine .inl ((resumed.covered p q (.inl ?_) inUse).resolve_right id)
      have outside : ¬s.globals.inHandler = true := fun inside => nonempty (tracked.parked inside)
      show s.globals.active.getLsbD p = true
      rw [Globals.active, if_neg outside]
      exact inMask

/-- A watched slot in use has a handler, the one that was registered for it. -/
theorem handlerOf {p q : Nat} (registered : Registered s) (noExcuse : ∀ p q, ¬s.task.Excuses p q)
    (watched : s.globals.active.getLsbD p = true ∨ s.task.Watches p) (inUse : s.InUse p q)
    (mode : Mode) :
    ∃ registration function, s.owners p q = some registration ∧
      registration.target = some function ∧ s.globals.handlerOf mode p q = some function := by
  have owned := (registered.covered p q watched inUse).resolve_right (noExcuse p q)
  obtain ⟨registration, owner⟩ := Option.ne_none_iff_exists'.mp owned
  obtain ⟨function, target, held, index⟩ := registered.resolved p q registration owner
  refine ⟨registration, function.funcIdx, owner, target, ?_⟩
  cases mode <;> simp [Globals.handlerOf, held, index]

/-- A checkpoint calls the handler of a watched peripheral's slot. -/
theorem dispatch {p q : Nat} (registered : Registered s) (noExcuse : ∀ p q, ¬s.task.Excuses p q)
    (watched : s.task.Watches p) (inUse : s.InUse p q) (outside : s.globals.inHandler = false) :
    Registered (s.dispatch mode p q) := by
  have resumed := registered.resume noExcuse
  have active : s.globals.tempUnsetAllIoSignalPending.active = s.globals.active := by
    simp [Globals.active, Globals.tempUnsetAllIoSignalPending, outside]
  obtain ⟨registration, function, owner, target, called⟩ :=
    registered.handlerOf noExcuse (.inr watched) inUse mode
  unfold Rt.dispatch
  rw [called]
  refine { resumed with covered := ?_, right := ?_ }
  · rintro p' q' (pending | impossible) inUse'
    · refine resumed.covered p' q' (.inl ?_) inUse'
      rwa [← active]
    · exact impossible.elim
  · intro call member
    rcases List.mem_append.mp member with member | member
    · exact registered.right call member
    · rw [List.mem_singleton.mp member]
      exact ⟨registration, function, owner, target, rfl⟩

/-- A round of the loop goes on with peripherals of its mask. -/
theorem scanned {tmpSigpending : BitVec 64} {dispatches : Bool} {answer : PollResult}
    (registered : Registered s) (task : s.task = .scan tmpSigpending dispatches)
    (outside : s.globals.inHandler = false) (nonempty : tmpSigpending ≠ 0)
    (inUse : ∀ q, answer = .success q → s.InUse (ffs tmpSigpending - 1) q) :
    Registered (s.scanned mode dispatches (scanRound s.globals tmpSigpending answer)) := by
  have noExcuse (p q : Nat) : ¬s.task.Excuses p q := by
    rw [task]
    exact id
  obtain ⟨p, found, -, isLowest⟩ := lowest_of_ne_zero nonempty
  have resumed := registered.resume noExcuse
  have polling (g : Globals) (sameTable : g.sigtable = s.globals.sigtable)
      (fewer : ∀ p, g.active.getLsbD p = true → s.globals.active.getLsbD p = true)
      (tmp : BitVec 64) (part : ∀ p, tmp.getLsbD p = true → tmpSigpending.getLsbD p = true) :
      Registered { s with
        globals := g, task := if tmp = 0 then .wasm else .scan tmp dispatches } := by
    refine { resumed with quiet := ?_, covered := ?_, resolved := ?_ }
    · dsimp only
      split <;> exact trivial
    · intro p' q' watched used
      refine .inl ((registered.covered p' q' ?_ used).resolve_right (noExcuse p' q'))
      rcases watched with pending | watched
      · exact .inl (fewer p' pending)
      · refine .inr ?_
        rw [task]
        dsimp only at watched
        split at watched
        · exact watched.elim
        · exact part p' watched
    · dsimp only
      rw [sameTable]
      exact registered.resolved
  have part (p' : Nat) :
      (tmpSigpending &&& ~~~low 64 (ffs tmpSigpending)).getLsbD p' = true →
        tmpSigpending.getLsbD p' = true := by
    rw [BitVec.getLsbD_and, Bool.and_eq_true]
    exact And.left
  cases answer with
  | success q =>
    simp only [scanRound, Rt.scanned]
    split
    · refine registered.dispatch noExcuse ?_ (inUse q rfl) outside
      rw [task, isLowest]
      exact ((lowest?_eq_some_iff _ p).mp found).2.1
    · exact resumed
  | communication | busy | generic => exact polling _ rfl (fun _ => id) _ part
  | noData =>
    refine polling { s.globals with
      sigpending := s.globals.sigpending &&& ~~~bit 64 (ffs tmpSigpending - 1) }
      rfl (fun p' => ?_) _ part
    simp only [Globals.active, outside, Bool.false_eq_true, if_false, BitVec.getLsbD_and,
      Bool.and_eq_true]
    exact And.left

theorem handlerDone (registered : Registered s) (tracked : Tracked s)
    (inHandler : s.globals.inHandler = true) (wasm : s.task = .wasm) :
    Registered (s.handlerDone mode) := by
  have active : s.globals.tempRecoverAllIoSignalPending.active = s.globals.active := by
    simp [Globals.active, Globals.tempRecoverAllIoSignalPending, inHandler]
  have recovered :
      Registered { s with globals := s.globals.tempRecoverAllIoSignalPending } := by
    refine { registered with quiet := ?_, covered := ?_ }
    · rw [active]
      exact registered.quiet
    · rw [active]
      exact registered.covered
  cases mode with
  | interp => exact recovered
  | aot =>
    have returned : Tracked (s.handlerDone .interp) := tracked.handlerDone inHandler wasm
    refine recovered.scan returned ?_ false
    intro p q
    rw [show s.task = .wasm from wasm]
    exact id

theorem collect {paramTypes : BitVec 32} {params : Params} {reply : CommandResult} {after : Pta}
    {ready : Nat → Nat → Option Nat} {log : List Event} (registered : Registered s)
    (inRange : InRange (slotOf params))
    (run : (getData paramTypes params).Exec helper s.sys.pta reply after) :
    Registered { s with
      sys := { s.sys with pta := after, ready := ready, log := log }
      owners := ownersAfter s.owners after params } := by
  refine { registered with covered := ?_, resolved := ?_ }
  · intro p q watched inUse
    have used := (sigusing_of_getData inRange run).1 p q inUse
    dsimp only
    rw [ownersAfter_of_inUse inRange inUse]
    exact registered.covered p q watched used
  · intro p q registration owned
    exact registered.resolved p q registration (owned_of_ownersAfter inRange owned).1

end Registered

theorem Registered.step {mode : Mode} {s s' : Rt} {action : RtAction} (registered : Registered s)
    (tracked : Tracked s) (ok : SlotsOk s.sys) (apart : KeepsKindsApart mode s action)
    (step : RtStep mode s action s') : Registered s' := by
  have noExcuse (wasm : s.task = .wasm) (p q : Nat) : ¬s.task.Excuses p q := by
    rw [wasm]
    exact id
  cases step with
  | worker action sys isWorker taken =>
    exact registered.frame (sigusing_of_worker ok.threads isWorker taken)
  | submit submission handler sys wasm taken =>
    cases taken
    have resumed := registered.resume (noExcuse wasm)
    refine { resumed with quiet := ?_, covered := ?_ }
    · intro noHandler
      exact (if_neg noHandler).mp apart
    · rintro p q (pending | ⟨registers, rfl⟩) inUse
      · exact .inl ((resumed.covered p q (.inl pending) inUse).resolve_right id)
      · exact .inl ((if_pos registers).mp apart q inUse)
  | submitOp serial submission handler slot op next phase args reply after task found taken =>
    exact registered.submitOp tracked ok.threads task found taken
  | submitDone serial submission handler slot reply phase args allocated task returned =>
    refine registered.submitted tracked task returned ?_
    rintro element rfl nonzero
    exact apart serial submission element slot task nonzero
  | setCallback p q handler allocated reply after wasm inRange run =>
    have same := sameSlots_of_pollSubsignal run
    have polled : Registered (s.withPta after) := registered.frame same.sigusing
    split
    · exact polled
    · refine polled.register inRange.1 inRange.2 (fun nonzero => (apart nonzero).2) ?_ ?_
      · intro nonzero q' other inUse
        refine (apart nonzero).1 q' other ?_
        unfold Rt.InUse at inUse ⊢
        rwa [← same.sigusing]
      · intro p' q' excuse
        exact (noExcuse wasm p' q' excuse).elim
  | pollSubsignal p q reply after wasm inRange run =>
    exact registered.frame (sameSlots_of_pollSubsignal run).sigusing
  | collect paramTypes params reply after wasm inRange run => exact registered.collect inRange run
  | checkpoint wasm => exact registered.scan tracked (noExcuse wasm) true
  | poll tmpSigpending dispatches reply after task run =>
    obtain ⟨outside, nonempty⟩ := tracked.scanning _ _ task
    obtain ⟨p, -, small, isLowest⟩ := lowest_of_ne_zero nonempty
    have same := sameSlots_of_poll run
    have polled : Registered (s.withPta after) := registered.frame same.sigusing
    refine polled.scanned task outside nonempty fun q success => ?_
    rw [isLowest] at run ⊢
    rw [pollAnswer_of_run small run] at success
    have used := inUse_of_success ok success
    rw [← same.sigusing] at used
    exact used
  | handlerDone wasm inHandler => exact registered.handlerDone tracked inHandler wasm
  | changeTable elems wasm => exact { registered with }

/-! ## The right handler -/

/-- In every run of a program that keeps requests with and without handlers apart,
every handler a checkpoint has called is the function registered for the request
that was in the slot. -/
theorem handlers_right_of_kinds_apart {mode : Mode} {s : Rt}
    (reachable : ((runtime mode).restrict (KeepsKindsApart mode)).Reachable s) :
    ∀ call ∈ s.dispatched, call.IsRight := by
  suffices registered : Registered s from registered.right
  refine reachable.invariant ?_ ?_
  · rintro _ ⟨inst, rfl⟩
    exact Registered.init inst
  · rintro state action after before registered ⟨apart, step⟩
    have unrestricted := before.of_restrict
    exact registered.step (tracked_of_reachable unrestricted) (slotsOk unrestricted) apart step

theorem keepsKindsApart_of_internal {mode : Mode} {s : Rt} {action : RtAction}
    (kind : IsInternal action) : KeepsKindsApart mode s action := by
  cases action
  case worker | submitOp => trivial
  all_goals exact kind.elim

/-- A callback call on pin 4 with element 1, whose request fails for want of
memory: a checkpoint calls function 2. -/
theorem callback_on_pin_right :
    ∃ s, ((runtime .interp).restrict (KeepsKindsApart .interp)).Reachable s ∧
      s.dispatched = [⟨4, 0, 2, some ⟨1, some 2⟩, false⟩] ∧
      ∀ call ∈ s.dispatched, call.IsRight := by
  have booted : ((runtime .interp).restrict (KeepsKindsApart .interp)).Reachable
      (Rt.init twoHandlers) := .start ⟨_, rfl⟩
  have submitted := booted.next_restrict
    (RtStep.submit _ (dhtSubmission 4) (some 1) _ rfl (.submit _ _))
    (show ∀ q, _ from fun q inUse => by simp [Rt.InUse, Rt.init, Sys.init, Pta.zero] at inUse)
  have queued := after_internals submitted (internals_queue rfl rfl rfl rfl
    (.inr ⟨rfl, 1, fun _ => 0, by decide, rfl, rfl⟩))
    fun kind step => ⟨keepsKindsApart_of_internal kind, step⟩
  have registered := queued.next_restrict
    (RtStep.submitDone _ 0 _ _ (some 0) _ _ _ true rfl rfl)
    (fun _ _ _ _ task _ => by cases task; rfl)
  have ready := after_internals registered (internals_refuse (p := 4) rfl rfl)
    fun kind step => ⟨keepsKindsApart_of_internal kind, step⟩
  have checkpoint := ready.next_restrict (RtStep.checkpoint _ rfl) trivial
  have handling := checkpoint.next_restrict
    (RtStep.poll _ _ true _ _ rfl ⟨some 0, _, rfl, rfl, rfl⟩) trivial
  exact ⟨_, handling, rfl, handlers_right_of_kinds_apart handling⟩

/-- A future call and a callback call on pin 4.  The future becomes ready first: a
checkpoint calls function 0 for it, which no registration has named. -/
theorem future_dispatched :
    ∃ s, (runtime .interp).Reachable s ∧ ∃ call ∈ s.dispatched,
      call.owner = none ∧ call.called = 0 := by
  have booted : (runtime .interp).Reachable (Rt.init twoHandlers) := .start ⟨_, rfl⟩
  have submitted := booted.next (RtStep.submit _ (dhtSubmission 4) none _ rfl (.submit _ _))
  have queued := after_internals submitted (internals_queue rfl rfl rfl rfl
    (.inr ⟨rfl, 1, fun _ => 0, by decide, rfl, rfl⟩)) fun _ => id
  have future := queued.next (RtStep.submitDone _ 0 _ _ (some 0) _ _ _ true rfl rfl)
  have submitted := future.next (RtStep.submit _ (dhtSubmission 4) (some 1) _ rfl (.submit _ _))
  have queued := after_internals submitted (internals_queue rfl rfl rfl rfl
    (.inr ⟨rfl, 2, fun _ => 0, by decide, rfl, rfl⟩)) fun _ => id
  have callback := queued.next (RtStep.submitDone _ 1 _ _ (some 1) _ _ _ true rfl rfl)
  have ready := after_internals callback (internals_refuse (p := 4) rfl rfl) fun _ => id
  have checkpoint := ready.next (RtStep.checkpoint _ rfl)
  have handling := checkpoint.next (RtStep.poll _ _ true _ _ rfl ⟨some 0, _, rfl, rfl, rfl⟩)
  exact ⟨_, handling, ⟨4, 0, 0, none, false⟩, List.mem_singleton.mpr rfl, rfl, rfl⟩

end TrustWasm.Runtime
