import TrustWasm.Runtime.Registration
import TrustWasm.Runtime.Scan

/-!
# The two modes dispatch the same handlers

The interpreter leaves a peripheral without requests pending until its next
checkpoint; AOT code polls once more after each handler and removes it at once.
Between checkpoints the masks of the two modes differ by such stale peripherals.
A stale peripheral has no slot in use, so a poll of it finds nothing, as long as
every request is followed by a registration, which makes its peripheral pending in
both modes.  The handler of a slot has to exist as well: AOT code goes through a
pointer that a registration leaves null when the element does not resolve.

Two runs of one program are compared, one in each mode.  They make the same native
calls and reach the same checkpoints; their workers proceed on their own, also between
the polls AOT code makes after a handler, and at a checkpoint both modes see the same
slots.
-/

namespace TrustWasm.Runtime

open TrustWasm.Lib TrustWasm.Lib.Mask TrustWasm.Tee TrustWasm.IoHelper

/-! ## The loop of get_ready_signal -/

/-- The thread is in the loop. -/
def Task.Scanning : Task → Prop
  | .scan .. => True
  | _ => False

/-- The rounds of a loop that is under way, to its end. -/
inductive Scans (mode : Mode) : Rt → Rt → Prop where
  | done {s : Rt} : ¬s.task.Scanning → Scans mode s s
  | poll {s middle after : Rt} :
      RtStep mode s .poll middle → Scans mode middle after → Scans mode s after

/-- The slots whose handlers were called. -/
def Rt.dispatchedSlots (s : Rt) : List (Nat × Nat) :=
  s.dispatched.map fun call => (call.signo, call.subSigno)

/-- The runtime at the end of a loop: back in Wasm code, inside the handler of the
slot that was found. -/
structure ScanDone (s s' : Rt) (found : Option (Nat × Nat)) (mask : BitVec 64) : Prop where
  task : s'.task = .wasm
  slots : SameSlots s.sys.pta s'.sys.pta
  globals : s'.globals =
    if found.isSome then ({ s.globals with sigpending := mask }).tempUnsetAllIoSignalPending
    else { s.globals with sigpending := mask }
  dispatched : s'.dispatchedSlots = s.dispatchedSlots ++ found.toList

variable {found : Option (Nat × Nat)} {s s' aot interp : Rt} {mask before tmp : BitVec 64}
    {mode : Mode} {p : Nat} {submission : Submission} {reply : CommandResult} {element : BitVec 32}
    {action : RtAction} {handler : Option (BitVec 32)}

/-- Outside of a handler the mask the loop leaves is the one that holds the pending
peripherals, also if a handler has been called. -/
theorem ScanDone.active (done : ScanDone s s' found mask) (outside : s.globals.inHandler = false) :
    s'.globals.active = mask := by
  rw [done.globals]
  split
  · rfl
  · exact if_neg (by simp [outside])

theorem ScanDone.inHandler (done : ScanDone s s' found mask)
    (outside : s.globals.inHandler = false) :
    s'.globals.inHandler = found.isSome := by
  rw [done.globals]
  split
  · rename_i called
    exact called.symm
  · rename_i notCalled
    rw [Bool.eq_false_iff.mpr notCalled]
    exact outside

theorem pollAnswer_of_sameSlots {s s' : Pta} (same : SameSlots s s') (p : Nat) :
    pollAnswer s' p = pollAnswer s p := by
  unfold pollAnswer
  rw [same.sigpending, same.reqNums]

theorem Scans.eq_of_stopped (scans : Scans mode s s') (stopped : ¬s.task.Scanning) : s' = s := by
  cases scans with
  | done => rfl
  | poll step =>
    cases step with
    | poll tmpSigpending dispatches reply after task run =>
      rw [task] at stopped
      exact absurd trivial stopped

/-- The end of the loop, seen from before a round that found nothing. -/
theorem ScanDone.of_round {middle : Rt} (same : SameSlots s.sys.pta middle.sys.pta)
    (globals : middle.globals = { s.globals with sigpending := before })
    (dispatched : middle.dispatched = s.dispatched) (done : ScanDone middle s' found mask) :
    ScanDone s s' found mask where
  task := done.task
  slots := same.trans done.slots
  globals := by rw [done.globals, globals]
  dispatched := by
    rw [done.dispatched]
    unfold Rt.dispatchedSlots
    rw [dispatched]

/-- A loop ends as the rounds after `middle` say, given that the round before it
found nothing. -/
theorem scan_of_round {middle : Rt} (scans : Scans mode middle s') (small : p < 63)
    (lowest : lowest? tmp = some p) (noSlot : ∀ q, pollAnswer s.sys.pta p ≠ .success q)
    (cleared : ∀ i, before.getLsbD i = true ↔
      s.globals.sigpending.getLsbD i = true ∧ ¬(i = p ∧ pollAnswer s.sys.pta p = .noData))
    (same : SameSlots s.sys.pta middle.sys.pta)
    (globals : middle.globals = { s.globals with sigpending := before })
    (dispatched : middle.dispatched = s.dispatched)
    (task : middle.task = if tmp &&& ~~~low 64 (p + 1) = 0 then .wasm
      else .scan (tmp &&& ~~~low 64 (p + 1)) true)
    (later : middle.task = .scan (tmp &&& ~~~low 64 (p + 1)) true →
      tmp &&& ~~~low 64 (p + 1) ≠ 0 →
      ∃ found mask, ScanEnd (pollAnswer middle.sys.pta) (tmp &&& ~~~low 64 (p + 1)) found
        middle.globals.sigpending mask ∧ ScanDone middle s' found mask) :
    ∃ found mask, ScanEnd (pollAnswer s.sys.pta) tmp found s.globals.sigpending mask ∧
      ScanDone s s' found mask := by
  have answers : pollAnswer middle.sys.pta = pollAnswer s.sys.pta :=
    funext (pollAnswer_of_sameSlots same)
  by_cases last : tmp &&& ~~~low 64 (p + 1) = 0
  · rw [if_pos last] at task
    obtain rfl := scans.eq_of_stopped (by rw [task]; exact id)
    refine ⟨none, before, .round small lowest noSlot cleared ?_, task, same, ?_, ?_⟩
    · rw [last]
      exact .empty _ _
    · rw [globals]
      simp
    · unfold Rt.dispatchedSlots
      rw [dispatched]
      simp
  · rw [if_neg last] at task
    obtain ⟨found, mask, ends, done⟩ := later task last
    rw [answers, globals] at ends
    exact ⟨found, mask, .round small lowest noSlot cleared ends,
      .of_round same globals dispatched done⟩

/-- A loop ends as its polls say, if every slot it can find has a handler to call. -/
theorem Scans.spec (scans : Scans mode s s') :
    ∀ {tmp : BitVec 64}, s.task = .scan tmp true → tmp ≠ 0 →
      (∀ i, tmp.getLsbD i = true → i < 63) →
      (∀ p q, tmp.getLsbD p = true → pollAnswer s.sys.pta p = .success q →
        s.globals.handlerOf mode p q ≠ none) →
      ∃ found mask, ScanEnd (pollAnswer s.sys.pta) tmp found s.globals.sigpending mask ∧
        ScanDone s s' found mask := by
  induction scans with
  | done stopped =>
    intro tmp task
    rw [task] at stopped
    exact absurd trivial stopped
  | @poll s middle s' step rest ih =>
    intro tmp task nonempty below calls
    cases step with
    | poll tmpSigpending dispatches reply after task' run =>
      rw [task] at task'
      cases task'
      obtain ⟨p, lowest, inRange, isLowest⟩ := lowest_of_ne_zero nonempty
      have isSet := ((lowest?_eq_some_iff tmp p).mp lowest).2.1
      have small : p < 63 := below p isSet
      have same := sameSlots_of_poll run
      rw [isLowest] at run
      rw [pollAnswer_of_run inRange run] at rest ih
      have isFfs : ffs tmp = p + 1 := ffs_eq_of_lowest lowest
      have still (i : Nat) (isSet : (tmp &&& ~~~low 64 (p + 1)).getLsbD i = true) :
          tmp.getLsbD i = true := by
        rw [getLsbD_rest small, Bool.and_eq_true] at isSet
        exact isSet.1
      have stillCalls (i q : Nat) (isSet : (tmp &&& ~~~low 64 (p + 1)).getLsbD i = true)
          (success : pollAnswer after i = .success q) :
          s.globals.handlerOf mode i q ≠ none := by
        rw [pollAnswer_of_sameSlots same] at success
        exact calls i q (still i isSet) success
      cases answer : pollAnswer s.sys.pta p with
      | success q =>
        rw [answer] at rest
        simp only [scanRound, isFfs, Nat.add_sub_cancel, Rt.scanned, if_true] at rest
        obtain ⟨called, isCalled⟩ := Option.ne_none_iff_exists'.mp (calls p q isSet answer)
        unfold Rt.dispatch at rest
        rw [show ({ s.withPta after with globals := s.globals } : Rt).globals.handlerOf mode p q
          = some called from isCalled] at rest
        refine ⟨some (p, q), s.globals.sigpending, .success lowest answer, ?_⟩
        obtain rfl := rest.eq_of_stopped id
        exact ⟨rfl, same, rfl, by simp [Rt.dispatchedSlots, Rt.withPta]⟩
      | noData =>
        rw [answer] at rest ih
        simp only [scanRound, isFfs, Nat.add_sub_cancel, Rt.scanned] at rest ih
        refine scan_of_round rest small lowest (by simp [answer]) (fun i => ?_) same rfl rfl
          rfl fun task nonempty =>
            ih task nonempty (fun i isSet => below i (still i isSet)) stillCalls
        rw [getLsbD_and_not_bit inRange]
        simp [answer]
      | busy | communication | generic =>
        rw [answer] at rest ih
        simp only [scanRound, isFfs, Rt.scanned] at rest ih
        exact scan_of_round rest small lowest (by simp [answer]) (fun i => by simp [answer])
          same rfl rfl rfl fun task nonempty =>
            ih task nonempty (fun i isSet => below i (still i isSet)) stillCalls

/-- The whole loop, over the peripherals that are pending when it starts. -/
theorem Scans.of_scan (scans : Scans mode (s.scan true) s')
    (below : ∀ i, s.globals.sigpending.getLsbD i = true → i < 63)
    (calls : ∀ p q, s.globals.sigpending.getLsbD p = true → pollAnswer s.sys.pta p = .success q →
      s.globals.handlerOf mode p q ≠ none) :
    ∃ found mask, ScanEnd (pollAnswer s.sys.pta) s.globals.sigpending found s.globals.sigpending
      mask ∧ ScanDone s s' found mask := by
  by_cases empty : s.globals.sigpending = 0
  · have wasm : (s.scan true).task = .wasm := if_pos empty
    obtain rfl := scans.eq_of_stopped (by rw [wasm]; exact id)
    refine ⟨none, 0, ?_, wasm, .refl _, ?_, ?_⟩
    · rw [empty]
      exact .empty _ _
    · simp [Rt.scan, ← empty]
    · simp [Rt.scan, Rt.dispatchedSlots]
  · obtain ⟨found, mask, ends, done⟩ := scans.spec (if_neg empty) empty below calls
    exact ⟨found, mask, ends, done.task, done.slots, done.globals, done.dispatched⟩

/-- Two loops with the same answers find the same slot if the peripherals only one of
them polls have none. -/
theorem ScanEnd.found_eq {answer : Nat → PollResult} {wide narrow : BitVec 64}
    {found' : Option (Nat × Nat)} {before' after after' : BitVec 64}
    (first : ScanEnd answer wide found before after)
    (second : ScanEnd answer narrow found' before' after')
    (live : ∀ p, narrow.getLsbD p = true → wide.getLsbD p = true)
    (stale : ∀ p, wide.getLsbD p = true → narrow.getLsbD p = false → ∀ q, answer p ≠ .success q) :
    found = found' := by
  have polled {p q : Nat} (isSet : wide.getLsbD p = true) (success : answer p = .success q) :
      narrow.getLsbD p = true := by
    by_contra missing
    exact stale p isSet (Bool.eq_false_iff.mpr missing) q success
  cases found with
  | none =>
    cases found' with
    | none => rfl
    | some slot =>
      obtain ⟨isSet, success, -⟩ := second.least slot.1 slot.2 rfl
      exact absurd success (first.nothing rfl _ (live _ isSet) _)
  | some slot =>
    obtain ⟨isSet, success, isLeast⟩ := first.least slot.1 slot.2 rfl
    cases found' with
    | none => exact absurd success (second.nothing rfl _ (polled isSet success) _)
    | some slot' =>
      obtain ⟨isSet', success', isLeast'⟩ := second.least slot'.1 slot'.2 rfl
      rcases Nat.lt_trichotomy slot.1 slot'.1 with below | same | above
      · exact absurd success (isLeast' _ below (polled isSet success) _)
      · rw [same, success'] at success
        exact congrArg some (Prod.ext same (PollResult.success.inj success).symm)
      · exact absurd success' (isLeast _ above (live _ isSet') _)

/-! ## Two runs of one program -/

/-- A run in each mode. -/
structure Twin where
  interp : Rt
  aot : Rt

/-- A step AOT code takes on its own: below the program, or a poll after a handler. -/
def AotAlone (s : Rt) (action : RtAction) : Prop :=
  IsInternal action ∨ action = .poll ∧ ∃ tmpSigpending, s.task = .scan tmpSigpending false

/-- A native call that neither submits a request nor registers a handler, or a change
of the table. -/
def IsQuery : RtAction → Prop
  | .pollSubsignal .. | .collect .. | .changeTable _ => True
  | _ => False

/-- The submission under way has returned. -/
def Returned (s : Rt) (submission : Submission) (element : BitVec 32) (reply : CommandResult) :
    Prop :=
  ∃ serial slot phase args, s.task = .submit serial submission (some element) slot ∧
    s.sys.submits serial = some ⟨.pure reply, phase, args⟩

/-- The steps of two runs of one program all of whose requests are callback requests
on peripherals below 63.  The runs are apart only in the steps of the io_helper and in
the polls of AOT code after a handler, and a submission returns the same in both. -/
inductive TwinStep : Twin → RtAction → Twin → Prop where
  | interp (t : Twin) (action : RtAction) (after : Rt) :
      IsInternal action → RtStep .interp t.interp action after →
      TwinStep t action { t with interp := after }
  | aot (t : Twin) (action : RtAction) (after : Rt) :
      AotAlone t.aot action → RtStep .aot t.aot action after →
      TwinStep t action { t with aot := after }
  | submit (t : Twin) (submission : Submission) (element : BitVec 32) (interp aot : Rt) :
      toUint16 submission.params.p0.a < 63 →
      RtStep .interp t.interp (.submit submission (some element)) interp →
      RtStep .aot t.aot (.submit submission (some element)) aot →
      TwinStep t (.submit submission (some element)) ⟨interp, aot⟩
  | submitDone (t : Twin) (submission : Submission) (element : BitVec 32) (reply : CommandResult)
      (allocated : Bool) :
      Returned t.interp submission element reply → Returned t.aot submission element reply →
      TwinStep t (.submitDone allocated)
        ⟨t.interp.submitted .interp allocated submission (some element) reply,
          t.aot.submitted .aot allocated submission (some element) reply⟩
  | query (t : Twin) (action : RtAction) (interp aot : Rt) :
      IsQuery action → RtStep .interp t.interp action interp → RtStep .aot t.aot action aot →
      TwinStep t action ⟨interp, aot⟩
  | checkpoint (t : Twin) (interpScan interp aotScan aot : Rt) :
      SameSlots t.interp.sys.pta t.aot.sys.pta →
      RtStep .interp t.interp .checkpoint interpScan → Scans .interp interpScan interp →
      RtStep .aot t.aot .checkpoint aotScan → Scans .aot aotScan aot →
      TwinStep t .checkpoint ⟨interp, aot⟩
  | handlerDone (t : Twin) (interp aot : Rt) :
      RtStep .interp t.interp .handlerDone interp → RtStep .aot t.aot .handlerDone aot →
      TwinStep t .handlerDone ⟨interp, aot⟩

/-- Two runs from the start of a program. -/
def twin : System Twin RtAction where
  initial t := ∃ inst, t = ⟨Rt.init inst, Rt.init inst⟩
  step := TwinStep

/-- A request is made with an element that can be registered, and AOT code gets a function
for it. -/
def NamesHandler (t : Twin) : RtAction → Prop
  | .submit _ (some element) => element ≠ 0
  | .submitDone allocated =>
    ∀ serial submission element slot,
      t.aot.task = .submit serial submission (some element) slot →
      (t.aot.inst.getIndirectFunction .aot allocated element).isSome
  | _ => True

theorem Scans.reachable (scans : Scans mode s s') (reachable : (runtime mode).Reachable s) :
    (runtime mode).Reachable s' := by
  induction scans with
  | done => exact reachable
  | poll step _ ih => exact ih (reachable.next step)

theorem Scans.registered (scans : Scans mode s s') (reachable : (runtime mode).Reachable s)
    (registered : Registered s) : Registered s' := by
  induction scans with
  | done => exact registered
  | poll step _ ih =>
    refine ih (reachable.next step) ?_
    exact registered.step (tracked_of_reachable reachable) (slotsOk reachable)
      (show KeepsKindsApart mode _ .poll from trivial) step

theorem Returned.step (returned : Returned s submission element reply) (allocated : Bool) :
    RtStep mode s (.submitDone allocated)
      (s.submitted mode allocated submission (some element) reply) := by
  obtain ⟨serial, slot, phase, args, task, found⟩ := returned
  exact .submitDone _ _ _ _ _ _ _ _ _ task found

variable {t : Twin}

/-- Each of two runs of one program is a run of the runtime in its mode. -/
theorem runs_of_twin (reachable : twin.Reachable t) :
    (runtime .interp).Reachable t.interp ∧ (runtime .aot).Reachable t.aot := by
  refine reachable.invariant (P := fun t =>
    (runtime .interp).Reachable t.interp ∧ (runtime .aot).Reachable t.aot) ?_ ?_
  · rintro _ ⟨inst, rfl⟩
    exact ⟨.start ⟨inst, rfl⟩, .start ⟨inst, rfl⟩⟩
  · rintro t action t' - ⟨interpRun, aotRun⟩ step
    cases step with
    | interp _ after _ step => exact ⟨interpRun.next step, aotRun⟩
    | aot _ after _ step => exact ⟨interpRun, aotRun.next step⟩
    | submit _ _ _ _ _ interpStep aotStep | query _ _ _ _ interpStep aotStep
    | handlerDone _ _ interpStep aotStep =>
      exact ⟨interpRun.next interpStep, aotRun.next aotStep⟩
    | submitDone submission element reply allocated interpDone aotDone =>
      exact ⟨interpRun.next (interpDone.step allocated), aotRun.next (aotDone.step allocated)⟩
    | checkpoint interpScan interp aotScan aot _ interpStep interpScans aotStep aotScans =>
      exact ⟨interpScans.reachable (interpRun.next interpStep),
        aotScans.reachable (aotRun.next aotStep)⟩

/-! ## Idle peripherals -/

/-- No slot of the peripheral is in use, but for that of a submission under way. -/
def Idle (s : Rt) (p : Nat) : Prop :=
  ∀ q, (s.sys.pta.sigusing p).getLsbD q = true →
    ∃ serial submission handler, s.task = .submit serial submission handler (some q) ∧
      toUint16 submission.params.p0.a = p

/-- No submission is under way. -/
def Rt.Unoccupied (s : Rt) : Prop :=
  ∀ serial submission handler slot, s.task ≠ .submit serial submission handler slot

theorem unoccupied_of_wasm (wasm : s.task = .wasm) : s.Unoccupied := by
  intro _ _ _ _ task
  rw [wasm] at task
  cases task

theorem Idle.unused (idle : Idle s p) (unoccupied : s.Unoccupied) (q : Nat) :
    (s.sys.pta.sigusing p).getLsbD q = false := by
  by_contra used
  obtain ⟨serial, submission, handler, task, -⟩ := idle q (Bool.not_eq_false _ ▸ used)
  exact unoccupied _ _ _ _ task

theorem idle_of_unused (unused : ∀ q, (s.sys.pta.sigusing p).getLsbD q = false) : Idle s p := by
  intro q used
  rw [unused q] at used
  cases used

/-- A step below the program or a query keeps a peripheral idle. -/
theorem Idle.step (idle : Idle s p) (tracked : Tracked s) (ok : SlotsOk s.sys)
    (kind : IsInternal action ∨ IsQuery action) (step : RtStep mode s action s') : Idle s' p := by
  cases step with
  | worker action sys isWorker taken =>
    intro q used
    rw [sigusing_of_worker ok.threads isWorker taken] at used
    exact idle q used
  | submitOp serial submission handler slot op next phase args reply after task found taken =>
    obtain ⟨thread, isThread, obeys, -⟩ := tracked.submitting _ _ _ _ task
    rw [found] at isThread
    cases isThread
    have allowed : submitGuard serial phase op := (ok.threads.submits serial _ found).1
    intro q used
    rcases inUse_of_submitOp obeys.1 allowed taken used with old | ⟨here, isSlot⟩
    · obtain ⟨serial', submission', handler', task', here⟩ := idle q old
      rw [task] at task'
      cases task'
      exact ⟨_, _, _, congrArg _ (slotAfter_of_some obeys.1 rfl), here⟩
    · exact ⟨_, _, _, congrArg _ isSlot, here.symm⟩
  | pollSubsignal p' q' reply after wasm inRange run =>
    intro q used
    refine idle q ?_
    rw [← (sameSlots_of_pollSubsignal run).sigusing]
    exact used
  | collect paramTypes params reply after wasm inRange run =>
    intro q used
    exact idle q ((sigusing_of_getData inRange run).1 p q used)
  | changeTable => exact idle
  | submit | submitDone | setCallback | checkpoint | poll | handlerDone =>
    rcases kind with isInternal | isQuery
    · exact isInternal.elim
    · exact isQuery.elim

/-- A submission starts without a slot. -/
theorem Idle.submit (idle : Idle s p) (step : RtStep mode s (.submit submission handler) s') :
    Idle s' p := by
  cases step with
  | submit submission handler sys wasm taken =>
    cases taken
    exact idle_of_unused (idle.unused (unoccupied_of_wasm wasm))

/-- A submission that has failed, or one on another peripheral, leaves the peripheral
without a slot in use. -/
theorem Idle.returned (idle : Idle s p) (tracked : Tracked s)
    (returned : Returned s submission element reply)
    (elsewhere : reply.res = teeSuccess → p ≠ toUint16 submission.params.p0.a) (q : Nat) :
    (s.sys.pta.sigusing p).getLsbD q = false := by
  obtain ⟨serial, slot, phase, args, task, found⟩ := returned
  by_contra used
  obtain ⟨serial', submission', handler', task', here⟩ := idle q (Bool.not_eq_false _ ▸ used)
  rw [task] at task'
  cases task'
  by_cases succeeded : reply.res = teeSuccess
  · exact elsewhere succeeded here.symm
  · obtain ⟨thread, isThread, reported, -⟩ := tracked.submitting _ _ _ _ task
    rw [found] at isThread
    cases isThread
    cases reported.failed succeeded

/-! ## The simulation -/

/-- A submission under way is a callback call that names a handler. -/
def Rt.Named (s : Rt) : Prop :=
  ∀ serial submission handler slot, s.task = .submit serial submission handler slot →
    toUint16 submission.params.p0.a < 63 ∧ ∃ element, handler = some element ∧ element ≠ 0

theorem Rt.Unoccupied.named (unoccupied : s.Unoccupied) : s.Named :=
  fun _ _ _ _ task => absurd task (unoccupied _ _ _ _)

/-- What is pending in AOT code is pending in the interpreter, every other peripheral is idle,
the slots in use have handlers AOT code can call, and the same handlers were called. -/
structure Agree (t : Twin) : Prop where
  inHandler : t.interp.globals.inHandler = t.aot.globals.inHandler
  small : ∀ p, t.interp.globals.active.getLsbD p = true → p < 63
  live : ∀ p, t.aot.globals.active.getLsbD p = true → t.interp.globals.active.getLsbD p = true
  idle : ∀ p, t.aot.globals.active.getLsbD p = false → Idle t.aot p
  named : t.aot.Named
  registered : Registered t.aot
  dispatched : t.interp.dispatchedSlots = t.aot.dispatchedSlots

/-- A step that calls no handler and registers none leaves the globals alone. -/
theorem RtStep.globals_eq (kind : IsInternal action ∨ IsQuery action)
    (step : RtStep mode s action s') :
    s'.globals = s.globals ∧ s'.dispatched = s.dispatched := by
  cases step with
  | worker | submitOp | pollSubsignal | collect | changeTable => exact ⟨rfl, rfl⟩
  | submit | submitDone | setCallback | checkpoint | poll | handlerDone =>
    rcases kind with isInternal | isQuery
    · exact isInternal.elim
    · exact isQuery.elim

/-- Such a step starts no submission. -/
theorem RtStep.task_eq (kind : IsInternal action ∨ IsQuery action) (step : RtStep mode s action s')
    {serial : Nat} {slot : Option Nat} (task : s'.task = .submit serial submission handler slot) :
    ∃ slot', s.task = .submit serial submission handler slot' := by
  cases step with
  | worker | pollSubsignal | collect | changeTable => exact ⟨slot, task⟩
  | submitOp _ _ _ _ _ _ _ _ _ _ before =>
    cases task
    exact ⟨_, before⟩
  | submit | submitDone | setCallback | checkpoint | poll | handlerDone =>
    rcases kind with isInternal | isQuery
    · exact isInternal.elim
    · exact isQuery.elim

theorem keepsKindsApart_of_query (kind : IsQuery action) : KeepsKindsApart mode s action := by
  cases action
  case pollSubsignal | collect | changeTable => trivial
  all_goals exact kind.elim

namespace Agree

theorem init (inst : Instance) : Agree ⟨Rt.init inst, Rt.init inst⟩ where
  inHandler := rfl
  small p isSet := by simp [Rt.init, Globals.init, Globals.active] at isSet
  live p := id
  idle p _ := idle_of_unused fun q => by simp [Rt.init, Sys.init, Pta.zero]
  named := (unoccupied_of_wasm rfl).named
  registered := .init inst
  dispatched := rfl

/-- The runs go on without a handler or a registration. -/
theorem frame (agree : Agree t)
    (interpSame : interp.globals = t.interp.globals ∧ interp.dispatched = t.interp.dispatched)
    (aotSame : aot.globals = t.aot.globals ∧ aot.dispatched = t.aot.dispatched)
    (idle : ∀ p, Idle t.aot p → Idle aot p) (named : aot.Named) (registered : Registered aot) :
    Agree ⟨interp, aot⟩ := by
  refine ⟨?_, ?_, ?_, ?_, named, registered, ?_⟩
  · rw [interpSame.1, aotSame.1]
    exact agree.inHandler
  · rw [interpSame.1]
    exact agree.small
  · rw [interpSame.1, aotSame.1]
    exact agree.live
  · rw [aotSame.1]
    exact fun p missing => idle p (agree.idle p missing)
  · unfold Rt.dispatchedSlots
    rw [interpSame.2, aotSame.2]
    exact agree.dispatched

/-- Where AOT code submits a request, the other requests of the peripheral have handlers. -/
theorem submit_apart (agree : Agree t) (wasm : t.aot.task = .wasm) (nonzero : element ≠ 0) :
    KeepsKindsApart .aot t.aot (.submit submission (some element)) := by
  refine (if_pos (show Registers (some element) from nonzero)).mpr fun q inUse => ?_
  have pending : t.aot.globals.active.getLsbD (periphOf submission) = true := by
    by_contra missing
    have unused := (agree.idle _ (Bool.eq_false_iff.mpr missing)).unused (unoccupied_of_wasm wasm) q
    exact Bool.eq_false_iff.mp unused inUse
  refine (agree.registered.covered _ q (.inl pending) inUse).resolve_right ?_
  rw [wasm]
  exact id

end Agree

/-- A submission that has returned successfully makes its peripheral pending. -/
theorem submitted_active (mode : Mode) (tracked : Tracked s)
    (returned : Returned s submission element reply) (nonzero : element ≠ 0)
    (succeeded : reply.res = teeSuccess) (allocated : Bool) :
    (s.submitted mode allocated submission (some element) reply).globals.active =
      s.globals.active ||| bit 64 (toUint16 submission.params.p0.a) ∧
    (s.submitted mode allocated submission (some element) reply).globals.inHandler =
      s.globals.inHandler ∧
    (s.submitted mode allocated submission (some element) reply).dispatched = s.dispatched := by
  obtain ⟨serial, slot, phase, args, task, found⟩ := returned
  obtain ⟨thread, isThread, reported, held⟩ := tracked.submitting _ _ _ _ task
  rw [found] at isThread
  cases isThread
  obtain ⟨small, q, isSlot, answer⟩ := reported.succeeded succeeded
  have range : q < 64 := BitVec.lt_of_getLsbD (held q isSlot)
  have toNat : reply.params.p0.a.toNat = q := by
    rw [answer, BitVec.toNat_ofNat]
    omega
  unfold Rt.submitted
  rw [if_neg (not_not.mpr succeeded)]
  dsimp only
  rw [toNat]
  unfold Rt.register
  split
  · rename_i refused
    exact absurd ((Globals.registerHandler_eq_none_iff small range).mp refused) nonzero
  · rename_i globals registered
    obtain ⟨-, rfl⟩ := Globals.registerHandler_eq_some registered
    exact ⟨Globals.setSignalPending_active _ _, Globals.setSignalPending_inHandler _ _, rfl⟩

theorem submitted_failed (failed : reply.res ≠ teeSuccess) (allocated : Bool) :
    s.submitted mode allocated submission handler reply = { s with task := .wasm } :=
  if_pos failed

namespace Agree

theorem submitDone (agree : Agree t) (interpTracked : Tracked t.interp) (aotTracked : Tracked t.aot)
    (interpDone : Returned t.interp submission element reply)
    (aotDone : Returned t.aot submission element reply) (allocated : Bool)
    (registered : Registered (t.aot.submitted .aot allocated submission (some element) reply)) :
    Agree ⟨t.interp.submitted .interp allocated submission (some element) reply,
      t.aot.submitted .aot allocated submission (some element) reply⟩ := by
  have finished : (t.aot.submitted .aot allocated submission (some element) reply).Named :=
    (unoccupied_of_wasm (submitted_task ..)).named
  obtain ⟨small, element', same, nonzero⟩ :
      toUint16 submission.params.p0.a < 63 ∧ ∃ e, some element = some e ∧ e ≠ 0 := by
    obtain ⟨serial, slot, phase, args, task, -⟩ := aotDone
    exact agree.named _ _ _ _ task
  cases same
  by_cases succeeded : reply.res = teeSuccess
  · obtain ⟨interpActive, interpIn, interpCalls⟩ :=
      submitted_active .interp interpTracked interpDone nonzero succeeded allocated
    obtain ⟨aotActive, aotIn, aotCalls⟩ :=
      submitted_active .aot aotTracked aotDone nonzero succeeded allocated
    have inRange : toUint16 submission.params.p0.a < 64 := by omega
    refine ⟨?_, ?_, ?_, ?_, finished, registered, ?_⟩
    · rw [interpIn, aotIn]
      exact agree.inHandler
    · intro p isSet
      rw [interpActive, getLsbD_or_bit inRange, Bool.or_eq_true, decide_eq_true_eq] at isSet
      rcases isSet with old | rfl
      · exact agree.small p old
      · exact small
    · intro p
      rw [interpActive, aotActive, getLsbD_or_bit inRange, getLsbD_or_bit inRange]
      simp only [Bool.or_eq_true]
      exact Or.imp_left (agree.live p)
    · intro p missing
      rw [aotActive, getLsbD_or_bit inRange, Bool.or_eq_false_iff] at missing
      obtain ⟨wasMissing, elsewhere⟩ := missing
      refine idle_of_unused fun q => ?_
      rw [submitted_sys]
      exact (agree.idle p wasMissing).returned aotTracked aotDone
        (fun _ => of_decide_eq_false elsewhere) q
    · unfold Rt.dispatchedSlots
      rw [interpCalls, aotCalls]
      exact agree.dispatched
  · refine agree.frame ?_ ?_ ?_ finished registered
    · rw [submitted_failed succeeded]
      exact ⟨rfl, rfl⟩
    · rw [submitted_failed succeeded]
      exact ⟨rfl, rfl⟩
    · intro p idle
      refine idle_of_unused fun q => ?_
      rw [submitted_sys]
      exact idle.returned aotTracked aotDone (fun holds => absurd holds succeeded) q

/-- A peripheral that is not pending after a checkpoint is idle. -/
theorem idle_of_scan (ok : SlotsOk s.sys) (wasm : s.task = .wasm)
    (ends : ScanEnd (pollAnswer s.sys.pta) tmp found tmp mask) (done : ScanDone s s' found mask)
    (idle : tmp.getLsbD p = false → Idle s p) (missing : mask.getLsbD p = false) :
    Idle s' p := by
  refine idle_of_unused fun q => ?_
  rw [done.slots.sigusing]
  by_cases isSet : tmp.getLsbD p = true
  · have removed : pollAnswer s.sys.pta p = .noData := by
      by_contra other
      have kept := (ends.pending p).mpr ⟨isSet, fun cleared => other cleared.2.1⟩
      rw [missing] at kept
      cases kept
    exact unused_of_noData ok removed q
  · exact (idle (Bool.eq_false_iff.mpr isSet)).unused (unoccupied_of_wasm wasm) q

theorem checkpoint (agree : Agree t) (interpTracked : Tracked t.interp) (aotTracked : Tracked t.aot)
    (ok : SlotsOk t.aot.sys) (same : SameSlots t.interp.sys.pta t.aot.sys.pta)
    (wasm : t.aot.task = .wasm) (interpScans : Scans .interp (t.interp.scan true) interp)
    (aotScans : Scans .aot (t.aot.scan true) aot) (registered : Registered aot) :
    Agree ⟨interp, aot⟩ := by
  have unoccupied := unoccupied_of_wasm wasm
  cases inHandler : t.aot.globals.inHandler with
  | true =>
    -- inside a handler neither mode polls
    have stopped {s : Rt} (empty : s.globals.sigpending = 0) : (s.scan true).task = .wasm :=
      if_pos empty
    have interpEmpty := interpTracked.parked (agree.inHandler.trans inHandler)
    have aotEmpty := aotTracked.parked inHandler
    obtain rfl := interpScans.eq_of_stopped (by rw [stopped interpEmpty]; exact id)
    obtain rfl := aotScans.eq_of_stopped (by rw [stopped aotEmpty]; exact id)
    exact agree.frame ⟨rfl, rfl⟩ ⟨rfl, rfl⟩ (fun p idle => idle_of_unused (idle.unused unoccupied))
      (unoccupied_of_wasm (stopped aotEmpty)).named registered
  | false =>
    have interpOutside := agree.inHandler.trans inHandler
    have interpActive : t.interp.globals.active = t.interp.globals.sigpending :=
      if_neg (by simp [interpOutside])
    have aotActive : t.aot.globals.active = t.aot.globals.sigpending := if_neg (by simp [inHandler])
    have small := agree.small
    have live := agree.live
    have idle := agree.idle
    rw [interpActive] at small
    rw [interpActive, aotActive] at live
    rw [aotActive] at idle
    obtain ⟨found, interpMask, interpEnds, interpDone⟩ :=
      interpScans.of_scan small fun _ _ _ _ => Option.some_ne_none _
    -- a slot AOT code finds is in use on a pending peripheral, so its handler exists
    obtain ⟨found', aotMask, aotEnds, aotDone⟩ :=
      aotScans.of_scan (fun p isSet => small p (live p isSet)) fun p q isSet success => by
        obtain ⟨_, function, -, -, called⟩ := agree.registered.handlerOf
          (by rw [wasm]; exact fun _ _ => id) (.inl (aotActive ▸ isSet))
          (inUse_of_success ok success) .aot
        rw [called]
        exact Option.some_ne_none _
    have answers : pollAnswer t.interp.sys.pta = pollAnswer t.aot.sys.pta :=
      (funext (pollAnswer_of_sameSlots same)).symm
    rw [answers] at interpEnds
    -- a stale peripheral has no slot in use, so a poll of it finds none
    obtain rfl : found = found' := by
      refine interpEnds.found_eq aotEnds live fun p isSet missing q success => ?_
      have used := inUse_of_success ok success
      rw [(idle p missing).unused unoccupied q] at used
      cases used
    refine ⟨?_, ?_, ?_, ?_, (unoccupied_of_wasm aotDone.task).named, registered, ?_⟩
    · rw [interpDone.inHandler interpOutside, aotDone.inHandler inHandler]
    · intro p isSet
      rw [interpDone.active interpOutside] at isSet
      exact small p ((interpEnds.pending p).mp isSet).1
    · intro p isSet
      rw [aotDone.active inHandler] at isSet
      rw [interpDone.active interpOutside]
      obtain ⟨wasSet, kept⟩ := (aotEnds.pending p).mp isSet
      refine (interpEnds.pending p).mpr ⟨live p wasSet, ?_⟩
      rintro ⟨-, removed⟩
      exact kept ⟨wasSet, removed⟩
    · intro p missing
      rw [aotDone.active inHandler] at missing
      exact idle_of_scan ok wasm aotEnds aotDone (idle p) missing
    · rw [interpDone.dispatched, aotDone.dispatched, agree.dispatched]

theorem handlerDone (agree : Agree t) (wasm : t.aot.task = .wasm)
    (interpInside : t.interp.globals.inHandler = true) (aotInside : t.aot.globals.inHandler = true)
    (registered : Registered (t.aot.handlerDone .aot)) :
    Agree ⟨t.interp.handlerDone .interp, t.aot.handlerDone .aot⟩ := by
  have interpActive : (t.interp.handlerDone .interp).globals.active = t.interp.globals.active :=
    (if_pos interpInside).symm
  have aotActive : (t.aot.handlerDone .aot).globals.active = t.aot.globals.active :=
    (if_pos aotInside).symm
  refine ⟨rfl, ?_, ?_, ?_, ?_, registered, agree.dispatched⟩
  · rw [interpActive]
    exact agree.small
  · rw [interpActive, aotActive]
    exact agree.live
  · rw [aotActive]
    exact fun p missing => idle_of_unused ((agree.idle p missing).unused (unoccupied_of_wasm wasm))
  · exact Rt.Unoccupied.named (scan_task _ _)

theorem active_of_cleared {g : Globals} (outside : g.inHandler = false) (inRange : p < 64)
    (i : Nat) :
    ({ g with sigpending := g.sigpending &&& ~~~bit 64 p } : Globals).active.getLsbD i =
      (g.active.getLsbD i && !decide (i = p)) := by
  simp only [Globals.active, outside, Bool.false_eq_true, if_false]
  exact getLsbD_and_not_bit inRange g.sigpending i

/-- A poll of AOT code after a handler removes at most an idle peripheral. -/
theorem aotPoll (agree : Agree t) (tracked : Tracked t.aot) (ok : SlotsOk t.aot.sys)
    (task : t.aot.task = .scan tmp false) (step : RtStep .aot t.aot .poll aot) :
    Agree { t with aot := aot } := by
  have registered := agree.registered.step tracked ok
    (show KeepsKindsApart .aot t.aot .poll from trivial) step
  cases step with
  | poll tmpSigpending dispatches reply after task' run =>
    rw [task] at task'
    cases task'
    obtain ⟨outside, nonempty⟩ := tracked.scanning _ _ task
    obtain ⟨p, -, inRange, isLowest⟩ := lowest_of_ne_zero nonempty
    have same := sameSlots_of_poll run
    rw [isLowest] at run
    rw [pollAnswer_of_run inRange run] at registered ⊢
    have named := Rt.Unoccupied.named (scanned_task (t.aot.withPta after) .aot false
      (scanRound t.aot.globals tmp (pollAnswer t.aot.sys.pta p)))
    have unoccupied : t.aot.Unoccupied := by
      intro _ _ _ _ submitting
      rw [task] at submitting
      cases submitting
    have idle {s : Rt} (sys : s.sys.pta = after) (i : Nat) (before : Idle t.aot i) : Idle s i := by
      refine idle_of_unused fun q => ?_
      rw [sys, same.sigusing]
      exact before.unused unoccupied q
    cases answer : pollAnswer t.aot.sys.pta p with
    | success | busy | communication | generic =>
      rw [answer] at registered named
      exact agree.frame ⟨rfl, rfl⟩ ⟨rfl, rfl⟩ (idle rfl) named registered
    | noData =>
      rw [answer] at registered named
      have cleared := active_of_cleared outside inRange
      rw [← isLowest] at cleared
      refine ⟨agree.inHandler, agree.small, fun i isSet => agree.live i ?_, fun i missing => ?_,
        named, registered, agree.dispatched⟩
      · have kept := (cleared i).symm.trans isSet
        exact (Bool.and_eq_true _ _ ▸ kept).1
      · have gone := (cleared i).symm.trans missing
        by_cases here : i = p
        · subst here
          refine idle_of_unused fun q => ?_
          rw [scanned_sys]
          exact (congrFun same.sigusing i ▸ unused_of_noData ok answer q)
        · refine idle rfl i (agree.idle i ?_)
          rwa [isLowest, decide_eq_false here, Bool.not_false, Bool.and_true] at gone

theorem step {t' : Twin} (agree : Agree t) (reachable : twin.Reachable t)
    (names : NamesHandler t action) (step : TwinStep t action t') : Agree t' := by
  obtain ⟨interpRun, aotRun⟩ := runs_of_twin reachable
  have interpTracked := tracked_of_reachable interpRun
  have aotTracked := tracked_of_reachable aotRun
  have ok := slotsOk aotRun
  have registered (action : RtAction) {aot : Rt} (apart : KeepsKindsApart .aot t.aot action)
      (step : RtStep .aot t.aot action aot) : Registered aot :=
    agree.registered.step aotTracked ok apart step
  cases step with
  | interp _ after kind step =>
    exact agree.frame (step.globals_eq (.inl kind)) ⟨rfl, rfl⟩ (fun _ => id) agree.named
      agree.registered
  | aot _ after kind step =>
    rcases kind with kind | ⟨rfl, tmp, task⟩
    · refine agree.frame ⟨rfl, rfl⟩ (step.globals_eq (.inl kind))
        (fun p idle => idle.step aotTracked ok (.inl kind) step) (fun _ _ _ _ task => ?_)
        (registered _ (keepsKindsApart_of_internal kind) step)
      obtain ⟨slot', before⟩ := step.task_eq (.inl kind) task
      exact agree.named _ _ _ _ before
    · exact agree.aotPoll aotTracked ok task step
  | submit submission element interp aot small interpStep aotStep =>
    have idle (p : Nat) (before : Idle t.aot p) : Idle aot p := before.submit aotStep
    have wasm : t.aot.task = .wasm := by
      cases aotStep
      assumption
    have registered := registered _ (agree.submit_apart wasm names) aotStep
    cases interpStep
    cases aotStep
    refine agree.frame ⟨rfl, rfl⟩ ⟨rfl, rfl⟩ idle (fun _ _ _ _ task => ?_) registered
    cases task
    exact ⟨small, element, rfl, names⟩
  | submitDone submission element reply allocated interpDone aotDone =>
    refine agree.submitDone interpTracked aotTracked interpDone aotDone allocated ?_
    exact registered (.submitDone allocated) (fun _ _ _ _ task _ => names _ _ _ _ task)
      (aotDone.step allocated)
  | query _ interp aot kind interpStep aotStep =>
    refine agree.frame (interpStep.globals_eq (.inr kind)) (aotStep.globals_eq (.inr kind))
      (fun p idle => idle.step aotTracked ok (.inr kind) aotStep) (fun _ _ _ _ task => ?_)
      (registered _ (keepsKindsApart_of_query kind) aotStep)
    obtain ⟨slot', before⟩ := aotStep.task_eq (.inr kind) task
    exact agree.named _ _ _ _ before
  | checkpoint interpScan interp aotScan aot same interpStep interpScans aotStep aotScans =>
    have scanning := registered .checkpoint trivial aotStep
    have ended := aotScans.registered (aotRun.next aotStep) scanning
    cases interpStep
    cases aotStep with
    | checkpoint wasm =>
      exact agree.checkpoint interpTracked aotTracked ok same wasm interpScans aotScans ended
  | handlerDone interp aot interpStep aotStep =>
    have registered := registered .handlerDone trivial aotStep
    cases interpStep with
    | handlerDone _ interpInside =>
      cases aotStep with
      | handlerDone wasm aotInside => exact agree.handlerDone wasm interpInside aotInside registered

end Agree

end TrustWasm.Runtime
