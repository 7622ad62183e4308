import TrustWasm.Lib.Mask
import TrustWasm.IoHelper.Mailbox

/-!
# Collections that run concurrently

Clients collect results by single operations, in any interleaving with each
other, with submissions and with the workers.  As long as no collection checks a
slot that another one has found ready and not finished with, every result is
returned once, its buffer is freed once and not read after that, and a slot is
released only while its request is ready.
-/

namespace TrustWasm.IoHelper

open TrustWasm.Lib TrustWasm.Lib.Mask TrustWasm.Tee Function

variable {action : Action} {p q serial : Nat}

variable {s s' : Sys}

/-! ## Requests whose result has been collected -/

/-- The request is over: it owns no slot and will not get one. -/
structure Spent (s : Sys) (serial : Nat) : Prop where
  nowhere : ∀ p q stage, ¬Holds s p q serial stage
  submitted : ∃ thread, s.submits serial = some thread ∧ thread.phase = .enqueued

/-- A request owns a slot after a step only if it did before or had not
allocated one yet. -/
theorem holds_of_step (ok : SlotsOk s) (exclusive : Exclusive s action)
    (step : Step helper s action s') {stage : Stage} (holds : Holds s' p q serial stage) :
    (∃ stage', Holds s p q serial stage') ∨
      ∃ thread, s.submits serial = some thread ∧ thread.phase = .fresh := by
  obtain ⟨threads, collectors, board, inv⟩ := ok
  obtain ⟨board', inv', follows⟩ :=
    inv.step (slotStep_of_step threads collectors inv exclusive step)
  rcases follows p q serial stage ((inv'.holds_iff p q serial stage).mp holds) with
    ⟨stage', occupied⟩ | fresh
  · exact .inl ⟨stage', (inv.holds_iff p q serial stage').mpr occupied⟩
  · exact .inr (Option.map_eq_some_iff.mp fresh)

/-- A submission that has enqueued its request stays so. -/
theorem enqueued_of_step (threads : Threads s) (step : Step helper s action s')
    (submitted : ∃ thread, s.submits serial = some thread ∧ thread.phase = .enqueued) :
    ∃ thread, s'.submits serial = some thread ∧ thread.phase = .enqueued := by
  obtain ⟨thread, found, done⟩ := submitted
  cases step with
  | submit submission =>
    have known := threads.unusedSubmits serial thread found
    refine ⟨thread, ?_, done⟩
    rw [← found]
    exact update_of_ne (Nat.ne_of_lt known) _ _
  | submitOp serial' op next phase args reply after found' step =>
    refine ⟨thread, ?_, done⟩
    have other : serial ≠ serial' := by
      rintro rfl
      rw [found] at found'
      cases found'
      exact ne_enqueued_of_submitGuard (threads.submits serial _ found).1 done
    rw [← found]
    exact update_of_ne other _ _
  | dequeue | loopOp | loopDone | poll | pollSubsignal | getData | getStart | getOp =>
    exact ⟨thread, found, done⟩

theorem Spent.step (spent : Spent s serial) (ok : SlotsOk s) (exclusive : Exclusive s action)
    (step : Step helper s action s') : Spent s' serial where
  nowhere := by
    intro p q stage holds
    rcases holds_of_step ok exclusive step holds with ⟨stage', held⟩ | ⟨thread, found, fresh⟩
    · exact spent.nowhere p q stage' held
    · obtain ⟨thread', found', done⟩ := spent.submitted
      rw [found] at found'
      cases found'
      rw [fresh] at done
      cases done
  submitted := enqueued_of_step ok.threads step spent.submitted

/-- A request whose ready slot is cleared is over. -/
theorem spent_of_cleared (ok : SlotsOk s) (exclusive : Exclusive s action)
    (step : Step helper s action s') (wasReady : s.ready p q = some serial)
    (cleared : s'.ready p q = none) (kept : ∀ stage, Holds s' p q serial stage → stage = .ready) :
    Spent s' serial where
  nowhere := by
    intro p' q' stage holds
    have here : Holds s p q serial .ready := wasReady
    rcases holds_of_step ok exclusive step holds with ⟨stage', held⟩ | ⟨thread, found, fresh⟩
    · obtain ⟨rfl, rfl, -⟩ := ok.oneStage held here
      obtain rfl := kept stage holds
      have isReady : s'.ready p' q' = some serial := holds
      rw [cleared] at isReady
      cases isReady
    · exact ok.not_holds_of_fresh found fresh here
  submitted := by
    have here : Holds s p q serial .ready := wasReady
    obtain ⟨-, -, board, inv⟩ := id ok
    obtain ⟨phase, isPhase, -⟩ :=
      inv.started p q serial .ready ((inv.holds_iff p q serial .ready).mp here)
    obtain ⟨thread, found, -⟩ := Option.map_eq_some_iff.mp isPhase
    exact enqueued_of_step ok.threads step ⟨thread, found, ok.phase_eq here (by simp) found⟩

/-- A collection that has released its slot after a step had done so before, or
it releases the slot of the ready request it has claimed. -/
theorem released_cases (ok : SlotsOk s) (exclusive : Exclusive s action)
    (step : Step helper s action s') {i : Nat} {thread : GetThread}
    (found : s'.gets i = some thread) (released : thread.phase = .released) :
    (∃ old, s.gets i = some old ∧ old.phase = .released ∧ old.claimed = thread.claimed) ∨
      (∃ serial p q, thread.claimed = some serial ∧ s.ready p q = some serial ∧ Spent s' serial ∧
        ∀ j, j ≠ i → s'.gets j = s.gets j) := by
  cases id step with
  | submit | submitOp | dequeue | loopOp | loopDone | poll | pollSubsignal | getData =>
    exact .inl ⟨thread, found, released, rfl⟩
  | getStart paramTypes params =>
    dsimp only at found
    by_cases here : i = s.next
    · subst here
      rw [update_self] at found
      cases found
      cases released
    · rw [update_of_ne here] at found
      exact .inl ⟨thread, found, released, rfl⟩
  | getOp id p q op next phase claimed freed reply after known op_step =>
    dsimp only at found
    by_cases here : i = id
    · subst here
      have allowed : getGuard p q phase op := (ok.threads.gets i _ known).1
      rw [update_self] at found
      cases found
      rcases getGuard_cases allowed with ⟨-, notCheck, kept⟩ | ⟨rfl, unchecked⟩ | ⟨rfl, holding⟩
      · refine .inl ⟨_, known, (kept reply).symm.trans released, ?_⟩
        cases op with
        | isReadySignal p' q' => exact absurd rfl (notCheck p' q')
        | _ => rfl
      · change (if (reply : Bool) then GetPhase.holding else phase) = .released at released
        rw [unchecked] at released
        split at released
        · cases released
        · cases released
      · obtain ⟨serial, isClaimed, isReady⟩ := ok.collectors.holding i _ known ⟨holding, by simp⟩
        have here : Holds s p q serial .ready := isReady
        refine .inr ⟨serial, p, q, isClaimed, isReady, ?_, ?_⟩
        · refine spent_of_cleared ok exclusive step isReady (setSlot_self _ _ _ _) ?_
          obtain rfl : after = s.pta.releaseSigno p q := op_step
          intro stage holds
          cases stage with
          | ready => rfl
          | allocated =>
            have before : Holds s p q serial .allocated := holds
            cases (ok.oneStage before here).2.2
          | queued =>
            have before : Holds s p q serial .queued := holds
            cases (ok.oneStage before here).2.2
          | handling =>
            have before : Holds s p q serial .handling := holds
            cases (ok.oneStage before here).2.2
        · intro j other
          exact update_of_ne other _ _
    · rw [update_of_ne here] at found
      exact .inl ⟨thread, found, released, rfl⟩

/-- A collection that has released its slot has claimed a request that is over,
and no other collection has claimed and released the same one. -/
structure Collections (s : Sys) : Prop where
  spent : ∀ i thread, s.gets i = some thread → thread.phase = .released →
    ∃ serial, thread.claimed = some serial ∧ Spent s serial
  once : ∀ i thread j other, s.gets i = some thread → s.gets j = some other →
    thread.phase = .released → other.phase = .released → thread.claimed = other.claimed → i = j

theorem Collections.init : Collections Sys.init where
  spent := by
    intro i thread found
    cases found
  once := by
    intro i thread j other found
    cases found

theorem Collections.step (collections : Collections s) (ok : SlotsOk s)
    (exclusive : Exclusive s action) (step : Step helper s action s') : Collections s' := by
  -- a request that is claimed and released anew is ready before, so nobody has released it
  have fresh {i j p q serial : Nat} {thread other : GetThread} (found : s'.gets j = some other)
      (released : other.phase = .released) (different : j ≠ i)
      (same : ∀ j, j ≠ i → s'.gets j = s.gets j) (claimed : thread.claimed = some serial)
      (equal : thread.claimed = other.claimed) (isReady : s.ready p q = some serial) : False := by
    rw [same j different] at found
    obtain ⟨serial', isClaimed, spent⟩ := collections.spent j other found released
    rw [← equal, claimed] at isClaimed
    cases isClaimed
    exact spent.nowhere p q .ready isReady
  constructor
  · intro i thread found released
    rcases released_cases ok exclusive step found released with
      ⟨old, wasFound, wasReleased, claimed⟩ | ⟨serial, p, q, claimed, -, spent, -⟩
    · obtain ⟨serial, isClaimed, spent⟩ := collections.spent i old wasFound wasReleased
      exact ⟨serial, claimed ▸ isClaimed, spent.step ok exclusive step⟩
    · exact ⟨serial, claimed, spent⟩
  · intro i thread j other found otherFound released otherReleased equal
    by_contra different
    rcases released_cases ok exclusive step found released with
      ⟨old, wasFound, wasReleased, claimed⟩ | ⟨serial, p, q, claimed, isReady, -, same⟩
    · rcases released_cases ok exclusive step otherFound otherReleased with
        ⟨old', wasFound', wasReleased', claimed'⟩ | ⟨serial, p, q, claimed', isReady, -, same⟩
      · exact different (collections.once i old j old' wasFound wasFound' wasReleased wasReleased'
          (by rw [claimed, claimed', equal]))
      · exact fresh found released different same claimed' equal.symm isReady
    · exact fresh otherFound otherReleased (Ne.symm different) same claimed equal isReady

/-! ## Safety of concurrent collections -/

/-- What is safe about collections in a state. -/
structure CollectionSafe (s : Sys) : Prop where
  /-- A collection that returns a result has claimed a request. -/
  claims : ∀ i thread reply, s.gets i = some thread → thread.prog = .pure reply →
    reply.res = teeSuccess → ∃ serial, thread.claimed = some serial
  /-- At most one collection returns the result of a request. -/
  once : ∀ i thread reply j other reply', s.gets i = some thread → thread.prog = .pure reply →
    reply.res = teeSuccess → s.gets j = some other → other.prog = .pure reply' →
    reply'.res = teeSuccess → thread.claimed = other.claimed → i = j
  /-- A collection frees a live block. -/
  frees : ∀ i thread ptr next, s.gets i = some thread → thread.prog = .call (.free ptr) next →
    s.pta.heap.Live ptr
  /-- A collection reads from a live block. -/
  reads : ∀ i thread ptr offset next, s.gets i = some thread →
    thread.prog = .call (.loadByte ptr offset) next → s.pta.heap.Live ptr
  /-- A worker frees a live block or the null pointer. -/
  workerFrees : ∀ p thread ptr next, s.loops p = some thread →
    thread.prog = .call (.free ptr) next → ptr = null ∨ s.pta.heap.Live ptr
  /-- A slot is released while the request that occupies it is ready. -/
  releases : ∀ i thread p q next, s.gets i = some thread →
    thread.prog = .call (.releaseSigno p q) next →
    ∃ serial, thread.claimed = some serial ∧ Holds s p q serial .ready
  /-- A release finds a positive count of requests. -/
  counts : ∀ i thread p q next, s.gets i = some thread →
    thread.prog = .call (.releaseSigno p q) next → 0 < (s.pta.reqNums p).toNat

section Safety

variable {id : Nat} {op : HelperOp} {next : Helper.Reply op → Program Helper CommandResult}
    {phase : GetPhase} {claimed : Option Nat} {freed : Bool}

/-- The result buffer a collection reads or frees is live. -/
theorem live_of_hasData (ok : HeapOk s) {view : GetView}
    (found : s.gets id = some ⟨p, q, .call op next, view.phase, claimed, view.freed⟩)
    (agrees : view.Agrees (s.pta.entry p q)) (data : view.HasData) :
    s.pta.heap.Live view.buf := by
  obtain ⟨slots, -, owner, inv⟩ := ok
  have holds : GetThread.Holding ⟨p, q, .call op next, view.phase, claimed, view.freed⟩ :=
    ⟨data.holding, by simp⟩
  obtain ⟨serial, -, isReady⟩ := slots.collectors.holding id _ found holds
  have notTaken : ¬s.Taken p q := by
    rintro ⟨id', thread, found', holds', isFreed, periph, signo⟩
    obtain rfl := slots.collectors.exclusive id' thread found' id _ found holds' holds periph signo
    rw [found] at found'
    cases found'
    rw [data.notFreed] at isFreed
    cases isFreed
  have owned := inv.refers _ _ (.result isReady notTaken (agrees.ret ▸ data.notNegative)
    (agrees.len ▸ data.notEmpty))
  rw [agrees.buf]
  exact inv.owned.live _ _ owned

theorem live_of_collection (ok : HeapOk s) {ptr : Ptr}
    (found : s.gets id = some ⟨p, q, .call op next, phase, claimed, freed⟩)
    (uses : op = .free ptr ∨ ∃ offset, op = .loadByte ptr offset) : s.pta.heap.Live ptr := by
  obtain ⟨view, ⟨allowed, -⟩, isPhase, isFreed, agrees⟩ := ok.threads.gets id _ found
  obtain rfl : view.phase = phase := isPhase
  obtain rfl : view.freed = freed := isFreed
  rcases uses with rfl | ⟨offset, rfl⟩
  · obtain ⟨data, rfl⟩ := allowed
    exact live_of_hasData ok found (agrees ⟨data.holding, by simp⟩) data
  · obtain ⟨data, rfl, -⟩ := allowed
    exact live_of_hasData ok found (agrees ⟨data.holding, by simp⟩) data

end Safety

theorem collectionSafe_of_ok (ok : HeapOk s) (collections : Collections s) : CollectionSafe s := by
  have returned {i : Nat} {thread : GetThread} {reply : CommandResult}
      (found : s.gets i = some thread) (isPure : thread.prog = .pure reply)
      (success : reply.res = teeSuccess) : thread.phase = .released := by
    have obeys := ok.slots.threads.gets i thread found
    rw [isPure] at obeys
    exact obeys success
  have releases {i p q : Nat} {thread : GetThread}
      {next : Helper.Reply (.releaseSigno p q) → Program Helper CommandResult}
      (found : s.gets i = some thread) (isCall : thread.prog = .call (.releaseSigno p q) next) :
      ∃ serial, thread.claimed = some serial ∧ Holds s p q serial .ready := by
    obtain ⟨p', q', prog, phase, claimed, freed⟩ := thread
    obtain rfl : prog = _ := isCall
    obtain ⟨holding, rfl, rfl⟩ := (ok.slots.threads.gets i _ found).1
    exact ok.slots.collectors.holding i _ found ⟨holding, by simp⟩
  refine ⟨?_, ?_, ?_, ?_, ?_, ?_, ?_⟩
  · intro i thread reply found isPure success
    obtain ⟨serial, claimed, -⟩ := collections.spent i thread found (returned found isPure success)
    exact ⟨serial, claimed⟩
  · intro i thread reply j other reply' found isPure success found' isPure' success' same
    exact collections.once i thread j other found found' (returned found isPure success)
      (returned found' isPure' success') same
  · rintro i ⟨p, q, prog, phase, claimed, freed⟩ ptr next found rfl
    exact live_of_collection ok found (.inl rfl)
  · rintro i ⟨p, q, prog, phase, claimed, freed⟩ ptr offset next found rfl
    exact live_of_collection ok found (.inr ⟨offset, rfl⟩)
  · rintro p ⟨req, prog, served, work⟩ ptr next found rfl
    have allowed : loopGuard p req.signo served (.free ptr) := (ok.slots.threads.loops p _ found).1
    have notServed : served = false := allowed
    obtain ⟨owner, inv⟩ := ok.owned
    rcases (ok.threads.loops p _ found notServed).1.1 with isNull | member
    · exact .inl isNull
    · exact .inr (inv.owned.live _ _ (inv.refers _ _ (.working found notServed member)))
  · intro i thread p q next found isCall
    exact releases found isCall
  · intro i thread p q next found isCall
    obtain ⟨serial, -, holds⟩ := releases found isCall
    obtain ⟨-, -, board, inv⟩ := ok.slots
    have protocol := inv.slotProtocol p
    rw [protocol.count]
    exact popcount_pos ((protocol.owned q).mpr ⟨serial, .ready, holds⟩)

/-! ## Runs -/

/-- Collections run by single operations on existing slots. -/
def SingleOperations (_ : Sys) : Action → Prop
  | .getData _ _ => False
  | .getStart _ params => InRange (slotOf params)
  | _ => True

/-- The io_helper with any number of concurrent collections. -/
def concurrentSystem : System Sys Action :=
  (ioHelper helper).restrict SingleOperations

/-- In every run in which no collection checks a slot that another one holds,
and in which submissions match their handlers, collections are safe. -/
theorem collectionSafe_of_reachable (reachable : (concurrentSystem.restrict Orderly).Reachable s) :
    CollectionSafe s := by
  suffices both : HeapOk s ∧ Collections s from collectionSafe_of_ok both.1 both.2
  refine reachable.invariant (P := fun state => HeapOk state ∧ Collections state) ?_ ?_
  · rintro state rfl
    exact ⟨HeapOk.init, Collections.init⟩
  · rintro state action after - ⟨ok, collections⟩ ⟨orderly, -, step⟩
    exact ⟨ok.step orderly step, collections.step ok.slots orderly.1 step⟩

theorem Action.OfUnsupported.singleOperations (plain : action.OfUnsupported) (s : Sys) :
    SingleOperations s action := by
  cases action with
  | submit | submitOp | dequeue | loopOp => trivial
  | poll | pollSubsignal | getData | getStart | getOp => exact plain.elim

theorem Action.OfUnsupported.exclusive (plain : action.OfUnsupported) (s : Sys) :
    Exclusive s action := by
  cases action with
  | submit | submitOp | dequeue | loopOp => trivial
  | poll | pollSubsignal | getData | getStart | getOp => exact plain.elim

/-- A collection of the result of a request without a handler, up to its release
of the slot. -/
theorem collectionSafe_before_release :
    ∃ s, (concurrentSystem.restrict Orderly).Reachable s ∧
      (∃ thread next, s.gets 1 = some thread ∧ thread.prog = .call (.releaseSigno 1 0) next) ∧
      CollectionSafe s := by
  have finished : (concurrentSystem.restrict Orderly).Reachable unsupportedState := by
    refine unsupported_ready.mono ?_ ?_
    · exact fun _ initial => initial
    · exact fun s _ _ step => ⟨⟨step.1.exclusive s, step.1.matched⟩, step.1.singleOperations s,
        step_of_reliable step.2⟩
  have inRange : InRange (slotOf (getDataParams 1 0 0)) := by decide
  have started := finished.next_restrict_restrict
    (Step.getStart _ getDataTypes (getDataParams 1 0 0)) inRange ⟨inRange, trivial⟩
  have checked := started.next_restrict_restrict
    (Step.getOp _ 1 1 0 (.isReadySignal 1 0) _ .unchecked none false true _ rfl
      ⟨rfl, rfl⟩) trivial ⟨?_, trivial⟩
  · have read := checked.next_restrict_restrict
      (Step.getOp _ 1 1 0 (.getRet 1 0) _ .holding _ false teeErrorNotSupported _ rfl
        ⟨rfl, rfl⟩) trivial ⟨by rintro _ ⟨⟩ ⟨⟩, trivial⟩
    have again := read.next_restrict_restrict
      (Step.getOp _ 1 1 0 (.getRet 1 0) _ .holding _ false teeErrorNotSupported _ rfl
        ⟨rfl, rfl⟩) trivial ⟨by rintro _ ⟨⟩ ⟨⟩, trivial⟩
    exact ⟨_, again, ⟨_, _, rfl, rfl⟩, collectionSafe_of_reachable again⟩
  · -- no collection holds a slot: the only one has not checked yet
    rintro _ - - ⟨id, other, found, ⟨holding, -⟩, -⟩
    have unchecked : other.phase = .unchecked :=
      forall_of_update (P := fun _ thread => thread.phase = .unchecked) rfl
        (fun _ _ idle => nomatch (show none = some _ from idle)) id other found
    rw [unchecked] at holding
    cases holding

/-- Two collections that have both found the slot ready both return the result
and both release the slot, and the count of requests wraps. -/
theorem overlapping_collections :
    ∃ s, (concurrentSystem.restrict fun _ action => action.Matched).Reachable s ∧
      ¬CollectionSafe s ∧ s.pta.reqNums 1 = 0xFFFFFFFF := by
  have finished : (concurrentSystem.restrict fun _ action => action.Matched).Reachable
      unsupportedState := by
    refine unsupported_ready.mono ?_ ?_
    · exact fun _ initial => initial
    · exact fun s _ _ step => ⟨step.1.matched, step.1.singleOperations s, step_of_reliable step.2⟩
  have inRange : InRange (slotOf (getDataParams 1 0 0)) := by decide
  have first := finished.next_restrict_restrict
    (Step.getStart _ getDataTypes (getDataParams 1 0 0)) inRange trivial
  have second := first.next_restrict_restrict
    (Step.getStart _ getDataTypes (getDataParams 1 0 0)) inRange trivial
  have firstChecked := second.next_restrict_restrict
    (Step.getOp _ 1 1 0 (.isReadySignal 1 0) _ .unchecked none false true _ rfl
      ⟨rfl, rfl⟩) trivial trivial
  have secondChecked := firstChecked.next_restrict_restrict
    (Step.getOp _ 2 1 0 (.isReadySignal 1 0) _ .unchecked none false true _ rfl
      ⟨rfl, rfl⟩) trivial trivial
  have firstRead := secondChecked.next_restrict_restrict
    (Step.getOp _ 1 1 0 (.getRet 1 0) _ .holding _ false teeErrorNotSupported _ rfl
      ⟨rfl, rfl⟩) trivial trivial
  have firstAgain := firstRead.next_restrict_restrict
    (Step.getOp _ 1 1 0 (.getRet 1 0) _ .holding _ false teeErrorNotSupported _ rfl
      ⟨rfl, rfl⟩) trivial trivial
  have firstReleased := firstAgain.next_restrict_restrict
    (Step.getOp _ 1 1 0 (.releaseSigno 1 0) _ .holding _ false () _ rfl rfl) trivial trivial
  have secondRead := firstReleased.next_restrict_restrict
    (Step.getOp _ 2 1 0 (.getRet 1 0) _ .holding _ false teeErrorNotSupported _ rfl
      ⟨rfl, rfl⟩) trivial trivial
  have secondAgain := secondRead.next_restrict_restrict
    (Step.getOp _ 2 1 0 (.getRet 1 0) _ .holding _ false teeErrorNotSupported _ rfl
      ⟨rfl, rfl⟩) trivial trivial
  have secondReleased := secondAgain.next_restrict_restrict
    (Step.getOp _ 2 1 0 (.releaseSigno 1 0) _ .holding _ false () _ rfl rfl) trivial trivial
  refine ⟨_, secondReleased, ?_, rfl⟩
  intro safe
  cases safe.once 1 _ _ 2 _ _ rfl rfl rfl rfl rfl rfl rfl

end TrustWasm.IoHelper
