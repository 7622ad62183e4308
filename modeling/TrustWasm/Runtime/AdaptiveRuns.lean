import TrustWasm.Runtime.AdaptiveQueues

/-!
# Orderly runs of the adaptive build

As long as the program keeps to the order in which the records are enqueued, the tables stay
consistent: the indices are in range, and a dispatch takes the record of its own request.  A
program need not keep to it, and the first checkpoint already does not.
-/

namespace TrustWasm.Runtime

open TrustWasm.Lib TrustWasm.Lib.Mask TrustWasm.Tee TrustWasm.IoHelper

/-- What the orderly runs keep about the tables. -/
structure Tables (s : Adaptive) : Prop where
  queued : Queued s
  indexed : ∀ index ∈ s.indexed, index.InRange
  removals : ∀ removal ∈ s.removals, removal.IsOwn

/-- The invariant of the orderly runs. -/
structure Consistent (s : Adaptive) : Prop extends Tables s where
  sys : ((ioHelper helper).restrict WholeCommands).Reachable s.rt.sys
  tracked : Tracked s.rt
  typed : Typed s.rt
  fresh : Fresh s.rt

theorem scanRound_eq_found {g : Globals} {tmpSigpending : BitVec 64} {answer : PollResult}
    {signo subSigno : Nat} (found : (scanRound g tmpSigpending answer).1 = .found signo subSigno) :
    answer = .success subSigno ∧ signo = ffs tmpSigpending - 1 := by
  cases answer with
  | success =>
    cases found
    exact ⟨rfl, rfl⟩
  | noData | communication | busy | generic => cases found

variable {model : FloatModel} {mode : Mode} {reply : CommandResult}

namespace Consistent

variable {s s' : Adaptive}

theorem init (inst : Instance) (stray : Int → List TimedReq) (behind : Nat → ExecTime) :
    Consistent (Adaptive.init inst stray behind) where
  sys := .start rfl
  tracked := Tracked.init inst
  typed _ _ _ _ task := by cases task
  fresh _ _ _ _ task := by cases task
  queued := .init inst stray behind
  indexed _ used := nomatch used
  removals _ member := nomatch member

theorem slotsOk (consistent : Consistent s) : SlotsOk s.rt.sys :=
  slotsOk_of_reachable (exclusive_of_wholeCommands (fun _ _ _ _ => id) consistent.sys)

/-- What holds under the tables carries over by any step; a step has to show what it does to
the tables. -/
theorem next {action : AdaptiveAction} (consistent : Consistent s)
    (step : AdaptiveStep model mode s action s') (tables : Tables s') : Consistent s' := by
  rcases AdaptiveStep.rt consistent.typed step with same | ⟨mode', taken, known, under⟩
  · refine ⟨tables, ?_, ?_, ?_, ?_⟩
    · rw [same]
      exact consistent.sys
    · rw [same]
      exact consistent.tracked
    · rw [same]
      exact consistent.typed
    · rw [same]
      exact consistent.fresh
  · exact ⟨tables, sys_reachable_of_next consistent.sys under,
      consistent.tracked.step consistent.slotsOk under,
      consistent.typed.step consistent.tracked known under,
      consistent.fresh.step consistent.tracked under⟩

theorem indexed_append {indices : List TableIndex} (consistent : Consistent s)
    (inRange : ∀ index ∈ indices, index.InRange) :
    ∀ index ∈ s.indexed ++ indices, index.InRange := by
  intro index used
  rcases List.mem_append.mp used with used | used
  · exact consistent.indexed index used
  · exact inRange index used

/-- A collection takes no handler from a request that waits, unless it is ready. -/
theorem collect {paramTypes : BitVec 32} {params : Params} {after : Pta} (consistent : Consistent s)
    (inRange : InRange (slotOf params))
    (run : (getData paramTypes params).Exec helper s.rt.sys.pta reply after)
    (unready : s.Waiting (slotOf params).1 (slotOf params).2 →
      s.rt.sys.pta.isReadySignal (slotOf params).1 (slotOf params).2 = false) {p q : Nat}
    (waiting : s.Waiting p q) :
    ownersAfter s.rt.owners after params p q = s.rt.owners p q := by
  have used := (consistent.tracked.inUse p q waiting.1).2
  refine ownersAfter_of_inUse inRange ?_
  by_cases here : p = (slotOf params).1 ∧ q = (slotOf params).2
  · obtain ⟨rfl, rfl⟩ := here
    rcases collection_cases (getData_obeys params paramTypes) run with same | ⟨-, ready, -⟩
    · rw [same.sigusing]
      exact used
    · rw [unready waiting] at ready
      cases ready rfl
  · exact (sigusing_of_getData inRange run).2 p q here used

theorem plain {action : RtAction} {rt : Rt} (consistent : Consistent s) (isPlain : IsPlain action)
    (orderly : Orderly mode s (.plain action)) (step : RtStep mode s.rt action rt) :
    Queued (s.withRt rt) := by
  cases step with
  | worker | submit | submitOp | pollSubsignal | changeTable =>
    exact consistent.queued.withRt_of_owners_eq rfl
  | collect paramTypes params reply after wasm inRange run =>
    refine consistent.queued.withRt (fun p q owned => ?_) fun p q waiting => ?_
    · obtain ⟨registration, owner⟩ := Option.ne_none_iff_exists'.mp owned
      rw [(owned_of_ownersAfter inRange owner).1]
      exact Option.some_ne_none _
    · exact (consistent.collect inRange run orderly waiting).trans_ne waiting.1
  | submitDone | setCallback | checkpoint | poll | handlerDone => exact isPlain.elim

theorem checkpoint_inRange {indices : List TableIndex} (consistent : Consistent s)
    (orderly : mode = .interp → s.noProfile = false → s.waitProfile ≤ 0 →
      s.rt.globals.sigpending ≠ 0) (used : s.CheckpointIndices mode indices) :
    ∀ index ∈ indices, index.InRange := by
  rcases used with rfl | ⟨guarded, profiles, expired, used⟩
  · exact fun index member => (nomatch member)
  · have pending : s.rt.globals.sigpending ≠ 0 := by
      cases mode with
      | interp => exact orderly rfl profiles expired
      | aot => exact guarded rfl
    obtain ⟨p, found, small, -⟩ := lowest_of_ne_zero pending
    have profiled : s.profiled = p := by
      rw [Adaptive.profiled, ffs_eq_of_lowest found]
      omega
    rw [profiled] at used
    intro index member
    rcases used index member with rfl | ⟨front, inQueue, rfl⟩
    · exact ⟨Int.natCast_nonneg p, Int.ofNat_lt.mpr small⟩
    · exact ⟨Int.natCast_nonneg _, Int.ofNat_lt.mpr (consistent.queued.types p small front inQueue)⟩

theorem submitted {serial : Nat} {submission : Submission} {handler : Option (BitVec 32)}
    {slot : Option Nat} {phase : SubmitPhase} {args : List Ptr} (consistent : Consistent s)
    (task : s.rt.task = .submit serial submission handler slot)
    (returned : s.rt.sys.submits serial = some ⟨.pure reply, phase, args⟩) (mode : Mode)
    (allocated : Bool) (now : BitVec 64) (len : BitVec 32) :
    Tables (s.submitted mode allocated true now len submission handler reply) := by
  obtain ⟨thread, found, reported, held⟩ := consistent.tracked.submitting _ _ _ _ task
  rw [returned] at found
  cases found
  unfold Adaptive.submitted
  split
  · exact ⟨consistent.queued.withRt_of_owners_eq rfl, consistent.indexed, consistent.removals⟩
  · rename_i succeeded
    obtain ⟨small, q, rfl, answer⟩ := reported.succeeded (not_not.mp succeeded)
    have free := consistent.fresh _ _ _ _ task
    have toNat : reply.params.p0.a.toNat = q := by
      have range : q < 64 := BitVec.lt_of_getLsbD (held q rfl)
      rw [answer, BitVec.toNat_ofNat]
      omega
    simp only [toNat]
    cases handler with
    | none =>
      have occupied := consistent.queued.occupy free submission.params.p0.b
      exact ⟨occupied.withRt_of_owners_eq rfl, consistent.indexed, consistent.removals⟩
    | some handler =>
      have known := consistent.typed _ _ _ _ task
      refine ⟨consistent.queued.register known free mode allocated now, ?_, ?_⟩
      · intro index used
        rcases Adaptive.mem_register_indexed used with used | rfl | rfl
        · exact consistent.indexed index used
        · exact ⟨Int.natCast_nonneg _, Int.ofNat_lt.mpr known⟩
        · exact ⟨Int.natCast_nonneg _, Int.ofNat_lt.mpr small⟩
      · intro removal member
        rw [Adaptive.register_removals] at member
        exact consistent.removals removal member

theorem dequeued {signo subSigno : Nat} (consistent : Consistent s) (small : signo < 64)
    (waiting : s.Waiting signo subSigno)
    (oldest : ∀ other, s.Waiting signo other →
      s.numbers signo subSigno ≤ s.numbers signo other)
    (model : FloatModel) (now : BitVec 64) (stack : TimedReq) :
    Tables (s.dequeue model now stack signo subSigno) := by
  obtain ⟨req, rest, queue, number, -⟩ := consistent.queued.front small waiting oldest
  have inQueue (other : TimedReq) (member : other ∈ req :: rest) : other.type.toNat < nReqType := by
    refine consistent.queued.types signo small other ?_
    rw [queue]
    exact member
  refine ⟨consistent.queued.dequeue model now stack small waiting oldest, ?_, ?_⟩
  · rw [Adaptive.dequeue, queue, List.append_assoc]
    refine consistent.indexed_append fun index used => ?_
    rcases List.mem_append.mp used with used | used
    · rcases List.mem_pair.mp used with rfl | rfl
      · exact ⟨Int.natCast_nonneg _, Int.ofNat_lt.mpr small⟩
      · exact ⟨Int.natCast_nonneg _, Int.ofNat_lt.mpr (inQueue req List.mem_cons_self)⟩
    · obtain ⟨front, isFront, rfl⟩ := List.mem_map.mp used
      have member := List.mem_of_mem_head? (Option.mem_toList.mp isFront)
      exact ⟨Int.natCast_nonneg _, Int.ofNat_lt.mpr (inQueue front (List.mem_cons_of_mem _ member))⟩
  · intro removal member
    rw [Adaptive.dequeue, queue] at member
    rcases List.mem_append.mp member with member | member
    · exact consistent.removals removal member
    · rw [List.mem_singleton.mp member]
      refine ⟨req, rfl, ?_, ?_⟩
      · exact (Queued.owner_of_waiting waiting).trans (congrArg some number.symm)
      · refine (consistent.queued.ownTypes signo small req ?_ subSigno waiting.1 number.symm).symm
        rw [queue]
        exact List.mem_cons_self

theorem polled {tmpSigpending : BitVec 64} {dispatches : Bool} {after : Pta}
    (consistent : Consistent s) (task : s.rt.task = .scan tmpSigpending dispatches)
    (run : (poll pollTypes (pollParams (ffs tmpSigpending - 1))).Exec helper s.rt.sys.pta reply
      after) (model : FloatModel) (mode : Mode) (now : BitVec 64) (stack : TimedReq)
    (orderly : Orderly mode s (.poll now stack)) :
    Tables (s.polled model mode now stack dispatches after
      (scanRound s.rt.globals tmpSigpending (pollToIoHelper reply))) := by
  obtain ⟨-, nonempty⟩ := consistent.tracked.scanning _ _ task
  obtain ⟨p, -, small, isLowest⟩ := lowest_of_ne_zero nonempty
  have owners (outcome : Scan × Globals) :
      ((s.rt.withPta after).scanned mode dispatches outcome).owners = s.rt.owners :=
    (scanned_frame _ mode dispatches outcome).2
  have unchanged {rt : Rt} (same : rt.owners = s.rt.owners) : Tables (s.withRt rt) :=
    ⟨consistent.queued.withRt_of_owners_eq same, consistent.indexed, consistent.removals⟩
  unfold Adaptive.polled
  dsimp only
  split
  · rename_i signo subSigno found
    obtain ⟨success, rfl⟩ := scanRound_eq_found found
    rw [pollAnswer_of_run (isLowest ▸ small) run] at success
    obtain ⟨waiting, oldest⟩ := orderly _ _ task success
    have taken := consistent.dequeued (isLowest ▸ small) waiting oldest model now stack
    exact ⟨taken.queued.withRt_of_owners_eq (owners _), taken.indexed, taken.removals⟩
  · exact unchanged (owners _)

theorem step {action : AdaptiveAction} (consistent : Consistent s) (orderly : Orderly mode s action)
    (step : AdaptiveStep model mode s action s') : Consistent s' := by
  refine consistent.next step ?_
  cases step with
  | plain action rt isPlain taken =>
    exact ⟨consistent.plain isPlain orderly taken, consistent.indexed, consistent.removals⟩
  | submitDone serial submission handler slot reply phase args allocated node now len task
      returned =>
      obtain rfl : node = true := orderly
      exact consistent.submitted task returned mode allocated now len
  | setCallback periphNo subSigno handler allocated node now reply after wasm inRange run =>
    have polled : Tables (s.withRt (s.rt.withPta after)) :=
      ⟨consistent.queued.withRt_of_owners_eq rfl, consistent.indexed, consistent.removals⟩
    split
    · exact polled
    · rename_i succeeded
      have used := inUse_of_pollSubsignal inRange run (not_not.mp succeeded)
      obtain rfl := orderly ((isUsingSigno_eq_true_iff inRange.2).mpr used)
      rw [Adaptive.register, if_pos (.inr (.inr (.inl rfl)))]
      exact ⟨polled.queued.withRt_of_owners_eq rfl, polled.indexed, polled.removals⟩
  | checkpoint now wasm =>
    obtain ⟨rt, _, _, _, indices, checkpoint, under, used⟩ := s.checkpoint_cases mode now
    rw [checkpoint]
    have owners : rt.owners = s.rt.owners := by
      rcases under with rfl | rfl <;> rfl
    refine ⟨{ consistent.queued.withRt_of_owners_eq owners with }, ?_, consistent.removals⟩
    exact consistent.indexed_append (consistent.checkpoint_inRange orderly used)
  | poll tmpSigpending dispatches reply after now stack task run =>
    exact consistent.polled task run model mode now stack orderly
  | handlerDone wasm inHandler =>
    have owners : (s.rt.handlerDone .aot).owners = s.rt.owners := rfl
    exact ⟨{ consistent.queued.withRt_of_owners_eq owners with }, consistent.indexed,
      consistent.removals⟩

end Consistent

/-- In every orderly run every index into the tables is in range, and every dispatch takes the
record of the request it is for, which is of the type of the request. -/
theorem tables_consistent_of_orderly {model : FloatModel} {mode : Mode} {s : Adaptive}
    (reachable : ((adaptiveRuntime model mode).restrict (Orderly mode)).Reachable s) :
    (∀ index ∈ s.indexed, index.InRange) ∧ ∀ removal ∈ s.removals, removal.IsOwn := by
  have consistent : Consistent s := by
    refine reachable.invariant ?_ ?_
    · rintro _ ⟨inst, stray, behind, rfl⟩
      exact Consistent.init inst stray behind
    · rintro before action after - consistent ⟨orderly, step⟩
      exact consistent.step orderly step
  exact ⟨consistent.indexed, consistent.removals⟩

def adaptiveStart : Adaptive :=
  Adaptive.init twoHandlers (fun _ => []) fun _ => ⟨0, 0, 0⟩

/-- The coefficients of the interpreter, in integers. -/
def interpModel : FloatModel where
  newB elapsed b := (76 * elapsed + b) / 100
  newWaitProfile times := (8 * times / 10 : Nat)

/-- An orderly run goes on below the program. -/
theorem orderly_internals {s : Adaptive} {rt : Rt}
    (reachable : ((adaptiveRuntime model mode).restrict (Orderly mode)).Reachable s)
    (internals : Internals mode s.rt rt) :
    ((adaptiveRuntime model mode).restrict (Orderly mode)).Reachable (s.withRt rt) := by
  induction internals with
  | refl => exact reachable
  | tail _ step ih =>
    obtain ⟨action, kind, step⟩ := step
    refine ih.next_restrict (.plain _ action _ ?_ step) ?_
    · cases action
      case worker | submitOp => trivial
      all_goals exact kind.elim
    · cases action
      case worker | submitOp => trivial
      all_goals exact kind.elim

/-- A callback on pin 4 that fails for want of memory and is dispatched. -/
theorem dispatch_on_pin_consistent :
    ∃ s, ((adaptiveRuntime interpModel .interp).restrict (Orderly .interp)).Reachable s ∧
      s.removals.length = 1 ∧ (∀ index ∈ s.indexed, index.InRange) ∧
      ∀ removal ∈ s.removals, removal.IsOwn := by
  have booted : ((adaptiveRuntime interpModel .interp).restrict (Orderly .interp)).Reachable
      adaptiveStart :=
    .start ⟨_, _, _, rfl⟩
  have submitted := booted.next_restrict (.plain _ (.submit (dhtSubmission 4) (some 1)) _
    (fun _ => by decide) (RtStep.submit _ _ _ _ rfl (.submit _ _))) trivial
  have queued := orderly_internals submitted (internals_queue rfl rfl rfl rfl
    (.inr ⟨rfl, 1, fun _ => 0, by decide, rfl, rfl⟩))
  have registered := queued.next_restrict
    (AdaptiveStep.submitDone _ 0 _ _ (some 0) _ _ _ true true 0 0 rfl rfl) rfl
  have ready := orderly_internals registered (internals_refuse (p := 4) rfl rfl)
  have checkpoint := ready.next_restrict (AdaptiveStep.checkpoint _ 1 rfl) fun _ _ _ => by decide
  have handling := checkpoint.next_restrict (AdaptiveStep.poll _ _ true _ _ 1 ⟨0, 0, 0, 0, 0⟩ rfl
    ⟨some 0, _, rfl, rfl, rfl⟩) (by
      intro tmpSigpending subSigno task answer
      cases task
      cases answer
      exact ⟨⟨by decide, by decide⟩, fun _ _ => Nat.zero_le _⟩)
  exact ⟨_, handling, rfl, tables_consistent_of_orderly handling⟩

/-- The first checkpoint of an interpreted program finds no peripheral pending and looks at the
queue before the first. -/
theorem first_checkpoint_before_ioQueues (model : FloatModel) :
    ∃ s, (adaptiveRuntime model .interp).Reachable s ∧ ∃ index ∈ s.indexed, ¬index.InRange := by
  have booted : (adaptiveRuntime model .interp).Reachable adaptiveStart := .start ⟨_, _, _, rfl⟩
  have checkpoint := booted.next (AdaptiveStep.checkpoint _ 0 rfl)
  refine ⟨_, checkpoint, .ioQueues (-1), List.mem_singleton_self _, ?_⟩
  rintro ⟨nonneg, -⟩
  exact absurd nonneg (by decide)

/-- A future and a callback on pin 4.  The result of the future is ready first, and the checkpoint
that finds its slot takes the record of the callback. -/
theorem future_takes_callback_record (model : FloatModel) :
    ∃ s, (adaptiveRuntime model .interp).Reachable s ∧
      ∃ removal ∈ s.removals, ¬removal.IsOwn := by
  have booted : ((adaptiveRuntime model .interp).restrict (Orderly .interp)).Reachable
      adaptiveStart :=
    .start ⟨_, _, _, rfl⟩
  have submitted := booted.next_restrict (.plain _ (.submit (dhtSubmission 4) none) _
    (fun _ => by decide) (RtStep.submit _ _ _ _ rfl (.submit _ _))) trivial
  have queued := orderly_internals submitted (internals_queue rfl rfl rfl rfl
    (.inr ⟨rfl, 1, fun _ => 0, by decide, rfl, rfl⟩))
  have future := queued.next_restrict
    (AdaptiveStep.submitDone _ 0 _ _ (some 0) _ _ _ true true 0 0 rfl rfl) rfl
  have submitted := future.next_restrict (.plain _ (.submit (dhtSubmission 4) (some 1)) _
    (fun _ => by decide) (RtStep.submit _ _ _ _ rfl (.submit _ _))) trivial
  have queued := orderly_internals submitted (internals_queue rfl rfl rfl rfl
    (.inr ⟨rfl, 2, fun _ => 0, by decide, rfl, rfl⟩))
  have registered := queued.next_restrict
    (AdaptiveStep.submitDone _ 1 _ _ (some 1) _ _ _ true true 0 0 rfl rfl) rfl
  have ready := orderly_internals registered (internals_refuse (p := 4) rfl rfl)
  have checkpoint := ready.next_restrict (AdaptiveStep.checkpoint _ 1 rfl) fun _ _ _ => by decide
  have handling := checkpoint.of_restrict.next
    (AdaptiveStep.poll _ _ true _ _ 1 ⟨0, 0, 0, 0, 0⟩ rfl ⟨some 0, _, rfl, rfl, rfl⟩)
  refine ⟨_, handling, _, List.mem_singleton_self _, ?_⟩
  rintro ⟨req, -, isOwner, -⟩
  cases isOwner

/-- An index can be out of range and a dispatch can take the record of another request, with the
arithmetic of the interpreter as with any other. -/
theorem adaptive_tables_inconsistent :
    (∃ s, (adaptiveRuntime interpModel .interp).Reachable s ∧
        ∃ index ∈ s.indexed, ¬index.InRange) ∧
      ∃ s, (adaptiveRuntime interpModel .interp).Reachable s ∧
        ∃ removal ∈ s.removals, ¬removal.IsOwn :=
  ⟨first_checkpoint_before_ioQueues interpModel, future_takes_callback_record interpModel⟩

end TrustWasm.Runtime
