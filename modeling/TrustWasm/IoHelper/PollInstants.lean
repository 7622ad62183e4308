import TrustWasm.IoHelper.Memory

/-!
# The answers of POLL are true at some instant

POLL reads the mask of ready slots and, when it is empty, the count of requests, in two
sections under different mutexes.  Here polls are threads that proceed by single
operations between the steps of the rest of the system, and each poll keeps the states
it has seen since it was called.  The answer that requests are outstanding has no fixed
instant: either a request was in use when the mask was read, or the first one allocated
since then was in use and not ready right after its allocation.
-/

namespace TrustWasm.IoHelper

open TrustWasm.Lib TrustWasm.Lib.Mask TrustWasm.Tee Function

/-! ## The masks of a peripheral -/

/-- Steps with collections in one step and without polls. -/
def Action.IsWhole : Action → Prop
  | .poll .. | .getStart .. | .getOp _ => False
  | _ => True

variable {p : Nat} {instant after : Pta}

section Masks

variable {s : Sys}

/-- A ready slot is in use. -/
theorem SlotProtocol.pending_eq_zero (protocol : SlotProtocol s p)
    (unused : s.pta.sigusing p = 0) : s.pta.sigpending p = 0 := by
  rw [← protocol.pendingInUse, unused]
  exact BitVec.and_zero

/-- The count is zero exactly when no slot is in use. -/
theorem SlotProtocol.reqNum_pos_iff (protocol : SlotProtocol s p) :
    0 < (s.pta.reqNums p).toNat ↔ s.pta.sigusing p ≠ 0 := by
  rw [protocol.count]
  constructor
  · intro positive zero
    rw [zero, popcount_zero] at positive
    exact Nat.lt_irrefl 0 positive
  · intro nonzero
    obtain ⟨q, lowest, -, -⟩ := lowest_of_ne_zero nonzero
    exact popcount_pos ((lowest?_eq_some_iff _ q).mp lowest).2.1

/-- The step that brings the first slot of a peripheral into use makes nothing ready. -/
theorem SlotStep.pending_of_used {v v' : SlotView} (step : SlotStep v v')
    (unused : v.pta.sigusing p = 0) (used : v'.pta.sigusing p ≠ 0) :
    v'.pta.sigpending p = v.pta.sigpending p := by
  cases step with
  | quiet after same => rw [same.sigpending]
  | submit | idle => rfl
  | enqueue => rfl
  | allocate serial p' q' after range fresh step =>
    obtain ⟨-, rfl⟩ := allocateSigno_some step
    rfl
  | dequeue p' req after idle step =>
    unfold Pta.dequeue at step
    split at step
    · cases step
    · cases step
      rfl
  | finish p' req serving => exact absurd unused used
  | release p' q' serial before after isReady first second =>
    refine absurd ?_ used
    rw [second.sigusing, Pta.releaseSigno]
    dsimp only
    rw [update_apply, first.sigusing]
    split
    · rename_i here
      rw [← here, unused]
      exact BitVec.zero_and
    · exact unused

end Masks

/-! ## Polls as threads -/

/-- A poll in progress, with the states since its call. -/
structure PollThread where
  paramTypes : BitVec 32
  params : Params
  prog : Program Helper CommandResult
  seen : List Pta

/-- A poll that has not returned sees the state after a step. -/
def PollThread.note (after : Pta) (thread : PollThread) : PollThread :=
  match thread.prog with
  | .pure _ => thread
  | .call .. => { thread with seen := thread.seen ++ [after] }

/-- The io_helper system with polls that proceed by single operations. -/
structure PollSys where
  sys : Sys
  polls : Nat → Option PollThread

/-- Every poll in progress sees the state. -/
def PollSys.noted (s : PollSys) (after : Pta) : Nat → Option PollThread :=
  fun id => (s.polls id).map (·.note after)

inductive PollAction where
  | other (action : Action)
  | call (id : Nat) (paramTypes : BitVec 32) (params : Params)
  | op (id : Nat)

inductive PollStep : PollSys → PollAction → PollSys → Prop where
  | other (s : PollSys) (action : Action) (after : Sys) :
      action.IsWhole → Step memory s.sys action after →
      PollStep s (.other action) ⟨after, s.noted after.pta⟩
  | call (s : PollSys) (id : Nat) (paramTypes : BitVec 32) (params : Params) :
      s.polls id = none →
      PollStep s (.call id paramTypes params)
        { s with
          polls := update s.polls id
            (some ⟨paramTypes, params, poll paramTypes params, [s.sys.pta]⟩) }
  | op (s : PollSys) (id : Nat) (paramTypes : BitVec 32) (params : Params) (op : HelperOp)
      (next : Helper.Reply op → Program Helper CommandResult) (seen : List Pta)
      (reply : Helper.Reply op) (after : Pta) :
      s.polls id = some ⟨paramTypes, params, .call op next, seen⟩ →
      memory.step s.sys.pta op reply after →
      PollStep s (.op id)
        ⟨{ s.sys with pta := after }, update (s.noted after) id
          (some ⟨paramTypes, params, next reply, seen ++ [after]⟩)⟩

/-- The commands of other clients name existing slots, and submissions match their
handlers. -/
def PollAction.Matched (s : PollSys) : PollAction → Prop
  | .other action => MatchedCommands s.sys action
  | .call .. | .op _ => True

/-- The io_helper in memory from boot, with polls as threads. -/
def pollSystem : System PollSys PollAction where
  initial s := s = ⟨Sys.init, fun _ => none⟩
  step := PollStep

/-- An answer of POLL: with `a = 0` there is no request, and `b` is not written. -/
inductive PollAnswer where
  | idle
  | busy
  | ready (signo : Nat)
  deriving DecidableEq

/-- How a client reads the answer. -/
def PollAnswer.of (reply : CommandResult) : PollAnswer :=
  if reply.params.p0.a = 0 then .idle
  else if reply.params.p0.b = 0xFFFFFFFF then .busy
  else .ready reply.params.p0.b.toNat

/-- What an answer says of the slots of peripheral `p`. -/
def PollAnswer.TrueAt (instant : Pta) (p : Nat) : PollAnswer → Prop
  | .idle => ∀ q, (instant.sigusing p).getLsbD q = false
  | .busy => (∃ q, (instant.sigusing p).getLsbD q = true) ∧
      ∀ q, (instant.sigpending p).getLsbD q = false
  | .ready signo => signo < nSubSig ∧ (instant.sigpending p).getLsbD signo = true ∧
      ∀ q < signo, (instant.sigpending p).getLsbD q = false

/-- The two states differ in the poll statistics only. -/
structure OnlyPollTimes (s s' : Pta) : Prop where
  slots : SameSlots s s'
  heap : s'.heap = s.heap
  fields : ∀ i, (s'.signalTable i).ret = (s.signalTable i).ret ∧
    (s'.signalTable i).len = (s.signalTable i).len ∧
    (s'.signalTable i).buf = (s.signalTable i).buf

/-! ## The sections of POLL -/

/-- POLL after it has found no ready slot. -/
def pollCount (params : Params) (p : Nat) : Program Helper CommandResult :=
  .call (.getReqNum p) fun (reqNum : BitVec 32) =>
    if 0 < reqNum.toNat then
      .pure ⟨teeSuccess, { params with p0 := (params.p0.setA 1).setB 0xFFFFFFFF }, []⟩
    else
      .pure ⟨teeSuccess, { params with p0 := params.p0.setA 0 }, []⟩

/-- POLL after its first section. -/
def pollAfter (params : Params) (p : Nat) : Option Nat → Program Helper CommandResult
  | none => pollCount params p
  | some signo =>
    .pure ⟨teeSuccess, { params with p0 := (params.p0.setA 1).setB (BitVec.ofNat 32 signo) }, []⟩

theorem poll_eq (paramTypes : BitVec 32) (params : Params) :
    poll paramTypes params = .pure (.error teeErrorBadParameters params) ∨
      toUint16 params.p0.a < nPeriph ∧ poll paramTypes params =
        .call (.getReadySignal (toUint16 params.p0.a))
          (pollAfter params (toUint16 params.p0.a)) := by
  unfold poll
  split
  · exact .inl rfl
  · split
    · exact .inl rfl
    · rename_i periph
      refine .inr ⟨Nat.lt_of_not_le periph, ?_⟩
      refine congrArg (Program.call (I := Helper) _) (funext fun signo => ?_)
      cases signo with
      | none => rfl
      | some signo => rfl

/-- The first section finds the lowest ready slot and counts the poll. -/
theorem getReadySignal_spec {s s' : Pta} {reply : Option Nat}
    (step : s.getReadySignal p = (reply, s')) :
    reply = lowest? (s.sigpending p) ∧ OnlyPollTimes s s' := by
  have same := getReadySignal_sameSlots step
  unfold Pta.getReadySignal at step
  dsimp only at step
  split at step
  · rename_i nonempty
    obtain ⟨q, lowest, -, isLowest⟩ := lowest_of_ne_zero nonempty
    cases step
    refine ⟨by rw [lowest, isLowest], same, rfl, fun i => ?_⟩
    simp only [Pta.setEntry, Pta.entry, update_apply]
    split
    · rename_i here
      rw [here]
      exact ⟨rfl, rfl, rfl⟩
    · exact ⟨rfl, rfl, rfl⟩
  · rename_i empty
    cases step
    refine ⟨?_, same, rfl, fun i => ⟨rfl, rfl, rfl⟩⟩
    exact ((lowest?_eq_none_iff _).mpr (not_not.mp empty)).symm

theorem OnlyPollTimes.refl (s : Pta) : OnlyPollTimes s s :=
  ⟨.refl s, rfl, fun _ => ⟨rfl, rfl, rfl⟩⟩

theorem getLsbD_false_iff {mask : BitVec 64} : (∀ q, mask.getLsbD q = false) ↔ mask = 0 := by
  constructor
  · intro clear
    apply BitVec.eq_of_getLsbD_eq
    intro q _
    rw [clear q]
    exact BitVec.getLsbD_zero.symm
  · rintro rfl q
    exact BitVec.getLsbD_zero

theorem exists_getLsbD_iff {mask : BitVec 64} : (∃ q, mask.getLsbD q = true) ↔ mask ≠ 0 := by
  rw [ne_eq, ← getLsbD_false_iff, not_forall]
  simp only [Bool.not_eq_false]

theorem trueAt_busy_iff :
    PollAnswer.busy.TrueAt instant p ↔ instant.sigusing p ≠ 0 ∧ instant.sigpending p = 0 :=
  and_congr exists_getLsbD_iff getLsbD_false_iff

theorem trueAt_idle_iff :
    PollAnswer.idle.TrueAt instant p ↔ instant.sigusing p = 0 :=
  getLsbD_false_iff

theorem trueAt_ready_iff {signo : Nat} :
    (PollAnswer.ready signo).TrueAt instant p ↔
      lowest? (instant.sigpending p) = some signo :=
  (lowest?_eq_some_iff _ _).symm

/-! ## Polls along a run -/

/-- Where a poll stands.  Between its sections, either an instant has been seen at which
the answer `busy` was true, or no slot is in use now. -/
inductive PollThread.Ok (now : Pta) : PollThread → Prop where
  | called {paramTypes : BitVec 32} {params : Params} {seen : List Pta} :
      toUint16 params.p0.a < nPeriph →
      PollThread.Ok now ⟨paramTypes, params, .call (.getReadySignal (toUint16 params.p0.a))
        (pollAfter params (toUint16 params.p0.a)), seen⟩
  | counting {paramTypes : BitVec 32} {params : Params} {seen : List Pta} :
      toUint16 params.p0.a < nPeriph →
      (∃ instant ∈ seen, PollAnswer.busy.TrueAt instant (toUint16 params.p0.a)) ∨
        now.sigusing (toUint16 params.p0.a) = 0 →
      PollThread.Ok now ⟨paramTypes, params, pollCount params (toUint16 params.p0.a), seen⟩
  | returned {paramTypes : BitVec 32} {params : Params} {seen : List Pta}
      {reply : CommandResult} :
      (reply.res = teeSuccess → ∃ instant ∈ seen,
        (PollAnswer.of reply).TrueAt instant (toUint16 params.p0.a)) →
      PollThread.Ok now ⟨paramTypes, params, .pure reply, seen⟩

section Threads

variable {now : Pta} {thread : PollThread}

/-- A step in which the slots of no peripheral become used and ready at once. -/
theorem PollThread.Ok.note (ok : thread.Ok now)
    (used : ∀ p, now.sigusing p = 0 → after.sigusing p ≠ 0 → after.sigpending p = 0) :
    (thread.note after).Ok after := by
  cases ok with
  | called periph => exact .called periph
  | returned answered => exact .returned answered
  | @counting paramTypes params seen periph witnessed =>
    refine .counting periph ?_
    rcases witnessed with ⟨instant, isSeen, isTrue⟩ | unused
    · exact .inl ⟨instant, List.mem_append_left _ isSeen, isTrue⟩
    · by_cases still : after.sigusing (toUint16 params.p0.a) = 0
      · exact .inr still
      · exact .inl ⟨after, List.mem_append_right _ (List.mem_singleton.mpr rfl),
          trueAt_busy_iff.mpr ⟨still, used _ unused still⟩⟩

/-- The state after an operation of a poll has been seen by it. -/
theorem mem_seen (seen : List Pta) (after : Pta) : after ∈ seen ++ [after] :=
  List.mem_append_right _ (List.mem_singleton.mpr rfl)

theorem PollAnswer.of_busy (params : Params) :
    PollAnswer.of ⟨teeSuccess, { params with p0 := (params.p0.setA 1).setB 0xFFFFFFFF }, []⟩ =
      .busy := by
  simp [PollAnswer.of]

theorem PollAnswer.of_idle (params : Params) :
    PollAnswer.of ⟨teeSuccess, { params with p0 := params.p0.setA 0 }, []⟩ = .idle := by
  simp [PollAnswer.of]

theorem PollAnswer.of_ready (params : Params) {signo : Nat} (small : signo < 64) :
    PollAnswer.of ⟨teeSuccess,
      { params with p0 := (params.p0.setA 1).setB (BitVec.ofNat 32 signo) }, []⟩ =
      .ready signo := by
  have value : (BitVec.ofNat 32 signo).toNat = signo := by
    rw [BitVec.toNat_ofNat]
    omega
  have notBusy : BitVec.ofNat 32 signo ≠ 0xFFFFFFFF#32 := by
    intro equal
    have natural := congrArg BitVec.toNat equal
    rw [value] at natural
    change signo = 4294967295 at natural
    omega
  simp [PollAnswer.of, value, notBusy]

/-- An operation of a poll: it counts the poll at most, and the poll goes on as its
sections say. -/
theorem PollThread.Ok.op {s : Sys} {paramTypes : BitVec 32} {params : Params} {op : HelperOp}
    {next : Helper.Reply op → Program Helper CommandResult} {seen : List Pta}
    {reply : Helper.Reply op} (protocol : ∀ p, SlotProtocol s p)
    (ok : PollThread.Ok s.pta ⟨paramTypes, params, .call op next, seen⟩)
    (step : memory.step s.pta op reply after) :
    OnlyPollTimes s.pta after ∧
      PollThread.Ok after ⟨paramTypes, params, next reply, seen ++ [after]⟩ := by
  cases ok with
  | called periph =>
    obtain ⟨isLowest, only⟩ := getReadySignal_spec (step.1.1 periph)
    refine ⟨only, ?_⟩
    cases reply with
    | none =>
      have empty : after.sigpending (toUint16 params.p0.a) = 0 := by
        rw [only.slots.sigpending]
        exact (lowest?_eq_none_iff _).mp isLowest.symm
      refine .counting periph ?_
      by_cases unused : after.sigusing (toUint16 params.p0.a) = 0
      · exact .inr unused
      · exact .inl ⟨after, mem_seen seen after, trueAt_busy_iff.mpr ⟨unused, empty⟩⟩
    | some signo =>
      refine .returned fun _ => ⟨after, mem_seen seen after, ?_⟩
      have small := ((lowest?_eq_some_iff _ _).mp isLowest.symm).1
      rw [PollAnswer.of_ready params small, trueAt_ready_iff, only.slots.sigpending]
      exact isLowest.symm
  | counting periph witnessed =>
    obtain ⟨rfl, rfl⟩ := step.1.1 periph
    refine ⟨.refl _, ?_⟩
    dsimp only [Pta.getReqNum]
    split
    · rename_i positive
      have used := (protocol _).reqNum_pos_iff.mp positive
      refine .returned fun _ => ?_
      rw [PollAnswer.of_busy]
      rcases witnessed with ⟨instant, isSeen, isTrue⟩ | unused
      · exact ⟨instant, List.mem_append_left _ isSeen, isTrue⟩
      · exact absurd unused used
    · rename_i zero
      have unused := not_not.mp (mt (protocol _).reqNum_pos_iff.mpr zero)
      refine .returned fun _ => ⟨s.pta, mem_seen seen s.pta, ?_⟩
      rw [PollAnswer.of_idle, trueAt_idle_iff]
      exact unused

end Threads

/-- The system and its polls. -/
structure PollsOk (s : PollSys) : Prop where
  heap : HeapOk s.sys
  gets : ∀ id, s.sys.gets id = none
  polls : ∀ id thread, s.polls id = some thread → thread.Ok s.sys.pta

section Runs

variable {s s' : PollSys}

theorem PollsOk.protocol (ok : PollsOk s) (p : Nat) : SlotProtocol s.sys p := by
  obtain ⟨-, -, board, inv⟩ := ok.heap.slots
  exact inv.slotProtocol p

/-- The polls that only watch a step. -/
theorem PollsOk.noted (ok : PollsOk s)
    (used : ∀ p, s.sys.pta.sigusing p = 0 → after.sigusing p ≠ 0 → after.sigpending p = 0)
    (id : Nat) (thread : PollThread) (found : s.noted after id = some thread) :
    thread.Ok after := by
  obtain ⟨before, isBefore, rfl⟩ := Option.map_eq_some_iff.mp found
  exact (ok.polls id before isBefore).note used

/-- The poll statistics are of no concern to the other threads. -/
theorem HeapOk.onlyPollTimes {sys : Sys} (ok : HeapOk sys) (only : OnlyPollTimes sys.pta after) :
    HeapOk { sys with pta := after } := by
  obtain ⟨⟨threads, collectors, board, slots⟩, heap, owner, inv⟩ := ok
  have store : SameStore sys.pta after :=
    ⟨only.heap, only.slots.reqQueues, fun _ _ => ⟨(only.fields _).1, (only.fields _).2.1,
      (only.fields _).2.2⟩⟩
  obtain ⟨heap', actor, owner', moved, -⟩ :
      HeapThreads { sys with pta := after } ∧ HeapMove sys { sys with pta := after } owner :=
    heap_frame heap inv store rfl (fun _ _ => id) rfl rfl
  exact ⟨⟨⟨threads.unusedSubmits, threads.unusedGets, threads.submits, threads.loops,
    threads.gets⟩, collectors.frame rfl fun _ _ _ => rfl, board, slots.quiet only.slots⟩, heap',
    owner', inv.step moved⟩

theorem PollsOk.step {action : PollAction} (ok : PollsOk s) (matched : action.Matched s)
    (step : PollStep s action s') : PollsOk s' := by
  cases step with
  | other action after whole step =>
    have taken := step_of_reliable (ok.heap.reliable_of_memory ok.gets matched step)
    have orderly := orderly_of_gets ok.gets matched
    refine ⟨ok.heap.step orderly taken, fun id => ?_, ok.noted fun p unused used => ?_⟩
    · cases taken with
      | poll | getStart | getOp => exact whole.elim
      | submit | submitOp | dequeue | loopOp | loopDone | pollSubsignal | getData =>
        exact ok.gets id
    · obtain ⟨threads, collectors, board, inv⟩ := ok.heap.slots
      have slots := slotStep_of_step threads collectors inv orderly.1 taken
      exact (slots.pending_of_used unused used).trans ((ok.protocol p).pending_eq_zero unused)
  | call id paramTypes params unused =>
    refine ⟨ok.heap, ok.gets, forall_of_update ?_ ok.polls⟩
    rcases poll_eq paramTypes params with refused | ⟨periph, accepted⟩
    · rw [refused]
      exact .returned fun succeeded =>
        absurd succeeded (show teeErrorBadParameters ≠ teeSuccess by decide)
    · rw [accepted]
      exact .called periph
  | op id paramTypes params op next seen reply after found step =>
    obtain ⟨only, goesOn⟩ := (ok.polls id _ found).op ok.protocol step
    refine ⟨ok.heap.onlyPollTimes only, ok.gets,
      forall_of_update goesOn (ok.noted fun p unused used => ?_)⟩
    rw [only.slots.sigusing] at used
    exact absurd unused used

theorem pollsOk_of_reachable
    (reachable : (pollSystem.restrict fun s action => action.Matched s).Reachable s) :
    PollsOk s := by
  refine reachable.invariant ?_ ?_
  · rintro state rfl
    exact ⟨.init, fun _ => rfl, fun id thread found => nomatch found⟩
  · intro state action after _ ok step
    exact ok.step step.1 step.2

end Runs

/-- When the commands of all clients name existing slots and match their handlers, a poll
that has succeeded gave an answer that was true in some state between its call and its
return, and the operations of a poll change nothing but the poll statistics. -/
theorem poll_true_at_some_instant {s : PollSys}
    (reachable : (pollSystem.restrict fun s action => action.Matched s).Reachable s) :
    (∀ id thread reply, s.polls id = some thread → thread.prog = .pure reply →
      reply.res = teeSuccess →
      ∃ instant ∈ thread.seen, (PollAnswer.of reply).TrueAt instant (toUint16 thread.params.p0.a)) ∧
    (∀ id s', PollStep s (.op id) s' →
      s'.sys = { s.sys with pta := s'.sys.pta } ∧ OnlyPollTimes s.sys.pta s'.sys.pta) ∧
    ∀ id paramTypes params s', PollStep s (.call id paramTypes params) s' → s'.sys = s.sys := by
  have ok := pollsOk_of_reachable reachable
  refine ⟨?_, ?_, ?_⟩
  · intro id thread reply found returned succeeded
    cases ok.polls id thread found with
    | called | counting => cases returned
    | returned answered =>
      cases returned
      exact answered succeeded
  · intro id s' step
    cases step with
    | op _ paramTypes params op next seen reply after found taken =>
      exact ⟨rfl, ((ok.polls id _ found).op ok.protocol taken).1⟩
  · intro id paramTypes params s' step
    cases step
    rfl

/-- A READ_REQ for the length of a GNSS record on the I2C bus of peripheral 28. -/
def gnssLenSubmission : Submission where
  cmd := .readReq
  paramTypes := readReqTypes
  params := ⟨.value 28 12, .value 32 0, .value 0 0, .value 0 0⟩
  uninit := null

/-- The parameters of a POLL. -/
def pollRequest (p : BitVec 32) : Params :=
  ⟨.value p 0, ⟨null, 0⟩, ⟨null, 0⟩, ⟨null, 0⟩⟩

/-- A poll whose mask is read before the first submission has a slot, and whose count is
read after: it answers `busy`. -/
theorem poll_busy_between_sections :
    ∃ s thread reply, (pollSystem.restrict fun s action => action.Matched s).Reachable s ∧
      s.polls 0 = some thread ∧ thread.prog = .pure reply ∧ PollAnswer.of reply = .busy ∧
      ∃ instant ∈ thread.seen, PollAnswer.busy.TrueAt instant 28 := by
  have inArrays : 28 < nPeriph := by decide
  have booted : (pollSystem.restrict fun s action => action.Matched s).Reachable
      ⟨Sys.init, fun _ => none⟩ := .start rfl
  have called := booted.next_restrict (PollStep.call _ 0 pollTypes (pollRequest 28) rfl) trivial
  have scanned := called.next_restrict (PollStep.op _ 0 _ _ (.getReadySignal 28) _ _ none _ rfl
    (memory_of_inside inArrays rfl trivial)) trivial
  have submitted := scanned.next_restrict (PollStep.other _ (.submit gnssLenSubmission) _ trivial
    (.submit _ gnssLenSubmission)) ⟨trivial, False.elim, False.elim, by decide⟩
  have allocated := submitted.next_restrict (PollStep.other _ (.submitOp 0) _ trivial
    (.submitOp _ 0 (.allocateSigno 28) _ .fresh [] (some 0) _ rfl
      (memory_of_inside inArrays rfl trivial))) ⟨trivial, trivial⟩
  have counted := allocated.next_restrict (PollStep.op _ 0 _ _ (.getReqNum 28) _ _
    (1 : BitVec 32) _ rfl (memory_of_inside inArrays ⟨rfl, rfl⟩ trivial)) trivial
  exact ⟨_, _, _, counted, rfl, rfl, rfl, (poll_true_at_some_instant counted).1 0 _ _ rfl rfl rfl⟩

/-- A GET_DATA of peripheral 78 is not refused.  Behind the arrays it may find a set bit
and zeros for a result, and the mask it releases the slot in may be the count of
peripheral 28. -/
theorem getData_beyond_arrays (s : Pta) :
    (getData getDataTypes (getDataParams 78 0 0)).Exec memory s
      ⟨teeSuccess, getDataParams 0 0 0, []⟩
      { s with reqNums := update s.reqNums 28 0 } := by
  have ready : memory.step s (.isReadySignal 78 0) true s :=
    memory_of_outside (show ¬78 < nPeriph by decide) rfl trivial
  have beyond : ¬slotIndex 78 0 < nPeriph * nSubSig := by decide
  have ret : memory.step s (.getRet 78 0) (0 : BitVec 32) s := memory_of_outside beyond rfl trivial
  have len : memory.step s (.getLen 78 0) (0 : BitVec 32) s := memory_of_outside beyond rfl trivial
  have released : memory.step s (.releaseSigno 78 0) ()
      { s with reqNums := update s.reqNums 28 0 } :=
    memory_of_outside (show ¬78 < nPeriph by decide) ⟨rfl, rfl⟩ trivial
  exact ⟨true, s, ready, (0 : BitVec 32), s, ret, (0 : BitVec 32), s, len, (0 : BitVec 32), s, len,
    (0 : BitVec 32), s, len, (0 : BitVec 32), s, ret, (), _, released, rfl, rfl⟩

/-- A poll of peripheral 28 answers `idle` after that, although its request is in use. -/
theorem poll_idle_while_in_use :
    ∃ s thread reply, pollSystem.Reachable s ∧ s.polls 0 = some thread ∧
      thread.prog = .pure reply ∧ reply.res = teeSuccess ∧
      ∀ instant ∈ thread.seen, ¬(PollAnswer.of reply).TrueAt instant 28 := by
  have inArrays : 28 < nPeriph := by decide
  have booted : pollSystem.Reachable ⟨Sys.init, fun _ => none⟩ := .start rfl
  have submitted := booted.next (PollStep.other _ (.submit gnssLenSubmission) _ trivial
    (.submit _ gnssLenSubmission))
  have allocated := submitted.next (PollStep.other _ (.submitOp 0) _ trivial
    (.submitOp _ 0 (.allocateSigno 28) _ .fresh [] (some 0) _ rfl
      (memory_of_inside inArrays rfl trivial)))
  have collected := allocated.next (PollStep.other _ (.getData getDataTypes (getDataParams 78 0 0))
    _ trivial (.getData _ getDataTypes (getDataParams 78 0 0) _ _ (getData_beyond_arrays _)))
  have called := collected.next (PollStep.call _ 0 pollTypes (pollRequest 28) rfl)
  have scanned := called.next (PollStep.op _ 0 _ _ (.getReadySignal 28) _ _ none _ rfl
    (memory_of_inside inArrays rfl trivial))
  have counted := scanned.next (PollStep.op _ 0 _ _ (.getReqNum 28) _ _ (0 : BitVec 32) _ rfl
    (memory_of_inside inArrays ⟨rfl, rfl⟩ trivial))
  refine ⟨_, _, _, counted, rfl, rfl, rfl, fun instant seen idle => ?_⟩
  have unused : instant.sigusing 28 = 0 := trueAt_idle_iff.mp idle
  have used : instant.sigusing 28 = 1 := by
    rcases List.mem_cons.mp seen with rfl | seen
    · rfl
    · rcases List.mem_cons.mp seen with rfl | seen
      · rfl
      · rw [List.mem_singleton.mp seen]
        rfl
  rw [used] at unused
  exact absurd unused (by decide)

end TrustWasm.IoHelper
