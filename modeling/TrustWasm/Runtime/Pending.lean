import TrustWasm.IoHelper.CommandRuns
import TrustWasm.Runtime.Internals

/-!
# Pending peripherals

A peripheral with a request that has a handler stays in the mask the runtime
polls, or in the mask it recovers after a handler, until the request is
collected.  A poll removes a peripheral only when the io_helper counts no
request there, and a slot with a handler is in use.
-/

namespace TrustWasm.Runtime

open TrustWasm.Lib TrustWasm.Lib.Mask TrustWasm.Tee TrustWasm.IoHelper Function

/-! ## The io_helper under the runtime -/

section Frames

variable (s : Rt) (mode : Mode) (allocated dispatches : Bool) (signo subSigno : Nat)
  (handler : BitVec 32)

@[simp]
theorem register_sys : (s.register mode allocated signo subSigno handler).sys = s.sys := by
  unfold Rt.register
  split <;> rfl

@[simp]
theorem submitted_sys (submission : Submission) (callback : Option (BitVec 32))
    (reply : CommandResult) :
    (s.submitted mode allocated submission callback reply).sys = s.sys := by
  unfold Rt.submitted
  split
  · rfl
  · split
    · rfl
    · exact register_sys s mode allocated _ _ _

theorem register_task : (s.register mode allocated signo subSigno handler).task = .wasm := by
  unfold Rt.register
  split <;> rfl

theorem submitted_task (submission : Submission) (callback : Option (BitVec 32))
    (reply : CommandResult) :
    (s.submitted mode allocated submission callback reply).task = .wasm := by
  unfold Rt.submitted
  split
  · rfl
  · split
    · rfl
    · exact register_task s mode allocated _ _ _

/-- A call of a handler changes the task, the masks and the record of calls only. -/
theorem dispatch_frame : (s.dispatch mode signo subSigno).sys = s.sys ∧
    (s.dispatch mode signo subSigno).owners = s.owners ∧
    (s.dispatch mode signo subSigno).inst = s.inst ∧
    (s.dispatch mode signo subSigno).globals.sigtable = s.globals.sigtable := by
  unfold Rt.dispatch
  split <;> exact ⟨rfl, rfl, rfl, rfl⟩

theorem scanned_frame (outcome : Scan × Globals) :
    (s.scanned mode dispatches outcome).sys = s.sys ∧
      (s.scanned mode dispatches outcome).owners = s.owners := by
  obtain ⟨scan, globals⟩ := outcome
  cases scan with
  | found p q =>
    cases dispatches with
    | true =>
      have frame := dispatch_frame { s with globals := globals } mode p q
      exact ⟨frame.1, frame.2.1⟩
    | false => exact ⟨rfl, rfl⟩
  | polling => exact ⟨rfl, rfl⟩

@[simp]
theorem scanned_sys (outcome : Scan × Globals) :
    (s.scanned mode dispatches outcome).sys = s.sys :=
  (scanned_frame s mode dispatches outcome).1

@[simp]
theorem handlerDone_sys : (s.handlerDone mode).sys = s.sys := by
  unfold Rt.handlerDone
  cases mode <;> rfl

end Frames

theorem scan_task (s : Rt) (dispatches : Bool) (serial : Nat) (submission : Submission)
    (handler : Option (BitVec 32)) (slot : Option Nat) :
    (s.scan dispatches).task ≠ .submit serial submission handler slot := by
  intro task
  simp only [Rt.scan] at task
  split at task <;> cases task

theorem scanned_task (s : Rt) (mode : Mode) (dispatches : Bool) (outcome : Scan × Globals)
    (serial : Nat) (submission : Submission) (handler : Option (BitVec 32)) (slot : Option Nat) :
    (s.scanned mode dispatches outcome).task ≠ .submit serial submission handler slot := by
  intro task
  unfold Rt.scanned at task
  split at task
  · split at task
    · unfold Rt.dispatch at task
      split at task <;> cases task
    · cases task
  · dsimp only at task
    split at task <;> cases task

variable {action : RtAction} {mode : Mode} {s s' after : Pta} {p q serial : Nat} {op : HelperOp}
    {phase : SubmitPhase} {paramTypes : BitVec 32} {reply : CommandResult} {params : Params}
    {slot : Option Nat} {args : List Ptr}

/-- A step of the runtime leaves the io_helper alone or is a whole command or a
worker's step there. -/
theorem RtStep.sys {s s' : Rt} (step : RtStep mode s action s') :
    s'.sys = s.sys ∨
      ∃ taken, WholeCommands s.sys taken ∧ Step helper s.sys taken s'.sys := by
  cases step with
  | worker action sys isWorker step =>
    refine .inr ⟨action, ?_, step⟩
    cases action
    case dequeue | loopOp => trivial
    all_goals exact isWorker.elim
  | submit submission handler sys _ step => exact .inr ⟨.submit submission, trivial, step⟩
  | submitOp serial submission handler slot op next phase args reply after _ found step =>
    exact .inr ⟨.submitOp serial, trivial, .submitOp _ _ _ _ _ _ _ _ found step⟩
  | submitDone => exact .inl (submitted_sys _ _ _ _ _ _)
  | setCallback p q handler allocated reply after _ _ run =>
    refine .inr ⟨.pollSubsignal pollTypes (slotParams p q), trivial, ?_⟩
    split
    · exact .pollSubsignal _ _ _ reply after run
    · rw [register_sys]
      exact .pollSubsignal _ _ _ reply after run
  | pollSubsignal p q reply after _ _ run =>
    exact .inr ⟨.pollSubsignal pollTypes (slotParams p q), trivial,
      .pollSubsignal _ _ _ reply after run⟩
  | collect paramTypes params reply after _ inRange run =>
    exact .inr ⟨.getData paramTypes params, inRange, .getData _ _ _ reply after run⟩
  | checkpoint => exact .inl rfl
  | poll tmpSigpending dispatches reply after _ run =>
    refine .inr ⟨.poll pollTypes (pollParams (ffs tmpSigpending - 1)), trivial, ?_⟩
    rw [scanned_sys]
    exact .poll _ _ _ reply after run
  | handlerDone => exact .inl (handlerDone_sys _ _)
  | changeTable => exact .inl rfl

theorem sys_reachable_of_next {s s' : Rt}
    (reachable : ((ioHelper helper).restrict WholeCommands).Reachable s.sys)
    (step : RtStep mode s action s') :
    ((ioHelper helper).restrict WholeCommands).Reachable s'.sys := by
  rcases RtStep.sys step with same | ⟨taken, whole, step⟩
  · rw [same]
    exact reachable
  · exact .next reachable ⟨whole, step⟩

theorem sys_reachable {s : Rt} (reachable : (runtime mode).Reachable s) :
    ((ioHelper helper).restrict WholeCommands).Reachable s.sys := by
  induction reachable with
  | start initial =>
    obtain ⟨inst, rfl⟩ := initial
    exact .start rfl
  | next _ step ih => exact sys_reachable_of_next ih step

/-- The slots of the io_helper under the runtime keep to the slot protocol. -/
theorem slotsOk {s : Rt} (reachable : (runtime mode).Reachable s) :
    SlotsOk s.sys :=
  slotsOk_of_reachable (exclusive_of_wholeCommands (fun _ _ _ _ => id) (sys_reachable reachable))

/-! ## Slots in use -/

/-- The slots in use stay in use. -/
def KeepsUse (s s' : Pta) : Prop :=
  ∀ p q, (s.sigusing p).getLsbD q = true → (s'.sigusing p).getLsbD q = true

theorem keepsUse_of_sameSlots (same : SameSlots s s') : KeepsUse s s' := by
  intro p q
  rw [same.sigusing]
  exact id

theorem keepsUse_of_allocate (step : s.allocateSigno p = (some q, s')) :
    KeepsUse s s' ∧ (s'.sigusing p).getLsbD q = true := by
  obtain ⟨found, rfl⟩ := allocateSigno_some step
  have inRange : q < 64 := ((lowest?_eq_some_iff _ _).mp found).1
  constructor
  · intro p' q' inUse
    by_cases here : p' = p
    · subst here
      simp only [update_self, getLsbD_or_bit inRange, inUse, Bool.true_or]
    · simp only [update_of_ne here]
      exact inUse
  · simp only [update_self, getLsbD_or_bit inRange, decide_true, Bool.or_true]

/-- The workers neither allocate nor release slots. -/
theorem sigusing_of_worker {s s' : Sys} {action : Action} (threads : Threads s)
    (isWorker : IsWorker action) (step : Step helper s action s') :
    s'.pta.sigusing = s.pta.sigusing := by
  cases step with
  | dequeue p req after idle taken =>
    unfold Pta.dequeue at taken
    split at taken
    · cases taken
    · cases taken
      rfl
  | loopOp p req op next served work reply after found taken =>
    have allowed : loopGuard p req.signo served op := (threads.loops p _ found).1
    obtain ⟨-, ⟨isLocal, -⟩ | rfl⟩ := loopGuard_cases allowed
    · exact (sameSlots_of_isLocal taken isLocal).sigusing
    · obtain rfl : after = _ := taken
      rfl
  | loopDone => rfl
  | _ => exact isWorker.elim

theorem keepsUse_of_submitOp {reply : Helper.Reply op} (allowed : submitGuard serial phase op)
    (step : helperStep s op reply s') : KeepsUse s s' := by
  rcases submitGuard_cases allowed with isLocal | ⟨p, rfl, -, -⟩ | ⟨p, req, rfl, -, -⟩
  · exact keepsUse_of_sameSlots (sameSlots_of_isLocal step isLocal)
  · cases reply with
    | none =>
      obtain ⟨-, rfl⟩ := allocateSigno_none step
      exact fun _ _ => id
    | some q => exact (keepsUse_of_allocate step).1
  · rcases step with ⟨-, rfl⟩ | ⟨-, addr, junk, -, -, rfl⟩
    · exact fun _ _ => id
    · exact fun _ _ => id

/-- A poll leaves the slots as they are. -/
theorem sameSlots_of_poll (run : (poll paramTypes params).Exec helper s reply s') :
    SameSlots s s' :=
  sameSlots_of_exec ((poll_uses _ _).mono fun _ => HelperOp.IsPoll.isLocal) run

theorem sameSlots_of_pollSubsignal
    (run : (pollSubsignal paramTypes params).Exec helper s reply s') :
    SameSlots s s' :=
  sameSlots_of_exec ((pollSubsignal_uses _ _).mono fun _ => HelperOp.IsPoll.isLocal) run

theorem isUsingSigno_eq_true_iff (inRange : q < 64) :
    s.isUsingSigno p q = true ↔ (s.sigusing p).getLsbD q = true := by
  rw [Pta.isUsingSigno, bne_iff_ne]
  exact and_bit_ne_zero_iff inRange _

/-- A collection takes no slot into use and keeps the slots it does not name. -/
theorem sigusing_of_getData (inRange : InRange (slotOf params))
    (run : (getData paramTypes params).Exec helper s reply s') :
    (∀ p q, (s'.sigusing p).getLsbD q = true → (s.sigusing p).getLsbD q = true) ∧
      ∀ p q, ¬(p = (slotOf params).1 ∧ q = (slotOf params).2) →
        (s.sigusing p).getLsbD q = true → (s'.sigusing p).getLsbD q = true := by
  rcases collection_cases (getData_obeys params paramTypes) run with
    same | ⟨-, -, before, first, second⟩
  · rw [same.sigusing]
    exact ⟨fun _ _ => id, fun _ _ _ => id⟩
  · have slot (p q : Nat) : (s'.sigusing p).getLsbD q = true ↔
        (s.sigusing p).getLsbD q = true ∧ ¬(p = (slotOf params).1 ∧ q = (slotOf params).2) := by
      rw [second.sigusing]
      simp only [Pta.releaseSigno]
      by_cases here : p = (slotOf params).1
      · subst here
        rw [update_self, getLsbD_and_not_bit (show (slotOf params).2 < 64 from inRange.2),
          first.sigusing]
        simp
      · rw [update_of_ne here, first.sigusing]
        simp [here]
    exact ⟨fun p q used => ((slot p q).mp used).1,
      fun p q other used => (slot p q).mpr ⟨used, other⟩⟩

/-- A slot with a handler after a collection had it before, and it is in use or is
not the slot that was named. -/
theorem owned_of_ownersAfter {owners : Nat → Nat → Option Registration}
    {registration : Registration} (inRange : InRange (slotOf params))
    (owned : ownersAfter owners after params p q = some registration) :
    owners p q = some registration ∧ ((after.sigusing p).getLsbD q = true ∨
      ¬(p = (slotOf params).1 ∧ q = (slotOf params).2)) := by
  unfold ownersAfter at owned
  split at owned
  · rename_i stillUsed
    refine ⟨owned, ?_⟩
    by_cases here : p = (slotOf params).1 ∧ q = (slotOf params).2
    · obtain ⟨rfl, rfl⟩ := here
      exact .inl ((isUsingSigno_eq_true_iff inRange.2).mp stillUsed)
    · exact .inr here
  · by_cases here : p = (slotOf params).1 ∧ q = (slotOf params).2
    · obtain ⟨rfl, rfl⟩ := here
      rw [setSlot_self] at owned
      cases owned
    · rw [setSlot_of_ne _ _ here] at owned
      exact ⟨owned, .inr here⟩

/-- A slot that is in use after a collection keeps its handler. -/
theorem ownersAfter_of_inUse {owners : Nat → Nat → Option Registration}
    (inRange : InRange (slotOf params)) (used : (after.sigusing p).getLsbD q = true) :
    ownersAfter owners after params p q = owners p q := by
  unfold ownersAfter
  split
  · rfl
  · rename_i released
    refine setSlot_of_ne _ _ ?_
    rintro ⟨rfl, rfl⟩
    exact released ((isUsingSigno_eq_true_iff inRange.2).mpr used)

/-! ## The slot of a submission -/

/-- A submission allocates at most one slot, on its own peripheral. -/
def submitSlot (p : Nat) : Semantics Helper (Option Nat) :=
  Program.tracker
    (fun slot op => match op with
      | .allocateSigno p' => p' = p ∧ slot = none
      | .releaseSigno .. => False
      | _ => True)
    slotAfter

/-- An operation of a submission takes at most the slot it allocates into use. -/
theorem inUse_of_submitOp {reply : Helper.Reply op} (own : (submitSlot p).guard slot op)
    (allowed : submitGuard serial phase op) (step : helperStep s op reply s') {p' : Nat}
    (used : (s'.sigusing p').getLsbD q = true) :
    (s.sigusing p').getLsbD q = true ∨ p' = p ∧ slotAfter slot op reply = some q := by
  rcases submitGuard_cases allowed with isLocal | ⟨p'', rfl, -, -⟩ | ⟨p'', req, rfl, -, -⟩
  · rw [(sameSlots_of_isLocal step isLocal).sigusing] at used
    exact .inl used
  · obtain ⟨rfl, -⟩ : p'' = p ∧ slot = none := own
    cases reply with
    | none =>
      obtain ⟨-, rfl⟩ := allocateSigno_none step
      exact .inl used
    | some q' =>
      obtain ⟨found, rfl⟩ := allocateSigno_some step
      have inRange : q' < 64 := ((lowest?_eq_some_iff _ _).mp found).1
      by_cases here : p' = p''
      · subst here
        simp only [update_self, getLsbD_or_bit inRange, Bool.or_eq_true,
          decide_eq_true_eq] at used
        rcases used with used | rfl
        · exact .inl used
        · exact .inr ⟨rfl, rfl⟩
      · simp only [update_of_ne here] at used
        exact .inl used
  · rcases step with ⟨-, rfl⟩ | ⟨-, addr, junk, -, -, rfl⟩
    · exact .inl used
    · exact .inl used

/-- A slot once allocated stays the slot of the submission. -/
theorem slotAfter_of_some {reply : Helper.Reply op} (own : (submitSlot p).guard slot op)
    (isSlot : slot = some q) :
    slotAfter slot op reply = some q := by
  subst isSlot
  cases op
  case allocateSigno => exact nomatch own.2
  all_goals rfl

/-- A submission that reports success answers with the slot it has allocated, and
one that reports a failure has allocated none. -/
structure SlotReported (p : Nat) (reply : CommandResult) (slot : Option Nat) : Prop where
  succeeded : reply.res = teeSuccess →
    p < nPeriph ∧ ∃ q, slot = some q ∧ reply.params.p0.a = BitVec.ofNat 32 q
  failed : reply.res ≠ teeSuccess → slot = none

theorem slotReported_error (failed : reply.res ≠ teeSuccess) :
    SlotReported p reply none :=
  ⟨fun succeeded => absurd succeeded failed, fun _ => rfl⟩

theorem copy_slot {copy : Program Helper Unit} (copies : copy.Uses HelperOp.IsCopy) (p : Nat)
    (slot : Option Nat) :
    copy.Obeys (submitSlot p) (fun _ after => after = slot) slot := by
  refine copies.obeys ?_ ?_
  · intro op isCopy
    cases op
    case loadClient | storeByte => trivial
    all_goals exact isCopy.elim
  · intro op reply after isCopy step
    refine step.trans ?_
    cases op
    case loadClient | storeByte => rfl
    all_goals exact isCopy.elim

theorem submits_slotReported {type : IoReqType} {program : Program Helper CommandResult}
    (submits : Submits serial p type args program) :
    program.Obeys (submitSlot p) (SlotReported p) none := by
  induction submits with
  | rejected failed => exact slotReported_error failed
  | alloc _ ih =>
    refine .tracker_bind trivial fun (buf : Ptr) => ?_
    split
    · exact slotReported_error (show teeErrorOutOfMemory ≠ teeSuccess by decide)
    · rename_i notNull
      exact ih buf notNull
  | request inRange copies _ _ _ =>
    refine .tracker_bind ⟨rfl, rfl⟩ fun (signo : Option Nat) => ?_
    cases signo with
    | none => exact slotReported_error (show teeErrorBusy ≠ teeSuccess by decide)
    | some q =>
      refine (copy_slot copies p (some q)).bind_at fun _ => ?_
      refine .tracker_bind trivial fun _ => ?_
      exact ⟨fun _ => ⟨inRange, q, rfl, TeeParam.setA_a _ _⟩, fun failed => absurd rfl failed⟩

/-! ## Polls that find nothing -/

theorem pollParams_periph (small : p < 64) : toUint16 (pollParams p).p0.a = p := by
  simp only [pollParams, TeeParam.value_a, toUint16, BitVec.toNat_ofNat]
  omega

/-- What a poll says of a peripheral: its lowest ready slot, that no request of it
is ready, or that there is no request. -/
def pollAnswer (s : Pta) (p : Nat) : PollResult :=
  match lowest? (s.sigpending p) with
  | some q => .success q
  | none => if s.reqNums p = 0 then .noData else .busy

theorem pollToIoHelper_pollReply (s : Pta) (p : Nat) (params : Params) :
    pollToIoHelper (pollReply s p params) = pollAnswer s p := by
  unfold pollReply pollAnswer Pta.getReadySignal
  dsimp only
  cases found : lowest? (s.sigpending p) with
  | some q =>
    have nonempty : s.sigpending p ≠ 0 := by
      intro empty
      rw [(lowest?_eq_none_iff _).mpr empty] at found
      cases found
    have small : q < 64 := ((lowest?_eq_some_iff _ q).mp found).1
    have notBusy : BitVec.ofNat 32 q ≠ 0xFFFFFFFF := by
      intro same
      have equal : (BitVec.ofNat 32 q).toNat = 0xFFFFFFFF := congrArg BitVec.toNat same
      rw [BitVec.toNat_ofNat] at equal
      omega
    have toNat : (BitVec.ofNat 32 q).toNat = q := by
      rw [BitVec.toNat_ofNat]
      omega
    rw [if_pos nonempty, ffs_eq_of_lowest found]
    simp only [Nat.add_sub_cancel, pollToIoHelper, TeeParam.setB_a, TeeParam.setA_a,
      TeeParam.setB_b, toNat]
    rw [if_neg (not_not_intro rfl), if_neg (by decide), if_neg notBusy,
      if_pos (show q < nSubSig from small)]
  | none =>
    have empty := (lowest?_eq_none_iff _).mp found
    rw [if_neg (not_not_intro empty)]
    dsimp only
    unfold Pta.getReqNum
    by_cases none : s.reqNums p = 0
    · rw [if_neg (by simp [none]), if_pos none]
      simp [pollToIoHelper]
    · have positive : 0 < (s.reqNums p).toNat :=
        Nat.pos_of_ne_zero fun zero => none (BitVec.eq_of_toNat_eq zero)
      rw [if_pos positive, if_neg none]
      simp [pollToIoHelper]

theorem pollAnswer_of_run (small : p < 64)
    (run : (poll pollTypes (pollParams p)).Exec helper s reply s') :
    pollToIoHelper reply = pollAnswer s p := by
  rcases (poll_runs s _ _).post_of_exec run with ⟨bad, -, -⟩ | ⟨-, -, same, -⟩
  · rw [pollParams_periph small] at bad
    exact absurd bad (by simp [nPeriph, small])
  · rw [same, pollParams_periph small, pollToIoHelper_pollReply]

/-- A peripheral with no request has no slot in use. -/
theorem unused_of_noData {sys : Sys} (ok : SlotsOk sys) (noData : pollAnswer sys.pta p = .noData)
    (q : Nat) :
    (sys.pta.sigusing p).getLsbD q = false := by
  obtain ⟨-, -, board, inv⟩ := ok
  have count := (inv.slotProtocol p).count
  unfold pollAnswer at noData
  split at noData
  · cases noData
  · split at noData
    · rename_i none
      rw [none] at count
      by_contra inUse
      have positive := popcount_pos (Bool.not_eq_false _ ▸ inUse)
      exact absurd count (Nat.ne_of_lt positive)
    · cases noData

/-- A slot a poll finds is in use. -/
theorem inUse_of_success {sys : Sys} (ok : SlotsOk sys)
    (found : pollAnswer sys.pta p = .success q) : (sys.pta.sigusing p).getLsbD q = true := by
  obtain ⟨-, -, board, inv⟩ := ok
  unfold pollAnswer at found
  split at found
  · rename_i lowest
    cases found
    have pending := ((lowest?_eq_some_iff _ q).mp lowest).2.1
    rw [← (inv.slotProtocol p).pendingInUse, BitVec.getLsbD_and, Bool.and_eq_true] at pending
    exact pending.2
  · split at found
    · cases found
    · cases found

/-- A poll of one slot succeeds only on a slot in use. -/
theorem inUse_of_pollSubsignal (inRange : InRange (p, q))
    (run : (pollSubsignal pollTypes (slotParams p q)).Exec helper s reply s')
    (succeeded : reply.res = teeSuccess) : (s.sigusing p).getLsbD q = true := by
  obtain ⟨periph, subSigno⟩ : p < 64 ∧ q < 64 := inRange
  have periphNo : toUint16 (slotParams p q).p0.a = p := by
    simp only [slotParams, TeeParam.value_a, toUint16, BitVec.toNat_ofNat]
    omega
  have signo : (slotParams p q).p0.b.toNat = q := by
    simp only [slotParams, TeeParam.value_b, BitVec.toNat_ofNat]
    omega
  rcases (pollSubsignal_runs s _ _).post_of_exec run with
    ⟨-, rfl, -⟩ | ⟨-, -, -, -, rfl, -⟩ | ⟨-, -, -, used, -, -⟩
  · exact absurd succeeded (show teeErrorBadParameters ≠ teeSuccess by decide)
  · exact absurd succeeded (show teeErrorBadState ≠ teeSuccess by decide)
  · rw [periphNo, signo] at used
    exact (isUsingSigno_eq_true_iff subSigno).mp used

/-! ## The invariant -/

/-- Every request with a handler occupies a slot whose peripheral is pending, a
submission in progress has its slot in use, and inside a handler nothing is
polled. -/
structure Tracked (s : Rt) : Prop where
  submitting : ∀ serial submission handler slot,
    s.task = .submit serial submission handler slot →
    ∃ thread, s.sys.submits serial = some thread ∧
      thread.prog.Obeys (submitSlot (toUint16 submission.params.p0.a))
        (SlotReported (toUint16 submission.params.p0.a)) slot ∧
      ∀ q, slot = some q →
        (s.sys.pta.sigusing (toUint16 submission.params.p0.a)).getLsbD q = true
  scanning : ∀ tmpSigpending dispatches, s.task = .scan tmpSigpending dispatches →
    s.globals.inHandler = false ∧ tmpSigpending ≠ 0
  parked : s.globals.inHandler = true → s.globals.sigpending = 0
  inUse : ∀ p q, s.owners p q ≠ none → p < 64 ∧ (s.sys.pta.sigusing p).getLsbD q = true
  pending : ∀ p q, s.owners p q ≠ none → s.globals.active.getLsbD p = true
  notNested : ∀ call ∈ s.dispatched, call.nested = false

namespace Tracked

variable {s : Rt}

theorem init (inst : Instance) : Tracked (Rt.init inst) where
  submitting _ _ _ _ task := by cases task
  scanning _ _ task := by cases task
  parked inHandler := by cases inHandler
  inUse _ _ owned := absurd rfl owned
  pending _ _ owned := absurd rfl owned
  notNested _ member := nomatch member

/-- A step of the io_helper that keeps the slots in use and the submissions. -/
theorem frame {sys : Sys} (tracked : Tracked s) (keeps : KeepsUse s.sys.pta sys.pta)
    (submits : sys.submits = s.sys.submits) : Tracked { s with sys := sys } := by
  refine { tracked with submitting := ?_, inUse := ?_ }
  · intro serial submission handler slot task
    obtain ⟨thread, found, obeys, held⟩ := tracked.submitting serial submission handler slot task
    refine ⟨thread, ?_, obeys, fun q isSlot => keeps _ _ (held q isSlot)⟩
    rw [← found]
    exact congrFun submits serial
  · intro p q owned
    obtain ⟨small, inUse⟩ := tracked.inUse p q owned
    exact ⟨small, keeps p q inUse⟩

theorem withPta {pta : Pta} (tracked : Tracked s) (same : SameSlots s.sys.pta pta) :
    Tracked (s.withPta pta) :=
  tracked.frame (keepsUse_of_sameSlots same) rfl

/-- Back in Wasm code. -/
theorem resume (tracked : Tracked s) : Tracked { s with task := .wasm } :=
  { tracked with
    submitting := fun _ _ _ _ task => by cases task
    scanning := fun _ _ task => by cases task }

theorem stop (tracked : Tracked s) : Tracked { s with task := .fault } :=
  { tracked with
    submitting := fun _ _ _ _ task => by cases task
    scanning := fun _ _ task => by cases task }

theorem register (tracked : Tracked s) (allocated : Bool) (small : p < 64)
    (used : (s.sys.pta.sigusing p).getLsbD q = true) (handler : BitVec 32) :
    Tracked (s.register mode allocated p q handler) := by
  unfold Rt.register
  split
  · exact tracked.resume
  · rename_i globals registered
    obtain ⟨-, rfl⟩ := Globals.registerHandler_eq_some registered
    refine { tracked.resume with scanning := ?_, parked := ?_, inUse := ?_, pending := ?_ }
    · intro _ _ task
      cases task
    · intro inHandler
      rw [Globals.setSignalPending_inHandler] at inHandler
      rw [Globals.setSignalPending_sigpending _ _ inHandler]
      exact tracked.parked inHandler
    · intro p' q' owned
      by_cases here : p' = p ∧ q' = q
      · obtain ⟨rfl, rfl⟩ := here
        exact ⟨small, used⟩
      · refine tracked.inUse p' q' ?_
        dsimp only at owned
        rwa [setSlot_of_ne _ _ here] at owned
    · intro p' q' owned
      rw [Globals.setSignalPending_active, getLsbD_or_bit small]
      by_cases here : p' = p ∧ q' = q
      · simp [here.1]
      · dsimp only at owned
        rw [setSlot_of_ne _ _ here] at owned
        have pending := tracked.pending p' q' owned
        simp only [Bool.or_eq_true]
        exact .inl pending

/-- A callback call registers its handler for the slot it was answered with. -/
theorem submitted {submission : Submission} {handler : Option (BitVec 32)} (tracked : Tracked s)
    (task : s.task = .submit serial submission handler slot)
    (returned : s.sys.submits serial = some ⟨.pure reply, phase, args⟩) (allocated : Bool) :
    Tracked (s.submitted mode allocated submission handler reply) := by
  obtain ⟨thread, found, obeys, held⟩ := tracked.submitting _ _ _ _ task
  rw [returned] at found
  cases found
  unfold Rt.submitted
  split
  · exact tracked.resume
  · rename_i succeeded
    split
    · exact tracked.resume
    · obtain ⟨small, q, isSlot, answer⟩ := obeys.succeeded (not_not.mp succeeded)
      have used := held q isSlot
      have range : q < 64 := BitVec.lt_of_getLsbD used
      have toNat : reply.params.p0.a.toNat = q := by
        rw [answer, BitVec.toNat_ofNat]
        omega
      rw [toNat]
      exact tracked.register allocated small used _

theorem scan (tracked : Tracked s) (dispatches : Bool) :
    Tracked (s.scan dispatches) := by
  refine { tracked with submitting := ?_, scanning := ?_ }
  · intro _ _ _ _ task
    simp only [Rt.scan] at task
    split at task <;> cases task
  · intro tmpSigpending dispatches' task
    simp only [Rt.scan] at task
    split at task
    · cases task
    · rename_i nonempty
      cases task
      refine ⟨Bool.eq_false_iff.mpr fun inHandler => ?_, nonempty⟩
      exact nonempty (tracked.parked inHandler)

theorem submitOp {submission : Submission} {handler : Option (BitVec 32)}
    {next : Helper.Reply op → Program Helper CommandResult} {newArgs : List Ptr}
    {reply : Helper.Reply op} {log : List Event} (tracked : Tracked s) (threads : Threads s.sys)
    (task : s.task = .submit serial submission handler slot)
    (found : s.sys.submits serial = some ⟨.call op next, phase, args⟩)
    (step : helperStep s.sys.pta op reply after) :
    Tracked { s with
      sys := { s.sys with
        pta := after
        submits := update s.sys.submits serial
          (some ⟨next reply, phase.after op reply, newArgs⟩)
        log := log }
      task := .submit serial submission handler (slotAfter slot op reply) } := by
  have allowed : submitGuard serial phase op := (threads.submits serial _ found).1
  have keeps := keepsUse_of_submitOp allowed step
  obtain ⟨thread, isThread, obeys, held⟩ := tracked.submitting _ _ _ _ task
  rw [found] at isThread
  cases isThread
  refine { tracked with submitting := ?_, scanning := ?_, inUse := ?_ }
  · intro serial' submission' handler' slot' task'
    cases task'
    refine ⟨_, update_self .., obeys.2 reply _ rfl, ?_⟩
    intro q isSlot
    by_cases kept : slotAfter slot op reply = slot
    · exact keeps _ _ (held q (kept.symm.trans isSlot))
    · -- the slot was allocated by this operation, on the submission's peripheral
      have onPeriph := obeys.1
      cases op
      case allocateSigno p' =>
        obtain ⟨rfl, -⟩ := onPeriph
        cases reply with
        | none => exact absurd rfl kept
        | some q' =>
          cases isSlot
          exact (keepsUse_of_allocate step).2
      all_goals exact absurd rfl kept
  · intro _ _ task'
    cases task'
  · intro p q owned
    obtain ⟨small, inUse⟩ := tracked.inUse p q owned
    exact ⟨small, keeps p q inUse⟩

/-- A collection releases at most the slot it names, and that slot then has no
handler. -/
theorem collect {ready : Nat → Nat → Option Nat} {log : List Event} (tracked : Tracked s)
    (wasm : s.task = .wasm) (inRange : InRange (slotOf params))
    (run : (getData paramTypes params).Exec helper s.sys.pta reply after) :
    Tracked { s with
      sys := { s.sys with pta := after, ready := ready, log := log }
      owners := ownersAfter s.owners after params } := by
  refine { tracked with submitting := ?_, inUse := ?_, pending := ?_ }
  · intro _ _ _ _ task
    rw [wasm] at task
    cases task
  · intro p q owned
    obtain ⟨registration, owner⟩ := Option.ne_none_iff_exists'.mp owned
    obtain ⟨before, kept⟩ := owned_of_ownersAfter inRange owner
    have wasOwned : s.owners p q ≠ none := by
      rw [before]
      exact Option.some_ne_none _
    obtain ⟨small, used⟩ := tracked.inUse p q wasOwned
    refine ⟨small, kept.elim id fun other => ?_⟩
    exact (sigusing_of_getData inRange run).2 p q other used
  · intro p q owned
    obtain ⟨registration, owner⟩ := Option.ne_none_iff_exists'.mp owned
    refine tracked.pending p q ?_
    rw [(owned_of_ownersAfter inRange owner).1]
    exact Option.some_ne_none _

theorem dispatch (tracked : Tracked s) (outside : s.globals.inHandler = false) (p q : Nat) :
    Tracked (s.dispatch mode p q) := by
  unfold Rt.dispatch
  split
  · exact tracked.stop
  · refine { tracked.resume with scanning := ?_, parked := ?_, pending := ?_, notNested := ?_ }
    · intro _ _ task
      cases task
    · exact fun _ => rfl
    · intro p' q' owned
      have pending := tracked.pending p' q' owned
      unfold Globals.active at pending
      rw [if_neg (by simp [outside])] at pending
      exact pending
    · intro call member
      rcases List.mem_append.mp member with member | member
      · exact tracked.notNested call member
      · rw [List.mem_singleton.mp member]
        exact outside

/-- A round of the loop removes a peripheral only when it has no request. -/
theorem scanned {tmpSigpending : BitVec 64} {dispatches : Bool} {answer : PollResult}
    (tracked : Tracked s) (outside : s.globals.inHandler = false) (nonempty : tmpSigpending ≠ 0)
    (unused : answer = .noData → ∀ q,
      (s.sys.pta.sigusing (ffs tmpSigpending - 1)).getLsbD q = false) :
    Tracked (s.scanned mode dispatches (scanRound s.globals tmpSigpending answer)) := by
  have polling (tmp : BitVec 64) :
      Tracked { s with task := if tmp = 0 then .wasm else .scan tmp dispatches } := by
    refine { tracked with submitting := ?_, scanning := ?_ }
    · intro _ _ _ _ task
      dsimp only at task
      split at task <;> cases task
    · intro _ _ task
      dsimp only at task
      split at task
      · cases task
      · rename_i more
        cases task
        exact ⟨outside, more⟩
  cases answer with
  | success q =>
    simp only [scanRound, Rt.scanned]
    split
    · exact tracked.dispatch outside _ _
    · exact tracked.resume
  | communication | busy | generic => exact polling _
  | noData =>
    obtain ⟨p, -, small, isLowest⟩ := lowest_of_ne_zero nonempty
    refine { polling _ with scanning := ?_, parked := ?_, pending := ?_ }
    · exact (polling _).scanning
    · intro inHandler
      rw [show s.globals.inHandler = true from inHandler] at outside
      cases outside
    · intro p' q' owned
      have pending := tracked.pending p' q' owned
      unfold Globals.active at pending ⊢
      rw [if_neg (by simp [outside])] at pending
      simp only [scanRound, Rt.scanned, outside, Bool.false_eq_true, if_false]
      rw [isLowest, getLsbD_and_not_bit small, pending]
      have other : p' ≠ p := by
        rintro rfl
        have used := (tracked.inUse p' q' owned).2
        rw [← isLowest, unused rfl q'] at used
        cases used
      simp [other]

theorem handlerDone (tracked : Tracked s) (inHandler : s.globals.inHandler = true)
    (wasm : s.task = .wasm) : Tracked (s.handlerDone mode) := by
  have recovered : Tracked { s with globals := s.globals.tempRecoverAllIoSignalPending } := by
    refine { tracked with scanning := ?_, parked := ?_, pending := ?_ }
    · intro _ _ task
      rw [wasm] at task
      cases task
    · intro stillIn
      cases stillIn
    · intro p q owned
      have pending := tracked.pending p q owned
      unfold Globals.active at pending
      rwa [if_pos inHandler] at pending
  cases mode with
  | interp => exact recovered
  | aot => exact recovered.scan false

end Tracked

theorem Tracked.step {s s' : Rt} (tracked : Tracked s) (ok : SlotsOk s.sys)
    (step : RtStep mode s action s') : Tracked s' := by
  cases step with
  | worker action sys isWorker taken =>
    refine tracked.frame (fun _ _ => ?_) ?_
    · rw [sigusing_of_worker ok.threads isWorker taken]
      exact id
    · cases taken
      case dequeue | loopOp | loopDone => rfl
      all_goals exact isWorker.elim
  | submit submission handler sys wasm taken =>
    cases taken
    refine { tracked with submitting := ?_, scanning := ?_ }
    · intro _ _ _ _ task
      cases task
      exact ⟨_, update_self .., submits_slotReported (submission.submits _),
        fun _ isSlot => by cases isSlot⟩
    · intro _ _ task
      cases task
  | submitOp serial submission handler slot op next phase args reply after task found taken =>
    exact tracked.submitOp ok.threads task found taken
  | submitDone serial submission handler slot reply phase args allocated task returned =>
    exact tracked.submitted task returned allocated
  | setCallback p q handler allocated reply after wasm inRange run =>
    have same := sameSlots_of_pollSubsignal run
    split
    · exact tracked.withPta same
    · rename_i succeeded
      have used := inUse_of_pollSubsignal inRange run (not_not.mp succeeded)
      rw [← same.sigusing] at used
      exact (tracked.withPta same).register allocated inRange.1 used handler
  | pollSubsignal p q reply after wasm inRange run =>
    exact tracked.withPta (sameSlots_of_pollSubsignal run)
  | collect paramTypes params reply after wasm inRange run => exact tracked.collect wasm inRange run
  | checkpoint wasm => exact tracked.scan true
  | poll tmpSigpending dispatches reply after task run =>
    obtain ⟨outside, nonempty⟩ := tracked.scanning _ _ task
    obtain ⟨p, -, small, isLowest⟩ := lowest_of_ne_zero nonempty
    have same := sameSlots_of_poll run
    refine (tracked.withPta same).scanned outside nonempty fun noData q => ?_
    rw [isLowest] at run ⊢
    rw [pollAnswer_of_run small run] at noData
    have unused := unused_of_noData ok noData q
    rw [← same.sigusing] at unused
    exact unused
  | handlerDone wasm inHandler => exact tracked.handlerDone inHandler wasm
  | changeTable elems wasm => exact { tracked with }

theorem tracked_of_reachable {s : Rt} (reachable : (runtime mode).Reachable s) :
    Tracked s := by
  refine reachable.invariant ?_ ?_
  · rintro _ ⟨inst, rfl⟩
    exact Tracked.init inst
  · intro state action after before tracked step
    exact tracked.step (slotsOk before) step

/-! ## Callbacks are neither lost nor nested -/

/-- A callback call on pin 4 has registered its handler. -/
theorem registered_on_pin :
    ∃ s, (runtime .interp).Reachable s ∧ s.globals.inHandler = false ∧
      s.owners 4 0 = some ⟨1, some 2⟩ ∧ s.globals.allSignalHandled = false := by
  have booted : (runtime .interp).Reachable (Rt.init twoHandlers) := .start ⟨_, rfl⟩
  have submitted := booted.next (RtStep.submit _ (dhtSubmission 4) (some 1) _ rfl (.submit _ _))
  have queued := after_internals submitted (internals_queue rfl rfl rfl rfl
    (.inr ⟨rfl, 1, fun _ => 0, by decide, rfl, rfl⟩)) fun _ => id
  have registered := queued.next (RtStep.submitDone _ 0 _ _ (some 0) _ _ _ true rfl rfl)
  exact ⟨_, registered, rfl, rfl, rfl⟩

/-- The answer 1 of `all_async_req_handled` says that no request with a handler is
outstanding exactly when the call is made outside of a handler, or when none is
outstanding anyway: inside a handler the mask it reads is empty. -/
theorem allSignalHandled_sound_iff {mode : Mode} {s : Rt} (reachable : (runtime mode).Reachable s) :
    (s.globals.allSignalHandled = true → ∀ p q, s.owners p q = none) ↔
      s.globals.inHandler = false ∨ ∀ p q, s.owners p q = none := by
  have tracked := tracked_of_reachable reachable
  constructor
  · intro sound
    cases inHandler : s.globals.inHandler with
    | false => exact .inl rfl
    | true =>
      refine .inr (sound ?_)
      rw [Globals.allSignalHandled, tracked.parked inHandler]
      rfl
  · rintro (outside | noneLeft) handled
    · intro p q
      by_contra owned
      have pending := tracked.pending p q owned
      unfold Globals.active at pending
      rw [if_neg (by simp [outside]), eq_of_beq handled] at pending
      simp at pending
    · exact noneLeft

/-- With a callback call registered on pin 4 the answer outside of a handler is 0. -/
theorem allSignalHandled_while_registered :
    ∃ s, (runtime .interp).Reachable s ∧ s.globals.inHandler = false ∧
      s.owners 4 0 = some ⟨1, some 2⟩ ∧ s.globals.allSignalHandled = false ∧
      (s.globals.allSignalHandled = true → ∀ p q, s.owners p q = none) := by
  obtain ⟨s, reachable, outside, owner, waiting⟩ := registered_on_pin
  exact ⟨s, reachable, outside, owner, waiting,
    (allSignalHandled_sound_iff reachable).mpr (.inl outside)⟩

/-- Two callback calls, on pins 4 and 5.  The first request fails for want of
memory and its handler is called; the second is still queued, and inside the
handler the answer is 1. -/
theorem allSignalHandled_in_handler :
    ∃ s, (runtime .interp).Reachable s ∧ s.task = .wasm ∧
      s.globals.allSignalHandled = true ∧ s.owners 5 0 = some ⟨2, some 3⟩ := by
  have booted : (runtime .interp).Reachable (Rt.init twoHandlers) := .start ⟨_, rfl⟩
  have submitted := booted.next (RtStep.submit _ (dhtSubmission 4) (some 1) _ rfl (.submit _ _))
  have queued := after_internals submitted (internals_queue rfl rfl rfl rfl
    (.inr ⟨rfl, 1, fun _ => 0, by decide, rfl, rfl⟩)) fun _ => id
  have registered := queued.next (RtStep.submitDone _ 0 _ _ (some 0) _ _ _ true rfl rfl)
  have submitted := registered.next (RtStep.submit _ (dhtSubmission 5) (some 2) _ rfl (.submit _ _))
  have queued := after_internals submitted (internals_queue rfl rfl rfl rfl
    (.inr ⟨rfl, 2, fun _ => 0, by decide, rfl, rfl⟩)) fun _ => id
  have registered := queued.next (RtStep.submitDone _ 1 _ _ (some 0) _ _ _ true rfl rfl)
  have ready := after_internals registered (internals_refuse (p := 4) rfl rfl) fun _ => id
  have checkpoint := ready.next (RtStep.checkpoint _ rfl)
  have handling := checkpoint.next (RtStep.poll _ _ true _ _ rfl ⟨some 0, _, rfl, rfl, rfl⟩)
  exact ⟨_, handling, rfl, rfl, rfl⟩

end TrustWasm.Runtime
