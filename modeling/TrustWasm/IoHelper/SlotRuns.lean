import TrustWasm.IoHelper.SlotInvariant

/-!
# Slots along a run

Every thread of the system keeps to its slot protocol, and a collection that
found its slot ready finds the same request there until it releases it,
provided no other collection checks the slot in between.  Under that condition
every step of the system is a step of the slots, and the board describes every
state reached.
-/

namespace TrustWasm.IoHelper

open TrustWasm.Lib TrustWasm.Lib.Mask TrustWasm.Tee Function

/-! ## Threads -/

/-- Every thread keeps to its protocol, and numbers from `next` on are unused. -/
structure Threads (s : Sys) : Prop where
  unusedSubmits : ∀ serial thread, s.submits serial = some thread → serial < s.next
  unusedGets : ∀ id thread, s.gets id = some thread → id < s.next
  submits : ∀ serial thread, s.submits serial = some thread →
    thread.prog.Obeys (submitSlots serial) (fun _ _ => True) thread.phase
  loops : ∀ p thread, s.loops p = some thread →
    thread.prog.Obeys (loopSlots p thread.req.signo) (fun _ served => served = true) thread.served
  gets : ∀ id thread, s.gets id = some thread →
    thread.prog.Obeys (getSlots thread.periphNo thread.subSigno) ReleasedOnSuccess thread.phase

theorem Threads.init : Threads Sys.init := by
  constructor
  all_goals
    intro _ _ found
    simp [Sys.init] at found

variable {s s' : Sys} {action : Action} {p q id : Nat} {phase : GetPhase} {board : Board}
    {after : Pta} {op : HelperOp} {log : List Event} {req : IoReq} {params : Params}

/-- Threads keep to their protocols in every step. -/
theorem Threads.step {S : Semantics Helper Pta} (threads : Threads s) (step : Step S s action s') :
    Threads s' := by
  cases step with
  | submit submission =>
    refine ⟨?_, ?_, ?_, threads.loops, threads.gets⟩
    · apply forall_of_update
      · exact Nat.lt_succ_self _
      · intro serial thread found
        exact Nat.lt_succ_of_lt (threads.unusedSubmits serial thread found)
    · intro id thread found
      exact Nat.lt_succ_of_lt (threads.unusedGets id thread found)
    · exact forall_of_update (submission.program_obeys s.next) threads.submits
  | submitOp serial op next phase args reply after found step =>
    have known := threads.unusedSubmits serial _ found
    have obeys := threads.submits serial _ found
    refine ⟨?_, threads.unusedGets, ?_, threads.loops, threads.gets⟩
    · exact forall_of_update known threads.unusedSubmits
    · exact forall_of_update (obeys.2 reply _ rfl) threads.submits
  | dequeue p req after idle step =>
    exact { threads with loops := forall_of_update (serve_obeys req p) threads.loops }
  | loopOp p req op next served work reply after found step =>
    have obeys := threads.loops p _ found
    exact { threads with loops := forall_of_update (obeys.2 reply _ rfl) threads.loops }
  | loopDone p req served work found =>
    exact { threads with loops := forall_of_remove threads.loops }
  | poll | pollSubsignal | getData => exact { threads with }
  | getStart paramTypes params =>
    refine ⟨?_, ?_, threads.submits, threads.loops, ?_⟩
    · intro serial thread found
      exact Nat.lt_succ_of_lt (threads.unusedSubmits serial thread found)
    · apply forall_of_update
      · exact Nat.lt_succ_self _
      · intro id thread found
        exact Nat.lt_succ_of_lt (threads.unusedGets id thread found)
    · exact forall_of_update (getData_obeys params paramTypes) threads.gets
  | getOp id p q op next phase claimed freed reply after found step =>
    have known := threads.unusedGets id _ found
    have obeys := threads.gets id _ found
    refine ⟨threads.unusedSubmits, ?_, threads.submits, threads.loops, ?_⟩
    · exact forall_of_update known threads.unusedGets
    · exact forall_of_update (obeys.2 reply _ rfl) threads.gets

/-! ## Collections one at a time -/

/-- A collection has found slot `q` of `p` ready and has not finished with it. -/
def Sys.Held (s : Sys) (p q : Nat) : Prop :=
  ∃ id thread, s.gets id = some thread ∧ thread.Holding ∧ thread.periphNo = p ∧
    thread.subSigno = q

/-- The slot exists. -/
def InRange (slot : Nat × Nat) : Prop :=
  slot.1 < nPeriph ∧ slot.2 < nSubSig

instance (slot : Nat × Nat) : Decidable (InRange slot) :=
  inferInstanceAs (Decidable (_ ∧ _))

/-- Collections name existing slots, and none checks a slot another collection
holds. -/
def Exclusive (s : Sys) : Action → Prop
  | .getData _ params => InRange (slotOf params) ∧ ¬s.Held (slotOf params).1 (slotOf params).2
  | .getStart _ params => InRange (slotOf params)
  | .getOp id => ∀ thread, s.gets id = some thread → thread.phase = .unchecked →
      ¬s.Held thread.periphNo thread.subSigno
  | _ => True

/-- A collection that holds a slot holds it for the request ready there, and no
two hold the same slot. -/
structure Collectors (s : Sys) : Prop where
  inRange : ∀ id thread, s.gets id = some thread → InRange (thread.periphNo, thread.subSigno)
  holding : ∀ id thread, s.gets id = some thread → thread.Holding →
    ∃ serial, thread.claimed = some serial ∧
      s.ready thread.periphNo thread.subSigno = some serial
  exclusive : ∀ i thread, s.gets i = some thread → ∀ j other, s.gets j = some other →
    thread.Holding → other.Holding → thread.periphNo = other.periphNo →
    thread.subSigno = other.subSigno → i = j

/-- The slots as the system has them. -/
def Sys.slots (s : Sys) : SlotView where
  pta := s.pta
  phase serial := (s.submits serial).map (·.phase)
  serving p := (s.loops p).map fun thread => (thread.req, thread.served)
  ready := s.ready

theorem isReadySignal_of_sameSlots {s s' : Pta} (same : SameSlots s s') (p q : Nat) :
    s'.isReadySignal p q = s.isReadySignal p q := by
  rw [Pta.isReadySignal, Pta.isReadySignal, same.sigpending]

/-- A collection that runs alone keeps the slots, or it finds its slot ready and
releases it. -/
theorem collection_cases {program : Program Helper CommandResult} {s s' : Pta}
    {reply : CommandResult} (obeys : program.Obeys (getSlots p q) ReleasedOnSuccess phase)
    (run : program.Exec helper s reply s') :
    SameSlots s s' ∨ (phase ≠ .released ∧ (phase = .unchecked → s.isReadySignal p q = true) ∧
      ∃ before, SameSlots s before ∧ SameSlots (before.releaseSigno p q) s') := by
  induction program generalizing s phase with
  | pure value =>
    obtain ⟨-, rfl⟩ := run
    exact .inl (.refl _)
  | call op next ih =>
    obtain ⟨reply, middle, step, tail⟩ := run
    have rest := ih reply (obeys.2 reply _ rfl) tail
    rcases getGuard_cases obeys.1 with ⟨isLocal, -, kept⟩ | ⟨rfl, rfl⟩ | ⟨rfl, rfl⟩
    · have same := sameSlots_of_isLocal step isLocal
      rw [kept reply] at rest
      rcases rest with rest | ⟨notReleased, checked, before, first, second⟩
      · exact .inl (same.trans rest)
      · refine .inr ⟨notReleased, ?_, before, same.trans first, second⟩
        intro unchecked
        rw [← isReadySignal_of_sameSlots same]
        exact checked unchecked
    · obtain ⟨replyEq, rfl⟩ := step
      rcases rest with rest | ⟨-, checked, before, first, second⟩
      · exact .inl rest
      · refine .inr ⟨by simp, ?_, before, first, second⟩
        intro _
        cases isReady : middle.isReadySignal p q with
        | true => rfl
        | false =>
          rw [isReady] at replyEq
          subst replyEq
          exact isReady.symm.trans (checked rfl)
    · obtain rfl : middle = _ := step
      rcases rest with rest | ⟨notReleased, -⟩
      · exact .inr ⟨by simp, by simp, s, .refl s, rest⟩
      · exact absurd rfl notReleased

/-! ## Steps of the system as steps of the slots -/

theorem SlotInv.isReadySignal_iff {v : SlotView} (inv : SlotInv v board) (range : q < nSubSig) :
    v.pta.isReadySignal p q = true ↔ ∃ serial, v.ready p q = some serial := by
  rw [isReadySignal_eq_true_iff range, inv.describes.pending]
  simp only [inv.ready]

/-- The slot of a completed release is not marked ready. -/
theorem isReadySignal_of_released {before : Pta} (range : q < nSubSig)
    (rest : SameSlots (before.releaseSigno p q) after) : after.isReadySignal p q = false := by
  rw [isReadySignal_of_sameSlots rest, Bool.eq_false_iff, Ne,
    isReadySignal_eq_true_iff range, Pta.releaseSigno]
  simp only [update_self]
  rw [getLsbD_and_not_bit (show q < 64 from range)]
  simp

theorem slotStep_of_submitOp {serial : Nat} {next : Helper.Reply op → Program Helper CommandResult}
    {phase : SubmitPhase} {args newArgs : List Ptr} {reply : Helper.Reply op} (threads : Threads s)
    (found : s.submits serial = some ⟨.call op next, phase, args⟩)
    (step : helperStep s.pta op reply after) :
    SlotStep s.slots
      (Sys.slots { s with
        pta := after
        submits := update s.submits serial
          (some ⟨next reply, phase.after op reply, newArgs⟩)
        log := log }) := by
  have isPhase : s.slots.phase serial = some phase := by
    simp only [Sys.slots, found, Option.map_some]
  have allowed : submitGuard serial phase op := (threads.submits serial _ found).1
  -- an operation that keeps the phase and the slots is quiet
  have quiet (samePhase : phase.after op reply = phase) (same : SameSlots s.pta after) :
      SlotStep s.slots
        (Sys.slots { s with
          pta := after
          submits := update s.submits serial
            (some ⟨next reply, phase.after op reply, newArgs⟩)
          log := log }) := by
    have kept : (some (⟨next reply, phase.after op reply, newArgs⟩ : SubmitThread)).map (·.phase) =
        (s.submits serial).map (·.phase) := by
      rw [found, samePhase]
      rfl
    simpa only [Sys.slots, map_update_of_eq (fun thread : SubmitThread => thread.phase) kept]
      using SlotStep.quiet s.slots after same
  rcases submitGuard_cases allowed with isLocal | ⟨p, rfl, fresh, range⟩ |
    ⟨p, req, rfl, held, serialEq⟩
  · exact quiet (phase.after_of_isLocal isLocal reply) (sameSlots_of_isLocal step isLocal)
  · cases reply with
    | none =>
      obtain ⟨-, rfl⟩ := allocateSigno_none step
      exact quiet rfl (.refl _)
    | some q =>
      rw [fresh] at isPhase
      simpa only [Sys.slots, map_update, Option.map_some, SubmitPhase.after] using
        SlotStep.allocate s.slots serial p q after range isPhase step
  · rcases step with ⟨rfl, rfl⟩ | ⟨rfl, addr, junk, -, -, rfl⟩
    · exact quiet rfl (.refl _)
    · rw [held, ← serialEq] at isPhase
      rw [← serialEq]
      simpa only [Sys.slots, map_update, Option.map_some, SubmitPhase.after, if_true] using
        SlotStep.enqueue s.slots p req addr junk isPhase

theorem slotStep_of_loopOp {next : Helper.Reply op → Program Helper Unit} {served : Bool}
    {work newWork : WorkView} {reply : Helper.Reply op} (threads : Threads s)
    (found : s.loops p = some ⟨req, .call op next, served, work⟩)
    (step : helperStep s.pta op reply after) :
    SlotStep s.slots
      (Sys.slots { s with
        pta := after
        loops := update s.loops p
          (some ⟨req, next reply, servedAfter served op reply, newWork⟩)
        ready := readyAfterLoop s.ready req op
        log := log }) := by
  have serving : s.slots.serving p = some (req, served) := by
    simp only [Sys.slots, found, Option.map_some]
  have allowed : loopGuard p req.signo served op := (threads.loops p _ found).1
  obtain ⟨notServed, ⟨isLocal, kept⟩ | rfl⟩ := loopGuard_cases allowed
  · have sameReady : readyAfterLoop s.ready req op = s.ready := by
      cases op
      case setReadySignal => exact isLocal.elim
      all_goals rfl
    have same : (some (⟨req, next reply, servedAfter served op reply, newWork⟩ :
        LoopThread)).map (fun thread => (thread.req, thread.served)) =
          (s.loops p).map fun thread => (thread.req, thread.served) := by
      rw [found, kept reply]
      rfl
    simpa only [Sys.slots, sameReady,
      map_update_of_eq (fun thread : LoopThread => (thread.req, thread.served)) same]
      using SlotStep.quiet s.slots after (sameSlots_of_isLocal step isLocal)
  · obtain rfl : after = _ := step
    rw [notServed] at serving
    simpa only [Sys.slots, map_update, Option.map_some, servedAfter, readyAfterLoop] using
      SlotStep.finish s.slots p req serving

theorem slotStep_of_getOp {next : Helper.Reply op → Program Helper CommandResult}
    {claimed : Option Nat} {freed : Bool} {reply : Helper.Reply op} {gets : Nat → Option GetThread}
    (threads : Threads s) (collectors : Collectors s)
    (found : s.gets id = some ⟨p, q, .call op next, phase, claimed, freed⟩)
    (step : helperStep s.pta op reply after) :
    SlotStep s.slots
      (Sys.slots { s with pta := after, gets := gets, ready := readyAfterGet s.ready op }) := by
  have allowed : getGuard p q phase op := (threads.gets id _ found).1
  rcases getGuard_cases allowed with ⟨isLocal, -, -⟩ | ⟨rfl, -⟩ | ⟨rfl, holding⟩
  · have sameReady : readyAfterGet s.ready op = s.ready := by
      cases op
      case releaseSigno => exact isLocal.elim
      all_goals rfl
    rw [sameReady]
    exact SlotStep.quiet s.slots after (sameSlots_of_isLocal step isLocal)
  · exact SlotStep.quiet s.slots after (sameSlots_of_isLocal step trivial)
  · obtain rfl : after = _ := step
    obtain ⟨serial, -, isReady⟩ := collectors.holding id _ found ⟨holding, by simp⟩
    exact SlotStep.release s.slots p q serial s.pta _ isReady (.refl _) (.refl _)

/-- A collection that leaves its slot marked as it was leaves the record of
ready requests as it was. -/
theorem readyAfterGetData_of_kept (inv : SlotInv s.slots board) (inRange : InRange (slotOf params))
    (same : after.isReadySignal (slotOf params).1 (slotOf params).2 =
      s.pta.isReadySignal (slotOf params).1 (slotOf params).2) :
    readyAfterGetData s.ready after params = s.ready := by
  have isReady := inv.isReadySignal_iff (p := (slotOf params).1) inRange.2
  unfold readyAfterGetData
  dsimp only
  split
  · rfl
  · rename_i notReady
    rw [same] at notReady
    -- a slot not marked ready has no ready request to clear
    have nothing : s.ready (slotOf params).1 (slotOf params).2 = none := by
      cases found : s.ready (slotOf params).1 (slotOf params).2 with
      | none => rfl
      | some serial => exact absurd (isReady.mpr ⟨serial, found⟩) notReady
    funext p q
    rw [setSlot_apply]
    split
    · rename_i here
      rw [here.1, here.2, nothing]
    · rfl

theorem readyAfterGetData_of_released {before : Pta} (inRange : InRange (slotOf params))
    (rest : SameSlots (before.releaseSigno (slotOf params).1 (slotOf params).2) after) :
    readyAfterGetData s.ready after params =
      setSlot s.ready (slotOf params).1 (slotOf params).2 none := by
  unfold readyAfterGetData
  dsimp only
  rw [isReadySignal_of_released inRange.2 rest]
  rfl

theorem slotStep_of_getData {paramTypes : BitVec 32} {reply : CommandResult}
    (inv : SlotInv s.slots board) (inRange : InRange (slotOf params))
    (run : (getData paramTypes params).Exec helper s.pta reply after) :
    SlotStep s.slots
      (Sys.slots { s with
        pta := after, ready := readyAfterGetData s.ready after params, log := log }) := by
  have isReady := inv.isReadySignal_iff (p := (slotOf params).1) inRange.2
  rcases collection_cases (getData_obeys params paramTypes) run with
    same | ⟨-, checked, before, first, second⟩
  · rw [readyAfterGetData_of_kept inv inRange (isReadySignal_of_sameSlots same _ _)]
    exact SlotStep.quiet s.slots after same
  · obtain ⟨serial, found⟩ := isReady.mp (checked rfl)
    rw [readyAfterGetData_of_released inRange second]
    exact SlotStep.release s.slots _ _ serial before after found first second

/-- Every step of the system in which collections do not overlap is a step of
the slots. -/
theorem slotStep_of_step (threads : Threads s) (collectors : Collectors s)
    (inv : SlotInv s.slots board) (allowed : Exclusive s action) (step : Step helper s action s') :
    SlotStep s.slots s'.slots := by
  cases step with
  | submit submission =>
    have unused : s.slots.phase s.next = none := by
      cases found : s.submits s.next with
      | none => simp [Sys.slots, found]
      | some thread => exact absurd (threads.unusedSubmits _ thread found) (Nat.lt_irrefl _)
    simpa only [Sys.slots, map_update, Option.map_some] using SlotStep.submit s.slots s.next unused
  | submitOp serial op next phase args reply after found step =>
    exact slotStep_of_submitOp threads found step
  | dequeue p req after idle step =>
    have notServing : s.slots.serving p = none := by
      simp only [Sys.slots, idle, Option.map_none]
    simpa only [Sys.slots, map_update, Option.map_some] using
      SlotStep.dequeue s.slots p req after notServing step
  | loopOp p req op next served work reply after found step =>
    exact slotStep_of_loopOp threads found step
  | loopDone p req served work found =>
    have served : served = true := threads.loops p _ found
    have serving : s.slots.serving p = some (req, true) := by
      simp only [Sys.slots, found, Option.map_some, served]
    simpa only [Sys.slots, map_update, Option.map_none] using SlotStep.idle s.slots p req serving
  | poll paramTypes params reply after run =>
    exact SlotStep.quiet s.slots after
      (sameSlots_of_exec ((poll_uses _ _).mono fun _ => HelperOp.IsPoll.isLocal) run)
  | pollSubsignal paramTypes params reply after run =>
    exact SlotStep.quiet s.slots after
      (sameSlots_of_exec ((pollSubsignal_uses _ _).mono fun _ => HelperOp.IsPoll.isLocal) run)
  | getData paramTypes params reply after run => exact slotStep_of_getData inv allowed.1 run
  | getStart paramTypes params => exact SlotStep.quiet s.slots s.pta (.refl _)
  | getOp id p q op next phase claimed freed reply after found step =>
    exact slotStep_of_getOp threads collectors found step

/-! ## Collections keep their claims -/

namespace Collectors

theorem init : Collectors Sys.init := by
  constructor
  all_goals
    intro _ _ found
    simp [Sys.init] at found

/-- A step that leaves the collections alone and the held slots as they are. -/
theorem frame (collectors : Collectors s) (gets : s'.gets = s.gets)
    (ready : ∀ p q, s.Held p q → s'.ready p q = s.ready p q) : Collectors s' := by
  constructor
  · rw [gets]
    exact collectors.inRange
  · intro id thread found holding
    rw [gets] at found
    rw [ready _ _ ⟨id, thread, found, holding, rfl, rfl⟩]
    exact collectors.holding id thread found holding
  · rw [gets]
    exact collectors.exclusive

/-- A step of one collection that leaves the slots the others hold as they are. -/
theorem update {added : GetThread} (collectors : Collectors s)
    (gets : s'.gets = update s.gets id (some added))
    (inRange : InRange (added.periphNo, added.subSigno))
    (ready : ∀ j other, j ≠ id → s.gets j = some other → other.Holding →
      s'.ready other.periphNo other.subSigno = s.ready other.periphNo other.subSigno)
    (claims : added.Holding → ∃ serial, added.claimed = some serial ∧
      s'.ready added.periphNo added.subSigno = some serial)
    (alone : added.Holding → ∀ j other, j ≠ id → s.gets j = some other → other.Holding →
      ¬(added.periphNo = other.periphNo ∧ added.subSigno = other.subSigno)) :
    Collectors s' := by
  have cases_of_found {j : Nat} {other : GetThread} (found : s'.gets j = some other) :
      (j = id ∧ other = added) ∨ (j ≠ id ∧ s.gets j = some other) := by
    rw [gets] at found
    by_cases here : j = id
    · subst here
      rw [update_self] at found
      cases found
      exact .inl ⟨rfl, rfl⟩
    · rw [update_of_ne here] at found
      exact .inr ⟨here, found⟩
  constructor
  · intro j other found
    rcases cases_of_found found with ⟨-, rfl⟩ | ⟨-, found⟩
    · exact inRange
    · exact collectors.inRange j other found
  · intro j other found holding
    rcases cases_of_found found with ⟨-, rfl⟩ | ⟨different, found⟩
    · exact claims holding
    · rw [ready j other different found holding]
      exact collectors.holding j other found holding
  · intro i first firstFound j second secondFound firstHolds secondHolds periph signo
    rcases cases_of_found firstFound with ⟨rfl, rfl⟩ | ⟨firstOther, firstFound⟩
    · rcases cases_of_found secondFound with ⟨rfl, -⟩ | ⟨secondOther, secondFound⟩
      · rfl
      · exact absurd ⟨periph, signo⟩ (alone firstHolds j second secondOther secondFound secondHolds)
    · rcases cases_of_found secondFound with ⟨rfl, rfl⟩ | ⟨-, secondFound⟩
      · exact absurd ⟨periph.symm, signo.symm⟩
          (alone secondHolds i first firstOther firstFound firstHolds)
      · exact collectors.exclusive i first firstFound j second secondFound firstHolds
          secondHolds periph signo

/-- No collection holds a slot whose request a worker is handling. -/
theorem not_held_of_handling (collectors : Collectors s) (inv : SlotInv s.slots board)
    (serving : s.slots.serving p = some (req, false)) : ¬s.Held p req.signo := by
  rintro ⟨id, thread, found, holding, rfl, signo⟩
  obtain ⟨serial, -, isReady⟩ := collectors.holding id thread found holding
  have handled := (inv.handling thread.periphNo req.signo req.ticket.serial).mpr
    ⟨req, serving, rfl, rfl⟩
  rw [signo] at isReady
  rw [(inv.ready thread.periphNo req.signo serial).mpr isReady] at handled
  simp at handled

theorem loopOp {next : Helper.Reply op → Program Helper Unit} {served : Bool} {work : WorkView}
    (collectors : Collectors s) (threads : Threads s) (inv : SlotInv s.slots board)
    (found : s.loops p = some ⟨req, .call op next, served, work⟩) (gets : s'.gets = s.gets)
    (ready : s'.ready = readyAfterLoop s.ready req op) : Collectors s' := by
  refine collectors.frame gets ?_
  intro p' q held
  rw [ready]
  have allowed : loopGuard p req.signo served op := (threads.loops p _ found).1
  obtain ⟨notServed, ⟨isLocal, -⟩ | rfl⟩ := loopGuard_cases allowed
  · cases op
    case setReadySignal => exact isLocal.elim
    all_goals rfl
  · apply setSlot_of_ne
    rintro ⟨rfl, rfl⟩
    have serving : s.slots.serving p' = some (req, false) := by
      simp only [Sys.slots, found, Option.map_some, notServed]
    exact collectors.not_held_of_handling inv serving held

theorem getOp {next : Helper.Reply op → Program Helper CommandResult} {claimed : Option Nat}
    {freed nowFreed : Bool} {reply : Helper.Reply op} (collectors : Collectors s)
    (threads : Threads s) (inv : SlotInv s.slots board)
    (found : s.gets id = some ⟨p, q, .call op next, phase, claimed, freed⟩)
    (unheld : phase = .unchecked → ¬s.Held p q) (step : helperStep s.pta op reply after)
    (gets : s'.gets = Function.update s.gets id
      (some ⟨p, q, next reply, phase.after op reply, claimedAfter s claimed op reply, nowFreed⟩))
    (ready : s'.ready = readyAfterGet s.ready op) : Collectors s' := by
  have inRange : InRange (p, q) := collectors.inRange id _ found
  have allowed : getGuard p q phase op := (threads.gets id _ found).1
  rcases getGuard_cases allowed with ⟨isLocal, notCheck, kept⟩ | ⟨rfl, unchecked⟩ | ⟨rfl, holding⟩
  · have sameReady : s'.ready = s.ready := by
      rw [ready]
      cases op
      case releaseSigno => exact isLocal.elim
      all_goals rfl
    have sameClaim : claimedAfter s claimed op reply = claimed := by
      cases op
      case isReadySignal p' q' => exact absurd rfl (notCheck p' q')
      all_goals rfl
    rw [kept reply, sameClaim] at gets
    refine collectors.update gets inRange (fun _ _ _ _ _ => by rw [sameReady]) ?_ ?_
    · intro holds
      rw [sameReady]
      obtain ⟨serial, claims, isReady⟩ := collectors.holding id _ found ⟨holds.1, by simp⟩
      exact ⟨serial, claims, isReady⟩
    · intro holds j other different otherFound otherHolds slot
      exact different (collectors.exclusive id _ found j other otherFound ⟨holds.1, by simp⟩
        otherHolds slot.1 slot.2).symm
  · obtain ⟨replyEq, rfl⟩ := step
    have alone := unheld unchecked
    have sameReady : s'.ready = s.ready := ready
    refine collectors.update gets inRange (fun _ _ _ _ _ => by rw [sameReady]) ?_ ?_
    · intro holds
      cases reply with
      | false =>
        rw [unchecked] at holds
        exact absurd holds.1 (by simp [GetPhase.after])
      | true =>
        obtain ⟨serial, isReady⟩ := (inv.isReadySignal_iff inRange.2).mp replyEq.symm
        exact ⟨serial, isReady, by rw [sameReady]; exact isReady⟩
    · intro _ j other _ otherFound otherHolds slot
      exact alone ⟨j, other, otherFound, otherHolds, slot.1.symm, slot.2.symm⟩
  · refine collectors.update gets inRange ?_ ?_ ?_
    · intro j other different otherFound otherHolds
      rw [ready]
      apply setSlot_of_ne
      intro slot
      exact different (collectors.exclusive id _ found j other otherFound ⟨holding, by simp⟩
        otherHolds slot.1.symm slot.2.symm).symm
    · intro holds
      exact absurd holds.1 (by simp [GetPhase.after])
    · intro holds
      exact absurd holds.1 (by simp [GetPhase.after])

/-- Collections keep their claims in every step in which they do not overlap. -/
theorem step (collectors : Collectors s) (threads : Threads s) (inv : SlotInv s.slots board)
    (allowed : Exclusive s action) (step : Step helper s action s') : Collectors s' := by
  cases step with
  | submit | submitOp | dequeue | loopDone | poll | pollSubsignal =>
    exact collectors.frame rfl fun _ _ _ => rfl
  | loopOp p req op next served work reply after found step =>
    exact collectors.loopOp threads inv found rfl rfl
  | getData paramTypes params reply after run =>
    refine collectors.frame rfl ?_
    intro p q held
    unfold readyAfterGetData
    dsimp only
    split
    · rfl
    · apply setSlot_of_ne
      rintro ⟨rfl, rfl⟩
      exact allowed.2 held
  | getStart paramTypes params =>
    refine collectors.update rfl allowed (fun _ _ _ _ _ => rfl) ?_ ?_
    · intro holds
      exact absurd holds.1 (by simp)
    · intro holds
      exact absurd holds.1 (by simp)
  | getOp id p q op next phase claimed freed reply after found step =>
    exact collectors.getOp threads inv found (allowed _ found) step rfl rfl

end Collectors

/-! ## Runs -/

/-- The threads, the collections and the slots agree. -/
structure SlotsOk (s : Sys) : Prop where
  threads : Threads s
  collectors : Collectors s
  described : ∃ board, SlotInv s.slots board

theorem SlotsOk.init : SlotsOk Sys.init where
  threads := Threads.init
  collectors := Collectors.init
  described :=
    ⟨fun _ _ => none, Board.Describes.zero, by simp, by simp [Sys.slots, Sys.init],
      by simp [Sys.slots, Sys.init], by simp [Sys.slots, Sys.init], by simp, by simp⟩

theorem SlotsOk.step (ok : SlotsOk s) (allowed : Exclusive s action)
    (step : Step helper s action s') : SlotsOk s' := by
  obtain ⟨threads, collectors, board, inv⟩ := ok
  obtain ⟨board', inv', -⟩ := inv.step (slotStep_of_step threads collectors inv allowed step)
  exact ⟨threads.step step, collectors.step threads inv allowed step, board', inv'⟩

/-- In every run whose collections name existing slots and do not overlap on one
slot, the threads, the collections and the slots agree. -/
theorem slotsOk_of_reachable (reachable : ((ioHelper helper).restrict Exclusive).Reachable s) :
    SlotsOk s := by
  refine reachable.invariant ?_ ?_
  · rintro state rfl
    exact SlotsOk.init
  · intro state action after _ ok step
    exact ok.step step.1 step.2

end TrustWasm.IoHelper
