import TrustWasm.IoHelper.CommandRuns
import TrustWasm.IoHelper.HeapRuns

/-!
# The heap contract of the io_helper

Collections free the result of the slot they hold, once.  Together with the
steps of submissions and workers this gives ownership of the heap in every
state that a run of matched submissions without overlapping collections
reaches.
-/

namespace TrustWasm.IoHelper

open TrustWasm.Lib TrustWasm.Tee TrustWasm.Drivers Function

variable {s s' : Sys} {owner : Ptr → Option Owner}

/-! ## Collections by single operations -/

variable {after : Pta} {p' q' serial : Nat}

section GetOp

variable {id p q : Nat} {op : HelperOp} {next : Helper.Reply op → Program Helper CommandResult}
  {phase : GetPhase} {claimed claimed' : Option Nat} {freed : Bool} {reply : Helper.Reply op}
  {view : GetView}

theorem fieldSlot_of_getHeapGuard (allowed : getHeapGuard p q view op) (target : Nat × Nat)
    (sets : op.fieldSlot = some target) : target = (p, q) := by
  cases op with
  | setRet | setLen =>
    obtain ⟨-, rfl, rfl⟩ := allowed
    exact (Option.some.inj sets).symm
  | setBuf => exact allowed.elim
  | _ => cases sets

/-- A collection changes the heap and the results only while it holds its slot,
and only to free the result or after that. -/
theorem holding_of_stores (allowed : getHeapGuard p q view op) (stores : op.Stores) :
    view.phase = .holding ∧ freedAfter view.freed op = true := by
  cases op with
  | free => exact ⟨allowed.1.holding, rfl⟩
  | setRet | setLen => exact allowed.1
  | malloc | storeByte | setBuf | enqueue => exact allowed.elim
  | _ => exact stores.elim

/-- A collection enqueues nothing. -/
theorem nodes_of_getHeapGuard {before : Pta} (allowed : getHeapGuard p q view op)
    (step : helperStep before op reply after) (p' : Nat) (node : IoReqNode)
    (member : node ∈ after.reqQueues p') : node ∈ before.reqQueues p' := by
  rcases queue_of_step step member with member | ⟨_, rfl, -⟩
  · exact member
  · exact allowed.elim

theorem stores_of_setsField (sets : op.SetsField) : op.Stores := by
  cases op with
  | setRet | setLen | setBuf => trivial
  | _ => exact sets.elim

/-- The collection keeps to its protocol after its operation. -/
theorem GetThread.Keeps.getOp {before : Pta}
    (keeps : GetThread.Keeps ⟨p, q, .call op next, phase, claimed, freed⟩ before)
    (step : helperStep before op reply after) :
    GetThread.Keeps
      ⟨p, q, next reply, phase.after op reply, claimed', freedAfter freed op⟩ after := by
  obtain ⟨view, ⟨allowed, rest⟩, isPhase, isFreed, agrees⟩ := keeps
  obtain rfl : view.phase = phase := isPhase
  obtain rfl : view.freed = freed := isFreed
  have fieldsOf (holding : view.phase = .holding) : view.Agrees (before.entry p q) :=
    agrees ⟨holding, by simp⟩
  -- an operation that leaves the view and the results alone
  have unchanged (kept : getHeapStep view op reply view) (quiet : ¬op.SetsField)
      (samePhase : view.phase.after op reply = view.phase)
      (sameFreed : freedAfter view.freed op = view.freed) :
      GetThread.Keeps ⟨p, q, next reply, view.phase.after op reply, claimed',
        freedAfter view.freed op⟩ after := by
    refine ⟨view, rest reply view kept, samePhase.symm, sameFreed.symm, ?_⟩
    rintro ⟨holding, -⟩
    obtain ⟨ret, len, buf⟩ := fieldsOf (samePhase ▸ holding)
    have fields := sameFields_of_not_setsField step quiet p q
    exact ⟨by rw [fields.ret, ret], by rw [fields.len, len], by rw [fields.buf, buf]⟩
  have own {p₀ q₀ : Nat} (slot : p₀ = p ∧ q₀ = q) : before.entry p₀ q₀ = before.entry p q := by
    rw [slot.1, slot.2]
  cases op with
  | isReadySignal p₀ q₀ =>
    obtain ⟨rfl, rfl⟩ := step
    cases isReady : after.isReadySignal p₀ q₀ with
    | false =>
      simp only [isReady] at unchanged
      exact unchanged rfl id rfl rfl
    | true =>
      let entry := after.entry p q
      exact ⟨⟨.holding, view.freed, entry.ret, entry.len, entry.buf⟩,
        rest true _ ⟨_, _, _, rfl⟩, rfl, rfl, fun _ => ⟨rfl, rfl, rfl⟩⟩
  | releaseSigno p₀ q₀ =>
    refine ⟨{ view with phase := .released }, rest reply _ rfl, rfl, rfl, ?_⟩
    rintro ⟨holding, -⟩
    cases holding
  | getRet p₀ q₀ =>
    refine unchanged ⟨?_, rfl⟩ id rfl rfl
    rw [(fieldsOf allowed.1).ret, ← own allowed.2]
    exact step.1
  | getLen p₀ q₀ =>
    refine unchanged ⟨?_, rfl⟩ id rfl rfl
    rw [(fieldsOf allowed.1).len, ← own allowed.2]
    exact step.1
  | getBuf p₀ q₀ =>
    refine unchanged ⟨?_, rfl⟩ id rfl rfl
    rw [(fieldsOf allowed.1).buf, ← own allowed.2]
    exact step.1
  | setRet p₀ q₀ ret =>
    refine ⟨{ view with ret := ret }, rest reply _ rfl, rfl, rfl, ?_⟩
    rintro ⟨holding, -⟩
    obtain ⟨-, len, buf⟩ := fieldsOf holding
    obtain ⟨-, rfl, rfl⟩ := allowed
    obtain rfl : after = _ := step
    rw [entry_setEntry_self]
    exact ⟨rfl, len, buf⟩
  | setLen p₀ q₀ len =>
    refine ⟨{ view with len := len }, rest reply _ rfl, rfl, rfl, ?_⟩
    rintro ⟨holding, -⟩
    obtain ⟨ret, -, buf⟩ := fieldsOf holding
    obtain ⟨-, rfl, rfl⟩ := allowed
    obtain rfl : after = _ := step
    rw [entry_setEntry_self]
    exact ⟨ret, rfl, buf⟩
  | free ptr =>
    refine ⟨{ view with freed := true }, rest reply _ rfl, rfl, rfl, ?_⟩
    rintro ⟨holding, -⟩
    obtain ⟨ret, len, buf⟩ := fieldsOf holding
    obtain rfl : after = _ := step
    exact ⟨ret, len, buf⟩
  | getPollTimes | setPollTimes | loadByte => exact unchanged rfl id rfl rfl
  | _ => exact allowed.elim

/-- The results of requests that are not the one ready in the collection's slot
stay as they are. -/
theorem fields_of_getOp (ok : SlotsOk s)
    (found : s.gets id = some ⟨p, q, .call op next, view.phase, claimed, freed⟩)
    (allowed : getHeapGuard p q view op) (step : helperStep s.pta op reply s'.pta) {stage : Stage}
    (holds : Holds s p' q' serial stage) (other : s.ready p q ≠ some serial) :
    SameFields s.pta s'.pta p' q' := by
  by_cases sets : op.SetsField
  · obtain ⟨holding, -⟩ := holding_of_stores allowed (stores_of_setsField sets)
    obtain ⟨serial', -, isReady⟩ := ok.collectors.holding id _ found ⟨holding, by simp⟩
    have here : Holds s p q serial' .ready := isReady
    refine sameFields_of_other step (fieldSlot_of_getHeapGuard allowed) (ok.lt_of_holds here)
      (ok.lt_of_holds holds) ?_
    rintro ⟨rfl, rfl⟩
    rw [(ok.oneOwner holds here).1] at other
    exact other isReady
  · exact sameFields_of_not_setsField step sets p' q'

theorem heapThreads_getOp (threads : HeapThreads s) (ok : SlotsOk s)
    (found : s.gets id = some ⟨p, q, .call op next, phase, claimed, freed⟩)
    (step : helperStep s.pta op reply s'.pta)
    (gets : s'.gets = update s.gets id
      (some ⟨p, q, next reply, phase.after op reply, claimed', freedAfter freed op⟩))
    (submits : s'.submits = s.submits) (loops : s'.loops = s.loops) : HeapThreads s' := by
  have keeps := threads.gets id _ found
  obtain ⟨view, ⟨allowed, -⟩, isPhase, -⟩ := keeps
  change getHeapGuard p q view op at allowed
  obtain rfl : view.phase = phase := isPhase
  refine threads.of_same submits (nodes_of_getHeapGuard allowed step) ?_ ?_
  · rw [loops]
    refine threads.loops_congr fun p' thread found' notServed => ?_
    have handling : Holds s p' thread.req.signo thread.req.ticket.serial .handling :=
      ⟨thread, found', notServed, rfl, rfl⟩
    refine fields_of_getOp ok found allowed step handling ?_
    intro isReady
    have here : Holds s p q thread.req.ticket.serial .ready := isReady
    cases (ok.oneStage handling here).2.2
  · rw [gets]
    intro id' thread found'
    by_cases same : id' = id
    · subst same
      rw [update_self] at found'
      cases found'
      exact (threads.gets id' _ found).getOp step
    · rw [update_of_ne same] at found'
      refine (threads.gets id' thread found').congr fun holds => ?_
      by_cases sets : op.SetsField
      · -- both hold their slots, so the slots differ
        obtain ⟨holding, -⟩ := holding_of_stores allowed (stores_of_setsField sets)
        obtain ⟨serial, -, isReady⟩ := ok.collectors.holding id' thread found' holds
        have there : Holds s thread.periphNo thread.subSigno serial .ready := isReady
        refine fields_of_getOp ok found allowed step there ?_
        intro isReady'
        have here : Holds s p q serial .ready := isReady'
        obtain ⟨periph, signo, -⟩ := ok.oneStage there here
        exact same (ok.collectors.exclusive id' thread found' id _ found holds
          ⟨holding, by simp⟩ periph signo)
      · exact sameFields_of_not_setsField step sets _ _

/-- A slot whose result is freed stays so while it is marked ready. -/
theorem taken_getOp (threads : HeapThreads s) (threads' : HeapThreads s')
    (found : s.gets id = some ⟨p, q, .call op next, phase, claimed, freed⟩)
    (gets : s'.gets = update s.gets id
      (some ⟨p, q, next reply, phase.after op reply, claimed', freedAfter freed op⟩))
    (ready : s'.ready = readyAfterGet s.ready op) (isReady : s'.ready p' q' = some serial)
    (taken : s.Taken p' q' ∨
      (phase = .holding ∧ freedAfter freed op = true ∧ p' = p ∧ q' = q)) : s'.Taken p' q' := by
  have found' : s'.gets id =
      some ⟨p, q, next reply, phase.after op reply, claimed', freedAfter freed op⟩ := by
    rw [gets, update_self]
  have own (holding : phase = .holding) (nowFreed : freedAfter freed op = true)
      (isReady : s'.ready p q = some serial) : s'.Taken p q := by
    obtain ⟨view, ⟨allowed, -⟩, isPhase, -⟩ := threads.gets id _ found
    have samePhase : phase.after op reply = .holding := by
      cases op with
      | isReadySignal =>
        have unchecked : view.phase = .unchecked := allowed.1
        rw [isPhase, holding] at unchecked
        cases unchecked
      | releaseSigno =>
        obtain ⟨-, rfl, rfl⟩ := allowed
        rw [ready, readyAfterGet, setSlot_self] at isReady
        cases isReady
      | _ => exact holding
    refine ⟨id, _, found', ⟨samePhase, ?_⟩, nowFreed, rfl, rfl⟩
    -- a collection that has freed the result does not return before its release
    intro result isPure
    obtain ⟨view', obeys', isPhase', isFreed', -⟩ := threads'.gets id _ found'
    rw [isPure] at obeys'
    have notFreed := obeys' (isPhase'.trans samePhase)
    rw [isFreed', nowFreed] at notFreed
    cases notFreed
  rcases taken with ⟨id', thread, foundTaker, holds, isFreed, rfl, rfl⟩ |
    ⟨holding, nowFreed, rfl, rfl⟩
  · by_cases same : id' = id
    · subst same
      rw [found] at foundTaker
      cases foundTaker
      refine own holds.1 ?_ isReady
      cases op with
      | free => rfl
      | _ => exact isFreed
    · refine ⟨id', thread, ?_, holds, isFreed, rfl, rfl⟩
      rw [gets, update_of_ne same]
      exact foundTaker
  · exact own holding nowFreed isReady

theorem ready_of_readyAfterGet {ready : Nat → Nat → Option Nat}
    (isReady : readyAfterGet ready op p' q' = some serial) : ready p' q' = some serial := by
  cases op with
  | releaseSigno p q =>
    change setSlot ready p q none p' q' = some serial at isReady
    rw [setSlot_apply] at isReady
    split at isReady
    · cases isReady
    · exact isReady
  | _ => exact isReady

/-- A collection's operation acts for the request ready in its slot, or for
nobody. -/
theorem heapMove_getOp (threads : HeapThreads s) (ok : SlotsOk s) (ok' : SlotsOk s')
    (threads' : HeapThreads s') (inv : HeapInv s owner)
    (found : s.gets id = some ⟨p, q, .call op next, phase, claimed, freed⟩)
    (step : helperStep s.pta op reply s'.pta)
    (gets : s'.gets = update s.gets id
      (some ⟨p, q, next reply, phase.after op reply, claimed', freedAfter freed op⟩))
    (submits : s'.submits = s.submits) (loops : s'.loops = s.loops)
    (ready : s'.ready = readyAfterGet s.ready op) : HeapMove s s' owner := by
  obtain ⟨view, ⟨allowed, -⟩, isPhase, isFreed, agrees⟩ := threads.gets id _ found
  change getHeapGuard p q view op at allowed
  obtain rfl : view.phase = phase := isPhase
  obtain rfl : view.freed = freed := isFreed
  have wasReady {p' q' serial : Nat} (isReady : s'.ready p' q' = some serial) :
      s.ready p' q' = some serial := by
    rw [ready] at isReady
    exact ready_of_readyAfterGet isReady
  have elsewhere (actor : Nat → Prop)
      (fields : ∀ p' q' serial, s.ready p' q' = some serial → ¬actor serial →
        SameFields s.pta s'.pta p' q') : SameElsewhere actor s s' := by
    refine .of_same submits (nodes_of_getHeapGuard allowed step)
      (fun _ _ found' _ => loops ▸ found')
      fun p' q' serial isReady other => ?_
    exact ⟨wasReady isReady, fields p' q' serial (wasReady isReady) other, fun taken =>
      taken_getOp threads threads' found gets ready isReady (.inl taken)⟩
  by_cases stores : op.Stores
  · obtain ⟨holding, nowFreed⟩ := holding_of_stores allowed stores
    obtain ⟨serial, -, isReady⟩ := ok.collectors.holding id _ found ⟨holding, by simp⟩
    have here : Holds s p q serial .ready := isReady
    have sameReady : s'.ready = s.ready := by
      rw [ready]
      cases op with
      | releaseSigno => exact stores.elim
      | _ => rfl
    have taken : s'.Taken p q :=
      taken_getOp threads threads' found gets ready (sameReady ▸ isReady)
        (.inr ⟨holding, nowFreed, rfl, rfl⟩)
    -- what is kept for the request is its result, and that is freed
    have nothing (o : Owner) (ptr : Ptr) (refers : Refers s' o ptr) (isSerial : o.serial = serial) :
        False := by
      obtain ⟨serial', b⟩ := o
      obtain rfl : serial' = serial := isSerial
      exact (refers_ready ok' threads'.handedOver (sameReady ▸ isReady) refers).2.1 taken
    have moved (owner' : Ptr → Option Owner) (change : OwnedStep (·.serial = serial)
        null s.pta.heap s'.pta.heap owner owner') : HeapMove s s' owner := by
      refine ⟨(· = serial), owner', .of_sameElsewhere (elsewhere _ ?_) change ?_, ?_⟩
      · intro p' q' serial' isReady' other
        have there : Holds s p' q' serial' .ready := isReady'
        refine fields_of_getOp ok found allowed step there ?_
        rw [isReady]
        intro equal
        exact other (Option.some.inj equal).symm
      · intro o ptr refers acts
        exact (nothing o ptr refers acts).elim
      · rintro p' q' serial' isReady' _ isSerial
        obtain rfl : serial' = serial := isSerial
        have there : Holds s p' q' serial' .ready := isReady'
        obtain ⟨rfl, rfl, -⟩ := ok.oneStage here there
        exact taken
    cases op with
    | free ptr =>
      obtain ⟨data, rfl⟩ := allowed
      have same : s'.pta = { s.pta with heap := s.pta.heap.free view.buf } := step
      obtain ⟨ret, len, buf⟩ := agrees ⟨holding, by simp⟩
      have notTaken : ¬s.Taken p q := by
        rintro ⟨id', thread, found', holds, isFreed, periph, signo⟩
        obtain rfl := ok.collectors.exclusive id' thread found' id _ found holds
          ⟨holding, by simp⟩ periph signo
        rw [found] at found'
        cases found'
        rw [data.notFreed] at isFreed
        cases isFreed
      have owned : owner view.buf = some ⟨serial, false⟩ := by
        rw [buf]
        exact inv.refers _ _
          (.result isReady notTaken (ret ▸ data.notNegative) (len ▸ data.notEmpty))
      refine moved (update owner view.buf none) ?_
      rw [same]
      exact .free inv.owned (.inr ⟨_, owned, rfl⟩)
    | setRet | setLen =>
      have heap : s'.pta.heap = s.pta.heap := by
        have same : s'.pta = _ := step
        rw [same]
        rfl
      refine moved owner ?_
      rw [heap]
      exact .refl inv.owned
    | malloc | storeByte | setBuf | enqueue => exact allowed.elim
    | _ => exact stores.elim
  · have store := sameStore_of_not_stores step stores
    exact HeapMove.of_quiet (HeapStep.quiet inv store.heap
      (elsewhere _ fun p' q' _ _ _ => store.fields p' q'))

end GetOp

/-! ## Collections in one step -/

section GetData

variable {paramTypes : BitVec 32} {params : Params} {p q : Nat}

/-- A collection in one step leaves the results alone, except that it may free
the result of its slot, which is then not ready any more. -/
theorem gotData_cases {before : Pta} {reply : CommandResult}
    (got : GotData before paramTypes params reply after) :
    SameStore before after ∨
      (before.isReadySignal (slotOf params).1 (slotOf params).2 = true ∧
        isNegative (before.entry (slotOf params).1 (slotOf params).2).ret = false ∧
        (before.entry (slotOf params).1 (slotOf params).2).len ≠ 0 ∧
        after = before.takeData (slotOf params).1 (slotOf params).2) := by
  have released (p q : Nat) : SameStore before (before.releaseSigno p q) :=
    ⟨rfl, rfl, sameFields_of_table rfl⟩
  rcases got with ⟨-, -, rfl⟩ | ⟨-, ⟨-, -, rfl⟩ | ⟨isReady, collected⟩⟩
  · exact .inl (.refl _)
  · exact .inl (.refl _)
  · cases collected with
    | short => exact .inl (.refl _)
    | failed | missing | empty => exact .inl (released _ _)
    | data notNegative _ notEmpty _ _ => exact .inr ⟨isReady, notNegative, notEmpty, rfl⟩

theorem reqQueues_takeData (before : Pta) (p q : Nat) :
    (before.takeData p q).reqQueues = before.reqQueues :=
  rfl

theorem fields_of_takeData (before : Pta) (range : q < nSubSig) (range' : q' < nSubSig)
    (other : ¬(p' = p ∧ q' = q)) :
    SameFields before (before.takeData p q) p' q' := by
  have same := entry_setEntry_of_ne { before with heap := before.heap.free (before.entry p q).buf }
    { before.entry p q with ret := 0, len := 0, pollTimes := 0 } range range' other
  exact ⟨congrArg SigEntry.ret same, congrArg SigEntry.len same, congrArg SigEntry.buf same⟩

theorem ready_of_readyAfterGetData {ready : Nat → Nat → Option Nat}
    (isReady : readyAfterGetData ready after params p' q' = some serial) :
    ready p' q' = some serial := by
  unfold readyAfterGetData at isReady
  split at isReady
  · exact isReady
  · rw [setSlot_apply] at isReady
    split at isReady
    · cases isReady
    · exact isReady

/-- Nothing is kept for a request whose slot has been released. -/
theorem not_refers_of_cleared (ok : SlotsOk s) (handedOver : HandedOver s)
    (same : SameElsewhere (fun _ => False) s s') {b : Bool} {ptr : Ptr}
    (wasReady : s.ready p q = some serial) (cleared : s'.ready p q = none)
    (refers : Refers s' ⟨serial, b⟩ ptr) : False := by
  have here : Holds s p q serial .ready := wasReady
  rcases refers.kept with ⟨-, thread', found, member⟩ | ⟨p', q', stage, kept⟩
  · obtain ⟨thread, found', args⟩ := same.submits _ _ found id (List.ne_nil_of_mem member)
    rw [← args, handedOver _ _ found' (ok.phase_eq here (by simp) found')] at member
    cases member
  · obtain ⟨rfl, rfl, rfl⟩ := ok.oneStage here (same.holds kept.holds.1 kept.holds.2 id)
    have isReady := kept.1
    rw [cleared] at isReady
    cases isReady

theorem heap_getData {reply : CommandResult} (threads : HeapThreads s) (ok : SlotsOk s)
    (inv : HeapInv s owner) (inRange : InRange (slotOf params))
    (notHeld : ¬s.Held (slotOf params).1 (slotOf params).2)
    (got : GotData s.pta paramTypes params reply s'.pta)
    (submits : s'.submits = s.submits) (loops : s'.loops = s.loops) (gets : s'.gets = s.gets)
    (ready : s'.ready = readyAfterGetData s.ready s'.pta params) :
    HeapThreads s' ∧ HeapMove s s' owner := by
  have wasReady {p' q' serial : Nat} (isReady : s'.ready p' q' = some serial) :
      s.ready p' q' = some serial := by
    rw [ready] at isReady
    exact ready_of_readyAfterGetData isReady
  have elsewhere (nodes : s'.pta.reqQueues = s.pta.reqQueues)
      (fields : ∀ p' q' serial, s'.ready p' q' = some serial → SameFields s.pta s'.pta p' q') :
      SameElsewhere (fun _ => False) s s' := by
    refine .of_same submits (fun _ _ member => nodes ▸ member) (fun _ _ found _ => loops ▸ found)
      fun p' q' serial isReady _ => ?_
    rw [taken_congr gets]
    exact ⟨wasReady isReady, fields p' q' serial isReady, id⟩
  have threads' (nodes : s'.pta.reqQueues = s.pta.reqQueues)
      (working : ∀ p thread, s.loops p = some thread → thread.served = false →
        SameFields s.pta s'.pta p thread.req.signo)
      (held : ∀ p' q', s.Held p' q' → SameFields s.pta s'.pta p' q') : HeapThreads s' := by
    refine threads.of_same submits (fun _ _ member => nodes ▸ member) ?_
      (threads.gets_congr gets fun id thread found holding =>
        held _ _ ⟨id, thread, found, holding, rfl, rfl⟩)
    rw [loops]
    exact threads.loops_congr working
  rcases gotData_cases got with store | ⟨isReady, notNegative, notEmpty, same⟩
  · exact ⟨threads' store.reqQueues (fun p' _ _ _ => store.fields p' _)
      (fun p' q' _ => store.fields p' q'),
      HeapMove.of_quiet (HeapStep.quiet inv store.heap
        (elsewhere store.reqQueues fun p' q' _ _ => store.fields p' q'))⟩
  · obtain ⟨serial, isSerial⟩ : ∃ serial, s.ready (slotOf params).1 (slotOf params).2 =
        some serial := by
      obtain ⟨-, -, board, slots⟩ := ok
      exact (slots.isReadySignal_iff inRange.2).mp isReady
    have here : Holds s (slotOf params).1 (slotOf params).2 serial .ready := isSerial
    have notTaken : ¬s.Taken (slotOf params).1 (slotOf params).2 := by
      rintro ⟨id, thread, found, holds, -, periph, signo⟩
      exact notHeld ⟨id, thread, found, holds, periph, signo⟩
    have cleared : s'.ready (slotOf params).1 (slotOf params).2 = none := by
      have notReady : s'.pta.isReadySignal (slotOf params).1 (slotOf params).2 = false := by
        rw [same]
        exact isReadySignal_of_released inRange.2 (.refl _)
      rw [ready, readyAfterGetData, notReady]
      exact setSlot_self _ _ _ _
    have fields {p' q' serial' : Nat} {stage : Stage} (holds : Holds s p' q' serial' stage)
        (other : ¬(p' = (slotOf params).1 ∧ q' = (slotOf params).2)) :
        SameFields s.pta s'.pta p' q' := by
      rw [same]
      exact fields_of_takeData s.pta inRange.2 (ok.lt_of_holds holds) other
    have nodes : s'.pta.reqQueues = s.pta.reqQueues := by rw [same, reqQueues_takeData]
    have frame : SameElsewhere (fun _ => False) s s' := by
      refine elsewhere nodes fun p' q' serial' isReady' => ?_
      have there : Holds s p' q' serial' .ready := wasReady isReady'
      refine fields there ?_
      rintro ⟨rfl, rfl⟩
      rw [cleared] at isReady'
      cases isReady'
    have owned := inv.refers _ _ (.result isSerial notTaken notNegative notEmpty)
    have change : OwnedStep (fun o : Owner => o.serial = serial) null s.pta.heap s'.pta.heap owner
        (update owner (s.pta.entry (slotOf params).1 (slotOf params).2).buf none) := by
      rw [same]
      exact .free inv.owned (.inr ⟨_, owned, rfl⟩)
    refine ⟨threads' nodes ?_ ?_, (· = serial), _,
      ⟨change.owned, change.keeps, fun o ptr refers _ => frame.others o ptr refers id, ?_,
        fun p' q' serial' isReady' _ => ⟨wasReady isReady', (frame.results _ _ _ isReady' id).2.1⟩⟩,
      ?_⟩
    · intro p' thread found notServed
      have handling : Holds s p' thread.req.signo thread.req.ticket.serial .handling :=
        ⟨thread, found, notServed, rfl, rfl⟩
      refine fields handling ?_
      rintro ⟨rfl, signo⟩
      rw [signo] at handling
      cases (ok.oneOwner handling here).2
    · intro p' q' held
      obtain ⟨id, thread, found, holding, rfl, rfl⟩ := held
      obtain ⟨serial', -, isReady'⟩ := ok.collectors.holding id thread found holding
      have there : Holds s thread.periphNo thread.subSigno serial' .ready := isReady'
      refine fields there ?_
      rintro ⟨periph, signo⟩
      exact notHeld ⟨id, thread, found, holding, periph, signo⟩
    · rintro ⟨serial', b⟩ ptr refers isActor
      obtain rfl : serial' = serial := isActor
      exact (not_refers_of_cleared ok threads.handedOver frame isSerial cleared refers).elim
    · rintro p' q' serial' isReady' stillReady isActor
      obtain rfl : serial' = serial := isActor
      have there : Holds s p' q' serial' .ready := isReady'
      obtain ⟨rfl, rfl, -⟩ := ok.oneStage here there
      rw [cleared] at stillReady
      cases stillReady

end GetData

/-! ## Runs -/

/-- A submission allocates the buffers the handler of its request frees. -/
def Action.Matched : Action → Prop
  | .submit submission => submission.Matched
  | _ => True

/-- Collections name existing slots and do not overlap on one slot, and
submissions match their handlers. -/
def Orderly (s : Sys) (action : Action) : Prop :=
  Exclusive s action ∧ action.Matched

/-- The slots, the threads and the ownership of the heap agree. -/
structure HeapOk (s : Sys) : Prop where
  slots : SlotsOk s
  threads : HeapThreads s
  owned : ∃ owner, HeapInv s owner

theorem HeapInv.init : HeapInv Sys.init (fun _ => none) where
  owned := ⟨by simp, rfl⟩
  refers := by
    intro o ptr refers
    cases refers with
    | argument found _ => cases found
    | node member => cases member
    | queued member _ => cases member
    | working found _ _ => cases found
    | result ready _ _ _ => cases ready

/-- What every step of an orderly run does to the heap. -/
theorem heap_step {action : Action} (slots : SlotsOk s) (threads : HeapThreads s)
    (inv : HeapInv s owner) (orderly : Orderly s action) (step : Step helper s action s') :
    HeapThreads s' ∧ HeapMove s s' owner := by
  have slots' := slots.step orderly.1 step
  obtain ⟨exclusive, matched⟩ := orderly
  have both {t : Sys} (first : HeapThreads t) (second : HeapThreads t → HeapMove s t owner) :
      HeapThreads t ∧ HeapMove s t owner :=
    ⟨first, second first⟩
  cases step with
  | submit submission => exact heap_submit threads inv matched rfl rfl rfl rfl rfl
  | submitOp serial op next phase args reply after found step =>
    exact both (heapThreads_submitOp threads slots.threads inv found step rfl rfl rfl)
      fun threads' => heapMove_submitOp threads slots slots' threads' inv found step rfl rfl rfl rfl
  | dequeue p req after idle step =>
    exact heap_dequeue threads slots slots' inv step rfl rfl rfl rfl
  | loopOp p req op next served work reply after found step =>
    have allowed : loopGuard p req.signo served op := (slots.threads.loops p _ found).1
    obtain ⟨rfl, -⟩ := loopGuard_cases allowed
    exact both (heapThreads_loopOp threads slots inv found step rfl rfl rfl)
      fun threads' => heapMove_loopOp threads slots slots' threads' inv found step rfl rfl rfl rfl
  | loopDone p req served work found =>
    refine heap_frame threads inv (.refl _) rfl ?_ rfl rfl
    exact forall_of_remove fun p thread found => found
  | poll paramTypes params reply after run =>
    exact heap_frame threads inv (sameStore_of_polls (poll_uses _ _) run) rfl
      (fun _ _ found => found) rfl rfl
  | pollSubsignal paramTypes params reply after run =>
    exact heap_frame threads inv (sameStore_of_polls (pollSubsignal_uses _ _) run) rfl
      (fun _ _ found => found) rfl rfl
  | getData paramTypes params reply after run =>
    exact heap_getData threads slots inv exclusive.1 exclusive.2 (getData_exec run) rfl rfl rfl rfl
  | getStart paramTypes params =>
    have unused : s.gets s.next = none := by
      cases found : s.gets s.next with
      | none => rfl
      | some thread => exact absurd (slots.threads.unusedGets _ thread found) (Nat.lt_irrefl _)
    exact heap_getStart threads unused inv rfl rfl rfl rfl rfl
  | getOp id p q op next phase claimed freed reply after found step =>
    exact both (heapThreads_getOp threads slots found step rfl rfl rfl)
      fun threads' => heapMove_getOp threads slots slots' threads' inv found step rfl rfl rfl rfl

theorem HeapOk.init : HeapOk Sys.init :=
  ⟨.init, .init, _, .init⟩

theorem HeapOk.step {action : Action} (ok : HeapOk s) (orderly : Orderly s action)
    (step : Step helper s action s') : HeapOk s' := by
  obtain ⟨slots, threads, owner, inv⟩ := ok
  obtain ⟨threads', actor, owner', moved, -⟩ := heap_step slots threads inv orderly step
  exact ⟨slots.step orderly.1 step, threads', owner', inv.step moved⟩

end TrustWasm.IoHelper
