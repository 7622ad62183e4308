import TrustWasm.IoHelper.HeapInvariant

/-!
# The heap along runs of matched requests

If every submission allocates the buffers the handler of its type frees, then in
every run without overlapping collections the threads keep to their heap
protocols, every pointer that is kept is owned, and ready results stay as they
are until they are collected.
-/

namespace TrustWasm.IoHelper

open TrustWasm.Lib TrustWasm.Tee TrustWasm.Drivers Function

variable {s s' : Sys} {owner owner' : Ptr → Option Owner}

/-! ## Threads -/

/-- The fields a handler has set are those of the entry. -/
structure Written.Agrees (written : Written) (entry : SigEntry) : Prop where
  ret : ∀ ret, written.ret = some ret → entry.ret = ret
  len : ∀ len, written.len = some len → entry.len = len
  buf : ∀ buf, written.buf = some buf → entry.buf = buf

/-- The fields a collection relies on are those of the entry. -/
structure GetView.Agrees (view : GetView) (entry : SigEntry) : Prop where
  ret : view.ret = entry.ret
  len : view.len = entry.len
  buf : view.buf = entry.buf

/-- The collection keeps to its heap protocol from a view the state bears out. -/
def GetThread.Keeps (thread : GetThread) (pta : Pta) : Prop :=
  ∃ view : GetView,
    thread.prog.Obeys (getHeap thread.periphNo thread.subSigno) (fun _ after => after.Settled)
      view ∧
    view.phase = thread.phase ∧ view.freed = thread.freed ∧
    (thread.Holding → view.Agrees (pta.entry thread.periphNo thread.subSigno))

/-- Every thread keeps to its heap protocol. -/
structure HeapThreads (s : Sys) : Prop where
  handedOver : HandedOver s
  submits : ∀ serial thread, s.submits serial = some thread →
    thread.prog.Obeys submitHeap (fun _ _ => True) thread.args
  queued : ∀ p node, node ∈ s.pta.reqQueues p → node.req.Matched
  loops : ∀ p thread, s.loops p = some thread → thread.served = false →
    thread.prog.Obeys (workHeap p thread.req.signo) (fun _ _ => True) thread.work ∧
      thread.work.written.Agrees (s.pta.entry p thread.req.signo)
  gets : ∀ id thread, s.gets id = some thread → thread.Keeps s.pta

theorem HeapThreads.init : HeapThreads Sys.init := by
  constructor
  all_goals
    intro _ _ found
    simp [Sys.init, Pta.zero] at found

variable {p q serial : Nat} {op : HelperOp} {after before : Pta}

theorem Written.Agrees.congr {written : Written} (agrees : written.Agrees (s.pta.entry p q))
    (same : SameFields s.pta s'.pta p q) :
    written.Agrees (s'.pta.entry p q) :=
  ⟨by rw [same.ret]; exact agrees.ret, by rw [same.len]; exact agrees.len,
    by rw [same.buf]; exact agrees.buf⟩

theorem GetThread.Keeps.congr {thread : GetThread} (keeps : thread.Keeps s.pta)
    (same : thread.Holding → SameFields s.pta s'.pta thread.periphNo thread.subSigno) :
    thread.Keeps s'.pta := by
  obtain ⟨view, obeys, phase, freed, agrees⟩ := keeps
  refine ⟨view, obeys, phase, freed, ?_⟩
  intro holding
  obtain ⟨ret, len, buf⟩ := agrees holding
  have fields := same holding
  exact ⟨by rw [fields.ret, ret], by rw [fields.len, len], by rw [fields.buf, buf]⟩

/-- Workers keep to their protocols when their slots keep their fields. -/
theorem HeapThreads.loops_congr (threads : HeapThreads s)
    (same : ∀ p thread, s.loops p = some thread → thread.served = false →
      SameFields s.pta s'.pta p thread.req.signo) :
    ∀ p thread, s.loops p = some thread → thread.served = false →
      thread.prog.Obeys (workHeap p thread.req.signo) (fun _ _ => True) thread.work ∧
        thread.work.written.Agrees (s'.pta.entry p thread.req.signo) := by
  intro p thread found notServed
  obtain ⟨obeys, agrees⟩ := threads.loops p thread found notServed
  exact ⟨obeys, agrees.congr (same p thread found notServed)⟩

/-- Collections keep to their protocols when the slots they hold keep their fields. -/
theorem HeapThreads.gets_congr (threads : HeapThreads s) (gets : s'.gets = s.gets)
    (same : ∀ id thread, s.gets id = some thread → thread.Holding →
      SameFields s.pta s'.pta thread.periphNo thread.subSigno) (id : Nat) (thread : GetThread)
    (found : s'.gets id = some thread) : thread.Keeps s'.pta := by
  rw [gets] at found
  exact (threads.gets id thread found).congr (same id thread found)

/-- The threads after a step of a worker or a collection. -/
theorem HeapThreads.of_same (threads : HeapThreads s) (submits : s'.submits = s.submits)
    (nodes : ∀ p node, node ∈ s'.pta.reqQueues p → node ∈ s.pta.reqQueues p)
    (loops : ∀ p thread, s'.loops p = some thread → thread.served = false →
      thread.prog.Obeys (workHeap p thread.req.signo) (fun _ _ => True) thread.work ∧
        thread.work.written.Agrees (s'.pta.entry p thread.req.signo))
    (gets : ∀ id thread, s'.gets id = some thread → thread.Keeps s'.pta) : HeapThreads s' where
  handedOver := by
    unfold HandedOver
    rw [submits]
    exact threads.handedOver
  submits := by
    rw [submits]
    exact threads.submits
  queued p node member := threads.queued p node (nodes p node member)
  loops := loops
  gets := gets

/-! ## Frames -/

/-- Outside the requests of `actor` nothing new is kept and no ready result is
touched. -/
structure SameElsewhere (actor : Nat → Prop) (s s' : Sys) : Prop where
  submits : ∀ serial thread', s'.submits serial = some thread' → ¬actor serial →
    thread'.args ≠ [] → ∃ thread, s.submits serial = some thread ∧ thread.args = thread'.args
  nodes : ∀ p node, node ∈ s'.pta.reqQueues p → ¬actor node.req.ticket.serial →
    node ∈ s.pta.reqQueues p
  loops : ∀ p thread', s'.loops p = some thread' → thread'.served = false →
    ¬actor thread'.req.ticket.serial → ∃ thread, s.loops p = some thread ∧
      thread.served = false ∧ thread.req = thread'.req ∧ thread.work.owned = thread'.work.owned
  results : ∀ p q serial, s'.ready p q = some serial → ¬actor serial →
    s.ready p q = some serial ∧ SameFields s.pta s'.pta p q ∧ (s.Taken p q → s'.Taken p q)

theorem SameElsewhere.others {actor : Nat → Prop} (same : SameElsewhere actor s s') (o : Owner)
    (ptr : Ptr) (refers : Refers s' o ptr) (other : ¬actor o.serial) : Refers s o ptr := by
  cases refers with
  | argument found member =>
    obtain ⟨thread, found', args⟩ := same.submits _ _ found other (List.ne_nil_of_mem member)
    exact .argument found' (args ▸ member)
  | node member => exact .node (same.nodes _ _ member other)
  | queued member arg => exact .queued (same.nodes _ _ member other) arg
  | working found notServed member =>
    obtain ⟨thread, found', notServed', req, owned⟩ := same.loops _ _ found notServed other
    rw [← req]
    exact .working found' notServed' (owned ▸ member)
  | result ready notTaken notNegative notEmpty =>
    obtain ⟨ready', fields, taken⟩ := same.results _ _ _ ready other
    rw [fields.ret] at notNegative
    rw [fields.len] at notEmpty
    rw [fields.buf]
    exact .result ready' (fun wasTaken => notTaken (taken wasTaken)) notNegative notEmpty

/-- A request in its slot that is not acted for was there before. -/
theorem SameElsewhere.holds {actor : Nat → Prop} (same : SameElsewhere actor s s') {stage : Stage}
    (holds : Holds s' p q serial stage) (later : stage ≠ .allocated) (other : ¬actor serial) :
    Holds s p q serial stage := by
  cases stage with
  | allocated => exact absurd rfl later
  | queued =>
    obtain ⟨node, member, signo, rfl⟩ := holds
    exact ⟨node, same.nodes _ _ member other, signo, rfl⟩
  | handling =>
    obtain ⟨thread', found, notServed, signo, rfl⟩ := holds
    obtain ⟨thread, found', notServed', req, -⟩ := same.loops _ _ found notServed other
    exact ⟨thread, found', notServed', req ▸ signo, congrArg (·.ticket.serial) req⟩
  | ready => exact (same.results _ _ _ holds other).1

/-- The frame of a step of a worker or a collection. -/
theorem SameElsewhere.of_same {actor : Nat → Prop} (submits : s'.submits = s.submits)
    (nodes : ∀ p node, node ∈ s'.pta.reqQueues p → node ∈ s.pta.reqQueues p)
    (loops : ∀ p thread, s'.loops p = some thread → ¬actor thread.req.ticket.serial →
      s.loops p = some thread)
    (results : ∀ p q serial, s'.ready p q = some serial → ¬actor serial →
      s.ready p q = some serial ∧ SameFields s.pta s'.pta p q ∧ (s.Taken p q → s'.Taken p q)) :
    SameElsewhere actor s s' where
  submits := by
    intro serial thread' found _ _
    rw [submits] at found
    exact ⟨thread', found, rfl⟩
  nodes p node member _ := nodes p node member
  loops p thread' found notServed other :=
    ⟨thread', loops p thread' found other, notServed, rfl, rfl⟩
  results := results

theorem HeapStep.of_sameElsewhere {actor : Nat → Prop} (same : SameElsewhere actor s s')
    (change : OwnedStep (fun o : Owner => actor o.serial) null s.pta.heap s'.pta.heap owner owner')
    (mine : ∀ o ptr, Refers s' o ptr → actor o.serial → owner' ptr = some o) :
    HeapStep actor s s' owner owner' where
  owned := change.owned
  keeps := change.keeps
  others := same.others
  mine := mine
  results p q serial ready other :=
    ⟨(same.results p q serial ready other).1, (same.results p q serial ready other).2.1⟩

/-- A step that leaves the heap alone and keeps nothing new acts for nobody. -/
theorem HeapStep.quiet (inv : HeapInv s owner) (heap : s'.pta.heap = s.pta.heap)
    (same : SameElsewhere (fun _ => False) s s') :
    HeapStep (fun _ => False) s s' owner owner := by
  refine .of_sameElsewhere same ?_ ?_
  · rw [heap]
    exact .refl inv.owned
  · intro _ _ _ acts
    exact acts.elim

/-- What a step does to the heap, whoever acts: a result of a request that acts
is taken if it is still marked ready. -/
def HeapMove (s s' : Sys) (owner : Ptr → Option Owner) : Prop :=
  ∃ actor owner', HeapStep actor s s' owner owner' ∧
    ∀ p q serial, s.ready p q = some serial → s'.ready p q = some serial → actor serial →
      s'.Taken p q

theorem HeapMove.of_quiet (step : HeapStep (fun _ => False) s s' owner owner) :
    HeapMove s s' owner :=
  ⟨_, _, step, fun _ _ _ _ _ acts => acts.elim⟩

/-- A step that acts for one request, whose result is not ready. -/
theorem HeapMove.of_change (same : SameElsewhere (· = serial) s s')
    (notReady : ∀ p q, s.ready p q ≠ some serial)
    (change : OwnedStep (fun o : Owner => o.serial = serial) null s.pta.heap s'.pta.heap
      owner owner')
    (mine : ∀ b ptr, Refers s' ⟨serial, b⟩ ptr → owner' ptr = some ⟨serial, b⟩) :
    HeapMove s s' owner := by
  refine ⟨_, owner', .of_sameElsewhere same change ?_, ?_⟩
  · rintro ⟨_, b⟩ ptr refers rfl
    exact mine b ptr refers
  · rintro p q _ isReady _ rfl
    exact absurd isReady (notReady p q)

/-- A step on the buffers in hand, which are all that is kept for the request. -/
theorem HeapMove.of_hand {hand hand' : List Ptr} (same : SameElsewhere (· = serial) s s')
    (notReady : ∀ p q, s.ready p q ≠ some serial) (inv : HeapInv s owner)
    (owns : ∀ ptr ∈ hand, owner ptr = some ⟨serial, false⟩)
    (kept : ∀ b ptr, Refers s' ⟨serial, b⟩ ptr → b = false ∧ ptr ∈ hand')
    (step : HandStep null s.pta.heap hand hand' s'.pta.heap) : HeapMove s s' owner := by
  obtain ⟨owner', change, owns'⟩ := step.exists_owned inv.owned (·.serial = serial) rfl owns
  refine .of_change same notReady change fun b ptr refers => ?_
  obtain ⟨rfl, member⟩ := kept b ptr refers
  exact owns' ptr member

theorem taken_congr (gets : s'.gets = s.gets) (p q : Nat) : s'.Taken p q ↔ s.Taken p q := by
  unfold Sys.Taken
  rw [gets]

/-! ## Submissions -/

theorem heap_submit {submission : Submission} (threads : HeapThreads s) (inv : HeapInv s owner)
    (matched : submission.Matched) (pta : s'.pta = s.pta)
    (submits : s'.submits =
      update s.submits s.next (some ⟨submission.program s.next, .fresh, []⟩))
    (loops : s'.loops = s.loops) (gets : s'.gets = s.gets) (ready : s'.ready = s.ready) :
    HeapThreads s' ∧ HeapMove s s' owner := by
  constructor
  · refine ⟨?_, ?_, ?_, ?_, ?_⟩
    · unfold HandedOver
      rw [submits]
      exact forall_of_update (fun _ => rfl) threads.handedOver
    · rw [submits]
      exact forall_of_update (Submission.program_submit matched s.next) threads.submits
    · rw [pta]
      exact threads.queued
    · rw [loops, pta]
      exact threads.loops
    · rw [gets, pta]
      exact threads.gets
  · refine HeapMove.of_quiet (HeapStep.quiet inv (by rw [pta]) ⟨?_, ?_, ?_, ?_⟩)
    · intro serial thread' found _ nonempty
      rw [submits] at found
      by_cases here : serial = s.next
      · subst here
        rw [update_self] at found
        cases found
        exact absurd rfl nonempty
      · rw [update_of_ne here] at found
        exact ⟨thread', found, rfl⟩
    · intro p node member _
      rw [pta] at member
      exact member
    · intro p thread' found notServed _
      rw [loops] at found
      exact ⟨thread', found, notServed, rfl, rfl⟩
    · intro p q serial isReady _
      rw [ready] at isReady
      rw [pta, taken_congr gets]
      exact ⟨isReady, .refl _ _ _, id⟩

/-- The frame of a submission's operation: others keep what they keep. -/
theorem sameElsewhere_submitOp {thread : SubmitThread}
    (submits : s'.submits = update s.submits serial (some thread))
    (nodes : ∀ p node, node ∈ s'.pta.reqQueues p → node.req.ticket.serial ≠ serial →
      node ∈ s.pta.reqQueues p) (fields : ∀ p q, SameFields s.pta s'.pta p q)
    (loops : s'.loops = s.loops) (gets : s'.gets = s.gets) (ready : s'.ready = s.ready) :
    SameElsewhere (· = serial) s s' where
  submits := by
    intro serial' thread' found other _
    rw [submits, update_of_ne other] at found
    exact ⟨thread', found, rfl⟩
  nodes := nodes
  loops := by
    intro p thread' found notServed _
    rw [loops] at found
    exact ⟨thread', found, notServed, rfl, rfl⟩
  results := by
    intro p q serial' isReady _
    rw [ready] at isReady
    rw [taken_congr gets]
    exact ⟨isReady, fields p q, id⟩

section SubmitOp

variable {next : Helper.Reply op → Program Helper CommandResult} {phase : SubmitPhase}
    {args : List Ptr} {reply : Helper.Reply op}

/-- A new block is none of those a submission has. -/
theorem submitReply_of_step (inv : HeapInv s owner)
    (found : s.submits serial = some ⟨.call op next, phase, args⟩)
    (step : helperStep s.pta op reply after) : SubmitReply args op reply := by
  cases op
  case malloc size =>
    rcases step with ⟨isNull, -⟩ | ⟨-, dead, -⟩
    · exact .inl isNull
    · right
      intro member
      have owned := inv.refers _ _ (Refers.argument found member)
      exact inv.owned.live _ _ owned dead
  all_goals trivial

/-- The operations a submission uses set no result fields. -/
theorem not_setsField_of_submitHeapGuard (allowed : submitHeapGuard args op) : ¬op.SetsField := by
  cases op
  case setRet | setLen | setBuf => exact allowed.elim
  all_goals exact id

/-- A node in a queue after an operation was there before or was enqueued by it. -/
theorem queue_of_step {reply : Helper.Reply op} (step : helperStep before op reply after)
    {node : IoReqNode} (member : node ∈ after.reqQueues p) :
    node ∈ before.reqQueues p ∨ ∃ req, op = .enqueue p req ∧ node.req = req := by
  by_cases enqueues : ∃ p' req, op = .enqueue p' req
  · obtain ⟨p', req, rfl⟩ := enqueues
    rcases step with ⟨-, rfl⟩ | ⟨-, addr, junk, -, -, rfl⟩
    · exact .inl member
    · rw [Pta.enqueueNode] at member
      by_cases here : p = p'
      · subst here
        simp only [update_self, List.mem_append, List.mem_singleton] at member
        rcases member with member | rfl
        · exact .inl member
        · exact .inr ⟨req, rfl, rfl⟩
      · simp only [update_of_ne here] at member
        exact .inl member
  · rw [reqQueues_of_not_enqueue step fun p' req equal => enqueues ⟨p', req, equal⟩] at member
    exact .inl member

theorem heapThreads_submitOp (threads : HeapThreads s) (slots : Threads s)
    (inv : HeapInv s owner) (found : s.submits serial = some ⟨.call op next, phase, args⟩)
    (step : helperStep s.pta op reply s'.pta)
    (submits : s'.submits = update s.submits serial
      (some ⟨next reply, phase.after op reply, argsAfter args op reply⟩))
    (loops : s'.loops = s.loops) (gets : s'.gets = s.gets) : HeapThreads s' := by
  have obeys := threads.submits serial _ found
  have notDone : phase ≠ .enqueued := ne_enqueued_of_submitGuard (slots.submits serial _ found).1
  have fields := sameFields_of_not_setsField step (not_setsField_of_submitHeapGuard obeys.1)
  refine ⟨?_, ?_, ?_, ?_, ?_⟩
  · unfold HandedOver
    rw [submits]
    refine forall_of_update ?_ threads.handedOver
    intro done
    cases op
    case enqueue p req =>
      change (if reply = teeSuccess then SubmitPhase.enqueued else phase) = .enqueued at done
      change (if reply = teeSuccess then [] else args) = []
      by_cases success : reply = teeSuccess
      · rw [if_pos success]
      · rw [if_neg success] at done
        exact absurd done notDone
    case allocateSigno p =>
      cases reply with
      | none => exact absurd done notDone
      | some q => cases done
    all_goals exact absurd done notDone
  · rw [submits]
    exact forall_of_update (obeys.2 reply _ ⟨submitReply_of_step inv found step, rfl⟩)
      threads.submits
  · intro p node member
    rcases queue_of_step step member with member | ⟨req, rfl, isReq⟩
    · exact threads.queued p node member
    · rw [isReq]
      exact obeys.1.2
  · rw [loops]
    exact threads.loops_congr fun p thread _ _ => fields p _
  · exact threads.gets_congr gets fun _ _ _ _ => fields _ _

theorem nodes_of_submitOp (slots : Threads s)
    (found : s.submits serial = some ⟨.call op next, phase, args⟩)
    (step : helperStep before op reply after) (p : Nat) (node : IoReqNode)
    (member : node ∈ after.reqQueues p) (other : node.req.ticket.serial ≠ serial) :
    node ∈ before.reqQueues p := by
  rcases queue_of_step step member with member | ⟨req, rfl, rfl⟩
  · exact member
  · exact absurd (slots.submits serial _ found).1.2 other

theorem argsAfter_refused (p : Nat) (req : IoReq) :
    argsAfter args (.enqueue p req) teeErrorOutOfMemory = args := by
  have refused : teeErrorOutOfMemory ≠ teeSuccess := by decide
  simp [argsAfter, refused]

/-- A submission's operation acts for its own request. -/
theorem heapMove_submitOp (threads : HeapThreads s) (ok : SlotsOk s) (ok' : SlotsOk s')
    (threads' : HeapThreads s') (inv : HeapInv s owner)
    (found : s.submits serial = some ⟨.call op next, phase, args⟩)
    (step : helperStep s.pta op reply s'.pta)
    (submits : s'.submits = update s.submits serial
      (some ⟨next reply, phase.after op reply, argsAfter args op reply⟩))
    (loops : s'.loops = s.loops) (gets : s'.gets = s.gets) (ready : s'.ready = s.ready) :
    HeapMove s s' owner := by
  have allowed : submitHeapGuard args op := (threads.submits serial _ found).1
  have notDone : phase ≠ .enqueued :=
    ne_enqueued_of_submitGuard (ok.threads.submits serial _ found).1
  have notReady (p q : Nat) : s.ready p q ≠ some serial := by
    intro isReady
    have holds : Holds s p q serial .ready := isReady
    exact notDone (ok.phase_eq holds (by simp) found)
  have found' : s'.submits serial =
      some ⟨next reply, phase.after op reply, argsAfter args op reply⟩ := by
    rw [submits, update_self]
  have owns (ptr : Ptr) (member : ptr ∈ args) : owner ptr = some ⟨serial, false⟩ :=
    inv.refers _ _ (.argument found member)
  have elsewhere : SameElsewhere (· = serial) s s' :=
    sameElsewhere_submitOp submits (nodes_of_submitOp ok.threads found step)
      (sameFields_of_not_setsField step (not_setsField_of_submitHeapGuard allowed)) loops gets ready
  -- as long as the request is not enqueued, its buffers are all it keeps
  have byHand (still : phase.after op reply ≠ .enqueued)
      (hand : HandStep null s.pta.heap args (argsAfter args op reply) s'.pta.heap) :
      HeapMove s s' owner :=
    .of_hand elsewhere notReady inv owns (fun _ _ => refers_submitting ok' found' still) hand
  have quiet (stores : ¬op.Stores) (still : phase.after op reply ≠ .enqueued)
      (sameArgs : argsAfter args op reply = args) : HeapMove s s' owner := by
    refine byHand still ?_
    rw [(sameStore_of_not_stores step stores).heap, sameArgs]
    exact .keep (List.Subset.refl _)
  cases op with
  | malloc size =>
    refine byHand notDone ?_
    rcases step with ⟨rfl, same⟩ | ⟨notNull, dead, junk, same⟩
    · rw [same]
      exact .keep (by simp [argsAfter])
    · rw [same, argsAfter_malloc notNull]
      exact .alloc size junk notNull dead (by simp)
  | storeByte ptr offset byte =>
    have same : s'.pta = { s.pta with heap := s.pta.heap.store ptr offset byte } := step
    refine byHand notDone ?_
    rw [same]
    exact .store offset byte (.inr allowed) (List.Subset.refl _)
  | enqueue p req =>
    rcases step with ⟨rfl, same⟩ | ⟨rfl, addr, junk, notNull, dead, same⟩
    · refine byHand notDone ?_
      rw [same, argsAfter_refused]
      exact .keep (List.Subset.refl _)
    · have serialEq : req.ticket.serial = serial := (ok.threads.submits serial _ found).1.2
      have member : (⟨addr, req⟩ : IoReqNode) ∈ s'.pta.reqQueues p := by
        rw [same]
        simp [Pta.enqueueNode]
      have change : OwnedStep (fun o : Owner => o.serial = serial) null s.pta.heap s'.pta.heap owner
          (update owner addr (some ⟨serial, true⟩)) := by
        rw [same]
        exact .alloc inv.owned notNull dead _ junk _
      refine .of_change elsewhere notReady change fun b ptr refers => ?_
      rw [← serialEq] at refers
      rcases refers_queued ok' threads'.handedOver member refers with ⟨rfl, rfl⟩ | ⟨rfl, arg⟩
      · rw [update_self]
      · have owned := owns ptr (allowed.1 ▸ arg)
        have distinct : ptr ≠ addr := by
          rintro rfl
          exact inv.owned.live _ _ owned dead
        rw [update_of_ne distinct, owned]
  | allocateSigno p =>
    refine quiet id ?_ rfl
    cases reply with
    | none => exact notDone
    | some q => simp [SubmitPhase.after]
  | loadClient ptr offset => exact quiet id notDone rfl
  | _ => exact allowed.elim

end SubmitOp

/-! ## Workers -/

theorem heap_dequeue {req : IoReq} (threads : HeapThreads s) (ok : SlotsOk s) (ok' : SlotsOk s')
    (inv : HeapInv s owner) (step : s.pta.dequeue p = some (req, s'.pta))
    (loops : s'.loops = update s.loops p
      (some ⟨req, serve req p, false, .start req⟩)) (submits : s'.submits = s.submits)
    (gets : s'.gets = s.gets) (ready : s'.ready = s.ready) :
    HeapThreads s' ∧ HeapMove s s' owner := by
  obtain ⟨node, rest, queue, rfl, pta⟩ : ∃ node rest, s.pta.reqQueues p = node :: rest ∧
      node.req = req ∧ s'.pta = { s.pta with
        reqQueues := update s.pta.reqQueues p rest
        heap := s.pta.heap.free node.addr } := by
    unfold Pta.dequeue at step
    cases queue : s.pta.reqQueues p with
    | nil => simp [queue] at step
    | cons node rest =>
      simp only [queue, Option.some.injEq, Prod.mk.injEq] at step
      exact ⟨node, rest, rfl, step.1, step.2.symm⟩
  have head : node ∈ s.pta.reqQueues p := by
    rw [queue]
    exact List.mem_cons_self
  have nodes (p' : Nat) (other : IoReqNode) (member : other ∈ s'.pta.reqQueues p') :
      other ∈ s.pta.reqQueues p' := by
    rw [pta] at member
    by_cases here : p' = p
    · subst here
      simp only [update_self] at member
      rw [queue]
      exact List.mem_cons_of_mem _ member
    · simp only [update_of_ne here] at member
      exact member
  have fields (p' q' : Nat) : SameFields s.pta s'.pta p' q' := by
    apply sameFields_of_table
    rw [pta]
  have threads' : HeapThreads s' := by
    refine threads.of_same submits nodes ?_ (threads.gets_congr gets fun _ _ _ _ => fields _ _)
    rw [loops]
    refine forall_of_update ?_ (threads.loops_congr fun p' thread _ _ => fields p' _)
    intro _
    exact ⟨serve_work (threads.queued p node head) p, by simp [WorkView.start],
      by simp [WorkView.start], by simp [WorkView.start]⟩
  have found' : s'.loops p = some ⟨node.req, serve node.req p, false, .start node.req⟩ := by
    rw [loops, update_self]
  have ownsNode : owner node.addr = some ⟨node.req.ticket.serial, true⟩ :=
    inv.refers _ _ (.node head)
  have elsewhere : SameElsewhere (· = node.req.ticket.serial) s s' := by
    refine .of_same submits nodes ?_ fun p' q' serial isReady _ => ?_
    · rw [loops]
      exact forall_of_update (fun other => absurd rfl other) fun p' thread found _ => found
    · rw [ready] at isReady
      rw [taken_congr gets]
      exact ⟨isReady, fields p' q', id⟩
  have notReady (p' q' : Nat) : s.ready p' q' ≠ some node.req.ticket.serial := by
    intro isReady
    have queued : Holds s p node.req.signo node.req.ticket.serial .queued := ⟨node, head, rfl, rfl⟩
    have readyHere : Holds s p' q' node.req.ticket.serial .ready := isReady
    cases (ok.oneStage queued readyHere).2.2
  have change : OwnedStep (fun o : Owner => o.serial = node.req.ticket.serial) null s.pta.heap
      s'.pta.heap owner (update owner node.addr none) := by
    rw [pta]
    exact .free inv.owned (.inr ⟨_, ownsNode, rfl⟩)
  refine ⟨threads', .of_change elsewhere notReady change fun b ptr refers => ?_⟩
  obtain ⟨rfl, member⟩ := refers_handling ok' threads'.handedOver found' rfl refers
  have owned : owner ptr = some ⟨node.req.ticket.serial, false⟩ :=
    inv.refers _ _ (.queued head member)
  have distinct : ptr ≠ node.addr := by
    rintro rfl
    rw [ownsNode] at owned
    cases owned
  rw [update_of_ne distinct, owned]

section LoopOp

variable {req : IoReq} {next : Helper.Reply op → Program Helper Unit} {work : WorkView}
    {reply : Helper.Reply op}

theorem fieldSlot_of_workGuard (allowed : workGuard p q work op) (target : Nat × Nat)
    (sets : op.fieldSlot = some target) : target = (p, q) := by
  cases op with
  | setRet | setLen | setBuf =>
    obtain ⟨rfl, rfl⟩ := allowed
    exact (Option.some.inj sets).symm
  | _ => cases sets

/-- A worker enqueues nothing. -/
theorem nodes_of_workGuard (allowed : workGuard p q work op)
    (step : helperStep before op reply after)
    (p' : Nat) (node : IoReqNode) (member : node ∈ after.reqQueues p') :
    node ∈ before.reqQueues p' := by
  rcases queue_of_step step member with member | ⟨_, rfl, -⟩
  · exact member
  · exact allowed.elim

/-- What a worker relies on in replies. -/
theorem workReply_of_step (inv : HeapInv s owner) {served : Bool}
    (found : s.loops p = some ⟨req, .call op next, served, work⟩) (notServed : served = false)
    (step : helperStep s.pta op reply after) : WorkReply work op reply := by
  cases op
  case malloc size =>
    rcases step with ⟨isNull, -⟩ | ⟨-, dead, -⟩
    · exact .inl isNull
    · right
      intro member
      have owned := inv.refers _ _ (Refers.working found notServed member)
      exact inv.owned.live _ _ owned dead
  case driver call => exact step.1
  case storage call => exact step.1
  all_goals trivial

/-- The fields set so far follow the worker's operation. -/
theorem agrees_after (allowed : workGuard p q work op)
    (agrees : work.written.Agrees (before.entry p q)) (step : helperStep before op reply after) :
    (work.after op reply).written.Agrees (after.entry p q) := by
  have kept (quiet : ¬op.SetsField) (same : (work.after op reply).written = work.written) :
      (work.after op reply).written.Agrees (after.entry p q) := by
    have fields := sameFields_of_not_setsField step quiet p q
    rw [same]
    exact ⟨by rw [fields.ret]; exact agrees.ret, by rw [fields.len]; exact agrees.len,
      by rw [fields.buf]; exact agrees.buf⟩
  obtain ⟨ret, len, buf⟩ := agrees
  cases op with
  | setRet _ _ value =>
    obtain ⟨rfl, rfl⟩ := allowed
    obtain rfl : after = _ := step
    exact ⟨by simp [WorkView.after], by simpa [WorkView.after] using len,
      by simpa [WorkView.after] using buf⟩
  | setLen _ _ value =>
    obtain ⟨rfl, rfl⟩ := allowed
    obtain rfl : after = _ := step
    exact ⟨by simpa [WorkView.after] using ret, by simp [WorkView.after],
      by simpa [WorkView.after] using buf⟩
  | setBuf _ _ value =>
    obtain ⟨rfl, rfl⟩ := allowed
    obtain rfl : after = _ := step
    exact ⟨by simpa [WorkView.after] using ret, by simpa [WorkView.after] using len,
      by simp [WorkView.after]⟩
  | malloc size =>
    refine kept id ?_
    by_cases isNull : reply = null
    · simp [WorkView.after, isNull]
    · simp [WorkView.after, isNull]
  | _ => exact kept id rfl

/-- The slot a worker handles is its own: a result it sets belongs to no other
worker and to no collection. -/
theorem fields_of_loopOp (ok : SlotsOk s)
    (handling : Holds s p req.signo req.ticket.serial .handling)
    (allowed : workGuard p req.signo work op) (step : helperStep s.pta op reply s'.pta)
    {p' q' : Nat} {stage : Stage} (holds : Holds s p' q' serial stage)
    (other : serial ≠ req.ticket.serial) : SameFields s.pta s'.pta p' q' := by
  refine sameFields_of_other step (fieldSlot_of_workGuard allowed) (ok.lt_of_holds handling)
    (ok.lt_of_holds holds) ?_
  rintro ⟨rfl, rfl⟩
  exact other (ok.oneOwner holds handling).1

theorem heapThreads_loopOp (threads : HeapThreads s) (ok : SlotsOk s) (inv : HeapInv s owner)
    (found : s.loops p = some ⟨req, .call op next, false, work⟩)
    (step : helperStep s.pta op reply s'.pta)
    (loops : s'.loops = update s.loops p
      (some ⟨req, next reply, servedAfter false op reply, work.after op reply⟩))
    (submits : s'.submits = s.submits) (gets : s'.gets = s.gets) : HeapThreads s' := by
  obtain ⟨obeys, agrees⟩ := threads.loops p _ found rfl
  have handling : Holds s p req.signo req.ticket.serial .handling := ⟨_, found, rfl, rfl, rfl⟩
  refine threads.of_same submits (nodes_of_workGuard obeys.1 step) ?_
    (threads.gets_congr gets fun id thread found' holds => ?_)
  · rw [loops]
    intro p' thread found' notServed
    by_cases here : p' = p
    · subst here
      rw [update_self] at found'
      cases found'
      exact ⟨obeys.2 reply _ ⟨workReply_of_step inv found rfl step, rfl⟩,
        agrees_after obeys.1 agrees step⟩
    · rw [update_of_ne here] at found'
      obtain ⟨obeys', agrees'⟩ := threads.loops p' thread found' notServed
      refine ⟨obeys', agrees'.congr ?_⟩
      have other : Holds s p' thread.req.signo thread.req.ticket.serial .handling :=
        ⟨thread, found', notServed, rfl, rfl⟩
      refine fields_of_loopOp ok handling obeys.1 step other ?_
      intro same
      rw [same] at other
      exact here (ok.oneStage other handling).1
  · obtain ⟨serial, -, isReady⟩ := ok.collectors.holding id thread found' holds
    have other : Holds s thread.periphNo thread.subSigno serial .ready := isReady
    refine fields_of_loopOp ok handling obeys.1 step other ?_
    rintro rfl
    cases (ok.oneStage other handling).2.2

/-- The frame of a worker's operation. -/
theorem sameElsewhere_loopOp (ok : SlotsOk s)
    (found : s.loops p = some ⟨req, .call op next, false, work⟩)
    (allowed : workGuard p req.signo work op) (step : helperStep s.pta op reply s'.pta)
    (loops : s'.loops = update s.loops p
      (some ⟨req, next reply, servedAfter false op reply, work.after op reply⟩))
    (submits : s'.submits = s.submits) (gets : s'.gets = s.gets)
    (ready : s'.ready = readyAfterLoop s.ready req op) :
    SameElsewhere (· = req.ticket.serial) s s' := by
  refine .of_same submits (nodes_of_workGuard allowed step) ?_ fun p' q' serial isReady other => ?_
  · rw [loops]
    exact forall_of_update (fun other => absurd rfl other) fun p' thread found' _ => found'
  · have wasReady : s.ready p' q' = some serial := by
      rw [ready] at isReady
      cases op with
      | setReadySignal p₀ q₀ =>
        change setSlot s.ready p₀ q₀ (some req.ticket.serial) p' q' = some serial at isReady
        rw [setSlot_apply] at isReady
        split at isReady
        · exact absurd (Option.some.inj isReady).symm other
        · exact isReady
      | _ => exact isReady
    rw [taken_congr gets]
    have handling : Holds s p req.signo req.ticket.serial .handling := ⟨_, found, rfl, rfl, rfl⟩
    have holds : Holds s p' q' serial .ready := wasReady
    exact ⟨wasReady, fields_of_loopOp ok handling allowed step holds other, id⟩

/-- A complete result whose fields are in the entry leaves the buffer it names
with the request. -/
theorem WorkView.Complete.mem_owned {entry : SigEntry} (complete : work.Complete)
    (agrees : work.written.Agrees entry) (notNegative : isNegative entry.ret = false)
    (notEmpty : entry.len ≠ 0) : entry.buf ∈ work.owned := by
  obtain ⟨ret, isRet, negative | ⟨len, buf, isLen, isBuf, empty | member⟩⟩ := complete
  · rw [agrees.ret ret isRet, negative] at notNegative
    cases notNegative
  · rw [agrees.len len isLen] at notEmpty
    exact absurd empty notEmpty
  · rw [agrees.buf buf isBuf]
    exact member

/-- A worker's operation acts for the request it handles. -/
theorem heapMove_loopOp (threads : HeapThreads s) (ok : SlotsOk s) (ok' : SlotsOk s')
    (threads' : HeapThreads s') (inv : HeapInv s owner)
    (found : s.loops p = some ⟨req, .call op next, false, work⟩)
    (step : helperStep s.pta op reply s'.pta)
    (loops : s'.loops = update s.loops p
      (some ⟨req, next reply, servedAfter false op reply, work.after op reply⟩))
    (submits : s'.submits = s.submits) (gets : s'.gets = s.gets)
    (ready : s'.ready = readyAfterLoop s.ready req op) : HeapMove s s' owner := by
  obtain ⟨⟨allowed, -⟩, agrees⟩ := threads.loops p _ found rfl
  change workGuard p req.signo work op at allowed
  have elsewhere := sameElsewhere_loopOp ok found allowed step loops submits gets ready
  have notReady (p' q' : Nat) : s.ready p' q' ≠ some req.ticket.serial := by
    intro isReady
    have handling : Holds s p req.signo req.ticket.serial .handling := ⟨_, found, rfl, rfl, rfl⟩
    have readyHere : Holds s p' q' req.ticket.serial .ready := isReady
    cases (ok.oneStage handling readyHere).2.2
  have found' : s'.loops p =
      some ⟨req, next reply, servedAfter false op reply, work.after op reply⟩ := by
    rw [loops, update_self]
  have owns (ptr : Ptr) (member : ptr ∈ work.owned) :
      owner ptr = some ⟨req.ticket.serial, false⟩ :=
    inv.refers _ _ (.working found rfl member)
  -- while the request is handled, what the worker has in hand is all it keeps
  have byHand (still : servedAfter false op reply = false)
      (hand : HandStep null s.pta.heap work.owned (work.after op reply).owned s'.pta.heap) :
      HeapMove s s' owner :=
    .of_hand elsewhere notReady inv owns
      (fun _ _ => refers_handling ok' threads'.handedOver found' still) hand
  have unchanged (heap : s'.pta.heap = s.pta.heap) (still : servedAfter false op reply = false)
      (sameOwned : (work.after op reply).owned = work.owned) : HeapMove s s' owner := by
    refine byHand still ?_
    rw [heap, sameOwned]
    exact .keep (List.Subset.refl _)
  cases op with
  | malloc size =>
    rcases step with ⟨rfl, same⟩ | ⟨notNull, dead, junk, same⟩
    · exact unchanged (by rw [same]) rfl (by simp [WorkView.after])
    · refine byHand rfl ?_
      rw [same, after_malloc notNull]
      exact .alloc size junk notNull dead (List.Subset.refl _)
  | free ptr =>
    have same : s'.pta = { s.pta with heap := s.pta.heap.free ptr } := step
    refine byHand rfl ?_
    rw [same]
    exact .free allowed (by simp [WorkView.after]) (by simp [WorkView.after])
  | storeByte ptr offset byte =>
    have same : s'.pta = { s.pta with heap := s.pta.heap.store ptr offset byte } := step
    refine byHand rfl ?_
    rw [same]
    exact .store offset byte allowed (List.Subset.refl _)
  | setRet | setLen | setBuf =>
    have same : s'.pta = _ := step
    exact unchanged (by rw [same]; rfl) rfl rfl
  | setReadySignal p₀ q₀ =>
    obtain ⟨⟨rfl, rfl⟩, complete⟩ := allowed
    have store := sameStore_of_not_stores step id
    have change : OwnedStep (fun o : Owner => o.serial = req.ticket.serial) null s.pta.heap
        s'.pta.heap owner owner := by
      rw [store.heap]
      exact .refl inv.owned
    refine .of_change elsewhere notReady change fun b ptr refers => ?_
    have isReady : s'.ready p₀ req.signo = some req.ticket.serial := by
      rw [ready]
      exact setSlot_self _ _ _ _
    obtain ⟨rfl, -, notNegative, notEmpty, rfl⟩ :=
      refers_ready ok' threads'.handedOver isReady refers
    have agrees' : work.written.Agrees (s'.pta.entry p₀ req.signo) :=
      agrees.congr (store.fields p₀ req.signo)
    exact owns _ (complete.mem_owned agrees' notNegative notEmpty)
  | isReadySignal | isUsingSigno | getReqNum | getRet | getLen | getBuf | getPollTimes | driver
  | storage | loadByte | loadClient =>
    exact unchanged (sameStore_of_not_stores step id).heap rfl rfl
  | _ => exact allowed.elim

end LoopOp

/-! ## Polls and finished workers -/

/-- A step that leaves the heap, the queues and the results alone and starts no
thread. -/
theorem heap_frame (threads : HeapThreads s) (inv : HeapInv s owner)
    (store : SameStore s.pta s'.pta) (submits : s'.submits = s.submits)
    (loops : ∀ p thread, s'.loops p = some thread → s.loops p = some thread)
    (gets : s'.gets = s.gets) (ready : s'.ready = s.ready) :
    HeapThreads s' ∧ HeapMove s s' owner := by
  have nodes (p : Nat) (node : IoReqNode) (member : node ∈ s'.pta.reqQueues p) :
      node ∈ s.pta.reqQueues p :=
    store.reqQueues ▸ member
  constructor
  · refine threads.of_same submits nodes (fun p thread found => ?_)
      (threads.gets_congr gets fun _ _ _ _ => store.fields _ _)
    exact threads.loops_congr (fun p thread _ _ => store.fields p _) p thread (loops p thread found)
  · refine HeapMove.of_quiet (HeapStep.quiet inv store.heap (.of_same submits nodes
      (fun p thread found _ => loops p thread found) fun p q serial isReady _ => ?_))
    rw [ready] at isReady
    rw [taken_congr gets]
    exact ⟨isReady, store.fields p q, id⟩

/-! ## Collections -/

theorem heap_getStart {paramTypes : BitVec 32} {params : Params} (threads : HeapThreads s)
    (unused : s.gets s.next = none) (inv : HeapInv s owner) (pta : s'.pta = s.pta)
    (submits : s'.submits = s.submits) (loops : s'.loops = s.loops)
    (gets : s'.gets = update s.gets s.next
      (some ⟨(slotOf params).1, (slotOf params).2, getData paramTypes params, .unchecked, none,
        false⟩))
    (ready : s'.ready = s.ready) : HeapThreads s' ∧ HeapMove s s' owner := by
  have taken (p q : Nat) (wasTaken : s.Taken p q) : s'.Taken p q := by
    obtain ⟨id, thread, found, rest⟩ := wasTaken
    refine ⟨id, thread, ?_, rest⟩
    have distinct : id ≠ s.next := by
      rintro rfl
      rw [unused] at found
      cases found
    rw [gets, update_of_ne distinct]
    exact found
  have nodes (p : Nat) (node : IoReqNode) (member : node ∈ s'.pta.reqQueues p) :
      node ∈ s.pta.reqQueues p :=
    pta ▸ member
  constructor
  · refine threads.of_same submits nodes ?_ ?_
    · rw [loops, pta]
      exact threads.loops
    · rw [gets, pta]
      refine forall_of_update ?_ threads.gets
      refine ⟨⟨.unchecked, false, 0, 0, null⟩, getData_get paramTypes params rfl rfl, rfl, rfl, ?_⟩
      rintro ⟨holding, -⟩
      cases holding
  · refine HeapMove.of_quiet (HeapStep.quiet inv (by rw [pta]) (.of_same submits nodes
      (fun p thread found _ => loops ▸ found) fun p q serial isReady _ => ?_))
    rw [ready] at isReady
    rw [pta]
    exact ⟨isReady, .refl _ _ _, taken p q⟩

end TrustWasm.IoHelper
