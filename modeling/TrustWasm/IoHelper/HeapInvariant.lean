import TrustWasm.Lib.Ownership
import TrustWasm.IoHelper.HeapProtocol

/-!
# Ownership of the heap along a run

Every block the io_helper still refers to belongs to one request, from the
allocation of its argument buffers to the collection of its result.  A step
acts for one request, so the blocks of all others stay as they are and with
them every result that is ready.
-/

namespace TrustWasm.IoHelper

open TrustWasm.Lib TrustWasm.Tee TrustWasm.Drivers

/-- A block belongs to a request, as one of its buffers or as its queue node. -/
structure Owner where
  serial : Nat
  isNode : Bool
  deriving DecidableEq

/-- A collection that holds the slot has freed its result. -/
def Sys.Taken (s : Sys) (p q : Nat) : Prop :=
  ∃ id thread, s.gets id = some thread ∧ thread.Holding ∧ thread.freed = true ∧
    thread.periphNo = p ∧ thread.subSigno = q

/-- The places the io_helper keeps pointers to live blocks in. -/
inductive Refers (s : Sys) : Owner → Ptr → Prop where
  | argument {serial : Nat} {thread : SubmitThread} {ptr : Ptr} :
      s.submits serial = some thread → ptr ∈ thread.args → Refers s ⟨serial, false⟩ ptr
  | node {p : Nat} {node : IoReqNode} :
      node ∈ s.pta.reqQueues p → Refers s ⟨node.req.ticket.serial, true⟩ node.addr
  | queued {p : Nat} {node : IoReqNode} {ptr : Ptr} :
      node ∈ s.pta.reqQueues p → ptr ∈ node.req.ticket.args →
      Refers s ⟨node.req.ticket.serial, false⟩ ptr
  | working {p : Nat} {thread : LoopThread} {ptr : Ptr} :
      s.loops p = some thread → thread.served = false → ptr ∈ thread.work.owned →
      Refers s ⟨thread.req.ticket.serial, false⟩ ptr
  | result {p q serial : Nat} :
      s.ready p q = some serial → ¬s.Taken p q → isNegative (s.pta.entry p q).ret = false →
      (s.pta.entry p q).len ≠ 0 → Refers s ⟨serial, false⟩ (s.pta.entry p q).buf

/-- Every pointer kept is that of a block owned by the request it is kept for. -/
structure HeapInv (s : Sys) (owner : Ptr → Option Owner) : Prop where
  owned : Owned null s.pta.heap owner
  refers : ∀ o ptr, Refers s o ptr → owner ptr = some o

/-! ## Result fields -/

/-- The result fields of a slot agree. -/
structure SameFields (s s' : Pta) (p q : Nat) : Prop where
  ret : (s'.entry p q).ret = (s.entry p q).ret
  len : (s'.entry p q).len = (s.entry p q).len
  buf : (s'.entry p q).buf = (s.entry p q).buf

theorem SameFields.refl (s : Pta) (p q : Nat) : SameFields s s p q :=
  ⟨rfl, rfl, rfl⟩

variable {s s' : Pta} {p q p' q' serial : Nat} {op : HelperOp}

theorem SameFields.trans {s'' : Pta} (first : SameFields s s' p q)
    (second : SameFields s' s'' p q) : SameFields s s'' p q :=
  ⟨second.ret.trans first.ret, second.len.trans first.len, second.buf.trans first.buf⟩

theorem slotIndex_injective (range : q < nSubSig) (range' : q' < nSubSig)
    (equal : slotIndex p q = slotIndex p' q') : p = p' ∧ q = q' := by
  unfold slotIndex nSubSig at *
  omega

@[simp]
theorem entry_setEntry_self (s : Pta) (p q : Nat) (value : SigEntry) :
    (s.setEntry p q value).entry p q = value := by
  simp [Pta.entry, Pta.setEntry]

theorem entry_setEntry_of_ne (s : Pta) (value : SigEntry) (range : q < nSubSig)
    (range' : q' < nSubSig) (other : ¬(p' = p ∧ q' = q)) :
    (s.setEntry p q value).entry p' q' = s.entry p' q' := by
  have distinct : slotIndex p' q' ≠ slotIndex p q := by
    intro equal
    exact other (slotIndex_injective range' range equal)
  simp [Pta.entry, Pta.setEntry, distinct]

theorem sameFields_of_table (table : s'.signalTable = s.signalTable) (p q : Nat) :
    SameFields s s' p q := by
  have same : s'.entry p q = s.entry p q := by rw [Pta.entry, Pta.entry, table]
  exact ⟨by rw [same], by rw [same], by rw [same]⟩

/-- An update of an entry that keeps its result fields keeps those of every
entry. -/
theorem sameFields_of_update {value : SigEntry}
    (table : s'.signalTable = Function.update s.signalTable (slotIndex p q) value)
    (ret : value.ret = (s.entry p q).ret) (len : value.len = (s.entry p q).len)
    (buf : value.buf = (s.entry p q).buf) (p' q' : Nat) : SameFields s s' p' q' := by
  by_cases here : slotIndex p' q' = slotIndex p q
  · have same : s.entry p' q' = s.entry p q := by simp [Pta.entry, here]
    have updated : s'.entry p' q' = value := by simp [Pta.entry, table, here]
    exact ⟨by rw [updated, same, ret], by rw [updated, same, len], by rw [updated, same, buf]⟩
  · have updated : s'.entry p' q' = s.entry p' q' := by simp [Pta.entry, table, here]
    exact ⟨by rw [updated], by rw [updated], by rw [updated]⟩

/-- The heap, the queues and the result fields agree. -/
structure SameStore (s s' : Pta) : Prop where
  heap : s'.heap = s.heap
  reqQueues : s'.reqQueues = s.reqQueues
  fields : ∀ p q, SameFields s s' p q

theorem SameStore.refl (s : Pta) : SameStore s s :=
  ⟨rfl, rfl, SameFields.refl s⟩

theorem SameStore.trans {s'' : Pta} (first : SameStore s s') (second : SameStore s' s'') :
    SameStore s s'' :=
  ⟨second.heap.trans first.heap, second.reqQueues.trans first.reqQueues,
    fun p q => (first.fields p q).trans (second.fields p q)⟩

/-- The operation may change the heap, the queues or a result field. -/
def HelperOp.Stores : HelperOp → Prop
  | .malloc _ | .free _ | .storeByte .. | .setRet .. | .setLen .. | .setBuf .. | .enqueue .. => True
  | _ => False

/-- Every other operation keeps the heap, the queues and the result fields. -/
theorem sameStore_of_not_stores {reply : Helper.Reply op} (step : helperStep s op reply s')
    (quiet : ¬op.Stores) : SameStore s s' := by
  cases op with
  | malloc | free | storeByte | setRet | setLen | setBuf | enqueue => exact absurd trivial quiet
  | getReadySignal p =>
    change s.getReadySignal p = (reply, s') at step
    unfold Pta.getReadySignal at step
    split at step
    · cases step
      exact ⟨rfl, rfl, sameFields_of_update rfl rfl rfl rfl⟩
    · cases step
      exact ⟨rfl, rfl, sameFields_of_table rfl⟩
  | allocateSigno p =>
    cases reply with
    | none =>
      obtain ⟨-, rfl⟩ := allocateSigno_none step
      exact .refl _
    | some q =>
      obtain ⟨-, rfl⟩ := allocateSigno_some step
      exact ⟨rfl, rfl, sameFields_of_update rfl rfl rfl rfl⟩
  | setReadySignal | releaseSigno =>
    obtain rfl : s' = _ := step
    exact ⟨rfl, rfl, sameFields_of_table rfl⟩
  | setPollTimes p q count =>
    obtain rfl : s' = _ := step
    exact ⟨rfl, rfl, sameFields_of_update rfl rfl rfl rfl⟩
  | isReadySignal | isUsingSigno | getReqNum | getRet | getLen | getBuf | getPollTimes
  | driver | storage =>
    obtain ⟨-, rfl⟩ := step
    exact .refl _
  | loadByte =>
    obtain ⟨rfl, -⟩ := step
    exact .refl _
  | loadClient =>
    obtain rfl : s' = s := step
    exact .refl _

/-- A program of polling operations keeps the heap, the queues and the results. -/
theorem sameStore_of_polls {α : Type} {program : Program Helper α} {result : α}
    (uses : program.Uses HelperOp.IsPoll) (run : program.Exec helper s result s') :
    SameStore s s' := by
  refine uses.rel_of_exec SameStore.refl (fun _ _ _ => SameStore.trans) ?_ run
  intro op source reply target isPoll step
  refine sameStore_of_not_stores step ?_
  cases op with
  | malloc | free | storeByte | setRet | setLen | setBuf | enqueue => exact isPoll.elim
  | _ => exact id

/-- The operation sets a result field. -/
def HelperOp.SetsField : HelperOp → Prop
  | .setRet .. | .setLen .. | .setBuf .. => True
  | _ => False

/-- Every other operation keeps the result fields of every slot. -/
theorem sameFields_of_not_setsField {reply : Helper.Reply op} (step : helperStep s op reply s')
    (quiet : ¬op.SetsField) (p q : Nat) :
    SameFields s s' p q := by
  by_cases stores : op.Stores
  · cases op with
    | setRet | setLen | setBuf => exact absurd trivial quiet
    | malloc size =>
      rcases step with ⟨-, rfl⟩ | ⟨-, -, junk, rfl⟩
      · exact .refl _ _ _
      · apply sameFields_of_table
        rfl
    | enqueue p' req =>
      rcases step with ⟨-, rfl⟩ | ⟨-, addr, junk, -, -, rfl⟩
      · exact .refl _ _ _
      · apply sameFields_of_table
        rfl
    | free | storeByte =>
      obtain rfl : s' = _ := step
      apply sameFields_of_table
      rfl
    | _ => exact stores.elim
  · exact (sameStore_of_not_stores step stores).fields p q

/-- The slot a result field of which the operation sets. -/
def HelperOp.fieldSlot : HelperOp → Option (Nat × Nat)
  | .setRet p q _ => some (p, q)
  | .setLen p q _ => some (p, q)
  | .setBuf p q _ => some (p, q)
  | _ => none

/-- An operation on one slot keeps the result fields of every other slot. -/
theorem sameFields_of_other {reply : Helper.Reply op} (step : helperStep s op reply s')
    (slot : ∀ target, op.fieldSlot = some target → target = (p, q)) (range : q < nSubSig)
    (range' : q' < nSubSig) (other : ¬(p' = p ∧ q' = q)) : SameFields s s' p' q' := by
  have elsewhere (value : SigEntry) : SameFields s (s.setEntry p q value) p' q' := by
    have same := entry_setEntry_of_ne s value range range' other
    exact ⟨by rw [same], by rw [same], by rw [same]⟩
  cases op with
  | setRet | setLen | setBuf =>
    cases slot _ rfl
    obtain rfl : s' = _ := step
    exact elsewhere _
  | _ => exact sameFields_of_not_setsField step id p' q'

/-- Only an enqueue changes the queues. -/
theorem reqQueues_of_not_enqueue {reply : Helper.Reply op} (step : helperStep s op reply s')
    (quiet : ∀ p req, op ≠ .enqueue p req) :
    s'.reqQueues = s.reqQueues := by
  by_cases stores : op.Stores
  · cases op with
    | enqueue p req => exact absurd rfl (quiet p req)
    | malloc size =>
      rcases step with ⟨-, rfl⟩ | ⟨-, -, junk, rfl⟩
      · rfl
      · rfl
    | setRet | setLen | setBuf | free | storeByte =>
      obtain rfl : s' = _ := step
      rfl
    | _ => exact stores.elim
  · exact (sameStore_of_not_stores step stores).reqQueues

/-! ## Steps that act for one request -/

/-- A step that acts for the requests of `actor`: the blocks, the pointers and
the ready results of all others stay as they are, and what is kept for the
requests of `actor` afterwards is owned by them. -/
structure HeapStep (actor : Nat → Prop) (s s' : Sys) (owner owner' : Ptr → Option Owner) :
    Prop where
  owned : Owned null s'.pta.heap owner'
  keeps : KeepsOthers (fun o : Owner => actor o.serial) s.pta.heap s'.pta.heap owner owner'
  others : ∀ o ptr, Refers s' o ptr → ¬actor o.serial → Refers s o ptr
  mine : ∀ o ptr, Refers s' o ptr → actor o.serial → owner' ptr = some o
  results : ∀ p q serial, s'.ready p q = some serial → ¬actor serial →
    s.ready p q = some serial ∧ SameFields s.pta s'.pta p q

variable {actor : Nat → Prop} {s s' : Sys} {owner owner' : Ptr → Option Owner}

theorem HeapInv.step (inv : HeapInv s owner) (step : HeapStep actor s s' owner owner') :
    HeapInv s' owner' where
  owned := step.owned
  refers := by
    intro o ptr refers
    by_cases acts : actor o.serial
    · exact step.mine o ptr refers acts
    · exact (step.keeps ptr o (inv.refers o ptr (step.others o ptr refers acts)) acts).1

/-- A result stands for the same bytes as long as its block does. -/
theorem resultOf_congr {heap heap' : Heap Ptr Byte} {ret len : BitVec 32} {buf : Ptr}
    (same : isNegative ret = false → len ≠ 0 → heap'.blocks buf = heap.blocks buf) :
    resultOf heap' ret len buf = resultOf heap ret len buf := by
  unfold resultOf
  cases negative : isNegative ret with
  | true => rfl
  | false =>
    by_cases empty : len = 0
    · subst empty
      simp only [Heap.contents?, Bool.false_eq_true, if_false, Result.mk.injEq, true_and]
      cases heap'.blocks buf <;> cases heap.blocks buf <;> rfl
    · simp only [Heap.contents?, same negative empty]

/-- A step that acts for others keeps a ready result. -/
theorem HeapStep.result_eq (step : HeapStep actor s s' owner owner') (inv : HeapInv s owner)
    (ready : s'.ready p q = some serial) (other : ¬actor serial) (notTaken : ¬s.Taken p q) :
    s'.pta.result p q = s.pta.result p q := by
  obtain ⟨wasReady, fields⟩ := step.results p q serial ready other
  unfold Pta.result
  dsimp only
  rw [fields.ret, fields.len, fields.buf]
  apply resultOf_congr
  intro notNegative notEmpty
  have owned := inv.refers _ _ (Refers.result wasReady notTaken notNegative notEmpty)
  exact (step.keeps _ _ owned other).2

/-! ## Where a request keeps its pointers -/

/-- Submissions that have enqueued their request keep no buffers. -/
def HandedOver (s : Sys) : Prop :=
  ∀ serial thread, s.submits serial = some thread → thread.phase = .enqueued → thread.args = []

/-- What is kept for a request past its submission, by its stage. -/
def Kept (s : Sys) (p q serial : Nat) (b : Bool) (ptr : Ptr) : Stage → Prop
  | .allocated => False
  | .queued => ∃ node ∈ s.pta.reqQueues p, node.req.signo = q ∧ node.req.ticket.serial = serial ∧
      (b = true ∧ ptr = node.addr ∨ b = false ∧ ptr ∈ node.req.ticket.args)
  | .handling => ∃ thread, s.loops p = some thread ∧ thread.served = false ∧
      thread.req.signo = q ∧ thread.req.ticket.serial = serial ∧ b = false ∧
      ptr ∈ thread.work.owned
  | .ready => s.ready p q = some serial ∧ b = false ∧ ¬s.Taken p q ∧
      isNegative (s.pta.entry p q).ret = false ∧ (s.pta.entry p q).len ≠ 0 ∧
      ptr = (s.pta.entry p q).buf

section Location

variable {b : Bool} {ptr : Ptr} {stage : Stage}

theorem Kept.holds (kept : Kept s p q serial b ptr stage) :
    Holds s p q serial stage ∧ stage ≠ .allocated := by
  cases stage with
  | allocated => exact kept.elim
  | queued =>
    obtain ⟨node, member, signo, isSerial, -⟩ := kept
    exact ⟨⟨node, member, signo, isSerial⟩, by simp⟩
  | handling =>
    obtain ⟨thread, found, notServed, signo, isSerial, -⟩ := kept
    exact ⟨⟨thread, found, notServed, signo, isSerial⟩, by simp⟩
  | ready => exact ⟨kept.1, by simp⟩

/-- A pointer is kept by the submission of its request or by the stage after it. -/
theorem Refers.kept (refers : Refers s ⟨serial, b⟩ ptr) :
    (b = false ∧ ∃ thread, s.submits serial = some thread ∧ ptr ∈ thread.args) ∨
      ∃ p q stage, Kept s p q serial b ptr stage := by
  cases refers with
  | argument found member => exact .inl ⟨rfl, _, found, member⟩
  | node member => exact .inr ⟨_, _, .queued, _, member, rfl, rfl, .inl ⟨rfl, rfl⟩⟩
  | queued member arg => exact .inr ⟨_, _, .queued, _, member, rfl, rfl, .inr ⟨rfl, arg⟩⟩
  | working found notServed member =>
    exact .inr ⟨_, _, .handling, _, found, notServed, rfl, rfl, rfl, member⟩
  | result ready notTaken notNegative notEmpty =>
    exact .inr ⟨_, _, .ready, ready, rfl, notTaken, notNegative, notEmpty, rfl⟩

theorem refers_submitting (ok : SlotsOk s) {thread : SubmitThread}
    (found : s.submits serial = some thread) (notDone : thread.phase ≠ .enqueued)
    (refers : Refers s ⟨serial, b⟩ ptr) : b = false ∧ ptr ∈ thread.args := by
  rcases refers.kept with ⟨isBuffer, thread', found', member⟩ | ⟨p, q, stage, kept⟩
  · rw [found] at found'
    cases found'
    exact ⟨isBuffer, member⟩
  · exact absurd (ok.phase_eq kept.holds.1 kept.holds.2 found) notDone

/-- A request that is past its submission is in one stage, which keeps all its pointers. -/
theorem kept_of_refers (ok : SlotsOk s) (handedOver : HandedOver s)
    (here : Holds s p q serial stage) (later : stage ≠ .allocated)
    (refers : Refers s ⟨serial, b⟩ ptr) : Kept s p q serial b ptr stage := by
  rcases refers.kept with ⟨-, thread, found, member⟩ | ⟨p', q', stage', kept⟩
  · rw [handedOver _ _ found (ok.phase_eq here later found)] at member
    cases member
  · obtain ⟨rfl, rfl, rfl⟩ := ok.oneStage here kept.holds.1
    exact kept

theorem refers_handling (ok : SlotsOk s) (handedOver : HandedOver s) {thread : LoopThread}
    (found : s.loops p = some thread) (notServed : thread.served = false)
    (refers : Refers s ⟨thread.req.ticket.serial, b⟩ ptr) :
    b = false ∧ ptr ∈ thread.work.owned := by
  have here : Holds s p thread.req.signo thread.req.ticket.serial .handling :=
    ⟨thread, found, notServed, rfl, rfl⟩
  obtain ⟨thread', found', -, -, -, kept⟩ := kept_of_refers ok handedOver here (by simp) refers
  rw [found] at found'
  cases found'
  exact kept

theorem refers_ready (ok : SlotsOk s) (handedOver : HandedOver s)
    (ready : s.ready p q = some serial) (refers : Refers s ⟨serial, b⟩ ptr) :
    b = false ∧ ¬s.Taken p q ∧ isNegative (s.pta.entry p q).ret = false ∧
      (s.pta.entry p q).len ≠ 0 ∧ ptr = (s.pta.entry p q).buf :=
  (kept_of_refers ok handedOver (show Holds s p q serial .ready from ready) (by simp) refers).2

theorem refers_queued (ok : SlotsOk s) (handedOver : HandedOver s) {node : IoReqNode}
    (member : node ∈ s.pta.reqQueues p) (refers : Refers s ⟨node.req.ticket.serial, b⟩ ptr) :
    (b = true ∧ ptr = node.addr) ∨ (b = false ∧ ptr ∈ node.req.ticket.args) := by
  have here : Holds s p node.req.signo node.req.ticket.serial .queued := ⟨node, member, rfl, rfl⟩
  obtain ⟨node', member', signo, -, kept⟩ := kept_of_refers ok handedOver here (by simp) refers
  -- the queue holds one node for the slot of the request
  obtain ⟨-, -, board, inv⟩ := ok
  obtain rfl := List.inj_on_of_nodup_map (inv.slotProtocol p).queue member' member signo
  exact kept

end Location

end TrustWasm.IoHelper
