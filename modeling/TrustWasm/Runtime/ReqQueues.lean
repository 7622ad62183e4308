import TrustWasm.IoHelper.Signal
import TrustWasm.Lib.LinkedQueue
import TrustWasm.Runtime.Adaptive

/-!
# The request queues in memory

The io_helper and the runtime keep their requests in queues of nodes from the heap.  The two
implementations differ in what they return and in the requests they carry.  A queue that starts
empty is a list in every state, and its operations are those by which the models of the io_helper
and of the adaptive runtime change their lists.
-/

namespace TrustWasm.Runtime.ReqQueues

open TrustWasm.Lib TrustWasm.Lib.LinkedQueue TrustWasm.Tee TrustWasm.IoHelper

/-! ## The two implementations -/

namespace Helper

def codes : Codes TeeResult :=
  ⟨teeSuccess, teeErrorOutOfMemory, teeErrorNoData⟩

def queueInit (q : Linked Ptr IoReq) : Linked Ptr IoReq :=
  { q with front := null, rear := null }

def enqueue : Option (Ptr × Node Ptr IoReq) → IoReq → Linked Ptr IoReq →
    Option (TeeResult × Linked Ptr IoReq) :=
  LinkedQueue.enqueue codes null

def dequeue : Linked Ptr IoReq → Option (TeeResult × Option IoReq × Linked Ptr IoReq) :=
  LinkedQueue.dequeue codes null

def code : Implementation Ptr IoReq TeeResult :=
  ⟨enqueue, dequeue⟩

end Helper

namespace Sigtable

/-- Both failures are `-1`. -/
def codes : Codes (BitVec 32) :=
  ⟨0, -1, -1⟩

def enqueue : Option (Ptr × Node Ptr TimedReq) → TimedReq → Linked Ptr TimedReq →
    Option (BitVec 32 × Linked Ptr TimedReq) :=
  LinkedQueue.enqueue codes null

def dequeue : Linked Ptr TimedReq →
    Option (BitVec 32 × Option TimedReq × Linked Ptr TimedReq) :=
  LinkedQueue.dequeue codes null

def code : Implementation Ptr TimedReq (BitVec 32) :=
  ⟨enqueue, dequeue⟩

/-- A dispatch gives the request at the front a new guess. -/
def restart (table : Nat → ExecTime) (now : BitVec 64) :
    Linked Ptr TimedReq → Option (Linked Ptr TimedReq) :=
  modifyFront null fun front =>
    { front with start := now, guessEnd := (table front.type.toNat).guessEnd now front.len }

end Sigtable

/-- `queue_init` makes an empty queue of any heap. -/
theorem initial_queueInit (q : Linked Ptr IoReq) :
    (system Helper.code null q.nodes).initial (Helper.queueInit q) := rfl

/-! ## The lists of the models -/

section Simulation

variable {q : Linked Ptr IoReq} {others : Ptr → Option (Node Ptr IoReq)} {s : Pta}
  {periphNo : Nat}

/-- The nodes of a queue of the io_helper. -/
def entries (queue : List IoReqNode) : List (Ptr × IoReq) :=
  queue.map fun node => (node.addr, node.req)

/-- The code takes the request that the io_helper's model takes. -/
theorem Helper.dequeue_simulates (rep : Represents null others q (entries (s.reqQueues periphNo))) :
    match s.dequeue periphNo with
    | none => Helper.dequeue q = some (teeErrorNoData, none, q)
    | some (req, after) => ∃ q', Helper.dequeue q = some (teeSuccess, some req, q') ∧
        Represents null others q' (entries (after.reqQueues periphNo)) := by
  unfold Pta.dequeue
  cases queue : s.reqQueues periphNo with
  | nil =>
    rw [queue] at rep
    exact dequeue_empty (rep.front_eq_null_iff.mpr rfl)
  | cons node rest =>
    rw [queue] at rep
    obtain ⟨q', taken, -, represents⟩ := rep.dequeue_head Helper.codes
    refine ⟨q', taken, ?_⟩
    simp only [Function.update_self]
    exact represents

/-- With a node the code appends as the io_helper's model does. -/
theorem Helper.enqueue_simulates (rep : Represents null others q (entries (s.reqQueues periphNo)))
    {addr : Ptr} (nonnull : addr ≠ null) (isFree : q.nodes addr = none) (junk : Node Ptr IoReq)
    (bytes : Nat → Byte) (req : IoReq) :
    ∃ q', Helper.enqueue (some (addr, junk)) req q = some (teeSuccess, q') ∧
      Represents null others q'
        (entries ((s.enqueueNode periphNo addr bytes req).reqQueues periphNo)) := by
  obtain ⟨q', appended, represents⟩ := rep.enqueue_appends Helper.codes nonnull isFree junk req
  refine ⟨q', appended, ?_⟩
  simp only [Pta.enqueueNode, Function.update_self, entries, List.map_append, List.map_cons,
    List.map_nil]
  exact represents

end Simulation

section Adaptive

variable {q : Linked Ptr TimedReq} {others : Ptr → Option (Node Ptr TimedReq)} {s : Adaptive}
  {signo : Nat} {list : List (Ptr × TimedReq)}

/-- The code appends when the adaptive runtime's model is given a node. -/
theorem Sigtable.enqueue_simulates (rep : Represents null others q list)
    (queue : list.map Prod.snd = s.ioQueues signo) {malloc : Option (Ptr × Node Ptr TimedReq)}
    (possible : Possible null q malloc) (subSigno : Nat) (req : TimedReq) :
    ∃ res q' list', Sigtable.enqueue malloc req q = some (res, q') ∧
      Represents null others q' list' ∧
      list'.map Prod.snd = (s.enqueue malloc.isSome signo subSigno req).ioQueues signo := by
  cases malloc with
  | none => exact ⟨Sigtable.codes.noMemory, q, list, rfl, rep, queue⟩
  | some fresh =>
    obtain ⟨q', appended, represents⟩ :=
      rep.enqueue_appends Sigtable.codes possible.1 possible.2 fresh.2 req
    refine ⟨Sigtable.codes.ok, q', _, appended, represents, ?_⟩
    simp [Adaptive.enqueue, queue]

/-- The code takes the request that a dispatch takes and gives the next one a new guess. -/
theorem Sigtable.dequeue_simulates (rep : Represents null others q list)
    (queue : list.map Prod.snd = s.ioQueues signo) (model : FloatModel) (now : BitVec 64)
    (stack : TimedReq) (subSigno : Nat) :
    ∃ res q' q'' list', Sigtable.dequeue q = some (res, (s.ioQueues signo).head?, q') ∧
      Sigtable.restart (s.dequeue model now stack signo subSigno).execTimeTable now q' = some q'' ∧
      Represents null others q'' list' ∧
      list'.map Prod.snd = (s.dequeue model now stack signo subSigno).ioQueues signo := by
  cases list with
  | nil =>
    have noRequest : s.ioQueues signo = [] := queue.symm
    have isEmpty : q.front = null := rep.front_eq_null_iff.mpr rfl
    refine ⟨Sigtable.codes.noData, q, q, [], ?_, if_pos isEmpty, rep, ?_⟩
    · rw [noRequest]
      exact dequeue_empty isEmpty
    · simp [Adaptive.dequeue, Adaptive.restart, noRequest]
  | cons entry rest =>
    have requests : s.ioQueues signo = entry.2 :: rest.map Prod.snd := queue.symm
    obtain ⟨q', taken, -, represents⟩ := rep.dequeue_head Sigtable.codes
    cases rest with
    | nil =>
      refine ⟨Sigtable.codes.ok, q', q', [], ?_,
        if_pos (represents.front_eq_null_iff.mpr rfl), represents, ?_⟩
      · rw [requests]
        exact taken
      · simp [Adaptive.dequeue, Adaptive.restart, requests]
    | cons second rest =>
      obtain ⟨q'', changed, after⟩ := represents.modifyFront_head _
      refine ⟨Sigtable.codes.ok, q', q'', _, ?_, changed, after, ?_⟩
      · rw [requests]
        exact taken
      · simp [Adaptive.dequeue, Adaptive.restart, requests]

end Adaptive

/-! ## Runs -/

/-- In every state of a run each of the two queues is a list, the operations work on it as on a
list, and the live nodes are its nodes beside those that were there. -/
theorem reqQueues_refine_list :
    (∀ others s, (system Helper.code null others).Reachable s →
      ∃ list, Refines Helper.code Helper.codes null others s list) ∧
    (∀ others s, (system Sigtable.code null others).Reachable s →
      ∃ list, Refines Sigtable.code Sigtable.codes null others s list) := by
  constructor
  · intro others s reachable
    exact exists_refines reachable
  · intro others s reachable
    exact exists_refines reachable

/-- Two requests of each kind are appended, at addresses 16 and 32 of an empty heap, and the
first of them is taken. -/
theorem reqQueues_refine_list_second_request :
    (∃ s list, (system Helper.code null fun _ => none).Reachable s ∧ s.front = 32 ∧
      Refines Helper.code Helper.codes null (fun _ => none) s list) ∧
    (∃ s list, (system Sigtable.code null fun _ => none).Reachable s ∧ s.front = 32 ∧
      Refines Sigtable.code Sigtable.codes null (fun _ => none) s list) := by
  constructor
  · obtain ⟨s, reachable, rep⟩ : ∃ s, (system Helper.code null fun _ => none).Reachable s ∧
        Represents null (fun _ => none) s [(32, _)] :=
      reachable_second (p := 16) (by decide) rfl (by decide) rfl (by decide)
        ⟨.dhtRead, 0, ⟨0, 0⟩, ⟨0, 0⟩, ⟨0, 0⟩, ⟨0, []⟩⟩
        ⟨.dhtRead, 1, ⟨0, 0⟩, ⟨0, 0⟩, ⟨0, 0⟩, ⟨0, []⟩⟩
    obtain ⟨list, refines⟩ := reqQueues_refine_list.1 _ s reachable
    exact ⟨s, list, reachable, rep.chain.1, refines⟩
  · obtain ⟨s, reachable, rep⟩ : ∃ s, (system Sigtable.code null fun _ => none).Reachable s ∧
        Represents null (fun _ => none) s [(32, _)] :=
      reachable_second (p := 16) (by decide) rfl (by decide) rfl (by decide)
        ⟨0, 0, 0, 0, 0⟩ ⟨0, 1, 0, 0, 0⟩
    obtain ⟨list, refines⟩ := reqQueues_refine_list.2 _ s reachable
    exact ⟨s, list, reachable, rep.chain.1, refines⟩

end TrustWasm.Runtime.ReqQueues
