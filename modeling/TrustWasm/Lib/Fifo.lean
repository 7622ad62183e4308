import Mathlib.Data.Set.Insert
import Mathlib.Order.Defs.LinearOrder

/-!
# Queues in the order of arrival

Arrivals have increasing keys.  A queue lists a set of keys when it holds exactly these, in
increasing order: the front is then the least of them, the one that has arrived first.
-/

namespace TrustWasm.Lib.Fifo

variable {α κ : Type*} [LinearOrder κ] {key : α → κ}

/-- The queue holds exactly the waiting keys, oldest first. -/
structure Lists (key : α → κ) (queue : List α) (waiting : Set κ) : Prop where
  sorted : (queue.map key).Pairwise (· < ·)
  mem_iff : ∀ k, k ∈ queue.map key ↔ k ∈ waiting

namespace Lists

variable {queue queue' : List α} {waiting : Set κ}

theorem nil : Lists key [] ∅ :=
  ⟨.nil, fun k => by simp⟩

/-- Only the keys matter. -/
theorem of_map_eq (lists : Lists key queue waiting) (same : queue'.map key = queue.map key) :
    Lists key queue' waiting := by
  constructor
  · rw [same]
    exact lists.sorted
  · rw [same]
    exact lists.mem_iff

/-- A new arrival goes to the end. -/
theorem push (lists : Lists key queue waiting) {x : α} (newest : ∀ k ∈ waiting, k < key x) :
    Lists key (queue ++ [x]) (insert (key x) waiting) := by
  constructor
  · rw [List.map_append, List.pairwise_append]
    refine ⟨lists.sorted, List.pairwise_singleton _ _, ?_⟩
    intro k member k' isNew
    rw [List.map_singleton, List.mem_singleton] at isNew
    rw [isNew]
    exact newest k ((lists.mem_iff k).mp member)
  · intro k
    rw [List.map_append, List.mem_append, List.map_singleton, List.mem_singleton, lists.mem_iff,
      Set.mem_insert_iff]
    exact or_comm

/-- The oldest one is at the front, and the rest of the queue lists the others. -/
theorem front (lists : Lists key queue waiting) {k : κ} (isWaiting : k ∈ waiting)
    (oldest : ∀ k' ∈ waiting, k ≤ k') :
    ∃ x rest, queue = x :: rest ∧ key x = k ∧ Lists key rest (waiting \ {k}) := by
  cases queue with
  | nil => exact nomatch (lists.mem_iff k).mpr isWaiting
  | cons x rest =>
    obtain ⟨before, sorted⟩ := List.pairwise_cons.mp lists.sorted
    have atFront : key x = k := by
      have least := oldest (key x) ((lists.mem_iff _).mp List.mem_cons_self)
      rcases List.mem_cons.mp ((lists.mem_iff k).mpr isWaiting) with same | later
      · exact same.symm
      · exact absurd (before k later) (not_lt_of_ge least)
    refine ⟨x, rest, rfl, atFront, sorted, fun k' => ?_⟩
    rw [Set.mem_sdiff, Set.mem_singleton_iff, ← lists.mem_iff k', List.map_cons, List.mem_cons,
      atFront]
    constructor
    · intro later
      have increased := before k' later
      rw [atFront] at increased
      exact ⟨.inr later, ne_of_gt increased⟩
    · rintro ⟨same | later, different⟩
      · exact absurd same different
      · exact later

end Lists

end TrustWasm.Lib.Fifo
