import Mathlib.Data.List.Basic

/-!
# A full-duplex link between two queues

A master queues values to send and finds the answers of its peer in a second queue.  The two
queues are coupled: a value leaves the first one only in exchange for an answer that enters the
second one, and only while the second one has room.  The peer is a function of the values it
has taken before.  Along every run the values taken and those still queued are the values
pushed, and the answers popped and those still queued are the answers to the values taken.
-/

namespace TrustWasm.Lib

variable {α β : Type}

/-- The two queues, and the values the peer has taken. -/
structure Duplex (α β : Type) where
  tx : List α
  rx : List β
  taken : List α

/-- The answers of a peer while it takes `taken`; it knows the earlier values only. -/
def responses (peer : List α → β) (taken : List α) : List β :=
  (List.range taken.length).map fun i => peer (taken.take i)

@[simp]
theorem length_responses (peer : List α → β) (taken : List α) :
    (responses peer taken).length = taken.length := by
  simp [responses]

theorem responses_concat (peer : List α → β) (taken : List α) (value : α) :
    responses peer (taken ++ [value]) = responses peer taken ++ [peer taken] := by
  rw [responses, List.length_append, List.length_singleton, List.range_succ, List.map_append]
  refine congrArg₂ (· ++ ·) (List.map_congr_left fun i inside => ?_) ?_
  · rw [List.take_append_of_le_length (Nat.le_of_lt (List.mem_range.mp inside))]
  · simp

theorem getElem?_responses (peer : List α → β) {taken : List α} {i : Nat}
    (inside : i < taken.length) : (responses peer taken)[i]? = some (peer (taken.take i)) := by
  simp [responses, inside]

namespace Duplex

/-- A value is queued and there is room for its answer. -/
def CanShift (depth : Nat) (link : Duplex α β) : Prop :=
  link.tx ≠ [] ∧ link.rx.length < depth

instance (depth : Nat) (link : Duplex α β) : Decidable (link.CanShift depth) :=
  match same : link.tx with
  | [] => .isFalse fun can => can.1 same
  | _ :: _ => decidable_of_iff (link.rx.length < depth)
      ⟨fun room => ⟨by simp [same], room⟩, And.right⟩

/-- One exchange with the peer. -/
inductive Shift (peer : List α → β) (depth : Nat) : Duplex α β → Duplex α β → Prop where
  | step (value : α) (tx : List α) (rx : List β) (taken : List α) (room : rx.length < depth) :
      Shift peer depth ⟨value :: tx, rx, taken⟩ ⟨tx, rx ++ [peer taken], taken ++ [value]⟩

/-- Exchanges one after the other, and how many. -/
inductive Shifts (peer : List α → β) (depth : Nat) : Duplex α β → Nat → Duplex α β → Prop where
  | none (link : Duplex α β) : Shifts peer depth link 0 link
  | more {first middle last : Duplex α β} {count : Nat} (shift : Shift peer depth first middle)
      (rest : Shifts peer depth middle count last) : Shifts peer depth first (count + 1) last

variable {peer : List α → β} {depth : Nat} {link source target : Duplex α β}

theorem CanShift.exists_shift (can : link.CanShift depth) (peer : List α → β) :
    ∃ after, Shift peer depth link after := by
  obtain ⟨tx, rx, taken⟩ := link
  obtain ⟨queued, room⟩ := can
  cases tx with
  | nil => exact absurd rfl queued
  | cons value tx => exact ⟨_, .step value tx rx taken room⟩

theorem Shift.canShift (shift : Shift peer depth source target) : source.CanShift depth := by
  cases shift with
  | step value tx rx taken room => exact ⟨List.cons_ne_nil _ _, room⟩

/-- What a master that has pushed `pushed` and popped `popped` finds in the link. -/
structure Conserves (peer : List α → β) (depth : Nat) (pushed : List α) (popped : List β)
    (link : Duplex α β) : Prop where
  sent : link.taken ++ link.tx = pushed
  answered : popped ++ link.rx = responses peer link.taken
  room : link.rx.length ≤ depth

/-- The exchanges that are still possible, and the values that can still be popped. -/
def weight (link : Duplex α β) : Nat :=
  2 * link.tx.length + link.rx.length

theorem Shift.weight (shift : Shift peer depth source target) :
    target.weight + 1 = source.weight := by
  cases shift with
  | step value tx rx taken room =>
    simp only [Duplex.weight, List.length_cons, List.length_append, List.length_nil]
    omega

theorem Shifts.weight {count : Nat} (shifts : Shifts peer depth source count target) :
    target.weight + count = source.weight := by
  induction shifts with
  | none link => rfl
  | more shift rest ih =>
    rw [← shift.weight, ← ih]
    omega

section Conserves

variable {pushed : List α} {popped : List β}

theorem Conserves.shift (conserves : source.Conserves peer depth pushed popped)
    (shift : Shift peer depth source target) : target.Conserves peer depth pushed popped := by
  cases shift with
  | step value tx rx taken room =>
    refine ⟨?_, ?_, ?_⟩
    · rw [← conserves.sent, List.append_assoc]
      rfl
    · rw [responses_concat, ← List.append_assoc, conserves.answered]
    · simpa using Nat.succ_le_of_lt room

theorem Conserves.shifts {count : Nat} (conserves : source.Conserves peer depth pushed popped)
    (shifts : Shifts peer depth source count target) :
    target.Conserves peer depth pushed popped := by
  induction shifts with
  | none link => exact conserves
  | more shift rest ih => exact ih (conserves.shift shift)

theorem Conserves.push (conserves : link.Conserves peer depth pushed popped) (value : α) :
    Conserves peer depth (pushed ++ [value]) popped { link with tx := link.tx ++ [value] } where
  sent := by rw [← List.append_assoc, conserves.sent]
  answered := conserves.answered
  room := conserves.room

theorem Conserves.pop {value : β} {rest : List β}
    (conserves : link.Conserves peer depth pushed popped)
    (front : link.rx = value :: rest) :
    Conserves peer depth pushed (popped ++ [value]) { link with rx := rest } where
  sent := conserves.sent
  answered := by
    rw [← conserves.answered, front, List.append_assoc]
    rfl
  room := by
    have room := conserves.room
    rw [front, List.length_cons] at room
    exact Nat.le_of_succ_le room

theorem conserves_nil : Conserves peer depth [] [] (⟨[], [], []⟩ : Duplex α β) :=
  ⟨rfl, rfl, Nat.zero_le _⟩

/-- Every value is queued, or exchanged for an answer that is queued or was popped. -/
theorem Conserves.length (conserves : link.Conserves peer depth pushed popped) :
    pushed.length = popped.length + link.rx.length + link.tx.length := by
  rw [← conserves.sent, List.length_append, ← length_responses peer link.taken,
    ← conserves.answered, List.length_append]

end Conserves

end Duplex

end TrustWasm.Lib
