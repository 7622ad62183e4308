import TrustWasm.Lib.Transition
import Mathlib.Data.List.Nodup
import Mathlib.Data.Option.Basic

/-!
# Linked queues

A queue of heap nodes with a pointer to its first and one to its last node.  An access through
a pointer without a live node has no result, so a result says that every access was to a live
node.  The queue represents a list when its nodes form a chain in the order of the list; the
operations then append to the list and take its head.
-/

namespace TrustWasm.Lib.LinkedQueue

open Function

/-- A node of the queue. -/
structure Node (α ν : Type) where
  value : ν
  next : α

/-- A queue and the live nodes of the heap. -/
structure Linked (α ν : Type) where
  front : α
  rear : α
  nodes : α → Option (Node α ν)

/-- What the operations return. -/
structure Codes (ρ : Type) where
  ok : ρ
  noMemory : ρ
  noData : ρ

variable {α ν ρ : Type}

section Model

variable [DecidableEq α]

namespace Linked

/-- Allocation at an address; the fresh node holds junk. -/
def alloc (s : Linked α ν) (p : α) (junk : Node α ν) : Linked α ν :=
  { s with nodes := update s.nodes p (some junk) }

def setValue (s : Linked α ν) (p : α) (value : ν) : Option (Linked α ν) :=
  (s.nodes p).map fun node =>
    { s with nodes := update s.nodes p (some { node with value := value }) }

def setNext (s : Linked α ν) (p next : α) : Option (Linked α ν) :=
  (s.nodes p).map fun node =>
    { s with nodes := update s.nodes p (some { node with next := next }) }

/-- Only a live node can be freed. -/
def free (s : Linked α ν) (p : α) : Option (Linked α ν) :=
  (s.nodes p).map fun _ => { s with nodes := update s.nodes p none }

end Linked

/-- Append a value; `malloc` is the address of a fresh node with what it holds, or nothing. -/
def enqueue (codes : Codes ρ) (null : α) (malloc : Option (α × Node α ν)) (value : ν)
    (s : Linked α ν) : Option (ρ × Linked α ν) :=
  match malloc with
  | none => some (codes.noMemory, s)
  | some (newNode, junk) => do
    let s ← (s.alloc newNode junk).setValue newNode value
    let s ← s.setNext newNode null
    if s.front = null then
      some (codes.ok, { s with front := newNode, rear := newNode })
    else
      let s ← s.setNext s.rear newNode
      some (codes.ok, { s with rear := newNode })

/-- Take the first value; without one the place for it is not written. -/
def dequeue (codes : Codes ρ) (null : α) (s : Linked α ν) :
    Option (ρ × Option ν × Linked α ν) :=
  if s.front = null then
    some (codes.noData, none, s)
  else do
    let tmp := s.front
    let value ← (s.nodes tmp).map Node.value
    let next ← (s.nodes s.front).map Node.next
    let s := { s with front := next }
    let s := if s.front = null then { s with rear := null } else s
    let s ← s.free tmp
    some (codes.ok, some value, s)

/-- Change the first value where it is, if there is one. -/
def modifyFront (null : α) (change : ν → ν) (s : Linked α ν) : Option (Linked α ν) :=
  if s.front = null then
    some s
  else
    (s.nodes s.front).bind fun node => s.setValue s.front (change node.value)

end Model

/-! ## The list of a queue -/

/-- The nodes from `p` on carry the values of the list, and the last one ends the chain. -/
def Chain (nodes : α → Option (Node α ν)) (null : α) : α → List (α × ν) → Prop
  | p, [] => p = null
  | p, (address, value) :: rest =>
    p = address ∧ ∃ next, nodes address = some ⟨value, next⟩ ∧ Chain nodes null next rest

/-- The nodes that can be reached from the front. -/
inductive FromFront (null : α) (s : Linked α ν) : α → Prop where
  | front : s.front ≠ null → FromFront null s s.front
  | next {p : α} {node : Node α ν} :
      FromFront null s p → s.nodes p = some node → node.next ≠ null → FromFront null s node.next

def addresses (list : List (α × ν)) : List α :=
  list.map Prod.fst

/-- The queue is the list, and the rest of the heap is `others`. -/
structure Represents (null : α) (others : α → Option (Node α ν)) (s : Linked α ν)
    (list : List (α × ν)) : Prop where
  chain : Chain s.nodes null s.front list
  rear : s.rear = (addresses list).getLast?.getD null
  nodup : (addresses list).Nodup
  nonnull : null ∉ addresses list
  fresh : ∀ p ∈ addresses list, others p = none
  frame : ∀ p ∉ addresses list, s.nodes p = others p

@[simp]
theorem addresses_nil : addresses ([] : List (α × ν)) = [] := rfl

@[simp]
theorem addresses_cons (address : α) (value : ν) (rest : List (α × ν)) :
    addresses ((address, value) :: rest) = address :: addresses rest := rfl

@[simp]
theorem addresses_append (list list' : List (α × ν)) :
    addresses (list ++ list') = addresses list ++ addresses list' :=
  List.map_append

namespace Chain

variable {nodes nodes' : α → Option (Node α ν)} {null p : α} {list : List (α × ν)}

/-- Only the nodes of the chain matter. -/
theorem congr (same : ∀ a ∈ addresses list, nodes' a = nodes a)
    (chain : Chain nodes null p list) : Chain nodes' null p list := by
  induction list generalizing p with
  | nil => exact chain
  | cons entry rest ih =>
    obtain ⟨isFirst, next, found, continues⟩ := chain
    refine ⟨isFirst, next, ?_, ih (fun a member => same a (List.mem_cons_of_mem _ member))
      continues⟩
    rw [same _ List.mem_cons_self]
    exact found

/-- The nodes of a chain are live. -/
theorem live (chain : Chain nodes null p list) {a : α} (member : a ∈ addresses list) :
    nodes a ≠ none := by
  induction list generalizing p with
  | nil => exact nomatch member
  | cons entry rest ih =>
    obtain ⟨-, next, found, continues⟩ := chain
    rcases List.mem_cons.mp member with rfl | later
    · rw [found]
      exact Option.some_ne_none _
    · exact ih continues later

/-- The last node ends the chain. -/
theorem last_node {last : α} {lastValue : ν} {before : List (α × ν)}
    (chain : Chain nodes null p (before ++ [(last, lastValue)])) :
    nodes last = some ⟨lastValue, null⟩ := by
  induction before generalizing p with
  | nil =>
    obtain ⟨-, next, found, isEnd⟩ := chain
    rw [found, show next = null from isEnd]
  | cons entry before ih =>
    obtain ⟨-, next, -, continues⟩ := chain
    exact ih continues

/-- The chain goes on with a new last node. -/
theorem snoc [DecidableEq α] {last added : α} {lastValue value : ν} {before : List (α × ν)}
    (chain : Chain nodes null p (before ++ [(last, lastValue)]))
    (nodup : (addresses (before ++ [(last, lastValue)])).Nodup)
    (new : added ∉ addresses (before ++ [(last, lastValue)])) :
    Chain (update (update nodes added (some ⟨value, null⟩)) last
      (some ⟨lastValue, added⟩)) null p (before ++ [(last, lastValue)] ++ [(added, value)]) := by
  induction before generalizing p with
  | nil =>
    obtain ⟨isFirst, -⟩ := chain
    have different : added ≠ last := by
      rintro rfl
      exact new List.mem_cons_self
    refine ⟨isFirst, added, update_self .., rfl, null, ?_, rfl⟩
    rw [update_of_ne different, update_self]
  | cons entry before ih =>
    obtain ⟨isFirst, next, found, continues⟩ := chain
    obtain ⟨notLater, laterNodup⟩ := List.nodup_cons.mp nodup
    refine ⟨isFirst, next, ?_,
      ih continues laterNodup fun member => new (List.mem_cons_of_mem _ member)⟩
    have notLast : entry.1 ≠ last := by
      intro isLast
      apply notLater
      rw [show entry.1 = last from isLast]
      simp
    have notAdded : entry.1 ≠ added := by
      intro isAdded
      apply new
      rw [← isAdded]
      exact List.mem_cons_self
    rw [update_of_ne notLast, update_of_ne notAdded]
    exact found

end Chain

namespace Represents

variable {null : α} {others : α → Option (Node α ν)} {s : Linked α ν} {list : List (α × ν)}

theorem empty (null : α) (others : α → Option (Node α ν)) :
    Represents null others ⟨null, null, others⟩ [] where
  chain := rfl
  rear := rfl
  nodup := List.nodup_nil
  nonnull := List.not_mem_nil
  fresh := fun _ member => nomatch member
  frame := fun _ _ => rfl

/-- The live nodes are those of the list and the others. -/
theorem live_iff (rep : Represents null others s list) (p : α) :
    s.nodes p ≠ none ↔ p ∈ addresses list ∨ others p ≠ none := by
  by_cases member : p ∈ addresses list
  · exact ⟨fun _ => .inl member, fun _ => rep.chain.live member⟩
  · rw [rep.frame p member]
    simp only [member, false_or]

theorem front_eq_null_iff (rep : Represents null others s list) : s.front = null ↔ list = [] := by
  cases list with
  | nil => exact ⟨fun _ => rfl, fun _ => rep.chain⟩
  | cons entry rest =>
    constructor
    · intro isNull
      obtain ⟨isFirst, -⟩ := rep.chain
      exact absurd (by rw [← isNull, isFirst]; exact List.mem_cons_self) rep.nonnull
    · intro isNil
      exact nomatch isNil

theorem front_ne_null (rep : Represents null others s list) (nonempty : list ≠ []) :
    s.front ≠ null :=
  mt rep.front_eq_null_iff.mp nonempty

theorem rear_eq_null_iff (rep : Represents null others s list) : s.rear = null ↔ list = [] := by
  rw [rep.rear]
  constructor
  · intro isNull
    by_contra nonempty
    have some : addresses list ≠ [] := mt List.map_eq_nil_iff.mp nonempty
    rw [List.getLast?_eq_getLast_of_ne_nil some, Option.getD_some] at isNull
    exact rep.nonnull (isNull ▸ List.getLast_mem some)
  · rintro rfl
    rfl

/-- A suffix of the chain consists of nodes that can be reached. -/
theorem fromFront_of_chain {p : α} {rest : List (α × ν)} (chain : Chain s.nodes null p rest)
    (nonnull : null ∉ addresses rest) (reached : p ≠ null → FromFront null s p) {a : α}
    (member : a ∈ addresses rest) : FromFront null s a := by
  induction rest generalizing p with
  | nil => exact nomatch member
  | cons entry rest ih =>
    obtain ⟨rfl, next, found, continues⟩ := chain
    obtain ⟨first, later⟩ := List.ne_and_not_mem_of_not_mem_cons nonnull
    rcases List.mem_cons.mp member with rfl | inRest
    · exact reached first.symm
    · exact ih continues later (fun ends => .next (reached first.symm) found ends) inRest

/-- The successor of a node of a chain is in it too, unless it is the last. -/
theorem next_mem {p : α} {rest : List (α × ν)} (chain : Chain s.nodes null p rest) {a : α}
    {node : Node α ν} (member : a ∈ addresses rest) (found : s.nodes a = some node)
    (goesOn : node.next ≠ null) : node.next ∈ addresses rest := by
  induction rest generalizing p with
  | nil => exact nomatch member
  | cons entry rest ih =>
    obtain ⟨-, next, first, continues⟩ := chain
    rcases List.mem_cons.mp member with rfl | later
    · obtain rfl : node = ⟨entry.2, next⟩ := Option.some.inj (found.symm.trans first)
      cases rest with
      | nil => exact absurd continues goesOn
      | cons second rest =>
        obtain ⟨isSecond, -⟩ := continues
        exact List.mem_cons_of_mem _ (List.mem_cons.mpr (.inl isSecond))
    · exact List.mem_cons_of_mem _ (ih continues later)

/-- The nodes that can be reached are those of the list. -/
theorem fromFront_iff (rep : Represents null others s list) (p : α) :
    FromFront null s p ↔ p ∈ addresses list := by
  constructor
  · intro reached
    induction reached with
    | front nonnull =>
      cases list with
      | nil => exact absurd rep.chain nonnull
      | cons entry rest => exact List.mem_cons.mpr (.inl rep.chain.1)
    | next _ found goesOn ih => exact next_mem rep.chain ih found goesOn
  · exact fromFront_of_chain rep.chain rep.nonnull .front

/-- A new node is none of the list and none of the others. -/
theorem new_of_free (rep : Represents null others s list) {newNode : α}
    (isFree : s.nodes newNode = none) : newNode ∉ addresses list ∧ others newNode = none := by
  have new : newNode ∉ addresses list := fun member => rep.chain.live member isFree
  exact ⟨new, (rep.frame newNode new).symm.trans isFree⟩

/-- What an append keeps apart from the chain. -/
theorem push (rep : Represents null others s list) {newNode : α} (nonnull : newNode ≠ null)
    (isFree : s.nodes newNode = none) (value : ν) {after : Linked α ν}
    (chain : Chain after.nodes null after.front (list ++ [(newNode, value)]))
    (rear : after.rear = newNode)
    (same : ∀ p ∉ addresses list, p ≠ newNode → after.nodes p = s.nodes p) :
    Represents null others after (list ++ [(newNode, value)]) := by
  obtain ⟨new, notOther⟩ := rep.new_of_free isFree
  have members (p : α) : p ∈ addresses (list ++ [(newNode, value)]) ↔
      p ∈ addresses list ∨ p = newNode := by simp
  constructor
  · exact chain
  · simp [rear]
  · rw [addresses_append]
    exact rep.nodup.append (List.nodup_singleton _) (List.disjoint_singleton.mpr new)
  · rw [members]
    rintro (member | isNew)
    · exact rep.nonnull member
    · exact nonnull isNew.symm
  · intro p member
    rcases (members p).mp member with inList | rfl
    · exact rep.fresh p inList
    · exact notOther
  · intro p notMember
    obtain ⟨notInList, notNew⟩ := not_or.mp (mt (members p).mpr notMember)
    rw [same p notInList notNew]
    exact rep.frame p notInList

end Represents

/-! ## The operations -/

section Operations

variable [DecidableEq α] {codes : Codes ρ} {null : α} {others : α → Option (Node α ν)}
  {s : Linked α ν} {list : List (α × ν)}

/-- The first node of a queue. -/
theorem enqueue_first (isEmpty : s.front = null) (newNode : α) (junk : Node α ν) (value : ν) :
    enqueue codes null (some (newNode, junk)) value s =
      some (codes.ok, ⟨newNode, newNode,
        update s.nodes newNode (some ⟨value, null⟩)⟩) := by
  simp [enqueue, Linked.alloc, Linked.setValue, Linked.setNext, isEmpty]

/-- A node behind the last one. -/
theorem enqueue_behind (nonempty : s.front ≠ null) {newNode : α} (different : s.rear ≠ newNode)
    {last : Node α ν} (found : s.nodes s.rear = some last) (junk : Node α ν) (value : ν) :
    enqueue codes null (some (newNode, junk)) value s =
      some (codes.ok, ⟨s.front, newNode,
        update (update s.nodes newNode (some ⟨value, null⟩)) s.rear
          (some ⟨last.value, newNode⟩)⟩) := by
  simp [enqueue, Linked.alloc, Linked.setValue, Linked.setNext, nonempty, different, found]

theorem dequeue_empty (isEmpty : s.front = null) :
    dequeue codes null s = some (codes.noData, none, s) :=
  if_pos isEmpty

theorem dequeue_front (nonempty : s.front ≠ null) {first : Node α ν}
    (found : s.nodes s.front = some first) :
    dequeue codes null s =
      some (codes.ok, some first.value, ⟨first.next, if first.next = null then null else s.rear,
        update s.nodes s.front none⟩) := by
  unfold dequeue
  rw [if_neg nonempty]
  by_cases isLast : first.next = null
  · simp [found, isLast, Linked.free]
  · simp [found, isLast, Linked.free]

namespace Represents

/-- With a new node the value is appended. -/
theorem enqueue_appends (rep : Represents null others s list) (codes : Codes ρ) {newNode : α}
    (nonnull : newNode ≠ null) (isFree : s.nodes newNode = none) (junk : Node α ν) (value : ν) :
    ∃ after, enqueue codes null (some (newNode, junk)) value s = some (codes.ok, after) ∧
      Represents null others after (list ++ [(newNode, value)]) := by
  obtain ⟨new, -⟩ := rep.new_of_free isFree
  rcases List.eq_nil_or_concat' list with rfl | ⟨before, ⟨last, lastValue⟩, rfl⟩
  · refine ⟨_, enqueue_first rep.chain newNode junk value, rep.push nonnull isFree value ?_ rfl ?_⟩
    · exact ⟨rfl, null, update_self .., rfl⟩
    · intro p _ notNew
      exact update_of_ne notNew _ _
  · have isLast : s.rear = last := by
      rw [rep.rear]
      simp
    have different : s.rear ≠ newNode := by
      rw [isLast]
      rintro rfl
      exact new (by simp)
    have nonempty := rep.front_ne_null (List.append_ne_nil_of_right_ne_nil _ (List.cons_ne_nil _ _))
    have found : s.nodes s.rear = some ⟨lastValue, null⟩ := by
      rw [isLast]
      exact rep.chain.last_node
    refine ⟨_, enqueue_behind nonempty different found junk value,
      rep.push nonnull isFree value ?_ rfl ?_⟩
    · rw [isLast]
      exact rep.chain.snoc rep.nodup new
    · intro p notMember notNew
      have notLast : p ≠ s.rear := by
        rw [isLast]
        rintro rfl
        exact notMember (by simp)
      dsimp only
      rw [update_of_ne notLast, update_of_ne notNew]

/-- The head is returned, and its node is the one that is freed. -/
theorem dequeue_head {address : α} {value : ν} {rest : List (α × ν)}
    (rep : Represents null others s ((address, value) :: rest)) (codes : Codes ρ) :
    ∃ after, dequeue codes null s = some (codes.ok, some value, after) ∧
      after.nodes = update s.nodes address none ∧
      Represents null others after rest := by
  obtain ⟨isFirst, next, found, continues⟩ := rep.chain
  obtain ⟨notLater, laterNodup⟩ := List.nodup_cons.mp rep.nodup
  obtain ⟨-, laterNonnull⟩ := List.ne_and_not_mem_of_not_mem_cons rep.nonnull
  have nonempty := rep.front_ne_null (List.cons_ne_nil _ _)
  rw [← isFirst] at found
  refine ⟨_, dequeue_front nonempty found, by rw [isFirst], ?_⟩
  constructor
  · refine continues.congr fun a member => update_of_ne ?_ _ _
    rintro rfl
    exact notLater (isFirst ▸ member)
  · -- the rear pointer is reset with the last node, and is the same before
    cases rest with
    | nil =>
      have isEnd : next = null := continues
      simp [isEnd]
    | cons second rest =>
      have goesOn : next ≠ null := by
        rintro rfl
        exact laterNonnull (List.mem_cons.mpr (.inl continues.1))
      simp only [goesOn, if_false]
      rw [rep.rear]
      simp [addresses]
  · exact laterNodup
  · exact laterNonnull
  · exact fun p member => rep.fresh p (List.mem_cons_of_mem _ member)
  · intro p notMember
    by_cases isHead : p = s.front
    · subst isHead
      have notOther := rep.fresh s.front (isFirst ▸ List.mem_cons_self)
      rw [notOther]
      exact update_self ..
    · have outside : p ∉ addresses ((address, value) :: rest) := by
        rw [addresses_cons, List.mem_cons, ← isFirst]
        exact not_or.mpr ⟨isHead, notMember⟩
      rw [← rep.frame p outside]
      exact update_of_ne isHead _ _

/-- The first value is changed in its node. -/
theorem modifyFront_head {address : α} {value : ν} {rest : List (α × ν)}
    (rep : Represents null others s ((address, value) :: rest)) (change : ν → ν) :
    ∃ after, modifyFront null change s = some after ∧
      Represents null others after ((address, change value) :: rest) := by
  obtain ⟨isFirst, next, found, continues⟩ := rep.chain
  obtain ⟨notLater, -⟩ := List.nodup_cons.mp rep.nodup
  have nonempty := rep.front_ne_null (List.cons_ne_nil _ _)
  have changed : modifyFront null change s =
      some { s with nodes := update s.nodes address (some ⟨change value, next⟩) } := by
    unfold modifyFront
    rw [if_neg nonempty, isFirst]
    simp [Linked.setValue, found, isFirst]
  refine ⟨_, changed, ?_⟩
  constructor
  · refine ⟨isFirst, next, update_self .., continues.congr fun a member => ?_⟩
    refine update_of_ne ?_ _ _
    rintro rfl
    exact notLater member
  · exact rep.rear
  · exact rep.nodup
  · exact rep.nonnull
  · exact rep.fresh
  · intro p notMember
    rw [← rep.frame p notMember]
    exact update_of_ne (List.ne_and_not_mem_of_not_mem_cons notMember).1 _ _

end Represents

end Operations

/-! ## Runs -/

/-- The two operations as some code has them. -/
structure Implementation (α ν ρ : Type) where
  enqueue : Option (α × Node α ν) → ν → Linked α ν → Option (ρ × Linked α ν)
  dequeue : Linked α ν → Option (ρ × Option ν × Linked α ν)

inductive Operation (α ν : Type) where
  | enqueue (malloc : Option (α × Node α ν)) (value : ν)
  | dequeue

/-- An allocation fails or gives an address where nothing is live. -/
def Possible (null : α) (s : Linked α ν) : Option (α × Node α ν) → Prop
  | none => True
  | some (newNode, _) => newNode ≠ null ∧ s.nodes newNode = none

/-- The operations in any order, from an empty queue in a heap of other nodes. -/
def system (code : Implementation α ν ρ) (null : α) (others : α → Option (Node α ν)) :
    System (Linked α ν) (Operation α ν) where
  initial s := s = ⟨null, null, others⟩
  step s operation after :=
    match operation with
    | .enqueue malloc value =>
      Possible null s malloc ∧ ∃ res, code.enqueue malloc value s = some (res, after)
    | .dequeue => ∃ res value, code.dequeue s = some (res, value, after)

/-- The queue is the list and the operations are those of the list. -/
structure Refines [DecidableEq α] (code : Implementation α ν ρ) (codes : Codes ρ) (null : α)
    (others : α → Option (Node α ν)) (s : Linked α ν) (list : List (α × ν)) : Prop where
  represents : Represents null others s list
  reachable : ∀ p, FromFront null s p ↔ p ∈ addresses list
  live : ∀ p, s.nodes p ≠ none ↔ p ∈ addresses list ∨ others p ≠ none
  rear : s.rear = null ↔ list = []
  enqueue_fails : ∀ value, code.enqueue none value s = some (codes.noMemory, s)
  enqueue_appends : ∀ newNode junk value, newNode ≠ null → s.nodes newNode = none →
    ∃ after, code.enqueue (some (newNode, junk)) value s = some (codes.ok, after) ∧
      Represents null others after (list ++ [(newNode, value)])
  dequeue_empty : list = [] → code.dequeue s = some (codes.noData, none, s)
  dequeue_head : ∀ address value rest, list = (address, value) :: rest →
    ∃ after, code.dequeue s = some (codes.ok, some value, after) ∧
      after.nodes = update s.nodes address none ∧ Represents null others after rest

section Runs

variable [DecidableEq α] {codes : Codes ρ} {null : α} {others : α → Option (Node α ν)}
  {s : Linked α ν} {list : List (α × ν)}

/-- The linked queue with its codes. -/
def linked (codes : Codes ρ) (null : α) : Implementation α ν ρ :=
  ⟨enqueue codes null, dequeue codes null⟩

theorem Represents.refines (rep : Represents null others s list) :
    Refines (linked codes null) codes null others s list where
  represents := rep
  reachable := rep.fromFront_iff
  live := rep.live_iff
  rear := rep.rear_eq_null_iff
  enqueue_fails := fun _ => rfl
  enqueue_appends := fun _ junk value nonnull isFree =>
    rep.enqueue_appends codes nonnull isFree junk value
  dequeue_empty := fun isNil => LinkedQueue.dequeue_empty (rep.front_eq_null_iff.mpr isNil)
  dequeue_head := by
    rintro address value rest rfl
    exact rep.dequeue_head codes

/-- A step leads from a list to a list. -/
theorem Refines.step {code : Implementation α ν ρ} (refines : Refines code codes null others s list)
    {operation : Operation α ν} {after : Linked α ν}
    (step : (system code null others).step s operation after) :
    ∃ list', Represents null others after list' := by
  cases operation with
  | enqueue malloc value =>
    obtain ⟨possible, res, returned⟩ := step
    cases malloc with
    | none =>
      rw [refines.enqueue_fails value] at returned
      cases returned
      exact ⟨list, refines.represents⟩
    | some fresh =>
      obtain ⟨after', appended, rep⟩ :=
        refines.enqueue_appends fresh.1 fresh.2 value possible.1 possible.2
      cases appended.symm.trans returned
      exact ⟨_, rep⟩
  | dequeue =>
    obtain ⟨res, value, returned⟩ := step
    cases list with
    | nil =>
      rw [refines.dequeue_empty rfl] at returned
      cases returned
      exact ⟨[], refines.represents⟩
    | cons entry rest =>
      obtain ⟨after', taken, -, rep⟩ := refines.dequeue_head entry.1 entry.2 rest rfl
      cases taken.symm.trans returned
      exact ⟨rest, rep⟩

/-- In every state of a run the queue refines a list. -/
theorem exists_refines (reachable : (system (linked codes null) null others).Reachable s) :
    ∃ list, Refines (linked codes null) codes null others s list := by
  have represented : ∃ list, Represents null others s list := by
    refine reachable.invariant (P := fun s => ∃ list, Represents null others s list) ?_ ?_
    · rintro state rfl
      exact ⟨[], .empty null others⟩
    · rintro state operation after - ⟨list, rep⟩ step
      have refines : Refines (linked codes null) codes null others state list := rep.refines
      exact refines.step step
  obtain ⟨list, rep⟩ := represented
  exact ⟨list, rep.refines⟩

/-- Two values can be appended and the first of them taken. -/
theorem reachable_second {p q : α} (nonnull : p ≠ null) (isFree : others p = none)
    (nonnull' : q ≠ null) (isFree' : others q = none) (different : q ≠ p) (first second : ν) :
    ∃ s, (system (linked codes null) null others).Reachable s ∧
      Represents null others s [(q, second)] := by
  obtain ⟨s₁, appended, rep₁⟩ :=
    (Represents.empty null others).enqueue_appends codes nonnull isFree ⟨first, null⟩ first
  have stillFree : s₁.nodes q = none := by
    by_contra live
    rcases (rep₁.live_iff q).mp live with isFirst | isOther
    · exact different (List.mem_singleton.mp isFirst)
    · exact isOther isFree'
  obtain ⟨s₂, appended', rep₂⟩ :=
    rep₁.enqueue_appends codes nonnull' stillFree ⟨second, null⟩ second
  obtain ⟨s₃, taken, -, rep₃⟩ := rep₂.dequeue_head codes
  have queued : (system (linked codes null) null others).Reachable s₂ :=
    .next (.next (.start rfl) (show (system (linked codes null) null others).step _
      (.enqueue (some (p, ⟨first, null⟩)) first) s₁ from ⟨⟨nonnull, isFree⟩, _, appended⟩))
      (show (system (linked codes null) null others).step _
        (.enqueue (some (q, ⟨second, null⟩)) second) s₂ from ⟨⟨nonnull', stillFree⟩, _, appended'⟩)
  exact ⟨s₃, .next queued (show (system (linked codes null) null others).step _ .dequeue s₃ from
    ⟨_, _, taken⟩), rep₃⟩

end Runs

end TrustWasm.Lib.LinkedQueue
