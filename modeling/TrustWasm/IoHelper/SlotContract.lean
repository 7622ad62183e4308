import TrustWasm.IoHelper.SlotRuns

/-!
# The slot protocol of the io_helper

What the masks, the counts, the queues and the threads say about the slots, in
every state a run of whole commands reaches.
-/

namespace TrustWasm.IoHelper

open TrustWasm.Lib TrustWasm.Lib.Mask TrustWasm.Tee

/-- The request `serial` owns slot `q` of `p` and is in the given stage: its
submission has allocated the slot and not enqueued the request, the request is
queued, the worker of `p` is handling it, or it is ready. -/
def Holds (s : Sys) (p q serial : Nat) : Stage → Prop
  | .allocated => ∃ thread, s.submits serial = some thread ∧ thread.phase = .held p q
  | .queued => ∃ node ∈ s.pta.reqQueues p, node.req.signo = q ∧ node.req.ticket.serial = serial
  | .handling => ∃ thread, s.loops p = some thread ∧ thread.served = false ∧
      thread.req.signo = q ∧ thread.req.ticket.serial = serial
  | .ready => s.ready p q = some serial

/-- The stages of the threads are those of the board. -/
theorem SlotInv.holds_iff {s : Sys} {board : Board} (inv : SlotInv s.slots board)
    (p q serial : Nat) (stage : Stage) :
    Holds s p q serial stage ↔ board p q = some (serial, stage) := by
  cases stage with
  | allocated =>
    rw [inv.allocated]
    simp only [Holds, Sys.slots, Option.map_eq_some_iff]
  | queued => exact (inv.describes.queued p q serial).symm
  | handling =>
    rw [inv.handling]
    simp only [Holds, Sys.slots, Option.map_eq_some_iff, Prod.mk.injEq]
    constructor
    · rintro ⟨thread, found, notServed, signo, serialEq⟩
      exact ⟨thread.req, ⟨thread, found, rfl, notServed⟩, signo, serialEq⟩
    · rintro ⟨req, ⟨thread, found, rfl, notServed⟩, signo, serialEq⟩
      exact ⟨thread, found, notServed, signo, serialEq⟩
  | ready => exact (inv.ready p q serial).symm

/-- The slots of peripheral `p` are used as the protocol says. -/
structure SlotProtocol (s : Sys) (p : Nat) : Prop where
  /-- `sigpending` is a subset of `sigusing`. -/
  pendingInUse : s.pta.sigpending p &&& s.pta.sigusing p = s.pta.sigpending p
  /-- The count is the number of slots in use. -/
  count : (s.pta.reqNums p).toNat = popcount (s.pta.sigusing p)
  /-- The slots in use are those a request owns. -/
  owned : ∀ q, (s.pta.sigusing p).getLsbD q = true ↔ ∃ serial stage, Holds s p q serial stage
  /-- A slot has one owner, which is in one stage. -/
  oneOwner : ∀ q serial stage serial' stage', Holds s p q serial stage →
    Holds s p q serial' stage' → serial = serial' ∧ stage = stage'
  /-- A request owns one slot, in one stage. -/
  oneStage : ∀ q p' q' serial stage stage', Holds s p q serial stage →
    Holds s p' q' serial stage' → p = p' ∧ q = q' ∧ stage = stage'
  /-- The pending bit says that the owner is ready. -/
  pending : ∀ q serial stage, Holds s p q serial stage →
    ((s.pta.sigpending p).getLsbD q = true ↔ stage = .ready)
  /-- Queued requests have different slots. -/
  queue : ((s.pta.reqQueues p).map (·.req.signo)).Nodup

theorem SlotInv.slotProtocol {s : Sys} {board : Board} (inv : SlotInv s.slots board) (p : Nat) :
    SlotProtocol s p where
  pendingInUse := by
    apply BitVec.eq_of_getLsbD_eq
    intro q _
    rw [BitVec.getLsbD_and]
    cases pending : (s.pta.sigpending p).getLsbD q with
    | false => rfl
    | true =>
      obtain ⟨serial, isReady⟩ := (inv.describes.pending p q).mp pending
      have used : (s.pta.sigusing p).getLsbD q = true :=
        (inv.describes.inUse p q).mpr (by rw [isReady]; simp)
      rw [used]
      rfl
  count := by
    have count : s.pta.reqNums p = BitVec.ofNat 32 (popcount (s.pta.sigusing p)) :=
      inv.describes.count p
    have bound := popcount_le (s.pta.sigusing p)
    rw [count, BitVec.toNat_ofNat]
    exact Nat.mod_eq_of_lt (by omega)
  owned := by
    intro q
    refine (inv.describes.inUse p q).trans ?_
    simp only [inv.holds_iff]
    cases board p q with
    | none => simp
    | some owner => exact ⟨fun _ => ⟨owner.1, owner.2, rfl⟩, fun _ => Option.some_ne_none owner⟩
  oneOwner := by
    intro q serial stage serial' stage' first second
    rw [inv.holds_iff] at first second
    rw [first] at second
    cases second
    exact ⟨rfl, rfl⟩
  oneStage := by
    intro q p' q' serial stage stage' first second
    rw [inv.holds_iff] at first second
    obtain ⟨rfl, rfl⟩ := inv.unique p q p' q' serial stage stage' first second
    rw [first] at second
    cases second
    exact ⟨rfl, rfl, rfl⟩
  pending := by
    intro q serial stage holds
    rw [inv.holds_iff] at holds
    refine (inv.describes.pending p q).trans ?_
    rw [holds]
    simp
  queue := inv.describes.distinct p

namespace SlotsOk

variable {s : Sys} {p q p' q' serial serial' : Nat} {stage stage' : Stage}

theorem oneStage (ok : SlotsOk s) (first : Holds s p q serial stage)
    (second : Holds s p' q' serial stage') : p = p' ∧ q = q' ∧ stage = stage' := by
  obtain ⟨-, -, board, inv⟩ := ok
  exact (inv.slotProtocol p).oneStage q p' q' serial stage stage' first second

theorem oneOwner (ok : SlotsOk s) (first : Holds s p q serial stage)
    (second : Holds s p q serial' stage') : serial = serial' ∧ stage = stage' := by
  obtain ⟨-, -, board, inv⟩ := ok
  exact (inv.slotProtocol p).oneOwner q serial stage serial' stage' first second

theorem lt_of_holds (ok : SlotsOk s) (holds : Holds s p q serial stage) : q < nSubSig := by
  obtain ⟨-, -, board, inv⟩ := ok
  exact BitVec.lt_of_getLsbD (((inv.slotProtocol p).owned q).mpr ⟨serial, stage, holds⟩)

/-- The submission of a request past its allocation has enqueued it. -/
theorem phase_eq (ok : SlotsOk s) (holds : Holds s p q serial stage)
    (notAllocated : stage ≠ .allocated) {thread : SubmitThread}
    (found : s.submits serial = some thread) : thread.phase = .enqueued := by
  cases phase : thread.phase with
  | enqueued => rfl
  | held p' q' =>
    have allocated : Holds s p' q' serial .allocated := ⟨thread, found, phase⟩
    exact absurd (ok.oneStage holds allocated).2.2 notAllocated
  | fresh =>
    obtain ⟨-, -, board, inv⟩ := ok
    obtain ⟨phase', isPhase, notFresh⟩ :=
      inv.started p q serial stage ((inv.holds_iff p q serial stage).mp holds)
    simp only [Sys.slots, found, Option.map_some, phase, Option.some.injEq] at isPhase
    exact absurd isPhase.symm notFresh

/-- A submission that has not allocated a slot owns none. -/
theorem not_holds_of_fresh (ok : SlotsOk s) {thread : SubmitThread}
    (found : s.submits serial = some thread) (fresh : thread.phase = .fresh) :
    ¬Holds s p q serial stage := by
  intro holds
  obtain ⟨-, -, board, inv⟩ := ok
  obtain ⟨phase, isPhase, notFresh⟩ :=
    inv.started p q serial stage ((inv.holds_iff p q serial stage).mp holds)
  simp only [Sys.slots, found, Option.map_some, fresh, Option.some.injEq] at isPhase
  exact notFresh isPhase.symm

end SlotsOk

/-- Steps of the system when collections are whole commands on existing slots. -/
def WholeCommands (_ : Sys) : Action → Prop
  | .getStart _ _ | .getOp _ => False
  | .getData _ params => InRange (slotOf params)
  | _ => True

/-- The io_helper with a worker for each peripheral, clients whose submissions
interleave, and `malloc` that never fails. -/
def wholeCommandSystem : System Sys Action :=
  (ioHelper reliable).restrict WholeCommands

section WholeCommands

variable {S : Semantics Helper Pta} {s : Sys}

theorem gets_of_wholeCommands (reachable : ((ioHelper S).restrict WholeCommands).Reachable s)
    (id : Nat) : s.gets id = none := by
  refine reachable.invariant (P := fun state => state.gets id = none) ?_ ?_
  · rintro state rfl
    rfl
  · intro state action after _ nothing step
    obtain ⟨allowed, step⟩ := step
    cases step with
    | getStart | getOp => exact allowed.elim
    | submit | submitOp | dequeue | loopOp | loopDone | poll | pollSubsignal | getData =>
      exact nothing

/-- With whole commands no two collections overlap. -/
theorem exclusive_of_wholeCommands
    (weaker : ∀ source op reply target, S.step source op reply target →
      helperStep source op reply target)
    (reachable : ((ioHelper S).restrict WholeCommands).Reachable s) :
    ((ioHelper helper).restrict Exclusive).Reachable s := by
  induction reachable with
  | start initial => exact .start initial
  | @next state after action before step ih =>
    obtain ⟨allowed, step⟩ := step
    have step : Step helper state action after := Step.mono weaker step
    refine .next ih ⟨?_, step⟩
    cases action with
    | getData paramTypes params =>
      refine ⟨allowed, ?_⟩
      rintro ⟨id, thread, found, -⟩
      rw [gets_of_wholeCommands before id] at found
      cases found
    | getStart | getOp => exact allowed.elim
    | submit | submitOp | dequeue | loopOp | poll | pollSubsignal => trivial

end WholeCommands

end TrustWasm.IoHelper
