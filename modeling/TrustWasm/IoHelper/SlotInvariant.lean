import TrustWasm.IoHelper.SlotProtocol

/-!
# The life of a slot

The slots of the io_helper are described by a board that gives each slot the
request occupying it, if any, and the stage of that request.  `SlotView` is the
part of the system a board talks about and `SlotStep` says everything a step of
the system can do to it; the board follows each such step, and the masks, the
counts, the queues and the threads always agree with it.
-/

namespace TrustWasm.IoHelper

open TrustWasm.Lib TrustWasm.Lib.Mask TrustWasm.Tee Function

/-- The request in each slot and the stage it is in. -/
abbrev Board := Nat → Nat → Option (Nat × Stage)

/-! ## Masks, counts and queues -/

/-- The masks, the counts and the queues say what the board says. -/
structure Board.Describes (board : Board) (s : Pta) : Prop where
  inUse : ∀ p q, (s.sigusing p).getLsbD q = true ↔ board p q ≠ none
  pending : ∀ p q, (s.sigpending p).getLsbD q = true ↔ ∃ serial, board p q = some (serial, .ready)
  count : ∀ p, s.reqNums p = BitVec.ofNat 32 (popcount (s.sigusing p))
  queued : ∀ p q serial, board p q = some (serial, .queued) ↔
    ∃ node ∈ s.reqQueues p, node.req.signo = q ∧ node.req.ticket.serial = serial
  distinct : ∀ p, ((s.reqQueues p).map (·.req.signo)).Nodup

variable {p q serial : Nat} {req : IoReq} {after : Pta}

namespace Board.Describes

variable {board : Board} {s s' : Pta}

theorem lt_of_some (describes : board.Describes s) (occupied : board p q ≠ none) : q < 64 :=
  BitVec.lt_of_getLsbD ((describes.inUse p q).mpr occupied)

theorem zero : Board.Describes (fun _ _ => none) Pta.zero where
  inUse := by simp [Pta.zero]
  pending := by simp [Pta.zero]
  count _ := congrArg (BitVec.ofNat 32) popcount_zero.symm
  queued := by simp [Pta.zero]
  distinct := by simp [Pta.zero]

theorem sameSlots (describes : board.Describes s) (same : SameSlots s s') :
    board.Describes s' where
  inUse := by rw [same.sigusing]; exact describes.inUse
  pending := by rw [same.sigpending]; exact describes.pending
  count := by rw [same.sigusing, same.reqNums]; exact describes.count
  queued := by rw [same.reqQueues]; exact describes.queued
  distinct := by rw [same.reqQueues]; exact describes.distinct

/-- A slot that is given out was free, and the board records its new owner. -/
theorem allocate (describes : board.Describes s) (step : s.allocateSigno p = (some q, s'))
    (serial : Nat) :
    board p q = none ∧ Board.Describes (setSlot board p q (some (serial, .allocated))) s' := by
  obtain ⟨found, rfl⟩ := allocateSigno_some step
  have inRange : q < 64 := ((lowest?_eq_some_iff _ _).mp found).1
  have clear : (s.sigusing p).getLsbD q = false := getLsbD_lowest_clear found
  have free : board p q = none := by
    by_contra occupied
    rw [(describes.inUse p q).mpr occupied] at clear
    contradiction
  refine ⟨free, ?_, ?_, ?_, ?_, ?_⟩
  · intro p' q'
    by_cases here : p' = p
    · subst here
      simp only [update_self, getLsbD_or_bit inRange]
      by_cases signo : q' = q
      · simp [signo]
      · rw [setSlot_of_ne _ _ (by simp [signo]), ← describes.inUse]
        simp [signo]
    · simp only [update_of_ne here]
      rw [setSlot_of_ne _ _ (by simp [here])]
      exact describes.inUse p' q'
  · intro p' q'
    refine (describes.pending p' q').trans ?_
    by_cases here : p' = p ∧ q' = q
    · obtain ⟨rfl, rfl⟩ := here
      simp [free]
    · rw [setSlot_of_ne _ _ here]
  · intro p'
    by_cases here : p' = p
    · subst here
      simp only [update_self]
      rw [popcount_or_bit inRange clear, describes.count p', BitVec.ofNat_add]
      rfl
    · simp only [update_of_ne here]
      exact describes.count p'
  · intro p' q' serial'
    refine Iff.trans ?_ (describes.queued p' q' serial')
    by_cases here : p' = p ∧ q' = q
    · obtain ⟨rfl, rfl⟩ := here
      simp [free]
    · rw [setSlot_of_ne _ _ here]
  · exact describes.distinct

/-- A stage change that keeps a slot occupied leaves the masks right as long as
neither stage is `ready`. -/
theorem inUse_of_stage (describes : board.Describes s) {before : Nat × Stage}
    (occupied : board p q = some before) (after : Nat × Stage) (p' q' : Nat) :
    (s.sigusing p').getLsbD q' = true ↔ setSlot board p q (some after) p' q' ≠ none := by
  refine (describes.inUse p' q').trans ?_
  by_cases here : p' = p ∧ q' = q
  · obtain ⟨rfl, rfl⟩ := here
    simp [occupied]
  · rw [setSlot_of_ne _ _ here]

theorem pending_of_stage (describes : board.Describes s) {before after : Stage}
    (occupied : board p q = some (serial, before)) (notBefore : before ≠ .ready)
    (notAfter : after ≠ .ready) (p' q' : Nat) :
    (s.sigpending p').getLsbD q' = true ↔
      ∃ serial', setSlot board p q (some (serial, after)) p' q' = some (serial', .ready) := by
  refine (describes.pending p' q').trans ?_
  by_cases here : p' = p ∧ q' = q
  · obtain ⟨rfl, rfl⟩ := here
    simp [occupied, notBefore, notAfter]
  · rw [setSlot_of_ne _ _ here]

theorem enqueue (describes : board.Describes s)
    (held : board p req.signo = some (req.ticket.serial, .allocated)) (addr : Ptr)
    (junk : Nat → Byte) :
    Board.Describes (setSlot board p req.signo (some (req.ticket.serial, .queued)))
      (s.enqueueNode p addr junk req) := by
  -- the slot is not queued yet, so no node of the queue carries it
  have absent (node : IoReqNode) (member : node ∈ s.reqQueues p) :
      node.req.signo ≠ req.signo := by
    intro equal
    have queued := (describes.queued p req.signo node.req.ticket.serial).mpr
      ⟨node, member, equal, rfl⟩
    rw [held] at queued
    simp at queued
  refine ⟨describes.inUse_of_stage held _,
    describes.pending_of_stage held (by simp) (by simp), describes.count, ?_, ?_⟩
  · intro p' q' serial'
    simp only [Pta.enqueueNode]
    by_cases here : p' = p
    · subst here
      rw [update_self]
      by_cases signo : q' = req.signo
      · subst signo
        rw [setSlot_self]
        simp only [Option.some.injEq, Prod.mk.injEq, and_true, List.mem_append, List.mem_singleton]
        constructor
        · rintro rfl
          exact ⟨⟨addr, req⟩, .inr rfl, rfl, rfl⟩
        · rintro ⟨node, member | rfl, equal, serialEq⟩
          · exact absurd equal (absent node member)
          · exact serialEq
      · rw [setSlot_of_ne _ _ (by simp [signo]), describes.queued]
        constructor
        · rintro ⟨node, member, equal, serialEq⟩
          exact ⟨node, List.mem_append_left _ member, equal, serialEq⟩
        · rintro ⟨node, member, equal, serialEq⟩
          rcases List.mem_append.mp member with member | member
          · exact ⟨node, member, equal, serialEq⟩
          · obtain rfl := List.mem_singleton.mp member
            exact absurd equal.symm signo
    · rw [update_of_ne here, setSlot_of_ne _ _ (by simp [here])]
      exact describes.queued p' q' serial'
  · intro p'
    simp only [Pta.enqueueNode]
    by_cases here : p' = p
    · subst here
      rw [update_self, List.map_append, List.nodup_append]
      refine ⟨describes.distinct p', by simp, ?_⟩
      rintro signo member other otherMember rfl
      obtain ⟨node, nodeMember, rfl⟩ := List.mem_map.mp member
      simp only [List.map_cons, List.map_nil, List.mem_singleton] at otherMember
      exact absent node nodeMember otherMember
    · rw [update_of_ne here]
      exact describes.distinct p'

/-- The request taken from a queue occupies the slot it names. -/
theorem dequeue (describes : board.Describes s) (step : s.dequeue p = some (req, s')) :
    board p req.signo = some (req.ticket.serial, .queued) ∧
      Board.Describes (setSlot board p req.signo (some (req.ticket.serial, .handling))) s' := by
  unfold Pta.dequeue at step
  cases queue : s.reqQueues p with
  | nil => simp [queue] at step
  | cons node rest =>
    simp only [queue, Option.some.injEq, Prod.mk.injEq] at step
    obtain ⟨rfl, rfl⟩ := step
    have queued : board p node.req.signo = some (node.req.ticket.serial, .queued) := by
      apply (describes.queued p _ _).mpr
      rw [queue]
      exact ⟨node, List.mem_cons_self, rfl, rfl⟩
    have distinct := describes.distinct p
    rw [queue, List.map_cons, List.nodup_cons] at distinct
    refine ⟨queued, describes.inUse_of_stage queued _,
      describes.pending_of_stage queued (by simp) (by simp), describes.count, ?_, ?_⟩
    · intro p' q' serial'
      by_cases here : p' = p
      · subst here
        simp only [update_self]
        by_cases signo : q' = node.req.signo
        · subst signo
          rw [setSlot_self]
          constructor
          · intro equal
            simp at equal
          · rintro ⟨other, member, equal, -⟩
            exact absurd (List.mem_map.mpr ⟨other, member, equal⟩) distinct.1
        · rw [setSlot_of_ne _ _ (by simp [signo]), describes.queued, queue]
          constructor
          · rintro ⟨other, member, equal, serialEq⟩
            rcases List.mem_cons.mp member with rfl | member
            · exact absurd equal.symm signo
            · exact ⟨other, member, equal, serialEq⟩
          · rintro ⟨other, member, equal, serialEq⟩
            exact ⟨other, List.mem_cons_of_mem _ member, equal, serialEq⟩
      · simp only [update_of_ne here]
        rw [setSlot_of_ne _ _ (by simp [here])]
        exact describes.queued p' q' serial'
    · intro p'
      by_cases here : p' = p
      · subst here
        simp only [update_self]
        exact distinct.2
      · simp only [update_of_ne here]
        exact describes.distinct p'

/-- Away from the stage `queued` the queues do not depend on a slot's stage. -/
theorem queued_of_stage (describes : board.Describes s) {before : Nat × Stage}
    {after : Option (Nat × Stage)} (occupied : board p q = some before)
    (notBefore : before.2 ≠ .queued) (notAfter : ∀ serial, after ≠ some (serial, .queued))
    (p' q' serial' : Nat) :
    setSlot board p q after p' q' = some (serial', .queued) ↔
      ∃ node ∈ s.reqQueues p', node.req.signo = q' ∧ node.req.ticket.serial = serial' := by
  refine Iff.trans ?_ (describes.queued p' q' serial')
  by_cases here : p' = p ∧ q' = q
  · obtain ⟨rfl, rfl⟩ := here
    rw [setSlot_self, occupied]
    constructor
    · intro equal
      exact absurd equal (notAfter serial')
    · intro equal
      cases equal
      exact absurd rfl notBefore
  · rw [setSlot_of_ne _ _ here]

theorem setReady (describes : board.Describes s) (handled : board p q = some (serial, .handling)) :
    Board.Describes (setSlot board p q (some (serial, .ready))) (s.setReadySignal p q) := by
  have inRange : q < 64 := describes.lt_of_some (p := p) (by simp [handled])
  refine ⟨describes.inUse_of_stage handled _, ?_, describes.count,
    describes.queued_of_stage handled (by simp) (by simp), describes.distinct⟩
  intro p' q'
  simp only [Pta.setReadySignal]
  by_cases here : p' = p
  · subst here
    rw [update_self, getLsbD_or_bit inRange]
    by_cases signo : q' = q
    · simp [signo]
    · rw [setSlot_of_ne _ _ (by simp [signo]), ← describes.pending]
      simp [signo]
  · rw [update_of_ne here, setSlot_of_ne _ _ (by simp [here])]
    exact describes.pending p' q'

theorem release (describes : board.Describes s) (isReady : board p q = some (serial, .ready)) :
    Board.Describes (setSlot board p q none) (s.releaseSigno p q) := by
  have occupied : board p q ≠ none := by simp [isReady]
  have inRange : q < 64 := describes.lt_of_some occupied
  refine ⟨?_, ?_, ?_, describes.queued_of_stage isReady (by simp) (by simp), describes.distinct⟩
  · intro p' q'
    simp only [Pta.releaseSigno]
    by_cases here : p' = p
    · subst here
      rw [update_self, getLsbD_and_not_bit inRange]
      by_cases signo : q' = q
      · simp [signo]
      · rw [setSlot_of_ne _ _ (by simp [signo]), ← describes.inUse]
        simp [signo]
    · rw [update_of_ne here, setSlot_of_ne _ _ (by simp [here])]
      exact describes.inUse p' q'
  · intro p' q'
    simp only [Pta.releaseSigno]
    by_cases here : p' = p
    · subst here
      rw [update_self, getLsbD_and_not_bit inRange]
      by_cases signo : q' = q
      · simp [signo]
      · rw [setSlot_of_ne _ _ (by simp [signo]), ← describes.pending]
        simp [signo]
    · rw [update_of_ne here, setSlot_of_ne _ _ (by simp [here])]
      exact describes.pending p' q'
  · intro p'
    simp only [Pta.releaseSigno]
    by_cases here : p' = p
    · subst here
      rw [update_self, update_self, describes.count,
        ← popcount_and_not_bit inRange ((describes.inUse p' q).mpr occupied), BitVec.ofNat_add]
      exact BitVec.add_sub_cancel _ _
    · rw [update_of_ne here, update_of_ne here]
      exact describes.count p'

end Board.Describes

/-! ## Steps as slots see them -/

/-- The part of the system a board talks about: the io_helper, the phase of each
submission, the request each worker serves and whether it is made ready, and
the request ready in each slot. -/
structure SlotView where
  pta : Pta
  phase : Nat → Option SubmitPhase
  serving : Nat → Option (IoReq × Bool)
  ready : Nat → Nat → Option Nat

/-- Everything a step of the system can do to the slots. -/
inductive SlotStep : SlotView → SlotView → Prop where
  | quiet (v : SlotView) (after : Pta) : SameSlots v.pta after → SlotStep v { v with pta := after }
  | submit (v : SlotView) (serial : Nat) :
      v.phase serial = none →
      SlotStep v { v with phase := update v.phase serial (some .fresh) }
  | allocate (v : SlotView) (serial p q : Nat) (after : Pta) :
      p < nPeriph → v.phase serial = some .fresh → v.pta.allocateSigno p = (some q, after) →
      SlotStep v { v with pta := after, phase := update v.phase serial (some (.held p q)) }
  | enqueue (v : SlotView) (p : Nat) (req : IoReq) (addr : Ptr) (junk : Nat → Byte) :
      v.phase req.ticket.serial = some (.held p req.signo) →
      SlotStep v
        { v with
          pta := v.pta.enqueueNode p addr junk req
          phase := update v.phase req.ticket.serial (some .enqueued) }
  | dequeue (v : SlotView) (p : Nat) (req : IoReq) (after : Pta) :
      v.serving p = none → v.pta.dequeue p = some (req, after) →
      SlotStep v { v with pta := after, serving := update v.serving p (some (req, false)) }
  | finish (v : SlotView) (p : Nat) (req : IoReq) :
      v.serving p = some (req, false) →
      SlotStep v
        { v with
          pta := v.pta.setReadySignal p req.signo
          serving := update v.serving p (some (req, true))
          ready := setSlot v.ready p req.signo (some req.ticket.serial) }
  | idle (v : SlotView) (p : Nat) (req : IoReq) :
      v.serving p = some (req, true) →
      SlotStep v { v with serving := update v.serving p none }
  | release (v : SlotView) (p q serial : Nat) (before after : Pta) :
      v.ready p q = some serial → SameSlots v.pta before →
      SameSlots (before.releaseSigno p q) after →
      SlotStep v { v with pta := after, ready := setSlot v.ready p q none }

/-- The threads and the ghost record say what the board says. -/
structure SlotInv (v : SlotView) (board : Board) : Prop where
  describes : board.Describes v.pta
  inRange : ∀ p q, board p q ≠ none → p < nPeriph
  allocated : ∀ p q serial,
    board p q = some (serial, .allocated) ↔ v.phase serial = some (.held p q)
  handling : ∀ p q serial, board p q = some (serial, .handling) ↔
    ∃ req, v.serving p = some (req, false) ∧ req.signo = q ∧ req.ticket.serial = serial
  ready : ∀ p q serial, board p q = some (serial, .ready) ↔ v.ready p q = some serial
  unique : ∀ p q p' q' serial stage stage', board p q = some (serial, stage) →
    board p' q' = some (serial, stage') → p = p' ∧ q = q'
  started : ∀ p q serial stage, board p q = some (serial, stage) →
    ∃ phase, v.phase serial = some phase ∧ phase ≠ .fresh

namespace SlotInv

variable {v v' : SlotView} {board : Board}

theorem quiet (inv : SlotInv v board) (same : SameSlots v.pta after) :
    SlotInv { v with pta := after } board :=
  { inv with describes := inv.describes.sameSlots same }

theorem submit (inv : SlotInv v board) (unused : v.phase serial = none) :
    SlotInv { v with phase := update v.phase serial (some .fresh) } board := by
  refine { inv with allocated := ?_, started := ?_ }
  · intro p q serial'
    rw [inv.allocated]
    by_cases here : serial' = serial
    · simp [here, unused]
    · simp [here]
  · intro p q serial' stage occupied
    obtain ⟨phase, isPhase, notFresh⟩ := inv.started p q serial' stage occupied
    refine ⟨phase, ?_, notFresh⟩
    have other : serial' ≠ serial := by
      rintro rfl
      rw [unused] at isPhase
      cases isPhase
    simpa [other] using isPhase

theorem allocate (inv : SlotInv v board) (range : p < nPeriph)
    (fresh : v.phase serial = some .fresh) (step : v.pta.allocateSigno p = (some q, after)) :
    SlotInv
      { v with pta := after, phase := update v.phase serial (some (.held p q)) }
      (setSlot board p q (some (serial, .allocated))) := by
  obtain ⟨free, describes⟩ := inv.describes.allocate step serial
  have unknown (p' q' : Nat) (stage : Stage) : board p' q' ≠ some (serial, stage) := by
    intro occupied
    obtain ⟨phase, isPhase, notFresh⟩ := inv.started p' q' serial stage occupied
    rw [fresh] at isPhase
    cases isPhase
    exact notFresh rfl
  obtain ⟨-, inRange, allocated, handling, ready, unique, started⟩ := inv
  refine ⟨describes, ?inRange, ?allocated, ?handling, ?ready, ?unique, ?started⟩
  case inRange | handling | ready | unique => grind [setSlot_apply]
  case allocated | started => grind [setSlot_apply, update_apply]

theorem enqueue (inv : SlotInv v board)
    (held : v.phase req.ticket.serial = some (.held p req.signo)) (addr : Ptr) (junk : Nat → Byte) :
    SlotInv
      { v with
        pta := v.pta.enqueueNode p addr junk req
        phase := update v.phase req.ticket.serial (some .enqueued) }
      (setSlot board p req.signo (some (req.ticket.serial, .queued))) := by
  have occupied := (inv.allocated p req.signo req.ticket.serial).mpr held
  have describes := inv.describes.enqueue occupied addr junk
  obtain ⟨-, inRange, allocated, handling, ready, unique, started⟩ := inv
  refine ⟨describes, ?inRange, ?allocated, ?handling, ?ready, ?unique, ?started⟩
  case inRange | handling | ready | unique => grind [setSlot_apply]
  case allocated | started => grind [setSlot_apply, update_apply]

theorem dequeue (inv : SlotInv v board) (free : v.serving p = none)
    (step : v.pta.dequeue p = some (req, after)) :
    SlotInv
      { v with pta := after, serving := update v.serving p (some (req, false)) }
      (setSlot board p req.signo (some (req.ticket.serial, .handling))) := by
  obtain ⟨occupied, describes⟩ := inv.describes.dequeue step
  obtain ⟨-, inRange, allocated, handling, ready, unique, started⟩ := inv
  refine ⟨describes, ?inRange, ?allocated, ?handling, ?ready, ?unique, ?started⟩
  case inRange | allocated | ready | unique | started => grind [setSlot_apply]
  case handling => grind [setSlot_apply, update_apply]

theorem finish (inv : SlotInv v board) (handled : v.serving p = some (req, false)) :
    SlotInv
      { v with
        pta := v.pta.setReadySignal p req.signo
        serving := update v.serving p (some (req, true))
        ready := setSlot v.ready p req.signo (some req.ticket.serial) }
      (setSlot board p req.signo (some (req.ticket.serial, .ready))) := by
  have occupied := (inv.handling p req.signo req.ticket.serial).mpr ⟨req, handled, rfl, rfl⟩
  have describes := inv.describes.setReady occupied
  obtain ⟨-, inRange, allocated, handling, ready, unique, started⟩ := inv
  refine ⟨describes, ?inRange, ?allocated, ?handling, ?ready, ?unique, ?started⟩
  case inRange | allocated | unique | started => grind [setSlot_apply]
  case handling | ready => grind [setSlot_apply, update_apply]

theorem idle (inv : SlotInv v board) (served : v.serving p = some (req, true)) :
    SlotInv { v with serving := update v.serving p none } board := by
  refine { inv with handling := ?_ }
  intro p' q serial
  rw [inv.handling]
  by_cases here : p' = p
  · simp [here, served]
  · simp [here]

theorem release {before : Pta} (inv : SlotInv v board) (isReady : v.ready p q = some serial)
    (same : SameSlots v.pta before) (rest : SameSlots (before.releaseSigno p q) after) :
    SlotInv { v with pta := after, ready := setSlot v.ready p q none }
      (setSlot board p q none) := by
  have occupied := (inv.ready p q serial).mpr isReady
  have describes := ((inv.describes.sameSlots same).release occupied).sameSlots rest
  obtain ⟨-, inRange, allocated, handling, ready, unique, started⟩ := inv
  refine ⟨describes, ?inRange, ?allocated, ?handling, ?ready, ?unique, ?started⟩
  case inRange | allocated | handling | unique | started => grind [setSlot_apply]
  case ready => grind [setSlot_apply, update_apply]

/-- Requests keep their slots through their stages, and only a request that has
not allocated yet gets a new one. -/
def Follows (v : SlotView) (board board' : Board) : Prop :=
  ∀ p q serial stage, board' p q = some (serial, stage) →
    (∃ stage', board p q = some (serial, stage')) ∨ v.phase serial = some .fresh

theorem follows_refl (v : SlotView) (board : Board) : Follows v board board :=
  fun _ _ _ stage occupied => .inl ⟨stage, occupied⟩

theorem follows_setSlot {stage : Stage}
    (allowed : (∃ stage', board p q = some (serial, stage')) ∨ v.phase serial = some .fresh) :
    Follows v board (setSlot board p q (some (serial, stage))) := by
  unfold Follows
  grind [setSlot_apply]

/-- The board follows every step. -/
theorem step (inv : SlotInv v board) (step : SlotStep v v') :
    ∃ board', SlotInv v' board' ∧ Follows v board board' := by
  cases step with
  | quiet after same => exact ⟨_, inv.quiet same, follows_refl v board⟩
  | submit serial unused => exact ⟨_, inv.submit unused, follows_refl v board⟩
  | allocate serial p q after range fresh step =>
    exact ⟨_, inv.allocate range fresh step, follows_setSlot (.inr fresh)⟩
  | enqueue p req addr junk held =>
    have occupied := (inv.allocated p req.signo req.ticket.serial).mpr held
    exact ⟨_, inv.enqueue held addr junk, follows_setSlot (.inl ⟨_, occupied⟩)⟩
  | dequeue p req after free step =>
    have occupied := (inv.describes.dequeue step).1
    exact ⟨_, inv.dequeue free step, follows_setSlot (.inl ⟨_, occupied⟩)⟩
  | finish p req handled =>
    have occupied := (inv.handling p req.signo req.ticket.serial).mpr ⟨req, handled, rfl, rfl⟩
    exact ⟨_, inv.finish handled, follows_setSlot (.inl ⟨_, occupied⟩)⟩
  | idle p req served => exact ⟨_, inv.idle served, follows_refl v board⟩
  | release p q serial before after isReady same rest =>
    refine ⟨_, inv.release isReady same rest, ?_⟩
    unfold Follows
    grind [setSlot_apply]

end SlotInv

end TrustWasm.IoHelper
