import TrustWasm.Lib.Fifo
import TrustWasm.Runtime.Adaptive

/-!
# The queues of adaptive checkpoints

In an orderly run the queue of a peripheral lists the requests that wait for a call of their
handler, in the order of their registrations.  The dispatch of the oldest of them takes its
record from the front.
-/

namespace TrustWasm.Runtime

open TrustWasm.Lib TrustWasm.Lib.Mask TrustWasm.Tee TrustWasm.IoHelper Function

/-! ## The runtime under the tables -/

variable {signo subSigno p : Nat} {len handler reqType : BitVec 32} {mode : Mode} {s s' : Rt}
    {action : RtAction} {req : TimedReq}

namespace Adaptive

variable (s : Adaptive) (mode : Mode) (allocated node : Bool) (now : BitVec 64)

theorem register_rt (known : reqType.toNat ≤ nReqType) :
    (s.register mode allocated node now signo subSigno handler reqType len).rt =
      s.rt.register mode allocated signo subSigno handler := by
  unfold Adaptive.register
  split
  · rename_i rejected
    have refused : s.rt.globals.registerHandler mode s.rt.inst allocated signo subSigno handler =
        none := by
      unfold Globals.registerHandler
      rcases rejected with bad | bad | rfl | bad
      · rw [if_pos (.inl bad)]
      · rw [if_pos (.inr bad)]
      · rw [if_pos rfl, ite_self]
      · exact absurd known (Nat.not_le_of_lt bad)
    unfold Rt.register
    rw [refused]
    rfl
  · rfl

theorem register_removals :
    (s.register mode allocated node now signo subSigno handler reqType len).removals =
      s.removals := by
  unfold Adaptive.register
  split <;> rfl

theorem submitted_rt {submission : Submission} {handler : Option (BitVec 32)}
    {reply : CommandResult} (known : handler ≠ none → submission.params.p0.b.toNat < nReqType) :
    (s.submitted mode allocated node now len submission handler reply).rt =
      s.rt.submitted mode allocated submission handler reply := by
  unfold Adaptive.submitted Rt.submitted
  split
  · rfl
  · cases handler with
    | none => rfl
    | some handler => exact register_rt _ _ _ _ _ (Nat.le_of_lt (known (Option.some_ne_none _)))

theorem polled_rt (model : FloatModel) (stack : TimedReq) (dispatches : Bool) (after : Pta)
    (outcome : Scan × Globals) :
    (s.polled model mode now stack dispatches after outcome).rt =
      (s.rt.withPta after).scanned mode dispatches outcome := by
  unfold Adaptive.polled
  split <;> rfl

/-- The queue `profile` looks at. -/
def profiled : Int :=
  (ffs s.rt.globals.sigpending : Int) - 1

/-- The indices a checkpoint uses: none, or that of the queue it looks at and possibly the type
of the record at its front. -/
def CheckpointIndices (indices : List TableIndex) : Prop :=
  indices = [] ∨ (mode = .aot → s.rt.globals.sigpending ≠ 0) ∧
    s.noProfile = false ∧ s.waitProfile ≤ 0 ∧
    ∀ index ∈ indices, index = .ioQueues s.profiled ∨
      ∃ front ∈ s.ioQueues s.profiled, index = .execTimeTable front.type.toNat

/-- A checkpoint changes no queue; under the tables it starts a scan or does nothing. -/
theorem checkpoint_cases :
    ∃ rt waitProfile noProfile profileTimes indices, s.checkpoint mode now = { s with
        rt := rt
        waitProfile := waitProfile
        noProfile := noProfile
        profileTimes := profileTimes
        indexed := s.indexed ++ indices } ∧
      (rt = s.rt ∨ rt = s.rt.scan true) ∧ s.CheckpointIndices mode indices := by
  unfold Adaptive.checkpoint
  split
  · refine ⟨s.rt, s.waitProfile, s.noProfile, s.profileTimes, [], ?_, .inl rfl, .inl rfl⟩
    rw [List.append_nil]
  rename_i notPassed
  have pending : mode = .aot → s.rt.globals.sigpending ≠ 0 := fun aot none => notPassed ⟨aot, none⟩
  split
  · refine ⟨s.rt.scan true, s.waitProfile, s.noProfile, s.profileTimes, [], ?_, .inr rfl, .inl rfl⟩
    rw [List.append_nil]
    rfl
  · rename_i profiles
    have profiles := Bool.eq_false_iff.mpr profiles
    split
    · rename_i expired
      unfold Adaptive.profile
      dsimp only
      cases queue : s.ioQueues ((ffs s.rt.globals.sigpending : Int) - 1) with
      | nil =>
        refine ⟨s.rt, _, _, _, [.ioQueues s.profiled], rfl, .inl rfl,
          .inr ⟨pending, profiles, expired, fun index used => ?_⟩⟩
        exact .inl (List.mem_singleton.mp used)
      | cons front rest =>
        by_cases passed : front.guessEnd < now
        · simp only [if_pos passed]
          refine ⟨s.rt.scan true, _, _, _, [.ioQueues s.profiled], rfl, .inr rfl,
            .inr ⟨pending, profiles, expired, fun index used => ?_⟩⟩
          exact .inl (List.mem_singleton.mp used)
        · simp only [if_neg passed]
          refine ⟨s.rt, (s.execTimeTable front.type.toNat).waitProfile, s.noProfile,
            s.profileTimes + 1, [.ioQueues s.profiled, .execTimeTable front.type.toNat], ?_,
            .inl rfl, .inr ⟨pending, profiles, expired, fun index used => ?_⟩⟩
          · rw [← List.append_cons s.indexed]
            rfl
          · rcases List.mem_pair.mp used with rfl | rfl
            · exact .inl rfl
            · refine .inr ⟨front, ?_, rfl⟩
              rw [Adaptive.profiled, queue]
              exact List.mem_cons_self
    · refine ⟨s.rt, s.waitProfile - 1, s.noProfile, s.profileTimes, [], ?_, .inl rfl, .inl rfl⟩
      rw [List.append_nil]

variable {s mode allocated node now}

/-- A registration looks up its type and its queue. -/
theorem mem_register_indexed {index : TableIndex} (used : index ∈
      (s.register mode allocated node now signo subSigno handler reqType len).indexed) :
    index ∈ s.indexed ∨ index = .execTimeTable reqType.toNat ∨ index = .ioQueues signo := by
  unfold Adaptive.register at used
  split at used
  · exact .inl used
  · rcases List.mem_append.mp used with used | used
    · exact .inl used
    · exact .inr (List.mem_pair.mp used)

end Adaptive

/-- A request that is submitted for a handler has a type of its own. -/
def Typed (s : Rt) : Prop :=
  ∀ serial submission handler slot, s.task = .submit serial submission (some handler) slot →
    submission.params.p0.b.toNat < nReqType

/-- A submission for a handler has a type of its own. -/
def Known (action : RtAction) : Prop :=
  ∀ submission handler, action = .submit submission (some handler) →
    submission.params.p0.b.toNat < nReqType

/-- Under the tables a step is one of the runtime, or nothing. -/
theorem AdaptiveStep.rt {model : FloatModel} {s s' : Adaptive} {action : AdaptiveAction}
    (typed : Typed s.rt) (step : AdaptiveStep model mode s action s') :
    s'.rt = s.rt ∨ ∃ mode' taken, Known taken ∧ RtStep mode' s.rt taken s'.rt := by
  cases step with
  | plain action rt isPlain taken =>
    refine .inr ⟨mode, action, ?_, taken⟩
    rintro submission handler rfl
    exact isPlain (Option.some_ne_none _)
  | submitDone serial submission handler slot reply phase args allocated node now len task
      returned =>
      refine .inr ⟨mode, .submitDone allocated, fun _ _ other => (nomatch other), ?_⟩
      rw [Adaptive.submitted_rt]
      · exact .submitDone _ _ _ _ _ _ _ _ _ task returned
      · intro registers
        obtain ⟨callback, rfl⟩ := Option.ne_none_iff_exists'.mp registers
        exact typed _ _ _ _ task
  | setCallback periphNo subSigno handler allocated node now reply after wasm inRange run =>
    refine .inr ⟨mode, .setCallback periphNo subSigno handler allocated,
      fun _ _ other => (nomatch other), ?_⟩
    have taken : RtStep mode s.rt _ _ :=
      .setCallback s.rt periphNo subSigno handler allocated reply after wasm inRange run
    split
    · rename_i failed
      rwa [if_pos failed] at taken
    · rename_i succeeded
      rw [if_neg succeeded] at taken
      rw [Adaptive.register_rt _ _ _ _ _ (show reqTypeNone.toNat ≤ nReqType by decide)]
      exact taken
  | checkpoint now wasm =>
    obtain ⟨rt, _, _, _, _, checkpoint, under, -⟩ := s.checkpoint_cases mode now
    rw [checkpoint]
    rcases under with rfl | rfl
    · exact .inl rfl
    · exact .inr ⟨mode, .checkpoint, fun _ _ other => (nomatch other), .checkpoint _ wasm⟩
  | poll tmpSigpending dispatches reply after now stack task run =>
    rw [Adaptive.polled_rt]
    exact .inr ⟨mode, .poll, fun _ _ other => (nomatch other), .poll _ _ _ _ _ task run⟩
  | handlerDone wasm inHandler =>
    exact .inr ⟨.aot, .handlerDone, fun _ _ other => (nomatch other), .handlerDone _ wasm inHandler⟩

/-! ## Submissions in progress -/

/-- The slot of a submission in progress has no handler yet. -/
def Fresh (s : Rt) : Prop :=
  ∀ serial submission handler q, s.task = .submit serial submission handler (some q) →
    s.owners (toUint16 submission.params.p0.a) q = none

/-- A submission in progress after a step has just started, or was in progress before; a slot it
has got by the step was not in use. -/
theorem RtStep.submitting (tracked : Tracked s) (step : RtStep mode s action s') {serial : Nat}
    {submission : Submission} {handler : Option (BitVec 32)} {slot : Option Nat}
    (task : s'.task = .submit serial submission handler slot) :
    (action = .submit submission handler ∧ slot = none) ∨
      ∃ before, s.task = .submit serial submission handler before ∧ s'.owners = s.owners ∧
        (slot = before ∨ ∃ q, slot = some q ∧
          (s.sys.pta.sigusing (toUint16 submission.params.p0.a)).getLsbD q = false) := by
  cases step with
  | worker => exact .inr ⟨slot, task, rfl, .inl rfl⟩
  | submit =>
    cases task
    exact .inl ⟨rfl, rfl⟩
  | submitOp _ _ _ before op next phase args reply after was found taken =>
    cases task
    refine .inr ⟨before, was, rfl, ?_⟩
    obtain ⟨thread, isThread, obeys, -⟩ := tracked.submitting _ _ _ _ was
    rw [found] at isThread
    cases isThread
    have onPeriph := obeys.1
    cases op
    case allocateSigno p =>
      obtain ⟨rfl, -⟩ := onPeriph
      cases reply with
      | none => exact .inl rfl
      | some q =>
        obtain ⟨lowest, -⟩ := allocateSigno_some taken
        have unused := ((lowest?_eq_some_iff _ _).mp lowest).2.1
        rw [BitVec.getLsbD_not, Bool.and_eq_true, Bool.not_eq_true'] at unused
        exact .inr ⟨q, rfl, unused.2⟩
    all_goals exact .inl rfl
  | submitDone =>
    rw [submitted_task] at task
    cases task
  | setCallback p q handler' allocated reply after wasm =>
    split at task
    · cases wasm.symm.trans task
    · rw [register_task] at task
      cases task
  | pollSubsignal _ _ _ _ wasm | collect _ _ _ _ wasm | changeTable _ wasm =>
    cases wasm.symm.trans task
  | checkpoint => exact absurd task (scan_task _ _ _ _ _ _)
  | poll => exact absurd task (scanned_task _ _ _ _ _ _ _ _)
  | handlerDone wasm =>
    cases mode with
    | interp => cases wasm.symm.trans task
    | aot => exact absurd task (scan_task _ _ _ _ _ _)

theorem Typed.step (typed : Typed s) (tracked : Tracked s) (known : Known action)
    (step : RtStep mode s action s') : Typed s' := by
  intro serial submission handler slot task
  rcases RtStep.submitting tracked step task with ⟨started, -⟩ | ⟨before, was, -⟩
  · exact known _ _ started
  · exact typed _ _ _ _ was

theorem Fresh.step (fresh : Fresh s) (tracked : Tracked s) (step : RtStep mode s action s') :
    Fresh s' := by
  intro serial submission handler q task
  rcases RtStep.submitting tracked step task with
    ⟨-, started⟩ | ⟨before, was, owners, rfl | ⟨_, isSlot, unused⟩⟩
  · cases started
  · rw [owners]
    exact fresh _ _ _ _ was
  · cases isSlot
    rw [owners]
    by_contra owned
    rw [(tracked.inUse _ _ owned).2] at unused
    cases unused

/-! ## The queues -/

/-- The registrations of a peripheral whose handlers were not called yet. -/
def Adaptive.waitingNumbers (s : Adaptive) (signo : Nat) : Set Nat :=
  { number | ∃ subSigno, s.Waiting signo subSigno ∧ s.numbers signo subSigno = number }

/-- The queue of a peripheral lists its waiting registrations, and each record in it has the type
of its request. -/
structure Queued (s : Adaptive) : Prop where
  numbered : ∀ p q, s.rt.owners p q ≠ none → s.numbers p q < s.registrations
  distinct : ∀ p q p' q', s.rt.owners p q ≠ none → s.rt.owners p' q' ≠ none →
    s.numbers p q = s.numbers p' q' → p = p' ∧ q = q'
  handledBefore : ∀ number ∈ s.handled, number < s.registrations
  lists : ∀ p : Nat, p < 64 → Fifo.Lists TimedReq.number (s.ioQueues p) (s.waitingNumbers p)
  types : ∀ p : Nat, p < 64 → ∀ req ∈ s.ioQueues p, req.type.toNat < nReqType
  ownTypes : ∀ p : Nat, p < 64 → ∀ req ∈ s.ioQueues p, ∀ q, s.rt.owners p q ≠ none →
    s.numbers p q = req.number → s.reqTypes p q = req.type

namespace Queued

variable {s : Adaptive}

theorem init (inst : Instance) (stray : Int → List TimedReq) (behind : Nat → ExecTime) :
    Queued (Adaptive.init inst stray behind) := by
  have empty (p : Nat) (small : p < 64) :
      (Adaptive.init inst stray behind).ioQueues p = [] :=
    if_pos ⟨Int.natCast_nonneg p, Int.ofNat_lt.mpr small⟩
  refine ⟨fun _ _ owned => absurd rfl owned, fun _ _ _ _ owned => absurd rfl owned,
    fun _ member => (nomatch member), ?_, ?_, ?_⟩
  · intro p small
    rw [empty p small, show Adaptive.waitingNumbers _ p = ∅ from ?_]
    · exact .nil
    · exact Set.eq_empty_of_forall_notMem fun _ ⟨_, waiting, _⟩ => waiting.1 rfl
  · intro p small req member
    rw [empty p small] at member
    cases member
  · intro p small req member
    rw [empty p small] at member
    cases member

/-- A step that gives no slot a handler and takes none from a request that waits. -/
theorem withRt (queued : Queued s) {rt : Rt}
    (owned : ∀ p q, rt.owners p q ≠ none → s.rt.owners p q ≠ none)
    (kept : ∀ p q, s.Waiting p q → rt.owners p q ≠ none) : Queued (s.withRt rt) := by
  refine ⟨?_, ?_, queued.handledBefore, ?_, queued.types, ?_⟩
  · exact fun p q here => queued.numbered p q (owned p q here)
  · exact fun p q p' q' here there => queued.distinct p q p' q' (owned p q here) (owned p' q' there)
  · intro p small
    have same : (s.withRt rt).waitingNumbers p = s.waitingNumbers p := by
      ext number
      constructor
      · rintro ⟨q, ⟨here, notHandled⟩, isNumber⟩
        exact ⟨q, ⟨owned p q here, notHandled⟩, isNumber⟩
      · rintro ⟨q, waiting, isNumber⟩
        exact ⟨q, ⟨kept p q waiting, waiting.2⟩, isNumber⟩
    rw [same]
    exact queued.lists p small
  · exact fun p small req member q here => queued.ownTypes p small req member q (owned p q here)

theorem withRt_of_owners_eq (queued : Queued s) {rt : Rt} (same : rt.owners = s.rt.owners) :
    Queued (s.withRt rt) := by
  refine queued.withRt (fun p q => ?_) fun p q waiting => ?_
  · rw [same]
    exact id
  · rw [same]
    exact waiting.1

/-- A new request in a slot that has no handler. -/
theorem occupy (queued : Queued s) (free : s.rt.owners signo subSigno = none)
    (reqType : BitVec 32) :
    Queued (s.occupy signo subSigno reqType) := by
  refine { queued with ownTypes := ?_ }
  intro p small req member q owned isNumber
  have other : ¬(p = signo ∧ q = subSigno) := by
    rintro ⟨rfl, rfl⟩
    exact owned free
  refine (setSlot_of_ne _ _ other).trans ?_
  exact queued.ownTypes p small req member q owned isNumber

theorem number_lt (queued : Queued s) (small : p < 64) (member : req ∈ s.ioQueues p) :
    req.number < s.registrations := by
  obtain ⟨q, waiting, isNumber⟩ :=
    ((queued.lists p small).mem_iff _).mp (List.mem_map_of_mem member)
  rw [← isNumber]
  exact queued.numbered p q waiting.1

section Enqueue

variable {rt : Rt} {registration : Registration}

theorem owned_of_enqueue
    (owners : rt.owners = setSlot s.rt.owners signo subSigno (some registration)) {q : Nat}
    (other : ¬(p = signo ∧ q = subSigno)) (owned : rt.owners p q ≠ none) :
    s.rt.owners p q ≠ none := by
  rwa [owners, setSlot_of_ne _ _ other] at owned

theorem enqueue_numbers (p q : Nat) :
    ((s.enqueue true signo subSigno req).withRt rt).numbers p q =
      if p = signo ∧ q = subSigno then s.registrations else s.numbers p q :=
  setSlot_apply _ _ _ _ _ _

theorem enqueue_ioQueues (p : Nat) :
    ((s.enqueue true signo subSigno req).withRt rt).ioQueues p =
      if p = signo then s.ioQueues p ++ [req] else s.ioQueues p := by
  refine (update_apply s.ioQueues _ _ _).trans ?_
  by_cases here : p = signo
  · subst here
    rw [if_pos rfl, if_pos rfl]
  · rw [if_neg (mt Int.ofNat_inj.mp here), if_neg here]

/-- Afterwards the new registration waits too. -/
theorem waiting_enqueue_iff (queued : Queued s)
    (owners : rt.owners = setSlot s.rt.owners signo subSigno (some registration)) (p q : Nat) :
    ((s.enqueue true signo subSigno req).withRt rt).Waiting p q ↔
      (p = signo ∧ q = subSigno) ∨ s.Waiting p q := by
  unfold Adaptive.Waiting
  rw [enqueue_numbers, Adaptive.withRt, owners]
  by_cases here : p = signo ∧ q = subSigno
  · obtain ⟨rfl, rfl⟩ := here
    have new : s.registrations ∉ s.handled := fun member =>
      Nat.lt_irrefl _ (queued.handledBefore _ member)
    simp only [setSlot_self, and_self, if_true, true_or, iff_true]
    exact ⟨Option.some_ne_none _, new⟩
  · rw [setSlot_of_ne _ _ here, if_neg here]
    simp only [here, false_or]
    rfl

theorem waitingNumbers_enqueue_self (queued : Queued s) (free : s.rt.owners signo subSigno = none)
    (owners : rt.owners = setSlot s.rt.owners signo subSigno (some registration)) :
    ((s.enqueue true signo subSigno req).withRt rt).waitingNumbers signo =
      insert s.registrations (s.waitingNumbers signo) := by
  ext number
  rw [Set.mem_insert_iff]
  constructor
  · rintro ⟨q, waiting, isNumber⟩
    rw [enqueue_numbers] at isNumber
    split at isNumber
    · exact .inl isNumber.symm
    · rename_i other
      exact .inr ⟨q, ((waiting_enqueue_iff queued owners _ _).mp waiting).resolve_left other,
        isNumber⟩
  · rintro (rfl | ⟨q, waiting, isNumber⟩)
    · refine ⟨subSigno, (waiting_enqueue_iff queued owners _ _).mpr (.inl ⟨rfl, rfl⟩), ?_⟩
      rw [enqueue_numbers, if_pos ⟨rfl, rfl⟩]
    · refine ⟨q, (waiting_enqueue_iff queued owners _ _).mpr (.inr waiting), ?_⟩
      have other : ¬(signo = signo ∧ q = subSigno) := fun here => waiting.1 (here.2 ▸ free)
      rw [enqueue_numbers, if_neg other]
      exact isNumber

theorem waitingNumbers_enqueue_of_ne (queued : Queued s)
    (owners : rt.owners = setSlot s.rt.owners signo subSigno (some registration))
    (elsewhere : p ≠ signo) :
    ((s.enqueue true signo subSigno req).withRt rt).waitingNumbers p = s.waitingNumbers p := by
  have other (q : Nat) : ¬(p = signo ∧ q = subSigno) := fun here => elsewhere here.1
  ext number
  refine exists_congr fun q => and_congr ?_ ?_
  · rw [waiting_enqueue_iff queued owners, or_iff_right (other q)]
  · rw [enqueue_numbers, if_neg (other q)]

/-- The record of a new registration goes to the end of its queue. -/
theorem enqueue (queued : Queued s) (known : req.type.toNat < nReqType)
    (number : req.number = s.registrations) (ownType : s.reqTypes signo subSigno = req.type)
    (free : s.rt.owners signo subSigno = none)
    (owners : rt.owners = setSlot s.rt.owners signo subSigno (some registration)) :
    Queued ((s.enqueue true signo subSigno req).withRt rt) := by
  have older {p q : Nat} (other : ¬(p = signo ∧ q = subSigno)) (owned : rt.owners p q ≠ none) :
      s.numbers p q < s.registrations :=
    queued.numbered p q (owned_of_enqueue owners other owned)
  constructor
  case numbered =>
    intro p q owned
    rw [enqueue_numbers]
    split
    · exact Nat.lt_succ_self _
    · rename_i other
      exact Nat.lt_succ_of_lt (older other owned)
  case distinct =>
    intro p q p' q' owned owned' same
    rw [enqueue_numbers, enqueue_numbers] at same
    split at same
    · rename_i here
      split at same
      · rename_i there
        exact ⟨here.1.trans there.1.symm, here.2.trans there.2.symm⟩
      · rename_i there
        exact absurd same (Nat.ne_of_gt (older there owned'))
    · rename_i here
      split at same
      · exact absurd same (Nat.ne_of_lt (older here owned))
      · rename_i there
        exact queued.distinct p q p' q' (owned_of_enqueue owners here owned)
          (owned_of_enqueue owners there owned') same
  case handledBefore =>
    exact fun number member => Nat.lt_succ_of_lt (queued.handledBefore number member)
  case lists =>
    intro p small
    rw [enqueue_ioQueues]
    by_cases here : p = signo
    · subst here
      rw [waitingNumbers_enqueue_self queued free owners, if_pos rfl, ← number]
      refine (queued.lists p small).push ?_
      rintro _ ⟨q, waiting, rfl⟩
      rw [number]
      exact queued.numbered p q waiting.1
    · rw [waitingNumbers_enqueue_of_ne queued owners here, if_neg here]
      exact queued.lists p small
  case types =>
    intro p small other member
    rw [enqueue_ioQueues] at member
    split at member
    · rcases List.mem_append.mp member with member | member
      · exact queued.types p small other member
      · rw [List.mem_singleton.mp member]
        exact known
    · exact queued.types p small other member
  case ownTypes =>
    intro p small other member q owned isNumber
    rw [enqueue_numbers] at isNumber
    have before (member : other ∈ s.ioQueues p) : s.reqTypes p q = other.type := by
      split at isNumber
      · exact absurd isNumber (Nat.ne_of_gt (queued.number_lt small member))
      · rename_i elsewhere
        exact queued.ownTypes p small other member q (owned_of_enqueue owners elsewhere owned)
          isNumber
    rw [enqueue_ioQueues] at member
    split at member
    · rcases List.mem_append.mp member with member | member
      · exact before member
      · obtain rfl := List.mem_singleton.mp member
        split at isNumber
        · rename_i here
          obtain ⟨rfl, rfl⟩ := here
          exact ownType
        · rename_i elsewhere
          exact absurd (isNumber.trans number) (Nat.ne_of_lt (older elsewhere owned))
    · exact before member

end Enqueue

/-- A registration for a slot that has no handler. -/
theorem register (queued : Queued s) (known : reqType.toNat < nReqType)
    (free : s.rt.owners signo subSigno = none) (mode : Mode) (allocated : Bool) (now : BitVec 64) :
    Queued ((s.occupy signo subSigno reqType).register mode allocated true now signo subSigno
      handler reqType len) := by
  have occupied := queued.occupy free reqType
  unfold Adaptive.register
  split
  · exact occupied.withRt_of_owners_eq rfl
  · rename_i accepted
    obtain ⟨registration, owners⟩ : ∃ registration,
        (s.rt.register mode allocated signo subSigno handler).owners =
          setSlot s.rt.owners signo subSigno (some registration) := by
      simp only [not_or] at accepted
      unfold Rt.register Globals.registerHandler
      rw [if_neg (not_or.mpr ⟨accepted.1, accepted.2.1⟩), if_neg accepted.2.2.1]
      exact ⟨_, rfl⟩
    have enqueued (guess : BitVec 64) : Queued (((s.occupy signo subSigno reqType).enqueue true
        signo subSigno ⟨reqType, now, guess, len, s.registrations⟩).withRt _) :=
      occupied.enqueue known rfl (setSlot_self _ _ _ _) free owners
    exact { enqueued ((s.execTimeTable reqType.toNat).guessEnd now len) with }

section Dequeue

theorem owner_of_waiting (waiting : s.Waiting signo subSigno) :
    s.owner signo subSigno = some (s.numbers signo subSigno) := by
  obtain ⟨registration, owned⟩ := Option.ne_none_iff_exists'.mp waiting.1
  rw [Adaptive.owner, owned]
  rfl

/-- The record of the oldest waiting request is at the front. -/
theorem front (queued : Queued s) (small : signo < 64) (waiting : s.Waiting signo subSigno)
    (oldest : ∀ other, s.Waiting signo other →
      s.numbers signo subSigno ≤ s.numbers signo other) :
    ∃ req rest, s.ioQueues signo = req :: rest ∧ req.number = s.numbers signo subSigno ∧
      Fifo.Lists TimedReq.number rest (s.waitingNumbers signo \ {s.numbers signo subSigno}) := by
  refine (queued.lists signo small).front ⟨subSigno, waiting, rfl⟩ ?_
  rintro _ ⟨other, alsoWaiting, rfl⟩
  exact oldest other alsoWaiting

variable (model : FloatModel) (now : BitVec 64) (stack : TimedReq)

theorem waiting_dequeue_iff (waiting : s.Waiting signo subSigno) (p q : Nat) :
    (s.dequeue model now stack signo subSigno).Waiting p q ↔
      s.Waiting p q ∧ s.numbers p q ≠ s.numbers signo subSigno := by
  unfold Adaptive.Waiting Adaptive.dequeue
  rw [owner_of_waiting waiting]
  simp only [Option.toList_some, List.cons_append, List.nil_append, List.mem_cons, not_or]
  rw [and_assoc, and_comm (a := s.numbers p q ∉ s.handled)]

theorem waitingNumbers_dequeue (waiting : s.Waiting signo subSigno) (p : Nat) :
    (s.dequeue model now stack signo subSigno).waitingNumbers p =
      s.waitingNumbers p \ {s.numbers signo subSigno} := by
  ext number
  rw [Set.mem_sdiff, Set.mem_singleton_iff]
  constructor
  · rintro ⟨q, still, rfl⟩
    obtain ⟨before, other⟩ := (waiting_dequeue_iff model now stack waiting p q).mp still
    exact ⟨⟨q, before, rfl⟩, other⟩
  · rintro ⟨⟨q, before, rfl⟩, other⟩
    exact ⟨q, (waiting_dequeue_iff model now stack waiting p q).mpr ⟨before, other⟩, rfl⟩

/-- A new guess changes neither the types nor the numbers. -/
theorem restart_map_number (table : Nat → ExecTime) (queue : List TimedReq) :
    (Adaptive.restart table now queue).map TimedReq.number = queue.map TimedReq.number := by
  cases queue <;> rfl

theorem mem_restart {table : Nat → ExecTime} {queue : List TimedReq}
    (member : req ∈ Adaptive.restart table now queue) :
    ∃ before ∈ queue, before.type = req.type ∧ before.number = req.number := by
  cases queue with
  | nil => cases member
  | cons front rest =>
    rcases List.mem_cons.mp member with rfl | member
    · exact ⟨front, List.mem_cons_self, rfl, rfl⟩
    · exact ⟨req, List.mem_cons_of_mem _ member, rfl, rfl⟩

theorem dequeue_ioQueues_self :
    (s.dequeue model now stack signo subSigno).ioQueues signo =
      Adaptive.restart (s.dequeue model now stack signo subSigno).execTimeTable now
        (s.ioQueues signo).tail :=
  update_self ..

theorem dequeue_ioQueues_of_ne (elsewhere : p ≠ signo) :
    (s.dequeue model now stack signo subSigno).ioQueues p = s.ioQueues p :=
  update_of_ne (mt Int.ofNat_inj.mp elsewhere) _ _

theorem mem_dequeue (member : req ∈ (s.dequeue model now stack signo subSigno).ioQueues p) :
    ∃ before ∈ s.ioQueues p, before.type = req.type ∧ before.number = req.number := by
  by_cases here : p = signo
  · subst here
    rw [dequeue_ioQueues_self] at member
    obtain ⟨before, inTail, same⟩ := mem_restart now member
    exact ⟨before, List.mem_of_mem_tail inTail, same⟩
  · rw [dequeue_ioQueues_of_ne _ _ _ here] at member
    exact ⟨req, member, rfl, rfl⟩

/-- The dispatch of the oldest waiting request takes its record. -/
theorem dequeue (queued : Queued s) (small : signo < 64) (waiting : s.Waiting signo subSigno)
    (oldest : ∀ other, s.Waiting signo other →
      s.numbers signo subSigno ≤ s.numbers signo other) :
    Queued (s.dequeue model now stack signo subSigno) := by
  refine ⟨queued.numbered, queued.distinct, ?_, ?_, ?_, ?_⟩
  · intro number member
    rw [Adaptive.dequeue, owner_of_waiting waiting] at member
    rcases List.mem_cons.mp member with rfl | member
    · exact queued.numbered signo subSigno waiting.1
    · exact queued.handledBefore number member
  · intro p inRange
    rw [waitingNumbers_dequeue model now stack waiting]
    by_cases here : p = signo
    · subst here
      obtain ⟨req, rest, queue, -, others⟩ := queued.front small waiting oldest
      rw [dequeue_ioQueues_self, queue]
      exact others.of_map_eq (restart_map_number now _ rest)
    · rw [dequeue_ioQueues_of_ne _ _ _ here, Set.sdiff_singleton_eq_self]
      · exact queued.lists p inRange
      · -- another peripheral has other registrations
        rintro ⟨q, other, same⟩
        exact here (queued.distinct p q signo subSigno other.1 waiting.1 same).1
  · intro p inRange req member
    obtain ⟨before, was, type, -⟩ := mem_dequeue model now stack member
    rw [← type]
    exact queued.types p inRange before was
  · intro p inRange req member q owned isNumber
    obtain ⟨before, was, type, number⟩ := mem_dequeue model now stack member
    rw [← type]
    exact queued.ownTypes p inRange before was q owned (isNumber.trans number.symm)

end Dequeue

end Queued

end TrustWasm.Runtime
