import TrustWasm.IoHelper.Shape

/-!
# What each thread does with its slot

A submission allocates a slot once and then enqueues a request for that slot; a
worker makes the slot of its request ready once; a collection checks its slot
once and releases it at most once, after the check has succeeded.  Apart from
this the three only call operations that leave the slots alone.
-/

namespace TrustWasm.IoHelper

open TrustWasm.Lib TrustWasm.Lib.Mask TrustWasm.Tee TrustWasm.Drivers

/-! ## Submissions -/

/-- What the submission `serial` may do in each phase. -/
def submitGuard (serial : Nat) (phase : SubmitPhase) : HelperOp → Prop
  | .allocateSigno periphNo => phase = .fresh ∧ periphNo < nPeriph
  | .enqueue periphNo req => phase = .held periphNo req.signo ∧ req.ticket.serial = serial
  | .setReadySignal .. | .releaseSigno .. => False
  | _ => phase ≠ .enqueued

def submitSlots (serial : Nat) : Semantics Helper SubmitPhase :=
  Program.tracker (submitGuard serial) SubmitPhase.after

variable {op : HelperOp} {phase : SubmitPhase} {serial periphNo : Nat}

theorem submitGuard_of_isLocal (serial : Nat) (notDone : phase ≠ .enqueued) (isLocal : op.IsLocal) :
    submitGuard serial phase op := by
  cases op
  case setReadySignal | allocateSigno | releaseSigno | enqueue => exact isLocal.elim
  all_goals exact notDone

/-- A submission does nothing more once its request is enqueued. -/
theorem ne_enqueued_of_submitGuard (allowed : submitGuard serial phase op) : phase ≠ .enqueued := by
  cases op
  case setReadySignal | releaseSigno => exact allowed.elim
  case allocateSigno | enqueue =>
    rw [allowed.1]
    simp
  all_goals exact allowed

theorem SubmitPhase.after_of_isLocal (phase : SubmitPhase) (isLocal : op.IsLocal)
    (reply : Helper.Reply op) : phase.after op reply = phase := by
  cases op
  case allocateSigno | enqueue => exact isLocal.elim
  all_goals rfl

/-- A submission's operation is local, its allocation or its enqueue. -/
theorem submitGuard_cases (allowed : submitGuard serial phase op) :
    op.IsLocal ∨ (∃ p, op = .allocateSigno p ∧ phase = .fresh ∧ p < nPeriph) ∨
      ∃ p req, op = .enqueue p req ∧ phase = .held p req.signo ∧ req.ticket.serial = serial := by
  cases op
  case allocateSigno p => exact .inr (.inl ⟨p, rfl, allowed.1, allowed.2⟩)
  case enqueue p req => exact .inr (.inr ⟨p, req, rfl, allowed.1, allowed.2⟩)
  case setReadySignal | releaseSigno => exact allowed.elim
  all_goals exact .inl trivial

theorem submitSlots_of_local {α : Type} {program : Program Helper α} (uses : Local program)
    (serial : Nat) (notDone : phase ≠ .enqueued) :
    program.Obeys (submitSlots serial) (fun _ after => after = phase) phase := by
  apply uses.obeys
  · intro op isLocal
    exact submitGuard_of_isLocal serial notDone isLocal
  · intro op reply after isLocal step
    exact step.trans (phase.after_of_isLocal isLocal reply)

theorem submitReq_obeys (inRange : periphNo < nPeriph) (params : Params)
    {copy : Program Helper Unit} (copyLocal : Local copy) {req : Nat → IoReq}
    (signos : ∀ signo, (req signo).signo = signo)
    (serials : ∀ signo, (req signo).ticket.serial = serial) :
    (submitReq periphNo params copy req).Obeys (submitSlots serial) (fun _ _ => True) .fresh := by
  refine .tracker_bind ⟨rfl, inRange⟩ fun reply => ?_
  cases reply with
  | none => trivial
  | some signo =>
    have copies : copy.Obeys (submitSlots serial) (fun _ after => after = .held periphNo signo)
        (.held periphNo signo) :=
      submitSlots_of_local copyLocal serial (by simp)
    refine Program.Obeys.bind copies ?_
    rintro - - rfl
    refine .tracker_bind ⟨?_, serials signo⟩ fun res => trivial
    rw [signos signo]

theorem Submits.obeys {p : Nat} {type : IoReqType} {args : List Ptr}
    {program : Program Helper CommandResult} (submits : Submits serial p type args program) :
    program.Obeys (submitSlots serial) (fun _ _ => True) .fresh := by
  induction submits with
  | rejected => trivial
  | alloc _ ih =>
    refine .tracker_bind (by simp [submitGuard]) fun buf => ?_
    split
    · trivial
    · rename_i notNull
      exact ih buf notNull
  | request inRange copies signos tickets _ =>
    exact submitReq_obeys inRange _ (copies.mono fun _ => HelperOp.IsCopy.isLocal) signos
      fun q => by rw [tickets]

/-- Every submission command keeps to the protocol. -/
theorem Submission.program_obeys (submission : Submission) (serial : Nat) :
    (submission.program serial).Obeys (submitSlots serial) (fun _ _ => True) .fresh :=
  (submission.submits serial).obeys

/-! ## Workers -/

/-- What the worker of a peripheral may do before and after it has made the slot
`signo` ready. -/
def loopGuard (periphNo signo : Nat) (served : Bool) : HelperOp → Prop
  | .setReadySignal p q => served = false ∧ p = periphNo ∧ q = signo
  | .allocateSigno .. | .releaseSigno .. | .enqueue .. => False
  | _ => served = false

def loopSlots (periphNo signo : Nat) : Semantics Helper Bool :=
  Program.tracker (loopGuard periphNo signo) servedAfter

/-- A worker's operation is local or makes the slot of its request ready. -/
theorem loopGuard_cases {signo : Nat} {served : Bool}
    (allowed : loopGuard periphNo signo served op) :
    served = false ∧ ((op.IsLocal ∧ ∀ reply, servedAfter served op reply = served) ∨
      op = .setReadySignal periphNo signo) := by
  cases op
  case setReadySignal p q =>
    obtain ⟨notServed, rfl, rfl⟩ := allowed
    exact ⟨notServed, .inr rfl⟩
  case allocateSigno | enqueue | releaseSigno => exact allowed.elim
  all_goals exact ⟨allowed, .inl ⟨trivial, fun _ => rfl⟩⟩

theorem loopSlots_of_local {α : Type} {program : Program Helper α} (uses : Local program)
    (periphNo signo : Nat) :
    program.Obeys (loopSlots periphNo signo) (fun _ after => after = false) false := by
  apply uses.obeys
  · intro op isLocal
    cases op
    case setReadySignal | allocateSigno | releaseSigno | enqueue => exact isLocal.elim
    all_goals exact rfl
  · intro op reply after isLocal step
    cases op
    case setReadySignal => exact isLocal.elim
    all_goals exact step

/-- A worker makes the slot of its request ready once, at the end. -/
theorem serve_obeys (req : IoReq) (periphNo : Nat) :
    (serve req periphNo).Obeys (loopSlots periphNo req.signo) (fun _ served => served = true)
      false := by
  refine (loopSlots_of_local (handleReq_local req periphNo) _ _).bind_at fun _ => ?_
  exact ⟨⟨rfl, rfl, rfl⟩, fun _ _ step => step⟩

/-! ## Collections -/

/-- What a collection on a slot may do in each phase. -/
def getGuard (periphNo subSigno : Nat) (phase : GetPhase) : HelperOp → Prop
  | .isReadySignal p q => phase = .unchecked ∧ p = periphNo ∧ q = subSigno
  | .releaseSigno p q => phase = .holding ∧ p = periphNo ∧ q = subSigno
  | .setReadySignal .. | .allocateSigno .. | .enqueue .. => False
  | _ => True

def getSlots (periphNo subSigno : Nat) : Semantics Helper GetPhase :=
  Program.tracker (getGuard periphNo subSigno) GetPhase.after

/-- A collection's operation is local, its ready check or its release. -/
theorem getGuard_cases {subSigno : Nat} {phase : GetPhase}
    (allowed : getGuard periphNo subSigno phase op) :
    (op.IsLocal ∧ (∀ p q, op ≠ .isReadySignal p q) ∧ ∀ reply, phase.after op reply = phase) ∨
      (op = .isReadySignal periphNo subSigno ∧ phase = .unchecked) ∨
      (op = .releaseSigno periphNo subSigno ∧ phase = .holding) := by
  cases op
  case isReadySignal p q =>
    obtain ⟨unchecked, rfl, rfl⟩ := allowed
    exact .inr (.inl ⟨rfl, unchecked⟩)
  case releaseSigno p q =>
    obtain ⟨holding, rfl, rfl⟩ := allowed
    exact .inr (.inr ⟨rfl, holding⟩)
  case setReadySignal | allocateSigno | enqueue => exact allowed.elim
  all_goals exact .inl ⟨trivial, by simp, fun _ => rfl⟩

theorem loadFrom_getSlots (ptr : Ptr) (count offset periphNo subSigno : Nat) (phase : GetPhase) :
    (loadFrom ptr count offset).Obeys (getSlots periphNo subSigno)
      (fun _ after => after = phase) phase := by
  induction count generalizing offset with
  | zero => exact rfl
  | succ count ih =>
    refine .tracker_bind trivial fun byte => ?_
    refine (ih (offset + 1)).bind_at fun rest => ?_
    exact rfl

section Collection

variable (params : Params) (periphNo subSigno : Nat)

/-- A collection that succeeds has released its slot. -/
def ReleasedOnSuccess (reply : CommandResult) (phase : GetPhase) : Prop :=
  reply.res = teeSuccess → phase = .released

theorem releasedOnSuccess_of_error {code : TeeResult} (failed : code ≠ teeSuccess)
    (phase : GetPhase) : ReleasedOnSuccess (.error code params) phase :=
  fun success => absurd success failed

theorem takeData_obeys :
    (takeData params periphNo subSigno).Obeys (getSlots periphNo subSigno) ReleasedOnSuccess
      .holding := by
  refine .tracker_bind trivial fun buf => ?_
  refine .tracker_bind trivial fun len => ?_
  refine (loadFrom_getSlots buf len.toNat 0 _ _ .holding).bind_at fun out => ?_
  refine .tracker_bind trivial fun buf => ?_
  refine .tracker_bind trivial fun _ => ?_
  refine .tracker_bind trivial fun ret => ?_
  refine .tracker_bind trivial fun times => ?_
  refine .tracker_bind trivial fun len => ?_
  refine .tracker_bind trivial fun _ => ?_
  refine .tracker_bind trivial fun _ => ?_
  refine .tracker_bind trivial fun _ => ?_
  exact .tracker_bind ⟨rfl, rfl, rfl⟩ fun _ _ => rfl

theorem dataBufMissing_obeys :
    (dataBufMissing periphNo subSigno).Obeys (getSlots periphNo subSigno)
      (fun _ after => after = .holding) .holding := by
  refine .tracker_bind trivial fun len => ?_
  split
  · exact .tracker_bind trivial fun buf => rfl
  · exact rfl

theorem getReadyData_obeys :
    (getReadyData params periphNo subSigno).Obeys (getSlots periphNo subSigno)
      ReleasedOnSuccess .holding := by
  have released (reply : CommandResult) :
      (do releaseSigno periphNo subSigno; return reply : Program Helper CommandResult).Obeys
        (getSlots periphNo subSigno) ReleasedOnSuccess .holding :=
    Program.Obeys.tracker_bind ⟨rfl, rfl, rfl⟩ fun _ _ => rfl
  refine .tracker_bind trivial fun ret => ?_
  dsimp only
  split
  · exact .tracker_bind trivial fun ret => released _
  · refine .tracker_bind trivial fun len => ?_
    split
    · refine .tracker_bind trivial fun len success => ?_
      exact absurd success (show teeErrorShortBuffer ≠ teeSuccess by decide)
    · refine (dataBufMissing_obeys periphNo subSigno).bind_at fun missing => ?_
      split
      · exact released _
      · refine .tracker_bind trivial fun len => ?_
        split
        · exact .tracker_bind trivial fun ret => released _
        · exact takeData_obeys params periphNo subSigno

/-- A collection checks and releases the slot its parameters name. -/
theorem getData_obeys (paramTypes : BitVec 32) :
    (getData paramTypes params).Obeys (getSlots (slotOf params).1 (slotOf params).2)
      ReleasedOnSuccess .unchecked := by
  unfold getData
  split
  · exact releasedOnSuccess_of_error params (by decide) _
  · dsimp only
    split
    · exact releasedOnSuccess_of_error params (by decide) _
    · refine .tracker_bind ⟨rfl, rfl, rfl⟩ fun ready => ?_
      cases ready with
      | false => exact releasedOnSuccess_of_error params (by decide) _
      | true => exact getReadyData_obeys params _ _

end Collection

end TrustWasm.IoHelper
