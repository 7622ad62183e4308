import TrustWasm.IoHelper.System

/-!
# Submission as a transaction

A submission allocates its argument buffers, a slot and a queue node one after
the other and undoes none of them when a later one fails.  It is all or nothing
exactly when it is refused before it has acquired anything, or when it acquires
everything.
-/

namespace TrustWasm.IoHelper

open TrustWasm.Lib TrustWasm.Lib.Mask TrustWasm.Tee

/-- The record of an execution: whether each allocation of a buffer or of a queue
node succeeded. -/
def attempts : (op : HelperOp) → Helper.Reply op → List Bool
  | .malloc _, (ptr : Ptr) => [ptr != null]
  | .enqueue _ _, (res : TeeResult) => [res == teeSuccess]
  | _, _ => []

/-- Slots, counts, queues and the set of live blocks are as before. -/
structure SameResources (s s' : Pta) : Prop where
  sigusing : s'.sigusing = s.sigusing
  reqNums : s'.reqNums = s.reqNums
  reqQueues : s'.reqQueues = s.reqQueues
  live : ∀ ptr, s'.heap.Live ptr ↔ s.heap.Live ptr

theorem SameResources.refl (s : Pta) : SameResources s s :=
  ⟨rfl, rfl, rfl, fun _ => Iff.rfl⟩

/-- Exactly one request was added, at the end of the queue of the peripheral and
for the slot the command answers with. -/
def Enqueues (p : Nat) (s : Pta) (reply : CommandResult) (s' : Pta) : Prop :=
  ∃ node, s'.reqQueues = Function.update s.reqQueues p (s.reqQueues p ++ [node]) ∧
    reply.params.p0.a = BitVec.ofNat 32 node.req.signo

/-- Success with one new request, or an error that leaves everything as it was. -/
def AllOrNothing (p : Nat) (s : Pta) (reply : CommandResult) (s' : Pta) : Prop :=
  (reply.res = teeSuccess ∧ Enqueues p s reply s') ∨
    (reply.res ≠ teeSuccess ∧ SameResources s s')

/-- Every slot of the peripheral is in use. -/
def Pta.Full (s : Pta) (p : Nat) : Prop :=
  s.sigusing p = BitVec.allOnes 64

namespace Submission

/-- The peripheral of the submission. -/
def periphNo (submission : Submission) : Nat :=
  toUint16 submission.params.p0.a

/-- The parameter types the command asks for. -/
def wantedTypes (submission : Submission) : BitVec 32 :=
  match submission.cmd with
  | .readReq => readReqTypes
  | .readReqWithBuffer | .writeReq => bufferReqTypes
  | .writeReqWithBuffer => twoBufferReqTypes

/-- The command accepts its parameters. -/
def Accepted (submission : Submission) : Prop :=
  submission.paramTypes = submission.wantedTypes ∧ submission.params.p0.a.toNat < nPeriph

/-- The number of argument buffers the command allocates. -/
def buffers (submission : Submission) : Nat :=
  match submission.cmd with
  | .readReq => 0
  | .readReqWithBuffer => 1
  | .writeReq => if submission.params.p1.size = 0 then 0 else 1
  | .writeReqWithBuffer => 2

/-- The command is refused before it has acquired anything, or acquires all it
asks for. -/
def Clean (submission : Submission) (s : Pta) (record : List Bool) : Prop :=
  ¬submission.Accepted ∨
    (0 < submission.buffers ∧ record.head? = some false) ∨
    (submission.buffers = 0 ∧ s.Full submission.periphNo) ∨
    (¬s.Full submission.periphNo ∧ ∀ granted ∈ record, granted = true)

end Submission

/-! ## From the slot allocation on -/

/-- How a submission ends once it has its argument buffers. -/
inductive SlotOutcome (p : Nat) (s : Pta) (record : List Bool) :
    CommandResult → Pta × List Bool → Prop where
  | busy (reply : CommandResult) (full : s.Full p) (failed : reply.res ≠ teeSuccess) :
      SlotOutcome p s record reply (s, record)
  | dropped (reply : CommandResult) (after : Pta) (free : ¬s.Full p)
      (succeeded : reply.res = teeSuccess) (same : after.reqQueues = s.reqQueues) :
      SlotOutcome p s record reply (after, record ++ [false])
  | queued (reply : CommandResult) (after : Pta) (free : ¬s.Full p)
      (succeeded : reply.res = teeSuccess) (enqueues : Enqueues p s reply after) :
      SlotOutcome p s record reply (after, record ++ [true])

variable {s : Pta} {record : List Bool} {code : TeeResult}

section Rules

variable {α : Type} {post : α → Pta × List Bool → Prop}

theorem attempt_bind {op : HelperOp} {rest : Helper.Reply op → Program Helper α}
    (second : ∀ reply after, helperStep s op reply after →
      (rest reply).Obeys (Program.recorded helper attempts) post
        (after, record ++ attempts op reply)) :
    (Program.perform (I := Helper) op >>= rest).Obeys (Program.recorded helper attempts) post
      (s, record) :=
  Program.Obeys.recorded_bind trivial second

/-- What a copy keeps. -/
def Copies (copy : Program Helper Unit) : Prop :=
  ∀ s record, copy.Obeys (Program.recorded helper attempts)
    (fun _ after => after.1.reqQueues = s.reqQueues ∧ after.2 = record) (s, record)

theorem pure_copies : Copies (pure ()) :=
  fun _ _ => ⟨rfl, rfl⟩

theorem copyIn_copies (dst src : Ptr) (count offset : Nat) :
    Copies (copyIn dst src count offset) := by
  induction count generalizing offset with
  | zero => exact fun s record => ⟨rfl, rfl⟩
  | succ count ih =>
    intro s record
    refine attempt_bind ?_
    rintro byte s rfl
    refine attempt_bind ?_
    rintro _ _ rfl
    have rest := ih (offset + 1) { s with heap := s.heap.store dst offset byte } record
    simpa [attempts] using rest

theorem Copies.bind {first second : Program Helper Unit} (one : Copies first)
    (two : Copies second) : Copies (first >>= fun _ => second) := by
  intro s record
  refine (one s record).bind ?_
  rintro _ ⟨after, record⟩ ⟨same, rfl⟩
  refine (two after record).mono ?_
  rintro _ ⟨last, _⟩ ⟨same', rfl⟩
  exact ⟨same'.trans same, rfl⟩

end Rules

theorem submitReq_outcome (p : Nat) (params : Params) {copy : Program Helper Unit}
    (copies : Copies copy) (req : Nat → IoReq) (numbered : ∀ signo, (req signo).signo = signo)
    (s : Pta) (record : List Bool) :
    (submitReq p params copy req).Obeys (Program.recorded helper attempts)
      (SlotOutcome p s record) (s, record) := by
  refine attempt_bind ?_
  rintro (signo : Option Nat) after allocated
  rw [show record ++ attempts (.allocateSigno p) signo = record from List.append_nil record]
  change s.allocateSigno p = (signo, after) at allocated
  unfold Pta.allocateSigno at allocated
  split at allocated
  · rename_i full
    cases allocated
    exact .busy _ full (show teeErrorBusy ≠ teeSuccess by decide)
  · rename_i free
    cases allocated
    refine (copies _ record).bind ?_
    rintro _ ⟨copied, record⟩ ⟨same, rfl⟩
    refine attempt_bind ?_
    rintro (res : TeeResult) last step
    rcases step with ⟨rfl, rfl⟩ | ⟨rfl, addr, junk, -, -, rfl⟩
    · exact .dropped _ _ free rfl same
    · refine .queued _ _ free rfl ⟨⟨addr, req (ffs (~~~s.sigusing p) - 1)⟩, ?_, ?_⟩
      · rw [Pta.enqueueNode, same]
        rfl
      · rw [numbered]
        exact TeeParam.setA_a _ _

/-- A submission that has acquired `count` argument buffers is all or nothing
when it acquires the rest as well, or when it has none to leave behind. -/
theorem SlotOutcome.allOrNothing_iff {p count : Nat} {held : Pta} {reply : CommandResult}
    {after : Pta × List Bool} (outcome : SlotOutcome p held record reply after)
    (sigusing : held.sigusing = s.sigusing) (reqQueues : held.reqQueues = s.reqQueues)
    (granted : ∀ ok ∈ record, ok = true) (leaves : SameResources s held ↔ count = 0) :
    AllOrNothing p s reply after.1 ↔
      (count = 0 ∧ s.Full p) ∨ (¬s.Full p ∧ ∀ ok ∈ after.2, ok = true) := by
  have fullIff : held.Full p ↔ s.Full p := by rw [Pta.Full, Pta.Full, sigusing]
  cases outcome with
  | busy full failed =>
    have isFull := fullIff.mp full
    simp only [AllOrNothing, failed, false_and, ne_eq, not_false_eq_true, true_and, false_or,
      isFull, and_true, not_true_eq_false, or_false]
    exact leaves
  | dropped after free succeeded same =>
    have notFull := mt fullIff.mpr free
    simp only [AllOrNothing, succeeded, true_and, ne_eq, not_true_eq_false, false_and, or_false,
      notFull, and_false, not_false_eq_true, false_or]
    constructor
    · rintro ⟨node, enqueued, -⟩
      have lengths := congrArg (fun queues => (queues p).length) enqueued
      rw [same, reqQueues] at lengths
      simp at lengths
    · intro all
      cases all false (by simp)
  | queued after free succeeded enqueues =>
    have notFull := mt fullIff.mpr free
    have enqueued : Enqueues p s reply after := by
      unfold Enqueues at enqueues ⊢
      rw [← reqQueues]
      exact enqueues
    refine ⟨fun _ => .inr ⟨notFull, ?_⟩, fun _ => .inl ⟨succeeded, enqueued⟩⟩
    intro ok member
    rcases List.mem_append.mp member with old | new
    · exact granted ok old
    · exact List.mem_singleton.mp new

theorem SlotOutcome.record_eq {p : Nat} {reply : CommandResult} {after : Pta × List Bool}
    (outcome : SlotOutcome p s record reply after) :
    ∃ last, after.2 = record ++ last := by
  cases outcome with
  | busy full failed => exact ⟨[], (List.append_nil record).symm⟩
  | dropped after free succeeded same => exact ⟨[false], rfl⟩
  | queued after free succeeded enqueues => exact ⟨[true], rfl⟩

/-! ## The commands -/

section Commands

variable {submission : Submission} {held : Pta}

/-- The submission is all or nothing exactly when it is clean. -/
def Submission.Judged (submission : Submission) (s : Pta) (reply : CommandResult)
    (after : Pta × List Bool) : Prop :=
  AllOrNothing submission.periphNo s reply after.1 ↔ submission.Clean s after.2

theorem judged_of_rejected (rejected : ¬submission.Accepted) (failed : code ≠ teeSuccess)
    (params : Params) :
    submission.Judged s (.error code params) (s, []) :=
  ⟨fun _ => .inl rejected, fun _ => .inr ⟨failed, .refl s⟩⟩

/-- The first buffer was refused. -/
theorem judged_of_refused (buffers : 0 < submission.buffers) (failed : code ≠ teeSuccess)
    (params : Params) :
    submission.Judged s (.error code params) (s, [false]) :=
  ⟨fun _ => .inr (.inl ⟨buffers, rfl⟩), fun _ => .inr ⟨failed, .refl s⟩⟩

/-- A new block is left behind. -/
theorem not_sameResources {ptr : Ptr} (fresh : s.heap.blocks ptr = none)
    (live : held.heap.Live ptr) : ¬SameResources s held := by
  intro same
  exact (same.live ptr).mp live fresh

/-- From the slot allocation on, with all argument buffers in hand. -/
theorem submitReq_judged (accepted : submission.Accepted) {copy : Program Helper Unit}
    (copies : Copies copy) {req : Nat → IoReq} (numbered : ∀ signo, (req signo).signo = signo)
    (sigusing : held.sigusing = s.sigusing) (reqQueues : held.reqQueues = s.reqQueues)
    (granted : ∀ ok ∈ record, ok = true) (count : record.length = submission.buffers)
    (leaves : SameResources s held ↔ submission.buffers = 0) (params : Params) :
    (submitReq submission.periphNo params copy req).Obeys (Program.recorded helper attempts)
      (submission.Judged s) (held, record) := by
  refine (submitReq_outcome _ params copies req numbered held record).mono ?_
  intro reply after outcome
  rw [Submission.Judged, outcome.allOrNothing_iff sigusing reqQueues granted leaves,
    Submission.Clean]
  have notRefused : ¬(0 < submission.buffers ∧ after.2.head? = some false) := by
    rintro ⟨buffers, refused⟩
    obtain ⟨last, same⟩ := outcome.record_eq
    cases record with
    | nil =>
      simp only [List.length_nil] at count
      omega
    | cons first rest =>
      rw [same, List.cons_append, List.head?_cons] at refused
      cases refused
      cases granted false List.mem_cons_self
  simp only [accepted, not_true_eq_false, false_or, notRefused]

/-- The two checks every command starts with. -/
theorem judged_of_checks {body : Program Helper CommandResult}
    (checked : submission.Accepted → body.Obeys (Program.recorded helper attempts)
      (submission.Judged s) (s, [])) :
    (if submission.paramTypes ≠ submission.wantedTypes then
        return .error teeErrorBadParameters submission.params
      else if nPeriph ≤ submission.params.p0.a.toNat then
        return .error teeErrorBadParameters submission.params
      else body).Obeys (Program.recorded helper attempts) (submission.Judged s) (s, []) := by
  split
  · rename_i types
    exact judged_of_rejected (fun accepted => types accepted.1) (by decide) _
  · rename_i types
    split
    · rename_i range
      exact judged_of_rejected (fun accepted => Nat.not_le.mpr accepted.2 range) (by decide) _
    · rename_i range
      exact checked ⟨not_not.mp types, Nat.not_le.mp range⟩

theorem readReq_judged (cmd : submission.cmd = .readReq) (serial : Nat) :
    (submission.program serial).Obeys (Program.recorded helper attempts) (submission.Judged s)
      (s, []) := by
  have buffers : submission.buffers = 0 := by rw [Submission.buffers, cmd]
  have runs : submission.program serial =
      readReq serial submission.paramTypes submission.params := by rw [Submission.program, cmd]
  have types : submission.wantedTypes = readReqTypes := by rw [Submission.wantedTypes, cmd]
  rw [runs, readReq, ← types]
  refine judged_of_checks fun accepted => ?_
  refine submitReq_judged accepted pure_copies (fun _ => rfl) rfl rfl ?_ ?_ ?_ _
  · simp
  · exact buffers.symm
  · exact ⟨fun _ => buffers, fun _ => .refl s⟩

/-- Allocate a buffer and go on with it. -/
theorem malloc_judged {size : Nat} {rest : Ptr → Program Helper CommandResult}
    (refused : (rest null).Obeys (Program.recorded helper attempts) (submission.Judged s)
      (held, record ++ [false]))
    (granted : ∀ ptr junk, ptr ≠ null → held.heap.blocks ptr = none →
      (rest ptr).Obeys (Program.recorded helper attempts) (submission.Judged s)
        ({ held with heap := held.heap.alloc ptr size junk }, record ++ [true])) :
    (malloc size >>= rest).Obeys (Program.recorded helper attempts) (submission.Judged s)
      (held, record) := by
  refine attempt_bind ?_
  rintro (ptr : Ptr) _ (⟨rfl, rfl⟩ | ⟨notNull, fresh, junk, rfl⟩)
  · exact refused
  · have noted : attempts (.malloc size) ptr = [true] :=
      congrArg (fun granted => [granted]) (bne_iff_ne.mpr notNull)
    rw [noted]
    exact granted ptr junk notNull fresh

/-- The part of a command with one argument buffer after it has been allocated. -/
theorem oneBuffer_judged (accepted : submission.Accepted) (buffers : submission.buffers = 1)
    {ptr : Ptr} {size : Nat} {junk : Nat → Byte} (fresh : s.heap.blocks ptr = none)
    {req : Nat → IoReq} (numbered : ∀ signo, (req signo).signo = signo) (dst src : Ptr)
    (count : Nat) (params : Params) :
    (submitReq submission.periphNo params (copyIn dst src count 0) req).Obeys
      (Program.recorded helper attempts) (submission.Judged s)
      ({ s with heap := s.heap.alloc ptr size junk }, [true]) := by
  have leaked : ¬SameResources s { s with heap := s.heap.alloc ptr size junk } :=
    not_sameResources fresh (by rw [Heap.Live, Heap.alloc_blocks_self]; exact Option.some_ne_none _)
  refine submitReq_judged accepted (copyIn_copies _ _ _ _) numbered ?_ ?_ ?_ ?_ ?_ params
  · rfl
  · rfl
  · simp
  · exact buffers.symm
  · exact ⟨fun same => absurd same leaked, fun none => by omega⟩

theorem readReqWithBuffer_judged (cmd : submission.cmd = .readReqWithBuffer) (serial : Nat) :
    (submission.program serial).Obeys (Program.recorded helper attempts) (submission.Judged s)
      (s, []) := by
  have buffers : submission.buffers = 1 := by rw [Submission.buffers, cmd]
  have runs : submission.program serial =
      readReqWithBuffer serial submission.paramTypes submission.params := by
    rw [Submission.program, cmd]
  have types : submission.wantedTypes = bufferReqTypes := by rw [Submission.wantedTypes, cmd]
  rw [runs, readReqWithBuffer, ← types]
  refine judged_of_checks fun accepted => malloc_judged ?_ ?_
  · rw [if_pos rfl]
    exact judged_of_refused (by omega) (by decide) _
  · intro ptr junk notNull fresh
    rw [if_neg notNull]
    exact oneBuffer_judged accepted buffers fresh (fun _ => rfl) _ _ _ _

theorem writeReq_judged (cmd : submission.cmd = .writeReq) (serial : Nat) :
    (submission.program serial).Obeys (Program.recorded helper attempts) (submission.Judged s)
      (s, []) := by
  have runs : submission.program serial =
      writeReq serial submission.paramTypes submission.params submission.uninit := by
    rw [Submission.program, cmd]
  have types : submission.wantedTypes = bufferReqTypes := by rw [Submission.wantedTypes, cmd]
  rw [runs, writeReq, ← types]
  refine judged_of_checks fun accepted => ?_
  split
  · rename_i nonempty
    have buffers : submission.buffers = 1 := by rw [Submission.buffers, cmd]; exact if_neg nonempty
    refine malloc_judged ?_ ?_
    · rw [if_pos rfl]
      exact judged_of_refused (by omega) (by decide) _
    · intro ptr junk notNull fresh
      rw [if_neg notNull]
      exact oneBuffer_judged accepted buffers fresh (fun _ => rfl) _ _ _ _
  · rename_i empty
    have buffers : submission.buffers = 0 := by
      rw [Submission.buffers, cmd]
      exact if_pos (not_not.mp empty)
    refine submitReq_judged accepted (copyIn_copies _ _ _ _) (fun _ => rfl) rfl rfl ?_ ?_ ?_ _
    · simp
    · exact buffers.symm
    · exact ⟨fun _ => buffers, fun _ => .refl s⟩

/-- The first of two buffers stays allocated when the second is refused. -/
theorem judged_of_secondRefused (accepted : submission.Accepted) (buffers : submission.buffers = 2)
    (failed : code ≠ teeSuccess) (params : Params) (leaked : ¬SameResources s held) :
    submission.Judged s (.error code params) (held, [true, false]) := by
  refine ⟨?_, ?_⟩
  · rintro (⟨succeeded, -⟩ | ⟨-, same⟩)
    · exact absurd succeeded failed
    · exact absurd same leaked
  · rintro (rejected | ⟨-, refused⟩ | ⟨none, -⟩ | ⟨-, all⟩)
    · exact absurd accepted rejected
    · cases refused
    · omega
    · cases all false (by simp)

theorem writeReqWithBuffer_judged (cmd : submission.cmd = .writeReqWithBuffer) (serial : Nat) :
    (submission.program serial).Obeys (Program.recorded helper attempts) (submission.Judged s)
      (s, []) := by
  have buffers : submission.buffers = 2 := by rw [Submission.buffers, cmd]
  have runs : submission.program serial =
      writeReqWithBuffer serial submission.paramTypes submission.params := by
    rw [Submission.program, cmd]
  have types : submission.wantedTypes = twoBufferReqTypes := by
    rw [Submission.wantedTypes, cmd]
  rw [runs, writeReqWithBuffer, ← types]
  refine judged_of_checks fun accepted => malloc_judged ?_ ?_
  · rw [if_pos rfl]
    exact judged_of_refused (by omega) (by decide) _
  · intro first junk notNull fresh
    rw [if_neg notNull]
    have live : (s.heap.alloc first submission.params.p1.size.toNat junk).Live first := by
      rw [Heap.Live, Heap.alloc_blocks_self]
      exact Option.some_ne_none _
    refine malloc_judged ?_ ?_
    · rw [if_pos rfl]
      exact judged_of_secondRefused accepted buffers (by decide) _ (not_sameResources fresh live)
    · intro second junk' notNull' fresh'
      rw [if_neg notNull']
      have leaked : ¬SameResources s
          { s with
            heap := (s.heap.alloc first submission.params.p1.size.toNat junk).alloc second
              submission.params.p2.size.toNat junk' } := by
        refine not_sameResources fresh ?_
        have distinct : first ≠ second := by
          rintro rfl
          exact live fresh'
        rw [Heap.Live, Heap.alloc_blocks_of_ne _ _ _ distinct]
        exact live
      refine submitReq_judged accepted ((copyIn_copies _ _ _ _).bind (copyIn_copies _ _ _ _))
        ?_ ?_ ?_ ?_ ?_ ?_ _
      · exact fun _ => rfl
      · rfl
      · rfl
      · simp
      · exact buffers.symm
      · exact ⟨fun same => absurd same leaked, fun none => by omega⟩

end Commands

/-- A submission is all or nothing exactly when it is clean: its parameters are
rejected, its first argument buffer is refused, it has no argument buffer and no
slot is free, or a slot is free and every allocation succeeds. -/
theorem allOrNothing_iff_clean {submission : Submission} {serial : Nat} {s after : Pta}
    {reply : CommandResult} {record : List Bool}
    (run : (submission.program serial).Exec (Program.recorded helper attempts) (s, []) reply
      (after, record)) :
    AllOrNothing submission.periphNo s reply after ↔ submission.Clean s record := by
  suffices obeys : (submission.program serial).Obeys (Program.recorded helper attempts)
      (submission.Judged s) (s, []) from obeys.post_of_exec run
  cases cmd : submission.cmd with
  | readReq => exact readReq_judged cmd serial
  | readReqWithBuffer => exact readReqWithBuffer_judged cmd serial
  | writeReq => exact writeReq_judged cmd serial
  | writeReqWithBuffer => exact writeReqWithBuffer_judged cmd serial

/-- A READ_REQ for a light sample on the first I2C bus. -/
def sampleSubmission : Submission where
  cmd := .readReq
  paramTypes := readReqTypes
  params := ⟨.value 28 1, .value 0x23 0, .value 0 0, .value 0 0⟩
  uninit := null

def sampleReq : IoReq where
  type := .bh1750fviSample
  signo := 0
  p0 := .value 0x23 0
  p1 := .value 0 0
  p2 := .value 0 0
  ticket := ⟨0, []⟩

/-- A WRITE_REQ_WITH_BUFFER for a secure object with a name and no content. -/
def objectSubmission : Submission where
  cmd := .writeReqWithBuffer
  paramTypes := twoBufferReqTypes
  params := ⟨.value 31 9, ⟨null, 0⟩, ⟨null, 0⟩, .value 0 0⟩
  uninit := null

/-- A sample is submitted with all allocations granted. -/
theorem allOrNothing_of_sample :
    ∃ reply after record, (sampleSubmission.program 0).Exec (Program.recorded helper attempts)
        (Pta.zero, []) reply (after, record) ∧
      (AllOrNothing sampleSubmission.periphNo Pta.zero reply after ↔
        sampleSubmission.Clean Pta.zero record) := by
  have run : ∃ reply after record, (sampleSubmission.program 0).Exec
      (Program.recorded helper attempts) (Pta.zero, []) reply (after, record) :=
    ⟨_, _, [true], some 0, (_, []), ⟨rfl, rfl⟩, teeSuccess, (_, [true]),
      ⟨.inr ⟨rfl, 1, fun _ => 0, by decide, rfl, rfl⟩, rfl⟩, rfl, rfl⟩
  obtain ⟨reply, after, record, run⟩ := run
  exact ⟨reply, after, record, run, allOrNothing_iff_clean run⟩

/-- At boot a sample whose queue node is refused is reported as submitted though
no queue holds it, and an object whose second buffer is refused leaves its first
one allocated. -/
theorem submissions_leave_traces :
    (∃ reply after, (sampleSubmission.program 0).Exec helper Pta.zero reply after ∧
      reply.res = teeSuccess ∧ after.reqQueues = Pta.zero.reqQueues ∧
      ¬AllOrNothing sampleSubmission.periphNo Pta.zero reply after) ∧
    (∃ reply after, (objectSubmission.program 0).Exec helper Pta.zero reply after ∧
      reply.res = teeErrorOutOfMemory ∧ after.heap.Live 1 ∧
      ¬AllOrNothing objectSubmission.periphNo Pta.zero reply after) := by
  constructor
  · refine ⟨_, _, ⟨some 0, _, rfl, teeErrorOutOfMemory, _, .inl ⟨rfl, rfl⟩, rfl, rfl⟩, rfl, rfl, ?_⟩
    rintro (⟨-, node, queues, -⟩ | ⟨failed, -⟩)
    · have lengths := congrArg (fun queues => (queues sampleSubmission.periphNo).length) queues
      rw [Function.update_self, List.length_append] at lengths
      cases lengths
    · exact failed rfl
  · refine ⟨_, _, ⟨(1 : Ptr), _, .inr ⟨by decide, rfl, fun _ => 0, rfl⟩, null, _, .inl ⟨rfl, rfl⟩,
      rfl, rfl⟩, rfl, by decide, ?_⟩
    rintro (⟨succeeded, -⟩ | ⟨-, same⟩)
    · exact absurd succeeded (show teeErrorOutOfMemory ≠ teeSuccess by decide)
    · exact absurd ((same.live 1).mp (by decide)) (by decide)

end TrustWasm.IoHelper
