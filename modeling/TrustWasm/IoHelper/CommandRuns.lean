import TrustWasm.IoHelper.Locality

/-!
# Commands that run alone

What a command replies and what it leaves behind when no other thread moves
between its first and its last operation.
-/

namespace TrustWasm.IoHelper

open TrustWasm.Lib TrustWasm.Tee

variable {s s' : Pta} {paramTypes : BitVec 32} {params : Params} {reply : CommandResult}
  {p q : Nat}

theorem helper_bind {α : Type} {post : α → Pta → Prop} {op : HelperOp}
    {rest : Helper.Reply op → Program Helper α}
    (second : ∀ reply after, helperStep s op reply after → (rest reply).Obeys helper post after) :
    (Program.perform (I := Helper) op >>= rest).Obeys helper post s :=
  ⟨trivial, second⟩

/-! ## Polling -/

/-- What a poll of a peripheral says: the lowest ready slot, that requests are
outstanding, or that there are none. -/
def pollReply (s : Pta) (p : Nat) (params : Params) : CommandResult :=
  match (s.getReadySignal p).1 with
  | some signo =>
    ⟨teeSuccess, { params with p0 := (params.p0.setA 1).setB (BitVec.ofNat 32 signo) }, []⟩
  | none =>
    if 0 < (s.getReqNum p).toNat then
      ⟨teeSuccess, { params with p0 := (params.p0.setA 1).setB 0xFFFFFFFF }, []⟩
    else
      ⟨teeSuccess, { params with p0 := params.p0.setA 0 }, []⟩

theorem getReqNum_getReadySignal (s : Pta) (p : Nat) :
    (s.getReadySignal p).2.getReqNum p = s.getReqNum p := by
  unfold Pta.getReadySignal
  dsimp only
  split
  · rfl
  · rfl

/-- What a poll that runs alone does. -/
def Polled (s : Pta) (paramTypes : BitVec 32) (params : Params) (reply : CommandResult)
    (after : Pta) : Prop :=
  ((paramTypes ≠ pollTypes ∨ nPeriph ≤ toUint16 params.p0.a) ∧
      reply = .error teeErrorBadParameters params ∧ after = s) ∨
    (paramTypes = pollTypes ∧ toUint16 params.p0.a < nPeriph ∧
      reply = pollReply s (toUint16 params.p0.a) params ∧
      after = (s.getReadySignal (toUint16 params.p0.a)).2)

theorem poll_runs (s : Pta) (paramTypes : BitVec 32) (params : Params) :
    (poll paramTypes params).Obeys helper (Polled s paramTypes params) s := by
  unfold poll
  split
  · rename_i badTypes
    exact .inl ⟨.inl badTypes, rfl, rfl⟩
  · rename_i types
    split
    · rename_i badPeriph
      exact .inl ⟨.inr badPeriph, rfl, rfl⟩
    · rename_i periph
      have accepted {reply : CommandResult} {after : Pta}
          (replied : reply = pollReply s (toUint16 params.p0.a) params)
          (left : after = (s.getReadySignal (toUint16 params.p0.a)).2) :
          Polled s paramTypes params reply after :=
        .inr ⟨not_not.mp types, Nat.lt_of_not_le periph, replied, left⟩
      refine helper_bind fun signo middle found => ?_
      change s.getReadySignal (toUint16 params.p0.a) = (signo, middle) at found
      cases signo with
      | some signo => exact accepted (by simp [pollReply, found]) (by rw [found])
      | none =>
        refine helper_bind ?_
        rintro _ middle ⟨rfl, rfl⟩
        have kept := getReqNum_getReadySignal s (toUint16 params.p0.a)
        rw [found] at kept
        split
        · rename_i outstanding
          exact accepted (by simp_all [pollReply]) (by rw [found])
        · rename_i noneLeft
          exact accepted (by simp_all [pollReply]) (by rw [found])

/-- What a poll of one slot that runs alone does: it counts the poll and says
whether the slot is ready. -/
def SubPolled (s : Pta) (paramTypes : BitVec 32) (params : Params) (reply : CommandResult)
    (after : Pta) : Prop :=
  let p := toUint16 params.p0.a
  let q := params.p0.b.toNat
  ((paramTypes ≠ pollTypes ∨ nPeriph ≤ p ∨ nSubSig ≤ q) ∧
      reply = .error teeErrorBadParameters params ∧ after = s) ∨
    (paramTypes = pollTypes ∧ p < nPeriph ∧ q < nSubSig ∧ s.isUsingSigno p q = false ∧
      reply = .error teeErrorBadState params ∧ after = s) ∨
    (paramTypes = pollTypes ∧ p < nPeriph ∧ q < nSubSig ∧ s.isUsingSigno p q = true ∧
      reply = ⟨teeSuccess,
        { params with p0 := params.p0.setA (if s.isReadySignal p q then 1 else 0) }, []⟩ ∧
      after = s.setEntry p q { s.entry p q with pollTimes := (s.entry p q).pollTimes + 1 })

theorem pollSubsignal_runs (s : Pta) (paramTypes : BitVec 32) (params : Params) :
    (pollSubsignal paramTypes params).Obeys helper (SubPolled s paramTypes params) s := by
  unfold pollSubsignal
  split
  · rename_i badTypes
    exact .inl ⟨.inl badTypes, rfl, rfl⟩
  · rename_i types
    split
    · rename_i badSlot
      exact .inl ⟨.inr badSlot, rfl, rfl⟩
    · rename_i slot
      obtain ⟨periph, subSigno⟩ := not_or.mp slot
      refine helper_bind ?_
      rintro _ _ ⟨rfl, rfl⟩
      split
      · rename_i unused
        exact .inr (.inl ⟨not_not.mp types, Nat.lt_of_not_le periph, Nat.lt_of_not_le subSigno,
          by simpa using unused, rfl, rfl⟩)
      · rename_i used
        refine helper_bind ?_
        rintro _ _ ⟨rfl, rfl⟩
        refine helper_bind ?_
        rintro _ _ rfl
        refine helper_bind ?_
        rintro _ _ ⟨rfl, rfl⟩
        exact .inr (.inr ⟨not_not.mp types, Nat.lt_of_not_le periph, Nat.lt_of_not_le subSigno,
          by simpa using used, rfl, rfl⟩)

/-! ## Collection -/

theorem loadFrom_runs (s : Pta) (ptr : Ptr) (count offset : Nat) :
    (loadFrom ptr count offset).Obeys helper
      (fun bytes after => after = s ∧ ∀ block, s.heap.blocks ptr = some block →
        bytes = (List.range' offset count).map block.bytes) s := by
  induction count generalizing offset with
  | zero => exact ⟨rfl, fun _ _ => rfl⟩
  | succ count ih =>
    refine helper_bind ?_
    rintro byte s ⟨rfl, isByte⟩
    refine (ih (offset + 1)).bind ?_
    rintro rest s ⟨rfl, isRest⟩
    refine ⟨rfl, fun block found => ?_⟩
    rw [List.range'_succ, List.map_cons, isByte block found, isRest block found]

/-- The state `get_data` leaves when it has taken the data of a slot. -/
def Pta.takeData (s : Pta) (p q : Nat) : Pta :=
  ({ s with heap := s.heap.free (s.entry p q).buf }.setEntry p q
    { s.entry p q with ret := 0, len := 0, pollTimes := 0 }).releaseSigno p q

/-- What `get_data` does with a slot it has found ready. -/
inductive Collected (s : Pta) (params : Params) (p q : Nat) : CommandResult → Pta → Prop where
  | failed : isNegative (s.entry p q).ret = true →
      Collected s params p q
        ⟨teeSuccess, { params with p0 := params.p0.setA (s.entry p q).ret }, []⟩
        (s.releaseSigno p q)
  | short : isNegative (s.entry p q).ret = false →
      params.p1.size.toNat < (s.entry p q).len.toNat →
      Collected s params p q
        ⟨teeErrorShortBuffer,
          { params with p1 := { params.p1 with size := (s.entry p q).len.setWidth 64 } }, []⟩ s
  | missing : isNegative (s.entry p q).ret = false →
      (s.entry p q).len.toNat ≤ params.p1.size.toNat → (s.entry p q).len ≠ 0 →
      (s.entry p q).buf = null →
      Collected s params p q (.error teeErrorNoData params) (s.releaseSigno p q)
  | empty : isNegative (s.entry p q).ret = false → (s.entry p q).len = 0 →
      Collected s params p q
        ⟨teeSuccess,
          { params with
            p0 := params.p0.setA (s.entry p q).ret
            p1 := { params.p1 with size := 0 } }, []⟩
        (s.releaseSigno p q)
  | data {out : List Byte} : isNegative (s.entry p q).ret = false →
      (s.entry p q).len.toNat ≤ params.p1.size.toNat → (s.entry p q).len ≠ 0 →
      (s.entry p q).buf ≠ null →
      (∀ bytes, s.heap.contents? (s.entry p q).buf (s.entry p q).len.toNat = some bytes →
        out = bytes) →
      Collected s params p q
        ⟨teeSuccess,
          { params with
            p0 := (params.p0.setA (s.entry p q).ret).setB (s.entry p q).pollTimes
            p1 := { params.p1 with size := (s.entry p q).len.setWidth 64 } }, out⟩
        (s.takeData p q)

theorem takeData_runs (s : Pta) (params : Params) (p q : Nat) :
    (takeData params p q).Obeys helper
      (fun reply after => after = s.takeData p q ∧ ∃ out,
        (∀ bytes, s.heap.contents? (s.entry p q).buf (s.entry p q).len.toNat = some bytes →
          out = bytes) ∧
        reply = ⟨teeSuccess,
          { params with
            p0 := (params.p0.setA (s.entry p q).ret).setB (s.entry p q).pollTimes
            p1 := { params.p1 with size := (s.entry p q).len.setWidth 64 } }, out⟩) s := by
  refine helper_bind ?_
  rintro _ s ⟨rfl, rfl⟩
  refine helper_bind ?_
  rintro _ s ⟨rfl, rfl⟩
  refine (loadFrom_runs s _ _ 0).bind ?_
  rintro out s ⟨rfl, isOut⟩
  refine helper_bind ?_
  rintro _ s ⟨rfl, rfl⟩
  refine helper_bind ?_
  rintro _ _ rfl
  refine helper_bind ?_
  rintro _ _ ⟨rfl, rfl⟩
  refine helper_bind ?_
  rintro _ _ ⟨rfl, rfl⟩
  refine helper_bind ?_
  rintro _ _ ⟨rfl, rfl⟩
  refine helper_bind ?_
  rintro _ _ rfl
  refine helper_bind ?_
  rintro _ _ rfl
  refine helper_bind ?_
  rintro _ _ rfl
  refine helper_bind ?_
  rintro _ _ rfl
  refine ⟨?_, out, ?_, rfl⟩
  · simp [Pta.takeData, Pta.setEntry, Pta.entry]
  · intro bytes contents
    unfold Heap.contents? at contents
    obtain ⟨block, found, rfl⟩ := Option.map_eq_some_iff.mp contents
    rw [isOut block found, List.range_eq_range']

theorem dataBufMissing_runs (s : Pta) (p q : Nat) :
    (dataBufMissing p q).Obeys helper
      (fun missing after => after = s ∧
        (missing = true ↔ (s.entry p q).len ≠ 0 ∧ (s.entry p q).buf = null)) s := by
  refine helper_bind ?_
  rintro _ s ⟨rfl, rfl⟩
  split
  · rename_i notEmpty
    refine helper_bind ?_
    rintro _ s ⟨rfl, rfl⟩
    refine ⟨rfl, ?_⟩
    rw [beq_iff_eq]
    exact ⟨fun isNull => ⟨notEmpty, isNull⟩, And.right⟩
  · rename_i isEmpty
    exact ⟨rfl, by simp [not_not.mp isEmpty]⟩

theorem getReadyData_runs (s : Pta) (params : Params) (p q : Nat) :
    (getReadyData params p q).Obeys helper (Collected s params p q) s := by
  refine helper_bind ?_
  rintro _ s ⟨rfl, rfl⟩
  dsimp only
  split
  · rename_i negative
    refine helper_bind ?_
    rintro _ s ⟨rfl, rfl⟩
    refine helper_bind ?_
    rintro _ _ rfl
    exact .failed negative
  · rename_i notNegative
    rw [Bool.not_eq_true] at notNegative
    refine helper_bind ?_
    rintro _ s ⟨rfl, rfl⟩
    split
    · rename_i tooLong
      refine helper_bind ?_
      rintro _ s ⟨rfl, rfl⟩
      exact .short notNegative tooLong
    · rename_i fits
      rw [Nat.not_lt] at fits
      refine (dataBufMissing_runs s p q).bind ?_
      rintro missing s ⟨rfl, isMissing⟩
      split
      · rename_i isNull
        obtain ⟨notEmpty, isNull⟩ := isMissing.mp isNull
        refine helper_bind ?_
        rintro _ _ rfl
        exact .missing notNegative fits notEmpty isNull
      · rename_i present
        refine helper_bind ?_
        rintro _ s ⟨rfl, rfl⟩
        split
        · rename_i isEmpty
          refine helper_bind ?_
          rintro _ s ⟨rfl, rfl⟩
          refine helper_bind ?_
          rintro _ _ rfl
          exact .empty notNegative isEmpty
        · rename_i notEmpty
          refine (takeData_runs s params p q).mono ?_
          rintro _ _ ⟨rfl, out, isOut, rfl⟩
          exact .data notNegative fits notEmpty
            (fun isNull => present (isMissing.mpr ⟨notEmpty, isNull⟩)) isOut

/-- What a collection that runs alone does: it is refused, finds its slot not
ready, or does with the ready slot what `Collected` says. -/
def GotData (s : Pta) (paramTypes : BitVec 32) (params : Params) (reply : CommandResult)
    (after : Pta) : Prop :=
  ((paramTypes ≠ getDataTypes ∨ nSubSig < params.p0.b.toNat) ∧
      reply = .error teeErrorBadParameters params ∧ after = s) ∨
    ((paramTypes = getDataTypes ∧ params.p0.b.toNat ≤ nSubSig) ∧
      ((s.isReadySignal (toUint16 params.p0.a) params.p0.b.toNat = false ∧
          reply = .error teeErrorNoData params ∧ after = s) ∨
        (s.isReadySignal (toUint16 params.p0.a) params.p0.b.toNat = true ∧
          Collected s params (toUint16 params.p0.a) params.p0.b.toNat reply after)))

theorem getData_runs (s : Pta) (paramTypes : BitVec 32) (params : Params) :
    (getData paramTypes params).Obeys helper (GotData s paramTypes params) s := by
  unfold getData
  split
  · rename_i badTypes
    exact .inl ⟨.inl badTypes, rfl, rfl⟩
  · rename_i types
    dsimp only
    split
    · rename_i badSlot
      exact .inl ⟨.inr badSlot, rfl, rfl⟩
    · rename_i slot
      have accepted := And.intro (not_not.mp types) (Nat.le_of_not_lt slot)
      refine helper_bind ?_
      rintro _ s ⟨rfl, rfl⟩
      split
      · rename_i notReady
        exact .inr ⟨accepted, .inl ⟨by simpa using notReady, rfl, rfl⟩⟩
      · rename_i isReady
        refine (getReadyData_runs s params _ _).mono ?_
        intro reply after collected
        exact .inr ⟨accepted, .inr ⟨by simpa using isReady, collected⟩⟩

theorem getData_exec (run : (getData paramTypes params).Exec helper s reply s') :
    GotData s paramTypes params reply s' :=
  (getData_runs s paramTypes params).post_of_exec run

/-! ## The bytes a collection writes -/

theorem loadFrom_length_runs (s : Pta) (ptr : Ptr) (count offset : Nat) :
    (loadFrom ptr count offset).Obeys helper
      (fun bytes after => after = s ∧ bytes.length = count) s := by
  induction count generalizing offset with
  | zero => exact ⟨rfl, rfl⟩
  | succ count ih =>
    refine helper_bind ?_
    rintro byte s ⟨rfl, -⟩
    refine (ih (offset + 1)).bind ?_
    rintro rest s ⟨rfl, length⟩
    exact ⟨rfl, congrArg Nat.succ length⟩

theorem takeData_out_runs (s : Pta) (params : Params) (p q : Nat) :
    (takeData params p q).Obeys helper
      (fun reply _ => reply.out.length = (s.entry p q).len.toNat) s := by
  refine helper_bind ?_
  rintro _ s ⟨rfl, rfl⟩
  refine helper_bind ?_
  rintro _ s ⟨rfl, rfl⟩
  refine (loadFrom_length_runs s _ _ 0).bind ?_
  rintro out s ⟨rfl, length⟩
  -- what follows the copy does not touch it
  iterate 9 refine helper_bind fun _ _ _ => ?_
  exact length

/-- A collection writes no more than the buffer holds, whatever the slot says. -/
theorem getReadyData_out_runs (s : Pta) (params : Params) (p q : Nat) :
    (getReadyData params p q).Obeys helper
      (fun reply _ => reply.out.length ≤ params.p1.size.toNat) s := by
  refine helper_bind ?_
  rintro _ s ⟨rfl, rfl⟩
  dsimp only
  split
  · refine helper_bind fun _ _ _ => ?_
    refine helper_bind fun _ _ _ => ?_
    exact Nat.zero_le _
  · refine helper_bind ?_
    rintro _ s ⟨rfl, rfl⟩
    split
    · refine helper_bind fun _ _ _ => ?_
      exact Nat.zero_le _
    · rename_i fits
      rw [Nat.not_lt] at fits
      refine (dataBufMissing_runs s p q).bind ?_
      rintro missing s ⟨rfl, -⟩
      split
      · refine helper_bind fun _ _ _ => ?_
        exact Nat.zero_le _
      · refine helper_bind ?_
        rintro _ s ⟨rfl, rfl⟩
        split
        · refine helper_bind fun _ _ _ => ?_
          refine helper_bind fun _ _ _ => ?_
          exact Nat.zero_le _
        · refine (takeData_out_runs s params p q).mono ?_
          intro reply _ length
          rwa [length]

theorem getData_out_le (run : (getData paramTypes params).Exec helper s reply s') :
    reply.out.length ≤ params.p1.size.toNat := by
  have runs : (getData paramTypes params).Obeys helper
      (fun reply _ => reply.out.length ≤ params.p1.size.toNat) s := by
    unfold getData
    split
    · exact Nat.zero_le _
    · dsimp only
      split
      · exact Nat.zero_le _
      · refine helper_bind ?_
        rintro _ s ⟨rfl, rfl⟩
        split
        · exact Nat.zero_le _
        · exact getReadyData_out_runs s params _ _
  exact runs.post_of_exec run

end TrustWasm.IoHelper
