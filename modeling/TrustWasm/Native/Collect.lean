import TrustWasm.IoHelper.Ledger
import TrustWasm.Native.Callback
import Mathlib.Logic.Relation

/-!
# Collecting a result

`get_async_data`, `get_async_data_future` and `get_async_data_promise` copy the result
of a request into the linear memory.  The program names a buffer and a cell that holds
the length of the buffer.  The last two functions poll the slot until it is ready, the
first one expects it to be.  When the buffer is too short the length of the result is
stored in the cell, and the slot keeps the result.

`TEE_InvokeTACommand` never hands the buffer itself to the io_helper.  It maps a zeroed one
in its place, which is assumed to succeed, and copies back as many bytes as the command says,
whatever the command returns: a buffer that is too short is overwritten with zeros.
-/

namespace TrustWasm.Native

open TrustWasm.Lib TrustWasm.Tee TrustWasm.IoHelper TrustWasm.Runtime

/-! ## The calls -/

/-- The functions that collect a result, with the slot as the program names it. -/
inductive Collector where
  | asyncData (signo subSigno : BitVec 32)
  | future (signo subSigno : BitVec 32)
  | promise (promise : BitVec 32)

def Collector.slot : Collector → Nat × Nat
  | .asyncData signo subSigno | .future signo subSigno => (signo.toNat, subSigno.toNat)
  | .promise word => promiseSlot word

/-- The function polls the slot before it collects the result. -/
def Collector.polls : Collector → Bool
  | .asyncData .. => false
  | .future .. | .promise .. => true

structure CollectCall where
  collector : Collector
  dstBufAddr : BitVec 32
  dstBufLenAddr : BitVec 32

def checkSlot (slot : Nat × Nat) : Except TeeResult Unit :=
  if nPeriph ≤ slot.1 then .error teeErrorBadParameters
  else if nSubSig ≤ slot.2 then .error teeErrorBadParameters
  else .ok ()

/-- A promise is checked before the pointers, and once more after them. -/
def Collector.checkFirst : Collector → Except TeeResult Unit
  | .promise word => checkSlot (promiseSlot word)
  | .asyncData .. | .future .. => .ok ()

/-- The cell and the buffer of a call that has passed all checks. -/
structure Prepared where
  cell : Range
  dst : Range

/-- What `update_out_param` copies to an output buffer of `len` bytes from the buffer that
`map_tmp_param` has put in its place: zeros where the command has not written, and no more
than there are. -/
def copiedBack (len : BitVec 32) (reply : CommandResult) : List Byte :=
  (reply.out ++ List.replicate (len.toNat - reply.out.length) 0).take reply.params.p1.size.toNat

namespace CollectCall

/-- The checks of a call.  The length of the buffer is read from the cell once the cell
is known to be in the memory. -/
def prepare (mem : Linear) (call : CollectCall) : Except TeeResult Prepared := do
  call.collector.checkFirst
  let dst ← optionalPtr call.dstBufAddr
  let cell ← optionalPtr call.dstBufLenAddr
  checkSlot call.collector.slot
  let cell ← mem.validated cell 4
  let dst ← mem.validated dst (mem.word cell.addr.toNat)
  return ⟨cell, dst⟩

/-- The parameters of `PTA_IO_HELPER_CMD_GET_DATA`. -/
def dataParams (mem : Linear) (call : CollectCall) (prepared : Prepared) : Params :=
  { slotParams call.collector.slot.1 call.collector.slot.2 with p1 := mem.memref prepared.dst }

/-- The memory after the command: the bytes copied back to the buffer, and the length the
command asked for. -/
def collected (mem : Linear) (prepared : Prepared) (reply : CommandResult) : Linear :=
  let written := mem.store prepared.dst.addr.toNat (copiedBack prepared.dst.len reply)
  if reply.res = teeErrorShortBuffer then
    written.store prepared.cell.addr.toNat (wordBytes (reply.params.p1.size.setWidth 32))
  else written

/-- The code a call returns after the command. -/
def code (call : CollectCall) (reply : CommandResult) : TeeResult :=
  if reply.res = teeErrorShortBuffer then teeErrorShortBuffer
  else if reply.res ≠ teeSuccess then teeErrorNoData
  else if isNegative reply.params.p0.a then reply.params.p0.a
  else
    match call.collector with
    | .promise _ => reply.params.p0.a
    | .asyncData .. | .future .. => reply.params.p0.b

end CollectCall

/-- Polls of a slot until it is ready or a poll fails, with the code of the last poll.
Between two polls the rest of the system takes the steps of `meanwhile`. -/
inductive PollsUntil (meanwhile : Pta → Pta → Prop) (slot : Nat × Nat) :
    Pta → TeeResult → Pta → Prop where
  | ready {s s' : Pta} {reply : CommandResult} :
      (pollSubsignal pollTypes (slotParams slot.1 slot.2)).Exec helper s reply s' →
      reply.res = teeSuccess → reply.params.p0.a ≠ 0 → PollsUntil meanwhile slot s teeSuccess s'
  | failed {s s' : Pta} {reply : CommandResult} :
      (pollSubsignal pollTypes (slotParams slot.1 slot.2)).Exec helper s reply s' →
      reply.res ≠ teeSuccess → PollsUntil meanwhile slot s reply.res s'
  | again {s s₁ s₂ s' : Pta} {reply : CommandResult} {code : TeeResult} :
      (pollSubsignal pollTypes (slotParams slot.1 slot.2)).Exec helper s reply s₁ →
      reply.res = teeSuccess → reply.params.p0.a = 0 →
      Relation.ReflTransGen meanwhile s₁ s₂ → PollsUntil meanwhile slot s₂ code s' →
      PollsUntil meanwhile slot s code s'

/-- How a call ended. -/
structure CollectEnding where
  code : TeeResult
  mem : Linear
  pta : Pta

/-- The ways a call can end. -/
inductive Collects (meanwhile : Pta → Pta → Prop) (mem : Linear) (call : CollectCall) :
    Pta → CollectEnding → Prop where
  | refused {s : Pta} {code : TeeResult} : call.prepare mem = .error code →
      Collects meanwhile mem call s ⟨code, mem, s⟩
  | pollFailed {s s' : Pta} {prepared : Prepared} {code : TeeResult} :
      call.prepare mem = .ok prepared → call.collector.polls = true →
      PollsUntil meanwhile call.collector.slot s code s' → code ≠ teeSuccess →
      Collects meanwhile mem call s ⟨code, mem, s'⟩
  | polled {s s₁ s₂ s' : Pta} {prepared : Prepared} {reply : CommandResult} :
      call.prepare mem = .ok prepared → call.collector.polls = true →
      PollsUntil meanwhile call.collector.slot s teeSuccess s₁ →
      Relation.ReflTransGen meanwhile s₁ s₂ →
      (getData getDataTypes (call.dataParams mem prepared)).Exec helper s₂ reply s' →
      Collects meanwhile mem call s ⟨call.code reply, CollectCall.collected mem prepared reply, s'⟩
  | direct {s s' : Pta} {prepared : Prepared} {reply : CommandResult} :
      call.prepare mem = .ok prepared → call.collector.polls = false →
      (getData getDataTypes (call.dataParams mem prepared)).Exec helper s reply s' →
      Collects meanwhile mem call s ⟨call.code reply, CollectCall.collected mem prepared reply, s'⟩

/-! ## The checks -/

theorem optionalPtr_ok {ptr addr : BitVec 32} (accepted : optionalPtr ptr = .ok addr) :
    addr = clearSignatureAndTag ptr := by
  unfold optionalPtr signedArg at accepted
  split at accepted
  · split at accepted
    · cases accepted
      rfl
    · cases accepted
  · rename_i zero
    cases accepted
    rw [not_not.mp zero]
    rfl

variable {slot : Nat × Nat} {mem : Linear} {len : BitVec 32} {reply : CommandResult} {s : Pta}
    {meanwhile : Pta → Pta → Prop} {bytes : List Byte}

theorem checkSlot_ok (accepted : checkSlot slot = .ok ()) : InRange slot := by
  unfold checkSlot at accepted
  split at accepted
  · cases accepted
  · rename_i periph
    split at accepted
    · cases accepted
    · rename_i subSigno
      exact ⟨Nat.lt_of_not_le periph, Nat.lt_of_not_le subSigno⟩

theorem Linear.validated_ok {addr : BitVec 32} {range : Range}
    (accepted : mem.validated addr len = .ok range) :
    range = ⟨addr, len⟩ ∧ addr.toNat + len.toNat ≤ mem.size := by
  unfold Linear.validated at accepted
  split at accepted
  · rename_i valid
    cases accepted
    exact ⟨rfl, (mem.validateAppAddr_iff addr len).mp valid⟩
  · cases accepted

/-- The cell where the cleared argument says, and the buffer with the length in it. -/
def CollectCall.cell (call : CollectCall) : Range :=
  ⟨clearSignatureAndTag call.dstBufLenAddr, 4⟩

def CollectCall.dst (mem : Linear) (call : CollectCall) : Range :=
  ⟨clearSignatureAndTag call.dstBufAddr, mem.word call.cell.addr.toNat⟩

/-- The buffer and the cell of a call that has passed all checks: they are where the
cleared arguments say, the buffer is as long as the cell says, and both are in the
memory. -/
structure CollectCall.Accepted (mem : Linear) (call : CollectCall) (prepared : Prepared) :
    Prop where
  slot : InRange call.collector.slot
  cell : prepared.cell = call.cell
  dst : prepared.dst = call.dst mem
  cellInside : prepared.cell.addr.toNat + 4 ≤ mem.size
  dstInside : prepared.dst.addr.toNat + prepared.dst.len.toNat ≤ mem.size

variable {call : CollectCall} {prepared : Prepared}

theorem CollectCall.accepted_of_prepare (passed : call.prepare mem = .ok prepared) :
    call.Accepted mem prepared := by
  unfold CollectCall.prepare at passed
  obtain ⟨_, -, passed⟩ := bind_eq_ok.mp passed
  obtain ⟨dst, isDst, passed⟩ := bind_eq_ok.mp passed
  obtain ⟨cell, isCell, passed⟩ := bind_eq_ok.mp passed
  obtain ⟨_, inRange, passed⟩ := bind_eq_ok.mp passed
  obtain ⟨cellRange, cellValid, passed⟩ := bind_eq_ok.mp passed
  obtain ⟨dstRange, dstValid, passed⟩ := bind_eq_ok.mp passed
  obtain ⟨rfl, cellInside⟩ := Linear.validated_ok cellValid
  obtain ⟨rfl, dstInside⟩ := Linear.validated_ok dstValid
  cases passed
  cases optionalPtr_ok isDst
  cases optionalPtr_ok isCell
  exact ⟨checkSlot_ok inRange, rfl, rfl, cellInside, dstInside⟩

/-! ## The frame of a call -/

/-- The bytes a call may change: those of the buffer and those of the cell. -/
def CollectCall.MayChange (mem : Linear) (call : CollectCall) (i : Nat) : Prop :=
  i < mem.size ∧ ((call.dst mem).Covers i ∨ call.cell.Covers i)

theorem length_copiedBack_le (length : reply.out.length ≤ len.toNat) :
    (copiedBack len reply).length ≤ len.toNat := by
  rw [copiedBack, List.length_take, List.length_append, List.length_replicate]
  omega

/-- A command that writes nothing and asks for more than there is leaves zeros. -/
theorem copiedBack_short (out : reply.out = []) (size : len.toNat ≤ reply.params.p1.size.toNat) :
    copiedBack len reply = List.replicate len.toNat 0 := by
  rw [copiedBack, out, List.nil_append, List.length_nil, Nat.sub_zero, List.take_replicate,
    Nat.min_eq_right size]

/-- A command that says how much it has written has that copied. -/
theorem copiedBack_out (len : BitVec 32) (size : reply.params.p1.size.toNat = reply.out.length) :
    copiedBack len reply = reply.out := by
  rw [copiedBack, size, List.take_left]

theorem CollectCall.collected_frame (passed : call.prepare mem = .ok prepared)
    (length : reply.out.length ≤ prepared.dst.len.toNat) {i : Nat}
    (changed : (CollectCall.collected mem prepared reply).bytes i ≠ mem.bytes i) :
    call.MayChange mem i := by
  have accepted := CollectCall.accepted_of_prepare passed
  have cellInside := accepted.cellInside
  have dstInside := accepted.dstInside
  have length := length_copiedBack_le length
  have inDst : (mem.store prepared.dst.addr.toNat
      (copiedBack prepared.dst.len reply)).bytes i ≠ mem.bytes i → call.MayChange mem i := by
    intro written
    have inside := mem.inside_of_store_ne written
    have covered : prepared.dst.Covers i := ⟨inside.1, by omega⟩
    rw [accepted.dst] at covered
    exact ⟨by omega, .inl covered⟩
  unfold CollectCall.collected at changed
  dsimp only at changed
  split at changed
  · by_cases inside : prepared.cell.addr.toNat ≤ i ∧ i < prepared.cell.addr.toNat + 4
    · have bound : i < mem.size := by omega
      rw [accepted.cell] at inside
      exact ⟨bound, .inr inside⟩
    · have four (word : BitVec 32) : (wordBytes word).length = 4 := rfl
      rw [Linear.store_of_outside _ (by rw [four]; omega)] at changed
      exact inDst changed
  · exact inDst changed

variable {ending : CollectEnding}

/-- A call changes bytes of its buffer and of its cell only. -/
theorem Collects.frame (collects : Collects meanwhile mem call s ending) {i : Nat}
    (changed : ending.mem.bytes i ≠ mem.bytes i) : call.MayChange mem i := by
  have bounded {prepared : Prepared} {s s' : Pta} {reply : CommandResult}
      (run : (getData getDataTypes (call.dataParams mem prepared)).Exec helper s reply s') :
      reply.out.length ≤ prepared.dst.len.toNat :=
    (getData_out_le run).trans_eq (mem.memref_size prepared.dst)
  cases collects with
  | refused | pollFailed => exact absurd rfl changed
  | polled passed _ _ _ run | direct passed _ run =>
    exact CollectCall.collected_frame passed (bounded run) changed

/-! ## Results -/

/-- A slot holds the result of a request that has succeeded.  A slot that is ready is
in use in every state of the io_helper. -/
structure HoldsResult (s : Pta) (slot : Nat × Nat) (bytes : List Byte) : Prop where
  inUse : s.isUsingSigno slot.1 slot.2 = true
  ready : s.isReadySignal slot.1 slot.2 = true
  succeeded : isNegative (s.entry slot.1 slot.2).ret = false
  length : (s.entry slot.1 slot.2).len.toNat = bytes.length
  held : bytes ≠ [] → (s.entry slot.1 slot.2).buf ≠ null ∧
    s.heap.contents? (s.entry slot.1 slot.2).buf bytes.length = some bytes

/-- The rest of the system leaves the result alone. -/
def Spares (meanwhile : Pta → Pta → Prop) (slot : Nat × Nat) (bytes : List Byte) : Prop :=
  ∀ s s', meanwhile s s' → HoldsResult s slot bytes → HoldsResult s' slot bytes

theorem toUint16_ofNat {n : Nat} (small : n < nPeriph) : toUint16 (BitVec.ofNat 32 n) = n := by
  unfold toUint16 nPeriph at *
  rw [BitVec.toNat_ofNat]
  omega

theorem toNat_ofNat_signo {n : Nat} (small : n < nSubSig) : (BitVec.ofNat 32 n).toNat = n := by
  unfold nSubSig at small
  rw [BitVec.toNat_ofNat]
  omega

namespace HoldsResult

variable {s' : Pta} {buffer : TeeParam}

theorem spared (holds : HoldsResult s slot bytes) (spares : Spares meanwhile slot bytes)
    (steps : Relation.ReflTransGen meanwhile s s') : HoldsResult s' slot bytes := by
  induction steps with
  | refl => exact holds
  | tail _ step ih => exact spares _ _ step ih

/-- A poll finds the slot ready and keeps its result. -/
theorem poll (holds : HoldsResult s slot bytes) (inRange : InRange slot)
    (run : (pollSubsignal pollTypes (slotParams slot.1 slot.2)).Exec helper s reply s') :
    reply.res = teeSuccess ∧ reply.params.p0.a = 1 ∧ HoldsResult s' slot bytes := by
  have polled := (pollSubsignal_runs s pollTypes (slotParams slot.1 slot.2)).post_of_exec run
  unfold SubPolled at polled
  simp only [slotParams, TeeParam.value_a, TeeParam.value_b, toUint16_ofNat inRange.1,
    toNat_ofNat_signo inRange.2] at polled
  rcases polled with ⟨refused, -⟩ | ⟨-, -, -, unused, -⟩ | ⟨-, -, -, -, rfl, rfl⟩
  · have periph := inRange.1
    have subSigno := inRange.2
    rcases refused with types | bad | bad
    · exact absurd rfl types
    · omega
    · omega
  · rw [holds.inUse] at unused
    contradiction
  · refine ⟨rfl, by simp [holds.ready], holds.inUse, holds.ready, ?_, ?_, ?_⟩
    · rw [entry_setEntry_self]
      exact holds.succeeded
    · rw [entry_setEntry_self]
      exact holds.length
    · rw [entry_setEntry_self]
      exact holds.held

/-- What `get_data` does with the slot. -/
theorem collectedFrom (holds : HoldsResult s slot bytes) (inRange : InRange slot)
    (run : (getData getDataTypes { slotParams slot.1 slot.2 with p1 := buffer }).Exec
      helper s reply s') :
    Collected s { slotParams slot.1 slot.2 with p1 := buffer } slot.1 slot.2 reply s' := by
  have got := getData_exec run
  unfold GotData at got
  simp only [slotParams, TeeParam.value_a, TeeParam.value_b, toUint16_ofNat inRange.1,
    toNat_ofNat_signo inRange.2] at got
  have subSigno := inRange.2
  rcases got with ⟨refused, -⟩ | ⟨-, ⟨notReady, -⟩ | ⟨-, collected⟩⟩
  · rcases refused with types | bad
    · exact absurd rfl types
    · omega
  · rw [holds.ready] at notReady
    contradiction
  · exact collected

/-- A buffer that is too short gets nothing, and the slot keeps its result. -/
theorem getData_short (holds : HoldsResult s slot bytes) (inRange : InRange slot)
    (short : buffer.size.toNat < bytes.length)
    (run : (getData getDataTypes { slotParams slot.1 slot.2 with p1 := buffer }).Exec
      helper s reply s') :
    reply.res = teeErrorShortBuffer ∧ reply.out = [] ∧
      reply.params.p1.size = (s.entry slot.1 slot.2).len.setWidth 64 ∧ s' = s := by
  have length := holds.length
  cases holds.collectedFrom inRange run with
  | failed negative =>
    rw [holds.succeeded] at negative
    contradiction
  | short => exact ⟨rfl, rfl, rfl, rfl⟩
  | missing _ fits =>
    dsimp only at fits
    omega
  | empty _ isEmpty =>
    rw [isEmpty] at length
    have none : (0 : BitVec 32).toNat = 0 := rfl
    omega
  | data _ fits =>
    dsimp only at fits
    omega

/-- A buffer that is long enough gets the result. -/
theorem getData_data (holds : HoldsResult s slot bytes) (inRange : InRange slot)
    (fits : bytes.length ≤ buffer.size.toNat)
    (run : (getData getDataTypes { slotParams slot.1 slot.2 with p1 := buffer }).Exec
      helper s reply s') :
    reply.res = teeSuccess ∧ reply.out = bytes ∧
      reply.params.p1.size.toNat = bytes.length := by
  have length := holds.length
  cases holds.collectedFrom inRange run with
  | failed negative =>
    rw [holds.succeeded] at negative
    contradiction
  | short _ tooLong =>
    dsimp only at tooLong
    omega
  | missing _ _ notEmpty isNull =>
    have nonempty : bytes ≠ [] := by
      rintro rfl
      exact notEmpty (BitVec.eq_of_toNat_eq length)
    exact absurd isNull (holds.held nonempty).1
  | empty _ isEmpty =>
    rw [isEmpty] at length
    exact ⟨rfl, (List.eq_nil_of_length_eq_zero length.symm).symm, length⟩
  | data _ _ notEmpty _ isOut =>
    have nonempty : bytes ≠ [] := by
      rintro rfl
      exact notEmpty (BitVec.eq_of_toNat_eq length)
    refine ⟨rfl, isOut bytes (length.symm ▸ (holds.held nonempty).2), ?_⟩
    rw [← length]
    exact BitVec.toNat_setWidth_of_le (by decide)

/-- The polls of a slot that holds a result end with the first one. -/
theorem pollsUntil {code : TeeResult} (holds : HoldsResult s slot bytes)
    (inRange : InRange slot) (polls : PollsUntil meanwhile slot s code s') :
    code = teeSuccess ∧ HoldsResult s' slot bytes := by
  cases polls with
  | ready run => exact ⟨rfl, (holds.poll inRange run).2.2⟩
  | failed run failed => exact absurd (holds.poll inRange run).1 failed
  | again run _ notReady =>
    rw [(holds.poll inRange run).2.1] at notReady
    exact absurd notReady (by decide)

end HoldsResult

/-- A call on a slot that holds a result comes to the command, which finds the result. -/
theorem Collects.command (passed : call.prepare mem = .ok prepared)
    (spares : Spares meanwhile call.collector.slot bytes)
    (holds : HoldsResult s call.collector.slot bytes)
    (collects : Collects meanwhile mem call s ending) :
    ∃ before reply, HoldsResult before call.collector.slot bytes ∧
      (getData getDataTypes (call.dataParams mem prepared)).Exec helper before reply ending.pta ∧
      ending.code = call.code reply ∧
      ending.mem = CollectCall.collected mem prepared reply := by
  have inRange := (CollectCall.accepted_of_prepare passed).slot
  cases collects with
  | refused refused =>
    rw [passed] at refused
    cases refused
  | pollFailed _ _ polls failed => exact absurd (holds.pollsUntil inRange polls).1 failed
  | polled passed' _ polls steps run =>
    cases passed.symm.trans passed'
    exact ⟨_, _, (holds.pollsUntil inRange polls).2.spared spares steps, run, rfl, rfl⟩
  | direct passed' _ run =>
    cases passed.symm.trans passed'
    exact ⟨_, _, holds, run, rfl, rfl⟩

/-- A call on a slot that holds a result ends. -/
theorem HoldsResult.exists_collects (meanwhile : Pta → Pta → Prop)
    (passed : call.prepare mem = .ok prepared) (holds : HoldsResult s call.collector.slot bytes) :
    ∃ ending, Collects meanwhile mem call s ending := by
  have inRange := (CollectCall.accepted_of_prepare passed).slot
  have total (program : Program Helper CommandResult) (s : Pta) :
      ∃ reply s', program.Exec helper s reply s' :=
    program.uses_all.exists_exec (fun s op _ => helperStep_total s op) s
  cases polls : call.collector.polls with
  | false =>
    obtain ⟨reply, s', run⟩ := total (getData getDataTypes (call.dataParams mem prepared)) s
    exact ⟨_, .direct passed polls run⟩
  | true =>
    obtain ⟨answer, s₁, poll⟩ :=
      total (pollSubsignal pollTypes (slotParams call.collector.slot.1 call.collector.slot.2)) s
    obtain ⟨succeeded, isReady, -⟩ := holds.poll inRange poll
    obtain ⟨reply, s', run⟩ := total (getData getDataTypes (call.dataParams mem prepared)) s₁
    refine ⟨_, .polled passed polls (.ready poll succeeded ?_) .refl run⟩
    rw [isReady]
    decide

/-! ## Short buffers -/

/-- Calls that found the result of a slot longer than their buffers. -/
inductive ShortAttempts (meanwhile : Pta → Pta → Prop) (slot : Nat × Nat) (bytes : List Byte) :
    Pta → Pta → Prop where
  | none {s : Pta} : ShortAttempts meanwhile slot bytes s s
  | again {s s₁ s₂ : Pta} {mem : Linear} {call : CollectCall} {prepared : Prepared}
      {ending : CollectEnding} :
      ShortAttempts meanwhile slot bytes s s₁ → Relation.ReflTransGen meanwhile s₁ s₂ →
      call.collector.slot = slot → call.prepare mem = .ok prepared →
      prepared.dst.len.toNat < bytes.length → Collects meanwhile mem call s₂ ending →
      ShortAttempts meanwhile slot bytes s ending.pta

/-- How a call with a short buffer ends: the length of the result is in the cell, the buffer
is zeroed where it is not the cell, nothing else has changed, and the slot keeps the result. -/
structure EndsShort (mem : Linear) (call : CollectCall) (bytes : List Byte)
    (ending : CollectEnding) : Prop where
  code : ending.code = teeErrorShortBuffer
  cell : ending.mem.word (clearSignatureAndTag call.dstBufLenAddr).toNat =
    BitVec.ofNat 32 bytes.length
  fits : bytes.length < 2 ^ 32
  zeroed : ∀ i, ¬call.cell.Covers i → (call.dst mem).Covers i → ending.mem.bytes i = 0
  frame : ∀ i, ¬call.cell.Covers i → ¬(call.dst mem).Covers i →
    ending.mem.bytes i = mem.bytes i
  kept : HoldsResult ending.pta call.collector.slot bytes

section Attempts

variable {s' : Pta}

theorem HoldsResult.endsShort (holds : HoldsResult s call.collector.slot bytes)
    (spares : Spares meanwhile call.collector.slot bytes)
    (passed : call.prepare mem = .ok prepared) (short : prepared.dst.len.toNat < bytes.length)
    (collects : Collects meanwhile mem call s ending) : EndsShort mem call bytes ending := by
  have accepted := CollectCall.accepted_of_prepare passed
  obtain ⟨before, reply, found, run, code, memory⟩ := collects.command passed spares holds
  have length := found.length
  obtain ⟨res, out, size, kept⟩ := found.getData_short accepted.slot
    ((mem.memref_size _).symm ▸ short) run
  have zeros : copiedBack prepared.dst.len reply = List.replicate (call.dst mem).len.toNat 0 := by
    rw [← accepted.dst]
    refine copiedBack_short out ?_
    rw [size, BitVec.toNat_setWidth_of_le (by decide)]
    omega
  have stored : ending.mem =
      (mem.store (call.dst mem).addr.toNat (List.replicate (call.dst mem).len.toNat 0)).store
        call.cell.addr.toNat (wordBytes (BitVec.ofNat 32 bytes.length)) := by
    rw [memory, CollectCall.collected, if_pos res, zeros, size, accepted.cell, accepted.dst,
      BitVec.setWidth_setWidth_of_le _ (by decide), BitVec.setWidth_eq, ← length,
      BitVec.ofNat_toNat, BitVec.setWidth_eq]
  have outsideCell (i : Nat) (outside : ¬call.cell.Covers i) : ending.mem.bytes i =
      (mem.store (call.dst mem).addr.toNat
        (List.replicate (call.dst mem).len.toNat 0)).bytes i := by
    rw [stored]
    refine Linear.store_of_outside _ ?_
    have four : (wordBytes (BitVec.ofNat 32 bytes.length)).length = call.cell.len.toNat := rfl
    unfold Range.Covers at outside
    omega
  refine ⟨?_, ?_, ?_, ?_, ?_, kept ▸ found⟩
  · rw [code, CollectCall.code, if_pos res]
  · rw [stored]
    exact Linear.word_store _ _
  · rw [← length]
    exact BitVec.isLt _
  · intro i outside covered
    obtain ⟨k, rfl⟩ := Nat.exists_eq_add_of_le covered.1
    rw [outsideCell _ outside]
    refine mem.store_of_inside ?_
    rw [List.getElem?_replicate, if_pos (Nat.add_lt_add_iff_left.mp covered.2)]
  · intro i outside uncovered
    rw [outsideCell i outside]
    refine mem.store_of_outside ?_
    rw [List.length_replicate]
    unfold Range.Covers at uncovered
    omega

/-- A result survives any number of attempts that are too short. -/
theorem HoldsResult.afterAttempts (holds : HoldsResult s slot bytes)
    (spares : Spares meanwhile slot bytes) (attempts : ShortAttempts meanwhile slot bytes s s') :
    HoldsResult s' slot bytes := by
  induction attempts with
  | none => exact holds
  | again _ steps isSlot passed short collects ih =>
    subst isSlot
    exact ((ih.spared spares steps).endsShort spares passed short collects).kept

theorem HoldsResult.delivered (holds : HoldsResult s call.collector.slot bytes)
    (spares : Spares meanwhile call.collector.slot bytes)
    (passed : call.prepare mem = .ok prepared) (fits : bytes.length ≤ prepared.dst.len.toNat)
    (collects : Collects meanwhile mem call s ending) (i : Nat) (byte : Byte)
    (atIndex : bytes[i]? = some byte) :
    ending.mem.bytes ((clearSignatureAndTag call.dstBufAddr).toNat + i) = byte := by
  have accepted := CollectCall.accepted_of_prepare passed
  obtain ⟨before, reply, found, run, code, memory⟩ := collects.command passed spares holds
  rw [← mem.memref_size] at fits
  obtain ⟨res, out, size⟩ := found.getData_data accepted.slot fits run
  have notShort : reply.res ≠ teeErrorShortBuffer := by
    rw [res]
    decide
  rw [memory, CollectCall.collected, if_neg notShort,
    copiedBack_out _ (size.trans (congrArg List.length out.symm)), out, accepted.dst]
  exact mem.store_of_inside atIndex

end Attempts

/-- Whatever the slot and the memory hold, a call that collects a result changes bytes of
the linear memory only, and of them only those of its buffer and of its cell.  When the
slot holds the result of a request that has succeeded, also after any number of attempts
with buffers that are too short, a call with a buffer that is too short stores the
length in the cell, zeroes the rest of the buffer, changes no other byte and keeps the
result, and a call with a buffer that is long enough ends and delivers the whole result. -/
theorem collection_frame (meanwhile : Pta → Pta → Prop) (mem : Linear) (call : CollectCall)
    (s : Pta) :
    (∀ ending, Collects meanwhile mem call s ending →
      ∀ i, ending.mem.bytes i ≠ mem.bytes i → call.MayChange mem i) ∧
    ∀ prepared bytes s', call.prepare mem = .ok prepared →
      Spares meanwhile call.collector.slot bytes → HoldsResult s call.collector.slot bytes →
      ShortAttempts meanwhile call.collector.slot bytes s s' →
      (prepared.dst.len.toNat < bytes.length →
        ∀ ending, Collects meanwhile mem call s' ending → EndsShort mem call bytes ending) ∧
      (bytes.length ≤ prepared.dst.len.toNat →
        (∃ ending, Collects meanwhile mem call s' ending) ∧
        ∀ ending, Collects meanwhile mem call s' ending → ∀ i byte, bytes[i]? = some byte →
          ending.mem.bytes ((clearSignatureAndTag call.dstBufAddr).toNat + i) = byte) := by
  constructor
  · intro ending collects i changed
    exact collects.frame changed
  · intro prepared bytes s' passed spares holds attempts
    have kept := holds.afterAttempts spares attempts
    constructor
    · intro short ending collects
      exact kept.endsShort spares passed short collects
    · intro fits
      exact ⟨kept.exists_collects meanwhile passed,
        fun ending collects => kept.delivered spares passed fits collects⟩

/-- A result of two bytes in the first slot of peripheral 4. -/
def twoByteResult : Pta where
  sigpending _ := 1
  pollTimes _ := 0
  sigusing _ := 1
  reqNums _ := 1
  signalTable _ := ⟨2, 0x1000, 2, 0⟩
  reqQueues _ := []
  heap := Heap.empty.alloc 0x1000 2 fun i => BitVec.ofNat 8 (26 + i)

theorem twoByteResult_holds : HoldsResult twoByteResult (4, 0) [26, 27] where
  inUse := by decide
  ready := by decide
  succeeded := by decide
  length := by decide
  held _ := ⟨by decide, by decide⟩

/-- A call with a buffer at address 32 and its length at address 16. -/
def twoByteCall : CollectCall where
  collector := .future 4 0
  dstBufAddr := signPtr 32 0xE5 0x12
  dstBufLenAddr := signPtr 16 0xE5 0x12

/-- A buffer of one byte is too short for the result, and the next call, with a buffer of
two bytes, gets it. -/
theorem collection_two_bytes :
    ∃ first second,
      Collects (fun _ _ => False) (onePage.store 16 (wordBytes 1)) twoByteCall twoByteResult first ∧
      EndsShort (onePage.store 16 (wordBytes 1)) twoByteCall [26, 27] first ∧
      Collects (fun _ _ => False) (onePage.store 16 (wordBytes 2)) twoByteCall first.pta second ∧
      second.mem.bytes 32 = 26 ∧ second.mem.bytes 33 = 27 := by
  have spares : Spares (fun _ _ => False) (4, 0) [26, 27] := fun _ _ step => step.elim
  have tooShort : twoByteCall.prepare (onePage.store 16 (wordBytes 1)) =
      .ok ⟨⟨16, 4⟩, ⟨32, 1⟩⟩ := rfl
  have enough : twoByteCall.prepare (onePage.store 16 (wordBytes 2)) = .ok ⟨⟨16, 4⟩, ⟨32, 2⟩⟩ := rfl
  obtain ⟨first, collects⟩ :=
    HoldsResult.exists_collects (fun _ _ => False) tooShort twoByteResult_holds
  have short := ((collection_frame (fun _ _ => False) _ twoByteCall twoByteResult).2 _ _ _
    tooShort spares twoByteResult_holds .none).1 (by decide) first collects
  have attempts : ShortAttempts (fun _ _ => False) (4, 0) [26, 27] twoByteResult first.pta :=
    .again .none .refl rfl tooShort (by decide) collects
  obtain ⟨⟨second, again⟩, delivers⟩ :=
    ((collection_frame (fun _ _ => False) _ twoByteCall twoByteResult).2 _ _ _
      enough spares twoByteResult_holds attempts).2 (by decide)
  exact ⟨first, second, collects, short, again, delivers second again 0 26 rfl,
    delivers second again 1 27 rfl⟩

/-- A call with a buffer of one byte is too short for the result and loses the byte that the
buffer held. -/
theorem collection_zeroes_short_buffer :
    let mem := (onePage.store 16 (wordBytes 1)).store 32 [7]
    ∃ ending, Collects (fun _ _ => False) mem twoByteCall twoByteResult ending ∧
      ending.code = teeErrorShortBuffer ∧ ¬twoByteCall.cell.Covers 32 ∧
      mem.bytes 32 = 7 ∧ ending.mem.bytes 32 = 0 := by
  intro mem
  have tooShort : twoByteCall.prepare mem = .ok ⟨⟨16, 4⟩, ⟨32, 1⟩⟩ := rfl
  obtain ⟨ending, collects⟩ :=
    HoldsResult.exists_collects (fun _ _ => False) tooShort twoByteResult_holds
  have short := twoByteResult_holds.endsShort (fun _ _ step => step.elim) tooShort
    (by decide) collects
  have outside : ¬twoByteCall.cell.Covers 32 := fun covered => absurd covered.2 (by decide)
  exact ⟨ending, collects, short.code, outside, rfl, short.zeroed 32 outside ⟨by decide, by decide⟩⟩

end TrustWasm.Native
