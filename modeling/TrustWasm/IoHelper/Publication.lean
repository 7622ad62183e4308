import TrustWasm.Drivers.Success
import TrustWasm.IoHelper.HeapInvariant

/-!
# Published results are initialised and in bounds

A handler is run with a check on each store: the store goes to a live block and
stays within its size.  When it returns with a code that is not negative, every
byte of the result it has published lies in a block allocated by this run and
was stored by the driver.  Both properties hold for some requests and fail for
others, and which of the two is decided by the parameters of the request.
-/

namespace TrustWasm.IoHelper

open TrustWasm.Lib TrustWasm.Tee TrustWasm.Drivers

/-- The operations, with a check of every store. -/
def checked : Semantics Helper Pta where
  guard s
    | .storeByte ptr offset _ => ∃ block, s.heap.blocks ptr = some block ∧ offset < block.size
    | _ => True
  step := helperStep

/-- When the entry of the slot reports success, each byte of its result lies in
a block that was not live before and was stored since. -/
def Initialised (before : Pta) (p q : Nat) (after : Pta) : Prop :=
  isNegative (after.entry p q).ret = false →
    ∀ offset < (after.entry p q).len.toNat,
      before.heap.blocks (after.entry p q).buf = none ∧
        ∃ block, after.heap.blocks (after.entry p q).buf = some block ∧
          offset < block.size ∧ block.written offset = true

variable {s after before : Pta} {p q : Nat} {block : Block Byte} {ptr buf : Ptr}
    {stores : List (Nat × Byte)} {call : DriverCall} {reply : Drivers.Reply} {code : TeeResult}
    {dev : BitVec 8} {size : BitVec 32} {req : IoReq}

section Rules

variable {α : Type} {post : α → Pta → Prop}

theorem checked_bind {op : HelperOp} {rest : Helper.Reply op → Program Helper α}
    (allowed : checked.guard s op)
    (second : ∀ reply after, helperStep s op reply after → (rest reply).Obeys checked post after) :
    (Program.perform (I := Helper) op >>= rest).Obeys checked post s :=
  ⟨allowed, second⟩

/-- Stores within a live block. -/
theorem storeAll_checked (live : s.heap.blocks ptr = some block)
    (within : ∀ store ∈ stores, store.1 < block.size) :
    (storeAll ptr stores).Obeys checked
      (fun _ after => after = { s with heap := s.heap.storeAll ptr stores }) s := by
  induction stores generalizing s block with
  | nil => exact rfl
  | cons first rest ih =>
    obtain ⟨stored, found, size, -⟩ := Heap.store_blocks_of_live live first.1 first.2
    refine checked_bind ⟨block, live, within first List.mem_cons_self⟩ ?_
    rintro _ _ rfl
    refine ih (s := { s with heap := s.heap.store ptr first.1 first.2 }) found
      fun store member => ?_
    rw [size]
    exact within store (List.mem_cons_of_mem _ member)

theorem storeAll_exec (s : Pta) (ptr : Ptr) (stores : List (Nat × Byte)) :
    (storeAll ptr stores).Exec checked s () { s with heap := s.heap.storeAll ptr stores } := by
  induction stores generalizing s with
  | nil => exact ⟨rfl, rfl⟩
  | cons first rest ih => exact ⟨(), _, rfl, ih _⟩

/-- A driver call whose region lies within a live block. -/
theorem callDriver_checked {out : Ptr} (live : s.heap.blocks out = some block)
    (within : ∀ offset, call.Region offset → offset < block.size) :
    (callDriver call out).Obeys checked
      (fun res after => ∃ reply, DeviceAllows call reply ∧ res = reply.res ∧
        after = { s with heap := s.heap.storeAll out reply.out }) s := by
  refine checked_bind trivial ?_
  rintro (reply : Drivers.Reply) _ ⟨allowed, rfl⟩
  have covers := covers_of_deviceAllows allowed
  refine (storeAll_checked live fun store member =>
    within _ (covers.within store.1 (List.mem_map_of_mem member))).bind ?_
  rintro _ _ rfl
  exact ⟨reply, allowed, rfl, rfl⟩

/-- A driver call that stores nothing. -/
theorem callDriver_checked_silent (out : Ptr)
    (silent : ∀ reply, DeviceAllows call reply → reply.out = []) :
    (callDriver call out).Obeys checked
      (fun res after => ∃ reply, DeviceAllows call reply ∧ res = reply.res ∧ after = s) s := by
  refine checked_bind trivial ?_
  rintro (reply : Drivers.Reply) _ ⟨allowed, rfl⟩
  rw [silent reply allowed]
  exact ⟨reply, allowed, rfl, rfl⟩

theorem callDriver_exec (allowed : DeviceAllows call reply) (s : Pta) (out : Ptr) :
    (callDriver call out).Exec checked s reply.res
      { s with heap := s.heap.storeAll out reply.out } := by
  refine ⟨reply, s, ⟨allowed, rfl⟩, ?_⟩
  change (storeAll out reply.out >>= fun _ => pure reply.res).Exec checked s reply.res _
  exact Program.exec_bind.mpr ⟨(), _, storeAll_exec s out reply.out, rfl, rfl⟩

theorem callDriver_exec_result {res : TeeResult} (allowed : DeviceAllows call (.ofResult res))
    (s : Pta) (out : Ptr) :
    (callDriver call out).Exec checked s res s :=
  callDriver_exec allowed s out

theorem initialised_of_negative (negative : isNegative (after.entry p q).ret = true) :
    Initialised before p q after := by
  intro success
  rw [negative] at success
  cases success

theorem setRet_checked (s : Pta) (p q : Nat) (negative : isNegative code = true) :
    (setRet p q code).Obeys checked (fun _ after => isNegative (after.entry p q).ret = true)
      s := by
  refine checked_bind trivial ?_
  rintro _ _ rfl
  rw [Program.obeys_pure, entry_setEntry_self]
  exact negative

theorem fail_checked (s : Pta) (p q : Nat) (negative : isNegative code = true) (before : Pta) :
    (do setRet p q code; return code : Program Helper TeeResult).Obeys checked
      (fun _ after => Initialised before p q after) s := by
  refine (setRet_checked s p q negative).bind ?_
  rintro _ _ reported
  exact initialised_of_negative reported

theorem failFreeing_checked (s : Pta) (p q : Nat) (negative : isNegative code = true)
    (before : Pta) :
    (do free ptr; setRet p q code; return code : Program Helper TeeResult).Obeys checked
      (fun _ after => Initialised before p q after) s := by
  refine checked_bind trivial ?_
  rintro _ after -
  exact fail_checked after p q negative before

/-- The entry of the slot holds the given result, and the heap is the given one. -/
structure Publishes (heap : Heap Ptr Byte) (p q : Nat) (ret len : BitVec 32) (buf : Ptr)
    (after : Pta) : Prop where
  heap : after.heap = heap
  ret : (after.entry p q).ret = ret
  len : (after.entry p q).len = len
  buf : (after.entry p q).buf = buf

theorem publishes_setEntries (s : Pta) (p q : Nat) (ret len : BitVec 32) (buf : Ptr) :
    let first := s.setEntry p q { s.entry p q with ret := ret }
    let second := first.setEntry p q { first.entry p q with len := len }
    Publishes s.heap p q ret len buf
      (second.setEntry p q { second.entry p q with buf := buf }) := by
  refine ⟨rfl, ?_, ?_, ?_⟩
  all_goals simp only [entry_setEntry_self]

theorem publish_checked (s : Pta) (p q : Nat) (ret len : BitVec 32) (buf : Ptr) :
    (publish p q ret len buf).Obeys checked
      (fun _ after => Publishes s.heap p q ret len buf after) s := by
  refine checked_bind trivial ?_
  rintro _ _ rfl
  refine checked_bind trivial ?_
  rintro _ _ rfl
  refine checked_bind trivial ?_
  rintro _ _ rfl
  exact publishes_setEntries s p q ret len buf

theorem publish_exec (s : Pta) (p q : Nat) (ret len : BitVec 32) (buf : Ptr) :
    ∃ after, (publish p q ret len buf).Exec checked s () after ∧
      Publishes s.heap p q ret len buf after :=
  ⟨_, ⟨(), _, rfl, (), _, rfl, (), _, rfl, rfl, rfl⟩, publishes_setEntries s p q ret len buf⟩

end Rules

/-! ## Buses -/

theorem acquired_iff : DeviceAllows (.i2cAcquire dev) reply ↔
    reply = .ofResult (if i2cNum ≤ dev.toNat then teeErrorBadParameters else teeSuccess) := by
  constructor
  · rintro ⟨res, _, allowed, rfl, -⟩
    exact congrArg Reply.ofResult allowed
  · rintro rfl
    exact ⟨_, (), rfl, rfl, rfl⟩

theorem acquire_allowed (valid : dev.toNat < i2cNum) :
    DeviceAllows (.i2cAcquire dev) (.ofResult teeSuccess) := by
  rw [acquired_iff, if_neg (Nat.not_le.mpr valid)]

theorem release_allowed (valid : dev.toNat < i2cNum) :
    DeviceAllows (.i2cRelease dev) (.ofResult teeSuccess) :=
  ⟨teeSuccess, (), i2cRelease_allowed valid, rfl, rfl⟩

theorem valid_of_acquired (acquired : DeviceAllows (.i2cAcquire dev) reply)
    (succeeded : reply.res = teeSuccess) :
    dev.toNat < i2cNum := by
  rw [acquired_iff] at acquired
  by_contra invalid
  rw [acquired, if_pos (Nat.not_lt.mp invalid)] at succeeded
  exact absurd succeeded (show teeErrorBadParameters ≠ teeSuccess by decide)

/-! ## Handlers of one driver call -/

/-- The result of a successful call would be published with a byte the call does
not store. -/
def LeavesGap (size : BitVec 32) (call : DriverCall) : Prop :=
  isNegative size = false ∧ call.CanSucceed ∧ ∃ offset < size.toNat, ¬call.Region offset

section Samples

variable {heap : Heap Ptr Byte} {noMemory : TeeResult}

/-- A result published after all its bytes have been stored to a new block. -/
theorem initialised_of_publishes {junk : Nat → Byte} (fresh : before.heap.blocks buf = none)
    (filled : isNegative size = false → ∀ offset < size.toNat, offset ∈ stores.map (·.1))
    (publishes : Publishes ((heap.alloc buf size.toNat junk).storeAll buf stores) p q size size
      buf after) :
    Initialised before p q after := by
  obtain ⟨sameHeap, ret, len, entryBuf⟩ := publishes
  intro success offset inside
  rw [ret] at success
  rw [len] at inside
  rw [entryBuf, sameHeap]
  obtain ⟨block, found, blockSize, written⟩ :=
    Heap.storeAll_blocks_of_live (Heap.alloc_blocks_self heap buf size.toNat junk) stores
  refine ⟨fresh, block, found, ?_, (written offset).mpr (.inr (filled success offset inside))⟩
  rw [blockSize]
  exact inside

/-- A result published with a byte nothing was stored to. -/
theorem not_initialised_of_publishes {junk : Nat → Byte} {offset : Nat}
    (nonnegative : isNegative size = false) (inside : offset < size.toNat)
    (gap : offset ∉ stores.map (·.1))
    (publishes : Publishes ((heap.alloc buf size.toNat junk).storeAll buf stores) p q size size
      buf after) :
    ¬Initialised before p q after := by
  obtain ⟨sameHeap, ret, len, entryBuf⟩ := publishes
  intro initialised
  obtain ⟨-, block, found, -, isWritten⟩ :=
    initialised (by rw [ret]; exact nonnegative) offset (by rw [len]; exact inside)
  obtain ⟨block', found', -, written⟩ :=
    Heap.storeAll_blocks_of_live (Heap.alloc_blocks_self heap buf size.toNat junk) stores
  rw [entryBuf, sameHeap] at found
  cases found.symm.trans found'
  rcases (written offset).mp isWritten with junkWritten | stored
  · cases junkWritten
  · exact gap stored

/-- Without a gap a successful call stores all of the result. -/
theorem filled_of_noGap (noGap : ¬LeavesGap size call) (allowed : DeviceAllows call reply)
    (succeeded : reply.res = teeSuccess) (nonnegative : isNegative size = false) (offset : Nat)
    (inside : offset < size.toNat) :
    offset ∈ reply.offsets := by
  refine (covers_of_deviceAllows allowed).all succeeded offset ?_
  by_contra gap
  exact noGap ⟨nonnegative, ⟨reply, allowed, succeeded⟩, offset, inside, gap⟩

theorem handleSample_checked (negative : isNegative noMemory = true)
    (within : ∀ offset, call.Region offset → offset < size.toNat) (noGap : ¬LeavesGap size call) :
    (handleSample size noMemory call req p).Obeys checked
      (fun _ after => Initialised s p req.signo after) s := by
  refine checked_bind trivial ?_
  rintro (buf : Ptr) _ (⟨rfl, rfl⟩ | ⟨notNull, fresh, junk, rfl⟩)
  · rw [if_pos rfl]
    exact fail_checked _ p req.signo negative _
  · rw [if_neg notNull]
    refine (callDriver_checked (Heap.alloc_blocks_self _ _ _ _) within).bind ?_
    rintro _ _ ⟨reply, allowed, rfl, rfl⟩
    split
    · rename_i failed
      exact failFreeing_checked _ p req.signo (negative_of_allows allowed failed) s
    · rename_i succeeded
      refine (publish_checked _ _ _ _ _ _).bind fun _ after publishes => ?_
      exact initialised_of_publishes fresh
        (filled_of_noGap noGap allowed (not_not.mp succeeded)) publishes

theorem handleSample_leaves_gap (gap : LeavesGap size call) :
    ¬(handleSample size noMemory call req p).Obeys checked
      (fun _ after => Initialised Pta.zero p req.signo after) Pta.zero := by
  obtain ⟨nonnegative, ⟨reply, allowed, succeeded⟩, offset, inside, notStored⟩ := gap
  intro obeys
  have called := obeys.rest_of_step (1 : Ptr) (.inr ⟨by decide, rfl, fun _ => 0, rfl⟩)
  rw [if_neg (by decide)] at called
  have published := called.rest_of_exec (callDriver_exec allowed _ _)
  rw [if_neg (not_not_intro (show reply.res = teeSuccess from succeeded))] at published
  obtain ⟨after, run, publishes⟩ := publish_exec _ p req.signo size size 1
  refine not_initialised_of_publishes nonnegative inside ?_ publishes (published.rest_of_exec run)
  exact fun stored => notStored ((covers_of_deviceAllows allowed).within offset stored)

/-- A call without a region stores nothing. -/
theorem silent_of_region (none : ∀ offset, ¬call.Region offset) (reply : Drivers.Reply)
    (allowed : DeviceAllows call reply) : reply.out = [] := by
  rw [← List.map_eq_nil_iff, List.eq_nil_iff_forall_not_mem]
  exact fun offset member => none offset ((covers_of_deviceAllows allowed).within offset member)

theorem silent_bind {α : Type} {post : α → Pta → Prop} {rest : TeeResult → Program Helper α}
    (none : ∀ offset, ¬call.Region offset)
    (second : ∀ reply, DeviceAllows call reply → (rest reply.res).Obeys checked post s) :
    (callDriver call null >>= rest).Obeys checked post s := by
  refine (callDriver_checked_silent null (silent_of_region none)).bind ?_
  rintro _ _ ⟨reply, allowed, rfl, rfl⟩
  exact second reply allowed

theorem handleI2cRead_checked (within : ∀ offset, call.Region offset → offset < size.toNat)
    (noGap : (i2cOf p).toNat < i2cNum → ¬LeavesGap size call) :
    (handleI2cRead size call req p).Obeys checked
      (fun _ after => Initialised s p req.signo after) s := by
  refine checked_bind trivial ?_
  rintro (buf : Ptr) _ (⟨rfl, rfl⟩ | ⟨notNull, fresh, junk, rfl⟩)
  · rw [if_pos rfl]
    exact fail_checked _ p req.signo (by decide) _
  · rw [if_neg notNull]
    refine silent_bind (fun _ => id) fun acquire acquired => ?_
    split
    · rename_i failed
      exact failFreeing_checked _ p req.signo (negative_of_allows acquired failed) s
    · rename_i valid
      refine (callDriver_checked (Heap.alloc_blocks_self _ _ _ _) within).bind ?_
      rintro _ _ ⟨reply, allowed, rfl, rfl⟩
      refine silent_bind (fun _ => id) fun _ _ => ?_
      split
      · rename_i failed
        exact failFreeing_checked _ p req.signo (negative_of_allows allowed failed) s
      · rename_i succeeded
        refine (publish_checked _ _ _ _ _ _).bind fun _ after publishes => ?_
        have isValid := valid_of_acquired acquired (not_not.mp valid)
        exact initialised_of_publishes fresh
          (filled_of_noGap (noGap isValid) allowed (not_not.mp succeeded)) publishes

theorem handleI2cRead_leaves_gap (valid : (i2cOf p).toNat < i2cNum) (gap : LeavesGap size call) :
    ¬(handleI2cRead size call req p).Obeys checked
      (fun _ after => Initialised Pta.zero p req.signo after) Pta.zero := by
  obtain ⟨nonnegative, ⟨reply, allowed, succeeded⟩, offset, inside, notStored⟩ := gap
  intro obeys
  have acquired := obeys.rest_of_step (1 : Ptr) (.inr ⟨by decide, rfl, fun _ => 0, rfl⟩)
  rw [if_neg (by decide)] at acquired
  have called := acquired.rest_of_exec (callDriver_exec_result (acquire_allowed valid) _ _)
  rw [if_neg (not_not_intro rfl)] at called
  have released := called.rest_of_exec (callDriver_exec allowed _ _)
  have published := released.rest_of_exec (callDriver_exec_result (release_allowed valid) _ _)
  rw [if_neg (not_not_intro (show reply.res = teeSuccess from succeeded))] at published
  obtain ⟨after, run, publishes⟩ := publish_exec _ p req.signo size size 1
  refine not_initialised_of_publishes nonnegative inside ?_ publishes (published.rest_of_exec run)
  exact fun stored => notStored ((covers_of_deviceAllows allowed).within offset stored)

end Samples

/-! ## The other handlers -/

theorem initialised_of_empty (empty : (after.entry p q).len = 0) :
    Initialised before p q after := by
  intro _ offset inside
  rw [empty] at inside
  exact absurd inside (Nat.not_lt_zero offset)

/-- Freeing another block keeps what is said of the result. -/
theorem initialised_free_iff (distinct : (after.entry p q).buf ≠ ptr) :
    Initialised before p q { after with heap := after.heap.free ptr } ↔
      Initialised before p q after := by
  change (_ → ∀ offset < _, _ ∧ ∃ block, (after.heap.free ptr).blocks (after.entry p q).buf =
    some block ∧ _) ↔ _
  rw [Heap.free_blocks_of_ne _ distinct]
  rfl

theorem loadFrom_checked (ptr : Ptr) (count offset : Nat) :
    (loadFrom ptr count offset).Obeys checked (fun _ after => after = s) s := by
  induction count generalizing offset with
  | zero => exact rfl
  | succ count ih =>
    refine checked_bind trivial ?_
    rintro byte _ ⟨rfl, -⟩
    refine (ih (offset + 1)).bind_at fun rest => ?_
    exact rfl

theorem sourceBytes_checked (param : TeeParam) :
    (sourceBytes param).Obeys checked (fun _ after => after = s) s := by
  unfold sourceBytes
  split
  · exact rfl
  · refine (loadFrom_checked _ _ _).bind_at fun bytes => ?_
    exact rfl

theorem handleMpu6050Sample_checked :
    (handleMpu6050Sample req p).Obeys checked
      (fun _ after => Initialised s p req.signo after) s := by
  refine checked_bind trivial ?_
  rintro (data : Ptr) _ (⟨rfl, rfl⟩ | ⟨notNull, fresh, junk, rfl⟩)
  · refine (callDriver_checked_silent null fun reply allowed =>
      (mpuSample_null_fails allowed).2).bind ?_
    rintro _ _ ⟨reply, allowed, rfl, rfl⟩
    rw [if_pos (mpuSample_null_fails allowed).1]
    exact failFreeing_checked _ p req.signo
      (negative_of_allows allowed (mpuSample_null_fails allowed).1) _
  · refine Program.Obeys.bind (callDriver_checked (Heap.alloc_blocks_self _ _ _ _)
      fun offset inside => inside) ?_
    rintro _ _ ⟨reply, allowed, rfl, rfl⟩
    split
    · rename_i failed
      exact failFreeing_checked _ p req.signo (negative_of_allows allowed failed) s
    · rename_i succeeded
      refine (publish_checked _ _ _ _ _ _).bind fun _ after publishes => ?_
      have filled : Publishes ((s.heap.alloc data (14 : BitVec 32).toNat junk).storeAll data
        reply.out) p req.signo 14 14 data after := publishes
      refine initialised_of_publishes fresh ?_ filled
      exact fun _ => (covers_of_deviceAllows allowed).all (not_not.mp succeeded)

theorem handleI2cWriteBytes_checked :
    (handleI2cWriteBytes req p).Obeys checked
      (fun _ after => Initialised s p req.signo after) s := by
  refine silent_bind (fun _ => id) fun acquire acquired => ?_
  split
  · rename_i failed
    exact fail_checked _ p req.signo (negative_of_allows acquired failed) _
  · refine (sourceBytes_checked _).bind_at fun data => ?_
    refine silent_bind (fun _ => id) fun res _ => ?_
    refine silent_bind (fun _ => id) fun _ _ => ?_
    refine (publish_checked _ _ _ _ _ _).bind fun _ after publishes => ?_
    refine checked_bind trivial ?_
    rintro _ _ rfl
    exact initialised_of_empty publishes.len

theorem handleAt24cxxWrite_checked :
    (handleAt24cxxWrite req p).Obeys checked
      (fun _ after => Initialised s p req.signo after) s := by
  refine (sourceBytes_checked _).bind_at fun data => ?_
  refine silent_bind (fun _ => id) fun res _ => ?_
  refine (publish_checked _ _ _ _ _ _).bind fun _ after publishes => ?_
  refine checked_bind trivial ?_
  rintro _ _ rfl
  exact initialised_of_empty publishes.len

theorem handleAtk301GetFingerprintImage_checked :
    (handleAtk301GetFingerprintImage req p).Obeys checked
      (fun _ after => Initialised s p req.signo after) s := by
  refine silent_bind (fun _ => id) fun res _ => ?_
  refine (publish_checked _ _ _ _ _ _).bind fun _ after publishes => ?_
  exact initialised_of_empty publishes.len

theorem storage_checked (call : StorageCall) :
    (storage call).Obeys checked (fun reply after => StorageAllows call reply ∧ after = s) s :=
  ⟨trivial, fun _ _ step => step⟩

/-- A storage call whose answer is dropped. -/
theorem storage_dropped {α : Type} {post : α → Pta → Prop} (call : StorageCall)
    {rest : Program Helper α} (second : rest.Obeys checked post s) :
    (storage call >>= fun _ => rest).Obeys checked post s := by
  refine (storage_checked call).bind ?_
  rintro _ _ ⟨-, rfl⟩
  exact second

theorem handleWriteSecureObject_checked :
    (handleWriteSecureObject req p).Obeys checked
      (fun _ after => Initialised s p req.signo after) s := by
  have reported (res : TeeResult) : (do
      publish p req.signo res 0 null
      free req.p0.buffer
      free req.p1.buffer
      return res : Program Helper TeeResult).Obeys checked
        (fun _ after => Initialised s p req.signo after) s := by
    refine (publish_checked _ _ _ _ _ _).bind fun _ after publishes => ?_
    refine checked_bind trivial ?_
    rintro _ _ rfl
    refine checked_bind trivial ?_
    rintro _ _ rfl
    exact initialised_of_empty publishes.len
  refine (loadFrom_checked _ _ _).bind_at fun id => ?_
  refine (storage_checked _).bind ?_
  rintro created s ⟨-, rfl⟩
  dsimp only
  split
  · exact reported created.res
  · refine (loadFrom_checked _ _ _).bind_at fun data => ?_
    refine (storage_checked _).bind ?_
    rintro written s ⟨-, rfl⟩
    split
    · exact storage_dropped _ (reported written.res)
    · exact storage_dropped _ (reported written.res)

/-- A buffer that is live is no block allocated later. -/
theorem ne_of_fresh (first : ptr = null ∨ s.heap.Live ptr) (notNull : buf ≠ null)
    (fresh : s.heap.blocks buf = none) : buf ≠ ptr := by
  rintro rfl
  rcases first with isNull | live
  · exact notNull isNull
  · exact live fresh

/-- The bytes storage has counted are all those of the object. -/
theorem length_of_read {obj dataSize : BitVec 32} {read : StorageReply}
    (allowed : StorageAllows (.objRead obj dataSize) read) (succeeded : read.res = teeSuccess)
    (counted : dataSize = read.value.setWidth 32) : read.bytes.length = dataSize.toNat := by
  obtain ⟨-, bound, exact⟩ := allowed
  have value := exact succeeded
  have small := dataSize.isLt
  rw [counted, BitVec.toNat_setWidth, value, Nat.mod_eq_of_lt (by omega)]

theorem readSecureObject_checked (first : req.p0.buffer = null ∨ s.heap.Live req.p0.buffer) :
    (readSecureObject req p).Obeys checked
      (fun _ after => Initialised s p req.signo
        { after with heap := after.heap.free req.p0.buffer }) s := by
  have failed {s' : Pta} {code : TeeResult} (negative : isNegative code = true) :
      (do setRet p req.signo code; return code : Program Helper TeeResult).Obeys checked
        (fun _ after => Initialised s p req.signo
          { after with heap := after.heap.free req.p0.buffer }) s' := by
    refine (setRet_checked s' p req.signo negative).bind ?_
    rintro _ _ reported
    exact initialised_of_negative reported
  refine (loadFrom_checked _ _ _).bind_at fun id => ?_
  refine (storage_checked _).bind ?_
  rintro opened s ⟨openedOk, rfl⟩
  split
  · rename_i openFailed
    exact failed (openedOk.1.isNegative openFailed)
  · refine (storage_checked _).bind ?_
    rintro info s ⟨infoOk, rfl⟩
    split
    · rename_i infoFailed
      exact failed (infoOk.1.isNegative infoFailed)
    · refine checked_bind trivial ?_
      rintro (buf : Ptr) after (⟨rfl, rfl⟩ | ⟨notNull, fresh, junk, rfl⟩)
      · rw [if_pos rfl]
        refine (setRet_checked _ p req.signo (by decide)).bind ?_
        rintro _ _ reported
        exact storage_dropped _ (initialised_of_negative reported)
      · rw [if_neg notNull]
        have closed {s' : Pta} {code : TeeResult} (negative : isNegative code = true)
            (obj : BitVec 32) : (do
              setRet p req.signo code
              let _ ← storage (.objClose obj)
              free buf
              return code : Program Helper TeeResult).Obeys checked
                (fun _ after => Initialised s p req.signo
                  { after with heap := after.heap.free req.p0.buffer }) s' := by
          refine (setRet_checked s' p req.signo negative).bind ?_
          rintro _ _ reported
          refine storage_dropped _ (checked_bind trivial ?_)
          rintro _ _ rfl
          exact initialised_of_negative reported
        refine (storage_checked _).bind ?_
        rintro read _ ⟨readOk, rfl⟩
        refine (storeAll_checked (Heap.alloc_blocks_self _ _ _ _) ?_).bind ?_
        · intro store member
          have range := (mem_storesFrom.mp (List.mem_map_of_mem member)).2
          exact Nat.lt_of_lt_of_le range (by rw [Nat.zero_add]; exact readOk.2.1)
        · rintro _ _ rfl
          dsimp only
          split
          · rename_i readFailed
            exact closed (readOk.1.isNegative readFailed) _
          · rename_i succeeded
            split
            · exact closed (by decide) _
            · rename_i counted
              refine (publish_checked _ _ _ _ _ _).bind ?_
              rintro _ after publishes
              have distinct : (after.entry p req.signo).buf ≠ req.p0.buffer := by
                rw [publishes.buf]
                exact ne_of_fresh first notNull fresh
              refine (initialised_free_iff distinct).mpr
                (initialised_of_publishes fresh ?_ publishes)
              intro _ offset inside
              rw [mem_storesFrom, Nat.zero_add, length_of_read readOk (not_not.mp succeeded)
                (not_not.mp counted)]
              exact ⟨Nat.zero_le _, inside⟩

theorem handleReadSecureObject_checked (first : req.p0.buffer = null ∨ s.heap.Live req.p0.buffer) :
    (handleReadSecureObject req p).Obeys checked
      (fun _ after => Initialised s p req.signo after) s := by
  refine (readSecureObject_checked first).bind ?_
  rintro res after initialised
  refine checked_bind trivial ?_
  rintro _ _ rfl
  exact initialised

/-! ## SPI exchanges -/

/-- The bus and the chip select of the request exist. -/
def SpiReady (req : IoReq) (p : Nat) : Prop :=
  (spiOf p).toNat < spiNum ∧ (req.p1.a.setWidth 8 : BitVec 8).toNat < spiCsNum

instance (req : IoReq) (p : Nat) : Decidable (SpiReady req p) :=
  inferInstanceAs (Decidable (_ ∧ _))

/-- The bytes the transfer stores: the read length without a source, and the
length of the source with one. -/
def transferLen (req : IoReq) : Nat :=
  if req.p2.b = 0 then 0
  else if req.p0.size = 0 then req.p2.b.toNat
  else req.p0.size.toNat

section Spi

variable {source : Option (List Byte)}

theorem spiTransferCall_region (offset : Nat) :
    (spiTransferCall req p source).Region offset ↔ offset < transferLen req := by
  unfold spiTransferCall transferLen
  dsimp only
  split
  · simp [DriverCall.Region]
  · split
    · simp only [DriverCall.Region, true_and, BitVec.toNat_setWidth]
      rw [Nat.mod_eq_of_lt (by omega)]
    · simp [DriverCall.Region]

theorem spiTransferCall_allowed (reads : req.p2.b ≠ 0) :
    DeviceAllows (spiTransferCall req p source)
      (Transfer.toReply ⟨teeSuccess, List.replicate (transferLen req) 0⟩) := by
  have allowed (bus cs : BitVec 8) (cont : Bool) (out : Option (List Byte)) (len : BitVec 64) :
      DeviceAllows (.spiTransferBytes bus cs cont out false len)
        (Transfer.toReply ⟨teeSuccess, List.replicate len.toNat 0⟩) :=
    ⟨⟨teeSuccess, List.replicate len.toNat 0⟩, (), ⟨.inl rfl, by simp, by simp⟩, rfl, rfl⟩
  unfold spiTransferCall transferLen
  dsimp only
  rw [if_neg reads, if_neg reads]
  split
  · have same : (req.p2.b.setWidth 64).toNat = req.p2.b.toNat := by
      rw [BitVec.toNat_setWidth, Nat.mod_eq_of_lt (by omega)]
    rw [← same]
    exact allowed _ _ _ _ _
  · exact allowed _ _ _ _ _

theorem spiAcquired_iff {mode clk : BitVec 32} :
    DeviceAllows (.spiAcquire (spiOf p) (req.p1.a.setWidth 8) mode clk) reply ↔
      reply = .ofResult (if SpiReady req p then teeSuccess else teeErrorBadParameters) := by
  have answer : (if spiNum ≤ (spiOf p).toNat ∨
      spiCsNum ≤ (req.p1.a.setWidth 8 : BitVec 8).toNat then
      teeErrorBadParameters else teeSuccess) =
        if SpiReady req p then teeSuccess else teeErrorBadParameters := by
    simp only [SpiReady, ← not_le, ← not_or, ite_not]
  rw [← answer]
  constructor
  · rintro ⟨res, _, allowed, rfl, -⟩
    exact congrArg Reply.ofResult allowed
  · rintro rfl
    exact ⟨_, (), rfl, rfl, rfl⟩

theorem spiReady_of_acquired {mode clk : BitVec 32}
    (acquired : DeviceAllows (.spiAcquire (spiOf p) (req.p1.a.setWidth 8) mode clk) reply)
    (succeeded : reply.res = teeSuccess) : SpiReady req p := by
  by_contra missing
  rw [spiAcquired_iff.mp acquired, if_neg missing] at succeeded
  exact absurd succeeded (show teeErrorBadParameters ≠ teeSuccess by decide)

theorem spiAcquire_allowed (ready : SpiReady req p) (mode clk : BitVec 32) :
    DeviceAllows (.spiAcquire (spiOf p) (req.p1.a.setWidth 8) mode clk) (.ofResult teeSuccess) := by
  rw [spiAcquired_iff, if_pos ready]

theorem spiRelease_allowed (ready : SpiReady req p) :
    DeviceAllows (.spiRelease (spiOf p)) (.ofResult teeSuccess) :=
  ⟨teeSuccess, (), (if_neg (Nat.not_le.mpr ready.1)).symm, rfl, rfl⟩

/-- The exchange, with what its transfer stores and what it publishes left to
the two cases of its read buffer. -/
theorem spiTransferWith_checked
    (stores : SpiReady req p → ∀ source, (callDriver (spiTransferCall req p source) buf).Obeys
      checked (fun res after => ∃ reply, DeviceAllows (spiTransferCall req p source) reply ∧
        res = reply.res ∧ after = { s with heap := s.heap.storeAll buf reply.out }) s)
    (publishes : SpiReady req p → ∀ source reply after,
      DeviceAllows (spiTransferCall req p source) reply → reply.res = teeSuccess →
      Publishes (s.heap.storeAll buf reply.out) p req.signo req.p2.b req.p2.b buf after →
      Initialised before p req.signo { after with heap := after.heap.free req.p0.buffer }) :
    (spiTransferWith buf req p).Obeys checked
      (fun _ after => Initialised before p req.signo after) s := by
  refine silent_bind (fun _ => id) fun acquire acquired => ?_
  split
  · rename_i failed
    refine (setRet_checked _ p req.signo (negative_of_allows acquired failed)).bind ?_
    rintro _ _ reported
    refine checked_bind trivial ?_
    rintro _ _ rfl
    exact initialised_of_negative reported
  · rename_i valid
    have ready := spiReady_of_acquired acquired (not_not.mp valid)
    refine (sourceBytes_checked _).bind_at fun source => ?_
    refine (stores ready source).bind ?_
    rintro _ _ ⟨reply, allowed, rfl, rfl⟩
    refine silent_bind (fun _ => id) fun _ _ => ?_
    split
    · rename_i failed
      refine checked_bind trivial ?_
      rintro _ _ -
      exact failFreeing_checked _ p req.signo (negative_of_allows allowed failed) before
    · rename_i succeeded
      refine (publish_checked _ _ _ _ _ _).bind fun _ after published => ?_
      refine checked_bind trivial ?_
      rintro _ _ rfl
      exact publishes ready source reply after allowed (not_not.mp succeeded) published

/-- The read buffer is as long as the transfer, or its length reads as a negative
result. -/
def SpiFits (req : IoReq) : Prop :=
  transferLen req ≤ req.p2.b.toNat ∧
    (isNegative req.p2.b = true ∨ req.p2.b.toNat ≤ transferLen req)

instance (req : IoReq) : Decidable (SpiFits req) :=
  inferInstanceAs (Decidable (_ ∧ _))

theorem handleSpiTransferBytes_checked (first : req.p0.buffer = null ∨ s.heap.Live req.p0.buffer)
    (fits : SpiReady req p → SpiFits req) :
    (handleSpiTransferBytes req p).Obeys checked
      (fun _ after => Initialised s p req.signo after) s := by
  unfold handleSpiTransferBytes
  split
  · rename_i reads
    refine checked_bind trivial ?_
    rintro (buf : Ptr) _ (⟨rfl, rfl⟩ | ⟨notNull, fresh, junk, rfl⟩)
    · rw [if_pos rfl]
      exact fail_checked _ p req.signo (by decide) _
    · rw [if_neg notNull]
      refine spiTransferWith_checked ?_ ?_
      · intro ready source
        refine callDriver_checked (Heap.alloc_blocks_self _ _ _ _) fun offset inside => ?_
        exact Nat.lt_of_lt_of_le ((spiTransferCall_region offset).mp inside) (fits ready).1
      · intro ready source reply after allowed succeeded published
        have distinct : (after.entry p req.signo).buf ≠ req.p0.buffer := by
          rw [published.buf]
          exact ne_of_fresh first notNull fresh
        refine (initialised_free_iff distinct).mpr (initialised_of_publishes fresh ?_ published)
        intro nonnegative offset inside
        refine (covers_of_deviceAllows allowed).all succeeded offset ?_
        rw [spiTransferCall_region]
        rcases (fits ready).2 with negative | covered
        · rw [nonnegative] at negative
          cases negative
        · omega
  · rename_i silent
    have nothing : req.p2.b = 0 := by
      apply BitVec.eq_of_toNat_eq
      simpa using silent
    refine spiTransferWith_checked ?_ ?_
    · intro _ source
      have noRegion (offset : Nat) : ¬(spiTransferCall req p source).Region offset := by
        rw [spiTransferCall_region, transferLen, if_pos nothing]
        exact Nat.not_lt_zero offset
      have noStore := silent_of_region noRegion
      refine (callDriver_checked_silent null noStore).mono ?_
      rintro _ _ ⟨reply, allowed, rfl, rfl⟩
      refine ⟨reply, allowed, rfl, ?_⟩
      rw [noStore reply allowed]
      rfl
    · intro _ source reply after _ _ published
      exact initialised_of_empty (published.len.trans nothing)

theorem loadFrom_exec (s : Pta) (ptr : Ptr) (count offset : Nat) :
    ∃ bytes, (loadFrom ptr count offset).Exec checked s bytes s := by
  induction count generalizing offset with
  | zero => exact ⟨[], rfl, rfl⟩
  | succ count ih =>
    obtain ⟨rest, run⟩ := ih (offset + 1)
    have byte : ∃ byte, ∀ block, s.heap.blocks ptr = some block → byte = block.bytes offset := by
      cases found : s.heap.blocks ptr with
      | none => exact ⟨0, fun block other => by cases other⟩
      | some block => exact ⟨block.bytes offset, fun other same => by cases same; rfl⟩
    obtain ⟨byte, read⟩ := byte
    refine ⟨byte :: rest, byte, s, ⟨rfl, read⟩, ?_⟩
    change (loadFrom ptr count (offset + 1) >>= fun rest => pure (byte :: rest)).Exec _ _ _ _
    exact Program.exec_bind.mpr ⟨rest, s, run, rfl, rfl⟩

theorem sourceBytes_exec (s : Pta) (param : TeeParam) :
    ∃ source, (sourceBytes param).Exec checked s source s := by
  unfold sourceBytes
  split
  · exact ⟨none, rfl, rfl⟩
  · obtain ⟨bytes, run⟩ := loadFrom_exec s param.buffer param.size.toNat 0
    exact ⟨some bytes, Program.exec_bind.mpr ⟨bytes, s, run, rfl, rfl⟩⟩

/-- Checked stores stay within the block. -/
theorem within_of_storeAll {α : Type} {post : α → Pta → Prop} {rest : Unit → Program Helper α}
    (live : s.heap.blocks ptr = some block)
    (obeys : (storeAll ptr stores >>= rest).Obeys checked post s) :
    ∀ store ∈ stores, store.1 < block.size := by
  induction stores generalizing s block with
  | nil => simp
  | cons first others ih =>
    obtain ⟨⟨found, isFound, inside⟩, tail⟩ := obeys
    cases live.symm.trans isFound
    obtain ⟨stored, isStored, size, -⟩ := Heap.store_blocks_of_live live first.1 first.2
    intro store member
    rcases List.mem_cons.mp member with rfl | member
    · exact inside
    · rw [← size]
      exact ih isStored (tail () _ rfl) store member

theorem storeAll_of_callDriver {α : Type} {post : α → Pta → Prop}
    {rest : TeeResult → Program Helper α} {out : Ptr}
    (obeys : (callDriver call out >>= rest).Obeys checked post s)
    (allowed : DeviceAllows call reply) :
    (storeAll out reply.out >>= fun _ => rest reply.res).Obeys checked post s := by
  unfold callDriver at obeys
  simp only [bind_assoc, pure_bind] at obeys
  exact obeys.rest_of_step reply ⟨allowed, rfl⟩

/-- A state in which the source buffer of the request is the only block. -/
def sourceOnly (req : IoReq) : Pta :=
  { Pta.zero with heap := Heap.empty.alloc req.p0.buffer req.p0.size.toNat fun _ => 0 }

theorem sourceOnly_live (req : IoReq) : (sourceOnly req).heap.Live req.p0.buffer := by
  unfold Heap.Live sourceOnly
  rw [Heap.alloc_blocks_self]
  exact Option.some_ne_none _

theorem exists_other_ptr (ptr : Ptr) : ∃ other, other ≠ null ∧ other ≠ ptr := by
  by_cases isOne : ptr = 1
  · subst isOne
    exact ⟨2, by decide, by decide⟩
  · exact ⟨1, by decide, fun same => isOne same.symm⟩

theorem handleSpiTransferBytes_misfits (ready : SpiReady req p) (misfit : ¬SpiFits req) :
    ¬(handleSpiTransferBytes req p).Obeys checked
      (fun _ after => Initialised (sourceOnly req) p req.signo after) (sourceOnly req) := by
  have reads : req.p2.b ≠ 0 := by
    intro nothing
    refine misfit ⟨?_, .inr ?_⟩
    · rw [transferLen, if_pos nothing]
      exact Nat.zero_le _
    · rw [nothing]
      exact Nat.zero_le _
  intro obeys
  unfold handleSpiTransferBytes at obeys
  rw [if_pos (Nat.pos_of_ne_zero fun zero => reads (BitVec.eq_of_toNat_eq zero))] at obeys
  obtain ⟨buf, notNull, distinct⟩ := exists_other_ptr req.p0.buffer
  have started := obeys.rest_of_step buf
    (.inr ⟨notNull, Heap.alloc_blocks_of_ne _ _ _ distinct, fun _ => 0, rfl⟩)
  rw [if_neg notNull] at started
  have acquired := started.rest_of_exec (callDriver_exec_result (spiAcquire_allowed ready _ _) _ _)
  rw [if_neg (not_not_intro rfl)] at acquired
  obtain ⟨source, load⟩ := sourceBytes_exec _ req.p0
  have loaded := acquired.rest_of_exec load
  have allowed : DeviceAllows (spiTransferCall req p source) _ := spiTransferCall_allowed reads
  have stored (offset : Nat) :
      offset ∈ (Transfer.toReply ⟨teeSuccess, List.replicate (transferLen req) 0⟩).offsets ↔
        offset < transferLen req := by
    simp [Reply.offsets, Transfer.toReply, mem_storesFrom]
  by_cases overflow : req.p2.b.toNat < transferLen req
  · -- the store behind the last byte of the read buffer
    obtain ⟨store, member, same⟩ := List.mem_map.mp ((stored _).mpr overflow)
    have inside := within_of_storeAll (Heap.alloc_blocks_self _ _ _ _)
      (storeAll_of_callDriver loaded allowed) store member
    rw [same] at inside
    exact Nat.lt_irrefl _ inside
  · -- the byte behind the last one of the transfer
    have gap : isNegative req.p2.b = false ∧ transferLen req < req.p2.b.toNat := by
      unfold SpiFits at misfit
      cases negative : isNegative req.p2.b with
      | true => exact absurd ⟨Nat.not_lt.mp overflow, .inl negative⟩ misfit
      | false =>
        refine ⟨rfl, Nat.not_le.mp fun covered => misfit ⟨Nat.not_lt.mp overflow, .inr covered⟩⟩
    have called := loaded.rest_of_exec (callDriver_exec allowed _ _)
    have released := called.rest_of_exec (callDriver_exec_result (spiRelease_allowed ready) _ _)
    rw [if_neg (show ¬(Transfer.toReply ⟨teeSuccess, List.replicate (transferLen req) 0⟩).res ≠
      teeSuccess from not_not_intro rfl)] at released
    obtain ⟨after, run, publishes⟩ := publish_exec _ p req.signo req.p2.b req.p2.b buf
    have freed := (released.rest_of_exec run).rest_of_step () rfl
    have apart : (after.entry p req.signo).buf ≠ req.p0.buffer := by
      rw [publishes.buf]
      exact distinct
    refine not_initialised_of_publishes gap.1 gap.2 ?_ publishes
      ((initialised_free_iff apart).mp freed)
    exact fun member => Nat.lt_irrefl _ ((stored _).mp member)

end Spi

/-! ## All requests -/

/-- The buffer the handler frees is null or live when it starts. -/
def IoReq.BufferLive (req : IoReq) (s : Pta) : Prop :=
  req.type.FreesFirst → req.p0.buffer = null ∨ s.heap.Live req.p0.buffer

/-- Whatever the devices, the storage and the heap do, the handler stores within
its buffers and publishes an initialised result. -/
def PublishesSafely (req : IoReq) (p : Nat) : Prop :=
  ∀ s, req.BufferLive s →
    (handleReq req p).Obeys checked (fun _ after => Initialised s p req.signo after) s

/-- The requests whose result is as long as what the driver stores, or is never
published as a success. -/
def IoReq.Fits (req : IoReq) (p : Nat) : Prop :=
  match req.type with
  | .i2cReadBytes => (i2cOf p).toNat < i2cNum →
      req.p0.b.toNat < 2 ^ 16 ∨ 2 ^ 31 ≤ req.p0.b.toNat ∨ req.p0.b.toNat % 2 ^ 16 = 0
  | .i2cReadRegs => (i2cOf p).toNat < i2cNum →
      req.p1.a.toNat < 2 ^ 16 ∨ 2 ^ 31 ≤ req.p1.a.toNat ∨
        (req.p1.b.setWidth 8 : BitVec 8) &&& i2cReg16 ≠ 0
  | .at24cxxRead => (i2cOf p).toNat < i2cNum →
      req.p1.a.toNat < 2 ^ 16 ∨ 2 ^ 31 ≤ req.p1.a.toNat ∨ req.p1.a.toNat % 2 ^ 16 = 0
  | .tel0157GetAllGnss => (i2cOf p).toNat < i2cNum →
      req.p0.b.toNat < 2 ^ 16 ∨ 2 ^ 31 ≤ req.p0.b.toNat ∨ req.p0.b.toNat % 2 ^ 16 = 0 ∨
        1224 < req.p0.b.toNat % 2 ^ 16
  | .tel0157GetUtcTime | .tel0157GetLon | .tel0157GetLat => i2cNum ≤ (i2cOf p).toNat
  | .spiTransferBytes => SpiReady req p → SpiFits req
  | _ => True

theorem isNegative_eq_false_iff : isNegative size = false ↔ size.toNat < 2 ^ 31 := by
  unfold isNegative
  rw [BitVec.msb_eq_decide, decide_eq_false_iff_not, Nat.not_le]

/-- A driver that cuts the length to 16 bits. -/
theorem leavesGap_truncated (region : ∀ offset, call.Region offset ↔ offset < size.toNat % 2 ^ 16) :
    LeavesGap size call ↔
      2 ^ 16 ≤ size.toNat ∧ size.toNat < 2 ^ 31 ∧ call.CanSucceed := by
  unfold LeavesGap
  rw [isNegative_eq_false_iff]
  constructor
  · rintro ⟨small, succeeds, offset, inside, gap⟩
    rw [region] at gap
    exact ⟨by omega, small, succeeds⟩
  · rintro ⟨large, small, succeeds⟩
    refine ⟨small, succeeds, size.toNat % 2 ^ 16, by omega, ?_⟩
    rw [region]
    exact Nat.lt_irrefl _

/-- A driver that stores to all of the result leaves no gap. -/
theorem not_leavesGap (region : ∀ offset < size.toNat, call.Region offset) :
    ¬LeavesGap size call := by
  rintro ⟨-, -, offset, inside, gap⟩
  exact gap (region offset inside)

section Contract

variable {noMemory : TeeResult}

theorem publishesSafely_sample (handles : handleReq req p = handleSample size noMemory call req p)
    (frees : ¬req.type.FreesFirst) (negative : isNegative noMemory = true)
    (within : ∀ offset, call.Region offset → offset < size.toNat) :
    PublishesSafely req p ↔ ¬LeavesGap size call := by
  constructor
  · intro safe gap
    have obeys := safe Pta.zero fun freed => absurd freed frees
    rw [handles] at obeys
    exact handleSample_leaves_gap gap obeys
  · intro noGap s _
    rw [handles]
    exact handleSample_checked negative within noGap

theorem publishesSafely_i2cRead (handles : handleReq req p = handleI2cRead size call req p)
    (frees : ¬req.type.FreesFirst) (within : ∀ offset, call.Region offset → offset < size.toNat) :
    PublishesSafely req p ↔ ((i2cOf p).toNat < i2cNum → ¬LeavesGap size call) := by
  constructor
  · intro safe valid gap
    have obeys := safe Pta.zero fun freed => absurd freed frees
    rw [handles] at obeys
    exact handleI2cRead_leaves_gap valid gap obeys
  · intro noGap s _
    rw [handles]
    exact handleI2cRead_checked within noGap

/-- A sample whose driver stores to all of its result. -/
theorem publishesSafely_exact (handles : handleReq req p = handleSample size noMemory call req p)
    (frees : ¬req.type.FreesFirst) (negative : isNegative noMemory = true)
    (region : ∀ offset, call.Region offset ↔ offset < size.toNat) : PublishesSafely req p :=
  (publishesSafely_sample handles frees negative fun offset => (region offset).mp).mpr
    (not_leavesGap fun offset => (region offset).mpr)

theorem publishesSafely_spi (kind : req.type = .spiTransferBytes) :
    PublishesSafely req p ↔ (SpiReady req p → SpiFits req) := by
  have handles : handleReq req p = handleSpiTransferBytes req p := by rw [handleReq, kind]
  constructor
  · intro safe ready
    by_contra misfit
    have obeys := safe (sourceOnly req) fun _ => .inr (sourceOnly_live req)
    rw [handles] at obeys
    exact handleSpiTransferBytes_misfits ready misfit obeys
  · intro fits s live
    rw [handles]
    exact handleSpiTransferBytes_checked (live (by rw [kind]; trivial)) fits

theorem toNat_cut (word : BitVec 32) : (word.setWidth 16).toNat = word.toNat % 2 ^ 16 :=
  BitVec.toNat_setWidth 16 word

theorem lt_of_cut {offset : Nat} (inside : offset < (size.setWidth 16).toNat) :
    offset < size.toNat := by
  rw [toNat_cut] at inside
  exact Nat.lt_of_lt_of_le inside (Nat.mod_le _ _)

theorem cut_eq_zero_iff {word : BitVec 32} :
    word.setWidth 16 = (0 : BitVec 16) ↔ word.toNat % 2 ^ 16 = 0 := by
  rw [← BitVec.toNat_inj, toNat_cut]
  rfl

theorem publishesSafely_i2cReadBytes (kind : req.type = .i2cReadBytes) :
    PublishesSafely req p ↔ req.Fits p := by
  have handles : handleReq req p = handleI2cReadBytes req p := by rw [handleReq, kind]
  rw [publishesSafely_i2cRead handles (by rw [kind]; exact id) fun _ => lt_of_cut, IoReq.Fits, kind]
  refine forall_congr' fun valid => ?_
  rw [leavesGap_truncated fun offset => by rw [← toNat_cut]; rfl,
    canSucceed_i2cReadBytes _ _ _ valid, ne_eq, cut_eq_zero_iff]
  omega

theorem publishesSafely_i2cReadRegs (kind : req.type = .i2cReadRegs) :
    PublishesSafely req p ↔ req.Fits p := by
  have handles : handleReq req p = handleI2cReadRegs req p := by rw [handleReq, kind]
  rw [publishesSafely_i2cRead handles (by rw [kind]; exact id) fun _ => lt_of_cut, IoReq.Fits, kind]
  refine forall_congr' fun valid => ?_
  rw [leavesGap_truncated fun offset => by rw [← toNat_cut]; rfl,
    canSucceed_i2cReadRegs _ _ _ _ valid]
  by_cases supported : (req.p1.b.setWidth 8 : BitVec 8) &&& i2cReg16 = 0
  · simp only [supported, and_true, ne_eq, not_true_eq_false, or_false]
    omega
  · simp only [supported, and_false, not_false_eq_true, ne_eq, or_true]

theorem publishesSafely_at24cxxRead (kind : req.type = .at24cxxRead) :
    PublishesSafely req p ↔ req.Fits p := by
  have handles : handleReq req p = handleAt24cxxRead req p := by rw [handleReq, kind]
  rw [publishesSafely_sample handles (by rw [kind]; exact id) (by decide) fun _ => lt_of_cut,
    IoReq.Fits, kind]
  rw [leavesGap_truncated fun offset => by rw [← toNat_cut]; rfl, canSucceed_at24cxxRead, ne_eq,
    cut_eq_zero_iff]
  change ¬(_ ∧ _ ∧ (i2cOf p).toNat < i2cNum ∧ _) ↔ ((i2cOf p).toNat < i2cNum → _)
  omega

theorem publishesSafely_tel0157GetAllGnss (kind : req.type = .tel0157GetAllGnss) :
    PublishesSafely req p ↔ req.Fits p := by
  have handles : handleReq req p = handleTel0157GetAllGnss req p := by rw [handleReq, kind]
  rw [publishesSafely_sample handles (by rw [kind]; exact id) (by decide) fun _ => lt_of_cut,
    IoReq.Fits, kind]
  rw [leavesGap_truncated fun offset => by rw [← toNat_cut]; rfl, canSucceed_tel0157GetAllGnss,
    ne_eq, cut_eq_zero_iff, toNat_cut]
  change ¬(_ ∧ _ ∧ (i2cOf p).toNat < i2cNum ∧ _) ↔ ((i2cOf p).toNat < i2cNum → _)
  omega

/-- A structure with a padding byte the driver does not store. -/
theorem publishesSafely_padded (handles : handleReq req p = handleSample size noMemory call req p)
    (frees : ¬req.type.FreesFirst) (negative : isNegative noMemory = true)
    (within : ∀ offset, call.Region offset → offset < size.toNat)
    (small : isNegative size = false) (padding : ∃ offset < size.toNat, ¬call.Region offset)
    (succeeds : call.CanSucceed ↔ (i2cOf p).toNat < i2cNum) :
    PublishesSafely req p ↔ i2cNum ≤ (i2cOf p).toNat := by
  rw [publishesSafely_sample handles frees negative within, ← Nat.not_lt, not_iff_not, ← succeeds]
  exact ⟨fun gap => gap.2.1, fun can => ⟨small, can, padding⟩⟩

theorem publishesSafely_tel0157GetUtcTime (kind : req.type = .tel0157GetUtcTime) :
    PublishesSafely req p ↔ req.Fits p := by
  have handles : handleReq req p = handleTel0157GetUtcTime req p := by rw [handleReq, kind]
  rw [IoReq.Fits, kind]
  exact publishesSafely_padded handles (by rw [kind]; exact id) (by decide)
    (fun offset inside => Nat.lt_trans inside (by decide)) (by decide)
    ⟨7, by decide, Nat.lt_irrefl 7⟩ (canSucceed_tel0157GetUtcTime _)

theorem coordinate_region_lt {field : Tel0157.Coordinate} {offset : Nat}
    (minutes : field.minutesOffset ≤ 4) (degrees : field.degreesOffset ≤ 10)
    (direction : field.directionOffset ≤ 13) (inside : field.Region offset) : offset < 14 := by
  rcases inside with ⟨-, bound⟩ | rfl | rfl | rfl
  all_goals omega

theorem publishesSafely_coordinate {field : Tel0157.Coordinate}
    (handles : handleReq req p = handleSample 16 noMemory call req p)
    (frees : ¬req.type.FreesFirst) (negative : isNegative noMemory = true)
    (region : call.Region = field.Region) (minutes : field.minutesOffset ≤ 4)
    (degrees : field.degreesOffset ≤ 10) (direction : field.directionOffset ≤ 13)
    (succeeds : call.CanSucceed ↔ (i2cOf p).toNat < i2cNum) :
    PublishesSafely req p ↔ i2cNum ≤ (i2cOf p).toNat := by
  have inside {offset : Nat} (stores : call.Region offset) : offset < 14 :=
    coordinate_region_lt minutes degrees direction (region ▸ stores)
  exact publishesSafely_padded handles frees negative
    (fun offset stores => Nat.lt_trans (inside stores) (by decide)) (by decide)
    ⟨14, by decide, fun stores => Nat.lt_irrefl 14 (inside stores)⟩ succeeds

theorem publishesSafely_tel0157GetLon (kind : req.type = .tel0157GetLon) :
    PublishesSafely req p ↔ req.Fits p := by
  have handles : handleReq req p = handleTel0157GetLon req p := by rw [handleReq, kind]
  rw [IoReq.Fits, kind]
  exact publishesSafely_coordinate handles (by rw [kind]; exact id) (by decide) rfl (by decide)
    (by decide) (by decide) (canSucceed_tel0157GetLon _)

theorem publishesSafely_tel0157GetLat (kind : req.type = .tel0157GetLat) :
    PublishesSafely req p ↔ req.Fits p := by
  have handles : handleReq req p = handleTel0157GetLat req p := by rw [handleReq, kind]
  rw [IoReq.Fits, kind]
  exact publishesSafely_coordinate handles (by rw [kind]; exact id) (by decide) rfl (by decide)
    (by decide) (by decide) (canSucceed_tel0157GetLat _)

/-- The requests of the remaining types are always published safely. -/
theorem publishesSafely_of_type (other : req.type ∉ ([.i2cReadBytes, .i2cReadRegs, .at24cxxRead,
    .tel0157GetAllGnss, .tel0157GetUtcTime, .tel0157GetLon, .tel0157GetLat, .spiTransferBytes] :
      List IoReqType)) :
    PublishesSafely req p := by
  cases kind : req.type with
  | i2cReadBytes | i2cReadRegs | at24cxxRead | tel0157GetAllGnss | tel0157GetUtcTime
  | tel0157GetLon | tel0157GetLat | spiTransferBytes => simp [kind] at other
  | dhtRead | bh1750fviSample | tel0157GetGnssLen | tel0157GetGnssMode | tel0157GetNumSatUsed
  | tel0157GetAlt | tel0157GetSog | tel0157GetCog | atk301UploadFingerprintImage =>
    refine publishesSafely_exact (by rw [handleReq, kind]; rfl) (by rw [kind]; exact id) (by decide)
      fun offset => ?_
    exact Iff.rfl
  | mpu6050Sample =>
    intro s _
    rw [handleReq, kind]
    exact handleMpu6050Sample_checked
  | writeSecureObject =>
    intro s _
    rw [handleReq, kind]
    exact handleWriteSecureObject_checked
  | readSecureObject =>
    intro s live
    rw [handleReq, kind]
    exact handleReadSecureObject_checked (live (by rw [kind]; trivial))
  | i2cWriteBytes =>
    intro s _
    rw [handleReq, kind]
    exact handleI2cWriteBytes_checked
  | at24cxxWrite =>
    intro s _
    rw [handleReq, kind]
    exact handleAt24cxxWrite_checked
  | atk301GetFingerprintImage =>
    intro s _
    rw [handleReq, kind]
    exact handleAtk301GetFingerprintImage_checked
  | i2cWriteRegs | spiTransferByte | spiTransferDiffBytes | bme280Sample | bme280GetCalibration
  | reqTypeNone | other =>
    intro s _
    rw [handleReq, kind]
    exact fail_checked s p req.signo (by decide) s

/-- A handler publishes safely exactly when its request fits: the result is not
longer than what the driver stores, the driver stores no more than the result,
or the request is never published as a success. -/
theorem publishesSafely_iff_fits (req : IoReq) (p : Nat) :
    PublishesSafely req p ↔ req.Fits p := by
  cases kind : req.type with
  | i2cReadBytes => exact publishesSafely_i2cReadBytes kind
  | i2cReadRegs => exact publishesSafely_i2cReadRegs kind
  | at24cxxRead => exact publishesSafely_at24cxxRead kind
  | tel0157GetAllGnss => exact publishesSafely_tel0157GetAllGnss kind
  | tel0157GetUtcTime => exact publishesSafely_tel0157GetUtcTime kind
  | tel0157GetLon => exact publishesSafely_tel0157GetLon kind
  | tel0157GetLat => exact publishesSafely_tel0157GetLat kind
  | spiTransferBytes => rw [publishesSafely_spi kind, IoReq.Fits, kind]
  | _ =>
    refine ⟨fun _ => ?_, fun _ => publishesSafely_of_type (by simp [kind])⟩
    rw [IoReq.Fits, kind]
    trivial

end Contract

/-- A longitude request on the first I2C bus. -/
def lonReq : IoReq where
  type := .tel0157GetLon
  signo := 0
  p0 := .value 0x20 0
  p1 := .value 0 0
  p2 := .value 0 0
  ticket := ⟨0, []⟩

/-- A read of 65537 bytes from a device on the first I2C bus. -/
def longReadReq : IoReq where
  type := .i2cReadBytes
  signo := 0
  p0 := .value 0x50 65537
  p1 := .value 0 0
  p2 := .value 0 0
  ticket := ⟨0, []⟩

/-- An exchange of a source of two bytes with room for one byte. -/
def exchangeReq : IoReq where
  type := .spiTransferBytes
  signo := 0
  p0 := ⟨0x1000, 2⟩
  p1 := .value 0 0
  p2 := .value 0 1
  ticket := ⟨0, [0x1000]⟩

/-- The padding of a position and all but the first byte of a long read are
published uninitialised, and the exchange stores behind its buffer. -/
theorem unsafe_publications :
    ¬PublishesSafely lonReq 28 ∧ ¬PublishesSafely longReadReq 28 ∧
      ¬PublishesSafely exchangeReq 30 := by
  refine ⟨?_, ?_, ?_⟩
  · rw [publishesSafely_tel0157GetLon rfl]
    exact show ¬i2cNum ≤ (i2cOf 28).toNat by decide
  · rw [publishesSafely_i2cReadBytes rfl]
    exact show ¬((i2cOf 28).toNat < i2cNum → longReadReq.p0.b.toNat < 2 ^ 16 ∨
      2 ^ 31 ≤ longReadReq.p0.b.toNat ∨ longReadReq.p0.b.toNat % 2 ^ 16 = 0) by decide
  · rw [publishesSafely_spi rfl]
    decide

end TrustWasm.IoHelper
