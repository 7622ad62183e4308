import TrustWasm.Drivers.Footprint
import TrustWasm.IoHelper.SlotContract

/-!
# What each thread does with the heap and the result table

A submission writes the buffers it allocates and hands them over with its
request.  A worker frees and writes only blocks that belong to its request,
sets result fields of its own slot only, and makes the slot ready only after
the fields stand for a complete result: a negative code, or a length with a
buffer of the request behind it.  The worker keeps to this for every request
whose buffers are the ones its handler frees.
-/

namespace TrustWasm.IoHelper

open TrustWasm.Lib TrustWasm.Tee TrustWasm.Drivers

/-! ## Requests whose buffers match their handler -/

/-- The handler of the type frees the first buffer of the request. -/
def IoReqType.FreesFirst : IoReqType → Prop
  | .writeSecureObject | .readSecureObject | .i2cWriteBytes | .spiTransferBytes
  | .at24cxxWrite => True
  | _ => False

/-- The handler of the type frees the second buffer of the request. -/
def IoReqType.FreesSecond : IoReqType → Prop
  | .writeSecureObject => True
  | _ => False

/-- Every pointer the handler frees is null or a buffer of the request, and no
buffer is freed twice. -/
structure IoReq.Matched (req : IoReq) : Prop where
  first : req.type.FreesFirst → req.p0.buffer = null ∨ req.p0.buffer ∈ req.ticket.args
  second : req.type.FreesSecond → req.p1.buffer = null ∨
    (req.p1.buffer ∈ req.ticket.args ∧ req.p1.buffer ≠ req.p0.buffer)

/-! ## Workers -/

/-- The fields set so far stand for a result the client can collect. -/
def WorkView.Complete (work : WorkView) : Prop :=
  ∃ ret, work.written.ret = some ret ∧ (isNegative ret = true ∨ ∃ len buf,
    work.written.len = some len ∧ work.written.buf = some buf ∧ (len = 0 ∨ buf ∈ work.owned))

/-- What a worker may do with a request for slot `signo` in hand. -/
def workGuard (periphNo signo : Nat) (work : WorkView) : HelperOp → Prop
  | .free ptr => ptr = null ∨ ptr ∈ work.owned
  | .storeByte ptr _ _ => ptr = null ∨ ptr ∈ work.owned
  | .setRet p q _ => p = periphNo ∧ q = signo
  | .setLen p q _ => p = periphNo ∧ q = signo
  | .setBuf p q _ => p = periphNo ∧ q = signo
  | .setReadySignal p q => (p = periphNo ∧ q = signo) ∧ work.Complete
  | .malloc .. | .loadByte .. | .loadClient .. | .driver .. | .storage .. => True
  | _ => False

/-- What a worker may rely on in a reply: a new block is none of those in hand,
and devices and storage keep to their contracts. -/
def WorkReply (work : WorkView) : (op : HelperOp) → Helper.Reply op → Prop
  | .malloc _, (ptr : Ptr) => ptr = null ∨ ptr ∉ work.owned
  | .driver call, (reply : Drivers.Reply) => DeviceAllows call reply
  | .storage call, (reply : StorageReply) => StorageAllows call reply
  | _, _ => True

def workHeap (periphNo signo : Nat) : Semantics Helper WorkView where
  guard := workGuard periphNo signo
  step work op reply after := WorkReply work op reply ∧ after = work.after op reply

/-- The program keeps to this and completes the result. -/
abbrev Completes (p signo : Nat) (work : WorkView) (program : Program Helper TeeResult) : Prop :=
  program.Obeys (workHeap p signo) (fun _ after => after.Complete) work

variable {op : HelperOp} {ptr : Ptr} {code : TeeResult} {size : Nat}

section Worker

variable {α : Type} {p q : Nat} {work : WorkView} {post : α → WorkView → Prop}

theorem work_bind {rest : Helper.Reply op → Program Helper α} (allowed : workGuard p q work op)
    (second : ∀ reply, WorkReply work op reply →
      (rest reply).Obeys (workHeap p q) post (work.after op reply)) :
    (Program.perform (I := Helper) op >>= rest).Obeys (workHeap p q) post work := by
  refine ⟨allowed, fun reply after step => ?_⟩
  obtain ⟨holds, rfl⟩ := step
  exact second reply holds

theorem loadFrom_work (ptr : Ptr) (count offset : Nat) :
    (loadFrom ptr count offset).Obeys (workHeap p q) (fun _ after => after = work) work := by
  induction count generalizing offset with
  | zero => exact rfl
  | succ count ih =>
    refine work_bind trivial fun byte _ => ?_
    refine (ih (offset + 1)).bind_at fun rest => ?_
    exact rfl

theorem storeAll_work (mine : ptr = null ∨ ptr ∈ work.owned) (stores : List (Nat × Byte)) :
    (storeAll ptr stores).Obeys (workHeap p q) (fun _ after => after = work) work := by
  induction stores with
  | nil => exact rfl
  | cons store rest ih => exact work_bind mine fun _ _ => ih

/-- A driver call keeps what is in hand and answers as the driver may. -/
theorem callDriver_work {call : DriverCall} {out : Ptr} {rest : TeeResult → Program Helper α}
    (mine : out = null ∨ out ∈ work.owned)
    (second : ∀ reply, DeviceAllows call reply →
      (rest reply.res).Obeys (workHeap p q) post work) :
    (callDriver call out >>= rest).Obeys (workHeap p q) post work := by
  refine work_bind trivial fun (reply : Drivers.Reply) allowed => ?_
  change ((storeAll out reply.out >>= fun _ => pure reply.res) >>= rest).Obeys _ _ work
  rw [bind_assoc]
  exact (storeAll_work mine reply.out).bind_at fun _ => second reply allowed

theorem sourceBytes_work (param : TeeParam) :
    (sourceBytes param).Obeys (workHeap p q) (fun _ after => after = work) work := by
  unfold sourceBytes
  split
  · exact rfl
  · refine (loadFrom_work _ _ _).bind_at fun bytes => ?_
    exact rfl

theorem publish_work (ret len : BitVec 32) (buf : Ptr) :
    (publish p q ret len buf).Obeys (workHeap p q)
      (fun _ after => after = ⟨work.owned, ⟨some ret, some len, some buf⟩⟩) work :=
  work_bind ⟨rfl, rfl⟩ fun _ _ => work_bind ⟨rfl, rfl⟩ fun _ _ =>
    work_bind ⟨rfl, rfl⟩ fun _ _ => rfl

theorem negative_of_allows {call : DriverCall} {reply : Drivers.Reply}
    (allowed : DeviceAllows call reply) (failed : reply.res ≠ teeSuccess) :
    isNegative reply.res = true :=
  (covers_of_deviceAllows allowed).lawful.isNegative failed

/-- Setting a negative code completes the result. -/
theorem fail_work (negative : isNegative code = true) :
    Completes p q work (do setRet p q code; return code) :=
  work_bind ⟨rfl, rfl⟩ fun _ _ => ⟨code, rfl, .inl negative⟩

/-- A handler that fails frees its buffer and sets the code. -/
theorem failFreeing_work (mine : ptr = null ∨ ptr ∈ work.owned)
    (negative : isNegative code = true) :
    Completes p q work (do free ptr; setRet p q code; return code) :=
  work_bind mine fun _ _ => fail_work negative

/-- Publishing a buffer in hand, or an empty result, completes the result. -/
theorem complete_publish {owned : List Ptr} (ret : BitVec 32) {len : BitVec 32} {buf : Ptr}
    (backed : len = 0 ∨ buf ∈ owned) :
    WorkView.Complete ⟨owned, ⟨some ret, some len, some buf⟩⟩ :=
  ⟨ret, rfl, .inr ⟨len, buf, rfl, rfl, backed⟩⟩

theorem after_malloc (notNull : ptr ≠ null) :
    work.after (.malloc size) ptr = { work with owned := ptr :: work.owned } :=
  if_neg notNull

theorem handleSample_work (size : BitVec 32) {noMemory : TeeResult}
    (negative : isNegative noMemory = true) (call : DriverCall) (req : IoReq) :
    Completes p req.signo work (handleSample size noMemory call req p) := by
  refine work_bind trivial fun buf _ => ?_
  split
  · exact fail_work negative
  · rename_i notNull
    rw [after_malloc notNull]
    have mine : buf = null ∨ buf ∈ buf :: work.owned := .inr List.mem_cons_self
    refine callDriver_work mine fun reply allowed => ?_
    split
    · rename_i failed
      exact failFreeing_work mine (negative_of_allows allowed failed)
    · refine (publish_work size size buf).bind_at fun _ => ?_
      exact complete_publish size (.inr List.mem_cons_self)

theorem handleMpu6050Sample_work (req : IoReq) :
    Completes p req.signo work (handleMpu6050Sample req p) := by
  refine work_bind trivial fun (data : Ptr) _ => ?_
  have mine : data = null ∨ data ∈ (work.after (.malloc 14) data).owned := by
    by_cases isNull : data = null
    · exact .inl isNull
    · rw [after_malloc isNull]
      exact .inr List.mem_cons_self
  refine callDriver_work mine fun reply allowed => ?_
  split
  · rename_i failed
    exact failFreeing_work mine (negative_of_allows allowed failed)
  · rename_i succeeded
    refine (publish_work 14 14 data).bind_at fun _ => ?_
    refine complete_publish 14 (.inr (mine.resolve_left ?_))
    -- without memory the driver fails, so the data published is a block
    rintro rfl
    exact succeeded (mpuSample_null_fails allowed).1

theorem handleWriteSecureObject_work (req : IoReq)
    (first : req.p0.buffer = null ∨ req.p0.buffer ∈ work.owned)
    (second : req.p1.buffer = null ∨
      (req.p1.buffer ∈ work.owned ∧ req.p1.buffer ≠ req.p0.buffer)) :
    Completes p req.signo work (handleWriteSecureObject req p) := by
  have reported (res : TeeResult) : Completes p req.signo work (do
      publish p req.signo res 0 null
      free req.p0.buffer
      free req.p1.buffer
      return res) := by
    refine (publish_work res 0 null).bind_at fun _ => ?_
    refine work_bind first fun _ _ => work_bind ?_ fun _ _ => ?_
    · rcases second with isNull | ⟨member, distinct⟩
      · exact .inl isNull
      · exact .inr (List.mem_filter.mpr ⟨member, by simpa using distinct⟩)
    · exact complete_publish res (.inl rfl)
  refine (loadFrom_work _ _ _).bind_at fun id => ?_
  refine work_bind trivial fun created _ => ?_
  dsimp only
  split
  · exact reported created.res
  · refine (loadFrom_work _ _ _).bind_at fun data => ?_
    refine work_bind trivial fun written _ => ?_
    split
    · exact work_bind trivial fun _ _ => reported written.res
    · exact work_bind trivial fun _ _ => reported written.res

/-- What is in hand once `kept` is freed as well. -/
def WorkView.without (work : WorkView) (kept : Ptr) : WorkView :=
  { work with owned := work.owned.filter (· ≠ kept) }

theorem mem_filter_of_mine {owned : List Ptr} {kept freed : Ptr}
    (mine : kept = null ∨ kept ∈ owned) (distinct : kept = null ∨ kept ≠ freed) :
    kept = null ∨ kept ∈ owned.filter (· ≠ freed) := by
  rcases mine with isNull | member
  · exact .inl isNull
  · rcases distinct with isNull | distinct
    · exact .inl isNull
    · exact .inr (List.mem_filter.mpr ⟨member, by simpa using distinct⟩)

/-- A new block differs from a buffer that was in hand before. -/
theorem distinct_of_fresh {kept : Ptr} (mine : kept = null ∨ kept ∈ work.owned)
    (fresh : WorkReply work (.malloc size) ptr) (notNull : ptr ≠ null) :
    kept = null ∨ kept ≠ ptr := by
  rcases mine with isNull | member
  · exact .inl isNull
  · right
    rintro rfl
    rcases fresh with isNull | notMember
    · exact notNull isNull
    · exact notMember member

/-- Up to its exit label the handler keeps the identifier in hand, and its
result is complete without it. -/
theorem readSecureObject_work (req : IoReq)
    (first : req.p0.buffer = null ∨ req.p0.buffer ∈ work.owned) :
    (readSecureObject req p).Obeys (workHeap p req.signo)
      (fun _ after => (after.without req.p0.buffer).Complete ∧
        (req.p0.buffer = null ∨ req.p0.buffer ∈ after.owned)) work := by
  have failed {code : TeeResult} (negative : isNegative code = true) :
      (do setRet p req.signo code; return code : Program Helper TeeResult).Obeys
        (workHeap p req.signo) (fun _ after => (after.without req.p0.buffer).Complete ∧
          (req.p0.buffer = null ∨ req.p0.buffer ∈ after.owned)) work :=
    work_bind ⟨rfl, rfl⟩ fun _ _ => ⟨⟨code, rfl, .inl negative⟩, first⟩
  refine (loadFrom_work _ _ _).bind_at fun id => ?_
  refine work_bind trivial fun opened openedOk => ?_
  split
  · rename_i openFailed
    exact failed (openedOk.1.isNegative openFailed)
  · refine work_bind trivial fun info infoOk => ?_
    split
    · rename_i infoFailed
      exact failed (infoOk.1.isNegative infoFailed)
    · refine work_bind trivial fun (buf : Ptr) fresh => ?_
      split
      · rename_i isNull
        subst isNull
        exact work_bind ⟨rfl, rfl⟩ fun _ _ => work_bind trivial fun _ _ =>
          ⟨⟨_, rfl, .inl (by decide)⟩, first⟩
      · rename_i notNull
        have distinct := distinct_of_fresh first fresh notNull
        rw [after_malloc notNull]
        have mine : buf = null ∨ buf ∈ buf :: work.owned := .inr List.mem_cons_self
        have kept : req.p0.buffer = null ∨ req.p0.buffer ∈ buf :: work.owned :=
          first.imp_right (List.mem_cons_of_mem _)
        have released {code : TeeResult} (negative : isNegative code = true) (obj : BitVec 32) :
            (do
              setRet p req.signo code
              let _ ← storage (.objClose obj)
              free buf
              return code : Program Helper TeeResult).Obeys (workHeap p req.signo)
                (fun _ after => (after.without req.p0.buffer).Complete ∧
                  (req.p0.buffer = null ∨ req.p0.buffer ∈ after.owned))
                { work with owned := buf :: work.owned } :=
          work_bind ⟨rfl, rfl⟩ fun _ _ => work_bind trivial fun _ _ => work_bind mine fun _ _ =>
            ⟨⟨code, rfl, .inl negative⟩, mem_filter_of_mine kept distinct⟩
        refine work_bind trivial fun read readOk => ?_
        refine (storeAll_work mine _).bind_at fun _ => ?_
        split
        · rename_i readFailed
          exact released (readOk.1.isNegative readFailed) _
        · dsimp only
          split
          · exact released (by decide) _
          · refine (publish_work _ _ buf).bind_at fun _ => ?_
            refine ⟨complete_publish _ (.inr ?_), kept⟩
            refine List.mem_filter.mpr ⟨List.mem_cons_self, ?_⟩
            rcases distinct with isNull | distinct
            · simpa [isNull] using notNull
            · simpa using distinct.symm

theorem handleReadSecureObject_work (req : IoReq)
    (first : req.p0.buffer = null ∨ req.p0.buffer ∈ work.owned) :
    Completes p req.signo work (handleReadSecureObject req p) := by
  refine (readSecureObject_work req first).bind ?_
  rintro res after ⟨complete, mine⟩
  exact work_bind mine fun _ _ => complete

theorem handleI2cWriteBytes_work (req : IoReq)
    (first : req.p0.buffer = null ∨ req.p0.buffer ∈ work.owned) :
    Completes p req.signo work (handleI2cWriteBytes req p) := by
  refine callDriver_work (.inl rfl) fun acquired acquiredOk => ?_
  split
  · rename_i failed
    exact fail_work (negative_of_allows acquiredOk failed)
  · refine (sourceBytes_work _).bind_at fun data => ?_
    refine callDriver_work (.inl rfl) fun reply _ => ?_
    refine callDriver_work (.inl rfl) fun _ _ => ?_
    refine (publish_work _ 0 null).bind_at fun _ => ?_
    exact work_bind first fun _ _ => complete_publish _ (.inl rfl)

theorem handleI2cRead_work (size : BitVec 32) (call : DriverCall) (req : IoReq) :
    Completes p req.signo work (handleI2cRead size call req p) := by
  refine work_bind trivial fun buf _ => ?_
  split
  · exact fail_work (by decide)
  · rename_i notNull
    rw [after_malloc notNull]
    have mine : buf = null ∨ buf ∈ buf :: work.owned := .inr List.mem_cons_self
    refine callDriver_work (.inl rfl) fun acquired acquiredOk => ?_
    split
    · rename_i failed
      exact failFreeing_work mine (negative_of_allows acquiredOk failed)
    · refine callDriver_work mine fun reply allowed => ?_
      refine callDriver_work (.inl rfl) fun _ _ => ?_
      split
      · rename_i failed
        exact failFreeing_work mine (negative_of_allows allowed failed)
      · refine (publish_work size size buf).bind_at fun _ => ?_
        exact complete_publish size (.inr List.mem_cons_self)

/-- The read buffer is null when nothing is to be read, and else a block of its
own. -/
theorem spiTransferWith_work (req : IoReq) {buf : Ptr}
    (backed : (req.p2.b = 0 ∧ buf = null) ∨ (buf ∈ work.owned ∧ buf ≠ req.p0.buffer))
    (first : req.p0.buffer = null ∨ req.p0.buffer ∈ work.owned) :
    Completes p req.signo work (spiTransferWith buf req p) := by
  have mine : buf = null ∨ buf ∈ work.owned := backed.imp And.right And.left
  have distinct : buf = null ∨ buf ≠ req.p0.buffer := backed.imp And.right And.right
  refine callDriver_work (.inl rfl) fun acquired acquiredOk => ?_
  split
  · rename_i failed
    exact work_bind ⟨rfl, rfl⟩ fun _ _ => work_bind mine fun _ _ =>
      ⟨_, rfl, .inl (negative_of_allows acquiredOk failed)⟩
  · refine (sourceBytes_work _).bind_at fun source => ?_
    refine callDriver_work mine fun reply allowed => ?_
    refine callDriver_work (.inl rfl) fun _ _ => ?_
    split
    · rename_i failed
      exact work_bind first fun _ _ =>
        failFreeing_work (mem_filter_of_mine mine distinct) (negative_of_allows allowed failed)
    · refine (publish_work _ _ buf).bind_at fun _ => ?_
      refine work_bind first fun _ _ => complete_publish _ ?_
      rcases backed with ⟨nothing, -⟩ | ⟨member, other⟩
      · exact .inl nothing
      · exact .inr (List.mem_filter.mpr ⟨member, by simpa using other⟩)

theorem handleSpiTransferBytes_work (req : IoReq)
    (first : req.p0.buffer = null ∨ req.p0.buffer ∈ work.owned) :
    Completes p req.signo work (handleSpiTransferBytes req p) := by
  unfold handleSpiTransferBytes
  split
  · refine work_bind trivial fun (buf : Ptr) fresh => ?_
    split
    · exact fail_work (by decide)
    · rename_i notNull
      have distinct := distinct_of_fresh first fresh notNull
      rw [after_malloc notNull]
      apply spiTransferWith_work
      · refine .inr ⟨List.mem_cons_self, ?_⟩
        rcases distinct with isNull | distinct
        · rw [isNull]
          exact notNull
        · exact distinct.symm
      · exact first.imp_right (List.mem_cons_of_mem _)
  · rename_i nothing
    refine spiTransferWith_work req (.inl ⟨?_, rfl⟩) first
    apply BitVec.eq_of_toNat_eq
    exact Nat.eq_zero_of_not_pos nothing

theorem handleAt24cxxWrite_work (req : IoReq)
    (first : req.p0.buffer = null ∨ req.p0.buffer ∈ work.owned) :
    Completes p req.signo work (handleAt24cxxWrite req p) := by
  refine (sourceBytes_work _).bind_at fun data => ?_
  refine callDriver_work (.inl rfl) fun reply _ => ?_
  refine (publish_work _ 0 null).bind_at fun _ => ?_
  exact work_bind first fun _ _ => complete_publish _ (.inl rfl)

theorem handleAtk301GetFingerprintImage_work (req : IoReq) :
    Completes p req.signo work (handleAtk301GetFingerprintImage req p) := by
  refine callDriver_work (.inl rfl) fun reply _ => ?_
  refine (publish_work _ 0 null).bind_at fun _ => ?_
  exact complete_publish _ (.inl rfl)

/-- Every handler of a matched request keeps to the heap protocol and completes
the result. -/
theorem handleReq_work {req : IoReq} (matched : req.Matched) (p : Nat) :
    Completes p req.signo (.start req) (handleReq req p) := by
  have first := matched.first
  have second := matched.second
  unfold handleReq
  cases type : req.type with
  | mpu6050Sample => exact handleMpu6050Sample_work req
  | writeSecureObject =>
    rw [type] at first second
    exact handleWriteSecureObject_work req (first trivial) (second trivial)
  | readSecureObject =>
    rw [type] at first
    exact handleReadSecureObject_work req (first trivial)
  | i2cWriteBytes =>
    rw [type] at first
    exact handleI2cWriteBytes_work req (first trivial)
  | spiTransferBytes =>
    rw [type] at first
    exact handleSpiTransferBytes_work req (first trivial)
  | at24cxxWrite =>
    rw [type] at first
    exact handleAt24cxxWrite_work req (first trivial)
  | atk301GetFingerprintImage => exact handleAtk301GetFingerprintImage_work req
  | dhtRead | bh1750fviSample | at24cxxRead | atk301UploadFingerprintImage
  | tel0157GetGnssLen | tel0157GetAllGnss | tel0157GetUtcTime | tel0157GetGnssMode
  | tel0157GetNumSatUsed | tel0157GetLon | tel0157GetLat | tel0157GetAlt | tel0157GetSog
  | tel0157GetCog => exact handleSample_work _ (by decide) _ req
  | i2cReadBytes | i2cReadRegs => exact handleI2cRead_work _ _ req
  | i2cWriteRegs | spiTransferByte | spiTransferDiffBytes | bme280Sample
  | bme280GetCalibration | reqTypeNone | other => exact fail_work (by decide)

/-- A worker makes the slot of a matched request ready with a complete result. -/
theorem serve_work {req : IoReq} (matched : req.Matched) (p : Nat) :
    (serve req p).Obeys (workHeap p req.signo) (fun _ _ => True) (.start req) := by
  refine (handleReq_work matched p).bind fun _ work complete => ?_
  exact ⟨⟨⟨rfl, rfl⟩, complete⟩, fun _ _ _ => trivial⟩

end Worker

/-! ## Submissions -/

/-- The buffers the handler of the submitted type frees are ones the command
allocates, or null, and an SPI exchange sends no more bytes than it has room to
receive.  An exchange that does would write past its buffer into blocks of
other requests, which a heap of separate blocks does not show. -/
structure Submission.Matched (submission : Submission) : Prop where
  first : (IoReqType.ofCode submission.params.p0.b).FreesFirst →
    match submission.cmd with
    | .readReq => submission.params.p1.buffer = null
    | .writeReq => submission.params.p1.size ≠ 0 ∨ submission.uninit = null
    | .readReqWithBuffer | .writeReqWithBuffer => True
  second : (IoReqType.ofCode submission.params.p0.b).FreesSecond →
    submission.cmd = .writeReqWithBuffer ∨ submission.params.p2.buffer = null
  fits : IoReqType.ofCode submission.params.p0.b = .spiTransferBytes →
    submission.params.p3.b = 0 ∨ submission.params.p1.size.toNat ≤ submission.params.p3.b.toNat

/-- What a submission may do with the buffers it has allocated. -/
def submitHeapGuard (args : List Ptr) : HelperOp → Prop
  | .storeByte ptr _ _ => ptr ∈ args
  | .enqueue _ req => req.ticket.args = args ∧ req.Matched
  | .malloc _ | .allocateSigno _ | .loadClient _ _ => True
  | _ => False

def SubmitReply (args : List Ptr) : (op : HelperOp) → Helper.Reply op → Prop
  | .malloc _, (ptr : Ptr) => ptr = null ∨ ptr ∉ args
  | _, _ => True

def submitHeap : Semantics Helper (List Ptr) where
  guard := submitHeapGuard
  step args op reply after := SubmitReply args op reply ∧ after = argsAfter args op reply

section Submission

variable {α : Type} {args : List Ptr} {post : α → List Ptr → Prop}

theorem submit_bind {rest : Helper.Reply op → Program Helper α} (allowed : submitHeapGuard args op)
    (second : ∀ reply, SubmitReply args op reply →
      (rest reply).Obeys submitHeap post (argsAfter args op reply)) :
    (Program.perform (I := Helper) op >>= rest).Obeys submitHeap post args := by
  refine ⟨allowed, fun reply after step => ?_⟩
  obtain ⟨holds, rfl⟩ := step
  exact second reply holds

theorem copyIn_submit {dst : Ptr} (src : Ptr) (count offset : Nat) (mine : count = 0 ∨ dst ∈ args) :
    (copyIn dst src count offset).Obeys submitHeap (fun _ after => after = args) args := by
  induction count generalizing offset with
  | zero => exact rfl
  | succ count ih =>
    have member : dst ∈ args := mine.resolve_left (Nat.succ_ne_zero count)
    refine submit_bind trivial fun byte _ => ?_
    exact submit_bind member fun _ _ => ih (offset + 1) (.inr member)

theorem submitReq_submit (periphNo : Nat) (params : Params) {copy : Program Helper Unit}
    (copies : copy.Obeys submitHeap (fun _ after => after = args) args) {req : Nat → IoReq}
    (tickets : ∀ signo, (req signo).ticket.args = args) (matched : ∀ signo, (req signo).Matched) :
    (submitReq periphNo params copy req).Obeys submitHeap (fun _ _ => True) args := by
  refine submit_bind trivial fun reply _ => ?_
  cases reply with
  | none => trivial
  | some signo =>
    refine Program.Obeys.bind copies ?_
    rintro - _ rfl
    exact submit_bind ⟨tickets signo, matched signo⟩ fun _ _ => trivial

theorem argsAfter_malloc (notNull : ptr ≠ null) :
    argsAfter args (.malloc size) ptr = args ++ [ptr] :=
  if_neg notNull

/-- A submission goes on with a new buffer, or gives up. -/
theorem alloc_submit {params : Params} {rest : Ptr → Program Helper CommandResult}
    (second : ∀ buf, buf ≠ null → buf ∉ args →
      (rest buf).Obeys submitHeap (fun _ _ => True) (args ++ [buf])) :
    (do
      let buf ← malloc size
      if buf = null then return .error teeErrorOutOfMemory params
      rest buf : Program Helper CommandResult).Obeys submitHeap (fun _ _ => True) args := by
  refine submit_bind trivial fun (buf : Ptr) fresh => ?_
  split
  · trivial
  · rename_i notNull
    rw [argsAfter_malloc notNull]
    exact second buf notNull (fresh.resolve_left notNull)

variable (serial : Nat) (paramTypes : BitVec 32) (params : Params)

theorem readReq_submit (first : (IoReqType.ofCode params.p0.b).FreesFirst → params.p1.buffer = null)
    (second : (IoReqType.ofCode params.p0.b).FreesSecond → params.p2.buffer = null) :
    (readReq serial paramTypes params).Obeys submitHeap (fun _ _ => True) [] := by
  unfold readReq
  split
  · trivial
  · split
    · trivial
    · refine submitReq_submit _ _ ?_ (fun _ => rfl) fun _ => ?_
      · exact rfl
      · exact ⟨fun frees => .inl (first frees), fun frees => .inl (second frees)⟩

theorem readReqWithBuffer_submit
    (second : (IoReqType.ofCode params.p0.b).FreesSecond → params.p2.buffer = null) :
    (readReqWithBuffer serial paramTypes params).Obeys submitHeap (fun _ _ => True) [] := by
  unfold readReqWithBuffer
  split
  · trivial
  · split
    · trivial
    · refine alloc_submit fun buffer _ _ => ?_
      refine submitReq_submit _ _ (copyIn_submit _ _ _ (.inr (by simp))) (fun _ => rfl) fun _ => ?_
      exact ⟨fun _ => .inr (by simp), fun frees => .inl (second frees)⟩

theorem writeReq_submit (uninit : Ptr)
    (first : (IoReqType.ofCode params.p0.b).FreesFirst → params.p1.size ≠ 0 ∨ uninit = null)
    (second : (IoReqType.ofCode params.p0.b).FreesSecond → params.p2.buffer = null) :
    (writeReq serial paramTypes params uninit).Obeys submitHeap (fun _ _ => True) [] := by
  unfold writeReq
  split
  · trivial
  · split
    · trivial
    · split
      · refine alloc_submit fun buffer _ _ => ?_
        refine submitReq_submit _ _ (copyIn_submit _ _ _ (.inr (by simp)))
          (fun _ => rfl) fun _ => ?_
        exact ⟨fun _ => .inr (by simp), fun frees => .inl (second frees)⟩
      · rename_i empty
        have empty : params.p1.size = 0 := Decidable.not_not.mp empty
        have copies : params.p1.size.toNat = 0 ∨ uninit ∈ [] := .inl (by rw [empty]; rfl)
        refine submitReq_submit _ _ (copyIn_submit _ _ _ copies) (fun _ => rfl) fun _ => ?_
        exact ⟨fun frees => .inl ((first frees).resolve_left (absurd empty)),
          fun frees => .inl (second frees)⟩

theorem writeReqWithBuffer_submit :
    (writeReqWithBuffer serial paramTypes params).Obeys submitHeap (fun _ _ => True) [] := by
  unfold writeReqWithBuffer
  split
  · trivial
  · split
    · trivial
    · refine alloc_submit fun first _ _ => alloc_submit fun second _ fresh => ?_
      have distinct : second ≠ first := by
        rintro rfl
        exact fresh (by simp)
      refine submitReq_submit _ _ ?_ (fun _ => rfl) fun _ => ?_
      · refine (copyIn_submit _ _ _ (.inr (by simp))).bind_at fun _ => ?_
        exact copyIn_submit _ _ _ (.inr (by simp))
      · exact ⟨fun _ => .inr (by simp), fun _ => .inr ⟨by simp, distinct⟩⟩

end Submission

/-- A matched submission writes its own buffers only and enqueues a matched
request. -/
theorem Submission.program_submit {submission : Submission} (matched : submission.Matched)
    (serial : Nat) :
    (submission.program serial).Obeys submitHeap (fun _ _ => True) [] := by
  obtain ⟨cmd, paramTypes, params, uninit⟩ := submission
  obtain ⟨first, second⟩ := matched
  cases cmd with
  | readReq =>
    exact readReq_submit serial _ _ first fun frees => (second frees).resolve_left (by simp)
  | readReqWithBuffer =>
    exact readReqWithBuffer_submit serial _ _ fun frees => (second frees).resolve_left (by simp)
  | writeReq =>
    exact writeReq_submit serial _ _ _ first fun frees => (second frees).resolve_left (by simp)
  | writeReqWithBuffer => exact writeReqWithBuffer_submit serial _ _

/-! ## Collections -/

/-- A collection: its phase, whether it has freed the result, and the result
fields of its slot while it holds the slot. -/
structure GetView where
  phase : GetPhase
  freed : Bool
  ret : BitVec 32
  len : BitVec 32
  buf : Ptr

/-- The collection holds a slot whose result buffer it has not freed. -/
structure GetView.HasData (view : GetView) : Prop where
  holding : view.phase = .holding
  notFreed : view.freed = false
  notNegative : isNegative view.ret = false
  notEmpty : view.len ≠ 0

/-- What a collection on a slot may do. -/
def getHeapGuard (periphNo subSigno : Nat) (view : GetView) : HelperOp → Prop
  | .isReadySignal p q => view.phase = .unchecked ∧ p = periphNo ∧ q = subSigno
  | .releaseSigno p q => view.phase = .holding ∧ p = periphNo ∧ q = subSigno
  | .getRet p q | .getLen p q | .getBuf p q | .getPollTimes p q =>
    view.phase = .holding ∧ p = periphNo ∧ q = subSigno
  | .setRet p q _ | .setLen p q _ | .setPollTimes p q _ =>
    (view.phase = .holding ∧ view.freed = true) ∧ p = periphNo ∧ q = subSigno
  | .free ptr => view.HasData ∧ ptr = view.buf
  | .loadByte ptr offset => view.HasData ∧ ptr = view.buf ∧ offset < view.len.toNat
  | _ => False

/-- The replies a collection gets and the view it has afterwards.  The fields
are what they are when the slot is found ready and stay so while it is held. -/
def getHeapStep (view : GetView) : (op : HelperOp) → Helper.Reply op → GetView → Prop
  | .isReadySignal _ _, (ready : Bool), after =>
    if ready then ∃ ret len buf, after = ⟨.holding, view.freed, ret, len, buf⟩ else after = view
  | .releaseSigno _ _, _, after => after = { view with phase := .released }
  | .getRet _ _, (ret : BitVec 32), after => ret = view.ret ∧ after = view
  | .getLen _ _, (len : BitVec 32), after => len = view.len ∧ after = view
  | .getBuf _ _, (buf : Ptr), after => buf = view.buf ∧ after = view
  | .setRet _ _ ret, _, after => after = { view with ret := ret }
  | .setLen _ _ len, _, after => after = { view with len := len }
  | .free _, _, after => after = { view with freed := true }
  | _, _, after => after = view

def getHeap (periphNo subSigno : Nat) : Semantics Helper GetView where
  guard := getHeapGuard periphNo subSigno
  step := getHeapStep

section Collection

variable {α : Type} {p q : Nat} {view : GetView} {post : α → GetView → Prop}

theorem get_bind {rest : Helper.Reply op → Program Helper α} (allowed : getHeapGuard p q view op)
    (second : ∀ reply after, getHeapStep view op reply after →
      (rest reply).Obeys (getHeap p q) post after) :
    (Program.perform (I := Helper) op >>= rest).Obeys (getHeap p q) post view :=
  ⟨allowed, second⟩

theorem loadFrom_get (data : view.HasData) (count offset : Nat)
    (bound : offset + count ≤ view.len.toNat) :
    (loadFrom view.buf count offset).Obeys (getHeap p q) (fun _ after => after = view) view := by
  induction count generalizing offset with
  | zero => exact rfl
  | succ count ih =>
    refine get_bind ⟨data, rfl, by omega⟩ ?_
    rintro byte _ rfl
    refine (ih (offset + 1) (by omega)).bind_at fun rest => ?_
    exact rfl

/-- A collection that returns while it holds its slot has not freed the result. -/
def GetView.Settled (view : GetView) : Prop :=
  view.phase = .holding → view.freed = false

theorem takeData_get (params : Params) (data : view.HasData) :
    (takeData params p q).Obeys (getHeap p q) (fun _ after => after.Settled) view := by
  have holding := data.holding
  refine get_bind ⟨holding, rfl, rfl⟩ ?_
  rintro _ _ ⟨rfl, rfl⟩
  refine get_bind ⟨holding, rfl, rfl⟩ ?_
  rintro _ view ⟨rfl, rfl⟩
  refine (loadFrom_get data _ 0 (by omega)).bind_at fun out => ?_
  refine get_bind ⟨holding, rfl, rfl⟩ ?_
  rintro _ view ⟨rfl, rfl⟩
  refine get_bind ⟨data, rfl⟩ ?_
  rintro _ _ rfl
  refine get_bind ⟨holding, rfl, rfl⟩ ?_
  rintro _ _ ⟨rfl, rfl⟩
  refine get_bind ⟨holding, rfl, rfl⟩ ?_
  rintro times _ rfl
  refine get_bind ⟨holding, rfl, rfl⟩ ?_
  rintro _ _ ⟨rfl, rfl⟩
  refine get_bind ⟨⟨holding, rfl⟩, rfl, rfl⟩ ?_
  rintro _ _ rfl
  refine get_bind ⟨⟨holding, rfl⟩, rfl, rfl⟩ ?_
  rintro _ _ rfl
  refine get_bind ⟨⟨holding, rfl⟩, rfl, rfl⟩ ?_
  rintro _ _ rfl
  refine get_bind ⟨holding, rfl, rfl⟩ ?_
  rintro _ _ rfl
  intro holding
  cases holding

theorem dataBufMissing_get (holding : view.phase = .holding) :
    (dataBufMissing p q).Obeys (getHeap p q) (fun _ after => after = view) view := by
  refine get_bind ⟨holding, rfl, rfl⟩ ?_
  rintro _ view ⟨rfl, rfl⟩
  split
  · refine get_bind ⟨holding, rfl, rfl⟩ ?_
    rintro _ _ ⟨rfl, rfl⟩
    exact rfl
  · exact rfl

theorem getReadyData_get (params : Params) (holding : view.phase = .holding)
    (notFreed : view.freed = false) :
    (getReadyData params p q).Obeys (getHeap p q) (fun _ after => after.Settled) view := by
  have released (reply : CommandResult) :
      (do releaseSigno p q; return reply : Program Helper CommandResult).Obeys (getHeap p q)
        (fun _ after => after.Settled) view := by
    refine get_bind ⟨holding, rfl, rfl⟩ ?_
    rintro _ _ rfl
    intro _
    exact notFreed
  refine get_bind ⟨holding, rfl, rfl⟩ ?_
  rintro _ view ⟨rfl, rfl⟩
  dsimp only
  split
  · refine get_bind ⟨holding, rfl, rfl⟩ ?_
    rintro _ view ⟨rfl, rfl⟩
    exact released _
  · rename_i notNegative
    refine get_bind ⟨holding, rfl, rfl⟩ ?_
    rintro _ view ⟨rfl, rfl⟩
    split
    · refine get_bind ⟨holding, rfl, rfl⟩ ?_
      rintro _ view ⟨rfl, rfl⟩
      intro _
      exact notFreed
    · refine (dataBufMissing_get holding).bind_at fun missing => ?_
      split
      · exact released _
      · refine get_bind ⟨holding, rfl, rfl⟩ ?_
        rintro _ view ⟨rfl, rfl⟩
        split
        · refine get_bind ⟨holding, rfl, rfl⟩ ?_
          rintro _ view ⟨rfl, rfl⟩
          exact released _
        · rename_i notEmpty
          exact takeData_get params ⟨holding, notFreed, Bool.not_eq_true _ ▸ notNegative, notEmpty⟩

/-- A collection reads the result of the slot it holds, frees it once and resets
the entry only after that. -/
theorem getData_get (paramTypes : BitVec 32) (params : Params)
    (unchecked : view.phase = .unchecked) (notFreed : view.freed = false) :
    (getData paramTypes params).Obeys (getHeap (slotOf params).1 (slotOf params).2)
      (fun _ after => after.Settled) view := by
  have settled : view.Settled := by
    intro holding
    rw [unchecked] at holding
    cases holding
  unfold getData
  split
  · exact settled
  · dsimp only
    split
    · exact settled
    · refine get_bind ⟨unchecked, rfl, rfl⟩ ?_
      intro ready after step
      cases ready with
      | false =>
        obtain rfl : after = view := step
        exact settled
      | true =>
        obtain ⟨ret, len, buf, rfl⟩ := step
        exact getReadyData_get params rfl notFreed

end Collection

end TrustWasm.IoHelper
