import TrustWasm.IoHelper.Handlers

/-!
# Commands of the io_helper

The four submission commands, the two polls and the collection of a result, as
programs.  Every command returns its code and the parameters as it leaves
them; a collection also returns the bytes it copied to the client's buffer.
-/

namespace TrustWasm.IoHelper

open TrustWasm.Lib TrustWasm.Tee

/-- The result of a command. -/
structure CommandResult where
  res : TeeResult
  params : Params
  out : List Byte
  deriving DecidableEq

def CommandResult.error (res : TeeResult) (params : Params) : CommandResult :=
  ⟨res, params, []⟩

/-- The cast `(uint16_t)` of a parameter word. -/
def toUint16 (word : BitVec 32) : Nat :=
  word.toNat % 2 ^ 16

/-! ## Submission -/

/-- Allocate a slot, fill the argument buffers, enqueue the request and answer
with the slot.  The result of `enqueue` is dropped, as in the code. -/
def submitReq (periphNo : Nat) (params : Params) (copy : Program Helper Unit)
    (req : Nat → IoReq) : Program Helper CommandResult := do
  let signo ← allocateSigno periphNo
  match signo with
  | none => return .error teeErrorBusy params
  | some signo => do
    copy
    let _ ← enqueue periphNo (req signo)
    return ⟨teeSuccess, { params with p0 := params.p0.setA (BitVec.ofNat 32 signo) }, []⟩

/-- The parameter types of READ_REQ. -/
def readReqTypes : BitVec 32 :=
  teeParamTypes teeParamTypeValueInout teeParamTypeValueInput teeParamTypeValueInput
    teeParamTypeValueInput

/-- The parameter types of READ_REQ_WITH_BUFFER and of WRITE_REQ. -/
def bufferReqTypes : BitVec 32 :=
  teeParamTypes teeParamTypeValueInout teeParamTypeMemrefInput teeParamTypeValueInput
    teeParamTypeValueInput

/-- The parameter types of WRITE_REQ_WITH_BUFFER. -/
def twoBufferReqTypes : BitVec 32 :=
  teeParamTypes teeParamTypeValueInout teeParamTypeMemrefInput teeParamTypeMemrefInput
    teeParamTypeValueInput

section Submission

variable (serial : Nat) (paramTypes : BitVec 32) (params : Params)

def readReq : Program Helper CommandResult :=
  if paramTypes ≠ readReqTypes then
    return .error teeErrorBadParameters params
  else if nPeriph ≤ params.p0.a.toNat then
    return .error teeErrorBadParameters params
  else
    submitReq (toUint16 params.p0.a) params (return) fun signo =>
      { type := .ofCode params.p0.b, signo := signo
        p0 := params.p1, p1 := params.p2, p2 := params.p3
        ticket := ⟨serial, []⟩ }

def readReqWithBuffer : Program Helper CommandResult :=
  if paramTypes ≠ bufferReqTypes then
    return .error teeErrorBadParameters params
  else if nPeriph ≤ params.p0.a.toNat then
    return .error teeErrorBadParameters params
  else do
    let buffer ← malloc params.p1.size.toNat
    if buffer = null then
      return .error teeErrorOutOfMemory params
    submitReq (toUint16 params.p0.a) params
      (copyIn buffer params.p1.buffer params.p1.size.toNat 0) fun signo =>
        { type := .ofCode params.p0.b, signo := signo
          p0 := ⟨buffer, params.p1.size⟩, p1 := params.p2, p2 := params.p3
          ticket := ⟨serial, [buffer]⟩ }

/-- `write_req` after its buffer is allocated.  For an empty buffer the pointer
of the request keeps what was on the stack. -/
def writeReqFrom (buffer : Ptr) (args : List Ptr) : Program Helper CommandResult :=
  submitReq (toUint16 params.p0.a) params
    (copyIn buffer params.p1.buffer params.p1.size.toNat 0) fun signo =>
      { type := .ofCode params.p0.b, signo := signo
        p0 := ⟨buffer, params.p1.size⟩, p1 := params.p2, p2 := params.p3
        ticket := ⟨serial, args⟩ }

/-- `uninit` is the content of the uninitialised pointer on the stack. -/
def writeReq (uninit : Ptr) : Program Helper CommandResult :=
  if paramTypes ≠ bufferReqTypes then
    return .error teeErrorBadParameters params
  else if nPeriph ≤ params.p0.a.toNat then
    return .error teeErrorBadParameters params
  else if params.p1.size ≠ 0 then do
    let buffer ← malloc params.p1.size.toNat
    if buffer = null then
      return .error teeErrorOutOfMemory params
    writeReqFrom serial params buffer [buffer]
  else
    writeReqFrom serial params uninit []

def writeReqWithBuffer : Program Helper CommandResult :=
  if paramTypes ≠ twoBufferReqTypes then
    return .error teeErrorBadParameters params
  else if nPeriph ≤ params.p0.a.toNat then
    return .error teeErrorBadParameters params
  else do
    let first ← malloc params.p1.size.toNat
    if first = null then
      return .error teeErrorOutOfMemory params
    let second ← malloc params.p2.size.toNat
    if second = null then
      return .error teeErrorOutOfMemory params
    submitReq (toUint16 params.p0.a) params
      (do
        copyIn first params.p1.buffer params.p1.size.toNat 0
        copyIn second params.p2.buffer params.p2.size.toNat 0) fun signo =>
        { type := .ofCode params.p0.b, signo := signo
          p0 := ⟨first, params.p1.size⟩, p1 := ⟨second, params.p2.size⟩, p2 := params.p3
          ticket := ⟨serial, [first, second]⟩ }

end Submission

/-- The submission commands. -/
inductive SubmitCmd where
  | readReq
  | readReqWithBuffer
  | writeReq
  | writeReqWithBuffer
  deriving DecidableEq

/-- A submission: the command, its arguments and the stack content it meets. -/
structure Submission where
  cmd : SubmitCmd
  paramTypes : BitVec 32
  params : Params
  uninit : Ptr
  deriving DecidableEq

def Submission.program (submission : Submission) (serial : Nat) :
    Program Helper CommandResult :=
  match submission.cmd with
  | .readReq => readReq serial submission.paramTypes submission.params
  | .readReqWithBuffer => readReqWithBuffer serial submission.paramTypes submission.params
  | .writeReq => writeReq serial submission.paramTypes submission.params submission.uninit
  | .writeReqWithBuffer => writeReqWithBuffer serial submission.paramTypes submission.params

/-! ## Polling -/

/-- The parameter types of both polls. -/
def pollTypes : BitVec 32 :=
  teeParamTypes teeParamTypeValueInout teeParamTypeNone teeParamTypeNone teeParamTypeNone

def poll (paramTypes : BitVec 32) (params : Params) : Program Helper CommandResult :=
  if paramTypes ≠ pollTypes then
    return .error teeErrorBadParameters params
  else if nPeriph ≤ toUint16 params.p0.a then
    return .error teeErrorBadParameters params
  else do
    let periphNo := toUint16 params.p0.a
    let signo ← getReadySignal periphNo
    match signo with
    | none => do
      let reqNum ← getReqNum periphNo
      if 0 < reqNum.toNat then
        return ⟨teeSuccess, { params with p0 := (params.p0.setA 1).setB 0xFFFFFFFF }, []⟩
      else
        return ⟨teeSuccess, { params with p0 := params.p0.setA 0 }, []⟩
    | some signo =>
      return ⟨teeSuccess, { params with p0 := (params.p0.setA 1).setB (BitVec.ofNat 32 signo) }, []⟩

def pollSubsignal (paramTypes : BitVec 32) (params : Params) : Program Helper CommandResult :=
  if paramTypes ≠ pollTypes then
    return .error teeErrorBadParameters params
  else if nPeriph ≤ toUint16 params.p0.a ∨ nSubSig ≤ params.p0.b.toNat then
    return .error teeErrorBadParameters params
  else do
    let periphNo := toUint16 params.p0.a
    let subSigno := params.p0.b.toNat
    let inUse ← isUsingSigno periphNo subSigno
    if !inUse then
      return .error teeErrorBadState params
    let count ← getPollTimes periphNo subSigno
    setPollTimes periphNo subSigno (count + 1)
    let ready ← isReadySignal periphNo subSigno
    return ⟨teeSuccess, { params with p0 := params.p0.setA (if ready then 1 else 0) }, []⟩

/-! ## Collection -/

/-- The parameter types of GET_DATA. -/
def getDataTypes : BitVec 32 :=
  teeParamTypes teeParamTypeValueInout teeParamTypeMemrefOutput teeParamTypeNone teeParamTypeNone

section Collection

variable (params : Params) (periphNo subSigno : Nat)

/-- The test `len != 0 && buf == NULL`; the second operand is read only when
the first holds. -/
def dataBufMissing : Program Helper Bool := do
  let len ← getLen periphNo subSigno
  if len ≠ 0 then
    let buf ← getBuf periphNo subSigno
    return buf == null
  else
    return false

/-- The last part of `get_data`: copy the result out, free it, reset the entry
and release the slot. -/
def takeData : Program Helper CommandResult := do
  let buf ← getBuf periphNo subSigno
  let len ← getLen periphNo subSigno
  let out ← loadFrom buf len.toNat 0
  let buf ← getBuf periphNo subSigno
  free buf
  let ret ← getRet periphNo subSigno
  let times ← getPollTimes periphNo subSigno
  let len ← getLen periphNo subSigno
  setLen periphNo subSigno 0
  setRet periphNo subSigno 0
  setPollTimes periphNo subSigno 0
  releaseSigno periphNo subSigno
  return ⟨teeSuccess,
    { params with
      p0 := (params.p0.setA ret).setB times
      p1 := { params.p1 with size := len.setWidth 64 } }, out⟩

/-- `get_data` once the slot was found ready. -/
def getReadyData : Program Helper CommandResult := do
  let ret ← getRet periphNo subSigno
  if isNegative ret then
    let ret ← getRet periphNo subSigno
    releaseSigno periphNo subSigno
    return ⟨teeSuccess, { params with p0 := params.p0.setA ret }, []⟩
  let len ← getLen periphNo subSigno
  if params.p1.size.toNat < len.toNat then
    let len ← getLen periphNo subSigno
    return ⟨teeErrorShortBuffer,
      { params with p1 := { params.p1 with size := len.setWidth 64 } }, []⟩
  let missing ← dataBufMissing periphNo subSigno
  if missing then
    releaseSigno periphNo subSigno
    return .error teeErrorNoData params
  let len ← getLen periphNo subSigno
  if len = 0 then
    let ret ← getRet periphNo subSigno
    releaseSigno periphNo subSigno
    return ⟨teeSuccess,
      { params with p0 := params.p0.setA ret, p1 := { params.p1 with size := 0 } }, []⟩
  takeData params periphNo subSigno

end Collection

/-- `get_data`; the slot number may be 64 and the peripheral number is not
checked. -/
def getData (paramTypes : BitVec 32) (params : Params) : Program Helper CommandResult :=
  if paramTypes ≠ getDataTypes then
    return .error teeErrorBadParameters params
  else
    let periphNo := toUint16 params.p0.a
    let subSigno := params.p0.b.toNat
    if nSubSig < subSigno then
      return .error teeErrorBadParameters params
    else do
      let ready ← isReadySignal periphNo subSigno
      if !ready then
        return .error teeErrorNoData params
      getReadyData params periphNo subSigno

end TrustWasm.IoHelper
