import TrustWasm.Drivers.Calls
import TrustWasm.IoHelper.Signal

/-!
# Atomic operations of the io_helper code

The commands and the request handlers are programs over these operations: the
mutex-protected sections, each single access to the result table, each single
access to the heap, and the calls into drivers and secure storage.  `helper`
gives every operation its effect on the globals and the heap.  The environment
chooses the address of a new block, or refuses it, the junk it holds, the bytes
of client memory, what is read through an address where no block is live, and
the answers of devices and storage.
-/

namespace TrustWasm.IoHelper

open TrustWasm.Lib TrustWasm.Tee TrustWasm.Drivers

/-- One atomic operation. -/
inductive HelperOp where
  | getReadySignal (periphNo : Nat)
  | setReadySignal (periphNo signo : Nat)
  | isReadySignal (periphNo signo : Nat)
  | isUsingSigno (periphNo signo : Nat)
  | getReqNum (periphNo : Nat)
  | allocateSigno (periphNo : Nat)
  | releaseSigno (periphNo signo : Nat)
  | enqueue (periphNo : Nat) (req : IoReq)
  | getRet (periphNo signo : Nat)
  | getLen (periphNo signo : Nat)
  | getBuf (periphNo signo : Nat)
  | getPollTimes (periphNo signo : Nat)
  | setRet (periphNo signo : Nat) (ret : BitVec 32)
  | setLen (periphNo signo : Nat) (len : BitVec 32)
  | setBuf (periphNo signo : Nat) (buf : Ptr)
  | setPollTimes (periphNo signo : Nat) (count : BitVec 32)
  | malloc (size : Nat)
  | free (ptr : Ptr)
  | loadByte (ptr : Ptr) (offset : Nat)
  | storeByte (ptr : Ptr) (offset : Nat) (byte : Byte)
  | loadClient (ptr : Ptr) (offset : Nat)
  | driver (call : DriverCall)
  | storage (call : StorageCall)
  deriving DecidableEq

/-- The operations as an interface. -/
abbrev Helper : Interface where
  Op := HelperOp
  Reply
    | .getReadySignal .. | .allocateSigno .. => Option Nat
    | .isReadySignal .. | .isUsingSigno .. => Bool
    | .getReqNum .. | .getRet .. | .getLen .. | .getPollTimes .. => BitVec 32
    | .getBuf .. | .malloc .. => Ptr
    | .enqueue .. => TeeResult
    | .loadByte .. | .loadClient .. => Byte
    | .driver .. => Drivers.Reply
    | .storage .. => StorageReply
    | .setReadySignal .. | .releaseSigno .. | .setRet .. | .setLen .. | .setBuf ..
    | .setPollTimes .. | .free .. | .storeByte .. => Unit

/-- The effect of an operation and the replies it may give. -/
def helperStep (s : Pta) : (op : HelperOp) → Helper.Reply op → Pta → Prop
  | .getReadySignal periphNo, (reply : Option Nat), s' => s.getReadySignal periphNo = (reply, s')
  | .setReadySignal periphNo signo, (), s' => s' = s.setReadySignal periphNo signo
  | .isReadySignal periphNo signo, (reply : Bool), s' =>
    reply = s.isReadySignal periphNo signo ∧ s' = s
  | .isUsingSigno periphNo signo, (reply : Bool), s' =>
    reply = s.isUsingSigno periphNo signo ∧ s' = s
  | .getReqNum periphNo, (reply : BitVec 32), s' => reply = s.getReqNum periphNo ∧ s' = s
  | .allocateSigno periphNo, (reply : Option Nat), s' => s.allocateSigno periphNo = (reply, s')
  | .releaseSigno periphNo signo, (), s' => s' = s.releaseSigno periphNo signo
  | .enqueue periphNo req, (reply : TeeResult), s' =>
    (reply = teeErrorOutOfMemory ∧ s' = s) ∨
      (reply = teeSuccess ∧ ∃ addr junk, addr ≠ null ∧ s.heap.blocks addr = none ∧
        s' = s.enqueueNode periphNo addr junk req)
  | .getRet periphNo signo, (reply : BitVec 32), s' => reply = (s.entry periphNo signo).ret ∧ s' = s
  | .getLen periphNo signo, (reply : BitVec 32), s' => reply = (s.entry periphNo signo).len ∧ s' = s
  | .getBuf periphNo signo, (reply : Ptr), s' => reply = (s.entry periphNo signo).buf ∧ s' = s
  | .getPollTimes periphNo signo, (reply : BitVec 32), s' =>
    reply = (s.entry periphNo signo).pollTimes ∧ s' = s
  | .setRet periphNo signo ret, (), s' =>
    s' = s.setEntry periphNo signo { s.entry periphNo signo with ret := ret }
  | .setLen periphNo signo len, (), s' =>
    s' = s.setEntry periphNo signo { s.entry periphNo signo with len := len }
  | .setBuf periphNo signo buf, (), s' =>
    s' = s.setEntry periphNo signo { s.entry periphNo signo with buf := buf }
  | .setPollTimes periphNo signo count, (), s' =>
    s' = s.setEntry periphNo signo { s.entry periphNo signo with pollTimes := count }
  | .malloc size, (reply : Ptr), s' =>
    (reply = null ∧ s' = s) ∨
      (reply ≠ null ∧ s.heap.blocks reply = none ∧
        ∃ junk, s' = { s with heap := s.heap.alloc reply size junk })
  | .free ptr, (), s' => s' = { s with heap := s.heap.free ptr }
  | .loadByte ptr offset, (reply : Byte), s' =>
    s' = s ∧ ∀ block, s.heap.blocks ptr = some block → reply = block.bytes offset
  | .storeByte ptr offset byte, (), s' => s' = { s with heap := s.heap.store ptr offset byte }
  | .loadClient _ _, _, s' => s' = s
  | .driver call, (reply : Drivers.Reply), s' => DeviceAllows call reply ∧ s' = s
  | .storage call, (reply : StorageReply), s' => StorageAllows call reply ∧ s' = s

/-- The operations on the globals and the heap. -/
def helper : Semantics Helper Pta where
  guard _ _ := True
  step := helperStep

/-! ## Operations as programs -/

section Operations

variable (periphNo signo : Nat)

def getReadySignal : Program Helper (Option Nat) :=
  Program.perform (I := Helper) (.getReadySignal periphNo)

def setReadySignal : Program Helper Unit :=
  Program.perform (I := Helper) (.setReadySignal periphNo signo)

def isReadySignal : Program Helper Bool :=
  Program.perform (I := Helper) (.isReadySignal periphNo signo)

def isUsingSigno : Program Helper Bool :=
  Program.perform (I := Helper) (.isUsingSigno periphNo signo)

def getReqNum : Program Helper (BitVec 32) :=
  Program.perform (I := Helper) (.getReqNum periphNo)

def allocateSigno : Program Helper (Option Nat) :=
  Program.perform (I := Helper) (.allocateSigno periphNo)

def releaseSigno : Program Helper Unit :=
  Program.perform (I := Helper) (.releaseSigno periphNo signo)

def enqueue (req : IoReq) : Program Helper TeeResult :=
  Program.perform (I := Helper) (.enqueue periphNo req)

def getRet : Program Helper (BitVec 32) :=
  Program.perform (I := Helper) (.getRet periphNo signo)

def getLen : Program Helper (BitVec 32) :=
  Program.perform (I := Helper) (.getLen periphNo signo)

def getBuf : Program Helper Ptr :=
  Program.perform (I := Helper) (.getBuf periphNo signo)

def getPollTimes : Program Helper (BitVec 32) :=
  Program.perform (I := Helper) (.getPollTimes periphNo signo)

def setRet (ret : BitVec 32) : Program Helper Unit :=
  Program.perform (I := Helper) (.setRet periphNo signo ret)

def setLen (len : BitVec 32) : Program Helper Unit :=
  Program.perform (I := Helper) (.setLen periphNo signo len)

def setBuf (buf : Ptr) : Program Helper Unit :=
  Program.perform (I := Helper) (.setBuf periphNo signo buf)

def setPollTimes (count : BitVec 32) : Program Helper Unit :=
  Program.perform (I := Helper) (.setPollTimes periphNo signo count)

end Operations

def malloc (size : Nat) : Program Helper Ptr :=
  Program.perform (I := Helper) (.malloc size)

def free (ptr : Ptr) : Program Helper Unit :=
  Program.perform (I := Helper) (.free ptr)

def loadByte (ptr : Ptr) (offset : Nat) : Program Helper Byte :=
  Program.perform (I := Helper) (.loadByte ptr offset)

def storeByte (ptr : Ptr) (offset : Nat) (byte : Byte) : Program Helper Unit :=
  Program.perform (I := Helper) (.storeByte ptr offset byte)

def loadClient (ptr : Ptr) (offset : Nat) : Program Helper Byte :=
  Program.perform (I := Helper) (.loadClient ptr offset)

def driver (call : DriverCall) : Program Helper Drivers.Reply :=
  Program.perform (I := Helper) (.driver call)

def storage (call : StorageCall) : Program Helper StorageReply :=
  Program.perform (I := Helper) (.storage call)

@[simp]
theorem malloc_bind {β : Type} (size : Nat) (rest : Ptr → Program Helper β) :
    (malloc size >>= rest) = Program.call (I := Helper) (.malloc size) rest :=
  rfl

/-! ## Byte loops -/

/-- Read `count` bytes from `offset` on. -/
def loadFrom (ptr : Ptr) : Nat → Nat → Program Helper (List Byte)
  | 0, _ => return []
  | count + 1, offset => do
    let byte ← loadByte ptr offset
    let rest ← loadFrom ptr count (offset + 1)
    return byte :: rest

/-- Apply the stores of a driver to the caller's buffer. -/
def storeAll (ptr : Ptr) : List (Nat × Byte) → Program Helper Unit
  | [] => return
  | (offset, byte) :: rest => do
    storeByte ptr offset byte
    storeAll ptr rest

/-- `memcpy` of `count` bytes of client memory into a heap block. -/
def copyIn (dst src : Ptr) : Nat → Nat → Program Helper Unit
  | 0, _ => return
  | count + 1, offset => do
    let byte ← loadClient src offset
    storeByte dst offset byte
    copyIn dst src count (offset + 1)

/-- Call a driver function whose destination buffer is `out`. -/
def callDriver (call : DriverCall) (out : Ptr) : Program Helper TeeResult := do
  let reply ← driver call
  storeAll out reply.out
  return reply.res

/-- The content of a source buffer, `none` for a null pointer. -/
def sourceBytes (param : TeeParam) : Program Helper (Option (List Byte)) :=
  if param.buffer = null then
    return none
  else do
    let bytes ← loadFrom param.buffer param.size.toNat 0
    return some bytes

end TrustWasm.IoHelper
