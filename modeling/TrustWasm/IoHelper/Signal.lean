import TrustWasm.Lib.Heap
import TrustWasm.Lib.Mask
import TrustWasm.Tee.Api

/-!
# State of the io_helper and its mutex-protected sections

The io_helper keeps, for each of 64 peripherals, a mask of slots in use, a mask
of slots whose result is ready, a count of outstanding requests and a queue of
requests; a table holds one result entry for each slot of each peripheral.
The functions here are the sections the code runs under a mutex.

Arrays are total functions of their index, and the result table is laid out
row by row as in memory, so that an index outside an array reaches what lies
behind it.  A shift by a slot number counts modulo 64.
-/

namespace TrustWasm.IoHelper

open TrustWasm.Lib TrustWasm.Lib.Mask TrustWasm.Tee Function

def nPeriph : Nat := 64
def nSubSig : Nat := 64

/-- `io_req_type_t`; a code outside the enumeration is kept as it is. -/
inductive IoReqType where
  | dhtRead
  | bh1750fviSample
  | i2cReadBytes
  | i2cWriteBytes
  | i2cReadRegs
  | i2cWriteRegs
  | spiTransferBytes
  | spiTransferByte
  | spiTransferDiffBytes
  | writeSecureObject
  | readSecureObject
  | mpu6050Sample
  | tel0157GetGnssLen
  | tel0157GetAllGnss
  | tel0157GetUtcTime
  | tel0157GetGnssMode
  | tel0157GetNumSatUsed
  | tel0157GetLon
  | tel0157GetLat
  | tel0157GetAlt
  | tel0157GetSog
  | tel0157GetCog
  | at24cxxWrite
  | at24cxxRead
  | atk301GetFingerprintImage
  | atk301UploadFingerprintImage
  | bme280Sample
  | bme280GetCalibration
  | reqTypeNone
  | other (code : BitVec 32)
  deriving DecidableEq

/-- The enumerators in the order of their codes. -/
def IoReqType.enumerators : List IoReqType :=
  [.dhtRead, .bh1750fviSample, .i2cReadBytes, .i2cWriteBytes, .i2cReadRegs, .i2cWriteRegs,
    .spiTransferBytes, .spiTransferByte, .spiTransferDiffBytes, .writeSecureObject,
    .readSecureObject, .mpu6050Sample, .tel0157GetGnssLen, .tel0157GetAllGnss,
    .tel0157GetUtcTime, .tel0157GetGnssMode, .tel0157GetNumSatUsed, .tel0157GetLon,
    .tel0157GetLat, .tel0157GetAlt, .tel0157GetSog, .tel0157GetCog, .at24cxxWrite,
    .at24cxxRead, .atk301GetFingerprintImage, .atk301UploadFingerprintImage, .bme280Sample,
    .bme280GetCalibration, .reqTypeNone]

/-- The cast `(io_req_type_t)code`. -/
def IoReqType.ofCode (code : BitVec 32) : IoReqType :=
  IoReqType.enumerators.getD code.toNat (.other code)

/-- Ghost data of a submission, never read by the code: a serial number that
tells requests apart and the argument buffers allocated for the request. -/
structure Ticket where
  serial : Nat
  args : List Ptr
  deriving DecidableEq

/-- `io_req_t`. -/
structure IoReq where
  type : IoReqType
  signo : Nat
  p0 : TeeParam
  p1 : TeeParam
  p2 : TeeParam
  ticket : Ticket
  deriving DecidableEq

/-- `io_sigentry_t`. -/
structure SigEntry where
  ret : BitVec 32
  buf : Ptr
  len : BitVec 32
  pollTimes : BitVec 32
  deriving DecidableEq

/-- A queue node: the address of its heap block and the request it carries. -/
structure IoReqNode where
  addr : Ptr
  req : IoReq
  deriving DecidableEq

/-- The global variables of the io_helper and the secure-world heap. -/
structure Pta where
  sigpending : Nat → BitVec 64
  pollTimes : Nat → BitVec 32
  sigusing : Nat → BitVec 64
  reqNums : Nat → BitVec 32
  signalTable : Nat → SigEntry
  reqQueues : Nat → List IoReqNode
  heap : Heap Ptr Byte

/-- The state at boot: every global is zero and nothing is allocated. -/
def Pta.zero : Pta where
  sigpending _ := 0
  pollTimes _ := 0
  sigusing _ := 0
  reqNums _ := 0
  signalTable _ := ⟨0, null, 0, 0⟩
  reqQueues _ := []
  heap := Heap.empty

/-- The place of `io_helper_signal_table[periph_no][signo]` in memory. -/
def slotIndex (periphNo signo : Nat) : Nat :=
  periphNo * nSubSig + signo

namespace Pta

/-- The table entry at `[periph_no][signo]`. -/
def entry (s : Pta) (periphNo signo : Nat) : SigEntry :=
  s.signalTable (slotIndex periphNo signo)

def setEntry (s : Pta) (periphNo signo : Nat) (value : SigEntry) : Pta :=
  { s with signalTable := update s.signalTable (slotIndex periphNo signo) value }

/-- `get_ready_signal`: the lowest ready slot, with the poll statistics. -/
def getReadySignal (s : Pta) (periphNo : Nat) : Option Nat × Pta :=
  let count := s.pollTimes periphNo + 1
  if s.sigpending periphNo ≠ 0 then
    let res := ffs (s.sigpending periphNo) - 1
    (some res,
      { s.setEntry periphNo res { s.entry periphNo res with pollTimes := count } with
        pollTimes := update s.pollTimes periphNo 0 })
  else
    (none, { s with pollTimes := update s.pollTimes periphNo count })

/-- `set_ready_signal`. -/
def setReadySignal (s : Pta) (periphNo signo : Nat) : Pta :=
  { s with sigpending :=
      update s.sigpending periphNo (s.sigpending periphNo ||| bit 64 signo) }

/-- `is_ready_signal`. -/
def isReadySignal (s : Pta) (periphNo signo : Nat) : Bool :=
  s.sigpending periphNo &&& bit 64 signo != 0

/-- `is_using_signo`. -/
def isUsingSigno (s : Pta) (periphNo signo : Nat) : Bool :=
  s.sigusing periphNo &&& bit 64 signo != 0

/-- `get_req_num`. -/
def getReqNum (s : Pta) (periphNo : Nat) : BitVec 32 :=
  s.reqNums periphNo

/-- `allocate_signo`: the lowest slot not in use, or none when all are. -/
def allocateSigno (s : Pta) (periphNo : Nat) : Option Nat × Pta :=
  if s.sigusing periphNo = BitVec.allOnes 64 then
    (none, s)
  else
    let idx := ffs (~~~s.sigusing periphNo)
    let mask := if idx = 64 then BitVec.allOnes 64 else s.sigusing periphNo ||| low 64 idx
    (some (idx - 1),
      { s.setEntry periphNo (idx - 1) { s.entry periphNo (idx - 1) with pollTimes := 0 } with
        sigusing := update s.sigusing periphNo mask
        reqNums := update s.reqNums periphNo (s.reqNums periphNo + 1) })

/-- `release_signo`. -/
def releaseSigno (s : Pta) (periphNo signo : Nat) : Pta :=
  { s with
    sigpending := update s.sigpending periphNo (s.sigpending periphNo &&& ~~~bit 64 signo)
    sigusing := update s.sigusing periphNo (s.sigusing periphNo &&& ~~~bit 64 signo)
    reqNums := update s.reqNums periphNo (s.reqNums periphNo - 1) }

/-- The size of a queue node: two words, three parameters and the link. -/
def ioReqNodeSize : Nat := 64

/-- `enqueue` once its node has been allocated at `addr`. -/
def enqueueNode (s : Pta) (periphNo : Nat) (addr : Ptr) (junk : Nat → Byte) (req : IoReq) : Pta :=
  { s with
    reqQueues := update s.reqQueues periphNo (s.reqQueues periphNo ++ [⟨addr, req⟩])
    heap := s.heap.alloc addr ioReqNodeSize junk }

/-- `dequeue`: the head request; its node is freed. -/
def dequeue (s : Pta) (periphNo : Nat) : Option (IoReq × Pta) :=
  match s.reqQueues periphNo with
  | [] => none
  | node :: rest =>
    some (node.req,
      { s with
        reqQueues := update s.reqQueues periphNo rest
        heap := s.heap.free node.addr })

end Pta

end TrustWasm.IoHelper
