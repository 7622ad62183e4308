import TrustWasm.IoHelper.SlotContract
import TrustWasm.Runtime.SigTable

/-!
# The runtime and the io_helper

A Wasm program runs in a single thread.  Its native calls submit requests,
register handlers and collect results, and its checkpoints poll the io_helper
and call handlers, while the workers of the io_helper go on.  The runtime is the
only client.  A submission proceeds by single operations, a scan by single
polls; workers take steps in between.  What the program computes is left open: it
may make any native call at any time, reach a checkpoint at any time and return
from a handler at any time.

The io_helper takes its steps with arrays, queues and heap kept apart.  In memory it
does so while the submissions match their handlers (`Submission.Matched`,
`matched_of_memory`); after others, such as a write of no bytes that frees a queue node,
the queues may hold anything, and what is said here of the runtime need not hold.

Ghost data says which handler was registered for the request that occupies a
slot, and which handlers were called.
-/

namespace TrustWasm.Runtime

open TrustWasm.Lib TrustWasm.Tee TrustWasm.IoHelper

/-- A handler registered for a request: the table element the program named and
the function that element held. -/
structure Registration where
  element : BitVec 32
  target : Option (BitVec 32)
  deriving DecidableEq

/-- A call of a handler by a checkpoint: the slot, the function called, the
handler registered for the request in the slot, and whether a handler was running
already. -/
structure Dispatch where
  signo : Nat
  subSigno : Nat
  called : BitVec 32
  owner : Option Registration
  nested : Bool
  deriving DecidableEq

/-- What the runtime thread is doing: executing Wasm code, in a submission whose
slot is known once it is allocated, or in the loop of `get_ready_signal`.  A
submission of a callback call registers the handler afterwards; the scan that
follows a handler in AOT code dispatches nothing.  A null handler stops the
thread. -/
inductive Task where
  | wasm
  | fault
  | submit (serial : Nat) (submission : Submission) (handler : Option (BitVec 32))
      (slot : Option Nat)
  | scan (tmpSigpending : BitVec 64) (dispatches : Bool)

/-- The runtime with the io_helper. -/
structure Rt where
  sys : Sys
  globals : Globals
  inst : Instance
  task : Task
  owners : Nat → Nat → Option Registration
  dispatched : List Dispatch

def Rt.init (inst : Instance) : Rt where
  sys := Sys.init
  globals := Globals.init
  inst := inst
  task := .wasm
  owners _ _ := none
  dispatched := []

inductive RtAction where
  | worker (action : Action)
  | submit (submission : Submission) (handler : Option (BitVec 32))
  | submitOp
  | submitDone (allocated : Bool)
  | setCallback (periphNo subSigno : Nat) (handler : BitVec 32) (allocated : Bool)
  | pollSubsignal (periphNo subSigno : Nat)
  | collect (paramTypes : BitVec 32) (params : Params)
  | checkpoint
  | poll
  | handlerDone
  | changeTable (elems : List (BitVec 32))

/-- A step of a worker of the io_helper. -/
def IsWorker : Action → Prop
  | .dequeue _ | .loopOp _ => True
  | _ => False

/-- The slot a submission has allocated. -/
def slotAfter (slot : Option Nat) : (op : HelperOp) → Helper.Reply op → Option Nat
  | .allocateSigno _, some signo => some signo
  | _, _ => slot

/-- The parameters of a command on one slot. -/
def slotParams (periphNo subSigno : Nat) : Params :=
  ⟨.value (BitVec.ofNat 32 periphNo) (BitVec.ofNat 32 subSigno), ⟨null, 0⟩, ⟨null, 0⟩, ⟨null, 0⟩⟩

namespace Rt

/-- The io_helper after a command of the runtime. -/
def withPta (s : Rt) (pta : Pta) : Rt :=
  { s with sys := { s.sys with pta := pta } }

/-- Back in Wasm code after a registration, which may have failed. -/
def register (s : Rt) (mode : Mode) (allocated : Bool) (signo subSigno : Nat)
    (handler : BitVec 32) : Rt :=
  match s.globals.registerHandler mode s.inst allocated signo subSigno handler with
  | none => { s with task := .wasm }
  | some globals =>
    let target := s.inst.getIndirectFunction mode allocated handler
    { s with
      task := .wasm
      globals := globals
      owners := setSlot s.owners signo subSigno (some ⟨handler, target.map (·.funcIdx)⟩) }

/-- A submission has returned: a callback call registers its handler for the
slot the io_helper has answered with. -/
def submitted (s : Rt) (mode : Mode) (allocated : Bool) (submission : Submission)
    (handler : Option (BitVec 32)) (reply : CommandResult) : Rt :=
  if reply.res ≠ teeSuccess then { s with task := .wasm }
  else match handler with
    | none => { s with task := .wasm }
    | some handler =>
      s.register mode allocated (toUint16 submission.params.p0.a) reply.params.p0.a.toNat handler

/-- Start the loop of `get_ready_signal`. -/
def scan (s : Rt) (dispatches : Bool) : Rt :=
  { s with
    task := if s.globals.sigpending = 0 then .wasm else .scan s.globals.sigpending dispatches }

/-- Call the handler of a slot. -/
def dispatch (s : Rt) (mode : Mode) (signo subSigno : Nat) : Rt :=
  match s.globals.handlerOf mode signo subSigno with
  | none => { s with task := .fault }
  | some called =>
    { s with
      task := .wasm
      globals := s.globals.tempUnsetAllIoSignalPending
      dispatched := s.dispatched ++ [⟨signo, subSigno, called, s.owners signo subSigno,
        s.globals.inHandler⟩] }

/-- After a round of the loop. -/
def scanned (s : Rt) (mode : Mode) (dispatches : Bool) : Scan × Globals → Rt
  | (.found signo subSigno, globals) =>
    if dispatches then ({ s with globals := globals }).dispatch mode signo subSigno
    else { s with task := .wasm, globals := globals }
  | (.polling rest, globals) =>
    { s with globals := globals, task := if rest = 0 then .wasm else .scan rest dispatches }

/-- The handler has returned; AOT code polls once more. -/
def handlerDone (s : Rt) (mode : Mode) : Rt :=
  let recovered := { s with globals := s.globals.tempRecoverAllIoSignalPending }
  match mode with
  | .interp => recovered
  | .aot => recovered.scan false

end Rt

/-- The owners of the slots after a collection: a slot that was released has
none. -/
def ownersAfter (owners : Nat → Nat → Option Registration) (after : Pta) (params : Params) :
    Nat → Nat → Option Registration :=
  let slot := slotOf params
  if after.isUsingSigno slot.1 slot.2 then owners else setSlot owners slot.1 slot.2 none

/-- The steps of the runtime with the io_helper. -/
inductive RtStep (mode : Mode) : Rt → RtAction → Rt → Prop where
  | worker (s : Rt) (action : Action) (sys : Sys) :
      IsWorker action → Step helper s.sys action sys →
      RtStep mode s (.worker action) { s with sys := sys }
  | submit (s : Rt) (submission : Submission) (handler : Option (BitVec 32)) (sys : Sys) :
      s.task = .wasm → Step helper s.sys (.submit submission) sys →
      RtStep mode s (.submit submission handler)
        { s with sys := sys, task := .submit s.sys.next submission handler none }
  | submitOp (s : Rt) (serial : Nat) (submission : Submission) (handler : Option (BitVec 32))
      (slot : Option Nat) (op : HelperOp) (next : Helper.Reply op → Program Helper CommandResult)
      (phase : SubmitPhase) (args : List Ptr) (reply : Helper.Reply op) (after : Pta) :
      s.task = .submit serial submission handler slot →
      s.sys.submits serial = some ⟨.call op next, phase, args⟩ →
      helperStep s.sys.pta op reply after →
      RtStep mode s .submitOp
        { s with
          sys := { s.sys with
            pta := after
            submits := Function.update s.sys.submits serial
              (some ⟨next reply, phase.after op reply, argsAfter args op reply⟩)
            log := s.sys.log ++ submitEvents op reply }
          task := .submit serial submission handler (slotAfter slot op reply) }
  | submitDone (s : Rt) (serial : Nat) (submission : Submission) (handler : Option (BitVec 32))
      (slot : Option Nat) (reply : CommandResult) (phase : SubmitPhase) (args : List Ptr)
      (allocated : Bool) :
      s.task = .submit serial submission handler slot →
      s.sys.submits serial = some ⟨.pure reply, phase, args⟩ →
      RtStep mode s (.submitDone allocated) (s.submitted mode allocated submission handler reply)
  | setCallback (s : Rt) (periphNo subSigno : Nat) (handler : BitVec 32) (allocated : Bool)
      (reply : CommandResult) (after : Pta) :
      s.task = .wasm → InRange (periphNo, subSigno) →
      (pollSubsignal pollTypes (slotParams periphNo subSigno)).Exec helper s.sys.pta reply after →
      RtStep mode s (.setCallback periphNo subSigno handler allocated)
        (if reply.res ≠ teeSuccess then s.withPta after
          else (s.withPta after).register mode allocated periphNo subSigno handler)
  | pollSubsignal (s : Rt) (periphNo subSigno : Nat) (reply : CommandResult) (after : Pta) :
      s.task = .wasm → InRange (periphNo, subSigno) →
      (pollSubsignal pollTypes (slotParams periphNo subSigno)).Exec helper s.sys.pta reply after →
      RtStep mode s (.pollSubsignal periphNo subSigno) (s.withPta after)
  | collect (s : Rt) (paramTypes : BitVec 32) (params : Params) (reply : CommandResult)
      (after : Pta) :
      s.task = .wasm → InRange (slotOf params) →
      (getData paramTypes params).Exec helper s.sys.pta reply after →
      RtStep mode s (.collect paramTypes params)
        { s with
          sys := { s.sys with
            pta := after
            ready := readyAfterGetData s.sys.ready after params
            log := s.sys.log ++ [.collected paramTypes params reply] }
          owners := ownersAfter s.owners after params }
  | checkpoint (s : Rt) : s.task = .wasm → RtStep mode s .checkpoint (s.scan true)
  | poll (s : Rt) (tmpSigpending : BitVec 64) (dispatches : Bool) (reply : CommandResult)
      (after : Pta) :
      s.task = .scan tmpSigpending dispatches →
      (poll pollTypes (pollParams (Mask.ffs tmpSigpending - 1))).Exec helper s.sys.pta reply after →
      RtStep mode s .poll ((s.withPta after).scanned mode dispatches
        (scanRound s.globals tmpSigpending (pollToIoHelper reply)))
  | handlerDone (s : Rt) :
      s.task = .wasm → s.globals.inHandler = true →
      RtStep mode s .handlerDone (s.handlerDone mode)
  | changeTable (s : Rt) (elems : List (BitVec 32)) :
      s.task = .wasm →
      RtStep mode s (.changeTable elems) { s with inst := { s.inst with elems := elems } }

/-- The runtime from the start of a Wasm program. -/
def runtime (mode : Mode) : System Rt RtAction where
  initial s := ∃ inst, s = Rt.init inst
  step := RtStep mode

end TrustWasm.Runtime
