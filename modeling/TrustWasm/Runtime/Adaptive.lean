import TrustWasm.Runtime.Pending

/-!
# Adaptive checkpoints

In the adaptive build a registration also enqueues a record of its request, in a queue of its
peripheral, with a guess when the request will be done.  A checkpoint looks at the front of one
queue first and polls only when the guess has passed.  A checkpoint that calls a handler takes
the front of the queue of the peripheral, updates the time model of its request type with it,
and makes a new guess for the next.

The tables are indexed by numbers that are not always checked, so every index that is used is
recorded, and so is what every dispatch takes from its queue.  A record carries the number of
the registration that has enqueued it.  The arithmetic on `float` is left open.
-/

namespace TrustWasm.Runtime

open TrustWasm.Lib TrustWasm.Lib.Mask TrustWasm.Tee TrustWasm.IoHelper Function

/-- `N_REQ_TYPE`. -/
def nReqType : Nat := 28

/-- `REQ_TYPE_NONE`, the type `promise_set_callback` registers with. -/
def reqTypeNone : BitVec 32 := 28

/-! ## Time models -/

/-- `exec_time_t`. -/
structure ExecTime where
  k : BitVec 64
  b : BitVec 64
  waitProfile : Int

/-- When a request of `len` bytes that starts now is done. -/
def ExecTime.guessEnd (time : ExecTime) (now : BitVec 64) (len : BitVec 32) : BitVec 64 :=
  now + time.k * len.setWidth 64 + time.b

/-- The two computations with `float`: the new `b` from the time a request took and the old
`b`, and the new `wait_profile` from the number of profiles. -/
structure FloatModel where
  newB : BitVec 64 → BitVec 64 → BitVec 64
  newWaitProfile : Nat → Int

/-- `io_req_t`, with the number of its registration. -/
structure TimedReq where
  type : BitVec 32
  start : BitVec 64
  guessEnd : BitVec 64
  len : BitVec 32
  number : Nat

/-- An index into one of the tables. -/
inductive TableIndex where
  | ioQueues (idx : Int)
  | execTimeTable (idx : Int)
  deriving DecidableEq

def TableIndex.InRange : TableIndex → Prop
  | ioQueues idx => 0 ≤ idx ∧ idx < nSig
  | execTimeTable idx => 0 ≤ idx ∧ idx < nReqType

/-- What a dispatch has taken from its queue, with the number of the registration for the
request in the slot, if there is one, and the type of that request. -/
structure Removal where
  signo : Nat
  subSigno : Nat
  removed : Option TimedReq
  owner : Option Nat
  reqType : BitVec 32

/-- The dispatch has taken the record of its own request, and updates the time model of the
request's type with it. -/
def Removal.IsOwn (removal : Removal) : Prop :=
  ∃ req, removal.removed = some req ∧ removal.owner = some req.number ∧
    req.type = removal.reqType

/-! ## The runtime -/

/-- The runtime of the adaptive build.  Ghost data says which registration is the last one for a
slot, which type the request in a slot has, and for which registrations the handler was
called. -/
structure Adaptive where
  rt : Rt
  ioQueues : Int → List TimedReq
  execTimeTable : Nat → ExecTime
  waitProfile : Int
  noProfile : Bool
  profileTimes : Nat
  numbers : Nat → Nat → Nat
  reqTypes : Nat → Nat → BitVec 32
  registrations : Nat
  handled : List Nat
  indexed : List TableIndex
  removals : List Removal

/-- The initial contents of `exec_time_table`. -/
def execTimeInit (reqType : Nat) : ExecTime :=
  if reqType = 2 then ⟨0, 5600, 0⟩ else ⟨0, 0, 0⟩

/-- `stray` and `behind` are what the memory outside of the tables holds. -/
def Adaptive.init (inst : Instance) (stray : Int → List TimedReq) (behind : Nat → ExecTime) :
    Adaptive where
  rt := Rt.init inst
  ioQueues idx := if 0 ≤ idx ∧ idx < nSig then [] else stray idx
  execTimeTable reqType := if reqType < nReqType then execTimeInit reqType else behind reqType
  waitProfile := 0
  noProfile := false
  profileTimes := 0
  numbers _ _ := 0
  reqTypes _ _ := 0
  registrations := 0
  handled := []
  indexed := []
  removals := []

namespace Adaptive

/-- The other native calls and the workers do not touch the tables. -/
def withRt (s : Adaptive) (rt : Rt) : Adaptive :=
  { s with rt := rt }

def resume (s : Adaptive) : Adaptive :=
  s.withRt { s.rt with task := .wasm }

/-- `enqueue` by the registration for a slot.  A node that cannot be allocated is not
noticed. -/
def enqueue (s : Adaptive) (node : Bool) (signo subSigno : Nat) (req : TimedReq) : Adaptive :=
  { s with
    ioQueues :=
      if node then update s.ioQueues signo (s.ioQueues signo ++ [req]) else s.ioQueues
    numbers := setSlot s.numbers signo subSigno s.registrations
    registrations := s.registrations + 1 }

/-- `tzio_register_handler`. -/
def register (s : Adaptive) (mode : Mode) (allocated node : Bool) (now : BitVec 64)
    (signo subSigno : Nat) (handler reqType len : BitVec 32) : Adaptive :=
  if nSig < signo ∨ nSubSig < subSigno ∨ handler = 0 ∨ nReqType < reqType.toNat then
    s.resume
  else
    let guess := (s.execTimeTable reqType.toNat).guessEnd now len
    { s.enqueue node signo subSigno ⟨reqType, now, guess, len, s.registrations⟩ with
      rt := s.rt.register mode allocated signo subSigno handler
      indexed := s.indexed ++ [.execTimeTable reqType.toNat, .ioQueues signo] }

/-- A request of the type occupies the slot. -/
def occupy (s : Adaptive) (signo subSigno : Nat) (reqType : BitVec 32) : Adaptive :=
  { s with reqTypes := setSlot s.reqTypes signo subSigno reqType }

/-- A submission has returned.  A callback call registers with the type of its request. -/
def submitted (s : Adaptive) (mode : Mode) (allocated node : Bool) (now : BitVec 64)
    (len : BitVec 32) (submission : Submission) (handler : Option (BitVec 32))
    (reply : CommandResult) : Adaptive :=
  if reply.res ≠ teeSuccess then s.resume
  else
    let signo := toUint16 submission.params.p0.a
    let subSigno := reply.params.p0.a.toNat
    let reqType := submission.params.p0.b
    match handler with
    | none => (s.occupy signo subSigno reqType).resume
    | some handler =>
      (s.occupy signo subSigno reqType).register mode allocated node now signo subSigno handler
        reqType len

/-- `profile`: the queue of the lowest pending peripheral, or the one before the first when
none is pending. -/
def profile (s : Adaptive) (now : BitVec 64) : Bool × Adaptive :=
  let idx : Int := (ffs s.rt.globals.sigpending : Int) - 1
  let s := { s with
    profileTimes := s.profileTimes + 1
    indexed := s.indexed ++ [TableIndex.ioQueues idx] }
  match s.ioQueues idx with
  | [] => (false, s)
  | front :: _ =>
    if front.guessEnd < now then (true, { s with noProfile := true })
    else
      (false, { s with
        waitProfile := (s.execTimeTable front.type.toNat).waitProfile
        indexed := s.indexed ++ [TableIndex.execTimeTable front.type.toNat] })

def scan (s : Adaptive) (dispatches : Bool) : Adaptive :=
  s.withRt (s.rt.scan dispatches)

/-- A checkpoint up to the polls.  AOT code passes it while no peripheral is pending. -/
def checkpoint (s : Adaptive) (mode : Mode) (now : BitVec 64) : Adaptive :=
  if mode = .aot ∧ s.rt.globals.sigpending = 0 then s
  else if s.noProfile then s.scan true
  else if s.waitProfile ≤ 0 then
    match s.profile now with
    | (true, s) => s.scan true
    | (false, s) => s
  else
    { s with waitProfile := s.waitProfile - 1 }

/-- The registration for the request in a slot. -/
def owner (s : Adaptive) (signo subSigno : Nat) : Option Nat :=
  (s.rt.owners signo subSigno).map fun _ => s.numbers signo subSigno

/-- The record at the front gets a new guess. -/
def restart (table : Nat → ExecTime) (now : BitVec 64) : List TimedReq → List TimedReq
  | [] => []
  | front :: rest =>
    { front with
      start := now
      guessEnd := (table front.type.toNat).guessEnd now front.len } :: rest

/-- A dispatch takes the front of the queue; from an empty queue it gets what is on the
stack. -/
def dequeue (s : Adaptive) (model : FloatModel) (now : BitVec 64) (stack : TimedReq)
    (signo subSigno : Nat) : Adaptive :=
  let queue := s.ioQueues signo
  let req := queue.headD stack
  let old := s.execTimeTable req.type.toNat
  let table := update s.execTimeTable req.type.toNat
    { old with
      b := model.newB (now - req.start) old.b
      waitProfile := model.newWaitProfile s.profileTimes }
  { s with
    ioQueues := update s.ioQueues signo (restart table now queue.tail)
    execTimeTable := table
    handled := (s.owner signo subSigno).toList ++ s.handled
    indexed := s.indexed ++ [.ioQueues signo, .execTimeTable req.type.toNat] ++
      queue.tail.head?.toList.map fun front => .execTimeTable front.type.toNat
    removals := s.removals ++ [⟨signo, subSigno, queue.head?, s.owner signo subSigno,
      s.reqTypes signo subSigno⟩] }

/-- After a poll. -/
def polled (s : Adaptive) (model : FloatModel) (mode : Mode) (now : BitVec 64)
    (stack : TimedReq) (dispatches : Bool) (after : Pta) (outcome : Scan × Globals) : Adaptive :=
  let rt := (s.rt.withPta after).scanned mode dispatches outcome
  match outcome.1, dispatches with
  | .found signo subSigno, true => (s.dequeue model now stack signo subSigno).withRt rt
  | _, _ => s.withRt rt

/-- The handler has returned; both modes poll once more. -/
def handlerDone (s : Adaptive) : Adaptive :=
  { s with
    rt := s.rt.handlerDone .aot
    noProfile := false
    waitProfile := 0 }

end Adaptive

/-! ## Steps -/

inductive AdaptiveAction where
  | plain (action : RtAction)
  | submitDone (allocated node : Bool) (now : BitVec 64) (len : BitVec 32)
  | setCallback (periphNo subSigno : Nat) (handler : BitVec 32) (allocated node : Bool)
      (now : BitVec 64)
  | checkpoint (now : BitVec 64)
  | poll (now : BitVec 64) (stack : TimedReq)
  | handlerDone

/-- The actions that are the same in both builds.  A callback function submits a request of
the type it is for, which is an enumerator before `REQ_TYPE_NONE`. -/
def IsPlain : RtAction → Prop
  | .submit submission handler => handler ≠ none → submission.params.p0.b.toNat < nReqType
  | .worker _ | .submitOp | .pollSubsignal .. | .collect .. | .changeTable _ => True
  | .submitDone _ | .setCallback .. | .checkpoint | .poll | .handlerDone => False

/-- The steps of the adaptive build. -/
inductive AdaptiveStep (model : FloatModel) (mode : Mode) :
    Adaptive → AdaptiveAction → Adaptive → Prop where
  | plain (s : Adaptive) (action : RtAction) (rt : Rt) :
      IsPlain action → RtStep mode s.rt action rt →
      AdaptiveStep model mode s (.plain action) (s.withRt rt)
  | submitDone (s : Adaptive) (serial : Nat) (submission : Submission)
      (handler : Option (BitVec 32)) (slot : Option Nat) (reply : CommandResult)
      (phase : SubmitPhase) (args : List Ptr) (allocated node : Bool) (now : BitVec 64)
      (len : BitVec 32) :
      s.rt.task = .submit serial submission handler slot →
      s.rt.sys.submits serial = some ⟨.pure reply, phase, args⟩ →
      AdaptiveStep model mode s (.submitDone allocated node now len)
        (s.submitted mode allocated node now len submission handler reply)
  | setCallback (s : Adaptive) (periphNo subSigno : Nat) (handler : BitVec 32)
      (allocated node : Bool) (now : BitVec 64) (reply : CommandResult) (after : Pta) :
      s.rt.task = .wasm → InRange (periphNo, subSigno) →
      (pollSubsignal pollTypes (slotParams periphNo subSigno)).Exec helper s.rt.sys.pta reply
        after →
      AdaptiveStep model mode s (.setCallback periphNo subSigno handler allocated node now)
        (if reply.res ≠ teeSuccess then s.withRt (s.rt.withPta after)
          else (s.withRt (s.rt.withPta after)).register mode allocated node now periphNo subSigno
            handler reqTypeNone 0)
  | checkpoint (s : Adaptive) (now : BitVec 64) :
      s.rt.task = .wasm → AdaptiveStep model mode s (.checkpoint now) (s.checkpoint mode now)
  | poll (s : Adaptive) (tmpSigpending : BitVec 64) (dispatches : Bool) (reply : CommandResult)
      (after : Pta) (now : BitVec 64) (stack : TimedReq) :
      s.rt.task = .scan tmpSigpending dispatches →
      (poll pollTypes (pollParams (ffs tmpSigpending - 1))).Exec helper s.rt.sys.pta reply after →
      AdaptiveStep model mode s (.poll now stack)
        (s.polled model mode now stack dispatches after
          (scanRound s.rt.globals tmpSigpending (pollToIoHelper reply)))
  | handlerDone (s : Adaptive) :
      s.rt.task = .wasm → s.rt.globals.inHandler = true →
      AdaptiveStep model mode s .handlerDone s.handlerDone

/-- The adaptive build from the start of a Wasm program. -/
def adaptiveRuntime (model : FloatModel) (mode : Mode) : System Adaptive AdaptiveAction where
  initial s := ∃ inst stray behind, s = Adaptive.init inst stray behind
  step := AdaptiveStep model mode

/-! ## The condition -/

/-- The request in the slot has a handler that was not called yet. -/
def Adaptive.Waiting (s : Adaptive) (signo subSigno : Nat) : Prop :=
  s.rt.owners signo subSigno ≠ none ∧ s.numbers signo subSigno ∉ s.handled

/-- The interpreter profiles only while a peripheral is pending.  The node of a record can be
allocated, and no handler is set for a promise of a slot in use.  A result that is ready is
collected only when its handler was called.  A poll that is to dispatch finds, if any, the
oldest of the requests of its peripheral whose handler was not called. -/
def Orderly (mode : Mode) (s : Adaptive) : AdaptiveAction → Prop
  | .plain (.collect _ params) =>
    s.Waiting (slotOf params).1 (slotOf params).2 →
      s.rt.sys.pta.isReadySignal (slotOf params).1 (slotOf params).2 = false
  | .submitDone _ node _ _ => node = true
  | .setCallback periphNo subSigno handler _ _ _ =>
    s.rt.sys.pta.isUsingSigno periphNo subSigno = true → handler = 0
  | .checkpoint _ =>
    mode = .interp → s.noProfile = false → s.waitProfile ≤ 0 → s.rt.globals.sigpending ≠ 0
  | .poll _ _ =>
    ∀ tmpSigpending subSigno, s.rt.task = .scan tmpSigpending true →
      pollAnswer s.rt.sys.pta (ffs tmpSigpending - 1) = .success subSigno →
      s.Waiting (ffs tmpSigpending - 1) subSigno ∧
        ∀ other, s.Waiting (ffs tmpSigpending - 1) other →
          s.numbers (ffs tmpSigpending - 1) subSigno ≤ s.numbers (ffs tmpSigpending - 1) other
  | _ => True

end TrustWasm.Runtime
