import TrustWasm.IoHelper.System

/-!
# The signal table of the runtime

The runtime keeps a handler for each slot, a mask of the peripherals it has to
poll and, while a handler runs, the mask to recover when the handler returns.
These are globals of the process.  The functions here are those that read and
change them; a poll of the io_helper appears as its answer.
-/

namespace TrustWasm.Runtime

open TrustWasm.Lib TrustWasm.Tee TrustWasm.IoHelper

/-- `N_SIG`. -/
def nSig : Nat := 64

/-- How the functions of the module are executed. -/
inductive Mode where
  | interp
  | aot
  deriving DecidableEq

/-! ## Functions of a module instance -/

/-- `NULL_REF`. -/
def nullRef : BitVec 32 := 0xFFFFFFFF

/-- A function instance: the module instance it belongs to and its index there. -/
structure FuncRef where
  instanceNo : Nat
  funcIdx : BitVec 32
  deriving DecidableEq

/-- What a registration reads of a module instance: the elements of its table
and the number of its functions. -/
structure Instance where
  instanceNo : Nat
  elems : List (BitVec 32)
  functionCount : Nat
  deriving DecidableEq

/-- `wasm_runtime_get_indirect_function` on table 0, `none` for a null result.
An AOT module looks the function up without a check of its index and allocates a
new object for it; `allocated` says that the allocation did not fail. -/
def Instance.getIndirectFunction (inst : Instance) (mode : Mode) (allocated : Bool)
    (elemIdx : BitVec 32) : Option FuncRef :=
  match inst.elems[elemIdx.toNat]? with
  | none => none
  | some tblElemVal =>
    if tblElemVal = nullRef then none
    else match mode with
      | .interp =>
        if inst.functionCount ≤ tblElemVal.toNat then none
        else some ⟨inst.instanceNo, tblElemVal⟩
      | .aot => if allocated then some ⟨inst.instanceNo, tblElemVal⟩ else none

variable {inst : Instance} {mode : Mode} {allocated : Bool}

/-- A function an element resolves to is the one the element holds. -/
theorem Instance.getIndirectFunction_eq_some {elemIdx : BitVec 32} {function : FuncRef}
    (found : inst.getIndirectFunction mode allocated elemIdx = some function) :
    inst.elems[elemIdx.toNat]? = some function.funcIdx ∧ function.funcIdx ≠ nullRef ∧
      function.instanceNo = inst.instanceNo := by
  unfold Instance.getIndirectFunction at found
  split at found
  · cases found
  · rename_i element isElement
    split at found
    · cases found
    · rename_i notNull
      cases mode with
      | interp =>
        dsimp only at found
        split at found
        · cases found
        · cases found
          exact ⟨isElement, notNull, rfl⟩
      | aot =>
        dsimp only at found
        split at found
        · cases found
          exact ⟨isElement, notNull, rfl⟩
        · cases found

/-! ## Globals -/

/-- `io_sigentry`. -/
structure IoSigentry where
  function : Option FuncRef
  funcTableIdx : BitVec 32
  funcIdx : BitVec 32
  deriving DecidableEq

/-- The globals of `tz_io_sigtable.c`. -/
structure Globals where
  sigtable : Nat → Nat → IoSigentry
  sigpending : BitVec 64
  recoverSigpending : BitVec 64
  inHandler : Bool

def Globals.init : Globals where
  sigtable _ _ := ⟨none, 0, 0⟩
  sigpending := 0
  recoverSigpending := 0
  inHandler := false

namespace Globals

/-- The mask that holds the pending peripherals: inside a handler the one to
recover. -/
def active (g : Globals) : BitVec 64 :=
  if g.inHandler then g.recoverSigpending else g.sigpending

def setSignalPending (g : Globals) (signo : Nat) : Globals :=
  if g.inHandler then
    { g with recoverSigpending := g.recoverSigpending ||| Mask.bit 64 signo }
  else
    { g with sigpending := g.sigpending ||| Mask.bit 64 signo }

def tempUnsetAllIoSignalPending (g : Globals) : Globals :=
  { g with recoverSigpending := g.sigpending, sigpending := 0, inHandler := true }

def tempRecoverAllIoSignalPending (g : Globals) : Globals :=
  { g with inHandler := false, sigpending := g.recoverSigpending }

def allSignalHandled (g : Globals) : Bool :=
  g.sigpending == 0

/-- `tzio_register_handler`; `none` is the result -1. -/
def registerHandler (g : Globals) (mode : Mode) (inst : Instance) (allocated : Bool)
    (signo subSigno : Nat) (handlerFuncPtr : BitVec 32) : Option Globals :=
  if nSig < signo ∨ nSubSig < subSigno then none
  else if handlerFuncPtr = 0 then none
  else
    let target := inst.getIndirectFunction mode allocated handlerFuncPtr
    let funcIdx := match target with
      | some function => function.funcIdx
      | none => 0
    some ({ g with
      sigtable := setSlot g.sigtable signo subSigno ⟨target, handlerFuncPtr, funcIdx⟩
      }.setSignalPending signo)

section SetSignalPending

variable (g : Globals) (signo : Nat)

theorem setSignalPending_active :
    (g.setSignalPending signo).active = g.active ||| Mask.bit 64 signo := by
  unfold setSignalPending active
  cases g.inHandler
  · simp
  · simp

theorem setSignalPending_inHandler : (g.setSignalPending signo).inHandler = g.inHandler := by
  unfold setSignalPending
  split <;> rfl

theorem setSignalPending_sigtable : (g.setSignalPending signo).sigtable = g.sigtable := by
  unfold setSignalPending
  split <;> rfl

theorem setSignalPending_sigpending (inHandler : g.inHandler = true) :
    (g.setSignalPending signo).sigpending = g.sigpending := by
  unfold setSignalPending
  rw [if_pos inHandler]

end SetSignalPending

/-- A slot that exists gets every handler but element 0. -/
theorem registerHandler_eq_none_iff {g : Globals} {signo subSigno : Nat}
    {handlerFuncPtr : BitVec 32} (small : signo < 64) (subSmall : subSigno < 64) :
    g.registerHandler mode inst allocated signo subSigno handlerFuncPtr = none ↔
      handlerFuncPtr = 0 := by
  unfold registerHandler
  rw [if_neg (by simp only [nSig, nSubSig]; omega)]
  split
  · simpa
  · simpa

theorem registerHandler_eq_some {g g' : Globals} {signo subSigno : Nat} {handlerFuncPtr : BitVec 32}
    (registered : g.registerHandler mode inst allocated signo subSigno handlerFuncPtr = some g') :
    handlerFuncPtr ≠ 0 ∧
      g' = { g with
        sigtable := setSlot g.sigtable signo subSigno
          ⟨inst.getIndirectFunction mode allocated handlerFuncPtr, handlerFuncPtr,
            match inst.getIndirectFunction mode allocated handlerFuncPtr with
            | some function => function.funcIdx
            | none => 0⟩ }.setSignalPending signo := by
  unfold registerHandler at registered
  split at registered
  · cases registered
  · split at registered
    · cases registered
    · rename_i nonzero
      exact ⟨nonzero, (Option.some.inj registered).symm⟩

/-- The function a checkpoint calls for a slot.  The interpreter takes it from
the function index; AOT code goes through the object in the table, which it does
not check for null. -/
def handlerOf (g : Globals) (mode : Mode) (signo subSigno : Nat) : Option (BitVec 32) :=
  let entry := g.sigtable signo subSigno
  match mode with
  | .interp => some entry.funcIdx
  | .aot => entry.function.map fun _ => entry.funcIdx

end Globals

/-! ## Polls -/

/-- The results of `poll_to_io_helper`. -/
inductive PollResult where
  | success (subSigno : Nat)
  | communication
  | noData
  | busy
  | generic
  deriving DecidableEq

/-- The parameters of a poll of peripheral `sessNo`. -/
def pollParams (sessNo : Nat) : Params :=
  ⟨.value (BitVec.ofNat 32 (sessNo % 2 ^ 16)) 0, ⟨null, 0⟩, ⟨null, 0⟩, ⟨null, 0⟩⟩

/-- What `poll_to_io_helper` makes of the answer of the io_helper. -/
def pollToIoHelper (reply : CommandResult) : PollResult :=
  if reply.res ≠ teeSuccess then .communication
  else if reply.params.p0.a = 0 then .noData
  else if reply.params.p0.b = 0xFFFFFFFF then .busy
  else if reply.params.p0.b.toNat < nSubSig then .success reply.params.p0.b.toNat
  else .generic

/-- Where the loop of `get_ready_signal` stands: the masks left to poll, or the
slot it has found. -/
inductive Scan where
  | found (signo subSigno : Nat)
  | polling (tmpSigpending : BitVec 64)
  deriving DecidableEq

/-- One round of the loop: the lowest peripheral of the mask has been polled. -/
def scanRound (g : Globals) (tmpSigpending : BitVec 64) (answer : PollResult) :
    Scan × Globals :=
  let idx := Mask.ffs tmpSigpending
  let rest := tmpSigpending &&& ~~~Mask.low 64 idx
  match answer with
  | .success subSigno => (.found (idx - 1) subSigno, g)
  | .noData => (.polling rest, { g with sigpending := g.sigpending &&& ~~~Mask.bit 64 (idx - 1) })
  | .communication | .busy | .generic => (.polling rest, g)

end TrustWasm.Runtime
