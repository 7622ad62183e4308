import TrustWasm.Runtime.SigTable

/-!
# Calls of handlers

A checkpoint calls the handler of a slot with `argc = 2` and `argv = signo`, an
array of two cells on its stack.  A registration does not look at the type of the
handler, so the calls below are those of functions of any type.  Cells are
counted from `signo[0]`: cell 2 is what the stack holds behind the array.

The interpreter compares `argc` with the cells of the parameters and copies the
results back to `argv`.  AOT code takes the arguments from the array as the
parameters say and does not look at `argc`.  A call is described by the cells
its arguments come from and the cells its results go to; a checkpoint reads
neither of them afterwards.
-/

namespace TrustWasm.Runtime

open TrustWasm.Lib TrustWasm.IoHelper

/-! ## Functions and their types -/

/-- The value types of a build without SIMD and reference types. -/
inductive ValueType where
  | i32
  | i64
  | f32
  | f64
  deriving DecidableEq

/-- `wasm_value_type_cell_num`. -/
def ValueType.cellNum : ValueType → Nat
  | .i32 | .f32 => 1
  | .i64 | .f64 => 2

/-- `wasm_get_cell_num`. -/
def getCellNum : List ValueType → Nat
  | [] => 0
  | type :: types => type.cellNum + getCellNum types

structure FuncType where
  params : List ValueType
  results : List ValueType
  deriving DecidableEq

def FuncType.paramCellNum (type : FuncType) : Nat :=
  getCellNum type.params

def FuncType.retCellNum (type : FuncType) : Nat :=
  getCellNum type.results

/-- The type has two parameters of 32 bits. -/
def FuncType.TakesTwoWords (type : FuncType) : Prop :=
  type.params.map ValueType.cellNum = [1, 1]

instance (type : FuncType) : Decidable type.TakesTwoWords :=
  inferInstanceAs (Decidable (_ = _))

/-- A value as the cells that hold it. -/
abbrev Value := List (BitVec 32)

/-- A function of the module: its type, whether it has code (an import may be
unlinked) and the arguments on which it ends with an exception. -/
structure FunctionInstance where
  type : FuncType
  linked : Bool
  traps : List Value → Bool

/-- The arguments a function with these parameters takes from the cells at a
position. -/
def loadArgs (argv : Nat → BitVec 32) : Nat → List ValueType → List Value
  | _, [] => []
  | position, type :: types =>
    (List.range type.cellNum).map (fun i => argv (position + i)) ::
      loadArgs argv (position + type.cellNum) types

/-! ## The two call paths -/

/-- A call that was made: its arguments, the cells they were read from, the cells
the addresses of its extra results were read from, the cells overwritten by its
results, and whether it ended with an exception. -/
structure Call where
  args : List Value
  read : List Nat
  extAddrs : List Nat
  stored : List Nat
  exception : Bool

/-- What becomes of a call: it is not made and an exception says why, it is made,
or the processor follows a pointer that is null or no pointer at all. -/
inductive Outcome where
  | refused (exception : String)
  | called (call : Call)
  | fault

/-- What a call may run out of: the native stack, the stack of the interpreter,
the heap of the runtime. -/
structure Resources where
  nativeStack : Bool
  wasmStack : Bool
  heap : Bool

/-- `wasm_interp_call_wasm`. -/
def wasmInterpCallWasm (free : Resources) (function : FunctionInstance) (argc : Nat)
    (argv : Nat → BitVec 32) : Outcome :=
  let expected := function.type.paramCellNum
  if argc ≠ expected then .refused s!"invalid argument count {argc}, expected {expected}"
  else if free.nativeStack = false then .refused "native stack overflow"
  else if free.wasmStack = false then .refused "wasm operand stack overflow"
  else
    let args := loadArgs argv 0 function.type.params
    let exception := !function.linked || function.traps args
    .called {
      args := args
      read := List.range argc
      extAddrs := []
      stored := if exception then [] else List.range function.type.retCellNum
      exception := exception }

/-- `wasm_runtime_invoke_native` of the 64-bit targets for a function of the
module, without the store of the first result.  The addresses of extra results
follow the arguments. -/
def invokeNative (free : Resources) (function : FunctionInstance) (argv : Nat → BitVec 32)
    (stored : List Value → List Nat) : Outcome :=
  let type := function.type
  let extRetCount := type.results.length - 1
  if 32 < 1 + 8 + type.params.length + extRetCount ∧ free.heap = false then
    .refused "allocate memory failed"
  else if function.linked = false then .fault
  else
    let args := loadArgs argv 0 type.params
    .called {
      args := args
      read := List.range type.paramCellNum
      extAddrs := (List.range extRetCount).map fun i => type.paramCellNum + 2 * i
      stored := stored args
      exception := function.traps args }

/-- The arguments of a call with extra results: a copy of the `argc` cells of
`argv`, followed by other data. -/
def copiedArgs (argc : Nat) (argv other : Nat → BitVec 32) (position : Nat) : BitVec 32 :=
  if position < argc then argv position else other (position - argc)

/-- `aot_call_function`.  The first result goes to `argv` whatever the function
did, the extra results only if it ended without an exception. -/
def aotCallFunction (free : Resources) (function : FunctionInstance) (argc : Nat)
    (argv other : Nat → BitVec 32) : Outcome :=
  match function.type.results with
  | [] => invokeNative free function argv fun _ => []
  | [result] => invokeNative free function argv fun _ => List.range result.cellNum
  | first :: extRetTypes =>
    let cellNum := getCellNum extRetTypes
    if 128 < 4 * argc + 8 * extRetTypes.length + 4 * cellNum ∧ free.heap = false then
      .refused "allocate memory failed"
    else
      invokeNative free function (copiedArgs argc argv other) fun args =>
        List.range first.cellNum ++
          if function.traps args then []
          else (List.range cellNum).map fun i => first.cellNum + i

/-! ## The call of a checkpoint -/

/-- The array `signo` of a checkpoint and the stack behind it. -/
def signoCells (signo subSigno : Nat) (behind : Nat → BitVec 32) : Nat → BitVec 32
  | 0 => BitVec.ofNat 32 signo
  | 1 => BitVec.ofNat 32 subSigno
  | position + 2 => behind position

section SignoCells

variable {signo subSigno : Nat} {behind : Nat → BitVec 32}

theorem signoCells_zero : signoCells signo subSigno behind 0 = BitVec.ofNat 32 signo :=
  rfl

theorem signoCells_one : signoCells signo subSigno behind 1 = BitVec.ofNat 32 subSigno :=
  rfl

end SignoCells

/-- The call a checkpoint makes for a slot that is ready.  The index of the
function is not compared with the number of functions. -/
def callHandler (free : Resources) (functions : List FunctionInstance) (g : Globals) (mode : Mode)
    (signo subSigno : Nat) (behind other : Nat → BitVec 32) : Outcome :=
  let argv := signoCells signo subSigno behind
  match g.handlerOf mode signo subSigno with
  | none => .fault
  | some funcIdx =>
    match functions[funcIdx.toNat]? with
    | none => .fault
    | some function =>
      match mode with
      | .interp => wasmInterpCallWasm free function 2 argv
      | .aot => aotCallFunction free function 2 argv other

/-- The outcome respects the type of a handler of two words: the call is made with
the slot as its arguments, of the function the element held, and no cell outside
`signo` is read or overwritten; or the call is refused. -/
def Outcome.Respects (signo subSigno : Nat) (resolved : Bool) : Outcome → Prop
  | .refused _ => True
  | .fault => False
  | .called call =>
    resolved = true ∧ call.args = [[BitVec.ofNat 32 signo], [BitVec.ofNat 32 subSigno]] ∧
      (∀ cell ∈ call.read, cell < 2) ∧ (∀ cell ∈ call.stored, cell < 2) ∧
        call.extAddrs = (List.range call.extAddrs.length).map fun i => 2 + 2 * i

/-! ## Which handlers are called as their type says -/

section Arguments

variable {argv : Nat → BitVec 32} {type : FuncType}

theorem loadArgs_map_length (argv : Nat → BitVec 32) (position : Nat) (types : List ValueType) :
    (loadArgs argv position types).map List.length = types.map ValueType.cellNum := by
  induction types generalizing position with
  | nil => rfl
  | cons type types ih => simp [loadArgs, ih]

theorem FuncType.TakesTwoWords.exists_params (twoWords : type.TakesTwoWords) :
    ∃ first second, type.params = [first, second] ∧ first.cellNum = 1 ∧ second.cellNum = 1 := by
  unfold FuncType.TakesTwoWords at twoWords
  obtain ⟨first, rest, params, firstWord, restWord⟩ := List.map_eq_cons_iff.mp twoWords
  obtain ⟨second, rest', params', secondWord, restEmpty⟩ := List.map_eq_cons_iff.mp restWord
  rw [List.map_eq_nil_iff] at restEmpty
  subst restEmpty params'
  exact ⟨first, second, params, firstWord, secondWord⟩

theorem FuncType.TakesTwoWords.paramCellNum_eq (twoWords : type.TakesTwoWords) :
    type.paramCellNum = 2 := by
  obtain ⟨first, second, params, firstWord, secondWord⟩ := twoWords.exists_params
  simp [FuncType.paramCellNum, params, getCellNum, firstWord, secondWord]

/-- The arguments are the first two cells, one each, exactly for two parameters of
32 bits: one parameter of 64 bits takes the two cells as one value. -/
theorem loadArgs_eq_words_iff :
    loadArgs argv 0 type.params = [[argv 0], [argv 1]] ↔ type.TakesTwoWords := by
  constructor
  · intro args
    have lengths := loadArgs_map_length argv 0 type.params
    rw [args] at lengths
    exact lengths.symm
  · intro twoWords
    obtain ⟨first, second, params, firstWord, secondWord⟩ := twoWords.exists_params
    simp [params, loadArgs, firstWord, secondWord]

end Arguments

theorem forall_mem_range_lt_iff (count bound : Nat) :
    (∀ cell ∈ List.range count, cell < bound) ↔ count ≤ bound := by
  constructor
  · intro below
    by_contra above
    have := below bound (List.mem_range.mpr (by omega))
    omega
  · intro fits cell mem
    have := List.mem_range.mp mem
    omega

/-- Results that are stored only without an exception fit if there are not too many
of them or there is an exception. -/
theorem forall_mem_stored_lt_iff (failed : Bool) (count bound : Nat) :
    (∀ cell ∈ if failed = true then [] else List.range count, cell < bound) ↔
      failed = true ∨ count ≤ bound := by
  cases failed with
  | true => simp
  | false => simpa using forall_mem_range_lt_iff count bound

section Paths

variable (free : Resources) (function : FunctionInstance) (signo subSigno : Nat)

/-- The function does not run to its end when it is called for the slot. -/
def FunctionInstance.failsOn : Bool :=
  !function.linked || function.traps [[BitVec.ofNat 32 signo], [BitVec.ofNat 32 subSigno]]

/-- The function takes the slot as its arguments, and its results fit into the two
cells of `signo` unless it fails. -/
def FunctionInstance.Fits : Prop :=
  function.type.TakesTwoWords ∧
    (function.failsOn signo subSigno = true ∨ function.type.retCellNum ≤ 2)

/-- The interpreter does not make the call. -/
def FunctionInstance.RefusedByInterp : Prop :=
  function.type.paramCellNum ≠ 2 ∨ free.nativeStack = false ∨ free.wasmStack = false

/-- AOT code does not make the call. -/
def FunctionInstance.RefusedByAot : Prop :=
  free.heap = false ∧
    (32 < 1 + 8 + function.type.params.length + (function.type.results.length - 1) ∨
      1 < function.type.results.length ∧
        128 < 4 * 2 + 8 * (function.type.results.length - 1) +
          4 * getCellNum function.type.results.tail)

variable {free function signo subSigno} {resolved : Bool} {argv other : Nat → BitVec 32}

theorem wasmInterpCallWasm_respects_iff (first : argv 0 = BitVec.ofNat 32 signo)
    (second : argv 1 = BitVec.ofNat 32 subSigno) :
    (wasmInterpCallWasm free function 2 argv).Respects signo subSigno resolved ↔
      function.RefusedByInterp free ∨ resolved = true ∧ function.Fits signo subSigno := by
  unfold wasmInterpCallWasm
  dsimp only
  split
  · rename_i otherCount
    exact iff_of_true trivial (.inl (.inl fun two => otherCount two.symm))
  · rename_i sameCount
    split
    · rename_i full
      exact iff_of_true trivial (.inl (.inr (.inl full)))
    · rename_i nativeRoom
      split
      · rename_i full
        exact iff_of_true trivial (.inl (.inr (.inr full)))
      · rename_i wasmRoom
        have accepted : ¬ function.RefusedByInterp free := by
          rintro (count | native | wasm)
          · exact count (not_not.mp sameCount).symm
          · exact nativeRoom native
          · exact wasmRoom wasm
        simp only [Outcome.Respects, accepted, false_or, FunctionInstance.Fits,
          FunctionInstance.failsOn]
        rw [← first, ← second, loadArgs_eq_words_iff, forall_mem_stored_lt_iff]
        constructor
        · rintro ⟨isResolved, twoWords, -, inside, -⟩
          rw [loadArgs_eq_words_iff.mpr twoWords] at inside
          exact ⟨isResolved, twoWords, inside⟩
        · rintro ⟨isResolved, twoWords, inside⟩
          rw [loadArgs_eq_words_iff.mpr twoWords]
          exact ⟨isResolved, twoWords, (forall_mem_range_lt_iff 2 2).mpr le_rfl, inside, rfl⟩

theorem invokeNative_respects_iff (first : argv 0 = BitVec.ofNat 32 signo)
    (second : argv 1 = BitVec.ofNat 32 subSigno) (stored : List Value → List Nat) :
    (invokeNative free function argv stored).Respects signo subSigno resolved ↔
      (32 < 1 + 8 + function.type.params.length + (function.type.results.length - 1) ∧
          free.heap = false) ∨
        function.linked = true ∧ resolved = true ∧ function.type.TakesTwoWords ∧
          ∀ cell ∈ stored [[BitVec.ofNat 32 signo], [BitVec.ofNat 32 subSigno]], cell < 2 := by
  unfold invokeNative
  dsimp only
  split
  · rename_i full
    exact iff_of_true trivial (.inl full)
  · rename_i room
    split
    · rename_i unlinked
      refine iff_of_false id ?_
      rintro (full | ⟨linked, -⟩)
      · exact room full
      · rw [unlinked] at linked
        cases linked
    · rename_i linked
      have isLinked := Bool.eq_true_of_not_eq_false linked
      simp only [Outcome.Respects, room, isLinked, false_or, true_and]
      rw [← first, ← second, loadArgs_eq_words_iff]
      constructor
      · rintro ⟨isResolved, twoWords, -, inside, -⟩
        rw [loadArgs_eq_words_iff.mpr twoWords] at inside
        exact ⟨isResolved, twoWords, inside⟩
      · rintro ⟨isResolved, twoWords, inside⟩
        refine ⟨isResolved, twoWords, ?_, ?_, ?_⟩
        · rw [twoWords.paramCellNum_eq]
          exact (forall_mem_range_lt_iff 2 2).mpr le_rfl
        · rw [loadArgs_eq_words_iff.mpr twoWords]
          exact inside
        · rw [twoWords.paramCellNum_eq]
          simp

theorem ValueType.cellNum_le_two (type : ValueType) : type.cellNum ≤ 2 := by
  cases type <;> decide

/-- The cells of a first result and of the extra results behind it, which are
stored only without an exception. -/
theorem forall_mem_results_lt_iff (failed : Bool) (first : ValueType) (count : Nat) :
    (∀ cell ∈ List.range first.cellNum ++
        (if failed = true then [] else (List.range count).map fun i => first.cellNum + i),
        cell < 2) ↔
      failed = true ∨ first.cellNum + count ≤ 2 := by
  have firstFits := (forall_mem_range_lt_iff _ 2).mpr first.cellNum_le_two
  cases failed with
  | true => simpa using firstFits
  | false =>
    have all := forall_mem_range_lt_iff (first.cellNum + count) 2
    rw [List.range_add] at all
    simpa using all

theorem aotCallFunction_respects_iff (first : argv 0 = BitVec.ofNat 32 signo)
    (second : argv 1 = BitVec.ofNat 32 subSigno) :
    (aotCallFunction free function 2 argv other).Respects signo subSigno resolved ↔
      function.RefusedByAot free ∨
        function.linked = true ∧ resolved = true ∧ function.Fits signo subSigno := by
  have copied : ∀ position, position < 2 → copiedArgs 2 argv other position = argv position :=
    fun position small => if_pos small
  unfold aotCallFunction FunctionInstance.RefusedByAot FunctionInstance.Fits FuncType.retCellNum
  split
  · rename_i results
    rw [invokeNative_respects_iff first second]
    simp [results, getCellNum, and_comm]
  · rename_i result results
    rw [invokeNative_respects_iff first second, forall_mem_range_lt_iff]
    simp [results, getCellNum, result.cellNum_le_two, and_comm]
  · rename_i result extRetTypes notSingle results
    dsimp only
    have several : 1 < function.type.results.length := by
      cases extRetTypes with
      | nil => exact absurd rfl notSingle
      | cons => simp [results]
    split
    · rename_i full
      refine iff_of_true trivial (.inl ⟨full.2, .inr ⟨several, ?_⟩⟩)
      simpa [results] using full.1
    · rename_i room
      rw [invokeNative_respects_iff ((copied 0 (by omega)).trans first)
        ((copied 1 (by omega)).trans second), forall_mem_results_lt_iff]
      have copyFits : ¬ (free.heap = false ∧ 128 < 4 * 2 + 8 * (function.type.results.length - 1) +
          4 * getCellNum function.type.results.tail) := by
        rintro ⟨heap, large⟩
        refine room ⟨?_, heap⟩
        simpa [results] using large
      refine or_congr ⟨fun full => ⟨full.2, .inl full.1⟩, ?_⟩ (and_congr_right fun linked => ?_)
      · rintro ⟨heap, large | ⟨-, large⟩⟩
        · exact ⟨large, heap⟩
        · exact absurd ⟨heap, large⟩ copyFits
      · simp [results, getCellNum, FunctionInstance.failsOn, linked]

end Paths

/-- The element the handler was registered with, resolved to `target`, makes a
handler that is called as its type says, or not at all.  In the interpreter an
element that holds no function stands for function 0; in AOT code it is a null
pointer. -/
def SafeHandler (free : Resources) (functions : List FunctionInstance) (target : Option FuncRef)
    (signo subSigno : Nat) : Mode → Prop
  | .interp =>
    ∃ function, functions[(target.elim 0 FuncRef.funcIdx).toNat]? = some function ∧
      (function.RefusedByInterp free ∨
        target.isSome = true ∧ function.Fits signo subSigno)
  | .aot =>
    ∃ held function, target = some held ∧ functions[held.funcIdx.toNat]? = some function ∧
      (function.RefusedByAot free ∨
        function.linked = true ∧ function.Fits signo subSigno)

/-- What a slot holds after a registration for it. -/
theorem Globals.sigtable_of_registerHandler {g g' : Globals} {mode : Mode} {inst : Instance}
    {allocated : Bool} {signo subSigno : Nat} {element : BitVec 32}
    (registered : g.registerHandler mode inst allocated signo subSigno element = some g') :
    g'.sigtable signo subSigno =
      ⟨inst.getIndirectFunction mode allocated element, element,
        (inst.getIndirectFunction mode allocated element).elim 0 FuncRef.funcIdx⟩ := by
  obtain ⟨-, after⟩ := registerHandler_eq_some registered
  rw [after, setSignalPending_sigtable]
  dsimp only
  rw [setSlot_self]
  cases inst.getIndirectFunction mode allocated element <;> rfl

/-- A handler that a registration has accepted is called with the slot as its two
arguments and stores its results in `signo`, or the call is refused, exactly if
the handler is safe: two parameters of 32 bits and results of at most two cells.
In the interpreter other parameters are refused if they do not come to two cells;
in AOT code they never are. -/
theorem callHandler_respects_iff {free : Resources} {functions : List FunctionInstance}
    {g registration now : Globals} {mode : Mode} {inst : Instance} {allocated : Bool}
    {signo subSigno : Nat} {element : BitVec 32} {behind other : Nat → BitVec 32}
    (registered : g.registerHandler mode inst allocated signo subSigno element = some registration)
    (held : now.sigtable signo subSigno = registration.sigtable signo subSigno) :
    (callHandler free functions now mode signo subSigno behind other).Respects signo subSigno
        (inst.getIndirectFunction mode allocated element).isSome ↔
      SafeHandler free functions (inst.getIndirectFunction mode allocated element) signo subSigno
        mode := by
  rw [Globals.sigtable_of_registerHandler registered] at held
  unfold callHandler Globals.handlerOf
  rw [held]
  generalize inst.getIndirectFunction mode allocated element = target
  cases mode with
  | interp =>
    dsimp only [SafeHandler]
    cases found : functions[(target.elim 0 FuncRef.funcIdx).toNat]? with
    | none => simp [Outcome.Respects]
    | some function =>
      dsimp only
      rw [wasmInterpCallWasm_respects_iff signoCells_zero signoCells_one]
      simp
  | aot =>
    dsimp only [SafeHandler]
    cases target with
    | none => simp [Outcome.Respects]
    | some function =>
      dsimp only [Option.map_some, Option.elim_some]
      cases found : functions[function.funcIdx.toNat]? with
      | none => simp [Outcome.Respects, found]
      | some callee =>
        dsimp only
        rw [aotCallFunction_respects_iff signoCells_zero signoCells_one]
        simp [found]

/-- An instance with one handler, function 1. -/
def oneHandler : Instance where
  instanceNo := 0
  elems := [nullRef, 1]
  functionCount := 2

/-- The functions of `oneHandler`, with a handler of the given type that runs to its
end. -/
def handlerOfType (type : FuncType) : List FunctionInstance :=
  [⟨⟨[], []⟩, true, fun _ => false⟩, ⟨type, true, fun _ => false⟩]

/-- Nothing runs out. -/
def ampleResources : Resources :=
  ⟨true, true, true⟩

/-- A handler of two words is called as its type says in both modes. -/
theorem callHandler_respects_two_words :
    ∃ interp aot,
      Globals.init.registerHandler .interp oneHandler true 4 0 1 = some interp ∧
      Globals.init.registerHandler .aot oneHandler true 4 0 1 = some aot ∧
      (callHandler ampleResources (handlerOfType ⟨[.i32, .i32], []⟩) interp .interp 4 0
        (fun _ => 7) (fun _ => 0)).Respects 4 0 true ∧
      (callHandler ampleResources (handlerOfType ⟨[.i32, .i32], []⟩) aot .aot 4 0
        (fun _ => 7) (fun _ => 0)).Respects 4 0 true := by
  have interpRegistered : Globals.init.registerHandler .interp oneHandler true 4 0 1 = some _ := rfl
  have aotRegistered : Globals.init.registerHandler .aot oneHandler true 4 0 1 = some _ := rfl
  refine ⟨_, _, interpRegistered, aotRegistered, ?_, ?_⟩
  · exact (callHandler_respects_iff interpRegistered rfl).mpr
      ⟨_, rfl, .inr ⟨rfl, by decide, .inr (by decide)⟩⟩
  · exact (callHandler_respects_iff aotRegistered rfl).mpr
      ⟨_, _, rfl, rfl, .inr ⟨rfl, by decide, .inr (by decide)⟩⟩

/-- The interpreter stores the third cell of a handler's results behind `signo`;
AOT code reads the third parameter of a handler from there. -/
theorem callHandler_outside_signo :
    (∃ registration call,
      Globals.init.registerHandler .interp oneHandler true 4 0 1 = some registration ∧
      callHandler ampleResources (handlerOfType ⟨[.i32, .i32], [.i32, .i64]⟩) registration .interp
        4 0 (fun _ => 0) (fun _ => 0) = .called call ∧
      2 ∈ call.stored ∧ ¬ (Outcome.called call).Respects 4 0 true) ∧
    ∃ registration call,
      Globals.init.registerHandler .aot oneHandler true 4 0 1 = some registration ∧
      callHandler ampleResources (handlerOfType ⟨[.i32, .i32, .i32], []⟩) registration .aot
        4 0 (fun _ => 7) (fun _ => 0) = .called call ∧
      2 ∈ call.read ∧ call.args = [[4], [0], [7]] ∧
      ¬ (Outcome.called call).Respects 4 0 true := by
  refine ⟨⟨_, _, rfl, rfl, by decide, ?_⟩, ⟨_, _, rfl, rfl, by decide, rfl, ?_⟩⟩
  · rintro ⟨-, -, -, stored, -⟩
    exact absurd (stored 2 (by decide)) (by decide)
  · rintro ⟨-, -, read, -⟩
    exact absurd (read 2 (by decide)) (by decide)

end TrustWasm.Runtime
