import TrustWasm.Lib.BlockGraph

/-!
# The control flow of compiled code

`aot_compile_func` goes through the opcodes of a function and builds basic blocks.  A stack of
`AOTBlock`s holds the blocks, loops and ifs around the current opcode.  The basic block behind
the end of one of them is created when it is first needed, and code that cannot be reached is
skipped: after a branch the compiler goes on at the next `else` or behind the next `end` that
can be.

A position in the code is the list of the opcodes from there on.  What the other opcodes
compute is left open, and so are the values on the stack; a condition is a constant that the
compiler knows or a value that is computed when the code runs.  An opcode gives the calls of the
builder that it makes; basic blocks are numbered in the order in which they are created.
-/

namespace TrustWasm.Aot

open TrustWasm.Lib

/-- Where a build has its checkpoints: before every opcode, at the start of a loop, before
every branch. -/
structure Polling where
  each : Bool
  atLoop : Bool
  atBr : Bool

inductive Cond (κ : Type) where
  | known (value : BitVec 32)
  | dynamic (value : κ)

inductive Instr (ι κ : Type) where
  | plain (instr : ι)
  | block
  | loop
  | if_ (cond : Cond κ)
  | else_
  | end_
  | br (depth : Nat)
  | brIf (cond : Cond κ) (depth : Nat)
  | brTable (cond : Cond κ) (depths : List Nat) (default : Nat)
  | return_
  | unreachable

inductive LabelType where
  | block
  | loop
  | if_
  | function
  deriving DecidableEq

/-- The end of a basic block.  `pollBr` compares `io_sigpending` with zero, and `exception` is
the branch to the block that raises an exception and returns. -/
inductive Term (κ ν : Type) where
  | br (target : ν)
  | condBr (value : κ) (ifSo ifNot : ν)
  | pollBr (contpoll sigpoll : ν)
  | switch (value : κ) (cases : List ν) (default : ν)
  | ret
  | exception

/-- A call of the builder: an instruction of the program, `aot_emit_sigpoll`, the end of the
current block, the start of another one. -/
inductive Call (ι κ : Type) where
  | run (instr : ι)
  | sigpoll
  | terminate (term : Term κ Nat)
  | setBuilderPos (b : Nat)

structure AotBlock (ι κ : Type) where
  labelType : LabelType
  wasmCodeElse : Option (List (Instr ι κ))
  wasmCodeEnd : List (Instr ι κ)
  llvmEntryBlock : Option Nat
  llvmElseBlock : Option Nat
  llvmEndBlock : Option Nat
  isReachable : Bool
  skipWasmCodeElse : Bool

/-- How many blocks have been created, the block stack and the position in the code. -/
structure FuncContext (ι κ : Type) where
  created : Nat
  blockStack : List (AotBlock ι κ)
  frameIp : List (Instr ι κ)

/-- The errors by their texts: "WASM block stack underflow.", "find block end addr failed.",
"Invalid WASM block type." and "Invalid block type.".  The last one is no error of the
compiler: it uses a block that was never created. -/
inductive Failure where
  | blockStackUnderflow
  | findBlockEndAddr
  | invalidWasmBlockType
  | invalidBlockType
  | nullBlock

/-- What an opcode leaves: the context behind it and its calls. -/
abbrev Emitted (ι κ : Type) :=
  FuncContext ι κ × List (Call ι κ)

variable {ι κ : Type}

/-- A checkpoint, in a build that has one here. -/
def sigpollIf (enabled : Bool) : List (Call ι κ) :=
  if enabled then [.sigpoll] else []

/-- Calls that come before. -/
def Emitted.after (calls : List (Call ι κ)) (emitted : Emitted ι κ) : Emitted ι κ :=
  (emitted.1, calls ++ emitted.2)

/-! ## Finding the end of a block -/

/-- `wasm_loader_find_block_addr`, called with an empty cache: the `else` of an `if` and the
`end` of a block that starts here. -/
def findBlockAddr (labelType : LabelType) : List (Instr ι κ) → Nat → Option (List (Instr ι κ)) →
    Option (Option (List (Instr ι κ)) × List (Instr ι κ))
  | [], _, _ => none
  | instr :: p, blockNestedDepth, elseAddr =>
    match instr with
    | .block | .loop | .if_ _ => findBlockAddr labelType p (blockNestedDepth + 1) elseAddr
    | .else_ =>
      if labelType = .if_ ∧ blockNestedDepth = 1 then
        findBlockAddr labelType p blockNestedDepth (some (instr :: p))
      else findBlockAddr labelType p blockNestedDepth elseAddr
    | .end_ =>
      if blockNestedDepth = 1 then some (elseAddr, instr :: p)
      else findBlockAddr labelType p (blockNestedDepth - 1) elseAddr
    | _ => findBlockAddr labelType p blockNestedDepth elseAddr

/-! ## The next reachable block -/

/-- The `else` branch of an `if` is still to be translated. -/
def AotBlock.elseAhead (block : AotBlock ι κ) (frameIp : List (Instr ι κ)) : Bool :=
  block.labelType = .if_ && block.llvmElseBlock.isSome && !block.skipWasmCodeElse &&
    block.wasmCodeElse.any fun code => code.length ≤ frameIp.length

namespace FuncContext

def translateElse (ctx : FuncContext ι κ) (block : AotBlock ι κ) : Except Failure (Emitted ι κ) :=
  match block.llvmElseBlock, block.wasmCodeElse with
  | some b, some code => .ok ({ ctx with frameIp := code.tail }, [.setBuilderPos b])
  | _, _ => .error .nullBlock

/-- Behind the end of a block that can be reached. -/
def leaveBlock (ctx : FuncContext ι κ) (block : AotBlock ι κ) : Except Failure (Emitted ι κ) :=
  match block.llvmEndBlock with
  | none => .error .nullBlock
  | some b => .ok ({ ctx with frameIp := block.wasmCodeEnd.tail },
      .setBuilderPos b :: if block.labelType = .function then [.terminate .ret] else [])

/-- The loop of `handle_next_reachable_block` over the block stack. -/
def unwind : List (AotBlock ι κ) → List (Instr ι κ) → FuncContext ι κ →
    Except Failure (Emitted ι κ)
  | [], last, ctx => .ok ({ ctx with blockStack := [], frameIp := last.tail }, [])
  | block :: stack, _, ctx =>
    if block.isReachable then { ctx with blockStack := stack }.leaveBlock block
    else if block.elseAhead ctx.frameIp then
      { ctx with blockStack := block :: stack }.translateElse block
    else unwind stack block.wasmCodeEnd ctx

def handleNextReachableBlock (ctx : FuncContext ι κ) : Except Failure (Emitted ι κ) :=
  match ctx.blockStack with
  | [] => .error .nullBlock
  | block :: stack =>
    if block.elseAhead ctx.frameIp then ctx.translateElse block
    else unwind (block :: stack) [] ctx

/-! ## The opcodes -/

def createBlock (ctx : FuncContext ι κ) : FuncContext ι κ :=
  { ctx with created := ctx.created + 1 }

/-- A block of the stack gets a jump to its end block, which is created if needed. -/
def reachEnd (ctx : FuncContext ι κ) (depth : Nat) (block : AotBlock ι κ) :
    FuncContext ι κ × Nat :=
  let (ctx, b) :=
    match block.llvmEndBlock with
    | some b => (ctx, b)
    | none => (ctx.createBlock, ctx.created)
  let reached := { block with isReachable := true, llvmEndBlock := some b }
  ({ ctx with blockStack := ctx.blockStack.set depth reached }, b)

/-- Where a branch goes: to the entry of a loop, to the end of another block. -/
def branchTarget (ctx : FuncContext ι κ) (depth : Nat) :
    Except Failure (FuncContext ι κ × Nat) :=
  match ctx.blockStack[depth]? with
  | none => .error .blockStackUnderflow
  | some block =>
    if block.labelType = .loop then
      match block.llvmEntryBlock with
      | none => .error .nullBlock
      | some b => .ok (ctx, b)
    else .ok (ctx.reachEnd depth block)

def branchTargets : List Nat → FuncContext ι κ → Except Failure (FuncContext ι κ × List Nat)
  | [], ctx => .ok (ctx, [])
  | depth :: depths, ctx => do
    let (ctx, b) ← ctx.branchTarget depth
    let (ctx, targets) ← branchTargets depths ctx
    return (ctx, b :: targets)

/-- The current basic block ends, and a block of the stack starts in one that is new. -/
def enter (ctx : FuncContext ι κ) (term : Term κ Nat) (block : AotBlock ι κ) (b : Nat) :
    Emitted ι κ :=
  ({ ctx with blockStack := block :: ctx.blockStack }, [.terminate term, .setBuilderPos b])

/-- The part of `aot_compile_op_block` for an `if`. -/
def compileIf (ctx : FuncContext ι κ) (cond : Cond κ) (elseAddr : Option (List (Instr ι κ)))
    (endAddr : List (Instr ι κ)) : Emitted ι κ :=
  let first := ctx.created
  match cond, elseAddr with
  | .dynamic value, some _ =>
    ctx.createBlock.createBlock.createBlock.enter (.condBr value first (first + 2))
      ⟨.if_, elseAddr, endAddr, some first, some (first + 2), some (first + 1), false, false⟩
      first
  | .dynamic value, none =>
    ctx.createBlock.createBlock.enter (.condBr value first (first + 1))
      ⟨.if_, none, endAddr, some first, none, some (first + 1), true, false⟩ first
  | .known value, _ =>
    if value ≠ 0 then
      ctx.createBlock.enter (.br first)
        ⟨.if_, elseAddr, endAddr, some first, none, none, false, true⟩ first
    else
      match elseAddr with
      | some code =>
        { ctx.createBlock with frameIp := code.tail }.enter (.br first)
          ⟨.if_, elseAddr, endAddr, none, some first, none, false, false⟩ first
      | none => ({ ctx with frameIp := endAddr.tail }, [])

/-- The condition is that of an `if` and not used otherwise. -/
def aotCompileOpBlock (polling : Polling) (labelType : LabelType) (cond : Cond κ)
    (ctx : FuncContext ι κ) : Except Failure (Emitted ι κ) :=
  if ctx.blockStack.isEmpty then .error .blockStackUnderflow
  else
    match findBlockAddr labelType ctx.frameIp 1 none with
    | none => .error .findBlockEndAddr
    | some (elseAddr, endAddr) =>
      match labelType with
      | .block | .loop =>
        let entry := ctx.created
        let (ctx, calls) := ctx.createBlock.enter (.br entry)
          ⟨labelType, elseAddr, endAddr, some entry, none, none, false, false⟩ entry
        .ok (ctx, calls ++ sigpollIf (labelType = .loop && polling.atLoop))
      | .if_ => .ok (ctx.compileIf cond elseAddr endAddr)
      | .function => .error .invalidBlockType

def aotCompileOpEnd (ctx : FuncContext ι κ) : Except Failure (Emitted ι κ) :=
  match ctx.blockStack with
  | [] => .error .blockStackUnderflow
  | block :: _ =>
    let (ctx, b) := ctx.reachEnd 0 block
    ctx.handleNextReachableBlock.map (.after [.terminate (.br b)])

def aotCompileOpElse (ctx : FuncContext ι κ) : Except Failure (Emitted ι κ) :=
  match ctx.blockStack with
  | [] => .error .blockStackUnderflow
  | block :: _ =>
    if block.labelType ≠ .if_ ∨ !block.skipWasmCodeElse ∧ block.llvmElseBlock.isNone then
      .error .invalidWasmBlockType
    else
      let (ctx, b) := ctx.reachEnd 0 block
      match block.skipWasmCodeElse, block.llvmElseBlock with
      | false, some elseBlock => .ok (ctx, [.terminate (.br b), .setBuilderPos elseBlock])
      | _, _ => ctx.handleNextReachableBlock.map (.after [.terminate (.br b)])

def aotCompileOpBr (depth : Nat) (ctx : FuncContext ι κ) : Except Failure (Emitted ι κ) := do
  let (ctx, b) ← ctx.branchTarget depth
  ctx.handleNextReachableBlock.map (.after [.terminate (.br b)])

def aotCompileOpBrIf (cond : Cond κ) (depth : Nat) (ctx : FuncContext ι κ) :
    Except Failure (Emitted ι κ) :=
  match cond with
  | .dynamic value => do
    let elseBlock := ctx.created
    let (ctx, b) ← ctx.createBlock.branchTarget depth
    return (ctx, [.terminate (.condBr value b elseBlock), .setBuilderPos elseBlock])
  | .known value => if value ≠ 0 then ctx.aotCompileOpBr depth else .ok (ctx, [])

def aotCompileOpBrTable (cond : Cond κ) (depths : List Nat) (default : Nat)
    (ctx : FuncContext ι κ) : Except Failure (Emitted ι κ) :=
  match cond with
  | .dynamic value => do
    let (ctx, cases) ← branchTargets depths ctx
    let (ctx, b) ← ctx.branchTarget default
    ctx.handleNextReachableBlock.map (.after [.terminate (.switch value cases b)])
  | .known value => ctx.aotCompileOpBr (depths[value.toNat]?.getD default)

def aotCompileOpReturn (ctx : FuncContext ι κ) : Except Failure (Emitted ι κ) :=
  ctx.handleNextReachableBlock.map (.after [.terminate .ret])

def aotCompileOpUnreachable (ctx : FuncContext ι κ) : Except Failure (Emitted ι κ) :=
  ctx.handleNextReachableBlock.map (.after [.terminate .exception])

def compileOpcode (polling : Polling) (instr : Instr ι κ) (ctx : FuncContext ι κ) :
    Except Failure (Emitted ι κ) :=
  match instr with
  | .plain instr => .ok (ctx, [.run instr])
  | .block => ctx.aotCompileOpBlock polling .block (.known 0)
  | .loop => ctx.aotCompileOpBlock polling .loop (.known 0)
  | .if_ cond => ctx.aotCompileOpBlock polling .if_ cond
  | .else_ => ctx.aotCompileOpElse
  | .end_ => ctx.aotCompileOpEnd
  | .br depth => (ctx.aotCompileOpBr depth).map (.after (sigpollIf polling.atBr))
  | .brIf cond depth => (ctx.aotCompileOpBrIf cond depth).map (.after (sigpollIf polling.atBr))
  | .brTable cond depths default =>
    (ctx.aotCompileOpBrTable cond depths default).map (.after (sigpollIf polling.atBr))
  | .return_ => ctx.aotCompileOpReturn
  | .unreachable => ctx.aotCompileOpUnreachable

end FuncContext

/-- A round of the loop in `aot_compile_func`, with the calls made before it. -/
def compileRound (polling : Polling) (round : Emitted ι κ) :
    Round (Emitted ι κ) (Except Failure (List (Call ι κ))) :=
  match round.1.frameIp with
  | [] => .done (.ok round.2)
  | instr :: frameIp =>
    match { round.1 with frameIp := frameIp }.compileOpcode polling instr with
    | .error failure => .done (.error failure)
    | .ok (ctx, calls) => .again (ctx, round.2 ++ (sigpollIf polling.each ++ calls))

/-- The function block and its entry.  The code of the function ends behind its last opcode. -/
def aotCreateFuncBlock (code : List (Instr ι κ)) : FuncContext ι κ :=
  ⟨1, [⟨.function, none, [], some 0, none, none, false, false⟩], code⟩

def aotCompileFunc (polling : Polling) (rounds : Nat) (code : List (Instr ι κ)) :
    Option (Except Failure (List (Call ι κ))) :=
  Loop.run (compileRound polling) rounds (aotCreateFuncBlock code, [])

end TrustWasm.Aot
