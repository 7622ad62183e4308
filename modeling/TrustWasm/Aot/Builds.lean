import TrustWasm.Aot.Sigpoll

/-!
# Builds with other checkpoints

The options that place checkpoints change nothing else in the translation of a function: all
builds accept the same functions, and their calls of the builder differ in checkpoints only.  A
checkpoint does nothing while no signal is pending, and then all builds return the same.
-/

namespace TrustWasm.Aot

open TrustWasm.Lib

variable {ι κ σ ρ : Type}

/-- The calls without those of `aot_emit_sigpoll`. -/
def program (calls : List (Call ι κ)) : List (Call ι κ) :=
  calls.filter fun
    | .sigpoll => false
    | _ => true

theorem program_append (first second : List (Call ι κ)) :
    program (first ++ second) = program first ++ program second :=
  List.filter_append first second

@[simp]
theorem program_sigpollIf (enabled : Bool) :
    program (sigpollIf enabled : List (Call ι κ)) = [] := by
  cases enabled <;> rfl

/-! ## The translation -/

section Translation

variable (polling polling' : Polling)

/-- What an opcode leaves apart from checkpoints. -/
def Emitted.program (emitted : Emitted ι κ) : Emitted ι κ :=
  (emitted.1, Aot.program emitted.2)

theorem after_sigpollIf (enabled : Bool) (emitted : Except Failure (Emitted ι κ)) :
    (emitted.map (Emitted.after (sigpollIf enabled))).map Emitted.program =
      emitted.map Emitted.program := by
  cases emitted with
  | error failure => rfl
  | ok emitted => simp [Except.map, Emitted.after, Emitted.program, program_append]

theorem aotCompileOpBlock_program (labelType : LabelType) (cond : Cond κ)
    (ctx : FuncContext ι κ) : (ctx.aotCompileOpBlock polling labelType cond).map Emitted.program =
      (ctx.aotCompileOpBlock polling' labelType cond).map Emitted.program := by
  unfold FuncContext.aotCompileOpBlock
  split
  · rfl
  · split
    · rfl
    · cases labelType <;> simp [Except.map, Emitted.program, program_append]

theorem compileOpcode_program (instr : Instr ι κ) (ctx : FuncContext ι κ) :
    (ctx.compileOpcode polling instr).map Emitted.program =
      (ctx.compileOpcode polling' instr).map Emitted.program := by
  cases instr with
  | block => exact aotCompileOpBlock_program polling polling' .block (.known 0) ctx
  | loop => exact aotCompileOpBlock_program polling polling' .loop (.known 0) ctx
  | if_ cond => exact aotCompileOpBlock_program polling polling' .if_ cond ctx
  | br | brIf | brTable => exact (after_sigpollIf _ _).trans (after_sigpollIf _ _).symm
  | _ => rfl

theorem compileRound_program {ctx : FuncContext ι κ} {calls calls' : List (Call ι κ)}
    (same : program calls = program calls') (rounds : Nat) :
    (Loop.run (compileRound polling) rounds (ctx, calls)).map (·.map program) =
      (Loop.run (compileRound polling') rounds (ctx, calls')).map (·.map program) := by
  induction rounds generalizing ctx calls calls' with
  | zero => rfl
  | succ rounds ih =>
    rcases ctx with ⟨created, stack, _ | ⟨instr, frameIp⟩⟩
    · exact congrArg (fun calls => some (Except.ok calls)) same
    · have opcode := compileOpcode_program polling polling' instr ⟨created, stack, frameIp⟩
      simp only [Loop.run, compileRound]
      generalize FuncContext.compileOpcode polling instr _ = left at opcode ⊢
      generalize FuncContext.compileOpcode polling' instr _ = right at opcode ⊢
      rcases left with failure | ⟨ctx, more⟩ <;> rcases right with failure' | ⟨ctx', more'⟩ <;>
        simp only [Except.map, Emitted.program, reduceCtorEq, Except.error.injEq,
          Except.ok.injEq, Prod.mk.injEq] at opcode
      · rw [opcode]
      · obtain ⟨rfl, opcode⟩ := opcode
        exact ih (by simp only [program_append, program_sigpollIf, same, opcode])

/-- All builds accept the same functions, with the same calls apart from checkpoints. -/
theorem aotCompileFunc_program (rounds : Nat) (code : List (Instr ι κ)) :
    (aotCompileFunc polling rounds code).map (·.map program) =
      (aotCompileFunc polling' rounds code).map (·.map program) :=
  compileRound_program polling polling' rfl rounds

end Translation

/-! ## Runs without a signal -/

def withoutCheckpoints (body : List (Op ι)) : List (Op ι) :=
  body.filter fun
    | .checkpoint => false
    | _ => true

def quieten {ν τ : Type} (block : BasicBlock ν (Op ι) τ) : BasicBlock ν (Op ι) τ :=
  { block with body := withoutCheckpoints block.body }

section Quiet

variable {host : Host ι κ σ ρ} (quiet : ∀ state, host.ioSigpending state = 0)

include quiet

theorem execBody_quieten {ν τ : Type} (block : BasicBlock ν (Op ι) τ) (state : σ) :
    BlockSemantics.execBody host.exec? (quieten block).body state =
      BlockSemantics.execBody host.exec? block.body state := by
  obtain ⟨name, body, last⟩ := block
  induction body generalizing state with
  | nil => rfl
  | cons instr body ih =>
    cases instr with
    | checkpoint =>
      have stays : host.exec? .checkpoint state = .ok state := if_pos (quiet state)
      rw [BlockSemantics.execBody, stays]
      exact ih state
    | run instr => exact bind_congr ih
    | poll => exact bind_congr ih

theorem step_quieten (graph : BlockGraph Nat (Op ι) (Term κ Nat)) :
    (host.llvm _).step (graph.map quieten) = (host.llvm _).step graph := by
  funext place
  have found : (graph.map quieten).find? (·.name = place.1) =
      (graph.find? (·.name = place.1)).map quieten := by
    rw [List.find?_map]
    rfl
  rw [BlockSemantics.step, BlockSemantics.step, found]
  cases graph.find? (·.name = place.1) with
  | none => rfl
  | some block =>
    exact congrArg ((host.llvm _).leave block.last) (execBody_quieten quiet block place.2)

end Quiet

/-- Leaving out the checkpoints of the calls leaves out those of the blocks. -/
theorem marked_program (calls : List (Call ι κ)) :
    marked (program calls) = (marked calls).map quieten := by
  have general : ∀ marks marks' : Building Nat (Op ι) (Term κ Nat),
      marks'.left = marks.left.map quieten →
      marks'.position = marks.position.map (fun here => (here.1, withoutCheckpoints here.2)) →
      ((program calls).foldl Marks.call marks').graph =
        (calls.foldl Marks.call marks).graph.map quieten := by
    induction calls with
    | nil =>
      rintro ⟨left, _ | position⟩ ⟨_, _⟩ rfl rfl <;>
        simp [program, Building.graph, Building.close, quieten]
    | cons call calls ih =>
      rintro ⟨left, position⟩ ⟨_, _⟩ rfl rfl
      cases call with
      | sigpoll | run =>
        refine ih _ _ rfl ?_
        cases position <;> simp [Marks.call, Building.write, withoutCheckpoints]
      | terminate term =>
        refine ih _ _ ?_ rfl
        cases position <;> simp [Marks.call, Building.finish, Building.close, quieten]
      | setBuilderPos b =>
        refine ih _ _ ?_ rfl
        cases position <;> simp [Marks.call, Building.start, Building.close, quieten]
  exact general _ _ rfl rfl

/-- As long as no signal is pending, all builds of a function return the same. -/
theorem builds_agree_without_signals {host : Host ι κ σ ρ}
    (quiet : ∀ state, host.ioSigpending state = 0) {polling : Polling} {rounds : Nat}
    {code : List (Instr ι κ)} {calls : List (Call ι κ)}
    (compiled : aotCompileFunc polling rounds code = some (.ok calls))
    (nodup : (marked calls).names.Nodup) (polling' : Polling) :
    ∃ calls', aotCompileFunc polling' rounds code = some (.ok calls') ∧
      ∀ state result,
        Loop.Returns ((host.llvm _).step (emitted calls')) (.code 0, state) result ↔
          Loop.Returns ((host.llvm _).step (emitted calls)) (.code 0, state) result := by
  have same := aotCompileFunc_program polling polling' rounds code
  rw [compiled] at same
  obtain ⟨calls', compiled', program'⟩ :
      ∃ calls', aotCompileFunc polling' rounds code = some (.ok calls') ∧
        program calls' = program calls := by
    cases compiled' : aotCompileFunc polling' rounds code with
    | none => simp [compiled'] at same
    | some outcome =>
      cases outcome with
      | error failure => simp [compiled', Except.map] at same
      | ok calls' => exact ⟨calls', rfl, by simpa [compiled', Except.map] using same.symm⟩
  have graphs : (marked calls').map quieten = (marked calls).map quieten := by
    rw [← marked_program, ← marked_program, program']
  have names : (marked calls').names = (marked calls).names := by
    have := congrArg BlockGraph.names graphs
    simpa [BlockGraph.names, quieten, Function.comp_def] using this
  refine ⟨calls', compiled', fun state result => ?_⟩
  have checkpoints := Loop.returns_iff_of_takes _ (emitted_takes host nodup) (0, state) result
  have checkpoints' :=
    Loop.returns_iff_of_takes _ (emitted_takes host (names ▸ nodup)) (0, state) result
  rw [← checkpoints, ← checkpoints', ← step_quieten quiet (marked calls'), graphs,
    step_quieten quiet]

/-- A loop that runs an instruction and starts again as long as its condition holds. -/
def countdown : List (Instr Unit Unit) :=
  [.loop, .plain (), .brIf (.dynamic ()) 0, .end_, .end_]

/-- What the loop is compiled to with all checkpoints. -/
def countdownCalls : List (Call Unit Unit) :=
  [.sigpoll, .terminate (.br 1), .setBuilderPos 1, .sigpoll, .sigpoll, .run (), .sigpoll, .sigpoll,
    .terminate (.condBr () 1 2), .setBuilderPos 2, .sigpoll, .terminate (.br 3), .setBuilderPos 3,
    .sigpoll, .terminate (.br 4), .setBuilderPos 4, .terminate .ret]

theorem builds_agree_countdown :
    aotCompileFunc ⟨true, true, true⟩ 6 countdown = some (.ok countdownCalls) ∧
      (marked countdownCalls).names.Nodup ∧
      ∃ calls', aotCompileFunc ⟨false, false, false⟩ 6 countdown = some (.ok calls') ∧
        ∀ state result,
          Loop.Returns (((countdownHost 0).llvm _).step (emitted calls')) (.code 0, state) result ↔
            Loop.Returns (((countdownHost 0).llvm _).step (emitted countdownCalls))
              (.code 0, state) result :=
  have compiled : aotCompileFunc ⟨true, true, true⟩ 6 countdown = some (.ok countdownCalls) := rfl
  ⟨compiled, by decide,
    builds_agree_without_signals (fun _ => rfl) compiled (by decide) ⟨false, false, false⟩⟩

/-- The loader and the compiler accept an `if` with two `else`, and the block of the `else` is
then begun twice: that no block is, holds of the code and not of the compiler. -/
example : ∃ calls : List (Call Unit Unit),
    aotCompileFunc ⟨false, false, false⟩ 6
      [.if_ (.dynamic ()), .else_, .else_, .end_, .end_] = some (.ok calls) ∧
      ¬(marked calls).names.Nodup :=
  ⟨_, rfl, by decide⟩

end TrustWasm.Aot
