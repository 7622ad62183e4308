import TrustWasm.Aot.Emit

/-!
# Checkpoints in compiled code

`aot_emit_sigpoll` splits the current basic block: it ends with a branch on `io_sigpending`, a
block of its own calls `aot_poll_ready_signal`, and the code goes on in a third block.  The
blocks that are built this way return what they return with the checkpoint as a single
instruction, and as long as no signal is pending all builds of a function return the same.
-/

namespace TrustWasm.Aot

open TrustWasm.Lib

/-- A basic block of the translation, or one of the two that the checkpoint of this number
adds. -/
inductive BlockName where
  | code (index : Nat)
  | sigpoll (index : Nat)
  | contpoll (index : Nat)
  deriving DecidableEq

/-- An instruction of the program, a call of `aot_poll_ready_signal`, and a whole checkpoint. -/
inductive Op (ι : Type) where
  | run (instr : ι)
  | poll
  | checkpoint

variable {ι κ σ ρ : Type}

/-! ## What the blocks do -/

/-- The program's own instructions, which may end the run, the values of its conditions, the
cell `io_sigpending`, the function that polls and what the function gives back. -/
structure Host (ι κ σ ρ : Type) where
  exec : ι → σ → Except ρ σ
  value : κ → σ → BitVec 32
  ioSigpending : σ → BitVec 64
  aotPollReadySignal : σ → Except ρ σ
  ret : σ → ρ
  exception : σ → ρ

namespace Host

variable (host : Host ι κ σ ρ)

def jump {ν : Type} : Term κ ν → σ → Except ρ ν
  | .br target, _ => .ok target
  | .condBr value ifSo ifNot, state => .ok (if host.value value state ≠ 0 then ifSo else ifNot)
  | .pollBr contpoll sigpoll, state =>
    .ok (if host.ioSigpending state = 0 then contpoll else sigpoll)
  | .switch value cases default, state => .ok (cases[(host.value value state).toNat]?.getD default)
  | .ret, state => .error (host.ret state)
  | .exception, state => .error (host.exception state)

def exec? : Op ι → σ → Except ρ σ
  | .run instr, state => host.exec instr state
  | .poll, state => host.aotPollReadySignal state
  | .checkpoint, state =>
    if host.ioSigpending state = 0 then .ok state else host.aotPollReadySignal state

def llvm (ν : Type) : BlockSemantics ν (Op ι) (Term κ ν) σ ρ :=
  ⟨host.exec?, host.jump⟩

end Host

/-! ## Building the blocks -/

def Term.map {ν ν' : Type} (f : ν → ν') : Term κ ν → Term κ ν'
  | .br target => .br (f target)
  | .condBr value ifSo ifNot => .condBr value (f ifSo) (f ifNot)
  | .pollBr contpoll sigpoll => .pollBr (f contpoll) (f sigpoll)
  | .switch value cases default => .switch value (cases.map f) (f default)
  | .ret => .ret
  | .exception => .exception

/-- The blocks of compiled code while they are built, and how many checkpoints they have. -/
structure Builder (ι κ : Type) where
  sigpolls : Nat
  blocks : Building BlockName (Op ι) (Term κ BlockName)

namespace Builder

def aotEmitSigpoll (builder : Builder ι κ) : Builder ι κ :=
  let k := builder.sigpolls
  let blocks := builder.blocks.finish (.pollBr (.contpoll k) (.sigpoll k))
  let blocks := ((blocks.start (.sigpoll k)).write .poll).finish (.br (.contpoll k))
  ⟨k + 1, blocks.start (.contpoll k)⟩

def call (builder : Builder ι κ) : Call ι κ → Builder ι κ
  | .run instr => { builder with blocks := builder.blocks.write (.run instr) }
  | .sigpoll => builder.aotEmitSigpoll
  | .terminate term => { builder with blocks := builder.blocks.finish (term.map .code) }
  | .setBuilderPos b => { builder with blocks := builder.blocks.start (.code b) }

end Builder

/-- The basic blocks that the calls of the builder leave, from the entry of the function on. -/
def emitted (calls : List (Call ι κ)) : BlockGraph BlockName (Op ι) (Term κ BlockName) :=
  (calls.foldl Builder.call ⟨0, ⟨[], some (.code 0, [])⟩⟩).blocks.graph

/-- The same calls, with every checkpoint written as one instruction. -/
def Marks.call (blocks : Building Nat (Op ι) (Term κ Nat)) :
    Call ι κ → Building Nat (Op ι) (Term κ Nat)
  | .run instr => blocks.write (.run instr)
  | .sigpoll => blocks.write .checkpoint
  | .terminate term => blocks.finish term
  | .setBuilderPos b => blocks.start b

def marked (calls : List (Call ι κ)) : BlockGraph Nat (Op ι) (Term κ Nat) :=
  (calls.foldl Marks.call ⟨[], some (0, [])⟩).graph

/-! ## The names of the blocks -/

/-- The blocks that the calls begin. -/
def begun : List (Call ι κ) → List Nat
  | [] => []
  | .setBuilderPos b :: calls => b :: begun calls
  | _ :: calls => begun calls

/-- The same with those of the checkpoints, which are numbered from here on. -/
def begunWith : Nat → List (Call ι κ) → List BlockName
  | _, [] => []
  | k, .setBuilderPos b :: calls => .code b :: begunWith k calls
  | k, .sigpoll :: calls => .sigpoll k :: .contpoll k :: begunWith (k + 1) calls
  | k, _ :: calls => begunWith k calls

theorem names_marked (calls : List (Call ι κ)) : (marked calls).names = 0 :: begun calls := by
  have general : ∀ blocks : Building Nat (Op ι) (Term κ Nat),
      (calls.foldl Marks.call blocks).graph.names = blocks.graph.names ++ begun calls := by
    induction calls with
    | nil => simp [begun]
    | cons call calls ih =>
      intro blocks
      rw [List.foldl_cons, ih]
      cases call <;> simp [Marks.call, begun, Building.names_write, Building.names_finish,
        Building.names_start]
  exact general _

theorem names_emitted (calls : List (Call ι κ)) :
    (emitted calls).names = .code 0 :: begunWith 0 calls := by
  have general : ∀ builder : Builder ι κ,
      (calls.foldl Builder.call builder).blocks.graph.names =
        builder.blocks.graph.names ++ begunWith builder.sigpolls calls := by
    induction calls with
    | nil => simp [begunWith]
    | cons call calls ih =>
      intro builder
      rw [List.foldl_cons, ih]
      cases call <;> simp [Builder.call, Builder.aotEmitSigpoll, begunWith,
        Building.names_write, Building.names_finish, Building.names_start]
  exact general _

theorem code_mem_begunWith {b k : Nat} {calls : List (Call ι κ)} :
    .code b ∈ begunWith k calls ↔ b ∈ begun calls := by
  induction calls generalizing k with
  | nil => simp [begunWith, begun]
  | cons call calls ih => cases call <;> simp [begunWith, begun, ih]

theorem le_of_mem_begunWith {j k : Nat} {calls : List (Call ι κ)}
    (mem : .sigpoll j ∈ begunWith k calls ∨ .contpoll j ∈ begunWith k calls) : k ≤ j := by
  induction calls generalizing k with
  | nil => simp [begunWith] at mem
  | cons call calls ih =>
    cases call with
    | sigpoll =>
      simp only [begunWith, List.mem_cons, reduceCtorEq, BlockName.sigpoll.injEq,
        BlockName.contpoll.injEq, false_or] at mem
      rcases mem with (rfl | mem) | (rfl | mem)
      · exact Nat.le_refl _
      · exact Nat.le_of_succ_le (ih (.inl mem))
      · exact Nat.le_refl _
      · exact Nat.le_of_succ_le (ih (.inr mem))
    | _ => exact ih (by simpa [begunWith] using mem)

theorem begunWith_nodup {calls : List (Call ι κ)} (nodup : (begun calls).Nodup) (k : Nat) :
    (begunWith k calls).Nodup := by
  induction calls generalizing k with
  | nil => exact List.nodup_nil
  | cons call calls ih =>
    cases call with
    | setBuilderPos b =>
      rw [begun, List.nodup_cons] at nodup
      rw [begunWith, List.nodup_cons, code_mem_begunWith]
      exact ⟨nodup.1, ih nodup.2 k⟩
    | sigpoll =>
      have later := @le_of_mem_begunWith ι κ k (k + 1) calls
      simp only [begunWith, List.nodup_cons, List.mem_cons, reduceCtorEq, false_or]
      exact ⟨fun mem => by have := later (.inl mem); omega,
        fun mem => by have := later (.inr mem); omega, ih nodup (k + 1)⟩
    | _ => exact ih nodup k

/-- The blocks of the checkpoints have names of their own. -/
theorem emitted_nodup {calls : List (Call ι κ)} (nodup : (marked calls).names.Nodup) :
    (emitted calls).names.Nodup := by
  rw [names_marked, List.nodup_cons] at nodup
  rw [names_emitted, List.nodup_cons, code_mem_begunWith]
  exact ⟨nodup.1, begunWith_nodup nodup.2 0⟩

/-! ## A checkpoint as one instruction -/

/-- From this place of a block on a graph has some code, with the blocks of its checkpoints. -/
def Expands (graph : BlockGraph BlockName (Op ι) (Term κ BlockName)) :
    BlockName → List (Op ι) → List (Op ι) → Option (Term κ BlockName) → Prop
  | b, before, [], last => ⟨b, before, last⟩ ∈ graph
  | b, before, .checkpoint :: rest, last => ∃ k,
      ⟨b, before, some (.pollBr (.contpoll k) (.sigpoll k))⟩ ∈ graph ∧
      ⟨.sigpoll k, [.poll], some (.br (.contpoll k))⟩ ∈ graph ∧
      Expands graph (.contpoll k) [] rest last
  | b, before, instr :: rest, last => Expands graph b (before ++ [instr]) rest last

section Expands

variable {graph : BlockGraph BlockName (Op ι) (Term κ BlockName)} {b : BlockName}
  {before rest : List (Op ι)} {last : Option (Term κ BlockName)}

open BlockSemantics

theorem Expands.takes (host : Host ι κ σ ρ) (nodup : graph.names.Nodup)
    (expands : Expands graph b before rest last) (state : σ) :
    Loop.Takes ((host.llvm _).step graph) (b, state)
      ((host.llvm _).leave last (execBody host.exec? (before ++ rest) state)) := by
  have steps {block} (mem : block ∈ graph) (state : σ) :
      (host.llvm _).step graph (block.name, state) =
        (host.llvm _).leave block.last (execBody host.exec? block.body state) :=
    BlockGraph.step_of_mem _ nodup mem state
  induction rest generalizing b before state with
  | nil =>
    rw [List.append_nil]
    exact steps expands state ▸ Loop.Takes.one (b, state)
  | cons instr rest ih =>
    cases instr with
    | checkpoint =>
      obtain ⟨k, first, polls, expands⟩ := expands
      have first := steps first state
      rw [execBody_append]
      cases ran : execBody host.exec? before state with
      | error result =>
        rw [ran] at first
        exact first ▸ Loop.Takes.one (b, state)
      | ok state' =>
        have goesOn : (host.llvm _).step graph (b, state) = .again
            (if host.ioSigpending state' = 0 then .contpoll k else .sigpoll k, state') := by
          rw [first, ran]
          rfl
        have polls : (host.llvm _).step graph (.sigpoll k, state') = (host.llvm _).leave _
          (host.aotPollReadySignal state' >>= .ok) := steps polls state'
        refine .more goesOn ?_
        change Loop.Takes _ _ ((host.llvm _).leave last
          (host.exec? .checkpoint state' >>= execBody host.exec? rest))
        rw [Host.exec?]
        split
        · exact ih expands state'
        · cases answer : host.aotPollReadySignal state' with
          | error result =>
            rw [answer] at polls
            exact polls ▸ Loop.Takes.one (BlockName.sigpoll k, state')
          | ok next =>
            rw [answer] at polls
            exact .more polls (ih expands next)
    | _ =>
      rw [List.append_cons]
      exact ih expands state

end Expands

/-- The blocks are those with one instruction for a checkpoint, as far as both are built. -/
structure Expanding (graph : BlockGraph BlockName (Op ι) (Term κ BlockName))
    (marks : Building Nat (Op ι) (Term κ Nat))
    (blocks : Building BlockName (Op ι) (Term κ BlockName)) : Prop where
  left : ∀ block ∈ marks.left,
    Expands graph (.code block.name) [] block.body (block.last.map (.map .code))
  position : ∀ name body, marks.position = some (name, body) →
    ∃ b before, blocks.position = some (b, before) ∧ ∀ rest last,
      Expands graph b before rest last → Expands graph (.code name) [] (body ++ rest) last

namespace Expanding

variable {graph : BlockGraph BlockName (Op ι) (Term κ BlockName)}
  {marks : Building Nat (Op ι) (Term κ Nat)}
  {blocks : Building BlockName (Op ι) (Term κ BlockName)}

theorem close (expanding : Expanding graph marks blocks) {last : Option (Term κ Nat)}
    (kept : blocks.close (last.map (.map .code)) ⊆ graph) :
    ∀ block ∈ marks.close last,
      Expands graph (.code block.name) [] block.body (block.last.map (.map .code)) := by
  intro block mem
  rw [Building.close, List.mem_append, Option.mem_toList, Option.map_eq_some_iff] at mem
  rcases mem with mem | ⟨⟨name, body⟩, position, rfl⟩
  · exact expanding.left block mem
  · obtain ⟨b, before, here, expands⟩ := expanding.position name body position
    have ends : (⟨b, before, last.map (.map .code)⟩ : BasicBlock _ _ _) ∈ graph :=
      kept (by simp [Building.close, here])
    simpa using expands [] _ ends

theorem write (expanding : Expanding graph marks blocks) (instr : ι) :
    Expanding graph (marks.write (.run instr)) (blocks.write (.run instr)) := by
  refine ⟨expanding.left, fun name written wrote => ?_⟩
  obtain ⟨body, position, rfl⟩ := Building.position_of_write wrote
  obtain ⟨b, before, here, expands⟩ := expanding.position name body position
  refine ⟨b, before ++ [.run instr], by simp [Building.write, here], fun rest last more => ?_⟩
  rw [List.append_assoc]
  exact expands (.run instr :: rest) last more

theorem start (expanding : Expanding graph marks blocks) (b : Nat)
    (kept : blocks.close none ⊆ graph) :
    Expanding graph (marks.start b) (blocks.start (.code b)) := by
  refine ⟨expanding.close kept, fun name body position => ?_⟩
  cases position
  exact ⟨.code b, [], rfl, fun _ _ expands => expands⟩

theorem finish (expanding : Expanding graph marks blocks) (term : Term κ Nat)
    (kept : blocks.close (some (term.map .code)) ⊆ graph) :
    Expanding graph (marks.finish term) (blocks.finish (term.map .code)) :=
  ⟨expanding.close kept, nofun⟩

theorem aotEmitSigpoll {builder : Builder ι κ} (expanding : Expanding graph marks builder.blocks)
    (kept : builder.aotEmitSigpoll.blocks.left ⊆ graph) :
    Expanding graph (marks.write .checkpoint) builder.aotEmitSigpoll.blocks := by
  refine ⟨expanding.left, fun name written wrote => ?_⟩
  obtain ⟨body, position, rfl⟩ := Building.position_of_write wrote
  obtain ⟨b, before, here, expands⟩ := expanding.position name body position
  refine ⟨.contpoll builder.sigpolls, [], rfl, fun rest last more => ?_⟩
  rw [List.append_assoc]
  refine expands (.checkpoint :: rest) last ⟨builder.sigpolls, kept ?_, kept ?_, more⟩
  all_goals simp [Builder.aotEmitSigpoll, Building.start, Building.finish, Building.close,
    Building.write, here]

theorem call {builder : Builder ι κ} (expanding : Expanding graph marks builder.blocks)
    (call : Call ι κ) (kept : (builder.call call).blocks.left ⊆ graph) :
    Expanding graph (Marks.call marks call) (builder.call call).blocks := by
  cases call with
  | run instr => exact expanding.write instr
  | sigpoll => exact expanding.aotEmitSigpoll kept
  | terminate term => exact expanding.finish term kept
  | setBuilderPos b => exact expanding.start b kept

end Expanding

theorem left_subset_call (builder : Builder ι κ) (call : Call ι κ) :
    builder.blocks.left ⊆ (builder.call call).blocks.left := by
  cases call <;> simp [Builder.call, Builder.aotEmitSigpoll, Building.write, Building.finish,
    Building.start, Building.close]

theorem left_subset_calls (builder : Builder ι κ) (calls : List (Call ι κ)) :
    builder.blocks.left ⊆ (calls.foldl Builder.call builder).blocks.graph := by
  induction calls generalizing builder with
  | nil => exact builder.blocks.left_subset_close none
  | cons call calls ih =>
    exact List.Subset.trans (left_subset_call builder call) (ih (builder.call call))

theorem emitted_expands (calls : List (Call ι κ)) : ∀ block ∈ marked calls,
    Expands (emitted calls) (.code block.name) [] block.body (block.last.map (.map .code)) := by
  have general : ∀ (marks : Building Nat (Op ι) (Term κ Nat)) (builder : Builder ι κ)
      (graph : BlockGraph BlockName (Op ι) (Term κ BlockName)),
      Expanding graph marks builder.blocks →
      (calls.foldl Builder.call builder).blocks.graph ⊆ graph →
      ∀ block ∈ (calls.foldl Marks.call marks).graph,
        Expands graph (.code block.name) [] block.body (block.last.map (.map .code)) := by
    induction calls with
    | nil =>
      intro marks builder graph expanding kept
      exact expanding.close kept
    | cons call calls ih =>
      intro marks builder graph expanding kept
      have left := List.Subset.trans (left_subset_calls (builder.call call) calls) kept
      exact ih _ _ graph (expanding.call call left) kept
  refine general _ ⟨0, ⟨[], some (.code 0, [])⟩⟩ _ ⟨nofun, ?_⟩ (List.Subset.refl _)
  rintro name body ⟨⟩
  exact ⟨.code 0, [], rfl, fun _ _ expands => expands⟩

theorem jump_map {ν ν' : Type} (host : Host ι κ σ ρ) (f : ν → ν') (term : Term κ ν) (state : σ) :
    host.jump (term.map f) state = (host.jump term state).map f := by
  cases term with
  | condBr | pollBr => simp only [Host.jump, Term.map, Except.map, apply_ite f]
  | switch value cases default =>
    simp only [Host.jump, Term.map, Except.map, List.getElem?_map, Option.getD_map]
  | _ => rfl

theorem leave_map {ν ν' : Type} (host : Host ι κ σ ρ) (f : ν → ν') (last : Option (Term κ ν))
    (ran : Except ρ σ) : (host.llvm ν').leave (last.map (.map f)) ran =
      ((host.llvm ν).leave last ran).map fun place => (f place.1, place.2) := by
  cases ran with
  | error result => rfl
  | ok state =>
    cases last with
    | none => rfl
    | some term =>
      simp only [BlockSemantics.leave, Option.map_some, Host.llvm, jump_map]
      cases host.jump term state <;> rfl

/-- The blocks of a function take one or more steps for each step with checkpoints as
instructions. -/
theorem emitted_takes (host : Host ι κ σ ρ) {calls : List (Call ι κ)}
    (nodup : (marked calls).names.Nodup) (place : Nat × σ) :
    Loop.Takes ((host.llvm _).step (emitted calls)) (.code place.1, place.2)
      (((host.llvm _).step (marked calls) place).map fun place => (.code place.1, place.2)) := by
  obtain ⟨name, state⟩ := place
  by_cases present : name ∈ (marked calls).names
  · obtain ⟨block, mem, rfl⟩ := List.mem_map.mp present
    rw [BlockGraph.step_of_mem _ nodup mem, ← leave_map]
    exact (emitted_expands calls block mem).takes host (emitted_nodup nodup) state
  · have absent : BlockName.code name ∉ (emitted calls).names := by
      rw [names_marked] at present
      rw [names_emitted]
      simpa [code_mem_begunWith] using present
    rw [BlockGraph.step_of_not_mem _ present, Round.map,
      ← BlockGraph.step_of_not_mem (host.llvm _) absent state]
    exact Loop.Takes.one _

/-- If no block is begun twice, a function returns what it returns with its checkpoints as single
instructions. -/
theorem sigpoll_blocks_return_as_checkpoints (host : Host ι κ σ ρ) {calls : List (Call ι κ)}
    (nodup : (marked calls).names.Nodup) (b : Nat) (state : σ) (result : Option ρ) :
    Loop.Returns ((host.llvm _).step (emitted calls)) (.code b, state) result ↔
      Loop.Returns ((host.llvm _).step (marked calls)) (b, state) result :=
  (Loop.returns_iff_of_takes _ (emitted_takes host nodup) (b, state) result).symm

/-- A state that counts down; a poll counts up and leaves `io_sigpending` as it is. -/
def countdownHost (ioSigpending : BitVec 64) : Host Unit Unit Nat Nat where
  exec _ state := .ok (state - 1)
  value _ state := if state = 0 then 0 else 1
  ioSigpending _ := ioSigpending
  aotPollReadySignal state := .ok (state + 1)
  ret := id
  exception := id

/-- A checkpoint, an instruction and another checkpoint before the return. -/
def twoCheckpoints : List (Call Unit Unit) :=
  [.sigpoll, .run (), .terminate (.br 1), .setBuilderPos 1, .sigpoll, .terminate .ret]

theorem sigpoll_blocks_return_two_checkpoints :
    (marked twoCheckpoints).names.Nodup ∧
      Loop.Returns (((countdownHost 1).llvm _).step (emitted twoCheckpoints)) (.code 0, 5)
        (some 6) :=
  ⟨by decide, (sigpoll_blocks_return_as_checkpoints (countdownHost 1) (by decide) 0 5 _).mpr
    ⟨2, rfl⟩⟩

end TrustWasm.Aot
