import TrustWasm.Lib.Loop
import Mathlib.Data.List.Nodup

/-!
# Graphs of basic blocks

A basic block is a list of instructions with a terminator, and a graph is a list of blocks in
the order in which they were begun.  A run executes a block and jumps to the next one.  A graph
is built block by block: a block is started, instructions are written to its end, and it is
finished with its terminator.
-/

namespace TrustWasm.Lib

/-- A block without terminator was begun and never finished. -/
structure BasicBlock (ν α τ : Type) where
  name : ν
  body : List α
  last : Option τ

abbrev BlockGraph (ν α τ : Type) :=
  List (BasicBlock ν α τ)

/-- What an instruction and a terminator do: they change the state or choose a block, or they
end the run. -/
structure BlockSemantics (ν α τ σ ρ : Type) where
  exec : α → σ → Except ρ σ
  jump : τ → σ → Except ρ ν

variable {ν α τ σ ρ : Type}

namespace BlockSemantics

def execBody (exec : α → σ → Except ρ σ) : List α → σ → Except ρ σ
  | [], state => .ok state
  | instr :: body, state => exec instr state >>= execBody exec body

theorem execBody_append (exec : α → σ → Except ρ σ) (first second : List α) (state : σ) :
    execBody exec (first ++ second) state =
      execBody exec first state >>= execBody exec second := by
  induction first generalizing state with
  | nil => rfl
  | cons instr first ih =>
    rw [List.cons_append, execBody, execBody]
    cases exec instr state with
    | error result => rfl
    | ok next => exact ih next

variable (sem : BlockSemantics ν α τ σ ρ)

/-- The end of a block: the run goes on in another one or ends.  Without terminator it is
undefined and has no result. -/
def leave (last : Option τ) : Except ρ σ → Round (ν × σ) (Option ρ)
  | .error result => .done (some result)
  | .ok state =>
    match last.map (sem.jump · state) with
    | none => .done none
    | some (.error result) => .done (some result)
    | some (.ok target) => .again (target, state)

/-- A block of a graph.  A run that comes to a block that does not exist is undefined. -/
def step [DecidableEq ν] (graph : BlockGraph ν α τ) (place : ν × σ) :
    Round (ν × σ) (Option ρ) :=
  match graph.find? (·.name = place.1) with
  | none => .done none
  | some block => sem.leave block.last (execBody sem.exec block.body place.2)

end BlockSemantics

namespace BlockGraph

def names (graph : BlockGraph ν α τ) : List ν :=
  graph.map BasicBlock.name

variable [DecidableEq ν] {graph : BlockGraph ν α τ} {block : BasicBlock ν α τ}

theorem find?_of_mem (nodup : graph.names.Nodup) (mem : block ∈ graph) :
    graph.find? (·.name = block.name) = some block := by
  induction graph with
  | nil => cases mem
  | cons first graph ih =>
    rw [names, List.map_cons, List.nodup_cons] at nodup
    rcases List.mem_cons.mp mem with rfl | mem
    · exact List.find?_cons_of_pos (by simp)
    · have other : first.name ≠ block.name := fun same =>
        nodup.1 (List.mem_map.mpr ⟨block, mem, same.symm⟩)
      rw [List.find?_cons_of_neg (by simpa using other)]
      exact ih nodup.2 mem

theorem find?_of_not_mem {name : ν} (absent : name ∉ graph.names) :
    graph.find? (·.name = name) = none := by
  rw [List.find?_eq_none]
  intro block mem same
  exact absent (List.mem_map.mpr ⟨block, mem, by simpa using same⟩)

variable (sem : BlockSemantics ν α τ σ ρ)

theorem step_of_mem (nodup : graph.names.Nodup) (mem : block ∈ graph) (state : σ) :
    sem.step graph (block.name, state) =
      sem.leave block.last (BlockSemantics.execBody sem.exec block.body state) := by
  simp only [BlockSemantics.step, find?_of_mem nodup mem]

theorem step_of_not_mem {name : ν} (absent : name ∉ graph.names) (state : σ) :
    sem.step graph (name, state) = .done none := by
  simp only [BlockSemantics.step, find?_of_not_mem absent]

end BlockGraph

/-! ## Building a graph -/

/-- The blocks that are left and the one that is written.  What is written behind the end of a
block is never run and is not kept. -/
structure Building (ν α τ : Type) where
  left : BlockGraph ν α τ
  position : Option (ν × List α)

namespace Building

/-- The graph if the current block has this end. -/
def close (building : Building ν α τ) (last : Option τ) : BlockGraph ν α τ :=
  building.left ++ (building.position.map fun (name, body) => ⟨name, body, last⟩).toList

def start (building : Building ν α τ) (name : ν) : Building ν α τ :=
  ⟨building.close none, some (name, [])⟩

def write (building : Building ν α τ) (instr : α) : Building ν α τ :=
  { building with position := building.position.map fun (name, body) => (name, body ++ [instr]) }

def finish (building : Building ν α τ) (last : τ) : Building ν α τ :=
  ⟨building.close (some last), none⟩

def graph (building : Building ν α τ) : BlockGraph ν α τ :=
  building.close none

variable (building : Building ν α τ)

theorem names_close (last : Option τ) :
    (building.close last).names = building.graph.names := by
  rcases building with ⟨left, _ | position⟩ <;> simp [graph, close, BlockGraph.names]

theorem names_start (name : ν) :
    (building.start name).graph.names = building.graph.names ++ [name] := by
  simp [graph, start, close, BlockGraph.names]

theorem names_write (instr : α) : (building.write instr).graph.names = building.graph.names := by
  rcases building with ⟨left, _ | position⟩ <;> simp [graph, write, close, BlockGraph.names]

theorem names_finish (last : τ) : (building.finish last).graph.names = building.graph.names := by
  rw [← names_close building (some last)]
  simp [graph, finish, close]

theorem position_of_write {building : Building ν α τ} {instr : α} {name : ν} {body : List α}
    (position : (building.write instr).position = some (name, body)) :
    ∃ before, building.position = some (name, before) ∧ body = before ++ [instr] := by
  obtain ⟨⟨name, before⟩, here, same⟩ := Option.map_eq_some_iff.mp position
  cases same
  exact ⟨before, here, rfl⟩

theorem left_subset_close (last : Option τ) : building.left ⊆ building.close last :=
  List.subset_append_left _ _

end Building

end TrustWasm.Lib
