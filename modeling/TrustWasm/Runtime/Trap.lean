import TrustWasm.Lib.Transition
import TrustWasm.Runtime.Call

/-!
# Traps in handlers

A checkpoint ignores the result of the handler it calls.  The interpreter goes on
with the instruction whose opcode it has fetched, compiled code with the block
behind the poll.  An exception that the handler has left on the module instance is
noticed where the code looks for one: the interpreter does so after a call of a
native function, compiled code after every call.

What the instructions compute is left open.  An instruction appears as what it
does to the flow of control and whether it stores to memory, a checkpoint as the
call it makes.
-/

namespace TrustWasm.Runtime

open TrustWasm.Lib

/-! ## Code with checkpoints -/

/-- What an instruction does: nothing that matters here, a store to memory, the
call of a native function (which may raise an exception), the call of a function
of the module, the return to such a call, the return from the outermost function,
or a trap. -/
inductive Effect where
  | plain
  | store
  | native (raises : Bool)
  | enter
  | leave
  | finish
  | trap
  deriving DecidableEq

/-- The instruction sets an exception. -/
def Effect.raises : Effect → Bool
  | .native raises => raises
  | .trap => true
  | _ => false

/-- The code ends with the instruction, which has left the module instance with or
without an exception. -/
def Effect.ends (mode : Mode) (exception : Bool) : Effect → Bool
  | .plain | .store | .enter => false
  | .native _ => exception
  | .leave => decide (mode = .aot) && exception
  | .finish | .trap => true

/-- No store and no call of a native function. -/
def Effect.harmless : Effect → Bool
  | .store | .native _ => false
  | _ => true

/-- The call of a handler has left an exception. -/
def Outcome.raises : Outcome → Bool
  | .refused _ => true
  | .called call => call.exception
  | .fault => false

def Outcome.isCalled : Outcome → Bool
  | .called _ => true
  | _ => false

/-- Code over states `σ`: the call of a handler at the checkpoint before the
instruction a state stands at, with the state the handler leaves, and the
instruction.  There may be no checkpoint, or none that finds a slot ready. -/
structure Code (σ : Type) where
  checkpoint : σ → Option (Outcome × σ)
  execute : σ → Effect × σ

/-- What happens in a run: handlers, which end with or without an exception set, and
instructions of the interrupted code. -/
inductive RunEvent where
  | handler (exception : Bool)
  | instruction (effect : Effect)
  deriving DecidableEq

inductive Point where
  | checkpoint
  | instruction
  | stopped
  deriving DecidableEq

/-- The code in execution: its state, where it stands before its next instruction,
whether the module instance has an exception, and what has happened. -/
structure Execution (σ : Type) where
  state : σ
  point : Point
  exception : Bool
  events : List RunEvent

variable {mode : Mode} {outcome : Outcome}

section Step

variable {σ : Type}

/-- The checkpoint has called a handler.  `wasm_runtime_call_wasm` returns whether
the handler has left an exception; nobody looks at it. -/
def Execution.handled (s : Execution σ) (outcome : Outcome) (after : σ) : Execution σ :=
  let exception := s.exception || outcome.raises
  { state := after
    point := match outcome with
      | .fault => .stopped
      | _ => .instruction
    exception := exception
    events := s.events ++ if outcome.isCalled then [.handler exception] else [] }

/-- The instruction has been executed. -/
def Execution.executed (s : Execution σ) (mode : Mode) (effect : Effect) (after : σ) :
    Execution σ :=
  let exception := s.exception || effect.raises
  { state := after
    point := if effect.ends mode exception then .stopped else .checkpoint
    exception := exception
    events := s.events ++ [.instruction effect] }

def Code.step (code : Code σ) (mode : Mode) (s : Execution σ) : Option (Execution σ) :=
  match s.point with
  | .checkpoint =>
    match code.checkpoint s.state with
    | none => some { s with point := .instruction }
    | some (outcome, after) => some (s.handled outcome after)
  | .instruction =>
    let (effect, after) := code.execute s.state
    some (s.executed mode effect after)
  | .stopped => none

/-- The runs of code from a state. -/
def execution (mode : Mode) (code : Code σ) (start : σ) : System (Execution σ) Unit where
  initial s := s = ⟨start, .checkpoint, false, []⟩
  step s _ after := code.step mode s = some after

/-- All a step can do. -/
theorem Code.step_cases {code : Code σ} {s after : Execution σ}
    (step : code.step mode s = some after) :
    (s.point = .checkpoint ∧ code.checkpoint s.state = none ∧
      after = { s with point := .instruction }) ∨
    (∃ outcome left, s.point = .checkpoint ∧ code.checkpoint s.state = some (outcome, left) ∧
      after = s.handled outcome left) ∨
    (s.point = .instruction ∧
      after = s.executed mode (code.execute s.state).1 (code.execute s.state).2) := by
  unfold Code.step at step
  split at step
  · rename_i point
    split at step
    · rename_i noCall
      exact .inl ⟨point, noCall, (Option.some.inj step).symm⟩
    · rename_i outcome left call
      exact .inr (.inl ⟨outcome, left, point, call, (Option.some.inj step).symm⟩)
  · rename_i point
    exact .inr (.inr ⟨point, (Option.some.inj step).symm⟩)
  · cases step

end Step

/-! ## After a handler that ended with an exception -/

/-- All events behind a handler that ended with an exception are allowed. -/
def AfterTrap (allowed : RunEvent → Prop) (events : List RunEvent) : Prop :=
  ∀ before after, events = before ++ .handler true :: after → ∀ event ∈ after, allowed event

variable {allowed : RunEvent → Prop}

theorem AfterTrap.nil : AfterTrap allowed [] := by
  intro before after split
  exact absurd split (by simp)

theorem afterTrap_append_singleton {events : List RunEvent} {event : RunEvent} :
    AfterTrap allowed (events ++ [event]) ↔
      AfterTrap allowed events ∧ (.handler true ∈ events → allowed event) := by
  constructor
  · intro all
    constructor
    · intro before after split old mem
      refine all before (after ++ [event]) ?_ old (List.mem_append_left _ mem)
      rw [split, List.append_assoc, List.cons_append]
    · intro trapped
      obtain ⟨before, after, split⟩ := List.append_of_mem trapped
      refine all before (after ++ [event]) ?_ event
        (List.mem_append_right _ (List.mem_singleton_self _))
      rw [split, List.append_assoc, List.cons_append]
  · rintro ⟨old, new⟩ before after split other mem
    -- the last event is the last one behind the handler, or the handler itself
    rcases List.eq_nil_or_concat' after with rfl | ⟨init, last, rfl⟩
    · cases mem
    · rw [← List.cons_append, ← List.append_assoc] at split
      obtain ⟨rfl, rfl⟩ := List.append_singleton_inj.mp split
      rcases List.mem_append.mp mem with inside | isLast
      · exact old before init rfl other inside
      · rw [List.mem_singleton.mp isLast]
        exact new (List.mem_append_right _ List.mem_cons_self)

/-- Nothing is behind the handler yet. -/
theorem afterTrap_append_handler {events : List RunEvent} {exception : Bool}
    (handlersAllowed : allowed (.handler exception)) (old : AfterTrap allowed events) :
    AfterTrap allowed (events ++ [.handler exception]) :=
  afterTrap_append_singleton.mpr ⟨old, fun _ => handlersAllowed⟩

section Runs

variable {σ : Type} {code : Code σ} {start : σ} {s : Execution σ}

theorem mem_executed_events {effect : Effect} {after : σ} :
    .handler true ∈ (s.executed mode effect after).events ↔ .handler true ∈ s.events := by
  simp [Execution.executed]

theorem mem_handled_events {after : σ} :
    .handler true ∈ (s.handled outcome after).events ↔
      .handler true ∈ s.events ∨
        outcome.isCalled = true ∧ (s.exception || outcome.raises) = true := by
  unfold Execution.handled
  dsimp only
  rw [List.mem_append]
  cases outcome.isCalled with
  | true =>
    simp only [if_true, List.mem_singleton, RunEvent.handler.injEq, true_and]
    rw [eq_comm (a := true)]
  | false => simp

/-- A handler that ended with an exception has left it on the module instance. -/
theorem exception_of_trapped (reachable : (execution mode code start).Reachable s)
    (trapped : .handler true ∈ s.events) : s.exception = true := by
  revert trapped
  refine reachable.invariant (P := fun s => .handler true ∈ s.events → s.exception = true) ?_ ?_
  · rintro s rfl trapped
    cases trapped
  · intro s label after _ ih step trapped
    rcases Code.step_cases step with ⟨-, -, rfl⟩ | ⟨outcome, left, -, -, rfl⟩ | ⟨-, rfl⟩
    · exact ih trapped
    · rcases mem_handled_events.mp trapped with old | ⟨-, raised⟩
      · simp [Execution.handled, ih old]
      · exact raised
    · simp [Execution.executed, ih (mem_executed_events.mp trapped)]

theorem reachable_of_step {after : Execution σ}
    (reachable : (execution mode code start).Reachable s)
    (step : code.step mode s = some after) : (execution mode code start).Reachable after :=
  @System.Reachable.next _ _ _ _ _ () reachable step

/-- The next instruction of a run that stands at one. -/
theorem next_executed (reachable : (execution mode code start).Reachable s)
    (point : s.point = .instruction) :
    (execution mode code start).Reachable
      (s.executed mode (code.execute s.state).1 (code.execute s.state).2) := by
  apply reachable_of_step reachable
  unfold Code.step
  rw [point]

/-- The handler a checkpoint calls. -/
theorem next_handled (reachable : (execution mode code start).Reachable s)
    (point : s.point = .checkpoint) {after : σ}
    (call : code.checkpoint s.state = some (outcome, after)) :
    (execution mode code start).Reachable (s.handled outcome after) := by
  apply reachable_of_step reachable
  unfold Code.step
  rw [point]
  dsimp only
  rw [call]

/-- A checkpoint that calls no handler. -/
theorem next_passed (reachable : (execution mode code start).Reachable s)
    (point : s.point = .checkpoint) (noCall : code.checkpoint s.state = none) :
    (execution mode code start).Reachable { s with point := .instruction } := by
  apply reachable_of_step reachable
  unfold Code.step
  rw [point]
  dsimp only
  rw [noCall]

end Runs

/-! ## When a trap stops the interrupted code -/

section Stops

variable {σ : Type}

/-- The state a checkpoint hands to the next instruction; none if the call of the
handler has brought the processor down. -/
def Code.pass (code : Code σ) (state : σ) : Option σ :=
  match code.checkpoint state with
  | none => some state
  | some (.fault, _) => none
  | some (_, after) => some after

/-- With an exception set, the code stores nothing and calls no native function
with its next instructions, up to the one with which it ends. -/
def Code.quiet (code : Code σ) (mode : Mode) : Nat → σ → Bool
  | 0, _ => true
  | count + 1, state =>
    let (effect, after) := code.execute state
    effect.harmless && (effect.ends mode true ||
      match code.pass after with
      | none => true
      | some next => code.quiet mode count next)

/-- A checkpoint the code has reached calls a handler that ends with an exception
set. -/
def Execution.TrapsInHandler (code : Code σ) (s : Execution σ) (after : σ) : Prop :=
  s.point = .checkpoint ∧ ∃ call, code.checkpoint s.state = some (.called call, after) ∧
    (s.exception || call.exception) = true

/-- No instruction of the interrupted code. -/
def RunEvent.IsNoInstruction : RunEvent → Prop
  | .handler _ => True
  | .instruction _ => False

/-- No store and no native call of the interrupted code. -/
def RunEvent.IsHarmless : RunEvent → Prop
  | .handler _ => True
  | .instruction effect => effect.harmless = true

variable {code : Code σ} {start : σ} {s : Execution σ}

theorem afterTrap_handled (handlersAllowed : ∀ exception, allowed (.handler exception)) {after : σ}
    (old : AfterTrap allowed s.events) :
    AfterTrap allowed (s.handled outcome after).events := by
  unfold Execution.handled
  dsimp only
  split
  · exact afterTrap_append_handler (handlersAllowed _) old
  · rw [List.append_nil]
    exact old

/-- A handler that ends with an exception leaves the code at its instruction. -/
theorem trapped_handled {after : σ} (trapping : s.TrapsInHandler code after)
    (reachable : (execution mode code start).Reachable s) :
    ∃ s', (execution mode code start).Reachable s' ∧ s'.point = .instruction ∧
      .handler true ∈ s'.events ∧ s'.state = after := by
  obtain ⟨point, call, atCheckpoint, raised⟩ := trapping
  exact ⟨_, next_handled reachable point atCheckpoint, rfl,
    mem_handled_events.mpr (.inr ⟨rfl, raised⟩), rfl⟩

theorem trapsInHandler_of_new {after : σ} (point : s.point = .checkpoint)
    (call : code.checkpoint s.state = some (outcome, after)) (called : outcome.isCalled = true)
    (raised : (s.exception || outcome.raises) = true) :
    s.TrapsInHandler code after := by
  cases outcome with
  | called made => exact ⟨point, made, call, raised⟩
  | refused => cases called
  | fault => cases called

/-- The interrupted code executes an instruction after every handler that ends with
an exception: it stops only if there is none. -/
theorem stops_iff_no_trap :
    (∀ s, (execution mode code start).Reachable s → AfterTrap RunEvent.IsNoInstruction s.events) ↔
      ∀ s, (execution mode code start).Reachable s → ∀ after, ¬ s.TrapsInHandler code after := by
  constructor
  · intro stops s reachable after trapping
    obtain ⟨s', reachable', point, trapped, -⟩ := trapped_handled trapping reachable
    have behind := stops _ (next_executed reachable' point)
    exact (afterTrap_append_singleton.mp behind).2 trapped
  · intro noTrap s reachable
    have untrapped : .handler true ∉ s.events := by
      refine reachable.invariant (P := fun s => .handler true ∉ s.events) ?_ ?_
      · rintro s rfl
        exact List.not_mem_nil
      · intro s label after before ih step
        rcases Code.step_cases step with ⟨-, -, rfl⟩ | ⟨outcome, left, point, call, rfl⟩ | ⟨-, rfl⟩
        · exact ih
        · intro trapped
          rcases mem_handled_events.mp trapped with old | ⟨called, raised⟩
          · exact ih old
          · exact noTrap s before left (trapsInHandler_of_new point call called raised)
        · exact fun trapped => ih (mem_executed_events.mp trapped)
    intro before after split event mem
    exact absurd (split ▸ List.mem_append_right _ List.mem_cons_self) untrapped

/-- What quiet code says about its next instruction. -/
theorem quiet_succ {count : Nat} {state : σ} :
    code.quiet mode (count + 1) state = true ↔
      (code.execute state).1.harmless = true ∧
        ((code.execute state).1.ends mode true = true ∨
          ∀ next, code.pass (code.execute state).2 = some next →
            code.quiet mode count next = true) := by
  rw [Code.quiet]
  dsimp only
  rw [Bool.and_eq_true, Bool.or_eq_true]
  cases code.pass (code.execute state).2 <;> simp

/-- A checkpoint that hands a state on brings the code to an instruction. -/
theorem next_of_pass (reachable : (execution mode code start).Reachable s)
    (point : s.point = .checkpoint) {next : σ} (passed : code.pass s.state = some next) :
    ∃ s', (execution mode code start).Reachable s' ∧ s'.point = .instruction ∧
      s'.state = next ∧ (.handler true ∈ s.events → .handler true ∈ s'.events) := by
  unfold Code.pass at passed
  split at passed
  · rename_i noCall
    cases passed
    exact ⟨_, next_passed reachable point noCall, rfl, rfl, id⟩
  · cases passed
  · rename_i outcome after notFault call
    cases passed
    refine ⟨_, next_handled reachable point call, ?_, rfl, fun old =>
      mem_handled_events.mpr (.inl old)⟩
    unfold Execution.handled
    dsimp only
    split
    · exact absurd rfl notFault
    · rfl

/-- From an instruction behind such a handler on, harmless runs are quiet code. -/
theorem quiet_of_harmless
    (harmless : ∀ s, (execution mode code start).Reachable s →
      AfterTrap RunEvent.IsHarmless s.events)
    (count : Nat) (reachable : (execution mode code start).Reachable s)
    (point : s.point = .instruction) (trapped : .handler true ∈ s.events) :
    code.quiet mode count s.state = true := by
  induction count generalizing s with
  | zero => rfl
  | succ count ih =>
    have executed := next_executed reachable point
    have raised := exception_of_trapped reachable trapped
    rw [quiet_succ]
    refine ⟨(afterTrap_append_singleton.mp (harmless _ executed)).2 trapped, ?_⟩
    by_cases ends : (code.execute s.state).1.ends mode true = true
    · exact .inl ends
    · refine .inr fun next passed => ?_
      have atCheckpoint :
          (s.executed mode (code.execute s.state).1 (code.execute s.state).2).point =
            .checkpoint := by
        unfold Execution.executed
        dsimp only
        rw [raised, Bool.true_or, if_neg ends]
      obtain ⟨s', reachable', point', rfl, keeps⟩ := next_of_pass executed atCheckpoint passed
      exact ih reachable' point' (keeps (mem_executed_events.mpr trapped))

/-- Behind a handler that ended with an exception, what is left to execute is
quiet. -/
structure QuietBehind (code : Code σ) (mode : Mode) (s : Execution σ) : Prop where
  harmless : AfterTrap RunEvent.IsHarmless s.events
  atInstruction : .handler true ∈ s.events → s.point = .instruction →
    ∀ count, code.quiet mode count s.state = true
  atCheckpoint : .handler true ∈ s.events → s.point = .checkpoint →
    ∀ next, code.pass s.state = some next → ∀ count, code.quiet mode count next = true

theorem QuietBehind.handled {after : σ} (inv : QuietBehind code mode s)
    (point : s.point = .checkpoint) (call : code.checkpoint s.state = some (outcome, after))
    (trapsQuiet : s.TrapsInHandler code after → ∀ count, code.quiet mode count after = true) :
    QuietBehind code mode (s.handled outcome after) where
  harmless := afterTrap_handled (fun _ => trivial) inv.harmless
  atInstruction := by
    intro trapped atInstruction
    rcases mem_handled_events.mp trapped with old | ⟨called, raised⟩
    · refine inv.atCheckpoint old point after ?_
      unfold Code.pass
      rw [call]
      cases outcome with
      | refused => rfl
      | called => rfl
      | fault => cases atInstruction
    · exact trapsQuiet (trapsInHandler_of_new point call called raised)
  atCheckpoint := by
    intro _ atCheckpoint
    cases outcome <;> cases atCheckpoint

theorem QuietBehind.executed (inv : QuietBehind code mode s) (point : s.point = .instruction)
    (raised : .handler true ∈ s.events → s.exception = true) :
    QuietBehind code mode (s.executed mode (code.execute s.state).1 (code.execute s.state).2) where
  harmless := afterTrap_append_singleton.mpr ⟨inv.harmless, fun trapped =>
    (quiet_succ.mp (inv.atInstruction trapped point 1)).1⟩
  atInstruction := by
    intro _ atInstruction
    unfold Execution.executed at atInstruction
    dsimp only at atInstruction
    split at atInstruction <;> cases atInstruction
  atCheckpoint := by
    intro trapped atCheckpoint next passed count
    rw [mem_executed_events] at trapped
    rcases (quiet_succ.mp (inv.atInstruction trapped point (count + 1))).2 with ends | rest
    · unfold Execution.executed at atCheckpoint
      dsimp only at atCheckpoint
      rw [raised trapped, Bool.true_or, if_pos ends] at atCheckpoint
      cases atCheckpoint
    · exact rest next passed

/-- Nothing is stored and no native function is called behind a handler that ends
with an exception exactly if the interrupted code is quiet from there on. -/
theorem harmless_iff_quiet :
    (∀ s, (execution mode code start).Reachable s → AfterTrap RunEvent.IsHarmless s.events) ↔
      ∀ s, (execution mode code start).Reachable s → ∀ after, s.TrapsInHandler code after →
        ∀ count, code.quiet mode count after = true := by
  constructor
  · intro harmless s reachable after trapping count
    obtain ⟨s', reachable', point, trapped, rfl⟩ := trapped_handled trapping reachable
    exact quiet_of_harmless harmless count reachable' point trapped
  · intro trapsQuiet s reachable
    suffices inv : QuietBehind code mode s from inv.harmless
    refine reachable.invariant ?_ ?_
    · rintro s rfl
      exact ⟨AfterTrap.nil, nofun, nofun⟩
    · intro s label after before inv step
      rcases Code.step_cases step with ⟨point, noCall, rfl⟩ | ⟨outcome, left, point, call, rfl⟩ |
        ⟨point, rfl⟩
      · refine ⟨inv.harmless, fun trapped _ => ?_, nofun⟩
        refine inv.atCheckpoint trapped point s.state ?_
        unfold Code.pass
        rw [noCall]
      · exact inv.handled point call (trapsQuiet s before left)
      · exact inv.executed point (exception_of_trapped before)

end Stops

/-- A trap in a handler does not stop the interrupted code.  The code executes no
instruction behind a handler that ends with an exception exactly if no checkpoint
it reaches calls such a handler, and behind one it stores nothing and calls no
native function exactly if what it goes on with, to its end or to the place where
it looks for an exception, does neither. -/
theorem handler_trap_stops_iff {σ : Type} (mode : Mode) (code : Code σ) (start : σ) :
    ((∀ s, (execution mode code start).Reachable s → AfterTrap RunEvent.IsNoInstruction s.events) ↔
      ∀ s, (execution mode code start).Reachable s → ∀ after, ¬ s.TrapsInHandler code after) ∧
    ((∀ s, (execution mode code start).Reachable s → AfterTrap RunEvent.IsHarmless s.events) ↔
      ∀ s, (execution mode code start).Reachable s → ∀ after, s.TrapsInHandler code after →
        ∀ count, code.quiet mode count after = true) :=
  ⟨stops_iff_no_trap, harmless_iff_quiet⟩

/-- The functions of `oneHandler`, with a handler that traps. -/
def trappingHandler : List FunctionInstance :=
  [⟨⟨[], []⟩, true, fun _ => false⟩, ⟨⟨[.i32, .i32], []⟩, true, fun _ => true⟩]

/-- Two instructions, a store and the return, with a checkpoint before the store;
the state is the number of instructions executed.  The slot found there is that of
pin 4. -/
def storesAfterCheckpoint (mode : Mode) (g : Globals) : Code Nat where
  checkpoint
    | 0 => some (callHandler ampleResources trappingHandler g mode 4 0 (fun _ => 0) (fun _ => 0), 0)
    | _ => none
  execute
    | 0 => (.store, 1)
    | count => (.finish, count)

/-- The registered handler is called and ends with an exception. -/
theorem trappingHandler_called (mode : Mode) :
    ∃ g call, Globals.init.registerHandler mode oneHandler true 4 0 1 = some g ∧
      callHandler ampleResources trappingHandler g mode 4 0 (fun _ => 0) (fun _ => 0) =
        .called call ∧
      call.exception = true := by
  cases mode with
  | interp => exact ⟨_, _, rfl, rfl, rfl⟩
  | aot => exact ⟨_, _, rfl, rfl, rfl⟩

/-- The handler of pin 4 traps and the interrupted code goes on with its store, in
both modes. -/
theorem exists_store_after_trap (mode : Mode) :
    ∃ g s, Globals.init.registerHandler mode oneHandler true 4 0 1 = some g ∧
      (execution mode (storesAfterCheckpoint mode g) 0).Reachable s ∧
      s.events = [.handler true, .instruction .store] ∧
      ¬ AfterTrap RunEvent.IsHarmless s.events := by
  obtain ⟨g, call, registered, called, raised⟩ := trappingHandler_called mode
  have initial : (execution mode (storesAfterCheckpoint mode g) 0).Reachable
      ⟨0, .checkpoint, false, []⟩ := .start rfl
  have trapped := next_handled initial rfl (congrArg (fun outcome => some (outcome, 0)) called)
  have events : ((Execution.handled ⟨0, .checkpoint, false, []⟩ (.called call) 0).executed mode
      .store 1).events = [.handler true, .instruction .store] := by
    simp [Execution.executed, Execution.handled, Outcome.raises, Outcome.isCalled, raised]
  refine ⟨g, _, registered, next_executed trapped rfl, events, ?_⟩
  intro harmless
  have stored := harmless [] _ events (.instruction .store) (List.mem_singleton_self _)
  cases stored

theorem store_after_handler_trap :
    (∃ g s, Globals.init.registerHandler .interp oneHandler true 4 0 1 = some g ∧
      (execution .interp (storesAfterCheckpoint .interp g) 0).Reachable s ∧
      ¬ AfterTrap RunEvent.IsHarmless s.events) ∧
    ∃ g s, Globals.init.registerHandler .aot oneHandler true 4 0 1 = some g ∧
      (execution .aot (storesAfterCheckpoint .aot g) 0).Reachable s ∧
      ¬ AfterTrap RunEvent.IsHarmless s.events := by
  obtain ⟨g, s, registered, reached, -, harmful⟩ := exists_store_after_trap .interp
  obtain ⟨g', s', registered', reached', -, harmful'⟩ := exists_store_after_trap .aot
  exact ⟨⟨g, s, registered, reached, harmful⟩, g', s', registered', reached', harmful'⟩

end TrustWasm.Runtime
