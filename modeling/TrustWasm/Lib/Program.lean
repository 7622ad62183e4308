import Mathlib.Data.Set.Basic

/-!
# Programs over an interface of atomic operations

A program is a finite tree of calls to the operations of an interface.  The
tree fixes the order of the calls and what is done with each reply, and leaves
the meaning of the calls open.  One tree is therefore read in several ways: it
is executed in one go against a state, its calls are interleaved with those of
other programs, and it is checked against a guarded view of the state.
-/

namespace TrustWasm.Lib

/-- Atomic operations together with the type of the reply of each one. -/
structure Interface where
  Op : Type
  Reply : Op → Type

/-- A program that calls operations of `I` and returns a value. -/
inductive Program (I : Interface) (α : Type) where
  | pure (value : α)
  | call (op : I.Op) (next : I.Reply op → Program I α)

/-- What an operation may do to a state, and when calling it is legitimate. -/
structure Semantics (I : Interface) (σ : Type) where
  guard : σ → I.Op → Prop
  step : σ → (op : I.Op) → I.Reply op → σ → Prop

namespace Program

variable {I : Interface} {σ τ α β : Type}

/-- Sequential composition. -/
def bind : Program I α → (α → Program I β) → Program I β
  | .pure value, rest => rest value
  | .call op next, rest => .call op fun reply => (next reply).bind rest

instance : Monad (Program I) where
  pure := Program.pure
  bind := Program.bind

/-- The program that performs one operation and returns its reply. -/
def perform (op : I.Op) : Program I (I.Reply op) :=
  .call op .pure

@[simp]
theorem pure_eq (value : α) : (Pure.pure value : Program I α) = .pure value :=
  rfl

@[simp]
theorem pure_bind_eq (value : α) (rest : α → Program I β) :
    (Program.pure value >>= rest) = rest value :=
  rfl

@[simp]
theorem call_bind_eq (op : I.Op) (next : I.Reply op → Program I α) (rest : α → Program I β) :
    (Program.call op next >>= rest) = .call op fun reply => next reply >>= rest :=
  rfl

@[simp]
theorem perform_bind_eq (op : I.Op) (rest : I.Reply op → Program I β) :
    (perform op >>= rest) = .call op rest :=
  rfl

private theorem bind_pure_id (program : Program I α) : program.bind .pure = program := by
  induction program with
  | pure value => rfl
  | call op next ih => exact congrArg (Program.call op) (funext ih)

private theorem bind_bind {γ : Type} (program : Program I α) (first : α → Program I β)
    (second : β → Program I γ) :
    (program.bind first).bind second =
      program.bind fun value => (first value).bind second := by
  induction program with
  | pure value => rfl
  | call op next ih => exact congrArg (Program.call op) (funext ih)

instance : LawfulMonad (Program I) :=
  LawfulMonad.mk' _ bind_pure_id (fun _ _ => rfl) bind_bind

/-! ## Operations a program can call -/

/-- Every operation `program` can call, whatever the replies, meets `P`. -/
def Uses (P : I.Op → Prop) : Program I α → Prop
  | .pure _ => True
  | .call op next => P op ∧ ∀ reply, (next reply).Uses P

@[simp]
theorem uses_pure (P : I.Op → Prop) (value : α) : (Program.pure value : Program I α).Uses P :=
  trivial

@[simp]
theorem uses_call (P : I.Op → Prop) (op : I.Op) (next : I.Reply op → Program I α) :
    (Program.call op next).Uses P ↔ P op ∧ ∀ reply, (next reply).Uses P :=
  Iff.rfl

@[simp]
theorem uses_perform (P : I.Op → Prop) (op : I.Op) : (perform op).Uses P ↔ P op := by
  simp [perform]

theorem Uses.mono {P Q : I.Op → Prop} {program : Program I α} (uses : program.Uses P)
    (weaken : ∀ op, P op → Q op) : program.Uses Q := by
  induction program with
  | pure value => trivial
  | call op next ih => exact ⟨weaken op uses.1, fun reply => ih reply (uses.2 reply)⟩

theorem Uses.bind {P : I.Op → Prop} {program : Program I α} {rest : α → Program I β}
    (first : program.Uses P) (second : ∀ value, (rest value).Uses P) :
    (program >>= rest).Uses P := by
  induction program with
  | pure value => exact second value
  | call op next ih => exact ⟨first.1, fun reply => ih reply (first.2 reply)⟩

theorem Uses.perform_bind {P : I.Op → Prop} {op : I.Op} {rest : I.Reply op → Program I α}
    (allowed : P op) (second : ∀ reply, (rest reply).Uses P) :
    (perform op >>= rest).Uses P :=
  ⟨allowed, second⟩

/-- The first operation `program` calls meets `P`. -/
def StartsWith (P : I.Op → Prop) : Program I α → Prop
  | .pure _ => False
  | .call op _ => P op

theorem StartsWith.bind {P : I.Op → Prop} {program : Program I α} (starts : program.StartsWith P)
    (rest : α → Program I β) : (program >>= rest).StartsWith P := by
  cases program with
  | pure value => exact starts.elim
  | call op next => exact starts

/-! ## Execution in one go -/

/-- `program` run alone from `source` can return `result` and leave `target`. -/
def Exec (S : Semantics I σ) : Program I α → σ → α → σ → Prop
  | .pure value, source, result, target => result = value ∧ target = source
  | .call op next, source, result, target =>
    ∃ reply middle, S.step source op reply middle ∧
      (next reply).Exec S middle result target

@[simp]
theorem exec_pure (S : Semantics I σ) (value result : α) (source target : σ) :
    (Program.pure value).Exec S source result target ↔
      result = value ∧ target = source :=
  Iff.rfl

@[simp]
theorem exec_call (S : Semantics I σ) (op : I.Op) (next : I.Reply op → Program I α)
    (source : σ) (result : α) (target : σ) :
    (Program.call op next).Exec S source result target ↔
      ∃ reply middle, S.step source op reply middle ∧
        (next reply).Exec S middle result target :=
  Iff.rfl

theorem exec_perform_iff {S : Semantics I σ} {op : I.Op} {source : σ} {reply : I.Reply op}
    {target : σ} : (perform op).Exec S source reply target ↔ S.step source op reply target := by
  constructor
  · rintro ⟨_, _, step, rfl, rfl⟩
    exact step
  · intro step
    exact ⟨reply, target, step, rfl, rfl⟩

theorem exec_perform_bind {S : Semantics I σ} {op : I.Op} {rest : I.Reply op → Program I β}
    {source : σ} {result : β} {target : σ} :
    (perform op >>= rest).Exec S source result target ↔
      ∃ reply middle, S.step source op reply middle ∧ (rest reply).Exec S middle result target :=
  Iff.rfl

/-- A composition runs its first part and then its second. -/
theorem exec_bind {S : Semantics I σ} {program : Program I α} {rest : α → Program I β}
    {source : σ} {result : β} {target : σ} :
    (program >>= rest).Exec S source result target ↔
      ∃ value middle, program.Exec S source value middle ∧
        (rest value).Exec S middle result target := by
  induction program generalizing source with
  | pure value =>
    constructor
    · intro run
      exact ⟨value, source, ⟨rfl, rfl⟩, run⟩
    · rintro ⟨_, _, ⟨rfl, rfl⟩, run⟩
      exact run
  | call op next ih =>
    simp only [call_bind_eq, exec_call, ih]
    constructor
    · rintro ⟨reply, first, step, value, middle, run, tail⟩
      exact ⟨value, middle, ⟨reply, first, step, run⟩, tail⟩
    · rintro ⟨value, middle, ⟨reply, first, step, run⟩, tail⟩
      exact ⟨reply, first, step, value, middle, run, tail⟩

theorem exec_map {S : Semantics I σ} {f : α → β} {program : Program I α} {source : σ}
    {result : β} {target : σ} :
    (f <$> program).Exec S source result target ↔
      ∃ value, program.Exec S source value target ∧ result = f value := by
  show (program >>= fun value => pure (f value)).Exec S source result target ↔ _
  rw [exec_bind]
  constructor
  · rintro ⟨value, _, run, rfl, rfl⟩
    exact ⟨value, run, rfl⟩
  · rintro ⟨value, run, rfl⟩
    exact ⟨value, target, run, rfl, rfl⟩

/-- A relation kept by every operation a program calls holds between the states
before and after it. -/
theorem Uses.rel_of_exec {S : Semantics I σ} {P : I.Op → Prop} {R : σ → σ → Prop}
    (refl : ∀ state, R state state)
    (trans : ∀ first second third, R first second → R second third → R first third)
    (step : ∀ op source reply target, P op → S.step source op reply target → R source target)
    {program : Program I α} (uses : program.Uses P) {source target : σ} {result : α}
    (run : program.Exec S source result target) : R source target := by
  induction program generalizing source with
  | pure value =>
    obtain ⟨-, rfl⟩ := run
    exact refl _
  | call op next ih =>
    obtain ⟨reply, middle, taken, tail⟩ := run
    exact trans _ _ _ (step op _ reply _ uses.1 taken) (ih reply (uses.2 reply) tail)

/-- A semantics with fewer steps of the operations a program calls has fewer executions of
it. -/
theorem Uses.exec_mono {S T : Semantics I σ} {P : I.Op → Prop}
    (weaker : ∀ source op reply target, P op → S.step source op reply target →
      T.step source op reply target)
    {program : Program I α} (uses : program.Uses P) {source target : σ} {result : α}
    (run : program.Exec S source result target) : program.Exec T source result target := by
  induction program generalizing source with
  | pure value => exact run
  | call op next ih =>
    obtain ⟨reply, middle, taken, tail⟩ := run
    exact ⟨reply, middle, weaker _ op reply _ uses.1 taken, ih reply (uses.2 reply) tail⟩

/-- When every operation a program calls can be followed from a related state, so
can the program. -/
theorem Uses.simulates {S : Semantics I σ} {P : I.Op → Prop} {R : σ → σ → Prop}
    (step : ∀ op source reply target other, P op → R source other →
      S.step source op reply target → ∃ next, S.step other op reply next ∧ R target next)
    {program : Program I α} (uses : program.Uses P) {source target other : σ} {result : α}
    (related : R source other) (run : program.Exec S source result target) :
    ∃ next, program.Exec S other result next ∧ R target next := by
  induction program generalizing source other with
  | pure value =>
    obtain ⟨rfl, rfl⟩ := run
    exact ⟨other, ⟨rfl, rfl⟩, related⟩
  | call op next ih =>
    obtain ⟨reply, middle, taken, tail⟩ := run
    obtain ⟨middle', taken', related'⟩ := step op _ reply _ _ uses.1 related taken
    obtain ⟨last, tail', ends⟩ := ih reply (uses.2 reply) related' tail
    exact ⟨last, ⟨reply, middle', taken', tail'⟩, ends⟩

/-- A semantics whose steps are steps of another one, on a projection of its states, has
executions of the other one only. -/
theorem Exec.map {S : Semantics I σ} {T : Semantics I τ} (project : σ → τ)
    (steps : ∀ source op reply target, S.step source op reply target →
      T.step (project source) op reply (project target))
    {program : Program I α} {source target : σ} {result : α}
    (run : program.Exec S source result target) :
    program.Exec T (project source) result (project target) := by
  induction program generalizing source with
  | pure value =>
    obtain ⟨rfl, rfl⟩ := run
    exact ⟨rfl, rfl⟩
  | call op next ih =>
    obtain ⟨reply, middle, step, tail⟩ := run
    exact ⟨reply, project middle, steps _ _ _ _ step, ih reply tail⟩

/-- A semantics with fewer steps has fewer executions. -/
theorem Exec.mono {S T : Semantics I σ}
    (weaker : ∀ source op reply target, S.step source op reply target →
      T.step source op reply target)
    {program : Program I α} {source target : σ} {result : α}
    (run : program.Exec S source result target) : program.Exec T source result target :=
  run.map id weaker

/-! ## Guarded views -/

/-- Every call `program` can make from `view` meets its guard, and every return
value meets `post` together with the view it is returned in. -/
def Obeys (S : Semantics I σ) (post : α → σ → Prop) : Program I α → σ → Prop
  | .pure value, view => post value view
  | .call op next, view =>
    S.guard view op ∧ ∀ reply after, S.step view op reply after →
      (next reply).Obeys S post after

@[simp]
theorem obeys_pure (S : Semantics I σ) (post : α → σ → Prop) (value : α) (view : σ) :
    (Program.pure value).Obeys S post view ↔ post value view :=
  Iff.rfl

@[simp]
theorem obeys_call (S : Semantics I σ) (post : α → σ → Prop) (op : I.Op)
    (next : I.Reply op → Program I α) (view : σ) :
    (Program.call op next).Obeys S post view ↔
      S.guard view op ∧ ∀ reply after, S.step view op reply after →
        (next reply).Obeys S post after :=
  Iff.rfl

/-- A composition obeys a semantics when its second part does so from every
view in which its first part can return. -/
theorem Obeys.bind {S : Semantics I σ} {middle : α → σ → Prop} {post : β → σ → Prop}
    {program : Program I α} {rest : α → Program I β} {view : σ}
    (first : program.Obeys S middle view)
    (second : ∀ value after, middle value after → (rest value).Obeys S post after) :
    (program >>= rest).Obeys S post view := by
  induction program generalizing view with
  | pure value => exact second value view first
  | call op next ih => exact ⟨first.1, fun reply after step => ih reply (first.2 reply after step)⟩

theorem Obeys.bind_at {S : Semantics I σ} {post : β → σ → Prop} {program : Program I α}
    {rest : α → Program I β} {view middle : σ}
    (first : program.Obeys S (fun _ after => after = middle) view)
    (second : ∀ value, (rest value).Obeys S post middle) :
    (program >>= rest).Obeys S post view :=
  first.bind fun value _ same => same ▸ second value

theorem Obeys.mono {S : Semantics I σ} {strong weak : α → σ → Prop}
    {program : Program I α} {view : σ} (obeys : program.Obeys S strong view)
    (weaken : ∀ value after, strong value after → weak value after) :
    program.Obeys S weak view := by
  induction program generalizing view with
  | pure value => exact weaken value view obeys
  | call op next ih => exact ⟨obeys.1, fun reply after step => ih reply (obeys.2 reply after step)⟩

/-- A program whose operations are all allowed in a view and leave it as it is
obeys the semantics and returns in the view it started in. -/
theorem Uses.obeys {S : Semantics I σ} {P : I.Op → Prop} {program : Program I α} {view : σ}
    (uses : program.Uses P) (allowed : ∀ op, P op → S.guard view op)
    (kept : ∀ op reply after, P op → S.step view op reply after → after = view) :
    program.Obeys S (fun _ after => after = view) view := by
  induction program with
  | pure value => exact rfl
  | call op next ih =>
    refine ⟨allowed op uses.1, fun reply after step => ?_⟩
    rw [kept op reply after uses.1 step]
    exact ih reply (uses.2 reply)

/-- The semantics that tracks a view: the view after a call is a function of the
view before, the operation and its reply. -/
def tracker (guard : σ → I.Op → Prop) (next : σ → (op : I.Op) → I.Reply op → σ) :
    Semantics I σ where
  guard := guard
  step view op reply after := after = next view op reply

theorem Obeys.tracker_bind {guard : σ → I.Op → Prop}
    {next : σ → (op : I.Op) → I.Reply op → σ} {post : α → σ → Prop} {op : I.Op}
    {rest : I.Reply op → Program I α} {view : σ} (allowed : guard view op)
    (second : ∀ reply, (rest reply).Obeys (tracker guard next) post (next view op reply)) :
    (perform op >>= rest).Obeys (tracker guard next) post view := by
  refine ⟨allowed, fun reply after step => ?_⟩
  obtain rfl : after = _ := step
  exact second reply

theorem Obeys.rest_of_step {S : Semantics I σ} {post : α → σ → Prop} {op : I.Op}
    {rest : I.Reply op → Program I α} {source middle : σ}
    (obeys : (perform op >>= rest).Obeys S post source) (reply : I.Reply op)
    (step : S.step source op reply middle) : (rest reply).Obeys S post middle :=
  obeys.2 reply middle step

/-- What is left of a program after an execution of its first part obeys the
semantics as well. -/
theorem Obeys.rest_of_exec {S : Semantics I σ} {post : β → σ → Prop} {program : Program I α}
    {rest : α → Program I β} {source middle : σ} {value : α}
    (obeys : (program >>= rest).Obeys S post source)
    (run : program.Exec S source value middle) : (rest value).Obeys S post middle := by
  induction program generalizing source with
  | pure result =>
    obtain ⟨rfl, rfl⟩ := run
    exact obeys
  | call op next ih =>
    obtain ⟨reply, after, step, tail⟩ := run
    exact ih reply (obeys.2 reply after step) tail

/-- What a program obeys holds of each of its executions. -/
theorem Obeys.post_of_exec {S : Semantics I σ} {post : α → σ → Prop}
    {program : Program I α} {source target : σ} {result : α}
    (obeys : program.Obeys S post source) (run : program.Exec S source result target) :
    post result target := by
  induction program generalizing source with
  | pure value =>
    obtain ⟨rfl, rfl⟩ := run
    exact obeys
  | call op next ih =>
    obtain ⟨reply, middle, step, tail⟩ := run
    exact ih reply (obeys.2 reply middle step) tail

theorem obeys_bind_iff {S : Semantics I σ} {post : β → σ → Prop} {program : Program I α}
    {rest : α → Program I β} {view : σ} :
    (program >>= rest).Obeys S post view ↔
      program.Obeys S (fun value after => (rest value).Obeys S post after) view := by
  constructor
  · intro obeys
    induction program generalizing view with
    | pure value => exact obeys
    | call op next ih => exact ⟨obeys.1,
        fun reply after step => ih reply (obeys.2 reply after step)⟩
  · intro obeys
    exact obeys.bind fun _ _ => id

/-- A program whose operations always have an answer has an execution. -/
theorem Uses.exists_exec {S : Semantics I σ} {P : I.Op → Prop} {program : Program I α}
    (uses : program.Uses P)
    (total : ∀ source op, P op → ∃ reply target, S.step source op reply target)
    (source : σ) : ∃ result target, program.Exec S source result target := by
  induction program generalizing source with
  | pure value => exact ⟨value, source, rfl, rfl⟩
  | call op next ih =>
    obtain ⟨reply, middle, step⟩ := total source op uses.1
    obtain ⟨result, target, tail⟩ := ih reply (uses.2 reply) middle
    exact ⟨result, target, reply, middle, step, tail⟩

theorem uses_all (program : Program I α) : program.Uses fun _ => True := by
  induction program with
  | pure value => trivial
  | call op next ih => exact ⟨trivial, ih⟩

/-! ## Programs of another interface -/

section Translate

variable {J : Interface}

/-- The program with each operation replaced by a program of another interface. -/
def translate (handler : (op : I.Op) → Program J (I.Reply op)) : Program I α → Program J α
  | .pure value => .pure value
  | .call op next => handler op >>= fun reply => (next reply).translate handler

@[simp]
theorem translate_pure (handler : (op : I.Op) → Program J (I.Reply op)) (value : α) :
    (Pure.pure value : Program I α).translate handler = Pure.pure value :=
  rfl

theorem translate_perform (handler : (op : I.Op) → Program J (I.Reply op)) (op : I.Op) :
    (perform op).translate handler = handler op :=
  bind_pure_id (handler op)

theorem translate_ite (handler : (op : I.Op) → Program J (I.Reply op)) (c : Prop) [Decidable c]
    (first second : Program I α) :
    (if c then first else second).translate handler =
      if c then first.translate handler else second.translate handler :=
  apply_ite _ c first second

theorem translate_bind (handler : (op : I.Op) → Program J (I.Reply op)) (program : Program I α)
    (rest : α → Program I β) :
    (program >>= rest).translate handler =
      program.translate handler >>= fun value => (rest value).translate handler := by
  induction program with
  | pure value => rfl
  | call op next ih =>
    show (handler op >>= fun reply => (next reply >>= rest).translate handler) =
      (handler op >>= fun reply => (next reply).translate handler) >>= _
    simp only [ih, bind_assoc]

theorem Uses.translate {handler : (op : I.Op) → Program J (I.Reply op)} {P : I.Op → Prop}
    {Q : J.Op → Prop} (handles : ∀ op, P op → (handler op).Uses Q) {program : Program I α}
    (uses : program.Uses P) : (program.translate handler).Uses Q := by
  induction program with
  | pure value => trivial
  | call op next ih => exact (handles op uses.1).bind fun reply => ih reply (uses.2 reply)

/-- A program obeys through its handler what it obeys by itself, when the handler of each
operation does what the operation does. -/
theorem obeys_translate_iff {S : Semantics I σ} {T : Semantics J σ}
    {handler : (op : I.Op) → Program J (I.Reply op)}
    (handles : ∀ view op (post : I.Reply op → σ → Prop), (handler op).Obeys T post view ↔
      S.guard view op ∧ ∀ reply after, S.step view op reply after → post reply after)
    {post : α → σ → Prop} {program : Program I α} {view : σ} :
    (program.translate handler).Obeys T post view ↔ program.Obeys S post view := by
  induction program generalizing view with
  | pure value => rfl
  | call op next ih =>
    show (handler op >>= fun reply => (next reply).translate handler).Obeys T post view ↔ _
    simp only [obeys_bind_iff, handles, ih, obeys_call]

/-- The runs of a program through its handler are its own runs, when the handler of each
operation runs as the operation does. -/
theorem exec_translate_iff {S : Semantics I σ} {T : Semantics J σ}
    {handler : (op : I.Op) → Program J (I.Reply op)}
    (handles : ∀ source op reply target,
      (handler op).Exec T source reply target ↔ S.step source op reply target)
    {program : Program I α} {source target : σ} {result : α} :
    (program.translate handler).Exec T source result target ↔
      program.Exec S source result target := by
  induction program generalizing source with
  | pure value => rfl
  | call op next ih =>
    show (handler op >>= fun reply => (next reply).translate handler).Exec T source result
      target ↔ _
    simp only [exec_bind, handles, ih, exec_call]

end Translate

/-! ## Recorded executions -/

section Recorded

variable {ε : Type} (S : Semantics I σ) (note : (op : I.Op) → I.Reply op → List ε)

/-- The semantics that keeps a record: each call appends what `note` says of it. -/
def recorded : Semantics I (σ × List ε) where
  guard state := S.guard state.1
  step state op reply after := S.step state.1 op reply after.1 ∧ after.2 = state.2 ++ note op reply

variable {S note}

theorem Obeys.recorded_bind {post : α → σ × List ε → Prop} {op : I.Op}
    {rest : I.Reply op → Program I α} {source : σ} {before : List ε} (allowed : S.guard source op)
    (second : ∀ reply after, S.step source op reply after →
      (rest reply).Obeys (recorded S note) post (after, before ++ note op reply)) :
    (perform op >>= rest).Obeys (recorded S note) post (source, before) := by
  refine ⟨allowed, ?_⟩
  rintro reply ⟨after, _⟩ ⟨step, rfl⟩
  exact second reply after step

/-- What holds of the notes of every step holds of a whole record. -/
theorem Exec.forall_recorded {P : ε → Prop}
    (steps : ∀ source op reply target, S.step source op reply target →
      ∀ event ∈ note op reply, P event)
    {program : Program I α} {source target : σ × List ε} {result : α}
    (run : program.Exec (recorded S note) source result target)
    (before : ∀ event ∈ source.2, P event) : ∀ event ∈ target.2, P event := by
  induction program generalizing source with
  | pure value =>
    obtain ⟨-, rfl⟩ := run
    exact before
  | call op next ih =>
    obtain ⟨reply, middle, ⟨step, noted⟩, tail⟩ := run
    refine ih reply tail ?_
    rw [noted]
    intro event member
    rcases List.mem_append.mp member with old | new
    · exact before event old
    · exact steps _ _ _ _ step event new

end Recorded

end Program

end TrustWasm.Lib
