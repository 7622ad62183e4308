import TrustWasm.Lib.Program
import Mathlib.Logic.Function.Basic

/-!
# Lock discipline of a program

Some operations of an interface lock or unlock a mutex, some touch what a mutex protects,
and the others do neither.  The semantics of a lock model counts how often the program holds
each mutex, and its guard allows unlocking and touching only while the mutex is held.  A
program is balanced when it obeys this from every count and returns with the count it
started with.
-/

namespace TrustWasm.Lib

/-- What an operation does with the mutexes `M`. -/
inductive LockEffect (M : Type) where
  | lock (mutex : M)
  | unlock (mutex : M)
  | touch (mutex : M)
  | idle

/-- The effects of the operations of an interface, and the replies they may give. -/
structure LockModel (I : Interface) (M : Type) where
  effect : I.Op → LockEffect M
  allows : (op : I.Op) → I.Reply op → Prop

namespace LockModel

variable {I : Interface} {M α β : Type} [DecidableEq M]

/-- One more hold of a mutex. -/
def add (held : M → Nat) (mutex : M) : M → Nat :=
  Function.update held mutex (held mutex + 1)

def drop (held : M → Nat) (mutex : M) : M → Nat :=
  Function.update held mutex (held mutex - 1)

theorem drop_add (held : M → Nat) (mutex : M) : drop (add held mutex) mutex = held := by
  simp [drop, add]

theorem add_pos (held : M → Nat) (mutex : M) : 0 < add held mutex mutex := by
  simp [add]

def guards (held : M → Nat) : LockEffect M → Prop
  | .unlock mutex | .touch mutex => 0 < held mutex
  | .lock _ | .idle => True

def after (held : M → Nat) : LockEffect M → M → Nat
  | .lock mutex => add held mutex
  | .unlock mutex => drop held mutex
  | .touch _ | .idle => held

/-- The semantics that counts the holds. -/
def semantics (model : LockModel I M) : Semantics I (M → Nat) where
  guard held op := guards held (model.effect op)
  step held op reply held' := model.allows op reply ∧ held' = after held (model.effect op)

/-- From no mutex held, the program unlocks and touches only what it holds and returns with
no mutex held. -/
def Disciplined (model : LockModel I M) (program : Program I α) : Prop :=
  program.Obeys model.semantics (fun _ held => held = fun _ => 0) fun _ => 0

/-- The program returns with the mutexes held that it was started with. -/
def Keeps (model : LockModel I M) (held : M → Nat) (program : Program I α) : Prop :=
  program.Obeys model.semantics (fun _ held' => held' = held) held

/-- The program keeps whatever it is started with. -/
def Balanced (model : LockModel I M) (program : Program I α) : Prop :=
  ∀ held, model.Keeps held program

variable {model : LockModel I M} {held : M → Nat} {mutex : M} {op : I.Op}
  {rest : I.Reply op → Program I α} {post : α → (M → Nat) → Prop}

theorem Balanced.disciplined {program : Program I α} (balanced : model.Balanced program) :
    model.Disciplined program :=
  balanced _

theorem balanced_pure (value : α) : model.Balanced (.pure value : Program I α) :=
  fun _ => rfl

/-- A program that keeps what it is started with, before a program that obeys. -/
theorem Keeps.then {program : Program I α} {next : α → Program I β}
    {post : β → (M → Nat) → Prop} (first : model.Keeps held program)
    (second : ∀ value, (next value).Obeys model.semantics post held) :
    (program >>= next).Obeys model.semantics post held := by
  refine Program.Obeys.bind first fun value held' same => ?_
  rw [same]
  exact second value

theorem Balanced.bind {program : Program I α} {next : α → Program I β}
    (first : model.Balanced program) (second : ∀ value, model.Balanced (next value)) :
    model.Balanced (program >>= next) :=
  fun held => (first held).then fun value => second value held

theorem obeys_lock (locks : model.effect op = .lock mutex)
    (second : ∀ reply, model.allows op reply → (rest reply).Obeys model.semantics post
      (add held mutex)) :
    (Program.perform op >>= rest).Obeys model.semantics post held := by
  refine ⟨?_, ?_⟩
  · show guards held (model.effect op)
    rw [locks]
    trivial
  · rintro reply held' ⟨allowed, rfl⟩
    rw [locks]
    exact second reply allowed

theorem obeys_unlock (unlocks : model.effect op = .unlock mutex)
    (second : ∀ reply, model.allows op reply → (rest reply).Obeys model.semantics post held) :
    (Program.perform op >>= rest).Obeys model.semantics post (add held mutex) := by
  refine ⟨?_, ?_⟩
  · show guards _ (model.effect op)
    rw [unlocks]
    exact add_pos held mutex
  · rintro reply held' ⟨allowed, rfl⟩
    rw [unlocks]
    show (rest reply).Obeys model.semantics post (drop (add held mutex) mutex)
    rw [drop_add]
    exact second reply allowed

theorem obeys_idle (idle : model.effect op = .idle)
    (second : ∀ reply, model.allows op reply → (rest reply).Obeys model.semantics post held) :
    (Program.perform op >>= rest).Obeys model.semantics post held := by
  refine ⟨?_, ?_⟩
  · show guards held (model.effect op)
    rw [idle]
    trivial
  · rintro reply held' ⟨allowed, rfl⟩
    rw [idle]
    exact second reply allowed

/-- The operation does nothing with the mutexes, or touches what a held one protects. -/
def Within (model : LockModel I M) (mutex : M) (op : I.Op) : Prop :=
  model.effect op = .idle ∨ model.effect op = .touch mutex

/-- A program of operations within a mutex keeps every count in which the mutex is held. -/
theorem keeps_of_uses {program : Program I α} (uses : program.Uses (model.Within mutex))
    (holds : 0 < held mutex) : model.Keeps held program := by
  refine uses.obeys ?_ ?_
  · rintro op (idle | touches)
    · show guards held (model.effect op)
      rw [idle]
      trivial
    · show guards held (model.effect op)
      rw [touches]
      exact holds
  · rintro op reply held' (idle | touches) ⟨-, rfl⟩
    · rw [idle]
      rfl
    · rw [touches]
      rfl

/-- A program of operations that do nothing with the mutexes is balanced. -/
theorem balanced_of_idle {program : Program I α}
    (uses : program.Uses fun op => model.effect op = .idle) : model.Balanced program := by
  intro held
  refine uses.obeys ?_ ?_
  · intro op idle
    show guards held (model.effect op)
    rw [idle]
    trivial
  · rintro op reply held' idle ⟨-, rfl⟩
    rw [idle]
    rfl

/-- A program is balanced through a handler that is balanced for each operation it calls. -/
theorem balanced_translate {J : Interface} {handler : (op : J.Op) → Program I (J.Reply op)}
    {P : J.Op → Prop} (handles : ∀ op, P op → model.Balanced (handler op))
    {program : Program J α} (uses : program.Uses P) :
    model.Balanced (program.translate handler) := by
  induction program with
  | pure value => exact balanced_pure value
  | call op next ih => exact (handles op uses.1).bind fun reply => ih reply (uses.2 reply)

/-- A session: acquire, use what the mutex protects, release.  Either the acquire locks, the
release unlocks and the acquire does not fail, or the acquire does nothing and fails, and the
rest of the session is not run. -/
theorem obeys_session {β : Type} {acquire release : I.Op} {failed : I.Reply acquire → Prop}
    [DecidablePred failed] {refused : I.Reply acquire → Program I α} {body : Program I β}
    {answer : β → Program I α}
    (brackets : (model.effect acquire = .lock mutex ∧ model.effect release = .unlock mutex ∧
        ∀ reply, model.allows acquire reply → ¬failed reply) ∨
      (model.effect acquire = .idle ∧ ∀ reply, model.allows acquire reply → failed reply))
    (uses : body.Uses (model.Within mutex))
    (early : ∀ reply, (refused reply).Obeys model.semantics post held)
    (after : ∀ value, (answer value).Obeys model.semantics post held) :
    (Program.perform acquire >>= fun reply =>
      if failed reply then refused reply
      else body >>= fun value => Program.perform release >>= fun _ => answer value).Obeys
        model.semantics post held := by
  rcases brackets with ⟨locks, unlocks, granted⟩ | ⟨idle, denied⟩
  · refine obeys_lock locks fun reply allowed => ?_
    rw [if_neg (granted reply allowed)]
    refine (keeps_of_uses uses (add_pos held mutex)).then fun value => ?_
    exact obeys_unlock unlocks fun _ _ => after value
  · refine obeys_idle idle fun reply allowed => ?_
    rw [if_pos (denied reply allowed)]
    exact early reply

/-- A program that first touches what a mutex protects does not obey while the mutex is not
held. -/
theorem not_obeys_of_touch {program : Program I α}
    (starts : program.StartsWith fun op => model.effect op = .touch mutex)
    (unheld : held mutex = 0) : ¬program.Obeys model.semantics post held := by
  cases program with
  | pure value => exact starts.elim
  | call op next =>
    rintro ⟨guarded, -⟩
    have touches : model.effect op = .touch mutex := starts
    have holds : guards held (model.effect op) := guarded
    rw [touches] at holds
    exact (Nat.ne_of_gt holds) unheld

end LockModel

end TrustWasm.Lib
