import Mathlib.Logic.Function.Iterate
import Mathlib.Order.Basic

/-!
# Loops that may not end

The body of a loop takes the state of a round and either goes on with a new state or
ends with a result.  `run` executes a bounded number of rounds; a loop returns when
some number of rounds is enough.  The rules are an invariant for what a loop returns, a
measure for a bound on its rounds, and an invariant for a loop that never ends.
-/

namespace TrustWasm.Lib

variable {σ ρ : Type}

/-- The outcome of a round. -/
inductive Round (σ ρ : Type) where
  | again (state : σ)
  | done (result : ρ)

/-- A round of a loop with other states. -/
def Round.map {σ' : Type} (f : σ → σ') : Round σ ρ → Round σ' ρ
  | .again state => .again (f state)
  | .done result => .done result

namespace Loop

/-- At most `rounds` rounds of a loop, `none` when they are not enough. -/
def run (body : σ → Round σ ρ) : Nat → σ → Option ρ
  | 0, _ => none
  | rounds + 1, state =>
    match body state with
    | .again next => run body rounds next
    | .done result => some result

/-- The loop ends with a result. -/
def Returns (body : σ → Round σ ρ) (state : σ) (result : ρ) : Prop :=
  ∃ rounds, run body rounds state = some result

variable {body : σ → Round σ ρ} {state next : σ} {result : ρ}

theorem run_again (goesOn : body state = .again next) (rounds : Nat) :
    run body (rounds + 1) state = run body rounds next := by
  rw [run, goesOn]

theorem run_done (ends : body state = .done result) (rounds : Nat) :
    run body (rounds + 1) state = some result := by
  rw [run, ends]

/-- More rounds give the same result. -/
theorem run_of_le {few many : Nat} (ran : run body few state = some result)
    (le : few ≤ many) : run body many state = some result := by
  induction few generalizing many state with
  | zero => cases ran
  | succ few ih =>
    obtain ⟨many, rfl⟩ : ∃ more, many = more + 1 := ⟨many - 1, by omega⟩
    cases outcome : body state with
    | again next =>
      rw [run_again outcome] at ran ⊢
      exact ih ran (by omega)
    | done value =>
      rw [run_done outcome] at ran ⊢
      exact ran

theorem returns_of_done (ends : body state = .done result) : Returns body state result :=
  ⟨1, run_done ends 0⟩

theorem returns_of_again (goesOn : body state = .again next)
    (returns : Returns body next result) : Returns body state result := by
  obtain ⟨rounds, ran⟩ := returns
  exact ⟨rounds + 1, (run_again goesOn rounds).trans ran⟩

/-- What a loop returns, from what holds at the start of each of its rounds. -/
theorem Returns.invariant {I : σ → Prop} {Q : ρ → Prop} (returns : Returns body state result)
    (holds : I state) (goesOn : ∀ s s', I s → body s = .again s' → I s')
    (ends : ∀ s r, I s → body s = .done r → Q r) : Q result := by
  obtain ⟨rounds, ran⟩ := returns
  induction rounds generalizing state with
  | zero => cases ran
  | succ rounds ih =>
    cases outcome : body state with
    | again next =>
      rw [run_again outcome] at ran
      exact ih (goesOn state next holds outcome) ran
    | done value =>
      rw [run_done outcome] at ran
      cases ran
      exact ends state _ holds outcome

/-- A loop whose measure decreases in every round that goes on ends, within as many
rounds as the measure says. -/
theorem returns_within {I : σ → Prop} (measure : σ → Nat) (holds : I state)
    (goesOn : ∀ s s', I s → body s = .again s' → I s' ∧ measure s' < measure s) :
    ∃ r, run body (measure state + 1) state = some r := by
  induction size : measure state using Nat.strongRecOn generalizing state with
  | ind size ih =>
    cases outcome : body state with
    | done value => exact ⟨value, run_done outcome _⟩
    | again next =>
      obtain ⟨kept, smaller⟩ := goesOn state next holds outcome
      obtain ⟨r, ran⟩ := ih (measure next) (size ▸ smaller) kept rfl
      refine ⟨r, ?_⟩
      rw [run_again outcome]
      exact run_of_le ran (by omega)

/-- A loop that goes on as long as a test of its state fails returns in the first state in
which the test succeeds. -/
theorem returns_iff_first (test : σ → Prop) (step : σ → σ)
    (goesOn : ∀ s, ¬test s → body s = .again (step s))
    (ends : ∀ s, test s → ∃ r, body s = .done r) :
    Returns body state result ↔
      ∃ k, (∀ j < k, ¬test (step^[j] state)) ∧ test (step^[k] state) ∧
        body (step^[k] state) = .done result := by
  constructor
  · rintro ⟨rounds, ran⟩
    induction rounds generalizing state with
    | zero => cases ran
    | succ rounds ih =>
      by_cases holds : test state
      · obtain ⟨r, outcome⟩ := ends state holds
        rw [run_done outcome] at ran
        cases ran
        exact ⟨0, fun _ below => absurd below (Nat.not_lt_zero _), holds, outcome⟩
      · rw [run_again (goesOn state holds)] at ran
        obtain ⟨k, before, found, outcome⟩ := ih ran
        refine ⟨k + 1, ?_, found, outcome⟩
        intro j below
        cases j with
        | zero => exact holds
        | succ j => exact before j (Nat.lt_of_succ_lt_succ below)
  · rintro ⟨k, before, found, outcome⟩
    induction k generalizing state with
    | zero => exact returns_of_done outcome
    | succ k ih =>
      refine returns_of_again (goesOn state (before 0 (Nat.succ_pos k))) ?_
      exact ih (fun j below => before (j + 1) (Nat.succ_lt_succ below)) found outcome

/-- A loop that goes on as long as a test of its state fails returns if the test ever
succeeds. -/
theorem exists_returns_iff (test : σ → Prop) (step : σ → σ)
    (goesOn : ∀ s, ¬test s → body s = .again (step s))
    (ends : ∀ s, test s → ∃ r, body s = .done r) :
    (∃ r, Returns body state r) ↔ ∃ k, test (step^[k] state) := by
  constructor
  · rintro ⟨r, returns⟩
    obtain ⟨k, -, found, -⟩ := (returns_iff_first test step goesOn ends).mp returns
    exact ⟨k, found⟩
  · rintro ⟨k, found⟩
    induction k generalizing state with
    | zero =>
      obtain ⟨r, outcome⟩ := ends state found
      exact ⟨r, returns_of_done outcome⟩
    | succ k ih =>
      by_cases holds : test state
      · obtain ⟨r, outcome⟩ := ends state holds
        exact ⟨r, returns_of_done outcome⟩
      · obtain ⟨r, returns⟩ := ih found
        exact ⟨r, returns_of_again (goesOn state holds) returns⟩

/-- One or more rounds of a loop come to an outcome. -/
inductive Takes (body : σ → Round σ ρ) : σ → Round σ ρ → Prop
  | one (state : σ) : Takes body state (body state)
  | more {state next : σ} {outcome : Round σ ρ} (goesOn : body state = .again next)
      (rest : Takes body next outcome) : Takes body state outcome

theorem Takes.returns {outcome : Round σ ρ} (takes : Takes body state outcome)
    (ends : outcome = .done result ∨ ∃ s, outcome = .again s ∧ Returns body s result) :
    Returns body state result := by
  induction takes with
  | one state =>
    rcases ends with ends | ⟨next, goesOn, returns⟩
    · exact returns_of_done ends
    · exact returns_of_again goesOn returns
  | more goesOn _ ih => exact returns_of_again goesOn (ih ends)

theorem Takes.run {outcome : Round σ ρ} {rounds : Nat} (takes : Takes body state outcome)
    (ran : run body rounds state = some result) :
    outcome = .done result ∨
      ∃ s few, outcome = .again s ∧ few < rounds ∧ Loop.run body few s = some result := by
  induction takes generalizing rounds with
  | one state =>
    cases rounds with
    | zero => cases ran
    | succ rounds =>
      cases outcome : body state with
      | again next =>
        rw [run_again outcome] at ran
        exact .inr ⟨next, rounds, rfl, Nat.lt_succ_self _, ran⟩
      | done value =>
        rw [run_done outcome] at ran
        exact .inl (congrArg Round.done (Option.some.inj ran))
  | more goesOn _ ih =>
    cases rounds with
    | zero => cases ran
    | succ rounds =>
      rw [run_again goesOn] at ran
      rcases ih ran with ends | ⟨next, few, again, less, ran⟩
      · exact .inl ends
      · exact .inr ⟨next, few, again, Nat.lt_succ_of_lt less, ran⟩

/-- A loop returns what another one returns that takes one or more rounds for each of its
rounds. -/
theorem returns_iff_of_takes {σ' : Type} {body' : σ' → Round σ' ρ} (f : σ → σ')
    (takes : ∀ s, Takes body' (f s) ((body s).map f)) (state : σ) (result : ρ) :
    Returns body state result ↔ Returns body' (f state) result := by
  constructor
  · rintro ⟨rounds, ran⟩
    induction rounds generalizing state with
    | zero => cases ran
    | succ rounds ih =>
      refine (takes state).returns ?_
      cases outcome : body state with
      | again next =>
        rw [run_again outcome] at ran
        exact .inr ⟨f next, rfl, ih next ran⟩
      | done value =>
        rw [run_done outcome] at ran
        exact .inl (congrArg Round.done (Option.some.inj ran))
  · rintro ⟨rounds, ran⟩
    induction rounds using Nat.strongRecOn generalizing state with
    | ind rounds ih =>
      have round := (takes state).run ran
      cases outcome : body state with
      | again next =>
        rw [outcome] at round
        rcases round with ends | ⟨s, few, again, less, ran⟩
        · cases ends
        · cases again
          exact returns_of_again outcome (ih few less next ran)
      | done value =>
        rw [outcome] at round
        rcases round with ends | ⟨s, few, again, less, ran⟩
        · cases ends
          exact returns_of_done outcome
        · cases again

/-- A loop that always goes on never returns. -/
theorem run_eq_none {I : σ → Prop} (holds : I state)
    (goesOn : ∀ s, I s → ∃ s', body s = .again s' ∧ I s') (rounds : Nat) :
    run body rounds state = none := by
  induction rounds generalizing state with
  | zero => rfl
  | succ rounds ih =>
    obtain ⟨next, outcome, kept⟩ := goesOn state holds
    rw [run_again outcome]
    exact ih kept

end Loop

end TrustWasm.Lib
