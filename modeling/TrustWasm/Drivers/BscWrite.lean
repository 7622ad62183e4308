import TrustWasm.Drivers.Bsc
import Mathlib.Data.List.Range

/-!
# The stream of an I2C write

The three loops of a write share the counters of the bytes sent and the bytes left.  Every
part of a write, run from one state to another, sends the bytes between the two values of
the counter, in order and each loaded once (`Advances`).  The relation composes, so that
what a whole write sends follows from its parts, whatever the status register says.
-/

namespace TrustWasm.Drivers

open TrustWasm.Lib TrustWasm.Tee

/-- The accesses send the `count` bytes of the stream from position `first` on. -/
structure Sends (source : BscSource) (first count : Nat) (accesses : List BscAccess) :
    Prop where
  pushed : pushes accesses = (List.range' first count).map source.byte
  loaded : loads accesses = (List.range' first count).map source.load
  sized : lengths accesses = []

variable {accesses : List BscAccess} {count remain failSafe : Nat} {source : BscSource}
    {res : TeeResult}

theorem Idle.sends (idle : Idle accesses) (source : BscSource) (first : Nat) :
    Sends source first 0 accesses :=
  ⟨idle.pushed, idle.loaded, idle.sized⟩

theorem pushes_load_cons {access : BscAccess} (isLoad : access.isLoad = true)
    (rest : List BscAccess) : pushes (access :: rest) = pushes rest := by
  cases access <;> first | rfl | cases isLoad

theorem lengths_load_cons {access : BscAccess} (isLoad : access.isLoad = true)
    (rest : List BscAccess) : lengths (access :: rest) = lengths rest := by
  cases access <;> first | rfl | cases isLoad

theorem sends_one (source : BscSource) (first : Nat) :
    Sends source first 1 [source.load first, .pushFifo (source.byte first)] where
  pushed := pushes_load_cons (source.isLoad_load first) _
  loaded := List.filter_cons_of_pos (source.isLoad_load first)
  sized := lengths_load_cons (source.isLoad_load first) _

theorem Sends.append {first more : Nat} {added : List BscAccess}
    (begun : Sends source first count accesses) (rest : Sends source (first + count) more added) :
    Sends source first (count + more) (accesses ++ added) where
  pushed := by
    rw [pushes_append, begun.pushed, rest.pushed, ← List.map_append, List.range'_append_1]
  loaded := by
    rw [loads_append, begun.loaded, rest.loaded, ← List.map_append, List.range'_append_1]
  sized := by rw [lengths_append, begun.sized, rest.sized, List.append_nil]

namespace BscWrite

variable (input : BscInput) (source : BscSource)

/-- From `w` to `w'` the write sends the bytes between the two counters. -/
def Advances (w w' : BscWrite) : Prop :=
  ∃ count new, w'.sent = w.sent + count ∧ w.remain = w'.remain + count ∧
    w'.bsc.trace = w.bsc.trace ++ new ∧ Sends source w.sent count new

variable {source} {w w' w'' : BscWrite}

theorem Advances.trans (first : Advances source w w') (second : Advances source w' w'') :
    Advances source w w'' := by
  obtain ⟨count, new, sent, remain, trace, sends⟩ := first
  obtain ⟨more, added, sent', remain', trace', sends'⟩ := second
  refine ⟨count + more, new ++ added, by omega, by omega, ?_, ?_⟩
  · rw [trace', trace, List.append_assoc]
  · exact sends.append (sent ▸ sends')

/-- Accesses that move no byte. -/
theorem Advances.idle {new : List BscAccess} (idle : Idle new) (sent : w'.sent = w.sent)
    (remain : w'.remain = w.remain) (trace : w'.bsc.trace = w.bsc.trace ++ new) :
    Advances source w w' :=
  ⟨0, new, sent, remain.symm, trace, idle.sends source w.sent⟩

theorem advances_refl (w : BscWrite) : Advances source w w :=
  .idle (show Idle [] from ⟨rfl, rfl, rfl, rfl, rfl⟩) rfl rfl (List.append_nil _).symm

theorem advances_readStatus (w : BscWrite) : Advances source w (w.readStatus input) :=
  .idle ⟨rfl, rfl, rfl, rfl, rfl⟩ rfl rfl rfl

theorem advances_countDown (w : BscWrite) : Advances source w w.countDown :=
  .idle (show Idle [] from ⟨rfl, rfl, rfl, rfl, rfl⟩) rfl rfl (List.append_nil _).symm

theorem advances_push (left : w.remain ≠ 0) : Advances source w (w.push source) :=
  ⟨1, _, rfl, (Nat.sub_add_cancel (Nat.pos_of_ne_zero left)).symm, List.append_assoc _ _ _,
    sends_one source w.sent⟩

theorem advances_prefill (rounds : Nat) (w : BscWrite) :
    Advances source w (w.prefill source rounds) := by
  induction rounds generalizing w with
  | zero => exact advances_refl w
  | succ rounds ih =>
    unfold prefill
    split
    · rename_i open_
      exact (advances_push open_.1).trans (ih _)
    · exact advances_refl w

theorem advances_fill (count : Nat) (w : BscWrite) (left : w.remain = count) :
    Advances source w (fill input source count w) := by
  induction count generalizing w with
  | zero => exact advances_refl w
  | succ count ih =>
    unfold fill
    split
    · exact advances_refl w
    · split
      · have left' : (w.readStatus input).remain ≠ 0 := by
          show w.remain ≠ 0
          omega
        refine (((advances_readStatus input w).trans (advances_push left')).trans
          (advances_countDown _)).trans (ih _ ?_)
        show w.remain - 1 = count
        omega
      · exact advances_readStatus input w

theorem advances_again (goesOn : round input source w = .again w') : Advances source w w' := by
  unfold round at goesOn
  split at goesOn
  · cases goesOn
  · split at goesOn
    · cases goesOn
    · cases goesOn
      exact ((advances_readStatus input w).trans (advances_fill input w.remain _ rfl)).trans
        (advances_countDown _)

theorem advances_done (ends : round input source w = .done w') : Advances source w w' := by
  unfold round at ends
  split at ends
  · cases ends
    exact advances_refl w
  · split at ends
    · cases ends
      exact advances_readStatus input w
    · cases ends

theorem finish_spec (w : BscWrite) :
    ∃ new, (w.finish input).2.trace = w.bsc.trace ++ new ∧ Idle new ∧ new.length ≤ 5 ∧
      ((w.finish input).1 = teeSuccess → w.remain = 0) ∧ I2cOutcome (w.finish input).1 := by
  unfold finish
  split
  rename_i res bsc tests
  split at tests
  · cases tests
    exact ⟨_, List.append_assoc _ _ _, ⟨rfl, rfl, rfl, rfl, rfl⟩, by simp,
      fun success => absurd success (show teeErrorTimeout ≠ teeSuccess by decide),
      by simp [I2cOutcome]⟩
  · obtain ⟨new, trace, outcome⟩ := w.bsc.outcome_spec input w.remain
    simp only [tests] at trace outcome
    refine ⟨new ++ [.readStatus (input.status bsc.statuses),
      .writeStatus (input.status bsc.statuses ||| bscSClear)], ?_,
      outcome.idle.append ⟨rfl, rfl, rfl, rfl, rfl⟩, ?_, ?_, outcome.i2cOutcome⟩
    · simp only [Bsc.setStatus, Bsc.readStatus, Bsc.log, trace, List.append_assoc,
        List.cons_append, List.nil_append]
    · have := outcome.length_le
      simp only [List.length_append, List.length_cons, List.length_nil]
      omega
    · rintro rfl
      exact outcome.all_of_success

/-- The state in which the loop that waits for the end begins. -/
def started (source : BscSource) (w : BscWrite) : BscWrite :=
  { w.prefill source bscFifoSize with
    bsc := (w.prefill source bscFifoSize).bsc.log (.writeControl (bscCI2cen ||| bscCSt)) }

theorem transmit_eq (rounds : Nat) (w : BscWrite) :
    transmit input source rounds w =
      (Loop.run (round input source) rounds (w.started source)).map (finish input) :=
  rfl

theorem advances_started (w : BscWrite) : Advances source w (w.started source) :=
  (advances_prefill bscFifoSize w).trans (.idle ⟨rfl, rfl, rfl, rfl, rfl⟩ rfl rfl rfl)

/-- Whatever the controller answers, a write sends an initial part of its stream, and all of
it when it succeeds. -/
theorem transmit_sends {rounds : Nat} {s : Bsc}
    (ran : transmit input source rounds w = some (res, s)) :
    I2cOutcome res ∧ ∃ count new, count ≤ w.remain ∧ (res = teeSuccess → count = w.remain) ∧
      s.trace = w.bsc.trace ++ new ∧ Sends source w.sent count new := by
  rw [transmit_eq, Option.map_eq_some_iff] at ran
  obtain ⟨last, looped, finished⟩ := ran
  have advanced : Advances source w last :=
    Loop.Returns.invariant ⟨rounds, looped⟩ (advances_started w)
      (fun _ _ advanced goesOn => advanced.trans (advances_again input goesOn))
      (fun _ _ advanced ends => advanced.trans (advances_done input ends))
  obtain ⟨count, new, -, remain, trace, sends⟩ := advanced
  obtain ⟨tests, trace', idle, -, complete, outcome⟩ := last.finish_spec input
  simp only [finished] at trace' complete outcome
  refine ⟨outcome, count, new ++ tests, by omega, ?_, ?_, ?_⟩
  · intro success
    have := complete success
    omega
  · rw [trace', trace, List.append_assoc]
  · exact sends.append (idle.sends source _)

/-! ## The bound on a write -/

/-- The fail-safe counter has not run out. -/
def Running (w : BscWrite) : Prop :=
  w.safeTimeout = false ∧ 0 < w.failSafe

/-- How many more rounds the fail-safe counter allows. -/
def allowance (w : BscWrite) : Nat :=
  if w.safeTimeout = true then 0 else w.failSafe + 1

theorem Running.allowance_eq (running : w.Running) : w.allowance = w.failSafe + 1 := by
  simp [allowance, running.1]

theorem allowance_of_timeout (timeout : w.safeTimeout = true) : w.allowance = 0 := by
  simp [allowance, timeout]

theorem countDown_timeout (timeout : w.safeTimeout = true) : w.countDown.safeTimeout = true := by
  simp [countDown, timeout]

theorem countDown_of_one_lt (timely : w.safeTimeout = false) (more : 1 < w.failSafe) :
    w.countDown.Running ∧ w.countDown.failSafe + 1 = w.failSafe := by
  have decremented : decrement w.failSafe = w.failSafe - 1 := if_neg (by omega)
  refine ⟨⟨?_, ?_⟩, ?_⟩
  · simp only [countDown, timely, decremented, Bool.false_or, beq_eq_false_iff_ne]
    omega
  · simp only [countDown, decremented]
    omega
  · simp only [countDown, decremented]
    omega

/-- The counter goes down by one, or reaches zero and stops the write. -/
theorem Running.countDown (running : w.Running) :
    (w.countDown.Running ∧ w.countDown.failSafe + 1 = w.failSafe) ∨
      w.countDown.safeTimeout = true := by
  by_cases last : w.failSafe = 1
  · right
    simp [BscWrite.countDown, decrement, last]
  · left
    have positive := running.2
    exact countDown_of_one_lt running.1 (by omega)

/-- The counter still runs, or it has stopped the write. -/
def Sound (w : BscWrite) : Prop :=
  w.Running ∨ w.safeTimeout = true

theorem Running.countDown_sound (running : w.Running) : w.countDown.Sound :=
  running.countDown.imp_left And.left

theorem Running.allowance_countDown (running : w.Running) :
    w.countDown.allowance < w.allowance := by
  rw [running.allowance_eq]
  rcases running.countDown with ⟨running', less⟩ | timeout
  · rw [running'.allowance_eq]
    omega
  · rw [allowance_of_timeout timeout]
    omega

variable (source)

/-- The accesses of a round are paid for by the fail-safe counter: three for each byte it
counts, and two for the tests that end the loops. -/
theorem fill_cost (count : Nat) (w : BscWrite) (running : w.Running) :
    (fill input source count w).countDown.Sound ∧
      (fill input source count w).countDown.bsc.trace.length +
        3 * (fill input source count w).countDown.allowance + 2 ≤
      w.bsc.trace.length + 3 * w.allowance := by
  have once := running.allowance_countDown
  induction count generalizing w with
  | zero =>
    refine ⟨running.countDown_sound, ?_⟩
    show w.bsc.trace.length + 3 * w.countDown.allowance + 2 ≤ _
    omega
  | succ count ih =>
    unfold fill
    rw [if_neg (by simp [running.1])]
    split
    · -- a byte is pushed: either the loop goes on or the counter has stopped it
      generalize pushed : (w.readStatus input).push source = w₁
      have running₁ : w₁.Running := pushed ▸ running
      have allowed : w₁.allowance = w.allowance := pushed ▸ rfl
      have longer : w₁.countDown.bsc.trace.length = w.bsc.trace.length + 3 := by
        rw [← pushed]
        simp [BscWrite.countDown, push, readStatus, Bsc.readStatus, Bsc.log]
      rcases running₁.countDown with ⟨running₂, less⟩ | timeout
      · obtain ⟨sound, cost⟩ := ih w₁.countDown running₂ running₂.allowance_countDown
        refine ⟨sound, ?_⟩
        rw [running₂.allowance_eq, longer] at cost
        rw [running.allowance_eq] at allowed ⊢
        rw [running₁.allowance_eq] at allowed
        omega
      · have stopped : fill input source count w₁.countDown = w₁.countDown := by
          cases count with
          | zero => rfl
          | succ count =>
            unfold fill
            rw [if_pos timeout]
        rw [stopped]
        have timeout' := countDown_timeout timeout
        refine ⟨.inr timeout', ?_⟩
        rw [allowance_of_timeout timeout', running.allowance_eq]
        have positive := running.2
        show w₁.countDown.bsc.trace.length + 3 * 0 + 2 ≤ _
        omega
    · have running' : (w.readStatus input).Running := running
      refine ⟨running'.countDown_sound, ?_⟩
      have once' := running'.allowance_countDown
      have longer : (w.readStatus input).countDown.bsc.trace.length =
          w.bsc.trace.length + 1 := by
        simp [BscWrite.countDown, readStatus, Bsc.readStatus]
      have allowed : (w.readStatus input).allowance = w.allowance := rfl
      omega

theorem again_cost (sound : w.Sound) (goesOn : round input source w = .again w') :
    w'.Sound ∧ w'.allowance < w.allowance ∧
      w'.bsc.trace.length + 3 * w'.allowance ≤ w.bsc.trace.length + 3 * w.allowance := by
  unfold round at goesOn
  split at goesOn
  · cases goesOn
  · rename_i timely
    have running := sound.resolve_right timely
    split at goesOn
    · cases goesOn
    · cases goesOn
      have tested : (w.readStatus input).Running := running
      have ⟨sound', cost⟩ := fill_cost input source w.remain _ tested
      have longer : (w.readStatus input).bsc.trace.length = w.bsc.trace.length + 1 := by
        simp [readStatus, Bsc.readStatus]
      have allowed : (w.readStatus input).allowance = w.allowance := rfl
      have grows : (w.readStatus input).bsc.trace.length ≤
          (fill input source w.remain (w.readStatus input)).countDown.bsc.trace.length := by
        have advanced : Advances source _ _ :=
          (advances_fill input w.remain (w.readStatus input) rfl).trans (advances_countDown _)
        obtain ⟨_, new, -, -, trace, -⟩ := advanced
        rw [trace, List.length_append]
        omega
      exact ⟨sound', by omega, by omega⟩

theorem done_cost (ends : round input source w = .done w') :
    w'.bsc.trace.length ≤ w.bsc.trace.length + 1 := by
  unfold round at ends
  split at ends
  · cases ends
    omega
  · split at ends
    · cases ends
      simp [readStatus, Bsc.readStatus]
    · cases ends

theorem prefill_cost (rounds : Nat) (w : BscWrite) :
    (w.prefill source rounds).bsc.trace.length ≤ w.bsc.trace.length + 2 * rounds ∧
      (w.prefill source rounds).safeTimeout = w.safeTimeout ∧
      (w.prefill source rounds).failSafe = w.failSafe := by
  induction rounds generalizing w with
  | zero => exact ⟨Nat.le_refl _, rfl, rfl⟩
  | succ rounds ih =>
    unfold prefill
    split
    · obtain ⟨cost, timeout, failSafe⟩ := ih (w.push source)
      refine ⟨?_, timeout, failSafe⟩
      have longer : (w.push source).bsc.trace.length = w.bsc.trace.length + 2 := by
        simp [push, Bsc.log]
      omega
    · exact ⟨by omega, rfl, rfl⟩

/-- Every write returns, and the fail-safe counter bounds its accesses. -/
theorem transmit_returns (running : w.Running) :
    ∃ rounds res s, transmit input source rounds w = some (res, s) ∧
      s.trace.length ≤ w.bsc.trace.length + 3 * w.failSafe + 42 := by
  obtain ⟨cost, timeout, failSafe⟩ := w.prefill_cost source bscFifoSize
  have running' : (w.started source).Running :=
    ⟨timeout.trans running.1, Nat.lt_of_lt_of_eq running.2 failSafe.symm⟩
  have allowed : (w.started source).allowance = w.failSafe + 1 :=
    running'.allowance_eq.trans (congrArg (· + 1) failSafe)
  have longer : (w.started source).bsc.trace.length ≤ w.bsc.trace.length + 33 := by
    simp only [started, Bsc.log, List.length_append, List.length_cons, List.length_nil,
      bscFifoSize] at cost ⊢
    omega
  obtain ⟨last, looped⟩ := Loop.returns_within (I := Sound) allowance (.inl running')
    fun _ _ sound goesOn =>
      have cost := again_cost input source sound goesOn
      ⟨cost.1, cost.2.1⟩
  have spent : last.bsc.trace.length ≤
      (w.started source).bsc.trace.length + 3 * (w.started source).allowance + 1 := by
    refine Loop.Returns.invariant (I := fun v : BscWrite => v.Sound ∧
        v.bsc.trace.length + 3 * v.allowance ≤
          (w.started source).bsc.trace.length + 3 * (w.started source).allowance)
      (Q := fun v => v.bsc.trace.length ≤
        (w.started source).bsc.trace.length + 3 * (w.started source).allowance + 1)
      ⟨_, looped⟩ ⟨.inl running', Nat.le_refl _⟩ ?_ ?_
    · rintro v v' ⟨sound, paid⟩ goesOn
      obtain ⟨sound', -, cost⟩ := again_cost input source sound goesOn
      exact ⟨sound', cost.trans paid⟩
    · rintro v v' ⟨-, paid⟩ ends
      have := done_cost input source ends
      omega
  obtain ⟨tests, trace, -, short, -, -⟩ := last.finish_spec input
  refine ⟨(w.started source).allowance + 1, (last.finish input).1, (last.finish input).2, ?_, ?_⟩
  · rw [transmit_eq, looped]
    rfl
  · rw [trace, List.length_append]
    omega

/-! ## A write that succeeds -/

/-- The inner loop sends everything that is left when the FIFO always has room. -/
theorem fill_all (count : Nat) (w : BscWrite) (left : w.remain = count)
    (timely : w.safeTimeout = false) (enough : count < w.failSafe)
    (room : ∀ i < count, input.status (w.bsc.statuses + i) &&& bscSTxd ≠ 0) :
    (fill input source count w).remain = 0 ∧
      (fill input source count w).safeTimeout = false ∧
      (fill input source count w).failSafe + count = w.failSafe ∧
      (fill input source count w).bsc.statuses = w.bsc.statuses + count := by
  induction count generalizing w with
  | zero => exact ⟨left, timely, rfl, rfl⟩
  | succ count ih =>
    unfold fill
    rw [if_neg (by simp [timely]), if_pos (show w.bsc.NextHas input bscSTxd from
      room 0 (by omega))]
    obtain ⟨running, less⟩ := countDown_of_one_lt (w := (w.readStatus input).push source)
      timely (show 1 < w.failSafe by omega)
    change _ + 1 = w.failSafe at less
    have enough' : count < ((w.readStatus input).push source).countDown.failSafe := by
      omega
    have left' : ((w.readStatus input).push source).countDown.remain = count := by
      show w.remain - 1 = count
      omega
    have read : ((w.readStatus input).push source).countDown.bsc.statuses =
        w.bsc.statuses + 1 :=
      rfl
    obtain ⟨none, timely', spent, read'⟩ := ih _ left' running.1 enough' (by
      intro i bound
      rw [read, Nat.add_assoc, Nat.add_comm 1 i]
      exact room (i + 1) (by omega))
    exact ⟨none, timely', by omega, by omega⟩

theorem prefill_statuses (rounds : Nat) (w : BscWrite) :
    (w.prefill source rounds).bsc.statuses = w.bsc.statuses := by
  induction rounds generalizing w with
  | zero => rfl
  | succ rounds ih =>
    unfold prefill
    split
    · exact ih (w.push source)
    · rfl

theorem prefill_remain (rounds : Nat) (w : BscWrite) :
    (w.prefill source rounds).remain = w.remain - min rounds (bscFifoSize - w.sent) := by
  induction rounds generalizing w with
  | zero => simp [prefill]
  | succ rounds ih =>
    unfold prefill
    split
    · rename_i room
      rw [ih]
      simp only [push]
      omega
    · omega

/-- A controller that takes `count` bytes and is then done, from the status read at
`position` on. -/
def taking (position count : Nat) : BscInput where
  control _ := 0
  status k := if k ≤ position + count then bscSTxd else bscSDone
  fifo _ := 0
  clock _ := 0

theorem taking_room {position k : Nat} (bound : k ≤ position + count) :
    (taking position count).status k = bscSTxd :=
  if_pos bound

theorem taking_done {position k : Nat} (bound : position + count < k) :
    (taking position count).status k = bscSDone :=
  if_neg (by omega)

/-- The first round sends what is left. -/
theorem round_taking {v : BscWrite} (timely : v.safeTimeout = false)
    (enough : v.remain + 1 < v.failSafe) :
    ∃ u, round (taking v.bsc.statuses v.remain) source v = .again u ∧ u.remain = 0 ∧
      u.safeTimeout = false ∧ u.bsc.statuses = v.bsc.statuses + v.remain + 1 := by
  have room : ∀ i < v.remain,
      (taking v.bsc.statuses v.remain).status (v.bsc.statuses + 1 + i) &&& bscSTxd ≠ 0 := by
    intro i bound
    rw [taking_room (by omega)]
    decide
  have waiting : ¬v.bsc.NextHas (taking v.bsc.statuses v.remain) bscSDone := by
    rw [not_not, taking_room (by omega)]
    decide
  generalize taking v.bsc.statuses v.remain = input at *
  obtain ⟨none, timely', spent, read⟩ := fill_all input source v.remain (v.readStatus input)
    rfl timely (show v.remain < v.failSafe by omega) room
  change _ + v.remain = v.failSafe at spent
  change _ = v.bsc.statuses + 1 + v.remain at read
  refine ⟨(fill input source v.remain (v.readStatus input)).countDown, ?_, none,
    (countDown_of_one_lt timely' (by omega)).1.1, ?_⟩
  · unfold round
    rw [if_neg (by simp [timely]), if_neg waiting]
  · show (fill input source v.remain (v.readStatus input)).bsc.statuses = _
    omega

/-- The controller with which a write succeeds: it takes what does not fit the FIFO. -/
def taker (sent remain statuses : Nat) : BscInput :=
  taking statuses (remain - (bscFifoSize - sent))

theorem transmit_succeeds (timely : w.safeTimeout = false) (enough : w.remain + 1 < w.failSafe) :
    ∃ s, transmit (taker w.sent w.remain w.bsc.statuses) source 2 w = some (teeSuccess, s) := by
  have rest : taker w.sent w.remain w.bsc.statuses =
      taking (w.started source).bsc.statuses (w.started source).remain := by
    rw [show (w.started source).bsc.statuses = w.bsc.statuses from
      w.prefill_statuses source bscFifoSize, show (w.started source).remain = _ from
      w.prefill_remain source bscFifoSize, Nat.min_eq_right (Nat.sub_le _ _)]
    rfl
  rw [rest]
  obtain ⟨-, timeout, failSafe⟩ := w.prefill_cost source bscFifoSize
  have advanced : Advances source w (w.started source) := advances_started w
  obtain ⟨_, _, -, fewer, -, -⟩ := advanced
  have failSafe' : (w.started source).failSafe = w.failSafe := failSafe
  have timely' : (w.started source).safeTimeout = false := timeout.trans timely
  generalize started_eq : w.started source = v at *
  obtain ⟨u, first, none, timely'', read⟩ := round_taking source timely' (by omega)
  have later (k : Nat) :
      (taking v.bsc.statuses v.remain).status (u.bsc.statuses + k) = bscSDone :=
    taking_done (by omega)
  generalize taking v.bsc.statuses v.remain = input at *
  -- the second round finds the transfer done, and the tests at the end no error
  have second : round input source u = .done (u.readStatus input) := by
    unfold round
    rw [if_neg (by simp [timely'']), if_pos]
    show input.status (u.bsc.statuses + 0) &&& bscSDone ≠ 0
    rw [later]
    decide
  have clean : ((u.readStatus input).finish input).1 = teeSuccess := by
    have passed : ((u.readStatus input).bsc.outcome input 0).1 = teeSuccess := by
      refine Bsc.outcome_clear input ?_ ?_
      · show ¬input.status (u.bsc.statuses + 1) &&& bscSErr ≠ 0
        rw [later]
        decide
      · show ¬input.status (u.bsc.statuses + 2) &&& bscSClkt ≠ 0
        rw [later]
        decide
    unfold finish
    rw [if_neg (by show ¬u.safeTimeout = true; simp [timely''])]
    show ((u.readStatus input).bsc.outcome input u.remain).1 = teeSuccess
    rw [none]
    exact passed
  refine ⟨((u.readStatus input).finish input).2, ?_⟩
  rw [transmit_eq, started_eq, Loop.run_again first, Loop.run_done second, Option.map_some, ← clean]

end BscWrite

/-! ## `i2c_write_bytes` -/

/-- The loads of `new` stay below `n`, the bytes pushed after the address are an initial
part of the data, and on success they are all of it, as many as the length register said. -/
structure WritesData (data : Nat → Byte) (n addressBytes : Nat) (res : TeeResult)
    (new : List BscAccess) : Prop where
  inside : ∀ index, .load index ∈ new → index < n
  ordered : (pushes new).drop addressBytes <+: (List.range n).map data
  complete : res = teeSuccess → (pushes new).drop addressBytes = (List.range n).map data ∧
    lengths new = [BitVec.ofNat 32 (pushes new).length]

namespace Bsc

variable (input : BscInput) (rounds : Nat) (dev : BitVec 8) (addr : BitVec 16)
  (data : Nat → Byte) (len : BitVec 16) (flags : BitVec 8) (s : Bsc)

theorem i2cWriteBytes_rejected (rejected : i2cNum ≤ dev.toNat ∨ len = 0 ∨
      (len = 0xFFFF ∧ flags &&& i2cAddr10 ≠ 0)) :
    i2cWriteBytes input rounds dev addr (some data) len flags s =
      some (teeErrorBadParameters, s) := by
  simp only [i2cWriteBytes, if_pos rejected]

theorem i2cWriteBytes_addr7 (bus : dev.toNat < i2cNum) (nonempty : len ≠ 0)
    (addr7 : flags &&& i2cAddr10 = 0) :
    i2cWriteBytes input rounds dev addr (some data) len flags s =
      BscWrite.transmit input (plainSource data) rounds
        ⟨0, len.toNat, len.toNat * 10000, false,
          (s.clearUnlessCont input flags).select (len.setWidth 32) addr⟩ := by
  have accepted : ¬(i2cNum ≤ dev.toNat ∨ len = 0 ∨ (len = 0xFFFF ∧ flags &&& i2cAddr10 ≠ 0)) := by
    rintro (absent | empty | ⟨-, addr10⟩)
    · omega
    · exact nonempty empty
    · exact addr10 addr7
  simp only [i2cWriteBytes, if_neg accepted, if_neg (not_not.mpr addr7)]

theorem i2cWriteBytes_addr10 (bus : dev.toNat < i2cNum) (nonempty : len ≠ 0)
    (fits : len ≠ 0xFFFF) (addr10 : flags &&& i2cAddr10 ≠ 0) :
    i2cWriteBytes input rounds dev addr (some data) len flags s =
      BscWrite.transmit input (plainSource data) rounds
        ⟨1, len.toNat, len.toNat * 10000, false,
          (s.clearUnlessCont input flags).select10 len addr⟩ := by
  have accepted : ¬(i2cNum ≤ dev.toNat ∨ len = 0 ∨ (len = 0xFFFF ∧ flags &&& i2cAddr10 ≠ 0)) := by
    rintro (absent | empty | ⟨full, -⟩)
    · omega
    · exact nonempty empty
    · exact fits full
  simp only [i2cWriteBytes, if_neg accepted, if_pos addr10]

variable {input rounds dev addr data len flags s}

/-- What a write to a 7-bit address sends. -/
theorem select_sends {dlen : BitVec 32} {s' : Bsc} (ran : BscWrite.transmit input source rounds
      ⟨0, remain, failSafe, false, (s.clearUnlessCont input flags).select dlen addr⟩ =
        some (res, s')) :
    ∃ count new, count ≤ remain ∧ (res = teeSuccess → count = remain) ∧
      s'.trace = s.trace ++ new ∧ pushes new = (List.range count).map source.byte ∧
      loads new = (List.range count).map source.load ∧ lengths new = [dlen] := by
  obtain ⟨-, count, sent, fewer, complete, trace, sends⟩ := BscWrite.transmit_sends input ran
  obtain ⟨cleared, trace', idle, -⟩ := s.clearUnlessCont_idle input flags
  obtain ⟨opened, trace'', pushed, loaded, sized, -⟩ :=
    (s.clearUnlessCont input flags).select_trace dlen addr
  refine ⟨count, cleared ++ opened ++ sent, fewer, complete, ?_, ?_, ?_, ?_⟩
  · rw [trace, trace'', trace', List.append_assoc, List.append_assoc, List.append_assoc]
  · rw [List.range_eq_range', pushes_append, pushes_append, idle.pushed, pushed, sends.pushed]
    rfl
  · rw [List.range_eq_range', loads_append, loads_append, idle.loaded, loaded, sends.loaded]
    rfl
  · rw [lengths_append, lengths_append, idle.sized, sized, sends.sized]
    rfl

/-- What a write to a 10-bit address sends: the stream begins with the second byte. -/
theorem select10_sends {s' : Bsc} (ran : BscWrite.transmit input source rounds
      ⟨1, remain, failSafe, false, (s.clearUnlessCont input flags).select10 len addr⟩ =
        some (res, s')) :
    ∃ count new, (res = teeSuccess → count = remain) ∧ s'.trace = s.trace ++ new ∧
      loads new = (List.range' 1 count).map source.load := by
  obtain ⟨-, count, sent, -, complete, trace, sends⟩ := BscWrite.transmit_sends input ran
  obtain ⟨cleared, trace', idle, -⟩ := s.clearUnlessCont_idle input flags
  obtain ⟨opened, trace'', -, loaded, -⟩ := (s.clearUnlessCont input flags).select10_trace len addr
  refine ⟨count, cleared ++ opened ++ sent, complete, ?_, ?_⟩
  · rw [trace, trace'', trace', List.append_assoc, List.append_assoc, List.append_assoc]
  · rw [loads_append, loads_append, idle.loaded, loaded, sends.loaded]
    rfl

/-- A write to a 7-bit address returns. -/
theorem select_returns (input : BscInput) (source : BscSource) (addr : BitVec 16) (flags : BitVec 8)
    (s : Bsc) (dlen : BitVec 32) (positive : 0 < failSafe) :
    ∃ rounds res s', BscWrite.transmit input source rounds
        ⟨0, remain, failSafe, false, (s.clearUnlessCont input flags).select dlen addr⟩ =
          some (res, s') ∧
      s'.trace.length ≤ s.trace.length + (3 * failSafe + 48) := by
  obtain ⟨cleared, trace, -, short⟩ := s.clearUnlessCont_idle input flags
  obtain ⟨opened, trace', -, -, -, -, -, two⟩ :=
    (s.clearUnlessCont input flags).select_trace dlen addr
  obtain ⟨rounds, res, s', ran, bound⟩ := BscWrite.transmit_returns input source
    (w := ⟨0, remain, failSafe, false, (s.clearUnlessCont input flags).select dlen addr⟩)
    ⟨rfl, positive⟩
  refine ⟨rounds, res, s', ran, ?_⟩
  simp only [trace', trace, List.length_append, two] at bound
  omega

/-- A write to a 10-bit address returns. -/
theorem select10_returns (input : BscInput) (source : BscSource) (len addr : BitVec 16)
    (flags : BitVec 8) (s : Bsc) (positive : 0 < failSafe) :
    ∃ rounds res s', BscWrite.transmit input source rounds
        ⟨1, remain, failSafe, false, (s.clearUnlessCont input flags).select10 len addr⟩ =
          some (res, s') ∧
      s'.trace.length ≤ s.trace.length + (3 * failSafe + 48) := by
  obtain ⟨cleared, trace, -, short⟩ := s.clearUnlessCont_idle input flags
  obtain ⟨opened, trace', -, -, -, three⟩ := (s.clearUnlessCont input flags).select10_trace len addr
  obtain ⟨rounds, res, s', ran, bound⟩ := BscWrite.transmit_returns input source
    (w := ⟨1, remain, failSafe, false, (s.clearUnlessCont input flags).select10 len addr⟩)
    ⟨rfl, positive⟩
  refine ⟨rounds, res, s', ran, ?_⟩
  simp only [trace', trace, List.length_append, three] at bound
  omega

theorem mem_of_loads {loaded : List Nat} (loads_eq : loads accesses = loaded.map .load)
    (index : Nat) :
    .load index ∈ accesses ↔ index ∈ loaded := by
  have member : .load index ∈ accesses ↔ .load index ∈ loads accesses := by
    simp [loads, BscAccess.isLoad]
  rw [member, loads_eq]
  simp

theorem writesData_of_sends {new : List BscAccess} (fewer : count ≤ len.toNat)
    (complete : res = teeSuccess → count = len.toNat)
    (pushed : pushes new = (List.range count).map data)
    (loaded : loads new = (List.range count).map .load) (sized : lengths new = [len.setWidth 32]) :
    WritesData data len.toNat 0 res new where
  inside index member := by
    have below := List.mem_range.mp ((mem_of_loads loaded index).mp member)
    omega
  ordered := by
    rw [List.drop_zero, pushed]
    apply List.IsPrefix.map
    rw [show List.range count = (List.range len.toNat).take count by
      rw [List.take_range, Nat.min_eq_left fewer]]
    exact List.take_prefix _ _
  complete success := by
    obtain rfl := complete success
    rw [List.drop_zero, pushed, sized, List.length_map, List.length_range, BitVec.ofNat_toNat]
    exact ⟨rfl, rfl⟩

/-- With a controller that takes all it is given, a write to a 7-bit address succeeds. -/
theorem i2cWriteBytes_succeeds (bus : dev.toNat < i2cNum) (nonempty : len ≠ 0)
    (addr7 : flags &&& i2cAddr10 = 0) :
    ∃ input s', i2cWriteBytes input 2 dev addr (some data) len flags s =
      some (teeSuccess, s') := by
  have positive : len.toNat ≠ 0 := fun zero => nonempty (BitVec.eq_of_toNat_eq zero)
  let input := BscWrite.taker 0 len.toNat s.statuses
  obtain ⟨s', ran⟩ := BscWrite.transmit_succeeds (plainSource data) (w := ⟨0, len.toNat,
    len.toNat * 10000, false, (s.clearUnlessCont input flags).select (len.setWidth 32) addr⟩) rfl
    (show len.toNat + 1 < len.toNat * 10000 by omega)
  rw [show ((s.clearUnlessCont input flags).select (len.setWidth 32) addr).statuses = s.statuses
    from clearUnlessCont_statuses input flags s] at ran
  refine ⟨input, s', ?_⟩
  exact (i2cWriteBytes_addr7 input 2 dev addr data len flags s bus nonempty addr7).trans ran

/-- With a controller that takes all it is given, a write to a 10-bit address loads the byte
after its data. -/
theorem i2cWriteBytes_past (bus : dev.toNat < i2cNum) (nonempty : len ≠ 0)
    (fits : len ≠ 0xFFFF) (addr10 : flags &&& i2cAddr10 ≠ 0) :
    ∃ input s' new, i2cWriteBytes input 2 dev addr (some data) len flags s =
      some (teeSuccess, s') ∧ s'.trace = s.trace ++ new ∧ .load len.toNat ∈ new := by
  have positive : len.toNat ≠ 0 := fun zero => nonempty (BitVec.eq_of_toNat_eq zero)
  let input := BscWrite.taker 1 len.toNat s.statuses
  obtain ⟨s', ran⟩ := BscWrite.transmit_succeeds (plainSource data) (w := ⟨1, len.toNat,
    len.toNat * 10000, false, (s.clearUnlessCont input flags).select10 len addr⟩) rfl
    (show len.toNat + 1 < len.toNat * 10000 by omega)
  rw [show ((s.clearUnlessCont input flags).select10 len addr).statuses = s.statuses from
    clearUnlessCont_statuses input flags s] at ran
  obtain ⟨count, new, complete, trace, loaded⟩ := select10_sends ran
  refine ⟨input, s', new, ?_, trace, ?_⟩
  · exact (i2cWriteBytes_addr10 input 2 dev addr data len flags s bus nonempty fits addr10).trans
      ran
  · rw [mem_of_loads loaded, List.mem_range'_1, complete rfl]
    omega

/-- `i2c_write_bytes` sends its data exactly as it was given, for every controller, except
to a 10-bit address: there the stream begins at the second byte and reads past the end. -/
theorem i2cWriteBytes_stream_iff (dev : BitVec 8) (addr : BitVec 16) (data : Nat → Byte)
    (len : BitVec 16) (flags : BitVec 8) (s : Bsc) :
    (∀ input rounds res s',
        i2cWriteBytes input rounds dev addr (some data) len flags s = some (res, s') →
        ∃ new, s'.trace = s.trace ++ new ∧
          WritesData data len.toNat (if flags &&& i2cAddr10 = 0 then 0 else 2) res new) ↔
      i2cNum ≤ dev.toNat ∨ len = 0 ∨ len = 0xFFFF ∨ flags &&& i2cAddr10 = 0 := by
  constructor
  · intro streams
    by_contra accepted
    simp only [not_or, Nat.not_le] at accepted
    obtain ⟨bus, nonempty, fits, addr10⟩ := accepted
    obtain ⟨input, s', new, ran, trace, past⟩ := i2cWriteBytes_past bus nonempty fits addr10
    obtain ⟨new', trace', writes⟩ := streams input 2 teeSuccess s' ran
    obtain rfl : new = new' := List.append_cancel_left (trace.symm.trans trace')
    exact Nat.lt_irrefl _ (writes.inside len.toNat past)
  · rintro condition input rounds res s' ran
    by_cases rejected : i2cNum ≤ dev.toNat ∨ len = 0 ∨ (len = 0xFFFF ∧ flags &&& i2cAddr10 ≠ 0)
    · rw [i2cWriteBytes_rejected input rounds dev addr data len flags s rejected] at ran
      cases ran
      refine ⟨[], (List.append_nil _).symm, fun _ member => absurd member List.not_mem_nil, ?_,
        fun success => absurd success (by decide)⟩
      rw [show pushes [] = [] from rfl, List.drop_nil]
      exact List.nil_prefix
    · simp only [not_or, not_and, not_not, Nat.not_le] at rejected
      obtain ⟨bus, nonempty, fits⟩ := rejected
      have addr7 : flags &&& i2cAddr10 = 0 := by
        rcases condition with absent | empty | full | addr7
        · omega
        · exact absurd empty nonempty
        · exact fits full
        · exact addr7
      rw [i2cWriteBytes_addr7 input rounds dev addr data len flags s bus nonempty addr7] at ran
      obtain ⟨count, new, fewer, complete, trace, pushed, loaded, sized⟩ := select_sends ran
      rw [if_pos addr7]
      exact ⟨new, trace, writesData_of_sends fewer complete pushed loaded sized⟩

/-- A write of one byte to the 10-bit address `0x150` on bus 0: the byte after the data goes
out instead of the data, and three bytes are pushed where the length register says two. -/
theorem i2cWriteBytes_addr10_skips_first :
    ∃ s', i2cWriteBytes (BscWrite.taking 0 0) 2 0 0x150 (some fun i => BitVec.ofNat 8 (7 + i)) 1
        i2cAddr10 ⟨0, 0, 0, 0, []⟩ = some (teeSuccess, s') ∧
      .load 1 ∈ s'.trace ∧ pushes s'.trace = [0x50, 0x79, 8] ∧ lengths s'.trace = [2] := by
  refine ⟨_, rfl, ?_, ?_, ?_⟩ <;> decide

/-! ## `i2c_write_with_prefix` -/

theorem i2cWriteWithPrefix_addr7 (input : BscInput) (rounds : Nat) (addr : BitVec 16)
    (head : Nat → Byte) (headLen : BitVec 16) (data : Nat → Byte) (s : Bsc)
    (bus : dev.toNat < i2cNum) (nonempty : len ≠ 0) (addr7 : flags &&& i2cAddr10 = 0) :
    i2cWriteWithPrefix input rounds dev addr (some head) headLen (some data) len flags s =
      BscWrite.transmit input (prefixedSource head headLen.toNat data) rounds
        ⟨0, (headLen + len).toNat, (headLen.toNat + len.toNat) * 10000, false,
          (s.clearUnlessCont input flags).select (headLen.setWidth 32 + len.setWidth 32) addr⟩ := by
  have accepted : ¬(i2cNum ≤ dev.toNat ∨ len = 0 ∨ (len = 0xFFFF ∧ flags &&& i2cAddr10 ≠ 0)) := by
    rintro (absent | empty | ⟨-, addr10⟩)
    · omega
    · exact nonempty empty
    · exact addr10 addr7
  simp only [i2cWriteWithPrefix, if_neg accepted, if_neg (not_not.mpr addr7)]

/-- The calls `i2c_write_with_prefix` answers without a transfer. -/
theorem i2cWriteWithPrefix_refused (input : BscInput) (rounds : Nat) (addr : BitVec 16)
    (head : Option (Nat → Byte)) (headLen : BitVec 16) (data : Option (Nat → Byte)) (s : Bsc)
    (refused : head = none ∨ data = none ∨ i2cNum ≤ dev.toNat ∨ len = 0 ∨
      flags &&& i2cAddr10 ≠ 0) :
    ∃ res, res ≠ teeSuccess ∧
      i2cWriteWithPrefix input rounds dev addr head headLen data len flags s = some (res, s) := by
  rcases head with _ | head
  · exact ⟨teeErrorBadParameters, by decide, rfl⟩
  · rcases data with _ | data
    · exact ⟨teeErrorBadParameters, by decide, rfl⟩
    · by_cases rejected : i2cNum ≤ dev.toNat ∨ len = 0 ∨ (len = 0xFFFF ∧ flags &&& i2cAddr10 ≠ 0)
      · refine ⟨teeErrorBadParameters, by decide, ?_⟩
        simp only [i2cWriteWithPrefix, if_pos rejected]
      · refine ⟨teeErrorNotImplemented, by decide, ?_⟩
        have addr10 : flags &&& i2cAddr10 ≠ 0 := by
          rcases refused with none | none | absent | empty | addr10
          · cases none
          · cases none
          · exact absurd (.inl absent) rejected
          · exact absurd (.inr (.inl empty)) rejected
          · exact addr10
        simp only [i2cWriteWithPrefix, if_neg rejected, if_pos addr10]

/-! ## Writes return -/

section Returns

variable (input : BscInput) (dev : BitVec 8) (addr : BitVec 16) (data : Option (Nat → Byte))
  (len : BitVec 16) (flags : BitVec 8) (s : Bsc)

theorem toNat_pos_of_ne_zero {width : Nat} {value : BitVec width} (nonzero : value ≠ 0) :
    0 < value.toNat :=
  Nat.pos_of_ne_zero fun zero => nonzero (BitVec.eq_of_toNat_eq (by simpa using zero))

theorem i2cWriteBytes_returns :
    ∃ rounds res s', i2cWriteBytes input rounds dev addr data len flags s = some (res, s') ∧
      s'.trace.length ≤ s.trace.length + (30000 * len.toNat + 48) := by
  rcases data with _ | data
  · exact ⟨0, _, s, rfl, by omega⟩
  · by_cases rejected : i2cNum ≤ dev.toNat ∨ len = 0 ∨ (len = 0xFFFF ∧ flags &&& i2cAddr10 ≠ 0)
    · exact ⟨0, _, s, i2cWriteBytes_rejected input 0 dev addr data len flags s rejected, by omega⟩
    · simp only [not_or, not_and, not_not, Nat.not_le] at rejected
      obtain ⟨bus, nonempty, fits⟩ := rejected
      have positive : 0 < len.toNat * 10000 := Nat.mul_pos (toNat_pos_of_ne_zero nonempty)
        (by decide)
      by_cases addr7 : flags &&& i2cAddr10 = 0
      · obtain ⟨rounds, res, s', ran, bound⟩ := select_returns input
          (plainSource data) addr flags s (len.setWidth 32) positive
        refine ⟨rounds, res, s', ?_, by omega⟩
        rw [i2cWriteBytes_addr7 input rounds dev addr data len flags s bus nonempty addr7, ran]
      · obtain ⟨rounds, res, s', ran, bound⟩ := select10_returns input
          (plainSource data) len addr flags s positive
        refine ⟨rounds, res, s', ?_, by omega⟩
        rw [i2cWriteBytes_addr10 input rounds dev addr data len flags s bus nonempty
          (fun full => addr7 (fits full)) addr7, ran]

theorem i2cWriteWithPrefix_returns (head : Option (Nat → Byte)) (headLen : BitVec 16) :
    ∃ rounds res s', i2cWriteWithPrefix input rounds dev addr head headLen data len flags s =
        some (res, s') ∧
      s'.trace.length ≤ s.trace.length + (30000 * (headLen.toNat + len.toNat) + 48) := by
  by_cases refused : head = none ∨ data = none ∨ i2cNum ≤ dev.toNat ∨ len = 0 ∨
      flags &&& i2cAddr10 ≠ 0
  · obtain ⟨res, -, ran⟩ := i2cWriteWithPrefix_refused input 0 addr head headLen data s refused
    exact ⟨0, res, s, ran, by omega⟩
  · simp only [not_or, not_not, Nat.not_le, Option.ne_none_iff_exists'] at refused
    obtain ⟨⟨head, rfl⟩, ⟨data, rfl⟩, bus, nonempty, addr7⟩ := refused
    have positive : 0 < (headLen.toNat + len.toNat) * 10000 :=
      Nat.mul_pos (Nat.add_pos_right _ (toNat_pos_of_ne_zero nonempty)) (by decide)
    obtain ⟨rounds, res, s', ran, bound⟩ := select_returns input
      (prefixedSource head headLen.toNat data) addr flags s
      (headLen.setWidth 32 + len.setWidth 32) positive
    refine ⟨rounds, res, s', ?_, by omega⟩
    rw [i2cWriteWithPrefix_addr7 input rounds addr head headLen data s bus nonempty addr7, ran]

end Returns

end Bsc

end TrustWasm.Drivers
