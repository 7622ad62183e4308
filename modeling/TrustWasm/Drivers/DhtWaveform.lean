import Mathlib.Data.Finset.Card
import TrustWasm.Drivers.DhtLine

/-!
# Decoding the waveform of the DHT sensor

The data pin has a level at every instant.  A poll of a wait loop takes one unit of time, a
delay as many units as it says, and a sample none.  A bit is a low phase and a high phase, and
a high phase that outlasts the delay after it was detected is a one.  The decoder resets its
wait budget before it waits for a high level only, so that the polls of that wait are missing
when it waits for the end of the high phase; and it sees a zero only when the next high phase
has not begun at the sample.  The waveforms it decodes are described by these two conditions.
-/

namespace TrustWasm.Drivers.Dht

open TrustWasm.Lib TrustWasm.Tee

/-- `_busy_wait_read` on the line. -/
def busyWaitReadLine : Program Line (TeeResult × Frame) :=
  (fun received => (received.1, frameOf received.2)) <$> receive 40 spinTimeoutUs

theorem translate_busyWaitReadLine (pin : BitVec 32) :
    busyWaitReadLine.translate (onPin pin) = busyWaitRead pin := by
  rw [busyWaitRead_eq, busyWaitReadLine, map_eq_pure_bind, Program.translate_bind, map_eq_pure_bind]
  rfl

/-- What `gpio_get` answers at a level. -/
def levelValue (high : Bool) : Int :=
  if high then 1 else 0

/-- The line with a level at every instant; the state is the time. -/
def waveSemantics (level : Nat → Bool) : Semantics Line Nat where
  guard _ _ := True
  step now op reply after :=
    match op, reply with
    | .poll, (value : Int) => value = levelValue (level now) ∧ after = now + 1
    | .sample, (value : Int) => value = levelValue (level now) ∧ after = now
    | .udelay us, _ => after = now + us

section Decoder

variable {level : Nat → Bool}

/-! ## Waits -/

section Wait

/-- A wait loop with the test `keep` goes on at the level `through`. -/
def Keeps (keep : Int → Bool) (through : Bool) : Prop :=
  ∀ high, keep (levelValue high) = (high == through)

variable {keep : Int → Bool} {through : Bool} (keeps : Keeps keep through)
  {timeOut left now after : Nat}

include keeps

theorem exec_wait_succ :
    (wait keep (timeOut + 1)).Exec (waveSemantics level) now left after ↔
      if level now = through then
        (wait keep timeOut).Exec (waveSemantics level) (now + 1) left after
      else left = timeOut + 1 ∧ after = now + 1 := by
  have step : (wait keep (timeOut + 1)).Exec (waveSemantics level) now left after ↔
      (ite (keep (levelValue (level now)) = true) (wait keep timeOut) (.pure (timeOut + 1)) :
        Program Line Nat).Exec (waveSemantics level) (now + 1) left after := by
    constructor
    · rintro ⟨_, _, ⟨rfl, rfl⟩, run⟩
      exact run
    · intro run
      exact ⟨_, _, ⟨rfl, rfl⟩, run⟩
  rw [step, keeps]
  by_cases held : level now = through
  · rw [if_pos (by simpa using held), if_pos held]
  · rw [if_neg (by simpa using held), if_neg held]
    rfl

/-- A wait through `held` units ends at the first unit of the other level. -/
theorem exec_wait_iff {held : Nat} (short : held < timeOut)
    (during : ∀ u < held, level (now + u) = through) (ends : level (now + held) ≠ through) :
    (wait keep timeOut).Exec (waveSemantics level) now left after ↔
      left = timeOut - held ∧ after = now + held + 1 := by
  induction held generalizing now timeOut with
  | zero =>
    obtain ⟨timeOut, rfl⟩ : ∃ more, timeOut = more + 1 := ⟨timeOut - 1, by omega⟩
    have here : level now ≠ through := ends
    rw [exec_wait_succ keeps, if_neg here]
    rfl
  | succ held ih =>
    obtain ⟨timeOut, rfl⟩ : ∃ more, timeOut = more + 1 := ⟨timeOut - 1, by omega⟩
    have rest : ∀ u < held, level (now + 1 + u) = through := fun u below => by
      rw [Nat.add_right_comm, Nat.add_assoc]
      exact during (u + 1) (by omega)
    have here : level now = through := during 0 (by omega)
    rw [exec_wait_succ keeps, if_pos here,
      ih (by omega) rest (by rwa [Nat.add_right_comm, Nat.add_assoc])]
    constructor
    · rintro ⟨rfl, rfl⟩
      omega
    · rintro ⟨rfl, rfl⟩
      omega

/-- A wait that runs out of time. -/
theorem exec_wait_late (during : ∀ u < timeOut, level (now + u) = through)
    (run : (wait keep timeOut).Exec (waveSemantics level) now left after) : left = 0 := by
  induction timeOut generalizing now with
  | zero => exact run.1
  | succ timeOut ih =>
    have here : level now = through := during 0 (by omega)
    rw [exec_wait_succ keeps, if_pos here] at run
    refine ih (fun u below => ?_) run
    rw [Nat.add_right_comm, Nat.add_assoc]
    exact during (u + 1) (by omega)

/-- A wait that does not run out of time has seen the other level. -/
theorem exec_wait_found (found : left ≠ 0)
    (run : (wait keep timeOut).Exec (waveSemantics level) now left after) :
    ∃ t, now ≤ t ∧ level t ≠ through ∧ after = t + 1 := by
  induction timeOut generalizing now with
  | zero => exact absurd run.1 found
  | succ timeOut ih =>
    rw [exec_wait_succ keeps] at run
    split at run
    · obtain ⟨t, later, seen, rfl⟩ := ih run
      exact ⟨t, by omega, seen, rfl⟩
    · rename_i seen
      exact ⟨now, Nat.le_refl _, seen, run.2⟩

end Wait

theorem keeps_high : Keeps (· != 0) true := by
  rintro (_ | _) <;> rfl

theorem keeps_low : Keeps (· == 0) false := by
  rintro (_ | _) <;> rfl

/-! ## One bit -/

variable {now after lead low count timeOut : Nat} {res : TeeResult} {bits : List Bool}

theorem levelValue_beq_one (high : Bool) : (levelValue high == 1) = high := by
  cases high <;> rfl

/-- The reception of a bit: a wait for low, a wait for high, and the sample after the delay. -/
theorem exec_receive_succ :
    (receive (count + 1) timeOut).Exec (waveSemantics level) now (res, bits) after ↔
      ∃ high begun, (wait (· != 0) timeOut).Exec (waveSemantics level) now high begun ∧
        if high = 0 then res = teeErrorTimeout ∧ bits = [] ∧ after = begun else
          ∃ left ended, (wait (· == 0) spinTimeoutUs).Exec (waveSemantics level) begun left ended ∧
            if left = 0 then res = teeErrorTimeout ∧ bits = [] ∧ after = ended else
              ∃ rest, bits = level (ended + readThreshold) :: rest ∧
                (receive count left).Exec (waveSemantics level) (ended + readThreshold) (res, rest)
                  after := by
  refine Program.exec_bind.trans
    (exists_congr fun high => exists_congr fun begun => and_congr_right fun _ => ?_)
  by_cases late : high = 0
  · rw [if_pos late, if_pos late]
    simp only [Program.pure_eq, Program.exec_pure, Prod.mk.injEq, and_assoc]
  · rw [if_neg late, if_neg late]
    refine Program.exec_bind.trans
      (exists_congr fun left => exists_congr fun ended => and_congr_right fun _ => ?_)
    by_cases late : left = 0
    · rw [if_pos late, if_pos late]
      simp only [Program.pure_eq, Program.exec_pure, Prod.mk.injEq, and_assoc]
    · rw [if_neg late, if_neg late]
      constructor
      · rintro ⟨paused, _, rfl, value, _, ⟨rfl, rfl⟩, run⟩
        obtain ⟨_, _, ⟨rfl, rfl⟩, run⟩ := Program.exec_bind.mp run
        obtain ⟨⟨res', rest⟩, _, received, same, rfl⟩ := Program.exec_bind.mp run
        obtain ⟨rfl, rfl⟩ := Prod.mk.inj same
        exact ⟨rest, congrArg (· :: rest) (levelValue_beq_one _), received⟩
      · rintro ⟨rest, rfl, run⟩
        refine ⟨(), _, rfl, _, _, ⟨rfl, rfl⟩, ?_⟩
        refine Program.exec_bind.mpr ⟨_, _, ⟨rfl, rfl⟩, ?_⟩
        refine Program.exec_bind.mpr ⟨_, _, run, ?_, rfl⟩
        exact congrArg (fun bit => (res, bit :: rest)) (levelValue_beq_one _).symm

/-- From `now` on the line is high for `lead` units, then low for `low` units, and then high. -/
structure Opens (level : Nat → Bool) (now lead low : Nat) : Prop where
  isHigh : ∀ u < lead, level (now + u) = true
  isLow : ∀ u < low, level (now + lead + u) = false
  rises : level (now + lead + low) = true

/-- The decoder samples a bit 41 units after the rise and has lost the polls before the rise. -/
theorem exec_receive_iff (opens : Opens level now lead low) (early : lead < timeOut)
    (positive : 0 < low) (short : low ≤ spinTimeoutUs) :
    (receive (count + 1) timeOut).Exec (waveSemantics level) now (res, bits) after ↔
      ∃ rest, bits = level (now + lead + low + 41) :: rest ∧
        (receive count (101 - low)).Exec (waveSemantics level) (now + lead + low + 41) (res, rest)
          after := by
  have falls : level (now + lead) ≠ true := by
    have first := opens.isLow 0 positive
    rw [Nat.add_zero] at first
    simp [first]
  have stays : ∀ u < low - 1, level (now + lead + 1 + u) = false := fun u below => by
    rw [Nat.add_right_comm, Nat.add_assoc]
    exact opens.isLow (u + 1) (by omega)
  have position : now + lead + 1 + (low - 1) = now + lead + low := by omega
  have rises : level (now + lead + 1 + (low - 1)) ≠ false := by
    rw [position, opens.rises]
    decide
  have budget : low - 1 < spinTimeoutUs := by
    have : spinTimeoutUs = 100 := rfl
    omega
  have left_eq : spinTimeoutUs - (low - 1) = 101 - low := by
    have : spinTimeoutUs = 100 := rfl
    omega
  have ended_eq : now + lead + 1 + (low - 1) + 1 + readThreshold = now + lead + low + 41 := by
    have : readThreshold = 40 := rfl
    omega
  simp only [exec_receive_succ, exec_wait_iff keeps_high early opens.isHigh falls]
  constructor
  · rintro ⟨_, _, ⟨rfl, rfl⟩, run⟩
    rw [if_neg (by omega)] at run
    obtain ⟨_, _, waited, run⟩ := run
    obtain ⟨rfl, rfl⟩ := (exec_wait_iff keeps_low budget stays rises).mp waited
    rw [if_neg (by omega), left_eq, ended_eq] at run
    exact run
  · intro run
    refine ⟨_, _, ⟨rfl, rfl⟩, ?_⟩
    rw [if_neg (by omega)]
    refine ⟨_, _, (exec_wait_iff keeps_low budget stays rises).mpr ⟨rfl, rfl⟩, ?_⟩
    rw [if_neg (by omega), left_eq, ended_eq]
    exact run

/-- A high phase that outlasts the wait budget ends the reception. -/
theorem exec_receive_late (high : ∀ u < timeOut, level (now + u) = true)
    (run : (receive (count + 1) timeOut).Exec (waveSemantics level) now (res, bits) after) :
    res = teeErrorTimeout := by
  obtain ⟨left, _, waited, run⟩ := exec_receive_succ.mp run
  rw [if_pos (exec_wait_late keeps_high high waited)] at run
  exact run.1

/-! ## Rises -/

/-- The instants after `now` and before `horizon` at which the line rises. -/
def rises (level : Nat → Bool) (horizon now : Nat) : Finset Nat :=
  (Finset.range horizon).filter fun t => now < t ∧ level t = true ∧ level (t - 1) = false

theorem exists_rise {first last : Nat} (before : first ≤ last) (isLow : level first = false)
    (isHigh : level last = true) :
    ∃ t, first < t ∧ t ≤ last ∧ level t = true ∧ level (t - 1) = false := by
  induction last with
  | zero =>
    obtain rfl : first = 0 := by omega
    rw [isLow] at isHigh
    cases isHigh
  | succ last ih =>
    by_cases already : level last = true
    · have sooner : first ≤ last := by
        rcases Nat.lt_or_ge first (last + 1) with sooner | same
        · omega
        · obtain rfl : first = last + 1 := by omega
          rw [isLow] at isHigh
          cases isHigh
      obtain ⟨t, later, bound, rise⟩ := ih sooner already
      exact ⟨t, later, by omega, rise⟩
    · have strict : first ≠ last + 1 := by
        rintro rfl
        rw [isLow] at isHigh
        cases isHigh
      exact ⟨last + 1, by omega, Nat.le_refl _, isHigh, by simpa using already⟩

/-- Each bit received takes a rise of the line. -/
theorem card_rises_of_received {horizon : Nat} (quiet : ∀ t ≥ horizon, level t = false)
    (run : (receive count timeOut).Exec (waveSemantics level) now (teeSuccess, bits) after) :
    count ≤ (rises level horizon now).card := by
  induction count generalizing now timeOut bits with
  | zero => exact Nat.zero_le _
  | succ count ih =>
    obtain ⟨high, begun, waited, run⟩ := exec_receive_succ.mp run
    by_cases late : high = 0
    · rw [if_pos late] at run
      exact absurd run.1 (by decide)
    · rw [if_neg late] at run
      obtain ⟨left, ended, waited', run⟩ := run
      by_cases late' : left = 0
      · rw [if_pos late'] at run
        exact absurd run.1 (by decide)
      · rw [if_neg late'] at run
        obtain ⟨rest, -, run⟩ := run
        obtain ⟨low, afterNow, isLow, rfl⟩ := exec_wait_found keeps_high late waited
        obtain ⟨top, afterLow, isHigh, rfl⟩ := exec_wait_found keeps_low late' waited'
        simp only [ne_eq, Bool.not_eq_true, Bool.not_eq_false] at isLow isHigh
        obtain ⟨t, later, bound, rise⟩ := exists_rise (by omega) isLow isHigh
        have inside : t < horizon := by
          by_contra beyond
          rw [quiet t (by omega)] at rise
          exact absurd rise.1 (by decide)
        have fewer : rises level horizon (top + 1 + readThreshold) ⊂ rises level horizon now := by
          refine (Finset.ssubset_iff_of_subset ?_).mpr ⟨t, ?_, ?_⟩
          · intro u member
            simp only [rises, Finset.mem_filter, Finset.mem_range] at member ⊢
            exact ⟨member.1, by omega, member.2.2⟩
          · simp only [rises, Finset.mem_filter, Finset.mem_range]
            exact ⟨inside, by omega, rise⟩
          · simp only [rises, Finset.mem_filter, not_and]
            omega
        have := Finset.card_lt_card fewer
        have := ih run
        omega

/-! ## Waveforms -/

/-- A bit on the line: the lengths of its low and of its high phase. -/
structure Phase where
  low : Nat
  high : Nat
  deriving DecidableEq

/-- The poll that detects the rise takes a unit and the delay 40, and the high phase of a one is
still there. -/
def Phase.bit (phase : Phase) : Bool :=
  41 < phase.high

/-- The line over time: high for `lead` units, then the phases, and low after them. -/
def shape (lead : Nat) : List Phase → Nat → Bool
  | [], t => t < lead
  | phase :: rest, t =>
    if t < lead then true
    else if t < lead + phase.low then false
    else shape phase.high rest (t - (lead + phase.low))

/-- The end of the last high phase. -/
def extent (lead : Nat) : List Phase → Nat
  | [] => lead
  | phase :: rest => lead + phase.low + extent phase.high rest

/-- The instant 40 units after the last rise was detected. -/
def lastSample (lead : Nat) : List Phase → Nat
  | [] => 0
  | [phase] => lead + phase.low + 41
  | phase :: next :: rest => lead + phase.low + lastSample phase.high (next :: rest)

/-- The waits of the decoder suffice and its samples see the bits.  `polls` is the number of
polls before the rise and `high` the length of the high phase after it.  The polls and the rest
of the high phase of a one share a budget of 100; the low phase after a zero lasts beyond the
sample. -/
def Sampled (polls high : Nat) : List Phase → Prop
  | [] => True
  | next :: rest =>
    if 41 < high then high - 41 + polls < 100 ∧ Sampled (next.low - 1) next.high rest
    else 41 < high + next.low ∧ Sampled (high + next.low - 42) next.high rest

variable {phase next : Phase} {rest : List Phase} {u : Nat}

theorem shape_next (lead : Nat) (phase : Phase) (rest : List Phase) (u : Nat) :
    shape lead (phase :: rest) (lead + phase.low + u) = shape phase.high rest u := by
  rw [shape, if_neg (by omega), if_neg (by omega), Nat.add_sub_cancel_left]

/-- The line seen from within its first high phase. -/
theorem shape_advance {lead passed : Nat} (inside : passed ≤ lead) (phases : List Phase) (u : Nat) :
    shape lead phases (passed + u) = shape (lead - passed) phases u := by
  cases phases with
  | nil =>
    simp only [shape, decide_eq_decide]
    omega
  | cons phase rest =>
    simp only [shape, show passed + u < lead ↔ u < lead - passed by omega,
      show passed + u < lead + phase.low ↔ u < lead - passed + phase.low by omega,
      show passed + u - (lead + phase.low) = u - (lead - passed + phase.low) by omega]

/-- The line seen from within its first low phase. -/
theorem shape_skip {lead passed : Nat} (begun : lead ≤ passed) (inside : passed < lead + phase.low)
    (u : Nat) :
    shape lead (phase :: rest) (passed + u) =
      shape 0 (⟨lead + phase.low - passed, phase.high⟩ :: rest) u := by
  simp only [shape, if_neg (show ¬passed + u < lead by omega), if_neg (Nat.not_lt_zero u),
    show passed + u < lead + phase.low ↔ u < 0 + (lead + phase.low - passed) by omega,
    show passed + u - (lead + phase.low) = u - (0 + (lead + phase.low - passed)) by omega]

theorem lastSample_cons (lead : Nat) (phase : Phase) (rest : List Phase) :
    lastSample lead (phase :: rest) =
      lead + phase.low + lastSample 0 (⟨0, phase.high⟩ :: rest) := by
  cases rest with
  | nil => simp [lastSample]
  | cons next rest => simp [lastSample]

theorem le_lastSample (lead : Nat) (phase : Phase) (rest : List Phase) :
    lead + phase.low + 41 ≤ lastSample lead (phase :: rest) := by
  induction rest generalizing lead phase with
  | nil => exact Nat.le_refl _
  | cons next rest ih =>
    have := ih phase.high next
    rw [lastSample]
    omega

/-- The level follows the phases until the last sample. -/
def Drives (level : Nat → Bool) (now lead : Nat) (phases : List Phase) : Prop :=
  ∀ u ≤ lastSample lead phases, level (now + u) = shape lead phases u

theorem Drives.opens (drives : Drives level now lead (phase :: rest)) (positive : 0 < phase.high) :
    Opens level now lead phase.low := by
  have reach := le_lastSample lead phase rest
  refine ⟨fun u below => ?_, fun u below => ?_, ?_⟩
  · rw [drives u (by omega), shape, if_pos below]
  · rw [Nat.add_assoc, drives (lead + u) (by omega), shape, if_neg (by omega), if_pos (by omega)]
  · rw [Nat.add_assoc, drives _ (by omega), ← Nat.add_zero (lead + phase.low), shape_next]
    cases rest with
    | nil => simpa [shape] using positive
    | cons next rest => rw [shape, if_pos positive]

/-- The line after the sample of a one. -/
theorem Drives.after_one (drives : Drives level now lead (phase :: next :: rest))
    (one : 41 < phase.high) :
    Drives level (now + lead + phase.low + 41) (phase.high - 41) (next :: rest) := by
  intro u within
  rw [lastSample_cons] at within
  have here := drives (lead + phase.low + (41 + u)) (by rw [lastSample, lastSample_cons]; omega)
  rw [shape_next, shape_advance (by omega)] at here
  rw [← here]
  congr 1
  omega

/-- The line after the sample of a zero that the next low phase outlasts. -/
theorem Drives.after_zero (drives : Drives level now lead (phase :: next :: rest))
    (zero : ¬41 < phase.high) (outlasts : 41 < phase.high + next.low) :
    Drives level (now + lead + phase.low + 41) 0
      (⟨phase.high + next.low - 41, next.high⟩ :: rest) := by
  intro u within
  rw [lastSample_cons] at within
  have here := drives (lead + phase.low + (41 + u)) (by
    rw [lastSample, lastSample_cons]
    simp only at within
    omega)
  rw [shape_next, shape_skip (by omega) outlasts] at here
  rw [← here]
  congr 1
  omega

theorem Drives.sample (drives : Drives level now lead (phase :: rest)) :
    level (now + lead + phase.low + 41) = shape phase.high rest 41 := by
  have here := drives (lead + phase.low + 41) (le_lastSample lead phase rest)
  rw [shape_next] at here
  rw [← here]
  congr 1
  omega

/-- The lengths of a phase that the waits of the decoder can deal with. -/
def Phase.Bounded (phase : Phase) : Prop :=
  0 < phase.low ∧ phase.low < 100 ∧ 0 < phase.high

/-- The decoder receives the bits of a line whose phases meet its waits and samples. -/
theorem received_of_sampled (drives : Drives level now lead (phase :: rest))
    (early : lead < timeOut)
    (bounded : ∀ p ∈ phase :: rest, p.Bounded) (sampled : Sampled (phase.low - 1) phase.high rest) :
    ∃ after, (receive (rest.length + 1) timeOut).Exec (waveSemantics level) now
      (teeSuccess, (phase :: rest).map Phase.bit) after := by
  induction rest generalizing now lead phase timeOut with
  | nil =>
    obtain ⟨positive, short, exists_high⟩ := bounded phase List.mem_cons_self
    refine ⟨now + lead + phase.low + 41, ?_⟩
    refine (exec_receive_iff (drives.opens exists_high) early positive short.le).mpr
      ⟨[], ?_, rfl, rfl⟩
    rw [drives.sample]
    rfl
  | cons next rest ih =>
    obtain ⟨positive, short, exists_high⟩ := bounded phase List.mem_cons_self
    obtain ⟨positive', short', exists_high'⟩ :=
      bounded next (List.mem_cons_of_mem _ List.mem_cons_self)
    have opens := drives.opens exists_high
    have sample := drives.sample
    rw [Sampled] at sampled
    by_cases one : 41 < phase.high
    · rw [if_pos one] at sampled
      rw [shape, if_pos one] at sample
      obtain ⟨after, run⟩ := ih (drives.after_one one)
        (show phase.high - 41 < 101 - phase.low by omega)
        (fun p member => bounded p (List.mem_cons_of_mem _ member)) sampled.2
      refine ⟨after, (exec_receive_iff opens early positive short.le).mpr ⟨_, ?_, run⟩⟩
      rw [sample, List.map_cons, Phase.bit, decide_eq_true one]
    · rw [if_neg one] at sampled
      rw [shape, if_neg one, if_pos sampled.1] at sample
      have later := sampled.2
      obtain ⟨after, run⟩ := ih (drives.after_zero one sampled.1)
        (show 0 < 101 - phase.low by omega) (by
          intro p member
          rcases List.mem_cons.mp member with rfl | member
          · exact ⟨by simp only; omega, by simp only; omega, exists_high'⟩
          · exact bounded p (List.mem_cons_of_mem _ (List.mem_cons_of_mem _ member)))
        (by
          simpa only [show phase.high + next.low - 41 - 1 = phase.high + next.low - 42 by omega]
            using later)
      refine ⟨after, (exec_receive_iff opens early positive short.le).mpr ⟨_, ?_, run⟩⟩
      rw [sample, List.map_cons, Phase.bit, decide_eq_false one]
      rfl

/-- The line is the shape from `now` on, and stays low after it. -/
def Shows (level : Nat → Bool) (now lead : Nat) (phases : List Phase) : Prop :=
  ∀ u, level (now + u) = shape lead phases u

theorem Shows.drives {phases : List Phase} (shows : Shows level now lead phases) :
    Drives level now lead phases :=
  fun u _ => shows u

theorem Shows.after_rise (shows : Shows level now lead (phase :: rest)) :
    Shows level (now + lead + phase.low) phase.high rest := by
  intro u
  rw [← shape_next lead, ← shows]
  congr 1
  omega

/-- The line rises once for each phase. -/
theorem Shows.card_rises {phases : List Phase} (shows : Shows level now lead phases)
    (horizon : Nat) :
    (rises level horizon now).card ≤ phases.length := by
  induction phases generalizing now lead with
  | nil =>
    refine (Finset.card_eq_zero.mpr (Finset.filter_eq_empty_iff.mpr ?_)).le
    rintro t - ⟨later, isHigh, isLow⟩
    have high := shows (t - now)
    have low := shows (t - 1 - now)
    rw [show now + (t - now) = t by omega, isHigh] at high
    rw [show now + (t - 1 - now) = t - 1 by omega, isLow] at low
    simp only [shape, true_eq_decide_iff, false_eq_decide_iff] at high low
    omega
  | cons phase rest ih =>
    have split : rises level horizon now ⊆
        insert (now + lead + phase.low) (rises level horizon (now + lead + phase.low)) := by
      intro t member
      simp only [rises, Finset.mem_insert, Finset.mem_filter, Finset.mem_range] at member ⊢
      obtain ⟨inside, later, isHigh, isLow⟩ := member
      rcases Nat.lt_trichotomy t (now + lead + phase.low) with before | same | behind
      · exfalso
        have high := shows (t - now)
        have low := shows (t - 1 - now)
        rw [show now + (t - now) = t by omega, isHigh, shape] at high
        rw [show now + (t - 1 - now) = t - 1 by omega, isLow, shape] at low
        split at high
        · rw [if_pos (by omega)] at low
          cases low
        · rw [if_pos (by omega)] at high
          cases high
      · exact .inl same
      · exact .inr ⟨inside, behind, isHigh, isLow⟩
    have card := ih shows.after_rise
    have total := (Finset.card_le_card split).trans (Finset.card_insert_le _ _)
    rw [List.length_cons]
    omega

/-- A line whose bits are received meets the waits and samples of the decoder. -/
theorem sampled_of_received (shows : Shows level now lead (phase :: rest)) (early : lead < timeOut)
    (bounded : ∀ p ∈ phase :: rest, p.Bounded) {horizon : Nat}
    (quiet : ∀ t ≥ horizon, level t = false)
    (run : (receive (rest.length + 1) timeOut).Exec (waveSemantics level) now
      (teeSuccess, (phase :: rest).map Phase.bit) after) :
    Sampled (phase.low - 1) phase.high rest := by
  induction rest generalizing now lead phase timeOut with
  | nil => trivial
  | cons next rest ih =>
    obtain ⟨positive, short, exists_high⟩ := bounded phase List.mem_cons_self
    obtain ⟨positive', short', exists_high'⟩ :=
      bounded next (List.mem_cons_of_mem _ List.mem_cons_self)
    obtain ⟨bits, bits_eq, run⟩ :=
      (exec_receive_iff (shows.drives.opens exists_high) early positive short.le).mp run
    obtain ⟨bit_eq, rfl⟩ := List.cons.inj bits_eq
    rw [Sampled]
    by_cases one : 41 < phase.high
    · rw [if_pos one]
      have high : Shows level (now + lead + phase.low + 41) (phase.high - 41) (next :: rest) := by
        intro u
        rw [Nat.add_assoc, shows.after_rise, shape_advance (by omega)]
      have early' : phase.high - 41 < 101 - phase.low := by
        by_contra late
        have code := exec_receive_late (fun u below => by
          rw [high, shape, if_pos (by omega)]) run
        exact absurd code (by decide)
      exact ⟨by omega, ih high early'
        (fun p member => bounded p (List.mem_cons_of_mem _ member)) run⟩
    · rw [if_neg one]
      have outlasts : 41 < phase.high + next.low := by
        -- The next rise comes before the sample, so the decoder misses it and runs out of rises.
        by_contra missed
        have enough := card_rises_of_received quiet run
        rw [List.length_cons] at enough
        have few := shows.after_rise.after_rise.card_rises horizon
        have fewer : rises level horizon (now + lead + phase.low + 41) ⊆
            rises level horizon (now + lead + phase.low + phase.high + next.low) := by
          intro t member
          simp only [rises, Finset.mem_filter] at member ⊢
          exact ⟨member.1, by omega, member.2.2⟩
        have := Finset.card_le_card fewer
        omega
      have low : Shows level (now + lead + phase.low + 41) 0
          (⟨phase.high + next.low - 41, next.high⟩ :: rest) := by
        intro u
        rw [Nat.add_assoc, shows.after_rise, shape_skip (by omega) outlasts]
      refine ⟨outlasts, ?_⟩
      have sampled := ih low (show 0 < 101 - phase.low by omega) (by
        intro p member
        rcases List.mem_cons.mp member with rfl | member
        · exact ⟨by simp only; omega, by simp only; omega, exists_high'⟩
        · exact bounded p (List.mem_cons_of_mem _ (List.mem_cons_of_mem _ member))) run
      simpa only [show phase.high + next.low - 41 - 1 = phase.high + next.low - 42 by omega]
        using sampled

end Decoder

/-! ## Frames on the line -/

/-- A frame on the line.  It begins in a high phase of fewer than 100 units.  Each bit has a low
phase of fewer than 100 units and a high phase that ends within fewer than 100 units after the
sample. -/
structure Waveform where
  lead : Nat
  phases : List Phase
  full : phases.length = 40
  lead_bounds : 0 < lead ∧ lead < 100
  low_bounds : ∀ phase ∈ phases, 0 < phase.low ∧ phase.low < 100
  high_bounds : ∀ phase ∈ phases, 0 < phase.high ∧ phase.high < 41 + 100

namespace Waveform

/-- The bits of the frame. -/
def bits (w : Waveform) : List Bool :=
  w.phases.map Phase.bit

/-- The level follows the waveform to the end of its last phase, and a last zero until it is
sampled; what it does afterwards is open. -/
def On (w : Waveform) (level : Nat → Bool) : Prop :=
  ∀ t, t < extent w.lead w.phases ∨ t ≤ lastSample w.lead w.phases →
    level t = shape w.lead w.phases t

/-- On every line that follows the waveform `_busy_wait_read` succeeds with the frame, most
significant bit first. -/
def Decodes (w : Waveform) : Prop :=
  ∀ level, w.On level → ∃ data after,
    busyWaitReadLine.Exec (waveSemantics level) 0 (teeSuccess, data) after ∧
      ∀ i < 5, ∀ j < 8, (data i).getMsbD j = w.bits.getD (8 * i + j) false

/-- The waits and samples of the decoder fit the phases. -/
def Fits (w : Waveform) : Prop :=
  match w.phases with
  | [] => True
  | phase :: rest => Sampled (phase.low - 1) phase.high rest

theorem exists_phases (w : Waveform) :
    ∃ phase rest, w.phases = phase :: rest ∧ rest.length + 1 = 40 ∧
      ∀ p ∈ phase :: rest, p.Bounded := by
  have full := w.full
  have low_bounds := w.low_bounds
  have high_bounds := w.high_bounds
  cases phases : w.phases with
  | nil =>
    rw [phases] at full
    cases full
  | cons phase rest =>
    rw [phases] at full low_bounds high_bounds
    exact ⟨phase, rest, rfl, full, fun p member =>
      ⟨(low_bounds p member).1, (low_bounds p member).2, (high_bounds p member).1⟩⟩

theorem shape_eq_false_of_extent {lead : Nat} (phases : List Phase) {t : Nat}
    (behind : extent lead phases ≤ t) : shape lead phases t = false := by
  induction phases generalizing lead t with
  | nil => simpa [shape, extent] using behind
  | cons phase rest ih =>
    rw [extent] at behind
    rw [shape, if_neg (by omega), if_neg (by omega)]
    exact ih (by omega)

/-- Lists of forty bits that agree in every position of a frame are equal. -/
theorem bits_eq_of_getD {first second : List Bool} (length_first : first.length = 40)
    (length_second : second.length = 40)
    (same : ∀ i < 5, ∀ j < 8, first.getD (8 * i + j) false = second.getD (8 * i + j) false) :
    first = second := by
  refine List.ext_getElem (length_first.trans length_second.symm) fun k inside inside' => ?_
  have agrees := same (k / 8) (by omega) (k % 8) (by omega)
  rw [Nat.div_add_mod] at agrees
  simpa [inside, inside'] using agrees

/-- `_busy_wait_read` decodes exactly the waveforms whose polls before a rise and rest of the
high phase after a one's sample stay below 100 together, and whose low phases after a zero last
beyond its sample. -/
theorem busyWaitRead_decodes_iff (pin : BitVec 32) (w : Waveform) :
    busyWaitReadLine.translate (onPin pin) = busyWaitRead pin ∧ (w.Decodes ↔ w.Fits) := by
  refine ⟨translate_busyWaitReadLine pin, ?_⟩
  obtain ⟨phase, rest, phases, full, bounded⟩ := w.exists_phases
  have early : w.lead < spinTimeoutUs := w.lead_bounds.2
  have bits_length : w.bits.length = 40 := by rw [bits, List.length_map, w.full]
  simp only [Fits, phases]
  constructor
  · intro decodes
    have shows : Shows (shape w.lead w.phases) 0 w.lead w.phases := by
      intro u
      rw [Nat.zero_add]
    obtain ⟨data, after, read, agrees⟩ := decodes _ fun t _ => rfl
    obtain ⟨⟨res, received⟩, run, same⟩ := Program.exec_map.mp read
    obtain ⟨rfl, rfl⟩ := Prod.mk.inj same
    have equal : received = w.bits := by
      refine bits_eq_of_getD (length_received run) bits_length fun i row j column => ?_
      rw [← getMsbD_frameOf received i column]
      exact agrees i row j column
    rw [equal, bits] at run
    rw [phases] at run shows
    rw [← full] at run
    exact sampled_of_received shows early bounded
      (fun t behind => shape_eq_false_of_extent _ behind) run
  · intro sampled level on
    have drives : Drives level 0 w.lead (phase :: rest) := by
      intro u within
      rw [Nat.zero_add, on u (.inr (by rwa [phases])), phases]
    obtain ⟨after, run⟩ := received_of_sampled drives early bounded sampled
    rw [full, ← phases] at run
    refine ⟨frameOf w.bits, after, Program.exec_map.mpr ⟨_, run, rfl⟩, ?_⟩
    intro i row j column
    exact getMsbD_frameOf _ _ column

/-- A first bit with a low phase of 99 units and a high phase of 44. -/
def slowFirstBit : Waveform where
  lead := 50
  phases := ⟨99, 44⟩ :: List.replicate 39 ⟨50, 70⟩
  full := rfl
  lead_bounds := by decide
  low_bounds := by decide
  high_bounds := by decide

/-- A frame of ones is not read when the first wait for a high level takes 98 polls: two are
left for the rest of the high phase, which lasts three units after the sample. -/
theorem busyWaitRead_slow_first_bit :
    slowFirstBit.On (shape slowFirstBit.lead slowFirstBit.phases) ∧ ∀ result after,
      busyWaitReadLine.Exec (waveSemantics (shape slowFirstBit.lead slowFirstBit.phases)) 0 result
        after → result.1 = teeErrorTimeout := by
  refine ⟨fun t _ => rfl, fun result after read => ?_⟩
  obtain ⟨⟨res, received⟩, run, rfl⟩ := Program.exec_map.mp read
  have shows : Shows (shape 50 (⟨99, 44⟩ :: List.replicate 39 ⟨50, 70⟩)) 0 50
      (⟨99, 44⟩ :: List.replicate 39 ⟨50, 70⟩) := by
    intro u
    rw [Nat.zero_add]
  obtain ⟨rest, -, run⟩ := (exec_receive_iff (shows.drives.opens (by decide)) (by decide)
    (by decide) (by decide)).mp run
  refine exec_receive_late (fun u below => ?_) run
  have position := shows.after_rise (41 + u)
  rw [← Nat.add_assoc] at position
  rw [position, List.replicate_succ, shape, if_pos (by simp only at below ⊢; omega)]

end Waveform

end TrustWasm.Drivers.Dht
