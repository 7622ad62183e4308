import TrustWasm.Lib.Loop
import TrustWasm.Runtime.SigTable

/-!
# The loop of get_ready_signal

A scan polls the pending peripherals from the lowest on until it finds a ready slot.
After each poll it clears the polled peripheral and all lower ones from its own copy of
the mask, by a shift whose count is the number of the peripheral plus one.  For the last
peripheral the count is the width of the mask, the shift does nothing and the mask is
not changed.
-/

namespace TrustWasm.Runtime

open TrustWasm.Lib TrustWasm.Lib.Mask TrustWasm.Tee TrustWasm.IoHelper

/-! ## What a scan finds -/

/-- What a loop over the peripherals `tmp` finds and which peripherals it leaves
pending, given the answers to its polls. -/
structure ScanEnd (answer : Nat → PollResult) (tmp : BitVec 64) (found : Option (Nat × Nat))
    (before after : BitVec 64) : Prop where
  least : ∀ p q, found = some (p, q) → tmp.getLsbD p = true ∧ answer p = .success q ∧
    ∀ i < p, tmp.getLsbD i = true → ∀ r, answer i ≠ .success r
  nothing : found = none → ∀ i, tmp.getLsbD i = true → ∀ r, answer i ≠ .success r
  pending : ∀ i, after.getLsbD i = true ↔ before.getLsbD i = true ∧
    ¬(tmp.getLsbD i = true ∧ answer i = .noData ∧ ∀ p q, found = some (p, q) → i < p)

/-- A loop over no peripheral. -/
theorem ScanEnd.empty (answer : Nat → PollResult) (before : BitVec 64) :
    ScanEnd answer 0 none before before := by
  refine ⟨nofun, ?_, ?_⟩
  · intro _ i isSet
    simp at isSet
  · intro i
    simp

variable {answer : Nat → PollResult} {p q : Nat}

section Rounds

variable {tmp before after : BitVec 64}

/-- The peripherals left after a round. -/
theorem getLsbD_rest (small : p < 63) (i : Nat) :
    (tmp &&& ~~~low 64 (p + 1)).getLsbD i = (tmp.getLsbD i && decide (p < i)) := by
  rw [BitVec.getLsbD_and, BitVec.getLsbD_not, getLsbD_low (by omega)]
  by_cases inRange : i < 64
  · by_cases above : p < i
    · simp [inRange, above, show ¬ i < p + 1 by omega]
    · simp [inRange, above, show i < p + 1 by omega]
  · simp [inRange, BitVec.getLsbD_of_ge tmp i (by omega)]

/-- The round that finds a slot. -/
theorem ScanEnd.success (lowest : lowest? tmp = some p) (found : answer p = .success q) :
    ScanEnd answer tmp (some (p, q)) before before := by
  obtain ⟨-, isSet, isLeast⟩ := (lowest?_eq_some_iff tmp p).mp lowest
  refine ⟨?_, nofun, ?_⟩
  · intro p' q' same
    cases same
    refine ⟨isSet, found, fun i below isSet' => ?_⟩
    rw [isLeast i below] at isSet'
    cases isSet'
  · intro i
    refine ⟨fun old => ⟨old, ?_⟩, And.left⟩
    rintro ⟨isSet', -, below⟩
    rw [isLeast i (below p q rfl)] at isSet'
    cases isSet'

/-- A round that finds nothing, before the rounds that follow. -/
theorem ScanEnd.round {found : Option (Nat × Nat)} {middle : BitVec 64} (small : p < 63)
    (lowest : lowest? tmp = some p) (noSlot : ∀ q, answer p ≠ .success q)
    (cleared : ∀ i, middle.getLsbD i = true ↔
      before.getLsbD i = true ∧ ¬(i = p ∧ answer p = .noData))
    (rest : ScanEnd answer (tmp &&& ~~~low 64 (p + 1)) found middle after) :
    ScanEnd answer tmp found before after := by
  obtain ⟨-, isSet, isLeast⟩ := (lowest?_eq_some_iff tmp p).mp lowest
  have others (i : Nat) : tmp.getLsbD i = true ↔
      i = p ∨ (tmp &&& ~~~low 64 (p + 1)).getLsbD i = true := by
    rw [getLsbD_rest small, Bool.and_eq_true, decide_eq_true_eq]
    constructor
    · intro isSet'
      by_cases below : i < p
      · rw [isLeast i below] at isSet'
        cases isSet'
      · by_cases here : i = p
        · exact .inl here
        · exact .inr ⟨isSet', by omega⟩
    · rintro (rfl | ⟨isSet', -⟩)
      · exact isSet
      · exact isSet'
  have above (i : Nat) (isSet' : (tmp &&& ~~~low 64 (p + 1)).getLsbD i = true) : p < i := by
    rw [getLsbD_rest small, Bool.and_eq_true, decide_eq_true_eq] at isSet'
    exact isSet'.2
  refine ⟨?_, ?_, ?_⟩
  · intro p' q' same
    obtain ⟨isSet', success, isLeast'⟩ := rest.least p' q' same
    refine ⟨(others p').mpr (.inr isSet'), success, fun i below isSet'' => ?_⟩
    rcases (others i).mp isSet'' with rfl | later
    · exact noSlot
    · exact isLeast' i below later
  · intro none i isSet'
    rcases (others i).mp isSet' with rfl | later
    · exact noSlot
    · exact rest.nothing none i later
  · intro i
    rw [rest.pending, cleared, others]
    constructor
    · rintro ⟨⟨old, notHere⟩, notLater⟩
      refine ⟨old, ?_⟩
      rintro ⟨rfl | later, noData, first⟩
      · exact notHere ⟨rfl, noData⟩
      · exact notLater ⟨later, noData, first⟩
    · rintro ⟨old, kept⟩
      refine ⟨⟨old, ?_⟩, ?_⟩
      · rintro ⟨rfl, noData⟩
        exact kept ⟨.inl rfl, noData, fun p' q' same => above p' (rest.least p' q' same).1⟩
      · rintro ⟨later, noData, first⟩
        exact kept ⟨.inr later, noData, first⟩

end Rounds

/-! ## The loop -/

/-- The loop between two rounds: the globals, the peripherals left in its copy of the
mask, and those it has polled. -/
structure ScanState where
  globals : Globals
  tmpSigpending : BitVec 64
  polled : List Nat

/-- The end of `get_ready_signal`: its result, the slot it has found, the globals and
the peripherals it has polled. -/
structure ScanReturn where
  code : Int
  ready : Option (Nat × Nat)
  globals : Globals
  polled : List Nat

/-- The body of the loop, given the answers to its polls. -/
def scanBody (answer : Nat → PollResult) (s : ScanState) : Round ScanState ScanReturn :=
  if s.tmpSigpending = 0 then .done ⟨0, none, s.globals, s.polled⟩
  else
    let signo := ffs s.tmpSigpending - 1
    match scanRound s.globals s.tmpSigpending (answer signo) with
    | (.found p q, globals) => .done ⟨1, some (p, q), globals, s.polled ++ [signo]⟩
    | (.polling rest, globals) => .again ⟨globals, rest, s.polled ++ [signo]⟩

/-- `get_ready_signal` with a bound on the rounds of its loop. -/
def getReadySignal (answer : Nat → PollResult) (rounds : Nat) (g : Globals) :
    Option ScanReturn :=
  if g.sigpending = 0 then some ⟨-1, none, g, []⟩
  else Loop.run (scanBody answer) rounds ⟨g, g.sigpending, []⟩

/-- The pending peripherals after a poll. -/
def clearedBy (answer : Nat → PollResult) (p : Nat) (pending : BitVec 64) : BitVec 64 :=
  if answer p = .noData then pending &&& ~~~bit 64 p else pending

/-- The loop after a poll of the lowest peripheral has found no slot. -/
def ScanState.pass (s : ScanState) (answer : Nat → PollResult) (p : Nat) : ScanState where
  globals := { s.globals with sigpending := clearedBy answer p s.globals.sigpending }
  tmpSigpending := s.tmpSigpending &&& ~~~low 64 (p + 1)
  polled := s.polled ++ [p]

section Body

variable {s : ScanState}

theorem scanBody_empty (empty : s.tmpSigpending = 0) :
    scanBody answer s = .done ⟨0, none, s.globals, s.polled⟩ :=
  if_pos empty

theorem ne_zero_of_lowest (lowest : lowest? s.tmpSigpending = some p) : s.tmpSigpending ≠ 0 := by
  intro empty
  rw [(lowest?_eq_none_iff _).mpr empty] at lowest
  cases lowest

theorem scanBody_success (lowest : lowest? s.tmpSigpending = some p)
    (found : answer p = .success q) :
    scanBody answer s = .done ⟨1, some (p, q), s.globals, s.polled ++ [p]⟩ := by
  simp only [scanBody, if_neg (ne_zero_of_lowest lowest), ffs_eq_of_lowest lowest,
    Nat.add_sub_cancel, found, scanRound]

theorem scanBody_pass (lowest : lowest? s.tmpSigpending = some p)
    (noSlot : ∀ q, answer p ≠ .success q) :
    scanBody answer s = .again (s.pass answer p) := by
  simp only [scanBody, if_neg (ne_zero_of_lowest lowest), ffs_eq_of_lowest lowest,
    Nat.add_sub_cancel]
  cases outcome : answer p with
  | success q => exact absurd outcome (noSlot q)
  | noData | communication | busy | generic =>
    simp [scanRound, ScanState.pass, clearedBy, outcome, ffs_eq_of_lowest lowest]

theorem getLsbD_clearedBy (small : p < 64) (pending : BitVec 64) (i : Nat) :
    (clearedBy answer p pending).getLsbD i = true ↔
      pending.getLsbD i = true ∧ ¬(i = p ∧ answer p = .noData) := by
  unfold clearedBy
  split
  · rename_i noData
    rw [getLsbD_and_not_bit small]
    simp [noData]
  · rename_i other
    simp [other]

end Body

/-! ## Termination and exactness -/

/-- How the rest of a loop ends. -/
structure ScanResult (answer : Nat → PollResult) (s : ScanState) (r : ScanReturn) : Prop where
  code : r.code = if r.ready.isSome then 1 else 0
  ends : ScanEnd answer s.tmpSigpending r.ready s.globals.sigpending r.globals.sigpending
  kept : r.globals = { s.globals with sigpending := r.globals.sigpending }
  polled : ∃ more, r.polled = s.polled ++ more ∧ more.Pairwise (· < ·) ∧
    ∀ i, i ∈ more ↔ s.tmpSigpending.getLsbD i = true ∧ ∀ p q, r.ready = some (p, q) → i ≤ p

section Results

variable {s : ScanState} {r : ScanReturn}

theorem ScanResult.empty (none : s.tmpSigpending = 0) :
    ScanResult answer s ⟨0, .none, s.globals, s.polled⟩ where
  code := rfl
  ends := by
    rw [none]
    exact .empty answer _
  kept := rfl
  polled := by
    refine ⟨[], (List.append_nil _).symm, .nil, fun i => ?_⟩
    simp [none]

theorem ScanResult.success (lowest : lowest? s.tmpSigpending = some p)
    (found : answer p = .success q) :
    ScanResult answer s ⟨1, some (p, q), s.globals, s.polled ++ [p]⟩ where
  code := rfl
  ends := .success lowest found
  kept := rfl
  polled := by
    obtain ⟨-, isSet, isLeast⟩ := (lowest?_eq_some_iff _ p).mp lowest
    refine ⟨[p], rfl, List.pairwise_singleton _ p, fun i => ?_⟩
    rw [List.mem_singleton]
    constructor
    · rintro rfl
      refine ⟨isSet, fun p' q' same => ?_⟩
      cases same
      exact le_rfl
    · rintro ⟨isSet', below⟩
      by_contra other
      have lower : i < p := lt_of_le_of_ne (below p q rfl) other
      rw [isLeast i lower] at isSet'
      cases isSet'

/-- A round that finds nothing, before the rounds that follow. -/
theorem ScanResult.pass (small : p < 63) (lowest : lowest? s.tmpSigpending = some p)
    (noSlot : ∀ q, answer p ≠ .success q) (rest : ScanResult answer (s.pass answer p) r) :
    ScanResult answer s r where
  code := rest.code
  ends := .round small lowest noSlot (getLsbD_clearedBy (by omega) s.globals.sigpending) rest.ends
  kept := rest.kept
  polled := by
    obtain ⟨-, isSet, isLeast⟩ := (lowest?_eq_some_iff _ p).mp lowest
    obtain ⟨more, isMore, sorted, members⟩ := rest.polled
    simp only [ScanState.pass, getLsbD_rest small, Bool.and_eq_true, decide_eq_true_eq] at members
    refine ⟨p :: more, ?_, List.pairwise_cons.mpr ⟨?_, sorted⟩, fun i => ?_⟩
    · rw [isMore, ScanState.pass, List.append_assoc]
      rfl
    · intro i later
      exact ((members i).mp later).1.2
    · rw [List.mem_cons, members]
      constructor
      · rintro (rfl | ⟨⟨isSet', -⟩, below⟩)
        · refine ⟨isSet, fun p' q' same => ?_⟩
          have later := (rest.ends.least p' q' same).1
          rw [ScanState.pass, getLsbD_rest small, Bool.and_eq_true, decide_eq_true_eq] at later
          exact later.2.le
        · exact ⟨isSet', below⟩
      · rintro ⟨isSet', below⟩
        rcases Nat.lt_trichotomy i p with lower | rfl | upper
        · rw [isLeast i lower] at isSet'
          cases isSet'
        · exact .inl rfl
        · exact .inr ⟨⟨isSet', upper⟩, below⟩

/-- Some peripheral of a mask has a ready slot. -/
def SomeReady (answer : Nat → PollResult) (mask : BitVec 64) : Prop :=
  ∃ p q, mask.getLsbD p = true ∧ answer p = .success q

/-- The loop ends when the last peripheral is not pending or a slot is ready. -/
theorem exists_scanResult (stops : s.tmpSigpending.getLsbD 63 = true →
    SomeReady answer s.tmpSigpending) :
    ∃ rounds r, Loop.run (scanBody answer) rounds s = some r ∧ ScanResult answer s r := by
  -- the number of peripherals left in the mask goes down in every round
  induction size' : popcount s.tmpSigpending generalizing s with
  | zero =>
    have empty : s.tmpSigpending = 0 := by
      by_contra nonempty
      obtain ⟨p, lowest, -, -⟩ := lowest_of_ne_zero nonempty
      have positive := popcount_pos ((lowest?_eq_some_iff _ p).mp lowest).2.1
      omega
    exact ⟨1, _, Loop.run_done (scanBody_empty empty) 0, .empty empty⟩
  | succ size ih =>
    have nonempty : s.tmpSigpending ≠ 0 := by
      intro empty
      rw [empty, popcount_zero] at size'
      omega
    obtain ⟨p, lowest, inRange, -⟩ := lowest_of_ne_zero nonempty
    obtain ⟨-, isSet, isLeast⟩ := (lowest?_eq_some_iff _ p).mp lowest
    by_cases ready : ∃ q, answer p = .success q
    · obtain ⟨q, found⟩ := ready
      exact ⟨1, _, Loop.run_done (scanBody_success lowest found) 0, .success lowest found⟩
    · have noSlot (q : Nat) : answer p ≠ .success q := fun found => ready ⟨q, found⟩
      have small : p < 63 := by
        by_contra last
        have isLast : p = 63 := by omega
        subst isLast
        obtain ⟨p', q, isSet', found⟩ := stops isSet
        by_cases here : p' = 63
        · exact noSlot q (here ▸ found)
        · have inside := BitVec.lt_of_getLsbD isSet'
          rw [isLeast p' (by omega)] at isSet'
          cases isSet'
      have smaller := popcount_and_not_bit inRange isSet
      rw [← and_not_low_eq_and_not_bit lowest (by omega)] at smaller
      have stops' : (s.pass answer p).tmpSigpending.getLsbD 63 = true →
          SomeReady answer (s.pass answer p).tmpSigpending := by
        intro last
        rw [ScanState.pass, getLsbD_rest small, Bool.and_eq_true] at last
        obtain ⟨p', q, isSet', found⟩ := stops last.1
        refine ⟨p', q, ?_, found⟩
        rw [ScanState.pass, getLsbD_rest small, isSet', Bool.true_and, decide_eq_true_eq]
        rcases Nat.lt_trichotomy p' p with lower | rfl | upper
        · rw [isLeast p' lower] at isSet'
          cases isSet'
        · exact absurd found (noSlot q)
        · exact upper
      have left : popcount (s.pass answer p).tmpSigpending = size :=
        Nat.succ.inj (smaller.trans size')
      obtain ⟨rounds, r, ran, result⟩ := ih stops' left
      exact ⟨rounds + 1, r, (Loop.run_again (scanBody_pass lowest noSlot) rounds).trans ran,
        result.pass small lowest noSlot⟩

/-- A loop that comes to the last peripheral and finds no slot there polls it forever. -/
theorem run_eq_none_of_last (isLast : s.tmpSigpending.getLsbD 63 = true)
    (noSlot : ¬SomeReady answer s.tmpSigpending) (rounds : Nat) :
    Loop.run (scanBody answer) rounds s = none := by
  refine Loop.run_eq_none
    (I := fun s => s.tmpSigpending.getLsbD 63 = true ∧ ¬SomeReady answer s.tmpSigpending)
    ⟨isLast, noSlot⟩ ?_ rounds
  rintro s ⟨isLast, noSlot⟩
  have nonempty : s.tmpSigpending ≠ 0 := by
    intro empty
    rw [empty] at isLast
    simp at isLast
  obtain ⟨p, lowest, inRange, -⟩ := lowest_of_ne_zero nonempty
  have isSet := ((lowest?_eq_some_iff _ p).mp lowest).2.1
  refine ⟨_, scanBody_pass lowest fun q found => noSlot ⟨p, q, isSet, found⟩, ?_⟩
  unfold ScanState.pass
  dsimp only
  by_cases small : p < 63
  · refine ⟨?_, ?_⟩
    · rw [getLsbD_rest small, isLast, Bool.true_and, decide_eq_true_eq]
      exact small
    · rintro ⟨p', q, isSet', found⟩
      rw [getLsbD_rest small, Bool.and_eq_true] at isSet'
      exact noSlot ⟨p', q, isSet'.1, found⟩
  · -- the shift by 64 leaves the mask as it is
    obtain rfl : p = 63 := by omega
    rw [low_width, BitVec.not_zero, BitVec.and_allOnes]
    exact ⟨isLast, noSlot⟩

end Results

/-- The specification of `get_ready_signal`. -/
structure ScanExact (answer : Nat → PollResult) (g : Globals) (r : ScanReturn) : Prop where
  polls : r.polled.length ≤ popcount g.sigpending
  order : r.polled.Pairwise (· < ·)
  polled : ∀ p ∈ r.polled, g.sigpending.getLsbD p = true
  ready : ∀ p q, g.sigpending.getLsbD p = true → answer p = .success q →
    (∀ i < p, g.sigpending.getLsbD i = true → ∀ q', answer i ≠ .success q') →
    r.code = 1 ∧ r.ready = some (p, q)
  notReady : g.sigpending ≠ 0 → ¬SomeReady answer g.sigpending → r.code = 0
  idle : g.sigpending = 0 → r.code = -1
  cleared : ∀ i, r.globals.sigpending.getLsbD i = true ↔
    g.sigpending.getLsbD i = true ∧ ¬(i ∈ r.polled ∧ answer i = .noData)
  kept : r.globals = { g with sigpending := r.globals.sigpending }

theorem ScanResult.exact {g : Globals} {r : ScanReturn} (nonempty : g.sigpending ≠ 0)
    (result : ScanResult answer ⟨g, g.sigpending, []⟩ r) : ScanExact answer g r := by
  obtain ⟨more, isMore, sorted, members⟩ := result.polled
  rw [List.nil_append] at isMore
  subst isMore
  dsimp only at members
  refine ⟨?_, sorted, fun p isPolled => ((members p).mp isPolled).1, ?_, ?_,
    fun empty => absurd empty nonempty, ?_, result.kept⟩
  · have nodup : r.polled.Nodup := sorted.imp fun below => below.ne
    rw [← List.toFinset_card_of_nodup nodup]
    refine Finset.card_le_card fun i isPolled => ?_
    rw [List.mem_toFinset, members] at isPolled
    exact mem_members.mpr isPolled.1
  · intro p q isSet found least
    have isReady : r.ready = some (p, q) := by
      cases ready : r.ready with
      | none => exact absurd found (result.ends.nothing ready p isSet q)
      | some slot =>
        obtain ⟨isSet', found', least'⟩ := result.ends.least slot.1 slot.2 ready
        rcases Nat.lt_trichotomy p slot.1 with lower | same | upper
        · exact absurd found (least' p lower isSet q)
        · rw [← same, found] at found'
          cases found'
          rw [same]
        · exact absurd found' (least slot.1 upper isSet' slot.2)
    rw [result.code, isReady]
    exact ⟨rfl, rfl⟩
  · intro _ noSlot
    cases ready : r.ready with
    | none =>
      rw [result.code, ready]
      rfl
    | some slot =>
      obtain ⟨isSet, found, -⟩ := result.ends.least slot.1 slot.2 ready
      exact absurd ⟨slot.1, slot.2, isSet, found⟩ noSlot
  · intro i
    rw [result.ends.pending, members]
    refine and_congr_right fun _ => not_congr ?_
    constructor
    · rintro ⟨isSet, noData, below⟩
      exact ⟨⟨isSet, fun p q same => (below p q same).le⟩, noData⟩
    · rintro ⟨⟨isSet, below⟩, noData⟩
      refine ⟨isSet, noData, fun p q same => lt_of_le_of_ne (below p q same) ?_⟩
      rintro rfl
      rw [(result.ends.least i q same).2.1] at noData
      cases noData

/-- A scan ends, and is exact, unless the last peripheral is pending and no pending
peripheral has a ready slot. -/
theorem getReadySignal_exact_iff (answer : Nat → PollResult) (g : Globals) :
    (∃ rounds r, getReadySignal answer rounds g = some r ∧ ScanExact answer g r) ↔
      (g.sigpending.getLsbD 63 = true → SomeReady answer g.sigpending) := by
  unfold getReadySignal
  by_cases empty : g.sigpending = 0
  · simp only [if_pos empty]
    refine iff_of_true ⟨0, _, rfl, ?_⟩ fun isSet => ?_
    · refine ⟨Nat.zero_le _, .nil, nofun, fun p q isSet => ?_,
        fun nonempty => absurd empty nonempty,
        fun _ => rfl, fun i => ?_, rfl⟩
      · rw [empty] at isSet
        simp at isSet
      · simp
    · rw [empty] at isSet
      simp at isSet
  · simp only [if_neg empty]
    constructor
    · rintro ⟨rounds, r, ran, -⟩ isLast
      by_contra noSlot
      rw [run_eq_none_of_last (s := ⟨g, g.sigpending, []⟩) isLast noSlot] at ran
      cases ran
    · intro stops
      obtain ⟨rounds, r, ran, result⟩ := exists_scanResult (s := ⟨g, g.sigpending, []⟩) stops
      exact ⟨rounds, r, ran, result.exact empty⟩

/-- Peripheral 63 is pending and busy: the scan never returns. -/
theorem getReadySignal_never_returns :
    (fun rounds => getReadySignal (fun _ => .busy) rounds
      { Globals.init with sigpending := bit 64 63 }) = fun _ => none := by
  funext rounds
  have isLast : (bit 64 63).getLsbD 63 = true := by decide
  unfold getReadySignal
  rw [if_neg (by decide)]
  refine run_eq_none_of_last (s := ⟨_, bit 64 63, []⟩) isLast ?_ rounds
  rintro ⟨p, q, -, found⟩
  cases found

end TrustWasm.Runtime
