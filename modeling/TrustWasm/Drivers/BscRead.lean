import TrustWasm.Drivers.BscWrite

/-!
# I2C reads

A read empties the FIFO whenever the status register says that it holds a byte, while it
waits for the end of the transfer and once more after it.  As for a write, every part of a
read stores the bytes it takes from the FIFO one after the other, and the parts compose.

Nothing bounds the wait for the end: a read returns if the controller is ever seen done at
one of the moments at which the outer loop looks.
-/

namespace TrustWasm.Drivers

open TrustWasm.Lib TrustWasm.Tee

namespace BscRead

variable (input : BscInput)

/-- From `r` to `r'` the read takes bytes from the FIFO and stores them in order. -/
def Advances (r r' : BscRead) : Prop :=
  ∃ bytes new, r'.received = r.received ++ bytes ∧ r.remain = r'.remain + bytes.length ∧
    r'.bsc.trace = r.bsc.trace ++ new ∧ pops new = bytes ∧
    stores new = storesFrom r.received.length bytes ∧ pushes new = [] ∧ lengths new = []

variable {r r' r'' : BscRead}

theorem Advances.trans (first : Advances r r') (second : Advances r' r'') :
    Advances r r'' := by
  obtain ⟨bytes, new, received, remain, trace, popped, stored, pushed, sized⟩ := first
  obtain ⟨bytes', new', received', remain', trace', popped', stored', pushed', sized'⟩ := second
  refine ⟨bytes ++ bytes', new ++ new', ?_, ?_, ?_, ?_, ?_, ?_, ?_⟩
  · rw [received', received, List.append_assoc]
  · rw [List.length_append]
    omega
  · rw [trace', trace, List.append_assoc]
  · rw [pops_append, popped, popped']
  · rw [stores_append, stored, stored', storesFrom_append, received, List.length_append]
  · rw [pushes_append, pushed, pushed', List.append_nil]
  · rw [lengths_append, sized, sized', List.append_nil]

theorem advances_refl (r : BscRead) : Advances r r :=
  ⟨[], [], (List.append_nil _).symm, rfl, (List.append_nil _).symm, rfl, rfl, rfl, rfl⟩

theorem advances_readStatus (r : BscRead) : Advances r (r.readStatus input) :=
  ⟨[], _, (List.append_nil _).symm, rfl, rfl, rfl, rfl, rfl, rfl⟩

theorem advances_pop (left : r.remain ≠ 0) : Advances r (r.pop input) :=
  ⟨[(input.fifo r.bsc.fetched).setWidth 8], _, rfl,
    (Nat.sub_add_cancel (Nat.pos_of_ne_zero left)).symm, rfl, rfl, rfl, rfl, rfl⟩

theorem advances_drain (count : Nat) (r : BscRead) (left : r.remain = count) :
    Advances r (drain input count r) := by
  induction count generalizing r with
  | zero => exact advances_refl r
  | succ count ih =>
    unfold drain
    split
    · have left' : (r.readStatus input).remain ≠ 0 := by
        show r.remain ≠ 0
        omega
      refine ((advances_readStatus input r).trans (advances_pop input left')).trans (ih _ ?_)
      show r.remain - 1 = count
      omega
    · exact advances_readStatus input r

theorem advances_again (goesOn : round input r = .again r') : Advances r r' := by
  unfold round at goesOn
  split at goesOn
  · cases goesOn
  · cases goesOn
    exact (advances_readStatus input r).trans (advances_drain input r.remain _ rfl)

theorem advances_done (ends : round input r = .done r') : Advances r r' := by
  unfold round at ends
  split at ends
  · cases ends
    exact advances_readStatus input r
  · cases ends

end BscRead

/-- What a read of `n` bytes that made the accesses `new` did: the bytes it took from the
FIFO, at most `n` of them, are at the start of the buffer in order; each code is given only
for what the last tests of the status register found; and the status was cleared. -/
structure ReadsData (n : Nat) (transfer : Transfer) (new : List BscAccess) : Prop where
  bytes_eq : transfer.bytes = pops new
  stored : stores new = storesFrom 0 (pops new)
  few : (pops new).length ≤ n
  success : transfer.res = teeSuccess → (pops new).length = n ∧
    ∃ before errTest clktTest, new = before ++ [.readStatus errTest, .readStatus clktTest,
      .writeStatus bscSClear] ∧ errTest &&& bscSErr = 0 ∧ clktTest &&& bscSClkt = 0
  noData : transfer.res = teeErrorNoData →
    ∃ before errTest shown, new = before ++ [.readStatus errTest, .readStatus shown,
      .writeStatus bscSClear] ∧ errTest &&& bscSErr ≠ 0
  badState : transfer.res = teeErrorBadState → (pops new).length < n
  cleared : new.getLast? = some (.writeStatus bscSClear)

variable {transfer : Transfer} {start : Nat} {waited : Waited}

/-- Accesses before the first byte is taken. -/
theorem ReadsData.prepend {n : Nat} {first new : List BscAccess} (reads : ReadsData n transfer new)
    (popped : pops first = []) (stored : stores first = []) :
    ReadsData n transfer (first ++ new) where
  bytes_eq := by rw [pops_append, popped, List.nil_append, reads.bytes_eq]
  stored := by
    rw [stores_append, stored, pops_append, popped, List.nil_append, List.nil_append, reads.stored]
  few := by
    rw [pops_append, popped, List.nil_append]
    exact reads.few
  success success := by
    obtain ⟨all, before, errTest, clktTest, new_eq, clear⟩ := reads.success success
    refine ⟨?_, first ++ before, errTest, clktTest, ?_, clear⟩
    · rw [pops_append, popped, List.nil_append, all]
    · rw [new_eq, List.append_assoc]
  noData noData := by
    obtain ⟨before, errTest, shown, new_eq, set⟩ := reads.noData noData
    refine ⟨first ++ before, errTest, shown, ?_, set⟩
    rw [new_eq, List.append_assoc]
  badState badState := by
    rw [pops_append, popped, List.nil_append]
    exact reads.badState badState
  cleared := by
    rw [List.getLast?_append, reads.cleared]
    rfl

/-- The end of a read that has taken `bytes` and lacks `remain`. -/
theorem Bsc.Outcome.readsData {remain : Nat} {res : TeeResult} {tests moved : List BscAccess}
    {bytes : List Byte} (outcome : Bsc.Outcome remain res tests) (popped : pops moved = bytes)
    (stored : stores moved = storesFrom 0 bytes) :
    ReadsData (remain + bytes.length) ⟨res, bytes⟩
      (moved ++ tests ++ [.writeStatus bscSClear]) := by
  have idle := outcome.idle
  have popped' : pops (moved ++ tests ++ [.writeStatus bscSClear]) = bytes := by
    rw [pops_append, pops_append, popped, idle.popped]
    exact List.append_nil _ |>.trans (List.append_nil _)
  refine ⟨popped'.symm, ?_, ?_, ?_, ?_, ?_, ?_⟩
  · rw [popped', stores_append, stores_append, stored, idle.stored]
    exact List.append_nil _ |>.trans (List.append_nil _)
  · rw [popped']
    omega
  · rintro rfl
    rw [popped']
    generalize code : teeSuccess = res at outcome
    cases outcome with
    | complete errTest clktTest clear unstretched all =>
      exact ⟨by omega, moved, errTest, clktTest, List.append_assoc _ _ _, clear, unstretched⟩
    | nack | stretched | incomplete => exact absurd code (by decide)
  · rintro rfl
    generalize code : teeErrorNoData = res at outcome
    cases outcome with
    | nack errTest shown set => exact ⟨moved, errTest, shown, List.append_assoc _ _ _, set⟩
    | complete | stretched | incomplete => exact absurd code (by decide)
  · rintro rfl
    rw [popped']
    generalize code : teeErrorBadState = res at outcome
    cases outcome with
    | incomplete errTest clktTest clear unstretched left => omega
    | complete | stretched | nack => exact absurd code (by decide)
  · exact List.getLast?_concat

namespace BscRead

theorem finish_eq (input : BscInput) (r : BscRead) :
    r.finish input =
      (⟨((r.drain input r.remain).bsc.outcome input (r.drain input r.remain).remain).1,
          (r.drain input r.remain).received⟩,
        ((r.drain input r.remain).bsc.outcome input (r.drain input r.remain).remain).2.log
          (.writeStatus bscSClear)) :=
  rfl

/-- A read that has its length and address set. -/
theorem receive_reads {input : BscInput} {rounds len : Nat} {s s' : Bsc}
    (ran : receive input rounds len s = some (transfer, s')) :
    I2cOutcome transfer.res ∧ ∃ new, s'.trace = s.trace ++ new ∧ ReadsData len transfer new ∧
      pushes new = [] ∧ lengths new = [] := by
  simp only [receive, Option.map_eq_some_iff] at ran
  obtain ⟨last, looped, finished⟩ := ran
  have advanced : Advances ⟨[], len, s.log _⟩ last :=
    Loop.Returns.invariant ⟨rounds, looped⟩ (advances_refl _)
      (fun _ _ advanced goesOn => advanced.trans (advances_again input goesOn))
      (fun _ _ advanced ends => advanced.trans (advances_done input ends))
  obtain ⟨bytes, moved, received, remain, trace, popped, stored, pushed, sized⟩ :=
    advanced.trans (advances_drain input last.remain last rfl)
  rw [finish_eq] at finished
  generalize drain input last.remain last = drained at *
  obtain ⟨tests, trace', outcome⟩ := drained.bsc.outcome_spec input drained.remain
  generalize drained.bsc.outcome input drained.remain = tested at *
  obtain ⟨res, bsc⟩ := tested
  cases finished
  change drained.received = [] ++ bytes at received
  change len = drained.remain + bytes.length at remain
  change drained.bsc.trace = s.trace ++ [_] ++ moved at trace
  rw [received, remain]
  refine ⟨outcome.i2cOutcome, _, ?_, (outcome.readsData popped stored).prepend
    (show pops [.writeControl (bscCI2cen ||| bscCSt ||| bscCRead)] = [] from rfl) rfl, ?_, ?_⟩
  · show bsc.trace ++ [_] = _
    rw [trace', trace, List.append_assoc, List.append_assoc, List.append_assoc, List.append_assoc]
  · rw [pushes_append, pushes_append, pushes_append, pushed, outcome.idle.pushed]
    rfl
  · rw [lengths_append, lengths_append, lengths_append, sized, outcome.idle.sized]
    rfl

end BscRead

namespace Bsc

variable {input : BscInput} {rounds : Nat} {s s' : Bsc}

/-- The time since `start` when the wait looks at the clock in state `s`. -/
def waitedFor (input : BscInput) (start : Nat) (s : Bsc) : BitVec 64 :=
  elapsed (.ofMicros start) (.ofMicros (input.clock s.ticks))

/-- The state after a round of the wait. -/
def waitNext (input : BscInput) (s : Bsc) : Bsc :=
  (s.readStatus input).readClock input

/-- The wait ends in state `s`. -/
def WaitOver (input : BscInput) (start : Nat) (s : Bsc) : Prop :=
  s.NextHas input bscSTa ∨ i2cStartTimeoutUs < s.waitedFor input start

theorem waitRound_again (goesOn : ¬WaitOver input start s) :
    waitRound input start s = .again (s.waitNext input) := by
  obtain ⟨inactive, early⟩ := not_or.mp goesOn
  unfold waitRound
  exact if_pos ⟨decide_eq_false inactive, BitVec.not_lt.mp early⟩

theorem waitRound_done (isOver : WaitOver input start s) :
    waitRound input start s =
      .done ⟨decide (s.NextHas input bscSTa), s.waitedFor input start, s.waitNext input⟩ := by
  unfold waitRound
  refine if_neg ?_
  rintro ⟨inactive, early⟩
  rcases isOver with active | late
  · exact of_decide_eq_false inactive active
  · exact BitVec.not_lt.mpr early late

theorem waitNext_idle (input : BscInput) (s : Bsc) :
    ∃ new, (s.waitNext input).trace = s.trace ++ new ∧ Idle new :=
  ⟨_, List.append_assoc _ _ _, rfl, rfl, rfl, rfl, rfl⟩

theorem iterate_waitNext_idle (input : BscInput) (k : Nat) (s : Bsc) :
    ∃ new, ((waitNext input)^[k] s).trace = s.trace ++ new ∧ Idle new := by
  induction k with
  | zero => exact ⟨[], (List.append_nil _).symm, ⟨rfl, rfl, rfl, rfl, rfl⟩⟩
  | succ k ih =>
    obtain ⟨new, trace, idle⟩ := ih
    obtain ⟨added, trace', idle'⟩ := waitNext_idle input ((waitNext input)^[k] s)
    refine ⟨new ++ added, ?_, idle.append idle'⟩
    rw [Function.iterate_succ_apply', trace', trace, List.append_assoc]

/-- The wait for the start of a 10-bit transfer takes no byte. -/
theorem wait_idle (returns : Loop.Returns (waitRound input start) s waited) :
    ∃ new, waited.bsc.trace = s.trace ++ new ∧ Idle new := by
  obtain ⟨k, -, isOver, ends⟩ := (Loop.returns_iff_first (WaitOver input start) (waitNext input)
    (fun _ => waitRound_again) fun _ isOver => ⟨_, waitRound_done isOver⟩).mp returns
  rw [waitRound_done isOver] at ends
  cases ends
  obtain ⟨new, trace, idle⟩ := iterate_waitNext_idle input (k + 1) s
  rw [Function.iterate_succ_apply'] at trace
  exact ⟨new, trace, idle⟩

theorem sendAddr10_trace (addr : BitVec 16) (s : Bsc) :
    ∃ new, (s.sendAddr10 addr).trace = s.trace ++ new ∧ pops new = [] ∧ stores new = [] :=
  ⟨_, ((List.append_assoc _ _ _).trans (List.append_assoc _ _ _)).trans (List.append_assoc _ _ _),
    rfl, rfl⟩

/-- A read that ends because a 10-bit transfer did not start. -/
theorem readsData_timeout (n : Nat) :
    ReadsData n ⟨teeErrorTimeout, []⟩ [.writeStatus bscSClear] where
  bytes_eq := rfl
  stored := rfl
  few := Nat.zero_le n
  success code := absurd code (by decide)
  noData code := absurd code (by decide)
  badState code := absurd code (by decide)
  cleared := rfl

section Call

variable {dev : BitVec 8} {addr len : BitVec 16} {flags : BitVec 8}

theorem i2cReadBytes_addr7 (bus : dev.toNat < i2cNum) (nonempty : len ≠ 0)
    (addr7 : flags &&& i2cAddr10 = 0) :
    i2cReadBytes input rounds dev addr false len flags s =
      BscRead.receive input rounds len.toNat
        ((s.clearUnlessCont input flags).select (len.setWidth 32) addr) := by
  have accepted : ¬(i2cNum ≤ dev.toNat ∨ len = 0 ∨ false = true) := by
    simp only [nonempty, Bool.false_eq_true, or_false]
    omega
  simp only [i2cReadBytes, if_neg accepted, if_neg (not_not.mpr addr7)]

/-- The state in which the clock of a 10-bit read is started. -/
def addressed (input : BscInput) (addr : BitVec 16) (flags : BitVec 8) (s : Bsc) : Bsc :=
  (s.clearUnlessCont input flags).sendAddr10 addr

theorem i2cReadBytes_addr10 (bus : dev.toNat < i2cNum) (nonempty : len ≠ 0)
    (addr10 : flags &&& i2cAddr10 ≠ 0) :
    i2cReadBytes input rounds dev addr false len flags s =
      (Loop.run (waitRound input (input.clock (s.addressed input addr flags).ticks)) rounds
        (((s.addressed input addr flags).readClock input).readClock input)).bind
          (afterWait input rounds len) := by
  have accepted : ¬(i2cNum ≤ dev.toNat ∨ len = 0 ∨ false = true) := by
    simp only [nonempty, Bool.false_eq_true, or_false]
    omega
  simp only [i2cReadBytes, if_neg accepted, if_pos addr10, addressed]

theorem afterWait_reads (ran : afterWait input rounds len waited = some (transfer, s')) :
    I2cOutcome transfer.res ∧
      ∃ new, s'.trace = waited.bsc.trace ++ new ∧ ReadsData len.toNat transfer new := by
  unfold afterWait at ran
  split at ran
  · cases ran
    exact ⟨by simp [I2cOutcome], _, rfl, readsData_timeout len.toNat⟩
  · split at ran
    · obtain ⟨outcome, new, trace, reads, -⟩ := BscRead.receive_reads ran
      exact ⟨outcome, _, trace.trans (List.append_assoc _ _ _), reads.prepend rfl rfl⟩
    · cases ran
      exact ⟨by simp [I2cOutcome], _, rfl, readsData_timeout len.toNat⟩

theorem readClocks_idle (input : BscInput) (s : Bsc) :
    ∃ new, ((s.readClock input).readClock input).trace = s.trace ++ new ∧ Idle new :=
  ⟨_, List.append_assoc _ _ _, rfl, rfl, rfl, rfl, rfl⟩

theorem addressed_trace (input : BscInput) (addr : BitVec 16) (flags : BitVec 8) (s : Bsc) :
    ∃ new, (((s.addressed input addr flags).readClock input).readClock input).trace =
      s.trace ++ new ∧ pops new = [] ∧ stores new = [] := by
  obtain ⟨cleared, trace, idle, -⟩ := s.clearUnlessCont_idle input flags
  obtain ⟨sent, trace', popped, stored⟩ := (s.clearUnlessCont input flags).sendAddr10_trace addr
  obtain ⟨read, trace'', idle'⟩ := (s.addressed input addr flags).readClocks_idle input
  refine ⟨cleared ++ (sent ++ read), ?_, ?_, ?_⟩
  · rw [trace'', addressed, trace', trace, List.append_assoc, List.append_assoc]
  · rw [pops_append, pops_append, idle.popped, popped, idle'.popped]
    rfl
  · rw [stores_append, stores_append, idle.stored, stored, idle'.stored]
    rfl

theorem i2cReadBytes_reads (bus : dev.toNat < i2cNum) (nonempty : len ≠ 0)
    (ran : i2cReadBytes input rounds dev addr false len flags s = some (transfer, s')) :
    I2cOutcome transfer.res ∧
      ∃ new, s'.trace = s.trace ++ new ∧ ReadsData len.toNat transfer new := by
  by_cases addr7 : flags &&& i2cAddr10 = 0
  · rw [i2cReadBytes_addr7 bus nonempty addr7] at ran
    obtain ⟨outcome, new, trace, reads, -⟩ := BscRead.receive_reads ran
    obtain ⟨cleared, trace', idle, -⟩ := s.clearUnlessCont_idle input flags
    obtain ⟨opened, trace'', -, -, -, popped, stored, -⟩ :=
      (s.clearUnlessCont input flags).select_trace (len.setWidth 32) addr
    refine ⟨outcome, cleared ++ (opened ++ new), ?_, ?_⟩
    · rw [trace, trace'', trace', List.append_assoc, List.append_assoc]
    · exact (reads.prepend popped stored).prepend idle.popped idle.stored
  · rw [i2cReadBytes_addr10 bus nonempty addr7, Option.bind_eq_some_iff] at ran
    obtain ⟨waited, looped, after⟩ := ran
    obtain ⟨outcome, new, trace, reads⟩ := afterWait_reads after
    obtain ⟨idled, trace', idle⟩ := wait_idle ⟨rounds, looped⟩
    obtain ⟨begun, trace'', popped, stored⟩ := s.addressed_trace input addr flags
    refine ⟨outcome, begun ++ (idled ++ new), ?_, ?_⟩
    · rw [trace, trace', trace'', List.append_assoc, List.append_assoc]
    · exact (reads.prepend idle.popped idle.stored).prepend popped stored

/-- `i2c_read_bytes` stores what it takes from the FIFO and reports what it found, whatever
the controller answers. -/
theorem i2cReadBytes_exact (bus : dev.toNat < i2cNum) (nonempty : len ≠ 0)
    (ran : i2cReadBytes input rounds dev addr false len flags s = some (transfer, s')) :
    ∃ new, s'.trace = s.trace ++ new ∧ ReadsData len.toNat transfer new :=
  (i2cReadBytes_reads bus nonempty ran).2

/-- A controller whose transfer is done and whose FIFO always holds a byte. -/
def ready (fifo : Nat → BitVec 32) : BscInput where
  control _ := 0
  status _ := bscSDone ||| bscSRxd
  fifo := fifo
  clock _ := 0

/-- Two bytes read from bus 0. -/
theorem i2cReadBytes_two_bytes :
    ∃ s', i2cReadBytes (ready fun k => BitVec.ofNat 32 (5 + k)) 1 0 0x50 false 2 0
        ⟨0, 0, 0, 0, []⟩ = some (⟨teeSuccess, [5, 6]⟩, s') ∧
      ∃ new, s'.trace = [] ++ new ∧ ReadsData 2 ⟨teeSuccess, [5, 6]⟩ new := by
  obtain ⟨s', ran⟩ : ∃ s', i2cReadBytes (ready fun k => BitVec.ofNat 32 (5 + k)) 1 0 0x50 false 2 0
      ⟨0, 0, 0, 0, []⟩ = some (⟨teeSuccess, [5, 6]⟩, s') :=
    ⟨_, rfl⟩
  exact ⟨s', ran, i2cReadBytes_exact (by decide) (by decide) ran⟩

end Call

end Bsc

/-! ## Reads that return -/

namespace BscRead

variable (status : Nat → BitVec 32)

/-- The bytes left and the next status read after the loop that empties the FIFO, entered
with `remain` bytes left at the status read `position`. -/
def drainFrom : Nat → Nat → Nat × Nat
  | 0, position => (0, position)
  | remain + 1, position =>
    if status position &&& bscSRxd ≠ 0 then
      drainFrom remain (position + 1)
    else
      (remain + 1, position + 1)

/-- The same from one test of the outer loop to the next. -/
def nextTest (place : Nat × Nat) : Nat × Nat :=
  drainFrom status place.1 (place.2 + 1)

/-- One of the tests of the outer loop finds the transfer done. -/
def SeesDone (len position : Nat) : Prop :=
  ∃ k, status ((nextTest status)^[k] (len, position)).2 &&& bscSDone ≠ 0

/-- What of a state decides which status reads follow. -/
def place (r : BscRead) : Nat × Nat :=
  (r.remain, r.bsc.statuses)

theorem place_drain (input : BscInput) (count : Nat) (r : BscRead) (left : r.remain = count) :
    (drain input count r).place = drainFrom input.status count r.bsc.statuses := by
  induction count generalizing r with
  | zero => exact congrArg (·, r.bsc.statuses) left
  | succ count ih =>
    unfold drain drainFrom
    split
    · refine ih _ ?_
      show r.remain - 1 = count
      omega
    · exact congrArg (·, r.bsc.statuses + 1) left

theorem receive_returns_iff (input : BscInput) (len : Nat) (s : Bsc) :
    (∃ rounds result, receive input rounds len s = some result) ↔
      SeesDone input.status len s.statuses := by
  let start : BscRead := ⟨[], len, s.log (.writeControl (bscCI2cen ||| bscCSt ||| bscCRead))⟩
  let next (r : BscRead) : BscRead := drain input r.remain (r.readStatus input)
  have places : Function.Semiconj place next (nextTest input.status) := fun r =>
    place_drain input r.remain (r.readStatus input) rfl
  have loops : (∃ last, Loop.Returns (round input) start last) ↔
      ∃ k, (next^[k] start).bsc.NextHas input bscSDone :=
    Loop.exists_returns_iff (fun r : BscRead => r.bsc.NextHas input bscSDone) next
      (fun _ waiting => if_neg waiting) (fun _ done => ⟨_, if_pos done⟩)
  have tests (k : Nat) : (next^[k] start).bsc.statuses =
      ((nextTest input.status)^[k] (len, s.statuses)).2 :=
    congrArg Prod.snd (places.iterate_right k start)
  calc (∃ rounds result, receive input rounds len s = some result)
      ↔ ∃ last, Loop.Returns (round input) start last := by
        simp only [receive, Option.map_eq_some_iff, Loop.Returns]
        constructor
        · rintro ⟨rounds, result, last, looped, -⟩
          exact ⟨last, rounds, looped⟩
        · rintro ⟨last, rounds, looped⟩
          exact ⟨rounds, _, last, looped, rfl⟩
    _ ↔ SeesDone input.status len s.statuses := by
        rw [loops]
        simp only [Bsc.NextHas, tests, SeesDone]

end BscRead

namespace Bsc

/-- A read returns: its arguments are rejected, or the transfer is seen done.  To a 10-bit
address the wait for the start must end first, and when it ends by its timeout the read
returns at once. -/
def ReadReturns (input : BscInput) (dev : BitVec 8) (isNull : Bool) (len : BitVec 16)
    (flags : BitVec 8) (s : Bsc) : Prop :=
  i2cNum ≤ dev.toNat ∨ len = 0 ∨ isNull = true ∨
    if flags &&& i2cAddr10 = 0 then
      BscRead.SeesDone input.status len.toNat s.statuses
    else
      let elapsed (k : Nat) : BitVec 64 :=
        Drivers.elapsed (.ofMicros (input.clock s.ticks))
          (.ofMicros (input.clock (s.ticks + 2 + k)))
      let isOver (k : Nat) : Prop :=
        input.status (s.statuses + k) &&& bscSTa ≠ 0 ∨ i2cStartTimeoutUs < elapsed k
      ∃ k, (∀ j < k, ¬isOver j) ∧ isOver k ∧
        (i2cStartTimeoutUs < elapsed k ∨
          BscRead.SeesDone input.status len.toNat (s.statuses + k + 1))

/-- The address is sent by writes alone. -/
theorem sendAddr10_counters (addr : BitVec 16) (s : Bsc) :
    (s.sendAddr10 addr).statuses = s.statuses ∧ (s.sendAddr10 addr).ticks = s.ticks :=
  ⟨rfl, rfl⟩

theorem clearUnlessCont_ticks (input : BscInput) (flags : BitVec 8) (s : Bsc) :
    (s.clearUnlessCont input flags).ticks = s.ticks := by
  unfold clearUnlessCont
  split <;> rfl

theorem addressed_statuses (input : BscInput) (addr : BitVec 16) (flags : BitVec 8) (s : Bsc) :
    (s.addressed input addr flags).statuses = s.statuses :=
  (sendAddr10_counters addr _).1.trans (clearUnlessCont_statuses input flags s)

theorem addressed_ticks (input : BscInput) (addr : BitVec 16) (flags : BitVec 8) (s : Bsc) :
    (s.addressed input addr flags).ticks = s.ticks :=
  (sendAddr10_counters addr _).2.trans (clearUnlessCont_ticks input flags s)

theorem iterate_waitNext_counters (input : BscInput) (k : Nat) (s : Bsc) :
    ((waitNext input)^[k] s).statuses = s.statuses + k ∧
      ((waitNext input)^[k] s).ticks = s.ticks + k := by
  induction k with
  | zero => exact ⟨rfl, rfl⟩
  | succ k ih =>
    rw [Function.iterate_succ_apply']
    exact ⟨congrArg (· + 1) ih.1, congrArg (· + 1) ih.2⟩

variable (input : BscInput) (dev : BitVec 8) (addr : BitVec 16) (isNull : Bool)
  (len : BitVec 16) (flags : BitVec 8) (s : Bsc)

theorem afterWait_returns_iff (waited : Waited) :
    (∃ rounds result, afterWait input rounds len waited = some result) ↔
      i2cStartTimeoutUs < waited.elapsed ∨ waited.transferActive = false ∨
        BscRead.SeesDone input.status len.toNat waited.bsc.statuses := by
  unfold afterWait
  by_cases late : i2cStartTimeoutUs < waited.elapsed
  · simp [late]
  · by_cases active : waited.transferActive = true
    · have received := BscRead.receive_returns_iff input len.toNat
        (waited.bsc.log (.writeDlen (len.setWidth 32)))
      simp only [late, active, if_true, if_false, false_or, Bool.true_eq_false] at received ⊢
      exact received
    · simp [late, active]

/-- More rounds give the same result of a 10-bit read. -/
theorem afterWait_of_le {few many : Nat} {result : Transfer × Bsc}
    (ran : afterWait input few len waited = some result) (le : few ≤ many) :
    afterWait input many len waited = some result := by
  unfold afterWait at ran ⊢
  split at ran
  · rename_i late
    rw [if_pos late]
    exact ran
  · rename_i early
    rw [if_neg early]
    split at ran
    · rename_i active
      rw [if_pos active]
      simp only [BscRead.receive, Option.map_eq_some_iff] at ran ⊢
      obtain ⟨last, looped, finished⟩ := ran
      exact ⟨last, Loop.run_of_le looped le, finished⟩
    · rename_i inactive
      rw [if_neg inactive]
      exact ran

theorem wait_returns_iff (start : Nat) :
    (∃ rounds result, (Loop.run (waitRound input start) rounds s).bind
        (afterWait input rounds len) = some result) ↔
      ∃ k, (∀ j < k, ¬WaitOver input start ((waitNext input)^[j] s)) ∧
        WaitOver input start ((waitNext input)^[k] s) ∧
        (i2cStartTimeoutUs < ((waitNext input)^[k] s).waitedFor input start ∨
          BscRead.SeesDone input.status len.toNat (((waitNext input)^[k] s).statuses + 1)) := by
  have loops (waited : Waited) : Loop.Returns (waitRound input start) s waited ↔ _ :=
    Loop.returns_iff_first (WaitOver input start) (waitNext input) (fun _ => waitRound_again)
      fun _ isOver => ⟨_, waitRound_done isOver⟩
  have after {v : Bsc} (isOver : WaitOver input start v) :
      (∃ rounds result, afterWait input rounds len ⟨decide (v.NextHas input bscSTa),
        v.waitedFor input start, v.waitNext input⟩ = some result) ↔
      (i2cStartTimeoutUs < v.waitedFor input start ∨
        BscRead.SeesDone input.status len.toNat (v.statuses + 1)) := by
    rw [afterWait_returns_iff]
    refine or_congr_right' fun early => ?_
    have active : decide (v.NextHas input bscSTa) ≠ false :=
      decide_eq_false_iff_not.not.mpr (not_not.mpr (isOver.resolve_right early))
    exact or_iff_right active
  constructor
  · rintro ⟨rounds, result, ran⟩
    obtain ⟨waited, looped, ran⟩ := Option.bind_eq_some_iff.mp ran
    obtain ⟨k, before, isOver, ends⟩ := (loops _).mp ⟨rounds, looped⟩
    rw [waitRound_done isOver] at ends
    cases ends
    exact ⟨k, before, isOver, (after isOver).mp ⟨rounds, result, ran⟩⟩
  · rintro ⟨k, before, isOver, returns⟩
    obtain ⟨rounds, result, ran⟩ := (after isOver).mpr returns
    obtain ⟨rounds', looped⟩ := (loops _).mpr ⟨k, before, isOver, waitRound_done isOver⟩
    refine ⟨max rounds rounds', result, Option.bind_eq_some_iff.mpr ⟨_,
      Loop.run_of_le looped (Nat.le_max_right _ _), ?_⟩⟩
    exact afterWait_of_le input len ran (Nat.le_max_left _ _)

theorem i2cReadBytes_returns_iff :
    (∃ rounds result, i2cReadBytes input rounds dev addr isNull len flags s = some result) ↔
      ReadReturns input dev isNull len flags s := by
  by_cases rejected : i2cNum ≤ dev.toNat ∨ len = 0 ∨ isNull = true
  · refine iff_of_true ⟨0, (⟨teeErrorBadParameters, []⟩, s), if_pos rejected⟩ ?_
    rcases rejected with absent | empty | null
    · exact .inl absent
    · exact .inr (.inl empty)
    · exact .inr (.inr (.inl null))
  · simp only [not_or, Nat.not_le, Bool.not_eq_true] at rejected
    obtain ⟨bus, nonempty, rfl⟩ := rejected
    have accepted : ReadReturns input dev false len flags s ↔ _ :=
      (or_iff_right (Nat.not_le.mpr bus)).trans
        ((or_iff_right nonempty).trans (or_iff_right Bool.false_ne_true))
    rw [accepted]
    by_cases addr7 : flags &&& i2cAddr10 = 0
    · simp only [i2cReadBytes_addr7 bus nonempty addr7, if_pos addr7]
      rw [BscRead.receive_returns_iff, ← clearUnlessCont_statuses input flags s]
      rfl
    · simp only [i2cReadBytes_addr10 bus nonempty addr7, if_neg addr7]
      rw [wait_returns_iff]
      have ticks := addressed_ticks input addr flags s
      have counters (k : Nat) := iterate_waitNext_counters input k
        (((s.addressed input addr flags).readClock input).readClock input)
      have statuses' (k : Nat) := (counters k).1.trans
        (congrArg (· + k) (addressed_statuses input addr flags s))
      have ticks' (k : Nat) := (counters k).2.trans (congrArg (· + 2 + k) ticks)
      simp only [WaitOver, NextHas, waitedFor, statuses', ticks', ticks]

/-! ## Transfers that return -/

/-- The transfers all return, the writes after a number of accesses that only depends on the
length, exactly when the read does. -/
theorem transfers_return_iff (data head : Option (Nat → Byte)) (headLen : BitVec 16) :
    ((∃ rounds res s', i2cWriteBytes input rounds dev addr data len flags s = some (res, s') ∧
          s'.trace.length ≤ s.trace.length + (30000 * len.toNat + 48)) ∧
        (∃ rounds res s', i2cWriteWithPrefix input rounds dev addr head headLen data len flags s =
            some (res, s') ∧
          s'.trace.length ≤ s.trace.length + (30000 * (headLen.toNat + len.toNat) + 48)) ∧
        ∃ rounds result, i2cReadBytes input rounds dev addr isNull len flags s = some result) ↔
      ReadReturns input dev isNull len flags s := by
  rw [i2cReadBytes_returns_iff]
  constructor
  · exact fun returns => returns.2.2
  · exact fun returns => ⟨i2cWriteBytes_returns input dev addr data len flags s,
      i2cWriteWithPrefix_returns input dev addr data len flags s head headLen, returns⟩

/-- A controller that never sets a status bit, with a clock that goes on. -/
def silent : BscInput where
  control _ := 0
  status _ := 0
  fifo _ := 0
  clock k := k

/-- A read of one byte on bus 0 from a controller that never gets done never returns,
however far the clock goes. -/
theorem i2cReadBytes_silent_never_returns :
    (∀ bound, ∃ k, bound < silent.clock k) ∧
      ∀ rounds, i2cReadBytes silent rounds 0 0x50 false 1 0 ⟨0, 0, 0, 0, []⟩ = none := by
  refine ⟨fun bound => ⟨bound + 1, Nat.lt_succ_self bound⟩, fun rounds => ?_⟩
  by_contra returned
  obtain ⟨result, ran⟩ := Option.ne_none_iff_exists'.mp returned
  have returns := (i2cReadBytes_returns_iff silent 0 0x50 false 1 0 ⟨0, 0, 0, 0, []⟩).mp
    ⟨rounds, result, ran⟩
  rcases returns with absent | empty | null | ⟨k, seen⟩
  · exact absurd absent (by decide)
  · exact absurd empty (by decide)
  · exact Bool.false_ne_true null
  · exact seen BitVec.zero_and

end Bsc

end TrustWasm.Drivers
