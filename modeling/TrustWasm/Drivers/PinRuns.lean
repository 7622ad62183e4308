import TrustWasm.Drivers.PinFunction

/-!
# Which pin functions survive

Calls in progress never target the same pin: those for a bus hold its mutex, and `gpio_init`
is used for the other pins.  While every word is written back as it was read, a write changes
one field and no call loses a function it has selected.  Without that a write takes back what
another call has written to the same register in the meantime.
-/

namespace TrustWasm.Drivers

open TrustWasm.Lib Function

/-! ## What a step does -/

/-- The steps of a thread by what they change. -/
inductive PinState.Moves (s : PinState) (thread : Nat) : PinStep → PinState → Prop where
  | start {call : PinCall} {holder : Mutex → Option Nat} :
      s.threads thread = none → holderAtStart s.holder thread call.effect = some holder →
      Moves s thread (.start call)
        { s with
          holder := holder
          threads := update s.threads thread (some ⟨call, call.writes, none⟩) }
  | read {call : PinCall} {write : PinWrite} {rest : List PinWrite} :
      s.threads thread = some ⟨call, write :: rest, none⟩ →
      Moves s thread .ioRead32
        { s with
          threads := update s.threads thread
            (some ⟨call, write :: rest, some (s.gpfsel write.bank)⟩) }
  | write {call : PinCall} {write : PinWrite} {rest : List PinWrite} {word : BitVec 32} :
      s.threads thread = some ⟨call, write :: rest, some word⟩ →
      Moves s thread .ioWrite32
        { s with
          gpfsel := update s.gpfsel write.bank (write.apply word)
          threads := update s.threads thread (some ⟨call, rest, none⟩) }
  | finish {call : PinCall} :
      s.threads thread = some ⟨call, [], none⟩ →
      Moves s thread .finish
        { s with
          holder := holderAtFinish s.holder call.effect
          threads := update s.threads thread none
          completed := call :: s.completed }

variable {s s' : PinState} {call : PinCall} {mutex : Mutex} {function : FunctionSelect}
    {write : PinWrite} {start : Nat → BitVec 32} {holder : Mutex → Option Nat}

theorem PinState.moves_of_next {thread : Nat} {step : PinStep}
    (stepped : s.next thread step = some s') : s.Moves thread step s' := by
  cases step with
  | start call =>
    unfold PinState.next at stepped
    dsimp only at stepped
    split at stepped
    · cases stepped
    · rename_i idle
      obtain ⟨holder, started, rfl⟩ := Option.map_eq_some_iff.mp stepped
      exact .start idle started
  | ioRead32 =>
    unfold PinState.next at stepped
    dsimp only at stepped
    split at stepped
    · rename_i found
      cases stepped
      exact .read found
    · cases stepped
  | ioWrite32 =>
    unfold PinState.next at stepped
    dsimp only at stepped
    split at stepped
    · rename_i found
      cases stepped
      exact .write found
    · cases stepped
  | finish =>
    unfold PinState.next at stepped
    dsimp only at stepped
    split at stepped
    · rename_i found
      cases stepped
      exact .finish found
    · cases stepped

/-! ## The pins of a call -/

namespace PinCall

variable {call' : PinCall} {mutex' : Mutex} {pin : Nat}

/-- The call locks or unlocks the mutex. -/
def Uses (call : PinCall) (mutex : Mutex) : Prop :=
  call.effect = .lock mutex ∨ call.effect = .unlock mutex

/-- The pins of the bus of a mutex. -/
def pinsOf : Mutex → List Nat
  | .i2c bus => if bus = 1 then [2, 3] else [0, 1]
  | .spi _ => [7, 8, 9, 10, 11]

/-- The mutexes of the buses that exist. -/
def mutexes : List Mutex := [.i2c 0, .i2c 1, .spi 0]

theorem map_pin_gpioFsel (function : FunctionSelect) (pins : List Nat) :
    (gpioFsel function pins).map (·.pin) = pins := by
  simp [gpioFsel, Function.comp_def]

theorem mem_of_targets {pins : List Nat} (selects : call.writes = gpioFsel function pins)
    (targets : call.Targets pin) : pin ∈ pins := by
  obtain ⟨write, member, rfl⟩ := targets
  rw [selects] at member
  have mapped := List.mem_map_of_mem (f := fun write : PinWrite => write.pin) member
  rwa [map_pin_gpioFsel] at mapped

/-- A call for the pins of a bus that exists. -/
theorem i2c_writes {dev : BitVec 8} (present : dev.toNat < i2cNum)
    (uses : call.Uses (.i2c dev.toNat)) (selects : call.writes = gpioFsel function (i2cPins dev)) :
    ∃ mutex ∈ mutexes, call.Uses mutex ∧ ∀ pin, call.Targets pin → pin ∈ pinsOf mutex := by
  have known : dev = 0 ∨ dev = 1 := by
    unfold i2cNum at present
    rcases (by omega : dev.toNat = 0 ∨ dev.toNat = 1) with zero | one
    · exact .inl (BitVec.eq_of_toNat_eq zero)
    · exact .inr (BitVec.eq_of_toNat_eq one)
  rcases known with rfl | rfl
  · exact ⟨.i2c 0, by decide, uses, fun pin => mem_of_targets selects⟩
  · exact ⟨.i2c 1, by decide, uses, fun pin => mem_of_targets selects⟩

theorem spi_writes {bus : BitVec 8} (present : bus.toNat < spiNum)
    (uses : call.Uses (.spi bus.toNat)) (selects : call.writes = gpioFsel function (spiPins bus)) :
    ∃ mutex ∈ mutexes, call.Uses mutex ∧ ∀ pin, call.Targets pin → pin ∈ pinsOf mutex := by
  obtain rfl : bus = 0 := by
    unfold spiNum at present
    exact BitVec.eq_of_toNat_eq (by show bus.toNat = 0; omega)
  exact ⟨.spi 0, by decide, uses, fun pin => mem_of_targets selects⟩

/-- A call selects functions for the pins of the bus whose mutex it uses, or it is a call of
`gpio_init`, or it selects none. -/
theorem cases_writes (call : PinCall) :
    (∃ mutex ∈ mutexes, call.Uses mutex ∧ ∀ pin, call.Targets pin → pin ∈ pinsOf mutex) ∨
      (∃ pin mode, call = gpioInit pin mode) ∨ call.writes = [] := by
  cases call with
  | i2cAcquire dev =>
    by_cases present : dev.toNat < i2cNum
    · exact .inl (i2c_writes present (.inl (if_pos present)) (if_neg (by omega)))
    · exact .inr (.inr (if_pos (by omega)))
  | i2cRelease dev =>
    by_cases present : dev.toNat < i2cNum
    · exact .inl (i2c_writes present (.inr (if_pos present)) (if_neg (by omega)))
    · exact .inr (.inr (if_pos (by omega)))
  | spiAcquire bus cs mode clk =>
    by_cases present : bus.toNat < spiNum ∧ cs.toNat < spiCsNum
    · exact .inl (spi_writes present.1 (.inl (if_pos present)) (if_neg (by omega)))
    · exact .inr (.inr (if_pos (by omega)))
  | spiRelease bus =>
    by_cases present : bus.toNat < spiNum
    · exact .inl (spi_writes present (.inr (if_pos present)) (if_neg (by omega)))
    · exact .inr (.inr (if_pos (by omega)))
  | gpioInit pin mode => exact .inr (.inl ⟨pin, mode, rfl⟩)

theorem nodup_i2cPins (dev : BitVec 8) : (i2cPins dev).Nodup := by
  unfold i2cPins
  split
  · decide
  · decide

theorem nodup_spiPins (bus : BitVec 8) : (spiPins bus).Nodup := by
  unfold spiPins
  split
  · decide
  · decide

/-- A call selects at most one function for a pin. -/
theorem nodup_pins (call : PinCall) : (call.writes.map (·.pin)).Nodup := by
  cases call with
  | i2cAcquire dev | i2cRelease dev =>
    unfold writes
    dsimp only
    split
    · exact List.nodup_nil
    · rw [map_pin_gpioFsel]
      exact nodup_i2cPins dev
  | spiAcquire bus cs mode clk | spiRelease bus =>
    unfold writes
    dsimp only
    split
    · exact List.nodup_nil
    · rw [map_pin_gpioFsel]
      exact nodup_spiPins bus
  | gpioInit pin mode =>
    unfold writes
    dsimp only
    split
    · exact List.nodup_nil
    · split
      · exact List.nodup_singleton _
      · exact List.nodup_nil

/-- The function that is written is the one the call selects. -/
theorem functionFor_of_mem (member : write ∈ call.writes) :
    call.functionFor write.pin = some write.function := by
  have found : (call.writes.find? (·.pin == write.pin)).isSome := by
    rw [List.find?_isSome]
    exact ⟨write, member, beq_self_eq_true _⟩
  obtain ⟨write', first⟩ := Option.isSome_iff_exists.mp found
  have same : write'.pin = write.pin := by simpa using List.find?_some first
  have equal : write' = write :=
    List.inj_on_of_nodup_map call.nodup_pins (List.mem_of_find?_eq_some first) member same
  unfold functionFor
  rw [first, equal]
  rfl

theorem functionFor_eq_none (notTargeted : ¬call.Targets pin) : call.functionFor pin = none := by
  unfold functionFor
  rw [Option.map_eq_none_iff, List.find?_eq_none]
  intro write member same
  exact notTargeted ⟨write, member, by simpa using same⟩

/-- No pin is targeted by both calls. -/
def Apart (call call' : PinCall) : Prop :=
  ∀ pin, call.Targets pin → ¬call'.Targets pin

theorem Apart.symm (apart : call.Apart call') : call'.Apart call :=
  fun pin targets targets' => apart pin targets' targets

theorem disjoint_pinsOf : ∀ mutex ∈ mutexes, ∀ mutex' ∈ mutexes, mutex ≠ mutex' →
    ∀ pin ∈ pinsOf mutex, pin ∉ pinsOf mutex' := by
  decide

theorem pinsOf_busPins : ∀ mutex ∈ mutexes, ∀ pin ∈ pinsOf mutex, pin ∈ busPins := by
  decide

theorem eq_of_targets_gpioInit {pin' : BitVec 32} {mode : PinMode}
    (targets : (gpioInit pin' mode).Targets pin) : pin = pin'.toNat := by
  obtain ⟨write, member, rfl⟩ := targets
  unfold writes at member
  dsimp only at member
  split at member
  · exact absurd member List.not_mem_nil
  · split at member
    · rw [List.mem_singleton.mp member]
    · exact absurd member List.not_mem_nil

theorem not_targets_of_nil (none : call.writes = []) : ¬call.Targets pin := by
  rintro ⟨write, member, -⟩
  rw [none] at member
  exact absurd member List.not_mem_nil

theorem Uses.unique (uses : call.Uses mutex) (uses' : call.Uses mutex') : mutex = mutex' := by
  unfold Uses at uses uses'
  rcases uses with locks | unlocks
  · rw [locks] at uses'
    simpa using uses'
  · rw [unlocks] at uses'
    simpa using uses'

theorem Uses.not_gpioInit {pin' : BitVec 32} {mode : PinMode}
    (uses : (gpioInit pin' mode).Uses mutex) : False := by
  rcases uses with locks | unlocks
  · cases locks
  · cases unlocks

/-- The pins of a call that uses a mutex are those of its bus. -/
theorem Uses.pinsOf (uses : call.Uses mutex) (targets : call.Targets pin) :
    mutex ∈ mutexes ∧ pin ∈ pinsOf mutex := by
  rcases call.cases_writes with ⟨mutex', member, uses', within⟩ | ⟨pin', mode, rfl⟩ | none
  · obtain rfl := uses.unique uses'
    exact ⟨member, within pin targets⟩
  · exact uses.not_gpioInit.elim
  · exact absurd targets (not_targets_of_nil none)

/-- A call that uses a mutex is apart from every call that does not, `gpio_init` being used
for the other pins. -/
theorem apart_of_uses (uses : call.Uses mutex) (others : call'.OnOtherPins)
    (free : ¬call'.Uses mutex) : call.Apart call' := by
  intro pin targets targets'
  obtain ⟨member, within⟩ := uses.pinsOf targets
  rcases call'.cases_writes with ⟨mutex', member', uses', within'⟩ | ⟨pin', mode, rfl⟩ | none
  · have different : mutex ≠ mutex' := fun same => free (same ▸ uses')
    exact disjoint_pinsOf mutex member mutex' member' different pin within (within' pin targets')
  · rw [eq_of_targets_gpioInit targets'] at within
    exact others (pinsOf_busPins mutex member _ within)
  · exact not_targets_of_nil none targets'

end PinCall

/-! ## Calls in progress exclude each other -/

namespace PinState

variable {thread : Nat} {step : PinStep}

/-- The calls in progress. -/
def calls (s : PinState) (thread : Nat) : Option PinCall :=
  (s.threads thread).map PinRun.call

theorem calls_of_threads {run : PinRun} (found : s.threads thread = some run) :
    s.calls thread = some run.call := by
  rw [calls, found]
  rfl

/-- A thread in a call for a bus holds its mutex, and no two calls target one pin. -/
structure Exclusive (s : PinState) : Prop where
  others : ∀ i call, s.calls i = some call → call.OnOtherPins
  owns : ∀ i call, s.calls i = some call → ∀ mutex, call.Uses mutex → s.holder mutex = some i
  apart : ∀ i call, s.calls i = some call → ∀ j call', s.calls j = some call' → i ≠ j →
    call.Apart call'

theorem holderAtStart_holds {holder' : Mutex → Option Nat}
    (started : holderAtStart holder thread call.effect = some holder') (uses : call.Uses mutex) :
    holder' mutex = some thread ∧ ∀ other ≠ thread, holder mutex ≠ some other := by
  rcases uses with locks | unlocks
  · rw [locks] at started
    unfold holderAtStart at started
    dsimp only at started
    split at started
    · rename_i free
      cases started
      rw [update_self, free]
      exact ⟨rfl, fun _ _ => nofun⟩
    · cases started
  · rw [unlocks] at started
    unfold holderAtStart at started
    dsimp only at started
    split at started
    · rename_i held
      cases started
      rw [held]
      exact ⟨rfl, fun other different same => different (Option.some.inj same).symm⟩
    · cases started

theorem holderAtStart_keeps {holder' : Mutex → Option Nat} {effect : LockEffect Mutex} {other : Nat}
    (started : holderAtStart holder thread effect = some holder')
    (held : holder mutex = some other) : holder' mutex = some other := by
  cases effect with
  | lock locked =>
    unfold holderAtStart at started
    dsimp only at started
    split at started
    · rename_i free
      cases started
      have different : mutex ≠ locked := by
        rintro rfl
        rw [free] at held
        cases held
      rwa [update_of_ne different]
    · cases started
  | unlock | touch =>
    unfold holderAtStart at started
    dsimp only at started
    split at started
    · cases started
      exact held
    · cases started
  | idle =>
    cases started
    exact held

theorem holderAtFinish_keeps (other : ¬call.Uses mutex) :
    holderAtFinish holder call.effect mutex = holder mutex := by
  cases effect : call.effect with
  | unlock unlocked =>
    have different : mutex ≠ unlocked := by
      rintro rfl
      exact other (.inr effect)
    exact update_of_ne different _ _
  | lock | touch | idle => rfl

/-- A call that starts targets no pin of a call in progress. -/
theorem Exclusive.apart_start (exclusive : s.Exclusive)
    (undisturbed : Undisturbed s (thread, .start call))
    (started : holderAtStart s.holder thread call.effect = some holder) {other : Nat}
    {call' : PinCall} (found : s.calls other = some call') (different : other ≠ thread) :
    call.Apart call' := by
  rcases call.cases_writes with ⟨mutex, -, uses, -⟩ | ⟨pin, mode, rfl⟩ | none
  · refine PinCall.apart_of_uses uses (exclusive.others other call' found) fun uses' => ?_
    exact (holderAtStart_holds started uses).2 other different
      (exclusive.owns other call' found mutex uses')
  · intro pin' targets targets'
    obtain ⟨run, running, rfl⟩ := Option.map_eq_some_iff.mp found
    rw [PinCall.eq_of_targets_gpioInit targets] at targets'
    exact undisturbed other run running targets'
  · exact fun pin targets => (PinCall.not_targets_of_nil none targets).elim

theorem exclusive_start (exclusive : s.Exclusive) (admitted : call.OnOtherPins)
    (undisturbed : Undisturbed s (thread, .start call))
    (started : holderAtStart s.holder thread call.effect = some holder)
    (holder_eq : s'.holder = holder)
    (calls_eq : s'.calls = update s.calls thread (some call)) : s'.Exclusive := by
  subst holder_eq
  refine ⟨?_, ?_, ?_⟩
  · rw [calls_eq]
    exact forall_of_update admitted exclusive.others
  · rw [calls_eq]
    refine forall_of_update (fun mutex uses => (holderAtStart_holds started uses).1) ?_
    intro i call' found mutex uses
    exact holderAtStart_keeps started (exclusive.owns i call' found mutex uses)
  · rw [calls_eq]
    refine forall_of_update ?_ ?_
    · intro j call' found different
      rw [update_of_ne (Ne.symm different)] at found
      exact exclusive.apart_start undisturbed started found (Ne.symm different)
    · intro i call' found
      refine forall_of_update (P := fun j call'' => i ≠ j → call'.Apart call'') ?_ ?_
      · intro different
        exact (exclusive.apart_start undisturbed started found different).symm
      · exact exclusive.apart i call' found

theorem exclusive_finish (exclusive : s.Exclusive) (found : s.calls thread = some call)
    (holder_eq : s'.holder = holderAtFinish s.holder call.effect)
    (calls_eq : s'.calls = update s.calls thread none) : s'.Exclusive := by
  have remains {i : Nat} {call' : PinCall} (found' : s'.calls i = some call') :
      i ≠ thread ∧ s.calls i = some call' := by
    rw [calls_eq] at found'
    by_cases here : i = thread
    · rw [here, update_self] at found'
      cases found'
    · rw [update_of_ne here] at found'
      exact ⟨here, found'⟩
  refine ⟨?_, ?_, ?_⟩
  · intro i call' found'
    exact exclusive.others i call' (remains found').2
  · intro i call' found' mutex uses
    obtain ⟨different, before⟩ := remains found'
    have held := exclusive.owns i call' before mutex uses
    rw [holder_eq, holderAtFinish_keeps, held]
    intro uses'
    have held' := exclusive.owns thread call found mutex uses'
    rw [held] at held'
    exact different (Option.some.inj held')
  · intro i call' found' j call'' found''
    exact exclusive.apart i call' (remains found').2 j call'' (remains found'').2

theorem exclusive_same (exclusive : s.Exclusive) (holder_eq : s'.holder = s.holder)
    (calls_eq : s'.calls = s.calls) : s'.Exclusive := by
  refine ⟨?_, ?_, ?_⟩
  · rw [calls_eq]
    exact exclusive.others
  · rw [calls_eq, holder_eq]
    exact exclusive.owns
  · rw [calls_eq]
    exact exclusive.apart

theorem Exclusive.after (exclusive : s.Exclusive) (admitted : step.Admitted)
    (undisturbed : Undisturbed s (thread, step)) (moves : s.Moves thread step s') :
    s'.Exclusive := by
  cases moves with
  | start idle started =>
    exact exclusive_start exclusive admitted undisturbed started rfl (map_update _)
  | read found | write found =>
    refine exclusive_same exclusive rfl (map_update_of_eq _ ?_)
    rw [found]
    rfl
  | finish found => exact exclusive_finish exclusive (calls_of_threads found) rfl (map_update _)

/-! ## Functions that stay selected -/

/-- What the calls in progress have written is still there. -/
def Written (s : PinState) : Prop :=
  ∀ i run, s.threads i = some run → ∃ done, run.call.writes = done ++ run.todo ∧
    ∀ write ∈ done, fselOf s.gpfsel write.pin = write.function.code

/-- A pin that no call in progress targets has the function of the last call that targeted
it. -/
def Settled (start : Nat → BitVec 32) (s : PinState) : Prop :=
  ∀ pin, (∀ i call, s.calls i = some call → ¬call.Targets pin) →
    fselOf s.gpfsel pin = lastFunction s.completed pin (fselOf start pin)

/-- The pin a thread is about to write is none of those that calls in progress have written. -/
theorem Exclusive.pin_ne (exclusive : s.Exclusive) {run run' : PinRun} {write' : PinWrite}
    {rest done : List PinWrite} {i : Nat} (found : s.threads thread = some run)
    (next : run.todo = write :: rest) (begun : ∃ before, run.call.writes = before ++ run.todo)
    (found' : s.threads i = some run') (split : run'.call.writes = done ++ run'.todo)
    (member : write' ∈ done) : write'.pin ≠ write.pin := by
  have targets' : run'.call.Targets write'.pin :=
    ⟨write', by rw [split]; exact List.mem_append_left _ member, rfl⟩
  by_cases here : i = thread
  · subst here
    rw [found] at found'
    cases found'
    have nodup := run.call.nodup_pins
    rw [split, next, List.map_append, List.nodup_append] at nodup
    exact nodup.2.2 _ (List.mem_map_of_mem member) _ (List.mem_map_of_mem List.mem_cons_self)
  · obtain ⟨before, split'⟩ := begun
    have targets : run.call.Targets write.pin :=
      ⟨write, by rw [split', next]; exact List.mem_append_right _ List.mem_cons_self, rfl⟩
    intro same
    rw [same] at targets'
    exact exclusive.apart thread run.call (calls_of_threads found) i run'.call
      (calls_of_threads found') (Ne.symm here) write.pin targets targets'

theorem Written.after (written : s.Written) (exclusive : s.Exclusive)
    (undisturbed : Undisturbed s (thread, step)) (moves : s.Moves thread step s') :
    s'.Written := by
  cases moves with
  | start idle started =>
    exact forall_of_update ⟨[], rfl, fun _ member => absurd member List.not_mem_nil⟩ written
  | read found =>
    obtain ⟨done, split, holds⟩ := written thread _ found
    exact forall_of_update ⟨done, split, holds⟩ written
  | @write call write rest word found =>
    obtain rfl : s.gpfsel write.bank = word := undisturbed call write rest word found
    obtain ⟨done, split, holds⟩ := written thread _ found
    have kept (i : Nat) (run : PinRun) (found' : s.threads i = some run) :
        ∃ done', run.call.writes = done' ++ run.todo ∧ ∀ write' ∈ done',
          fselOf (update s.gpfsel write.bank (write.apply (s.gpfsel write.bank)))
            write'.pin = write'.function.code := by
      obtain ⟨done', split', holds'⟩ := written i run found'
      refine ⟨done', split', fun write' member => ?_⟩
      rw [fselOf_write_other _ (exclusive.pin_ne found rfl ⟨done, split⟩ found' split' member)]
      exact holds' write' member
    refine forall_of_update ?_ kept
    obtain ⟨done', split', holds'⟩ := kept thread _ found
    refine ⟨done' ++ [write], ?_, ?_⟩
    · rw [List.append_assoc]
      exact split'
    · intro write' member
      rcases List.mem_append.mp member with before | last
      · exact holds' write' before
      · rw [List.mem_singleton.mp last]
        exact fselOf_write_self s.gpfsel write
  | finish found => exact forall_of_remove written

theorem lastFunction_cons_of_mem {completed : List PinCall} {before : BitVec 32}
    (member : write ∈ call.writes) :
    lastFunction (call :: completed) write.pin before = write.function.code := by
  unfold lastFunction
  rw [List.findSome?_cons, PinCall.functionFor_of_mem member]

theorem lastFunction_cons_of_not_targets {completed : List PinCall} {pin : Nat} {before : BitVec 32}
    (notTargeted : ¬call.Targets pin) :
    lastFunction (call :: completed) pin before = lastFunction completed pin before := by
  unfold lastFunction
  rw [List.findSome?_cons, PinCall.functionFor_eq_none notTargeted]

theorem Settled.after (settled : s.Settled start) (written : s.Written)
    (undisturbed : Undisturbed s (thread, step)) (moves : s.Moves thread step s') :
    s'.Settled start := by
  intro pin quiet
  cases moves with
  | @start call holder idle started =>
    refine settled pin fun i call' found => quiet i call' ?_
    have different : i ≠ thread := by
      rintro rfl
      rw [calls, idle] at found
      cases found
    have kept : update s.calls thread (some call) i = some call' := by
      rwa [update_of_ne different]
    exact (congrFun (map_update PinRun.call) i).trans kept
  | @read call write rest found =>
    refine settled pin fun i call' found' => quiet i call' ?_
    have same : (fun i => (update s.threads thread
        (some ⟨call, write :: rest, some (s.gpfsel write.bank)⟩) i).map PinRun.call) = s.calls :=
      map_update_of_eq _ (by rw [found]; rfl)
    exact (congrFun same i).trans found'
  | @write call write rest word found =>
    have same : (fun i => (update s.threads thread
        (some ⟨call, rest, none⟩) i).map PinRun.call) = s.calls :=
      map_update_of_eq _ (by rw [found]; rfl)
    have quiet' (i : Nat) (call' : PinCall) (found' : s.calls i = some call') :
        ¬call'.Targets pin :=
      quiet i call' ((congrFun same i).trans found')
    obtain rfl : s.gpfsel write.bank = word := undisturbed call write rest word found
    obtain ⟨done, split, -⟩ := written thread _ found
    have other : pin ≠ write.pin := by
      rintro rfl
      refine quiet' thread call (calls_of_threads found) ⟨write, ?_, rfl⟩
      rw [split]
      exact List.mem_append_right _ List.mem_cons_self
    exact (fselOf_write_other s.gpfsel other).trans (settled pin quiet')
  | @finish call found =>
    by_cases targets : call.Targets pin
    · obtain ⟨write, member, rfl⟩ := targets
      obtain ⟨done, split, holds⟩ := written thread _ found
      rw [lastFunction_cons_of_mem member]
      refine holds write ?_
      rw [List.append_nil] at split
      exact split ▸ member
    · rw [lastFunction_cons_of_not_targets targets]
      refine settled pin fun i call' found' => ?_
      by_cases here : i = thread
      · subst here
        rw [calls_of_threads found] at found'
        cases found'
        exact targets
      · refine quiet i call' ((congrFun (map_update PinRun.call) i).trans ?_)
        exact (update_of_ne here _ _).trans found'

/-- In a run in which every word is written back undisturbed, the calls in progress exclude
each other, what they have written is still there, and the other pins are settled. -/
theorem settled_of_reachable (reachable : ((pinSystem start).restrict Undisturbed).Reachable s) :
    s.Exclusive ∧ s.Written ∧ s.Settled start := by
  refine reachable.invariant (P := fun s => s.Exclusive ∧ s.Written ∧ s.Settled start) ?_ ?_
  · rintro _ rfl
    exact ⟨⟨nofun, nofun, nofun⟩, nofun, fun pin _ => rfl⟩
  · rintro s ⟨thread, step⟩ s' - ⟨exclusive, written, settled⟩ ⟨undisturbed, admitted, stepped⟩
    have moves := moves_of_next stepped
    exact ⟨exclusive.after admitted undisturbed moves, written.after exclusive undisturbed moves,
      settled.after written undisturbed moves⟩

end PinState

/-- Pin functions survive every run in which a word is written back only while it is what was
read and no two calls of `gpio_init` for one pin overlap: when all calls have returned, each pin
has the function of the last call that targeted it, or the one it had. -/
theorem fsel_of_undisturbed {start : Nat → BitVec 32} {s : PinState}
    (reachable : ((pinSystem start).restrict Undisturbed).Reachable s)
    (finished : ∀ thread, s.threads thread = none) (pin : Nat) :
    fselOf s.gpfsel pin = lastFunction s.completed pin (fselOf start pin) := by
  obtain ⟨-, -, settled⟩ := PinState.settled_of_reachable reachable
  refine settled pin fun thread call found => ?_
  rw [PinState.calls, finished thread] at found
  cases found

theorem PinState.goes_on (reachable : ((pinSystem start).restrict Undisturbed).Reachable s)
    (thread : Nat) (step : PinStep) (admitted : step.Admitted)
    (undisturbed : Undisturbed s (thread, step)) (stepped : s.next thread step = some s') :
    ((pinSystem start).restrict Undisturbed).Reachable s' :=
  .next reachable ⟨undisturbed, admitted, stepped⟩

/-- A call reads a register and writes it back with no step of another call in between. -/
theorem PinState.selects {rest : List PinWrite}
    (reachable : ((pinSystem start).restrict Undisturbed).Reachable s) (thread : Nat)
    (found : s.threads thread = some ⟨call, write :: rest, none⟩) :
    ((pinSystem start).restrict Undisturbed).Reachable
      { s with
        gpfsel := update s.gpfsel write.bank (write.apply (s.gpfsel write.bank))
        threads := update s.threads thread (some ⟨call, rest, none⟩) } := by
  have read : s.next thread .ioRead32 = some { s with
      threads := update s.threads thread
        (some ⟨call, write :: rest, some (s.gpfsel write.bank)⟩) } := by
    simp only [next, found]
  refine goes_on (goes_on reachable thread .ioRead32 trivial trivial read) thread .ioWrite32
    trivial ?_ (by simp [next])
  intro call' write' rest' word found'
  cases (update_self thread _ s.threads).symm.trans found'
  rfl

/-- Two threads acquire a bus each, under different mutexes, and take turns at the register all
four pins are in. -/
theorem fsel_of_interleaved_acquires :
    ∃ s : PinState, ((pinSystem fun _ => 0).restrict Undisturbed).Reachable s ∧
      s.completed = [.i2cAcquire 1, .i2cAcquire 0] ∧
      (∀ pin, fselOf s.gpfsel pin = lastFunction s.completed pin (fselOf (fun _ => 0) pin)) ∧
      ∀ pin ∈ [0, 1, 2, 3], fselOf s.gpfsel pin = FunctionSelect.alt0.code := by
  have first := PinState.goes_on (s := .fresh fun _ => 0) (.start rfl) 0 (.start (.i2cAcquire 0))
    trivial trivial rfl
  have both := PinState.goes_on first 1 (.start (.i2cAcquire 1)) trivial trivial rfl
  have half := PinState.selects (PinState.selects both 0 rfl) 1 rfl
  have whole := PinState.selects (PinState.selects half 0 rfl) 1 rfl
  have returned := PinState.goes_on (PinState.goes_on whole 0 .finish trivial trivial rfl) 1 .finish
    trivial trivial rfl
  refine ⟨_, returned, rfl, fsel_of_undisturbed returned ?_, by decide⟩
  intro thread
  rcases thread with _ | _ | thread <;> rfl

/-- The steps of several threads, one after the other. -/
def PinState.run (s : PinState) : List (Nat × PinStep) → Option PinState
  | [] => some s
  | (thread, step) :: rest => (s.next thread step).bind (·.run rest)

theorem PinState.reachable_of_run {steps : List (Nat × PinStep)}
    (reachable : (pinSystem start).Reachable s) (admitted : ∀ label ∈ steps, label.2.Admitted)
    (ran : s.run steps = some s') :
    (pinSystem start).Reachable s' := by
  induction steps generalizing s with
  | nil =>
    cases ran
    exact reachable
  | cons label rest ih =>
    obtain ⟨middle, stepped, ran⟩ := Option.bind_eq_some_iff.mp ran
    obtain ⟨first, others⟩ := List.forall_mem_cons.mp admitted
    exact ih (.next reachable ⟨first, stepped⟩) others ran

/-- Two threads acquire a bus each, and both read the register before either writes it. -/
def crossedAcquires : List (Nat × PinStep) :=
  [(0, .start (.i2cAcquire 0)), (1, .start (.i2cAcquire 1)), (0, .ioRead32), (1, .ioRead32),
    (0, .ioWrite32), (1, .ioWrite32), (0, .ioRead32), (0, .ioWrite32), (1, .ioRead32),
    (1, .ioWrite32), (0, .finish), (1, .finish)]

/-- When both acquires have returned, the data pin of the first bus is an input again. -/
theorem acquire_lost :
    ∃ s, (pinSystem fun _ => 0).Reachable s ∧ (∀ thread, s.threads thread = none) ∧
      s.completed = [.i2cAcquire 1, .i2cAcquire 0] ∧
      fselOf s.gpfsel 0 = FunctionSelect.inpt.code ∧
      lastFunction s.completed 0 (fselOf (fun _ => 0) 0) = FunctionSelect.alt0.code := by
  refine ⟨_, PinState.reachable_of_run (.start rfl)
    (show ∀ label ∈ crossedAcquires, label.2.Admitted by decide) rfl, ?_, rfl, rfl, rfl⟩
  intro thread
  rcases thread with _ | _ | thread
  · rfl
  · rfl
  · rfl

end TrustWasm.Drivers
