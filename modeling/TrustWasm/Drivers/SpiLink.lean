import TrustWasm.Drivers.SpiBookkeeping
import TrustWasm.Lib.Duplex

/-!
# SPI transfers on full-duplex hardware

The controller has a transmit and a receive FIFO of 64 bytes.  While TA is set it exchanges the
byte in front of the transmit FIFO for a byte of the slave, as long as the receive FIFO has room.
Between two accesses of the driver it makes any number of exchanges.  What the driver has pushed
and popped is the history of a full-duplex link, so that a byte it stores is the answer of the
slave to the bytes before it.

How long an exchange takes, and what the clock shows meanwhile, is left to a `Timing`.
-/

namespace TrustWasm.Drivers.Spi

open TrustWasm.Lib TrustWasm.Tee

def fifoDepth : Nat := 64

/-- The controller during a transfer: what the driver has done, the FIFOs and the bytes the slave
has taken, how many accesses a possible exchange has been waiting for, and whether a byte has
moved since the last reading of the end of a wait. -/
structure Link where
  view : View
  fifo : Duplex Byte Byte
  lag : Nat
  moved : Bool

namespace Link

def CanShift (link : Link) : Prop :=
  link.view.ta = true ∧ link.fifo.CanShift fifoDepth

instance (link : Link) : Decidable link.CanShift :=
  inferInstanceAs (Decidable (_ ∧ _))

/-- The controller between two accesses. -/
inductive Settles (slave : List Byte → Byte) : Link → Link → Prop where
  | still (link : Link) :
      Settles slave link { link with lag := if link.CanShift then link.lag + 1 else link.lag }
  | shifts {link : Link} {count : Nat} {fifo : Duplex Byte Byte} (ta : link.view.ta = true)
      (shifts : Duplex.Shifts slave fifoDepth link.fifo (count + 1) fifo) :
      Settles slave link { link with fifo := fifo, lag := 0, moved := true }

/-- What the registers answer. -/
def Shows (link : Link) : (op : PortOp) → Port.Reply op → Prop
  | .readCs, (status : BitVec 32) =>
    (status.getLsbD 18 = true ↔ link.fifo.tx.length < fifoDepth) ∧
      (status.getLsbD 17 = true ↔ link.fifo.rx ≠ []) ∧
      (status.getLsbD 16 = true ↔ link.fifo.tx = []) ∧
      status.getLsbD 7 = link.view.ta ∧ status.getLsbD 5 = false ∧ status.getLsbD 4 = false
  | .readFifo, (value : BitVec 32) => ∀ byte ∈ link.fifo.rx.head?, value.setWidth 8 = byte
  | .writeCs _, _ | .writeFifo _, _ | .getSysTime _, _ | .load _, _ | .store .., _ => True

/-- What an access does to the FIFOs; a byte pushed to a full FIFO is lost. -/
def pass (fifo : Duplex Byte Byte) : PortOp → Duplex Byte Byte
  | .writeCs value =>
    { fifo with
      tx := if value.getLsbD 4 then [] else fifo.tx
      rx := if value.getLsbD 5 then [] else fifo.rx }
  | .readFifo => { fifo with rx := fifo.rx.tail }
  | .writeFifo value =>
    if fifo.tx.length < fifoDepth then { fifo with tx := fifo.tx ++ [value.setWidth 8] } else fifo
  | .readCs | .getSysTime _ | .load _ | .store .. => fifo

def access (link : Link) (op : PortOp) (reply : Port.Reply op) : Link where
  view := link.view.next op reply
  fifo := pass link.fifo op
  lag := link.lag
  moved :=
    match op with
    | .writeCs _ | .readFifo | .writeFifo _ => true
    | .getSysTime (.stop ..) => false
    | .readCs | .getSysTime .start | .load _ | .store .. => link.moved

end Link

/-- Which answers an access may get, as far as time is concerned. -/
abbrev Timing := Link → (op : PortOp) → Port.Reply op → Prop

/-- Nothing is known about the time. -/
def anyTiming : Timing :=
  fun _ _ _ => True

/-- An exchange that is possible is made within `delay` accesses, and time is slow: a wait is not
over while an exchange is possible, or when a byte has moved since the last look at the clock, or
when the controller has shown that it is done. -/
def slowTiming (delay : Nat) : Timing
  | link, .getSysTime (.stop wait limit), (time : TeeTime) =>
    (link.CanShift → link.lag ≤ delay) ∧ (limit < elapsed link.view.start time →
      ¬link.CanShift ∧ link.moved = false ∧ (wait = .done → link.view.done = false))
  | link, .getSysTime .start, _ | link, .readCs, _ | link, .writeCs _, _ | link, .readFifo, _
  | link, .writeFifo _, _ | link, .load _, _ | link, .store .., _ =>
    link.CanShift → link.lag ≤ delay

/-- The port of the driver on the hardware; the driver must not overrun a FIFO. -/
def linkSemantics (slave : List Byte → Byte) (out : Nat → Byte) (timing : Timing) :
    Semantics Port Link where
  guard link op :=
    match op with
    | .writeFifo _ => link.fifo.tx.length < fifoDepth
    | .readFifo => link.fifo.rx ≠ []
    | .readCs | .writeCs _ | .getSysTime _ | .load _ | .store .. => True
  step source op reply target :=
    ∃ link, Link.Settles slave source link ∧ link.Shows op reply ∧ Answers out op reply ∧
      timing link op reply ∧ target = link.access op reply

variable {slave : List Byte → Byte} {out : Nat → Byte} {timing : Timing} {plan : Plan}
variable {link source middle target : Link}

theorem obeys_port {α : Type} {post : α → Link → Prop} {op : PortOp}
    {rest : Port.Reply op → Program Port α}
    (allowed : (linkSemantics slave out timing).guard link op)
    (second : ∀ settled reply, Link.Settles slave link settled → settled.Shows op reply →
      Answers out op reply → timing settled op reply →
      (rest reply).Obeys (linkSemantics slave out timing) post (settled.access op reply)) :
    (Program.perform (I := Port) op >>= rest).Obeys (linkSemantics slave out timing) post link := by
  refine ⟨allowed, fun reply after step => ?_⟩
  obtain ⟨settled, settles, shows, answers, timely, rfl⟩ := step
  exact second settled reply settles shows answers timely

@[simp]
theorem Link.Settles.view (settles : Link.Settles slave source target) :
    target.view = source.view := by
  cases settles <;> rfl

variable {last first : Duplex Byte Byte}

theorem tx_le_of_shifts {count : Nat} (shifts : Duplex.Shifts slave fifoDepth first count last) :
    last.tx.length ≤ first.tx.length := by
  induction shifts with
  | none => exact Nat.le_refl _
  | more shift rest ih =>
    cases shift with
    | step value tx rx taken room => exact Nat.le_trans ih (Nat.le_succ _)

theorem Link.Settles.tx_le (settles : Link.Settles slave source target) :
    target.fifo.tx.length ≤ source.fifo.tx.length := by
  cases settles with
  | still => exact Nat.le_refl _
  | shifts ta shifts => exact tx_le_of_shifts shifts

theorem rx_ne_nil_of_shifts {count : Nat} (shifts : Duplex.Shifts slave fifoDepth first count last)
    (queued : first.rx ≠ []) :
    last.rx ≠ [] := by
  induction shifts with
  | none => exact queued
  | more shift rest ih =>
    cases shift with
    | step value tx rx taken room => exact ih (by simp)

theorem Link.Settles.rx_ne_nil (settles : Link.Settles slave source target)
    (queued : source.fifo.rx ≠ []) : target.fifo.rx ≠ [] := by
  cases settles with
  | still => exact queued
  | shifts ta shifts => exact rx_ne_nil_of_shifts shifts queued

/-! ## What is left to do -/

/-- The number of bytes to send, with the register byte. -/
def Plan.total (plan : Plan) : Nat :=
  plan.reg.toList.length + plan.outCount

/-- The pushes, exchanges and pops that can still be made. -/
def Link.energy (plan : Plan) (link : Link) : Nat :=
  3 * (plan.total - link.view.pushed.length) + link.fifo.weight

/-- What a part of a transfer does: it uses up energy, or leaves the FIFOs as they are while a
possible exchange keeps waiting. -/
structure Advances (plan : Plan) (source target : Link) : Prop where
  le : target.energy plan ≤ source.energy plan
  quiet : target.energy plan = source.energy plan →
    target.fifo = source.fifo ∧ source.lag ≤ target.lag
  calm : target.moved = false →
    source.moved = false ∧ target.energy plan = source.energy plan

theorem Advances.refl (link : Link) : Advances plan link link :=
  ⟨Nat.le_refl _, fun _ => ⟨rfl, Nat.le_refl _⟩, fun calm => ⟨calm, rfl⟩⟩

theorem Advances.trans (first : Advances plan source middle)
    (second : Advances plan middle target) :
    Advances plan source target where
  le := Nat.le_trans second.le first.le
  quiet same := by
    have firstLe := first.le
    have secondLe := second.le
    obtain ⟨fifo, lag⟩ := first.quiet (by omega)
    obtain ⟨fifo', lag'⟩ := second.quiet (by omega)
    exact ⟨fifo'.trans fifo, Nat.le_trans lag lag'⟩
  calm calm := by
    obtain ⟨calm, same⟩ := second.calm calm
    obtain ⟨calm, same'⟩ := first.calm calm
    exact ⟨calm, same.trans same'⟩

/-- Energy that is used up in between does not come back. -/
theorem Advances.ne_of_lt {last : Link} (before : Advances plan source middle)
    (less : target.energy plan < middle.energy plan) (rest : Advances plan target last) :
    last.energy plan ≠ source.energy plan :=
  Nat.ne_of_lt (Nat.lt_of_le_of_lt rest.le (Nat.lt_of_lt_of_le less before.le))

theorem Link.Settles.advances (settles : Link.Settles slave source target) :
    Advances plan source target := by
  cases settles with
  | still =>
    refine ⟨Nat.le_refl _, fun _ => ⟨rfl, ?_⟩, fun calm => ⟨calm, rfl⟩⟩
    show source.lag ≤ if source.CanShift then source.lag + 1 else source.lag
    split <;> omega
  | shifts ta shifts =>
    have weight := shifts.weight
    refine ⟨?_, ?_, ?_⟩
    · simp only [Link.energy]
      omega
    · simp only [Link.energy]
      intro same
      omega
    · intro calm
      cases calm

/-- An access that moves nothing. -/
theorem advances_access {op : PortOp} {reply : Port.Reply op}
    (pushed : (link.view.next op reply).pushed = link.view.pushed)
    (fifo : Link.pass link.fifo op = link.fifo)
    (moved : (link.access op reply).moved = link.moved) :
    Advances plan link (link.access op reply) := by
  have same : (link.access op reply).energy plan = link.energy plan := by
    show 3 * (plan.total - (link.view.next op reply).pushed.length) +
      (Link.pass link.fifo op).weight = _
    rw [pushed, fifo]
    rfl
  exact ⟨Nat.le_of_eq same, fun _ => ⟨fifo, Nat.le_refl _⟩, fun calm => ⟨moved ▸ calm, same⟩⟩

theorem advances_readCs (status : BitVec 32) : Advances plan link (link.access .readCs status) :=
  advances_access rfl rfl rfl

theorem advances_restart (time : TeeTime) :
    Advances plan link (link.access (.getSysTime .start) time) :=
  advances_access rfl rfl rfl

theorem advances_load (i : Nat) (byte : Byte) : Advances plan link (link.access (.load i) byte) :=
  advances_access rfl rfl rfl

theorem advances_store (i : Nat) (byte : Byte) :
    Advances plan link (link.access (.store i byte) ()) :=
  advances_access rfl rfl rfl

/-- An access that moves a byte. -/
theorem advances_of_lt (less : target.energy plan < source.energy plan)
    (moved : target.moved = true) : Advances plan source target :=
  ⟨Nat.le_of_lt less, fun same => absurd same (Nat.ne_of_lt less), fun calm => by
    rw [moved] at calm
    cases calm⟩

/-! ## The invariant of the link -/

/-- What the driver has moved is the history of the link. -/
structure Linked (slave : List Byte → Byte) (plan : Plan) (out : Nat → Byte) (sent received : Nat)
    (start : TeeTime) (link : Link) : Prop
    extends Moving plan out sent received start link.view where
  conserves : link.fifo.Conserves slave fifoDepth link.view.pushed link.view.popped
  idle : link.view.done = true → link.fifo.tx = []

variable {sent received : Nat} {start : TeeTime}

theorem shifts_of_nil {count : Nat} (shifts : Duplex.Shifts slave fifoDepth first count last)
    (empty : first.tx = []) :
    last.tx = [] := by
  cases shifts with
  | none => exact empty
  | more shift rest => exact absurd empty shift.canShift.1

theorem Linked.settles (linked : Linked slave plan out sent received start source)
    (settles : Link.Settles slave source target) :
    Linked slave plan out sent received start target := by
  cases settles with
  | still => exact ⟨linked.toMoving, linked.conserves, linked.idle⟩
  | shifts ta shifts =>
    exact ⟨linked.toMoving, linked.conserves.shifts shifts,
      fun done => shifts_of_nil shifts (linked.idle done)⟩

theorem Linked.readCs (linked : Linked slave plan out sent received start link)
    {status : BitVec 32} (shows : link.Shows .readCs status) :
    Linked slave plan out sent received start (link.access .readCs status) where
  toMoving := linked.toMoving.readCs status
  conserves := linked.conserves
  idle seen := by
    rcases Bool.or_eq_true_iff.mp seen with before | now
    · exact linked.idle before
    · exact shows.2.2.1.mp ((and_spiCsDone status).mp (bne_iff_ne.mp now))

theorem Linked.restart (linked : Linked slave plan out sent received start link) (time : TeeTime) :
    Linked slave plan out sent received time (link.access (.getSysTime .start) time) :=
  ⟨linked.toMoving.restart time, linked.conserves, linked.idle⟩

theorem Linked.stop (linked : Linked slave plan out sent received start link) (wait : Wait)
    (limit : BitVec 64) (time : TeeTime) :
    Linked slave plan out sent received start
      (link.access (.getSysTime (.stop wait limit)) time) :=
  ⟨linked.toMoving.stop wait limit time, linked.conserves, linked.idle⟩

theorem Linked.load (linked : Linked slave plan out sent received start link) (i : Nat)
    (byte : Byte) : Linked slave plan out sent received start (link.access (.load i) byte) :=
  ⟨linked.toMoving, linked.conserves, linked.idle⟩

theorem pass_writeFifo {fifo : Duplex Byte Byte} (room : fifo.tx.length < fifoDepth) (byte : Byte) :
    Link.pass fifo (.writeFifo (byte.setWidth 32)) = { fifo with tx := fifo.tx ++ [byte] } := by
  rw [Link.pass, if_pos room, BitVec.setWidth_setWidth_of_le _ (by decide), BitVec.setWidth_eq]

theorem Linked.push (linked : Linked slave plan out sent received start link)
    (inside : sent < plan.outCount) (room : link.fifo.tx.length < fifoDepth) :
    Linked slave plan out (sent + 1) received start
      (link.access (.writeFifo ((out sent).setWidth 32)) ()) where
  toMoving := linked.toMoving.push inside
  conserves := by
    show Duplex.Conserves slave fifoDepth
      (link.view.pushed ++ [((out sent).setWidth 32).setWidth 8])
      link.view.popped (Link.pass link.fifo (.writeFifo ((out sent).setWidth 32)))
    rw [pass_writeFifo room, BitVec.setWidth_setWidth_of_le _ (by decide), BitVec.setWidth_eq]
    exact linked.conserves.push (out sent)
  idle seen := by cases seen

/-- A byte is popped and, after further exchanges, stored. -/
theorem Linked.pop (linked : Linked slave plan out sent received start source)
    (inside : received < plan.inCount) (queued : source.fifo.rx ≠ []) {value : BitVec 32}
    (shows : source.Shows .readFifo value)
    (settles : Link.Settles slave (source.access .readFifo value) target) :
    Linked slave plan out sent (received + 1) start
      (target.access (.store received (value.setWidth 8)) ()) := by
  obtain ⟨byte, rest, front⟩ := List.exists_cons_of_ne_nil queued
  obtain rfl : value.setWidth 8 = byte := shows byte (by rw [front]; rfl)
  have popped : Duplex.Conserves slave fifoDepth source.view.pushed
      (source.view.popped ++ [value.setWidth 8]) (Link.pass source.fifo .readFifo) := by
    have popped := linked.conserves.pop front
    rw [Link.pass, front]
    exact popped
  have moving := linked.toMoving.pop inside value
  cases settles with
  | still => exact ⟨moving, popped, fun seen => by cases seen⟩
  | shifts ta shifts => exact ⟨moving, popped.shifts shifts, fun seen => by cases seen⟩

theorem Linked.length_pushed (linked : Linked slave plan out sent received start link) :
    link.view.pushed.length = plan.reg.toList.length + sent := by
  rw [linked.pushed, List.length_append, List.length_map, List.length_range]

/-- Every byte sent is queued, or exchanged for a byte that is queued or stored. -/
theorem Linked.count (linked : Linked slave plan out sent received start link) :
    plan.reg.toList.length + sent =
      received + link.fifo.rx.length + link.fifo.tx.length := by
  rw [← linked.length_pushed, linked.conserves.length, linked.popped]

theorem Linked.energy_push (linked : Linked slave plan out sent received start link)
    (inside : sent < plan.outCount) (room : link.fifo.tx.length < fifoDepth) (byte : Byte) :
    (link.access (.writeFifo (byte.setWidth 32)) ()).energy plan < link.energy plan := by
  have count := linked.length_pushed
  show 3 * (plan.total - (link.view.pushed ++ [_]).length) +
    (Link.pass link.fifo (.writeFifo (byte.setWidth 32))).weight < _
  rw [pass_writeFifo room, Link.energy, Plan.total]
  simp only [Duplex.weight, List.length_append, List.length_singleton]
  omega

theorem energy_pop (queued : link.fifo.rx ≠ []) (value : BitVec 32) (plan : Plan) :
    (link.access .readFifo value).energy plan < link.energy plan := by
  have positive := List.length_pos_iff.mpr queued
  show 3 * (plan.total - link.view.pushed.length) +
    (2 * link.fifo.tx.length + link.fifo.rx.tail.length) <
      3 * (plan.total - link.view.pushed.length) +
      (2 * link.fifo.tx.length + link.fifo.rx.length)
  rw [List.length_tail]
  omega

/-! ## The loops -/

theorem fill_linked (left : Nat) (inside : sent + left = plan.outCount)
    (linked : Linked slave plan out sent received start link) :
    (fill left sent start).Obeys (linkSemantics slave out timing)
      (fun filled after => Linked slave plan out filled.1 received filled.2 after ∧
        Advances plan link after ∧
        (after.energy plan = link.energy plan → left = 0 ∨ fifoDepth ≤ link.fifo.tx.length))
      link := by
  induction left generalizing sent start link with
  | zero =>
    refine obeys_port trivial fun settled status settles shows _ _ => ?_
    exact ⟨(linked.settles settles).readCs shows,
      settles.advances.trans (advances_access rfl rfl rfl), fun _ => .inl rfl⟩
  | succ left ih =>
    refine obeys_port trivial fun settled status settles shows _ _ => ?_
    have linked := (linked.settles settles).readCs shows
    have advances : Advances plan link _ := settles.advances.trans (advances_readCs status)
    split
    · rename_i full
      refine ⟨linked, advances, fun same => .inr ?_⟩
      rw [← (advances.quiet same).1]
      rw [← not_ne_iff, and_spiCsTxd, shows.1, Nat.not_lt] at full
      exact full
    · rename_i txd
      have more : sent < plan.outCount := by omega
      have room : settled.fifo.tx.length < fifoDepth := shows.1.mp ((and_spiCsTxd status).mp txd)
      refine obeys_port trivial fun settled byte settles _ loaded _ => ?_
      obtain rfl : byte = out sent := loaded
      have linked := (linked.settles settles).load sent (out sent)
      have advances := advances.trans (settles.advances.trans (advances_load sent (out sent)))
      have room := Nat.lt_of_le_of_lt settles.tx_le room
      refine obeys_port room ?_
      rintro settled ⟨⟩ settles - - -
      have room := Nat.lt_of_le_of_lt settles.tx_le room
      have linked := linked.settles settles
      have before := advances.trans settles.advances
      have less := linked.energy_push more room (out sent)
      refine obeys_port trivial fun settled time settles _ _ _ => ?_
      have linked := ((linked.push more room).settles settles).restart time
      refine (ih (by omega) linked).mono fun filled after ends => ?_
      obtain ⟨linked, rest, -⟩ := ends
      have rest := settles.advances.trans ((advances_restart time).trans rest)
      exact ⟨linked, before.trans ((advances_of_lt less rfl).trans rest),
        fun same => absurd same (before.ne_of_lt less rest)⟩

theorem drain_linked (left : Nat) (inside : received + left = plan.inCount)
    (linked : Linked slave plan out sent received start link) :
    (drain left received start).Obeys (linkSemantics slave out timing)
      (fun drained after => Linked slave plan out sent drained.1 drained.2 after ∧
        Advances plan link after ∧
        (after.energy plan = link.energy plan → left = 0 ∨ link.fifo.rx = []))
      link := by
  induction left generalizing received start link with
  | zero =>
    refine obeys_port trivial fun settled status settles shows _ _ => ?_
    exact ⟨(linked.settles settles).readCs shows, settles.advances.trans (advances_readCs status),
      fun _ => .inl rfl⟩
  | succ left ih =>
    refine obeys_port trivial fun settled status settles shows _ _ => ?_
    have linked := (linked.settles settles).readCs shows
    have advances : Advances plan link _ := settles.advances.trans (advances_readCs status)
    split
    · rename_i empty
      refine ⟨linked, advances, fun same => .inr ?_⟩
      rw [← (advances.quiet same).1]
      rw [← not_ne_iff, and_spiCsRxd, shows.2.1, not_ne_iff] at empty
      exact empty
    · rename_i rxd
      have more : received < plan.inCount := by omega
      have queued : settled.fifo.rx ≠ [] := shows.2.1.mp ((and_spiCsRxd status).mp rxd)
      refine obeys_port queued fun settled value settles shows _ _ => ?_
      have queued : settled.fifo.rx ≠ [] := settles.rx_ne_nil queued
      have linked := linked.settles settles
      have before := advances.trans settles.advances
      have less := energy_pop queued value plan
      refine obeys_port trivial ?_
      rintro settled ⟨⟩ settles - - -
      have linked := linked.pop more queued shows settles
      have stored : Advances plan _ _ :=
        settles.advances.trans (advances_store received (value.setWidth 8))
      refine obeys_port trivial fun settled time settles _ _ _ => ?_
      have linked := (linked.settles settles).restart time
      refine (ih (by omega) linked).mono fun drained after ends => ?_
      obtain ⟨linked, rest, -⟩ := ends
      have rest := stored.trans (settles.advances.trans ((advances_restart time).trans rest))
      exact ⟨linked, before.trans ((advances_of_lt less rfl).trans rest),
        fun same => absurd same (before.ne_of_lt less rest)⟩

theorem fillOut_linked (linked : Linked slave plan out sent received start link) :
    (fillOut plan sent start).Obeys (linkSemantics slave out timing)
      (fun filled after => Linked slave plan out filled.1 received filled.2 after ∧
        Advances plan link after ∧ (after.energy plan = link.energy plan →
          plan.outCount ≤ sent ∨ fifoDepth ≤ link.fifo.tx.length)) link := by
  rw [fillOut]
  split
  · rename_i null
    refine ⟨linked, .refl link, fun _ => .inl ?_⟩
    rw [Plan.outCount, null]
    exact Nat.zero_le _
  · refine (fill_linked _ (Nat.add_sub_cancel' linked.sent_le) linked).mono fun _ _ ends => ?_
    exact ⟨ends.1, ends.2.1, fun same => (ends.2.2 same).imp_left Nat.le_of_sub_eq_zero⟩

theorem drainIn_linked (linked : Linked slave plan out sent received start link) :
    (drainIn plan received start).Obeys (linkSemantics slave out timing)
      (fun drained after => Linked slave plan out sent drained.1 drained.2 after ∧
        Advances plan link after ∧ (after.energy plan = link.energy plan →
          plan.inCount ≤ received ∨ link.fifo.rx = [])) link := by
  rw [drainIn]
  split
  · rename_i null
    refine ⟨linked, .refl link, fun _ => .inl ?_⟩
    rw [Plan.inCount, null]
    exact Nat.zero_le _
  · refine (drain_linked _ (Nat.add_sub_cancel' linked.received_le) linked).mono fun _ _ ends => ?_
    exact ⟨ends.1, ends.2.1, fun same => (ends.2.2 same).imp_left Nat.le_of_sub_eq_zero⟩

theorem Link.Settles.lag_lt (settles : Link.Settles slave source target)
    (same : target.energy plan = source.energy plan) (can : source.CanShift) :
    source.lag < target.lag := by
  cases settles with
  | still =>
    show source.lag < if source.CanShift then source.lag + 1 else source.lag
    rw [if_pos can]
    exact Nat.lt_succ_self _
  | shifts ta shifts =>
    have weight := shifts.weight
    simp only [Link.energy] at same
    omega

/-- The link when a wait looks at the clock: when nothing has moved since `source`, a possible
exchange has waited longer. -/
structure Looks (plan : Plan) (timing : Timing) (source : Link) (wait : Wait) (limit : BitVec 64)
    (time : TeeTime) (settled : Link) : Prop where
  advances : Advances plan source settled
  timely : timing settled (.getSysTime (.stop wait limit)) time
  waits : settled.energy plan = source.energy plan → source.CanShift → source.lag < settled.lag

/-- A round keeps the history of the link.  If it moves nothing, each FIFO is of no use to it. -/
theorem round_linked {progress : Progress}
    (linked : Linked slave plan out progress.sent progress.received progress.start link) :
    (round plan progress).Obeys (linkSemantics slave out timing)
      (fun last after => Linked slave plan out last.sent last.received last.start after ∧
        ∃ settled, Looks plan timing link .fifo plan.waitLimit last.stop settled ∧
          settled.view.start = last.start ∧
          after = settled.access (.getSysTime (.stop .fifo plan.waitLimit)) last.stop ∧
          (settled.energy plan = link.energy plan →
            (plan.outCount ≤ progress.sent ∨ fifoDepth ≤ link.fifo.tx.length) ∧
              (plan.inCount ≤ progress.received ∨ link.fifo.rx = []))) link := by
  refine (fillOut_linked linked).bind fun filled first ends => ?_
  obtain ⟨linkedFirst, advances, full⟩ := ends
  refine (drainIn_linked linkedFirst).bind fun drained second ends => ?_
  obtain ⟨linkedSecond, advances', empty⟩ := ends
  refine obeys_port trivial fun settled time settles _ _ timely => ?_
  have linkedLast := linkedSecond.settles settles
  have le := advances.le
  have le' := advances'.le
  have last : Advances plan second settled := settles.advances
  have le'' := last.le
  refine ⟨linkedLast.stop _ _ time, settled, ⟨?_, timely, ?_⟩, linkedLast.start, rfl, ?_⟩
  · exact (advances.trans advances').trans last
  · intro same can
    have quiet := (advances.trans advances').quiet (by omega)
    have still : settled.energy plan = second.energy plan := by omega
    have canStill : second.CanShift := by
      refine ⟨linkedSecond.ta, ?_⟩
      rw [quiet.1]
      exact can.2
    exact Nat.lt_of_le_of_lt quiet.2 (settles.lag_lt still canStill)
  · intro same
    refine ⟨full (by omega), ?_⟩
    rw [← (advances.quiet (by omega)).1]
    exact empty (by omega)

theorem moveLoop_linked (rounds : Nat) (progress : Progress)
    (linked : Linked slave plan out progress.sent progress.received progress.start link) :
    (moveLoop plan rounds progress).Obeys (linkSemantics slave out timing)
      (fun result after => ∀ last, result = some last →
        Linked slave plan out last.sent last.received last.start after) link := by
  induction rounds generalizing progress link with
  | zero =>
    intro last same
    cases same
  | succ rounds ih =>
    rw [moveLoop]
    split
    · exact (round_linked linked).bind fun last _ ends => ih last ends.1
    · intro last same
      cases same
      exact linked

theorem doneLoop_linked {limit : BitVec 64} (rounds : Nat)
    (linked : Linked slave plan out sent received start link) :
    (doneLoop limit start rounds).Obeys (linkSemantics slave out timing)
      (fun _ after => Linked slave plan out sent received start after) link := by
  induction rounds generalizing link with
  | zero => exact linked
  | succ rounds ih =>
    refine obeys_port trivial fun settled status settles shows _ _ => ?_
    have linked := (linked.settles settles).readCs shows
    refine obeys_port trivial fun settled time settles _ _ _ => ?_
    have linked := (linked.settles settles).stop .done limit time
    split
    · exact ih linked
    · exact linked

/-! ## A whole transfer -/

/-- The FIFOs hold what is left of the history when a transfer returns. -/
structure Closed (slave : List Byte → Byte) (link : Link) : Prop where
  conserves : link.fifo.Conserves slave fifoDepth link.view.pushed link.view.popped
  idle : link.view.done = true → link.fifo.tx = []

/-- A write that leaves the CLEAR bits alone leaves the FIFOs alone. -/
theorem pass_writeCs {fifo : Duplex Byte Byte} {value : BitVec 32} (tx : value.getLsbD 4 = false)
    (rx : value.getLsbD 5 = false) : Link.pass fifo (.writeCs value) = fifo := by
  rw [Link.pass, tx, rx]
  rfl

/-- The value `spi_setbits` writes for TA. -/
theorem clear_setbits_ta {v : BitVec 32} (value : BitVec 32) (rx : v.getLsbD 5 = false)
    (tx : v.getLsbD 4 = false) :
    ((v &&& ~~~spiCsTa) ||| (value &&& spiCsTa)).getLsbD 4 = false ∧
      ((v &&& ~~~spiCsTa) ||| (value &&& spiCsTa)).getLsbD 5 = false := by
  rw [getLsbD_setbits _ _ _ (by decide), getLsbD_setbits _ _ _ (by decide), if_neg (by decide),
    if_neg (by decide)]
  exact ⟨tx, rx⟩

theorem finish_linked (res : TeeResult) (linked : Linked slave plan out sent received start link) :
    (finish res).Obeys (linkSemantics slave out timing)
      (fun result after => result = some res ∧ Closed slave after) link := by
  refine obeys_port trivial fun settled status settles shows _ _ => ?_
  have linked := (linked.settles settles).readCs shows
  have clear := clear_setbits_ta 0 shows.2.2.2.2.1 shows.2.2.2.2.2
  refine obeys_port trivial ?_
  rintro settled ⟨⟩ settles - - -
  have linked := linked.settles settles
  have fifo : (settled.access (.writeCs (status &&& ~~~spiCsTa ||| 0 &&& spiCsTa)) ()).fifo =
      settled.fifo := pass_writeCs clear.1 clear.2
  refine ⟨rfl, ?_, ?_⟩
  · rw [fifo]
    exact linked.conserves
  · rw [fifo]
    exact linked.idle

theorem awaitDone_linked (rounds : Nat) (linked : Linked slave plan out sent received start link) :
    (awaitDone plan rounds).Obeys (linkSemantics slave out timing)
      (fun result after => result ≠ none → Closed slave after) link := by
  refine obeys_port trivial fun settled time settles _ _ _ => ?_
  have linked := (linked.settles settles).restart time
  refine (doneLoop_linked rounds linked).bind fun waited middle linked => ?_
  cases waited with
  | none => exact fun returns => absurd rfl returns
  | some last =>
    dsimp only
    split
    · exact (finish_linked _ linked).mono fun _ _ ends _ => ends.2
    · exact (finish_linked _ linked).mono fun _ _ ends _ => ends.2

theorem exchange_linked (rounds : Nat) (linked : Linked slave plan out 0 0 start link) :
    (exchange plan rounds).Obeys (linkSemantics slave out timing)
      (fun result after => result ≠ none → Closed slave after) link := by
  refine obeys_port trivial fun settled start settles _ _ _ => ?_
  have linked := (linked.settles settles).restart start
  refine obeys_port trivial fun settled stop settles _ _ _ => ?_
  have linked := (linked.settles settles).stop .fifo plan.waitLimit stop
  refine (moveLoop_linked rounds ⟨0, 0, start, stop⟩ linked).bind fun result middle isOver => ?_
  cases result with
  | none => exact fun returns => absurd rfl returns
  | some last =>
    have linked := isOver last rfl
    dsimp only
    split
    · exact (finish_linked _ linked).mono fun _ _ ends _ => ends.2
    · exact awaitDone_linked rounds linked

/-- The controller between two transfers; the FIFOs may hold bytes of an earlier one. -/
structure Link.Idle (link : Link) : Prop where
  fresh : link.view.Fresh
  ta : link.view.ta = false
  taken : link.fifo.taken = []
  lag : link.lag = 0

theorem Link.Idle.settles (idle : source.Idle) (settles : Link.Settles slave source target) :
    target.Idle := by
  cases settles with
  | still =>
    refine ⟨idle.fresh, idle.ta, idle.taken, ?_⟩
    show (if source.CanShift then source.lag + 1 else source.lag) = 0
    rw [if_neg fun can => Bool.false_ne_true (idle.ta.symm.trans can.1)]
    exact idle.lag
  | shifts ta shifts => exact absurd (idle.ta.symm.trans ta) Bool.false_ne_true

theorem Link.Settles.fifo_of_clear (settles : Link.Settles slave source target)
    (ta : source.view.ta = false) : target.fifo = source.fifo := by
  cases settles with
  | still => rfl
  | shifts set shifts => exact absurd (ta.symm.trans set) Bool.false_ne_true

/-- The chip select has two bits of the register. -/
theorem spiChipSelect_linked {cs : BitVec 8} (chip : cs.toNat < spiCsNum) (idle : link.Idle) :
    (spiChipSelect cs).Obeys (linkSemantics slave out timing) (fun _ after => after.Idle) link := by
  refine obeys_port trivial fun settled status settles shows _ _ => ?_
  have idle := idle.settles settles
  have idle : (settled.access .readCs status).Idle := ⟨idle.fresh, idle.ta, idle.taken, idle.lag⟩
  refine obeys_port trivial ?_
  rintro after ⟨⟩ settles' - - -
  have idle' := idle.settles settles'
  refine ⟨idle'.fresh, ?_, idle'.taken, idle'.lag⟩
  show ((status &&& ~~~spiCsCs ||| cs.setWidth 32) &&& spiCsTa != 0) = false
  have small : cs.getLsbD 7 = false := Nat.testBit_lt_two_pow (Nat.lt_of_lt_of_le chip (by decide))
  have ta : status.getLsbD 7 = false := shows.2.2.2.1.trans (idle.ta)
  rw [bne_eq_false_iff_eq, ← not_ne_iff, and_spiCsTa, BitVec.getLsbD_or, BitVec.getLsbD_and, ta,
    BitVec.getLsbD_setWidth, small]
  decide

/-- Clearing both FIFOs. -/
theorem clearFifos_linked (clears : plan.clears = true) (idle : link.Idle) :
    (clearFifos plan).Obeys (linkSemantics slave out timing)
      (fun _ after => after.Idle ∧ after.fifo = ⟨[], [], []⟩) link := by
  rw [clearFifos, if_pos clears]
  refine obeys_port trivial fun settled status settles shows _ _ => ?_
  have idle := idle.settles settles
  have idle : (settled.access .readCs status).Idle := ⟨idle.fresh, idle.ta, idle.taken, idle.lag⟩
  refine obeys_port trivial ?_
  rintro after ⟨⟩ settles' - - -
  have idle' := idle.settles settles'
  refine ⟨⟨idle'.fresh, ?_, idle'.taken, idle'.lag⟩, ?_⟩
  · show ((status &&& ~~~spiCsClear ||| spiCsClear &&& spiCsClear) &&& spiCsTa != 0) = false
    have ta : status.getLsbD 7 = false := shows.2.2.2.1.trans (idle.ta)
    rw [bne_eq_false_iff_eq, ← not_ne_iff, and_spiCsTa, getLsbD_setbits _ _ _ (by decide),
      if_neg (by decide), ta]
    decide
  · show Link.pass after.fifo
      (.writeCs (status &&& ~~~spiCsClear ||| spiCsClear &&& spiCsClear)) = _
    have bits (i : Nat) (inside : i < 32) (masked : spiCsClear.getLsbD i = true) :
        (status &&& ~~~spiCsClear ||| spiCsClear &&& spiCsClear).getLsbD i = true := by
      rw [getLsbD_setbits _ _ _ inside, if_pos masked, masked]
    rw [Link.pass, bits 4 (by decide) (by decide), bits 5 (by decide) (by decide), idle'.taken]
    rfl

/-- TA is set and nothing is queued. -/
structure Link.Opened (link : Link) : Prop where
  fresh : link.view.Fresh
  ta : link.view.ta = true
  fifo : link.fifo = ⟨[], [], []⟩
  lag : link.lag = 0
  moved : link.moved = true

theorem Link.Opened.settles (opened : source.Opened) (settles : Link.Settles slave source target) :
    target.Opened := by
  cases settles with
  | still =>
    refine ⟨opened.fresh, opened.ta, opened.fifo, ?_, opened.moved⟩
    show (if source.CanShift then source.lag + 1 else source.lag) = 0
    rw [if_neg fun can => can.2.1 (by rw [opened.fifo])]
    exact opened.lag
  | shifts ta shifts =>
    cases shifts with
    | more shift rest => exact absurd (by rw [opened.fifo]) shift.canShift.1

theorem setTa_linked (idle : link.Idle) (empty : link.fifo = ⟨[], [], []⟩) :
    (spiSetbits spiCsTa spiCsTa).Obeys (linkSemantics slave out timing)
      (fun _ after => after.Opened) link := by
  refine obeys_port trivial fun settled status settles shows _ _ => ?_
  have fifo := settles.fifo_of_clear idle.ta
  have idle := idle.settles settles
  have idle : (settled.access .readCs status).Idle := ⟨idle.fresh, idle.ta, idle.taken, idle.lag⟩
  have clear := clear_setbits_ta spiCsTa shows.2.2.2.2.1 shows.2.2.2.2.2
  refine obeys_port trivial ?_
  rintro after ⟨⟩ settles' - - -
  have fifo' := settles'.fifo_of_clear idle.ta
  have idle' := idle.settles settles'
  refine ⟨idle'.fresh, ta_set status, ?_, idle'.lag, rfl⟩
  exact (pass_writeCs clear.1 clear.2).trans (fifo'.trans (fifo.trans empty))

/-- The link when the first byte is to be moved. -/
structure Link.Started (slave : List Byte → Byte) (plan : Plan) (out : Nat → Byte) (link : Link) :
    Prop extends Linked slave plan out 0 0 link.view.start link where
  lag : link.lag = 0
  moved : link.moved = true
  energy_le : link.energy plan ≤ 3 * plan.total

theorem sendReg_linked (opened : link.Opened) :
    (sendReg plan).Obeys (linkSemantics slave out timing)
      (fun _ after => after.Started slave plan out) link := by
  rw [sendReg]
  split
  · rename_i none
    refine { Moving.of_fresh opened.fresh opened.ta none with
      conserves := ?_
      idle := fun _ => ?_
      lag := opened.lag
      moved := opened.moved
      energy_le := ?_ }
    · rw [opened.fifo, opened.fresh.1, opened.fresh.2.1]
      exact Duplex.conserves_nil
    · rw [opened.fifo]
    · rw [Link.energy, opened.fifo]
      exact Nat.mul_le_mul_left 3 (Nat.sub_le _ _)
  · rename_i reg given
    have room : link.fifo.tx.length < fifoDepth := by
      rw [opened.fifo]
      decide
    refine obeys_port room ?_
    rintro settled ⟨⟩ settles - - -
    have opened := opened.settles settles
    have room : settled.fifo.tx.length < fifoDepth := by
      rw [opened.fifo]
      decide
    have fifo : (settled.access (.writeFifo (reg.setWidth 32)) ()).fifo = ⟨[reg], [], []⟩ := by
      show Link.pass settled.fifo (.writeFifo (reg.setWidth 32)) = _
      rw [pass_writeFifo room, opened.fifo]
      rfl
    have moving : Moving plan out 0 0 _ _ := .of_reg opened.fresh opened.ta given
    have pushed : (settled.access (.writeFifo (reg.setWidth 32)) ()).view.pushed = [reg] := by
      refine moving.pushed.trans ?_
      rw [given]
      rfl
    have popped : (settled.access (.writeFifo (reg.setWidth 32)) ()).view.popped = [] :=
      opened.fresh.2.1
    refine { moving with
      conserves := ?_
      idle := fun seen => by cases seen
      lag := opened.lag
      moved := rfl
      energy_le := ?_ }
    · rw [fifo, pushed, popped]
      exact Duplex.conserves_nil.push reg
    · rw [Link.energy, fifo, pushed, Plan.total, given]
      show 3 * (1 + plan.outCount - 1) + 2 ≤ 3 * (1 + plan.outCount)
      omega

/-- A run on the hardware is a run of the bookkeeping. -/
theorem exec_view {α : Type} {program : Program Port α} {result : α}
    (run : program.Exec (linkSemantics slave out timing) source result target) :
    program.Exec (bookkeeping plan out) source.view result target.view := by
  refine run.map Link.view fun before op reply after step => ?_
  obtain ⟨settled, settles, -, answers, -, rfl⟩ := step
  refine ⟨answers, ?_⟩
  rw [← settles.view]
  rfl

/-- Whatever the time does, the bytes a transfer moved are the history of the link. -/
theorem transfer_linked {cs : BitVec 8} (chip : cs.toNat < spiCsNum) (clears : plan.clears = true)
    (rounds : Nat) (idle : link.Idle) :
    (transfer plan cs rounds).Obeys (linkSemantics slave out timing)
      (fun result after => result ≠ none → Closed slave after) link := by
  refine (spiChipSelect_linked chip idle).bind fun _ link idle => ?_
  refine (clearFifos_linked clears idle).bind fun _ link cleared => ?_
  refine (setTa_linked cleared.1 cleared.2).bind fun _ link opened => ?_
  refine (sendReg_linked opened).bind fun _ link started => ?_
  split
  · exact exchange_linked rounds started.toLinked
  · exact (finish_linked _ started.toLinked).mono fun _ _ ends _ => ends.2

end TrustWasm.Drivers.Spi
