import TrustWasm.Drivers.SpiLink

/-!
# Which SPI transfers complete

A transfer succeeds only after every byte it sent has been exchanged, so that the bytes it does
not receive stay in the receive FIFO.  On slow time it therefore completes exactly when it sends
at least as many bytes as it receives and at most 64 more.
-/

namespace TrustWasm.Drivers.Spi

open TrustWasm.Lib TrustWasm.Tee

variable {slave : List Byte → Byte} {out : Nat → Byte} {plan : Plan} {delay : Nat}
variable {link source target : Link} {sent received : Nat} {start : TeeTime}

/-- Every byte to receive is exchanged for one to send, and the others fit in the receive FIFO. -/
def Plan.Balanced (plan : Plan) : Prop :=
  plan.inCount ≤ plan.total ∧ plan.total ≤ plan.inCount + fifoDepth

/-- With bytes left to move, one of the FIFOs is of use or an exchange is possible. -/
theorem Linked.not_stuck (linked : Linked slave plan out sent received start link)
    (balanced : plan.Balanced) (pending : sent < plan.outCount ∨ received < plan.inCount)
    (full : plan.outCount ≤ sent ∨ fifoDepth ≤ link.fifo.tx.length)
    (empty : plan.inCount ≤ received ∨ link.fifo.rx = []) : link.CanShift := by
  obtain ⟨enough, fits⟩ := balanced
  have count := linked.count
  rw [Plan.total] at enough fits
  refine ⟨linked.ta, ?_, ?_⟩
  · intro nothing
    rw [nothing, List.length_nil] at full count
    rcases empty with stored | nothing
    · simp only [fifoDepth] at full
      omega
    · rw [nothing, List.length_nil] at count
      simp only [fifoDepth] at full
      omega
  · by_contra stopped
    have queued : link.fifo.rx ≠ [] := by
      intro nothing
      rw [nothing] at stopped
      exact stopped (by decide)
    have stored := empty.resolve_right queued
    omega

/-- An upper bound of the rounds that are left. -/
def Link.fuel (plan : Plan) (delay : Nat) (link : Link) : Nat :=
  link.energy plan * (delay + 1) + (delay - link.lag)

theorem fuel_lt_of_energy_lt (less : target.energy plan < source.energy plan) :
    target.fuel plan delay < source.fuel plan delay := by
  have scaled : (target.energy plan + 1) * (delay + 1) ≤ source.energy plan * (delay + 1) :=
    Nat.mul_le_mul_right _ less
  rw [Nat.succ_mul] at scaled
  rw [Link.fuel, Link.fuel]
  omega

theorem fuel_lt_of_lag_lt (same : target.energy plan = source.energy plan)
    (waits : source.lag < target.lag) (timely : target.lag ≤ delay) :
    target.fuel plan delay < source.fuel plan delay := by
  rw [Link.fuel, Link.fuel, same]
  omega

theorem Advances.fuel_le (advances : Advances plan source target) :
    target.fuel plan delay ≤ source.fuel plan delay := by
  rcases Nat.lt_or_eq_of_le advances.le with less | same
  · exact Nat.le_of_lt (fuel_lt_of_energy_lt less)
  · have lag := (advances.quiet same).2
    rw [Link.fuel, Link.fuel, same]
    omega

/-- A look at the clock while an exchange is possible unless something has moved: the wait is not
over, and there is less to do. -/
theorem Looks.goes_on {wait : Wait} {limit : BitVec 64} {time : TeeTime} {settled : Link}
    (looks : Looks plan (slowTiming delay) source wait limit time settled)
    (ta : settled.view.ta = true)
    (can : settled.energy plan = source.energy plan → source.CanShift) :
    elapsed settled.view.start time ≤ limit ∧
      settled.fuel plan delay < source.fuel plan delay := by
  obtain ⟨timely, early⟩ := looks.timely
  have canStill (same : settled.energy plan = source.energy plan) : settled.CanShift := by
    refine ⟨ta, ?_⟩
    rw [(looks.advances.quiet same).1]
    exact (can same).2
  constructor
  · rw [← BitVec.not_lt]
    intro late
    obtain ⟨stuck, calm, -⟩ := early late
    exact stuck (canStill (looks.advances.calm calm).2)
  · rcases Nat.lt_or_eq_of_le looks.advances.le with less | same
    · exact fuel_lt_of_energy_lt less
    · exact fuel_lt_of_lag_lt same (looks.waits same (can same)) (timely (canStill same))

theorem round_slow {progress : Progress} (balanced : plan.Balanced)
    (pending : progress.Pending plan)
    (linked : Linked slave plan out progress.sent progress.received progress.start link) :
    (round plan progress).Obeys (linkSemantics slave out (slowTiming delay))
      (fun last after => Linked slave plan out last.sent last.received last.start after ∧
        elapsed last.start last.stop ≤ plan.waitLimit ∧
        after.fuel plan delay < link.fuel plan delay) link := by
  refine (round_linked linked).mono fun last after ends => ?_
  obtain ⟨linkedLast, settled, looks, times, rfl, useless⟩ := ends
  have goes := looks.goes_on linkedLast.ta fun same =>
    linked.not_stuck balanced pending (useless same).1 (useless same).2
  rw [times] at goes
  exact ⟨linkedLast, goes⟩

/-- With enough rounds, everything is moved in time. -/
theorem moveLoop_slow (balanced : plan.Balanced) (rounds : Nat) (progress : Progress)
    (linked : Linked slave plan out progress.sent progress.received progress.start link)
    (early : elapsed progress.start progress.stop ≤ plan.waitLimit)
    (enough : link.fuel plan delay < rounds) :
    (moveLoop plan rounds progress).Obeys (linkSemantics slave out (slowTiming delay))
      (fun result after => ∃ last, result = some last ∧
        elapsed last.start last.stop ≤ plan.waitLimit ∧
        Linked slave plan out plan.outCount plan.inCount last.start after ∧
        after.fuel plan delay ≤ link.fuel plan delay) link := by
  induction rounds generalizing progress link with
  | zero => exact absurd enough (Nat.not_lt_zero _)
  | succ rounds ih =>
    rw [moveLoop]
    split
    · rename_i goes
      refine (round_slow balanced goes.1 linked).bind fun last middle ends => ?_
      obtain ⟨linked, early, less⟩ := ends
      refine (ih last linked early (by omega)).mono fun result after ends => ?_
      obtain ⟨last, same, early, linked, le⟩ := ends
      exact ⟨last, same, early, linked, by omega⟩
    · rename_i isOver
      have through : ¬progress.Pending plan := fun pending => isOver ⟨pending, early⟩
      rw [Progress.Pending, not_or, Nat.not_lt, Nat.not_lt] at through
      rw [Nat.le_antisymm linked.sent_le through.1,
        Nat.le_antisymm linked.received_le through.2] at linked
      exact ⟨progress, rfl, early, linked, Nat.le_refl _⟩

/-- With everything moved, the controller is done or can go on. -/
theorem Linked.canShift_of_moved
    (linked : Linked slave plan out plan.outCount plan.inCount start link)
    (balanced : plan.Balanced) (queued : link.fifo.tx ≠ []) : link.CanShift := by
  have count := linked.count
  have fits := balanced.2
  have positive := List.length_pos_iff.mpr queued
  rw [Plan.total] at fits
  exact ⟨linked.ta, queued, by omega⟩

theorem doneLoop_slow {limit : BitVec 64} (balanced : plan.Balanced) (rounds : Nat)
    (linked : Linked slave plan out plan.outCount plan.inCount start link)
    (enough : link.fuel plan delay < rounds) :
    (doneLoop limit start rounds).Obeys (linkSemantics slave out (slowTiming delay))
      (fun result after => ∃ last, result = some last ∧ elapsed start last ≤ limit ∧
        Linked slave plan out plan.outCount plan.inCount start after) link := by
  induction rounds generalizing link with
  | zero => exact absurd enough (Nat.not_lt_zero _)
  | succ rounds ih =>
    refine obeys_port trivial fun shown status settles shows _ _ => ?_
    have linkedShown := (linked.settles settles).readCs shows
    have shownAdvances : Advances plan link _ := settles.advances.trans (advances_readCs status)
    refine obeys_port trivial fun settled time settles' _ _ timely => ?_
    have linkedLast := linkedShown.settles settles'
    by_cases done : status &&& spiCsDone = 0
    · have queued : shown.fifo.tx ≠ [] := by
        rw [← not_ne_iff, and_spiCsDone, shows.2.2.1] at done
        exact done
      have can : (shown.access .readCs status).CanShift :=
        linkedShown.canShift_of_moved balanced queued
      have looks : Looks plan (slowTiming delay) (shown.access .readCs status) .done limit time
          settled := ⟨settles'.advances, timely, fun same can => settles'.lag_lt same can⟩
      obtain ⟨early, less⟩ := looks.goes_on linkedLast.ta fun _ => can
      rw [linkedLast.start] at early
      rw [if_pos ⟨done, early⟩]
      have le : (shown.access .readCs status).fuel plan delay ≤ link.fuel plan delay :=
        shownAdvances.fuel_le
      have less' : (settled.access (.getSysTime (.stop .done limit)) time).fuel plan delay <
          (shown.access .readCs status).fuel plan delay := less
      exact ih (linkedLast.stop .done limit time) (by omega)
    · rw [if_neg fun goes => done goes.1]
      refine ⟨time, rfl, ?_, linkedLast.stop .done limit time⟩
      have seen : settled.view.done = true := by
        rw [settles'.view]
        show (shown.view.done || status &&& spiCsDone != 0) = true
        rw [Bool.or_eq_true, bne_iff_ne]
        exact .inr done
      rw [← BitVec.not_lt, ← linkedLast.start]
      intro late
      exact Bool.false_ne_true (((timely.2 late).2.2 rfl).symm.trans seen)

theorem awaitDone_slow (balanced : plan.Balanced) (rounds : Nat)
    (linked : Linked slave plan out plan.outCount plan.inCount start link)
    (enough : link.fuel plan delay < rounds) :
    (awaitDone plan rounds).Obeys (linkSemantics slave out (slowTiming delay))
      (fun result _ => result = some teeSuccess) link := by
  refine obeys_port trivial fun settled time settles _ _ _ => ?_
  have linked := (linked.settles settles).restart time
  have advances : Advances plan link _ := settles.advances.trans (advances_restart time)
  have enough := Nat.lt_of_le_of_lt advances.fuel_le enough
  refine (doneLoop_slow balanced rounds linked enough).bind fun waited middle ends => ?_
  obtain ⟨last, rfl, early, linked⟩ := ends
  dsimp only
  rw [if_neg (BitVec.not_lt.mpr early)]
  exact (finish_linked _ linked).mono fun _ _ ends => ends.1

theorem exchange_slow (balanced : plan.Balanced) (rounds : Nat)
    (started : link.Started slave plan out)
    (enough : 3 * plan.total * (delay + 1) + delay < rounds) :
    (exchange plan rounds).Obeys (linkSemantics slave out (slowTiming delay))
      (fun result _ => result = some teeSuccess) link := by
  have bound : link.fuel plan delay < rounds := by
    have scaled := Nat.mul_le_mul_right (delay + 1) started.energy_le
    rw [Link.fuel]
    omega
  refine obeys_port trivial fun first start settles _ _ _ => ?_
  have linked := (started.toLinked.settles settles).restart start
  have advances : Advances plan link _ := settles.advances.trans (advances_restart start)
  refine obeys_port trivial fun settled stop settles' _ _ timely => ?_
  have linkedLast := linked.settles settles'
  have early : elapsed start stop ≤ plan.waitLimit := by
    rw [← BitVec.not_lt, ← linkedLast.start]
    intro late
    have calm := (timely.2 late).2.1
    have moved := ((advances.trans settles'.advances).calm calm).1
    exact Bool.false_ne_true (moved.symm.trans started.moved)
  have fuel : (settled.access (.getSysTime (.stop .fifo plan.waitLimit)) stop).fuel plan delay ≤
      link.fuel plan delay := (advances.trans settles'.advances).fuel_le
  refine (moveLoop_slow balanced rounds ⟨0, 0, start, stop⟩
    (linkedLast.stop .fifo plan.waitLimit stop) early (by omega)).bind fun result middle ends => ?_
  obtain ⟨last, rfl, early, linked, le⟩ := ends
  dsimp only
  rw [if_neg (BitVec.not_lt.mpr early)]
  exact awaitDone_slow balanced rounds linked (by omega)

variable {cs : BitVec 8} {timing : Timing} {rounds : Nat}

/-- On slow time a balanced transfer succeeds. -/
theorem transfer_slow (chip : cs.toNat < spiCsNum) (clears : plan.clears = true)
    (balanced : plan.Balanced) (rounds : Nat)
    (enough : 3 * plan.total * (delay + 1) + delay < rounds) (idle : link.Idle) :
    (transfer plan cs rounds).Obeys (linkSemantics slave out (slowTiming delay))
      (fun result _ => result = some teeSuccess) link := by
  refine (spiChipSelect_linked chip idle).bind fun _ link idle => ?_
  refine (clearFifos_linked clears idle).bind fun _ link cleared => ?_
  refine (setTa_linked cleared.1 cleared.2).bind fun _ link opened => ?_
  refine (sendReg_linked opened).bind fun _ link started => ?_
  split
  · exact exchange_slow balanced rounds started enough
  · exact (finish_linked _ started.toLinked).mono fun _ _ ends => ends.1

/-! ## What success takes -/

/-- The state in which a transfer succeeds. -/
structure Completed (slave : List Byte → Byte) (plan : Plan) (out : Nat → Byte) (link : Link) :
    Prop where
  taken : link.fifo.taken = plan.reg.toList ++ (List.range plan.outCount).map out
  answered : link.view.popped ++ link.fifo.rx = responses slave link.fifo.taken
  room : link.fifo.rx.length ≤ fifoDepth
  filled : link.view.popped.length = plan.inCount
  stored : link.view.stored = storesFrom 0 link.view.popped

theorem completed_of_success (chip : cs.toNat < spiCsNum) (clears : plan.clears = true)
    (moves : plan.Moves) (idle : source.Idle)
    (run : (transfer plan cs rounds).Exec (linkSemantics slave out timing) source
      (some teeSuccess) target) : Completed slave plan out target := by
  have ended : Ended plan out teeSuccess target.view :=
    (transfer_obeys cs rounds idle.fresh).post_of_exec (exec_view run) _ rfl
  have closed : Closed slave target :=
    (transfer_linked chip clears rounds idle).post_of_exec run (Option.some_ne_none _)
  have idle := closed.idle (ended.done rfl moves)
  obtain ⟨sent, -, pushed, all⟩ := ended.pushed
  have taken := closed.conserves.sent
  rw [idle, List.append_nil, pushed, all rfl] at taken
  exact ⟨taken, closed.conserves.answered, closed.conserves.room, ended.filled rfl, ended.stored⟩

theorem Completed.balanced (completed : Completed slave plan out link) : plan.Balanced := by
  have count := congrArg List.length completed.answered
  have room := completed.room
  rw [length_responses, List.length_append, completed.filled, completed.taken, List.length_append,
    List.length_map, List.length_range] at count
  rw [Plan.Balanced, Plan.total]
  omega

/-- The slave takes no more bytes than there are to send. -/
theorem length_taken_le {res : TeeResult} (chip : cs.toNat < spiCsNum) (clears : plan.clears = true)
    (idle : source.Idle)
    (run : (transfer plan cs rounds).Exec (linkSemantics slave out timing) source (some res)
      target) : target.fifo.taken.length ≤ plan.total := by
  have ended : Ended plan out res target.view :=
    (transfer_obeys cs rounds idle.fresh).post_of_exec (exec_view run) _ rfl
  have closed : Closed slave target :=
    (transfer_linked chip clears rounds idle).post_of_exec run (Option.some_ne_none _)
  obtain ⟨sent, le, pushed, -⟩ := ended.pushed
  have count := congrArg List.length (closed.conserves.sent.trans pushed)
  rw [List.length_append, List.length_append, List.length_map, List.length_range] at count
  rw [Plan.total]
  omega

/-! ## Runs on slow time -/

/-- A status with the given flags. -/
def statusOf (txd rxd done ta : Bool) : BitVec 32 :=
  (if txd then spiCsTxd else 0) ||| (if rxd then spiCsRxd else 0) |||
    (if done then spiCsDone else 0) ||| (if ta then spiCsTa else 0)

theorem getLsbD_statusOf (txd rxd done ta : Bool) :
    (statusOf txd rxd done ta).getLsbD 18 = txd ∧ (statusOf txd rxd done ta).getLsbD 17 = rxd ∧
      (statusOf txd rxd done ta).getLsbD 16 = done ∧ (statusOf txd rxd done ta).getLsbD 7 = ta ∧
      (statusOf txd rxd done ta).getLsbD 5 = false ∧
      (statusOf txd rxd done ta).getLsbD 4 = false := by
  decide +revert

theorem exists_settles (slave : List Byte → Byte) (delay : Nat) (source : Link) :
    ∃ settled, Link.Settles slave source settled ∧ (settled.CanShift → settled.lag ≤ delay) := by
  by_cases can : source.CanShift
  · by_cases soon : source.lag < delay
    · refine ⟨_, .still source, fun _ => ?_⟩
      rw [if_pos can]
      exact soon
    · obtain ⟨after, shift⟩ := can.2.exists_shift slave
      exact ⟨_, .shifts can.1 (.more shift (.none after)), fun _ => Nat.zero_le _⟩
  · exact ⟨_, .still source, fun still => absurd still can⟩

/-- On slow time every access has an answer. -/
theorem slow_total (slave : List Byte → Byte) (out : Nat → Byte) (delay : Nat) (source : Link)
    (op : PortOp) : ∃ reply target,
      (linkSemantics slave out (slowTiming delay)).step source op reply target := by
  obtain ⟨settled, settles, timely⟩ := exists_settles slave delay source
  cases op with
  | readCs =>
    have bits := getLsbD_statusOf (decide (settled.fifo.tx.length < fifoDepth))
      (decide (settled.fifo.rx ≠ [])) (decide (settled.fifo.tx = [])) settled.view.ta
    refine ⟨_, _, settled, settles, ⟨?_, ?_, ?_, bits.2.2.2⟩, trivial, timely, rfl⟩
    · rw [bits.1, decide_eq_true_iff]
    · rw [bits.2.1, decide_eq_true_iff]
    · rw [bits.2.2.1, decide_eq_true_iff]
  | readFifo =>
    refine ⟨(settled.fifo.rx.head?.getD 0).setWidth 32, _, settled, settles,
      ?_, trivial, timely, rfl⟩
    intro byte front
    rw [Option.mem_def.mp front, BitVec.setWidth_setWidth_of_le _ (by decide), BitVec.setWidth_eq]
    rfl
  | getSysTime timer =>
    cases timer with
    | start => exact ⟨settled.view.start, _, settled, settles, trivial, trivial, timely, rfl⟩
    | stop wait limit =>
      refine ⟨settled.view.start, _, settled, settles, trivial, trivial, ⟨timely, ?_⟩, rfl⟩
      intro late
      rw [elapsed, BitVec.sub_self] at late
      exact absurd late BitVec.not_lt_zero
  | load i => exact ⟨out i, _, settled, settles, trivial, rfl, timely, rfl⟩
  | writeCs | writeFifo | store => exact ⟨(), _, settled, settles, trivial, trivial, timely, rfl⟩

/-- A controller between two transfers. -/
def Link.initial : Link where
  view := .begin false ⟨0, 0⟩
  fifo := ⟨[], [], []⟩
  lag := 0
  moved := false

theorem Link.idle_initial : Link.initial.Idle :=
  ⟨⟨rfl, rfl, rfl⟩, rfl, rfl, rfl⟩

/-- A balanced transfer has a successful run. -/
theorem exists_success (slave : List Byte → Byte) (out : Nat → Byte) (delay : Nat)
    (chip : cs.toNat < spiCsNum) (clears : plan.clears = true) (balanced : plan.Balanced)
    (enough : 3 * plan.total * (delay + 1) + delay < rounds) :
    ∃ target, (transfer plan cs rounds).Exec (linkSemantics slave out (slowTiming delay))
      .initial (some teeSuccess) target := by
  obtain ⟨result, target, run⟩ := (Program.uses_all (transfer plan cs rounds)).exists_exec
    (fun source op _ => slow_total slave out delay source op) .initial
  have success := (transfer_slow chip clears balanced rounds enough Link.idle_initial).post_of_exec
    run
  subst success
  exact ⟨target, run⟩

/-! ## Transfers of bytes -/

/-- On slow time `spi_transfer_bytes` returns success with enough rounds, the slave has taken one
byte for each of the buffer, in order, and every byte the slave sent is stored. -/
def Completes (slave : List Byte → Byte) (out : Nat → Byte) (delay : Nat) (cs : BitVec 8)
    (outNull inNull : Bool) (len : BitVec 32) : Prop :=
  ∃ enough, ∀ rounds ≥ enough, ∀ link result target, link.Idle →
    (spiTransferBytes cs false outNull inNull len rounds).Exec
      (linkSemantics slave out (slowTiming delay)) link result target →
    result = some teeSuccess ∧ target.fifo.taken.length = len.toNat ∧
      (outNull = false → target.fifo.taken = (List.range len.toNat).map out) ∧
      (inNull = false → target.view.stored = storesFrom 0 (responses slave target.fifo.taken))

section Bytes

variable {outNull inNull : Bool} {len : BitVec 32}

/-- Bytes to send must be given, and their answers stored or left in the receive FIFO. -/
theorem needs_of_completes (chip : cs.toNat < spiCsNum) (positive : 0 < len.toNat)
    (completes : Completes slave out delay cs outNull inNull len) :
    outNull = false ∧ (inNull = false ∨ len.toNat ≤ fifoDepth) := by
  obtain ⟨enough, ends⟩ := completes
  obtain ⟨result, target, run⟩ :=
    (Program.uses_all (spiTransferBytes cs false outNull inNull len enough)).exists_exec
      (fun source op _ => slow_total slave out delay source op) .initial
  obtain ⟨rfl, taken, -, -⟩ := ends enough (Nat.le_refl _) _ _ _ Link.idle_initial run
  have le := length_taken_le chip rfl Link.idle_initial run
  cases outNull with
  | true =>
    rw [taken] at le
    exact absurd positive (Nat.not_lt.mpr le)
  | false =>
    refine ⟨rfl, ?_⟩
    have balanced := (completed_of_success chip rfl (.inl (Option.some_ne_none len))
      Link.idle_initial run).balanced
    cases inNull with
    | false => exact .inl rfl
    | true =>
      right
      simpa [Plan.total, Plan.outCount, Plan.inCount, buffer] using balanced.2

theorem completes_of_needs (chip : cs.toNat < spiCsNum) (given : outNull = false)
    (fits : inNull = false ∨ len.toNat ≤ fifoDepth) :
    Completes slave out delay cs outNull inNull len := by
  subst given
  let plan : Plan := ⟨true, none, some len, buffer inNull len⟩
  have total : plan.total = len.toNat := Nat.zero_add _
  have balanced : plan.Balanced := by
    rw [Plan.Balanced, total]
    cases inNull with
    | false => exact ⟨Nat.le_refl _, Nat.le_add_right _ _⟩
    | true =>
      refine ⟨Nat.zero_le _, ?_⟩
      exact Nat.le_add_left_of_le (fits.resolve_left Bool.noConfusion)
  refine ⟨3 * plan.total * (delay + 1) + delay + 1, ?_⟩
  intro rounds enough link result target idle run
  have success : result = some teeSuccess :=
    (transfer_slow chip rfl balanced rounds (by omega) idle).post_of_exec run
  subst success
  have completed : Completed slave plan out target :=
    completed_of_success chip rfl (.inl nofun) idle run
  have taken : target.fifo.taken = (List.range len.toNat).map out := completed.taken
  refine ⟨rfl, ?_, fun _ => taken, ?_⟩
  · rw [taken, List.length_map, List.length_range]
  · rintro rfl
    have count := congrArg List.length completed.answered
    rw [length_responses, List.length_append, completed.filled, taken, List.length_map,
      List.length_range] at count
    have all : plan.inCount = len.toNat := rfl
    have empty : target.fifo.rx = [] := List.length_eq_zero_iff.mp (by omega)
    rw [completed.stored, ← completed.answered, empty, List.append_nil]

/-- On slow time `spi_transfer_bytes` of at least one byte completes exactly when it has bytes to
send and stores the answers, or sends at most 64 bytes. -/
theorem spiTransferBytes_completes_iff (slave : List Byte → Byte) (out : Nat → Byte) (delay : Nat)
    (chip : cs.toNat < spiCsNum) (positive : 1 ≤ len.toNat) :
    Completes slave out delay cs outNull inNull len ↔
      outNull = false ∧ (inNull = false ∨ len.toNat ≤ 64) :=
  ⟨needs_of_completes chip positive, fun needs => completes_of_needs chip needs.1 needs.2⟩

theorem spiTransferBytes_completes_two :
    Completes (fun taken => BitVec.ofNat 8 taken.length) (fun _ => 0x9F) 3 0 false false 2 ↔
      false = false ∧ (false = false ∨ (2 : BitVec 32).toNat ≤ 64) :=
  spiTransferBytes_completes_iff _ _ 3 (by decide) (by decide)

/-- A transfer that only receives sends nothing, so that nothing is ever exchanged. -/
theorem spiTransferBytes_receive_stalls :
    ¬Completes (fun _ => 0) (fun _ => 0) 0 0 true false 1 := by
  intro completes
  have needs := needs_of_completes (by decide) (by decide) completes
  exact absurd needs.1 (by decide)

end Bytes

/-! ## Register reads -/

/-- Whenever `spi_transfer_regs` with a buffer to fill returns success, each byte of the buffer is
the one the slave sent during the byte that many places after the register byte. -/
def Aligned (slave : List Byte → Byte) (out : Nat → Byte) (cs : BitVec 8) (reg : Byte)
    (outNull : Bool) (len : BitVec 32) : Prop :=
  ∀ rounds link target, link.Idle →
    (spiTransferRegs cs reg outNull false len rounds).Exec (linkSemantics slave out anyTiming) link
      (some teeSuccess) target →
    ∀ i < len.toNat, i + 1 < target.fifo.taken.length ∧ ∀ memory,
      applyStores memory target.view.stored i = slave (target.fifo.taken.take (i + 1))

section Registers

variable {reg : Byte} {len : BitVec 32}

/-- A byte that is stored is the one the slave sent that many bytes after the start. -/
theorem Completed.stored_eq (completed : Completed slave plan out link) {i : Nat}
    (inside : i < plan.inCount) (memory : Nat → Byte) :
    applyStores memory link.view.stored i = slave (link.fifo.taken.take i) := by
  rw [← completed.filled] at inside
  have count := congrArg List.length completed.answered
  rw [length_responses, List.length_append] at count
  have answer := getElem?_responses slave (show i < link.fifo.taken.length by omega)
  rw [← completed.answered, List.getElem?_append_left inside] at answer
  rw [completed.stored, applyStores_storesFrom, if_neg (Nat.not_lt_zero i), Nat.sub_zero, answer]
  rfl

/-- A register read succeeds in some run, unless it reads more than one byte without sending
any. -/
theorem exists_regs_success (slave : List Byte → Byte) (out : Nat → Byte) (reg : Byte)
    (outNull : Bool) (len : BitVec 32) (chip : cs.toNat < spiCsNum)
    (short : outNull = true → len.toNat ≤ 1) :
    ∃ rounds target, (spiTransferRegs cs reg outNull false len rounds).Exec
      (linkSemantics slave out anyTiming) .initial (some teeSuccess) target := by
  let plan : Plan := ⟨true, some reg, buffer outNull len, some len⟩
  have balanced : plan.Balanced := by
    cases outNull with
    | false =>
      show len.toNat ≤ 1 + len.toNat ∧ 1 + len.toNat ≤ len.toNat + 64
      omega
    | true =>
      have short := short rfl
      show len.toNat ≤ 1 + 0 ∧ 1 + 0 ≤ len.toNat + 64
      omega
  obtain ⟨target, run⟩ := exists_success slave out 0 chip rfl balanced (Nat.lt_succ_self _)
  exact ⟨_, target, run.mono fun _ _ _ _ step => by
    obtain ⟨settled, settles, shows, answers, -, same⟩ := step
    exact ⟨settled, settles, shows, answers, trivial, same⟩⟩

theorem completed_of_regs {outNull : Bool} (chip : cs.toNat < spiCsNum) (idle : source.Idle)
    (run : (spiTransferRegs cs reg outNull false len rounds).Exec (linkSemantics slave out timing)
      source (some teeSuccess) target) :
    Completed slave ⟨true, some reg, buffer outNull len, some len⟩ out target :=
  completed_of_success chip rfl (.inr (Option.some_ne_none len)) idle run

/-- Without bytes to send the only byte exchanged is the register byte. -/
theorem aligned_null_iff (chip : cs.toNat < spiCsNum) (positive : 1 ≤ len.toNat) :
    Aligned slave out cs reg true len ↔ 2 ≤ len.toNat := by
  constructor
  · intro aligned
    by_contra short
    obtain ⟨rounds, target, run⟩ :=
      exists_regs_success slave out reg true len chip fun _ => by omega
    have taken : target.fifo.taken = [reg] := (completed_of_regs chip Link.idle_initial run).taken
    have later := (aligned rounds _ target Link.idle_initial run 0 positive).1
    rw [taken] at later
    exact absurd later (Nat.lt_irrefl 1)
  · intro long rounds link target idle run
    have enough := (completed_of_regs chip idle run).balanced.1
    have one : len.toNat ≤ 1 := enough
    omega

/-- With bytes to send the buffer gets the bytes from the register byte on. -/
theorem aligned_given_iff (chip : cs.toNat < spiCsNum) :
    Aligned slave out cs reg false len ↔ ∀ i < len.toNat,
      slave ((reg :: (List.range len.toNat).map out).take i) =
        slave ((reg :: (List.range len.toNat).map out).take (i + 1)) := by
  constructor
  · intro aligned i inside
    obtain ⟨rounds, target, run⟩ := exists_regs_success slave out reg false len chip nofun
    have completed := completed_of_regs chip Link.idle_initial run
    have taken : target.fifo.taken = reg :: (List.range len.toNat).map out := completed.taken
    have stored := completed.stored_eq inside (fun _ => 0)
    have answer := (aligned rounds _ target Link.idle_initial run i inside).2 (fun _ => 0)
    rw [stored, taken] at answer
    exact answer
  · intro same rounds link target idle run i inside
    have completed := completed_of_regs chip idle run
    have taken : target.fifo.taken = reg :: (List.range len.toNat).map out := completed.taken
    constructor
    · rw [taken, List.length_cons, List.length_map, List.length_range]
      omega
    · intro memory
      rw [completed.stored_eq inside, taken]
      exact same i inside

/-- A register read is aligned exactly when it never succeeds, or when the slave sends the same
byte during each byte and the next. -/
theorem spiTransferRegs_aligned_iff (slave : List Byte → Byte) (out : Nat → Byte) (reg : Byte)
    (outNull : Bool) (chip : cs.toNat < spiCsNum) (positive : 1 ≤ len.toNat) :
    Aligned slave out cs reg outNull len ↔
      (outNull = true ∧ 2 ≤ len.toNat) ∨
        (outNull = false ∧ ∀ i < len.toNat,
          slave ((reg :: (List.range len.toNat).map out).take i) =
            slave ((reg :: (List.range len.toNat).map out).take (i + 1))) := by
  cases outNull with
  | true => simp [aligned_null_iff chip positive]
  | false => simp [aligned_given_iff chip]

/-- A slave that answers the register byte with the next byte it sends. -/
theorem spiTransferRegs_aligned_constant :
    Aligned (fun _ => 0xFF) (fun _ => 0) 0 0x9F false 3 := by
  refine (spiTransferRegs_aligned_iff _ _ 0x9F false (by decide) (by decide)).mpr (.inr ⟨rfl, ?_⟩)
  exact fun _ _ => rfl

/-- The status of a flash memory is read without bytes to send: what is returned is the byte
clocked in with the command, before the memory has seen it. -/
theorem spiTransferRegs_status_misaligned :
    ¬Aligned (fun taken => if taken = [W25qxx.cmdReadStatus] then W25qxx.statusBusy else 0xFF)
      (fun _ => 0) 0 W25qxx.cmdReadStatus true 1 := by
  intro aligned
  exact absurd ((aligned_null_iff (by decide) (by decide)).mp aligned) (by decide)

end Registers

end TrustWasm.Drivers.Spi
