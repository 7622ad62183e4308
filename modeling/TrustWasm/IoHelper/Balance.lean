import TrustWasm.IoHelper.Ledger
import TrustWasm.IoHelper.Submission

/-!
# Which requests keep their resources in balance

For each kind of handler the balance is decided by its last operations: a
failure reports a code and leaves nothing to collect, a result is published and
freed by the collection that finds it, and the handlers of writes free the
buffers their parameters name.  A request keeps the balance exactly when those
frees name each argument buffer once, no result reads as negative or empty, and
no object is opened.
-/

namespace TrustWasm.IoHelper

open TrustWasm.Lib TrustWasm.Tee TrustWasm.Drivers

/-- After this record the request owns nothing. -/
def Paid (args : List Ptr) (record : List LifeEvent) : Prop :=
  replay args ⟨args, []⟩ record = some ⟨[], []⟩

/-- The pointers freed are the argument buffers, each once, and null. -/
def Frees (args ptrs : List Ptr) : Prop :=
  args.Perm (ptrs.filter (· ≠ null))

instance (args ptrs : List Ptr) : Decidable (Frees args ptrs) :=
  inferInstanceAs (Decidable (List.Perm _ _))

/-- The entry of the slot after `publish`. -/
def Pta.publish (s : Pta) (p q : Nat) (ret len : BitVec 32) (buf : Ptr) : Pta :=
  let first := s.setEntry p q { s.entry p q with ret := ret }
  let second := first.setEntry p q { first.entry p q with len := len }
  second.setEntry p q { second.entry p q with buf := buf }

variable {record : List LifeEvent} {s : Pta} {p q : Nat} {size : BitVec 32} {args : List Ptr}
    {buf : Ptr} {res : TeeResult} {reply : Drivers.Reply}

section Ends

variable {α : Type} {after : Pta × List LifeEvent} {code : TeeResult}

@[simp]
theorem paid_nil : Paid args [] ↔ args = [] := by
  simp [Paid]

theorem paid_freed (ptrs : List Ptr) : Paid args (ptrs.map .freed) ↔ Frees args ptrs := by
  rw [Paid, replay_frees_iff, and_iff_left rfl]
  rfl

@[simp]
theorem paid_buffer (notNull : buf ≠ null) :
    Paid args [.allocated buf, .freed buf] ↔ args = [] := by
  simp [Paid, notNull]

theorem not_paid_allocated : ¬Paid args [.allocated buf] := by
  simp [Paid]

theorem settled_of_released
    (nothing : isNegative (after.1.entry p q).ret = true ∨ (after.1.entry p q).len = 0 ∨
      (after.1.entry p q).buf = null) :
    Settled args p q after ↔ Paid args after.2 := by
  rw [Settled, collectEvents, if_pos nothing]
  exact balanced_released

theorem settled_of_collected (published : (after.1.entry p q).buf = buf)
    (result : ¬(isNegative (after.1.entry p q).ret = true ∨ (after.1.entry p q).len = 0 ∨
      buf = null)) (fresh : buf ∉ args) :
    Settled args p q after ↔ Paid args (after.2 ++ [.freed buf]) := by
  subst published
  rw [Settled, collectEvents, if_neg result]
  exact balanced_collected (fun isNull => result (.inr (.inr isNull))) fresh

theorem settles_setRet {rest : Unit → Program Helper α} :
    Settles args p q (setRet p q code >>= rest) s record ↔
      Settles args p q (rest ()) (s.setEntry p q { s.entry p q with ret := code }) record := by
  refine settles_bind.trans ⟨fun settles => ?_, ?_⟩
  · have reported := settles () _ rfl
    rwa [show lifeEvents (.setRet p q code) () = [] from rfl, List.append_nil] at reported
  · rintro settles _ _ rfl
    rwa [show lifeEvents (.setRet p q code) () = [] from rfl, List.append_nil]

theorem settles_publish {rest : Unit → Program Helper α} (ret len : BitVec 32) (buf : Ptr) :
    Settles args p q (publish p q ret len buf >>= rest) s record ↔
      Settles args p q (rest ()) (s.publish p q ret len buf) record := by
  have exec : (publish p q ret len buf).Exec lived (s, record) ()
      (s.publish p q ret len buf, record) := by
    have nothing := (List.append_nil record).symm
    exact ⟨(), (_, record), ⟨rfl, nothing⟩, (), (_, record), ⟨rfl, nothing⟩, (), (_, record),
      ⟨rfl, nothing⟩, rfl, rfl⟩
  constructor
  · intro settles
    exact settles.rest_of_exec exec
  · intro settles
    refine lived_silent (fun _ => rfl) ?_
    rintro _ _ rfl
    refine lived_silent (fun _ => rfl) ?_
    rintro _ _ rfl
    refine lived_silent (fun _ => rfl) ?_
    rintro _ _ rfl
    exact settles

theorem entry_publish (ret len : BitVec 32) (buf : Ptr) :
    Publishes s.heap p q ret len buf (s.publish p q ret len buf) :=
  publishes_setEntries s p q ret len buf

theorem settled_of_report {heap : Heap Ptr Byte} (negative : isNegative code = true) :
    Settled args p q
      ({ s.setEntry p q { s.entry p q with ret := code } with heap := heap }, record) ↔
      Paid args record := by
  refine settled_of_released (.inl ?_)
  change isNegative ((s.setEntry p q { s.entry p q with ret := code }).entry p q).ret = true
  rw [entry_setEntry_self]
  exact negative

/-- A failure leaves nothing to collect. -/
theorem settles_fail (negative : isNegative code = true) :
    Settles args p q (do setRet p q code; return code : Program Helper TeeResult) s record ↔
      Paid args record := by
  rw [settles_setRet]
  exact settled_of_report negative

theorem settles_failFreeing (negative : isNegative code = true) (notNull : buf ≠ null) :
    Settles args p q (do free buf; setRet p q code; return code : Program Helper TeeResult) s
      [.allocated buf] ↔ args = [] := by
  rw [settles_free, settles_fail negative]
  exact paid_buffer notNull

/-- A result is freed by the collection when its length reads as positive. -/
theorem settles_result (notNull : buf ≠ null) (fresh : buf ∉ args) :
    Settles args p q (do publish p q size size buf; return code : Program Helper TeeResult) s
      [.allocated buf] ↔ args = [] ∧ size ≠ 0 ∧ isNegative size = false := by
  have entry := entry_publish (s := s) (p := p) (q := q) size size buf
  rw [settles_publish, Program.pure_eq, settles_pure]
  by_cases released : isNegative size = true ∨ size = 0
  · rw [settled_of_released]
    · refine iff_of_false not_paid_allocated ?_
      rintro ⟨-, nonempty, nonnegative⟩
      rcases released with negative | empty
      · rw [nonnegative] at negative
        cases negative
      · exact nonempty empty
    · rw [entry.ret, entry.len]
      exact released.imp id .inl
  · obtain ⟨nonnegative, nonempty⟩ := not_or.mp released
    rw [settled_of_collected entry.buf ?_ fresh]
    · exact (paid_buffer notNull).trans
        ⟨fun none => ⟨none, nonempty, Bool.eq_false_iff.mpr nonnegative⟩, And.left⟩
    · rw [entry.ret, entry.len]
      rintro (negative | empty | isNull)
      · exact nonnegative negative
      · exact nonempty empty
      · exact notNull isNull

/-- An empty result leaves nothing to collect. -/
theorem settles_empty {value : α} {after : Pta} (empty : (after.entry p q).len = 0) :
    Settles args p q (Pure.pure value) after record ↔ Paid args record :=
  settled_of_released (.inr (.inl empty))

end Ends

/-! ## Handlers -/

/-- The argument buffers are live. -/
def Pta.Holds (s : Pta) (args : List Ptr) : Prop :=
  ∀ arg ∈ args, s.heap.Live arg

/-- Whatever the devices, the storage and the heap do, the program settles a
request with these argument buffers. -/
def Balances (args : List Ptr) (p q : Nat) (program : Program Helper TeeResult) : Prop :=
  ∀ s : Pta, s.Holds args → Settles args p q program s []

/-- A state in which the given blocks are the live ones. -/
def holding (args : List Ptr) : Pta :=
  { Pta.zero with
    heap := ⟨fun ptr => if args.contains ptr then some ⟨0, fun _ => 0, fun _ => false⟩ else none⟩ }

theorem holding_holds (args : List Ptr) : (holding args).Holds args := by
  intro arg member
  simp [holding, Heap.Live, member]

/-- A condition that settles the request in every state. -/
theorem balances_iff {program : Program Helper TeeResult} {cond : Prop}
    (settles : ∀ s, Settles args p q program s [] ↔ cond) : Balances args p q program ↔ cond :=
  ⟨fun balances => (settles _).mp (balances _ (holding_holds args)),
    fun holds s _ => (settles s).mpr holds⟩

section Handlers

variable {req : IoReq} {noMemory : TeeResult} {call : DriverCall}

theorem ofResult_success : ¬(Reply.ofResult teeSuccess).res ≠ teeSuccess :=
  not_not_intro rfl

theorem handleSample_balances (negative : isNegative noMemory = true) :
    Balances args p req.signo (handleSample size noMemory call req p) ↔
      args = [] ∧ (call.CanSucceed → size ≠ 0 ∧ isNegative size = false) := by
  constructor
  · intro balances
    have start := balances (holding args) (holding_holds args)
    rw [handleSample, settles_malloc, if_pos rfl, settles_fail negative, paid_nil] at start
    obtain ⟨rfl, granted⟩ := start
    refine ⟨rfl, ?_⟩
    rintro ⟨reply, allowed, succeeded⟩
    have called := granted 1 (by decide) rfl fun _ => 0
    rw [if_neg (by decide), settles_driver] at called
    have published := called reply allowed
    rw [if_neg (not_not_intro (show reply.res = teeSuccess from succeeded)), List.nil_append,
      settles_result (by decide) List.not_mem_nil] at published
    exact published.2
  · rintro ⟨rfl, sized⟩ s holds
    rw [handleSample, settles_malloc, if_pos rfl, settles_fail negative, paid_nil]
    refine ⟨rfl, fun buf notNull fresh junk => ?_⟩
    rw [if_neg notNull, settles_driver]
    intro reply allowed
    split
    · rename_i failed
      exact (settles_failFreeing (negative_of_allows allowed failed) notNull).mpr rfl
    · rename_i succeeded
      exact (settles_result notNull List.not_mem_nil).mpr
        ⟨rfl, sized ⟨reply, allowed, not_not.mp succeeded⟩⟩

theorem handleI2cRead_balances :
    Balances args p req.signo (handleI2cRead size call req p) ↔
      args = [] ∧ ((i2cOf p).toNat < i2cNum → call.CanSucceed →
        size ≠ 0 ∧ isNegative size = false) := by
  constructor
  · intro balances
    have start := balances (holding args) (holding_holds args)
    rw [handleI2cRead, settles_malloc, if_pos rfl, settles_fail (by decide), paid_nil] at start
    obtain ⟨rfl, granted⟩ := start
    refine ⟨rfl, ?_⟩
    rintro valid ⟨reply, allowed, succeeded⟩
    have acquired := granted 1 (by decide) rfl fun _ => 0
    rw [if_neg (by decide), settles_driver] at acquired
    have called := acquired _ (acquire_allowed valid)
    rw [if_neg ofResult_success, settles_driver] at called
    have released := called reply allowed
    rw [settles_driver] at released
    have published := released _ (release_allowed valid)
    rw [if_neg (not_not_intro (show reply.res = teeSuccess from succeeded)), List.nil_append,
      settles_result (by decide) List.not_mem_nil] at published
    exact published.2
  · rintro ⟨rfl, sized⟩ s holds
    rw [handleI2cRead, settles_malloc, if_pos rfl, settles_fail (by decide), paid_nil]
    refine ⟨rfl, fun buf notNull fresh junk => ?_⟩
    rw [if_neg notNull, settles_driver]
    intro acquire acquired
    split
    · rename_i failed
      exact (settles_failFreeing (negative_of_allows acquired failed) notNull).mpr rfl
    · rename_i valid
      rw [settles_driver]
      intro reply allowed
      rw [settles_driver]
      intro _ _
      split
      · rename_i failed
        exact (settles_failFreeing (negative_of_allows allowed failed) notNull).mpr rfl
      · rename_i succeeded
        refine (settles_result notNull List.not_mem_nil).mpr ⟨rfl, ?_⟩
        exact sized (valid_of_acquired acquired (not_not.mp valid))
          ⟨reply, allowed, not_not.mp succeeded⟩

theorem handleMpu6050Sample_balances :
    Balances args p req.signo (handleMpu6050Sample req p) ↔ args = [] := by
  constructor
  · intro balances
    have start := balances (holding args) (holding_holds args)
    rw [handleMpu6050Sample, settles_malloc, settles_driver] at start
    obtain ⟨reply, allowed⟩ := exists_deviceAllows (.mpuSample (deviceOf p req.p0.a) true)
    have failed := (mpuSample_null_fails allowed).1
    have refused := start.1 reply allowed
    rw [if_pos failed, settles_free, settles_fail (negative_of_allows allowed failed)] at refused
    have frees := (paid_freed [null]).mp refused
    simpa [Frees] using frees
  · rintro rfl s holds
    rw [handleMpu6050Sample, settles_malloc, settles_driver]
    constructor
    · intro reply allowed
      have failed := (mpuSample_null_fails allowed).1
      rw [if_pos failed, settles_free, settles_fail (negative_of_allows allowed failed)]
      exact (paid_freed [null]).mpr (by decide)
    · intro buf notNull fresh junk
      rw [settles_driver]
      intro reply allowed
      split
      · rename_i failed
        exact (settles_failFreeing (negative_of_allows allowed failed) notNull).mpr rfl
      · exact (settles_result notNull List.not_mem_nil).mpr ⟨rfl, by decide, by decide⟩

/-- A part that only reads the heap. -/
theorem settles_reading {α β : Type} {program : Program Helper β} {rest : β → Program Helper α}
    (reads : program.Obeys lived (fun _ after => after = (s, record)) (s, record)) (cond : Prop)
    (settles : ∀ value, Settles args p q (rest value) s record ↔ cond) :
    Settles args p q (program >>= rest) s record ↔ cond := by
  constructor
  · intro obeys
    obtain ⟨value, after, run⟩ := exists_lived program (s, record)
    cases reads.post_of_exec run
    exact (settles value).mp (obeys.rest_of_exec run)
  · intro holds
    refine reads.bind ?_
    rintro value _ rfl
    exact (settles value).mpr holds

/-- A driver call after which the outcome no longer depends on it. -/
theorem settles_anyReply {α : Type} {out : Ptr} {rest : TeeResult → Program Helper α} (cond : Prop)
    (settles : ∀ res s', Settles args p q (rest res) s' record ↔ cond) :
    Settles args p q (callDriver call out >>= rest) s record ↔ cond := by
  rw [settles_driver]
  constructor
  · intro obeys
    obtain ⟨reply, allowed⟩ := exists_deviceAllows call
    exact (settles _ _).mp (obeys reply allowed)
  · intro holds reply _
    exact (settles _ _).mpr holds

theorem settles_write {ptr : Ptr} :
    Settles args p q (do publish p q res 0 null; free ptr; return res : Program Helper TeeResult)
      s [] ↔ Frees args [ptr] := by
  rw [settles_publish, settles_free]
  refine (settles_empty ?_).trans (paid_freed [ptr])
  exact (entry_publish res 0 null).len

theorem handleAtk301GetFingerprintImage_balances :
    Balances args p req.signo (handleAtk301GetFingerprintImage req p) ↔ args = [] := by
  refine balances_iff fun s => settles_anyReply _ fun res s' => ?_
  rw [settles_publish]
  exact (settles_empty (entry_publish res 0 null).len).trans paid_nil

theorem handleAt24cxxWrite_balances :
    Balances args p req.signo (handleAt24cxxWrite req p) ↔ Frees args [req.p0.buffer] :=
  balances_iff fun _ =>
    settles_reading (sourceBytes_lived _) _ fun _ => settles_anyReply _ fun _ _ => settles_write

/-- The answer to an acquire follows from the bus alone. -/
theorem settles_acquire {α : Type} {dev : BitVec 8} {out : Ptr}
    {rest : TeeResult → Program Helper α} :
    Settles args p q (callDriver (.i2cAcquire dev) out >>= rest) s record ↔
      Settles args p q (rest (if i2cNum ≤ dev.toNat then teeErrorBadParameters else teeSuccess)) s
        record := by
  simp only [settles_driver, acquired_iff, forall_eq]
  rfl

theorem handleI2cWriteBytes_balances :
    Balances args p req.signo (handleI2cWriteBytes req p) ↔
      if (i2cOf p).toNat < i2cNum then Frees args [req.p0.buffer] else args = [] := by
  refine balances_iff fun s => ?_
  unfold handleI2cWriteBytes
  dsimp only
  rw [settles_acquire]
  by_cases valid : (i2cOf p).toNat < i2cNum
  · rw [if_neg (Nat.not_le.mpr valid), if_pos valid, if_neg (not_not_intro rfl)]
    exact settles_reading (sourceBytes_lived _) _ fun _ =>
      settles_anyReply _ fun _ _ => settles_anyReply _ fun _ _ => settles_write
  · rw [if_pos (Nat.not_lt.mp valid), if_neg valid, if_pos (by decide), settles_fail (by decide)]
    exact paid_nil

/-- A storage call after which the outcome no longer depends on it. -/
theorem settles_anyStorage {α : Type} {call : StorageCall} {rest : StorageReply → Program Helper α}
    (cond : Prop) (settles : ∀ reply, Settles args p q (rest reply) s
      (record ++ lifeEvents (.storage call) reply) ↔ cond) :
    Settles args p q (storage call >>= rest) s record ↔ cond := by
  rw [settles_storage]
  constructor
  · intro obeys
    exact (settles _).mp (obeys _ (storageAllows_failure call))
  · intro holds reply _
    exact (settles reply).mpr holds

theorem paid_closed (obj : BitVec 32) (record : List LifeEvent) :
    Paid args (.opened obj :: .closed obj :: record) ↔ Paid args record := by
  simp [Paid]

theorem handleWriteSecureObject_balances :
    Balances args p req.signo (handleWriteSecureObject req p) ↔
      Frees args [req.p0.buffer, req.p1.buffer] := by
  have reported (s : Pta) (res : TeeResult) (record : List LifeEvent) :
      Settles args p req.signo (do
        publish p req.signo res 0 null
        free req.p0.buffer
        free req.p1.buffer
        return res) s record ↔
        Paid args (record ++ [.freed req.p0.buffer, .freed req.p1.buffer]) := by
    rw [settles_publish, settles_free, settles_free, List.append_assoc]
    exact settles_empty (entry_publish res 0 null).len
  refine balances_iff fun s => ?_
  refine settles_reading (loadFrom_lived _ _ _) _ fun id => settles_anyStorage _ fun created => ?_
  split
  · rename_i failed
    rw [show lifeEvents (.storage (.objCreate id)) created = [] from if_neg failed, pure_bind]
    exact (reported s created.res []).trans (paid_freed [_, _])
  · rename_i succeeded
    rw [show lifeEvents (.storage (.objCreate id)) created = [.opened _] from
      if_pos (not_not.mp succeeded)]
    refine settles_reading (loadFrom_lived _ _ _) _ fun data =>
      settles_anyStorage _ fun written => ?_
    split
    all_goals
      simp only [pure_bind]
      refine settles_anyStorage _ fun _ => (reported s written.res _).trans ?_
      exact (paid_closed _ _).trans (paid_freed [_, _])

/-- An object whose size cannot be read stays open. -/
theorem handleReadSecureObject_unbalanced :
    ¬Balances args p req.signo (handleReadSecureObject req p) := by
  intro balances
  have start := balances (holding args) (holding_holds args)
  unfold handleReadSecureObject readSecureObject memrefBytes at start
  simp only [bind_assoc] at start
  obtain ⟨id, _, run⟩ :=
    exists_lived (loadFrom req.p0.buffer req.p0.size.toNat 0) (holding args, [])
  cases (loadFrom_lived _ _ _).post_of_exec run
  have loaded : Settles args p req.signo _ (holding args) [] := start.rest_of_exec run
  have opened := (settles_storage _).mp loaded ⟨teeSuccess, 0, []⟩ ⟨.inl rfl, rfl⟩
  rw [if_neg (not_not_intro rfl), bind_assoc] at opened
  have unknown := (settles_storage _).mp opened _ (storageAllows_failure _)
  rw [if_pos (by decide)] at unknown
  simp only [bind_assoc, pure_bind] at unknown
  rw [settles_setRet, settles_free] at unknown
  have paid := (settled_of_report (show isNegative teeErrorGeneric = true from rfl)).mp unknown
  have left := (replay_frees_iff [req.p0.buffer]).mp paid
  cases left.2

/-! ### SPI exchanges -/

theorem settles_spiAcquire {α : Type} {mode clk : BitVec 32} {out : Ptr}
    {rest : TeeResult → Program Helper α} :
    Settles args p q
        (callDriver (.spiAcquire (spiOf p) (req.p1.a.setWidth 8) mode clk) out >>= rest) s record ↔
      Settles args p q (rest (if SpiReady req p then teeSuccess else teeErrorBadParameters)) s
        record := by
  simp only [settles_driver, spiAcquired_iff, forall_eq]
  rfl

/-- Without its bus the transfer frees its read buffer alone. -/
theorem spiTransferWith_unready (unready : ¬SpiReady req p) :
    Settles args p req.signo (spiTransferWith buf req p) s record ↔
      Paid args (record ++ [.freed buf]) := by
  unfold spiTransferWith
  dsimp only
  rw [settles_spiAcquire, if_neg unready, if_pos (by decide), settles_setRet, settles_free]
  exact settled_of_report (by decide)

/-- What `spiTransferWith` does after the transfer itself. -/
def spiFinish (buf : Ptr) (req : IoReq) (p : Nat) (res : TeeResult) : Program Helper TeeResult :=
  if res ≠ teeSuccess then do
    free req.p0.buffer
    free buf
    setRet p req.signo res
    return res
  else do
    publish p req.signo req.p2.b req.p2.b buf
    free req.p0.buffer
    return teeSuccess

/-- With its bus the transfer settles the request when every answer of the
device does. -/
theorem spiTransferWith_ready (ready : SpiReady req p)
    (settles : ∀ res s', Lawful res →
      Settles args p req.signo (spiFinish buf req p res) s' record) :
    Settles args p req.signo (spiTransferWith buf req p) s record := by
  unfold spiTransferWith
  dsimp only
  rw [settles_spiAcquire, if_pos ready, if_neg (not_not_intro rfl)]
  refine (sourceBytes_lived _).bind ?_
  rintro source _ rfl
  refine (settles_driver _ _).mpr fun reply allowed => (settles_driver _ _).mpr fun _ _ => ?_
  exact settles reply.res _ (covers_of_deviceAllows allowed).lawful

theorem finish_of_spiTransferWith (ready : SpiReady req p)
    (settles : Settles args p req.signo (spiTransferWith buf req p) s record)
    (answer : Option (List Byte) → Drivers.Reply)
    (allowed : ∀ source, DeviceAllows (spiTransferCall req p source) (answer source)) :
    ∃ source s', Settles args p req.signo (spiFinish buf req p (answer source).res) s' record := by
  unfold spiTransferWith at settles
  dsimp only at settles
  rw [settles_spiAcquire, if_pos ready, if_neg (not_not_intro rfl)] at settles
  obtain ⟨source, after, run⟩ := exists_lived (sourceBytes req.p0) (_, record)
  cases (sourceBytes_lived _).post_of_exec run
  have called := (settles_driver _ _).mp (settles.rest_of_exec run) _ (allowed source)
  exact ⟨source, _, (settles_driver _ _).mp called _ (spiRelease_allowed ready)⟩

theorem frees_null (ptrs : List Ptr) : Frees args (ptrs ++ [null]) ↔ Frees args ptrs := by
  simp [Frees]

/-- Without a read buffer the source is freed once, whatever the answer. -/
theorem spiFinish_silent (silent : req.p2.b = 0) (lawful : Lawful res) :
    Settles args p req.signo (spiFinish null req p res) s [] ↔ Frees args [req.p0.buffer] := by
  unfold spiFinish
  split
  · rename_i failed
    rw [settles_free, settles_free, settles_fail (lawful.isNegative failed)]
    exact (paid_freed [_, null]).trans (frees_null [_])
  · rw [settles_publish, settles_free, silent]
    refine (settles_empty ?_).trans (paid_freed [_])
    exact (entry_publish 0 0 null).len

/-- A read buffer without a source. -/
theorem spiFinish_read (lawful : Lawful res) (reads : req.p2.b ≠ 0)
    (nonnegative : isNegative req.p2.b = false) (noSource : req.p0.buffer = null)
    (notNull : buf ≠ null) :
    Settles [] p req.signo (spiFinish buf req p res) s [.allocated buf] := by
  unfold spiFinish
  rw [noSource]
  split
  · rename_i failed
    rw [settles_free, settles_free, settles_fail (lawful.isNegative failed)]
    simp [Paid, replay, Ledger.after, notNull]
  · rw [settles_publish, settles_free]
    have entry := entry_publish (s := s) (p := p) (q := req.signo) req.p2.b req.p2.b buf
    refine (settled_of_collected entry.buf ?_ List.not_mem_nil).mpr ?_
    · rintro (negative | empty | isNull)
      · rw [show isNegative req.p2.b = true from entry.ret ▸ negative] at nonnegative
        cases nonnegative
      · exact reads (entry.len.symm.trans empty)
      · exact notNull isNull
    · simp [Paid, replay, Ledger.after, notNull]

/-- A result with a source is freed neither by the handler nor by the
collection in balance. -/
theorem source_of_spiFinish (distinct : buf ≠ req.p0.buffer)
    (settles : Settles [] p req.signo (spiFinish buf req p teeSuccess) s [.allocated buf]) :
    req.p0.buffer = null ∧ isNegative req.p2.b = false := by
  unfold spiFinish at settles
  rw [if_neg (not_not_intro rfl), settles_publish, settles_free] at settles
  have noSource : req.p0.buffer = null := by
    by_contra source
    unfold Settles at settles
    rw [Program.pure_eq, Program.obeys_pure, Settled, Balanced, replay_append] at settles
    simp [replay, Ledger.after, source, distinct.symm] at settles
  refine ⟨noSource, Bool.eq_false_iff.mpr fun negative => ?_⟩
  have entry := entry_publish (s := s) (p := p) (q := req.signo) req.p2.b req.p2.b buf
  have paid := (settled_of_released (.inl (entry.ret.symm ▸ negative))).mp settles
  rw [noSource] at paid
  simp [Paid, replay, Ledger.after] at paid

theorem handleSpiTransferBytes_balances :
    Balances args p req.signo (handleSpiTransferBytes req p) ↔
      if req.p2.b = 0 then (if SpiReady req p then Frees args [req.p0.buffer] else args = [])
      else args = [] ∧ (SpiReady req p → req.p0.buffer = null ∧ isNegative req.p2.b = false) := by
  unfold handleSpiTransferBytes
  by_cases silent : req.p2.b = 0
  · rw [if_pos silent, if_neg (by rw [silent]; decide)]
    by_cases ready : SpiReady req p
    · rw [if_pos ready]
      constructor
      · intro balances
        have answered (source : Option (List Byte)) :=
          Classical.choose_spec (exists_deviceAllows (spiTransferCall req p source))
        obtain ⟨source, s', settles⟩ := finish_of_spiTransferWith ready
          (balances (holding args) (holding_holds args)) _ answered
        exact (spiFinish_silent silent (covers_of_deviceAllows (answered source)).lawful).mp settles
      · intro frees s _
        exact spiTransferWith_ready ready fun _ _ lawful =>
          (spiFinish_silent silent lawful).mpr frees
    · rw [if_neg ready]
      exact balances_iff fun s => ((spiTransferWith_unready ready).trans (paid_freed [null])).trans
        ((frees_null []).trans List.perm_nil)
  · rw [if_neg silent, if_pos (Nat.pos_of_ne_zero fun zero => silent (BitVec.eq_of_toNat_eq zero))]
    constructor
    · intro balances
      have start := balances (holding args) (holding_holds args)
      rw [settles_malloc, if_pos rfl, settles_fail (by decide), paid_nil] at start
      obtain ⟨rfl, granted⟩ := start
      refine ⟨rfl, fun ready => ?_⟩
      obtain ⟨buf, notNull, distinct⟩ := exists_other_ptr req.p0.buffer
      have started := granted buf notNull rfl fun _ => 0
      rw [if_neg notNull] at started
      obtain ⟨source, s', settles⟩ := finish_of_spiTransferWith ready started _
        fun source => spiTransferCall_allowed silent
      exact source_of_spiFinish distinct settles
    · rintro ⟨rfl, fits⟩ s holds
      rw [settles_malloc, if_pos rfl, settles_fail (by decide), paid_nil]
      refine ⟨rfl, fun buf notNull fresh junk => ?_⟩
      rw [if_neg notNull]
      by_cases ready : SpiReady req p
      · obtain ⟨noSource, nonnegative⟩ := fits ready
        exact spiTransferWith_ready ready fun _ _ lawful =>
          spiFinish_read lawful silent nonnegative noSource notNull
      · exact (spiTransferWith_unready ready).mpr ((paid_buffer notNull).mpr rfl)

end Handlers

/-! ## All requests -/

/-- Whatever the devices, the storage and the heap do, the life of the request
is balanced. -/
def KeepsBalance (req : IoReq) (p : Nat) : Prop :=
  ∀ s : Pta, s.Holds req.ticket.args →
    (life req p).Obeys lived (fun _ after => Balanced req.ticket.args after.2) (s, [])

/-- The requests whose handler frees the argument buffers and nothing else,
whose result is never published as negative or empty, and which open no object
to read. -/
def IoReq.Clears (req : IoReq) (p : Nat) : Prop :=
  match req.type with
  | .writeSecureObject => Frees req.ticket.args [req.p0.buffer, req.p1.buffer]
  | .readSecureObject => False
  | .i2cWriteBytes =>
    if (i2cOf p).toNat < i2cNum then Frees req.ticket.args [req.p0.buffer]
    else req.ticket.args = []
  | .at24cxxWrite => Frees req.ticket.args [req.p0.buffer]
  | .spiTransferBytes =>
    if req.p2.b = 0 then
      if SpiReady req p then Frees req.ticket.args [req.p0.buffer] else req.ticket.args = []
    else req.ticket.args = [] ∧
      (SpiReady req p → req.p0.buffer = null ∧ req.p2.b.toNat < 2 ^ 31)
  | .i2cReadBytes => req.ticket.args = [] ∧ ((i2cOf p).toNat < i2cNum →
      req.p0.b.toNat < 2 ^ 31 ∨ req.p0.b.toNat % 2 ^ 16 = 0)
  | .i2cReadRegs => req.ticket.args = [] ∧ ((i2cOf p).toNat < i2cNum →
      (0 < req.p1.a.toNat ∧ req.p1.a.toNat < 2 ^ 31) ∨
        (req.p1.b.setWidth 8 : BitVec 8) &&& i2cReg16 ≠ 0)
  | .at24cxxRead => req.ticket.args = [] ∧ ((i2cOf p).toNat < i2cNum →
      req.p1.a.toNat < 2 ^ 31 ∨ req.p1.a.toNat % 2 ^ 16 = 0)
  | .tel0157GetAllGnss => req.ticket.args = [] ∧ ((i2cOf p).toNat < i2cNum →
      req.p0.b.toNat < 2 ^ 31 ∨ req.p0.b.toNat % 2 ^ 16 = 0 ∨ 1224 < req.p0.b.toNat % 2 ^ 16)
  | _ => req.ticket.args = []

section Contract

variable {req : IoReq} {noMemory : TeeResult} {call : DriverCall}

/-- A sample of a fixed positive size. -/
theorem sample_clears (handles : handleReq req p = handleSample size noMemory call req p)
    (negative : isNegative noMemory = true) (positive : size ≠ 0 ∧ isNegative size = false) :
    Balances req.ticket.args p req.signo (handleReq req p) ↔ req.ticket.args = [] := by
  rw [handles, handleSample_balances negative]
  exact and_iff_left fun _ => positive

theorem unsupported_clears (handles : handleReq req p = (do
      setRet p req.signo teeErrorNotSupported
      return teeErrorNotSupported)) :
    Balances req.ticket.args p req.signo (handleReq req p) ↔ req.ticket.args = [] := by
  rw [handles]
  exact balances_iff fun s => (settles_fail (by decide)).trans paid_nil

theorem ne_zero_iff_pos : size ≠ 0 ↔ 0 < size.toNat := by
  rw [Nat.pos_iff_ne_zero, ne_eq, ne_eq, ← BitVec.toNat_inj]
  rfl

theorem i2cReadBytes_clears (kind : req.type = .i2cReadBytes) :
    Balances req.ticket.args p req.signo (handleReq req p) ↔ req.Clears p := by
  rw [handleReq, IoReq.Clears, kind]
  dsimp only
  rw [handleI2cReadBytes, handleI2cRead_balances]
  refine and_congr_right fun _ => forall_congr' fun valid => ?_
  rw [canSucceed_i2cReadBytes _ _ _ valid, ne_eq, cut_eq_zero_iff, ne_zero_iff_pos,
    isNegative_eq_false_iff]
  omega

theorem i2cReadRegs_clears (kind : req.type = .i2cReadRegs) :
    Balances req.ticket.args p req.signo (handleReq req p) ↔ req.Clears p := by
  rw [handleReq, IoReq.Clears, kind]
  dsimp only
  rw [handleI2cReadRegs, handleI2cRead_balances]
  refine and_congr_right fun _ => forall_congr' fun valid => ?_
  rw [canSucceed_i2cReadRegs _ _ _ _ valid, ne_zero_iff_pos, isNegative_eq_false_iff]
  exact imp_iff_or_not

theorem at24cxxRead_clears (kind : req.type = .at24cxxRead) :
    Balances req.ticket.args p req.signo (handleReq req p) ↔ req.Clears p := by
  rw [handleReq, IoReq.Clears, kind]
  dsimp only
  rw [handleAt24cxxRead, handleSample_balances (by decide)]
  refine and_congr_right fun _ => ?_
  rw [canSucceed_at24cxxRead, ne_eq, cut_eq_zero_iff, ne_zero_iff_pos, isNegative_eq_false_iff]
  change ((i2cOf p).toNat < i2cNum ∧ _ → _) ↔ ((i2cOf p).toNat < i2cNum → _)
  omega

theorem tel0157GetAllGnss_clears (kind : req.type = .tel0157GetAllGnss) :
    Balances req.ticket.args p req.signo (handleReq req p) ↔ req.Clears p := by
  rw [handleReq, IoReq.Clears, kind]
  dsimp only
  rw [handleTel0157GetAllGnss, handleTel0157, handleSample_balances (by decide)]
  refine and_congr_right fun _ => ?_
  rw [canSucceed_tel0157GetAllGnss, ne_eq, cut_eq_zero_iff, toNat_cut, ne_zero_iff_pos,
    isNegative_eq_false_iff]
  change ((i2cOf p).toNat < i2cNum ∧ _ → _) ↔ ((i2cOf p).toNat < i2cNum → _)
  omega

theorem spiTransferBytes_clears (kind : req.type = .spiTransferBytes) :
    Balances req.ticket.args p req.signo (handleReq req p) ↔ req.Clears p := by
  rw [handleReq, IoReq.Clears, kind]
  dsimp only
  rw [handleSpiTransferBytes_balances, isNegative_eq_false_iff]

theorem handleReq_clears (req : IoReq) (p : Nat) :
    Balances req.ticket.args p req.signo (handleReq req p) ↔ req.Clears p := by
  cases kind : req.type with
  | i2cReadBytes => exact i2cReadBytes_clears kind
  | i2cReadRegs => exact i2cReadRegs_clears kind
  | at24cxxRead => exact at24cxxRead_clears kind
  | tel0157GetAllGnss => exact tel0157GetAllGnss_clears kind
  | spiTransferBytes => exact spiTransferBytes_clears kind
  | writeSecureObject =>
    rw [handleReq, IoReq.Clears, kind]
    exact handleWriteSecureObject_balances
  | readSecureObject =>
    rw [handleReq, IoReq.Clears, kind]
    exact iff_of_false handleReadSecureObject_unbalanced id
  | i2cWriteBytes =>
    rw [handleReq, IoReq.Clears, kind]
    exact handleI2cWriteBytes_balances
  | at24cxxWrite =>
    rw [handleReq, IoReq.Clears, kind]
    exact handleAt24cxxWrite_balances
  | mpu6050Sample =>
    rw [handleReq, IoReq.Clears, kind]
    exact handleMpu6050Sample_balances
  | atk301GetFingerprintImage =>
    rw [handleReq, IoReq.Clears, kind]
    exact handleAtk301GetFingerprintImage_balances
  | dhtRead | bh1750fviSample | tel0157GetGnssLen | tel0157GetUtcTime | tel0157GetGnssMode
  | tel0157GetNumSatUsed | tel0157GetLon | tel0157GetLat | tel0157GetAlt | tel0157GetSog
  | tel0157GetCog | atk301UploadFingerprintImage =>
    rw [show req.Clears p ↔ req.ticket.args = [] by rw [IoReq.Clears, kind]]
    exact sample_clears (by rw [handleReq, kind]; rfl) (by decide) (by decide)
  | i2cWriteRegs | spiTransferByte | spiTransferDiffBytes | bme280Sample | bme280GetCalibration
  | reqTypeNone | other =>
    rw [show req.Clears p ↔ req.ticket.args = [] by rw [IoReq.Clears, kind]]
    exact unsupported_clears (by rw [handleReq, kind])

/-- The collection settles what the handler leaves. -/
theorem keepsBalance_iff_balances (periph : p < nPeriph) (range : req.signo < nSubSig) :
    KeepsBalance req p ↔ Balances req.ticket.args p req.signo (handleReq req p) :=
  forall_congr' fun _ => imp_congr_right fun _ => life_balanced_iff periph range

end Contract

/-! ## Requests as they are queued -/

/-- The operations, with a check of every request that is enqueued: its slot
exists and its argument buffers are live. -/
def queueing : Semantics Helper Pta where
  guard s
    | .enqueue p req => p < nPeriph ∧ req.signo < nSubSig ∧ s.Holds req.ticket.args
    | _ => True
  step := helperStep

section Queueing

variable {α : Type} {post : α → Pta → Prop}

theorem queueing_bind {op : HelperOp} {rest : Helper.Reply op → Program Helper α}
    (allowed : queueing.guard s op)
    (second : ∀ reply after, helperStep s op reply after → (rest reply).Obeys queueing post after) :
    (Program.perform (I := Helper) op >>= rest).Obeys queueing post s :=
  ⟨allowed, second⟩

theorem Pta.Holds.store (holds : s.Holds args) (ptr : Ptr) (offset : Nat) (byte : Byte) :
    Pta.Holds { s with heap := s.heap.store ptr offset byte } args := by
  intro arg member
  have live := holds arg member
  unfold Heap.Live at live ⊢
  by_cases same : arg = ptr
  · subst same
    rw [Heap.store_blocks_self]
    simpa using live
  · rw [Heap.store_blocks_of_ne _ _ _ same]
    exact live

theorem Pta.Holds.alloc (holds : s.Holds args) (buf : Ptr) (size : Nat) (junk : Nat → Byte) :
    Pta.Holds { s with heap := s.heap.alloc buf size junk } (args ++ [buf]) := by
  intro arg member
  unfold Heap.Live
  by_cases same : arg = buf
  · subst same
    rw [Heap.alloc_blocks_self]
    exact Option.some_ne_none _
  · rw [Heap.alloc_blocks_of_ne _ _ _ same]
    rcases List.mem_append.mp member with member | member
    · exact holds arg member
    · exact absurd (List.mem_singleton.mp member) same

theorem copy_queueing {copy : Program Helper Unit} (copies : copy.Uses HelperOp.IsCopy)
    (holds : s.Holds args) :
    copy.Obeys queueing (fun _ after => after.Holds args) s := by
  induction copy generalizing s with
  | pure value => exact holds
  | call op next ih =>
    obtain ⟨isCopy, rest⟩ := copies
    cases op
    case loadClient =>
      refine ⟨trivial, ?_⟩
      rintro byte _ rfl
      exact ih byte (rest byte) holds
    case storeByte ptr offset byte =>
      refine ⟨trivial, ?_⟩
      rintro _ _ rfl
      exact ih () (rest ()) (holds.store ptr offset byte)
    all_goals exact isCopy.elim

/-- Every request a submission enqueues has an existing slot and live argument
buffers. -/
theorem Submits.queueing {serial : Nat} {type : IoReqType} {program : Program Helper CommandResult}
    (submits : Submits serial p type args program) (holds : s.Holds args) :
    program.Obeys queueing (fun _ _ => True) s := by
  induction submits generalizing s with
  | rejected => trivial
  | alloc _ ih =>
    refine queueing_bind trivial ?_
    rintro (buf : Ptr) _ (⟨rfl, rfl⟩ | ⟨notNull, -, junk, rfl⟩)
    · trivial
    · rw [if_neg notNull]
      exact ih buf notNull (holds.alloc buf _ junk)
  | request inRange copies signos tickets _ =>
    refine queueing_bind trivial ?_
    rintro (_ | signo) after allocated
    · trivial
    · obtain ⟨lowest, rfl⟩ := allocateSigno_some allocated
      refine Program.Obeys.bind (copy_queueing copies holds) fun _ copied stillHolds => ?_
      refine queueing_bind ⟨inRange, ?_, ?_⟩ fun _ _ _ => trivial
      · rw [signos]
        exact ((Mask.lowest?_eq_some_iff _ _).mp lowest).1
      · rw [tickets]
        exact stillHolds

theorem submission_queueing (submission : Submission) (serial : Nat) (s : Pta) :
    (submission.program serial).Obeys queueing (fun _ _ => True) s :=
  (submission.submits serial).queueing fun _ member => nomatch member

end Queueing

/-! ## The contract -/

/-- A request of an existing slot keeps its resources in balance, whatever the
bus, the devices, the storage and the heap answer, exactly when it clears them. -/
theorem keepsBalance_iff_clears {req : IoReq} {p : Nat} (periph : p < nPeriph)
    (range : req.signo < nSubSig) : KeepsBalance req p ↔ req.Clears p :=
  (keepsBalance_iff_balances periph range).trans (handleReq_clears req p)

/-- A light sample on the first I2C bus. -/
theorem keepsBalance_of_sample : sampleReq.Clears 28 ∧ KeepsBalance sampleReq 28 :=
  ⟨rfl, (keepsBalance_iff_clears (by decide) (by decide)).mpr rfl⟩

/-- A WRITE_REQ for one byte to an I2C bus; its argument buffer is block 1. -/
def busWriteReq : IoReq where
  type := .i2cWriteBytes
  signo := 0
  p0 := ⟨1, 1⟩
  p1 := .value 0x23 0
  p2 := .value 0 0
  ticket := ⟨0, [1]⟩

/-- An empty WRITE_REQ to the EEPROM; what was on the stack stands in the
pointer of the request. -/
def emptyEepromWrite : IoReq where
  type := .at24cxxWrite
  signo := 0
  p0 := ⟨1, 0⟩
  p1 := .value 0x50 0
  p2 := .value 0 0
  ticket := ⟨0, []⟩

/-- A READ_REQ_WITH_BUFFER for a secure object. -/
def objectReadReq : IoReq where
  type := .readSecureObject
  signo := 0
  p0 := ⟨1, 1⟩
  p1 := .value 0 0
  p2 := .value 0 0
  ticket := ⟨0, [1]⟩

/-- A READ_REQ for no register at all. -/
def emptyReadReq : IoReq where
  type := .i2cReadRegs
  signo := 0
  p0 := .value 0x23 0
  p1 := .value 0 0
  p2 := .value 0 0
  ticket := ⟨0, []⟩

/-- A write to a bus the board does not have leaks its argument, an empty write
frees a pointer never allocated, a read of a secure object leaves it open, and a
read of no register leaks the empty result buffer. -/
theorem unbalanced_requests :
    ¬KeepsBalance busWriteReq 40 ∧ ¬KeepsBalance emptyEepromWrite 28 ∧
      ¬KeepsBalance objectReadReq 31 ∧ ¬KeepsBalance emptyReadReq 28 := by
  refine ⟨?_, ?_, ?_, ?_⟩
  all_goals rw [keepsBalance_iff_balances (by decide) (by decide), handleReq_clears]
  · exact fun clears : ([1] : List Ptr) = [] => nomatch clears
  · exact fun clears : Frees [] [(1 : Ptr)] => absurd clears (by decide)
  · exact id
  · intro clears
    exact absurd (clears.2 (by decide)) (by decide)

end TrustWasm.IoHelper
