import TrustWasm.IoHelper.Publication

/-!
# Resource balance over the life of a request

A ledger follows what a request owns: heap blocks from their allocation to their
release, and storage objects from the call that opens them to the one that closes
them.  The argument buffers are in the ledger when the worker takes the request.
The ledger refuses a record in which a pointer is freed that the request does
not own, in which the request becomes ready while it still owns an argument
buffer or an open object, or in which its slot is released while it still owns a
block.
-/

namespace TrustWasm.IoHelper

open TrustWasm.Lib TrustWasm.Tee TrustWasm.Drivers

/-- What happens to the resources of a request. -/
inductive LifeEvent where
  | allocated (ptr : Ptr)
  | freed (ptr : Ptr)
  | opened (obj : BitVec 32)
  | closed (obj : BitVec 32)
  | ready
  | released
  deriving DecidableEq

/-- The events of an operation. -/
def lifeEvents : (op : HelperOp) → Helper.Reply op → List LifeEvent
  | .malloc _, (ptr : Ptr) => if ptr = null then [] else [.allocated ptr]
  | .free ptr, _ => [.freed ptr]
  | .storage (.objCreate _), (reply : StorageReply)
  | .storage (.objOpen _), (reply : StorageReply) =>
    if reply.res = teeSuccess then [.opened (reply.value.setWidth 32)] else []
  | .storage (.objDel obj), _ | .storage (.objClose obj), _ => [.closed obj]
  | .setReadySignal _ _, _ => [.ready]
  | .releaseSigno _ _, _ => [.released]
  | _, _ => []

/-! ## The ledger -/

/-- What a request owns. -/
structure Ledger where
  owned : List Ptr
  handles : List (BitVec 32)
  deriving DecidableEq

/-- The ledger of a request with argument buffers `args` after an event, if the
event is allowed. -/
def Ledger.after (args : List Ptr) (ledger : Ledger) : LifeEvent → Option Ledger
  | .allocated ptr => some { ledger with owned := ptr :: ledger.owned }
  | .freed ptr =>
    if ptr = null then some ledger
    else if ptr ∈ ledger.owned then some { ledger with owned := ledger.owned.erase ptr }
    else none
  | .opened obj => some { ledger with handles := obj :: ledger.handles }
  | .closed obj =>
    if obj ∈ ledger.handles then some { ledger with handles := ledger.handles.erase obj }
    else none
  | .ready => if ledger.handles = [] ∧ ∀ arg ∈ args, arg ∉ ledger.owned then some ledger else none
  | .released => if ledger.owned = [] then some ledger else none

/-- The ledger after a record, if every event of it is allowed. -/
def replay (args : List Ptr) (ledger : Ledger) : List LifeEvent → Option Ledger
  | [] => some ledger
  | event :: rest => (ledger.after args event).bind fun next => replay args next rest

/-- The record keeps the balance of a request with these argument buffers. -/
def Balanced (args : List Ptr) (record : List LifeEvent) : Prop :=
  (replay args ⟨args, []⟩ record).isSome = true

instance (args : List Ptr) (record : List LifeEvent) : Decidable (Balanced args record) :=
  inferInstanceAs (Decidable (_ = _))

section Ledger

variable {args owned : List Ptr} {handles : List (BitVec 32)} {ledger : Ledger}
  {record : List LifeEvent} {buf : Ptr}

@[simp]
theorem replay_nil : replay args ledger [] = some ledger :=
  rfl

@[simp]
theorem replay_allocated (ptr : Ptr) :
    replay args ⟨owned, handles⟩ (.allocated ptr :: record) =
      replay args ⟨ptr :: owned, handles⟩ record :=
  rfl

@[simp]
theorem replay_opened (obj : BitVec 32) :
    replay args ⟨owned, handles⟩ (.opened obj :: record) =
      replay args ⟨owned, obj :: handles⟩ record :=
  rfl

/-- Freeing the block allocated last. -/
@[simp]
theorem replay_freed_self (notNull : buf ≠ null) :
    replay args ⟨buf :: owned, handles⟩ (.freed buf :: record) =
      replay args ⟨owned, handles⟩ record := by
  simp [replay, Ledger.after, notNull]

/-- Closing the object opened last. -/
@[simp]
theorem replay_closed (obj : BitVec 32) :
    replay args ⟨owned, obj :: handles⟩ (.closed obj :: record) =
      replay args ⟨owned, handles⟩ record := by
  simp [replay, Ledger.after]

theorem replay_append (args : List Ptr) (ledger : Ledger) (first second : List LifeEvent) :
    replay args ledger (first ++ second) =
      (replay args ledger first).bind fun next => replay args next second := by
  induction first generalizing ledger with
  | nil => rfl
  | cons event rest ih =>
    cases step : ledger.after args event with
    | none => simp [replay, step]
    | some next => simp [replay, step, ih]

/-- Frees empty the ledger exactly when they name each owned block once and
otherwise null. -/
theorem replay_frees_iff (ptrs : List Ptr) :
    replay args ⟨owned, handles⟩ (ptrs.map .freed) = some ⟨[], []⟩ ↔
      owned.Perm (ptrs.filter (· ≠ null)) ∧ handles = [] := by
  induction ptrs generalizing owned with
  | nil => simp
  | cons ptr rest ih =>
    by_cases isNull : ptr = null
    · simp only [List.map_cons, replay, Ledger.after, isNull, if_true, Option.bind_some, ih]
      simp
    · have kept : (ptr :: rest).filter (· ≠ null) = ptr :: rest.filter (· ≠ null) := by
        simp [isNull]
      rw [kept, List.map_cons, replay, Ledger.after, if_neg isNull]
      by_cases member : ptr ∈ owned
      · have peeled : owned.Perm (ptr :: rest.filter (· ≠ null)) ↔
            (owned.erase ptr).Perm (rest.filter (· ≠ null)) := by
          rw [List.perm_comm, List.cons_perm_iff_perm_erase, and_iff_right member, List.perm_comm]
        rw [if_pos member, Option.bind_some, ih, peeled]
      · rw [if_neg member, Option.bind_none]
        simp only [reduceCtorEq, false_iff, not_and]
        intro perm
        exact absurd (perm.mem_iff.mpr List.mem_cons_self) member

/-- A request whose slot is released as soon as it is ready owns nothing. -/
theorem balanced_released :
    Balanced args (record ++ [.ready, .released]) ↔
      replay args ⟨args, []⟩ record = some ⟨[], []⟩ := by
  unfold Balanced
  rw [replay_append]
  cases replay args ⟨args, []⟩ record with
  | none => simp
  | some ledger =>
    obtain ⟨owned, handles⟩ := ledger
    simp only [Option.bind_some, replay, Ledger.after, Option.some.injEq, Ledger.mk.injEq]
    by_cases nothing : owned = []
    · subst nothing
      by_cases closed : handles = []
      · simp [closed]
      · simp [closed]
    · by_cases settled : handles = [] ∧ ∀ arg ∈ args, arg ∉ owned
      · simp [settled, nothing]
      · rw [if_neg settled]
        simp [nothing]

/-- A request whose result is collected owns its result buffer alone. -/
theorem balanced_collected (notNull : buf ≠ null) (fresh : buf ∉ args) :
    Balanced args (record ++ [.ready, .freed buf, .released]) ↔
      replay args ⟨args, []⟩ (record ++ [.freed buf]) = some ⟨[], []⟩ := by
  unfold Balanced
  rw [replay_append, replay_append]
  cases replay args ⟨args, []⟩ record with
  | none => simp
  | some ledger =>
    obtain ⟨owned, handles⟩ := ledger
    simp only [Option.bind_some, replay, Ledger.after, if_neg notNull]
    by_cases member : buf ∈ owned
    · rw [if_pos member, Option.bind_some, Option.some.injEq, Ledger.mk.injEq]
      by_cases settled : handles = [] ∧ ∀ arg ∈ args, arg ∉ owned
      · rw [if_pos settled, Option.bind_some, if_pos member, Option.bind_some]
        by_cases only : owned.erase buf = []
        · rw [if_pos only]
          exact ⟨fun _ => ⟨only, settled.1⟩, fun _ => rfl⟩
        · rw [if_neg only]
          exact Iff.intro (fun balanced => nomatch balanced) fun both => absurd both.1 only
      · -- a block other than the result buffer, or an object, is left
        simp only [if_neg settled, Option.bind_none, Option.isSome_none, Bool.false_eq_true,
          false_iff, not_and]
        intro only closed
        refine settled ⟨closed, fun arg isArg isOwned => ?_⟩
        have other : arg ≠ buf := fun same => fresh (same ▸ isArg)
        have kept := (List.mem_erase_of_ne other).mpr isOwned
        rw [only] at kept
        cases kept
    · simp only [if_neg member, Option.bind_none, reduceCtorEq, iff_false]
      by_cases settled : handles = [] ∧ ∀ arg ∈ args, arg ∉ owned
      · simp [if_pos settled, if_neg member]
      · simp [if_neg settled]

end Ledger

/-! ## The life of a request -/

/-- The parameters of a GET_DATA with room for every result. -/
def collectParams (p q : Nat) : Params :=
  ⟨.value (BitVec.ofNat 32 p) (BitVec.ofNat 32 q), ⟨null, 0xFFFFFFFF⟩, ⟨null, 0⟩, ⟨null, 0⟩⟩

/-- The request of the slot becomes ready and its result is collected. -/
def collect (p q : Nat) : Program Helper Unit := do
  setReadySignal p q
  let _ ← getData getDataTypes (collectParams p q)
  return

/-- The worker serves the request and a client collects its result. -/
def life (req : IoReq) (p : Nat) : Program Helper Unit := do
  let _ ← handleReq req p
  collect p req.signo

/-- What a collection of the entry does to the resources. -/
def collectEvents (entry : SigEntry) : List LifeEvent :=
  if isNegative entry.ret = true ∨ entry.len = 0 ∨ entry.buf = null then [.released]
  else [.freed entry.buf, .released]

section Rules

variable {s : Pta} {record : List LifeEvent} {p q : Nat} {α : Type}
  {post : α → Pta × List LifeEvent → Prop}

/-- The operations with a record of their events. -/
abbrev lived : Semantics Helper (Pta × List LifeEvent) :=
  Program.recorded helper lifeEvents

theorem lived_bind {op : HelperOp} {rest : Helper.Reply op → Program Helper α}
    (second : ∀ reply after, helperStep s op reply after →
      (rest reply).Obeys lived post (after, record ++ lifeEvents op reply)) :
    (Program.perform (I := Helper) op >>= rest).Obeys lived post (s, record) :=
  Program.Obeys.recorded_bind trivial second

/-- An operation that is no event. -/
theorem lived_silent {op : HelperOp} {rest : Helper.Reply op → Program Helper α}
    (silent : ∀ reply, lifeEvents op reply = [])
    (second : ∀ reply after, helperStep s op reply after →
      (rest reply).Obeys lived post (after, record)) :
    (Program.perform (I := Helper) op >>= rest).Obeys lived post (s, record) := by
  refine lived_bind fun reply after step => ?_
  rw [silent, List.append_nil]
  exact second reply after step

theorem loadFrom_lived (ptr : Ptr) (count offset : Nat) :
    (loadFrom ptr count offset).Obeys lived (fun _ after => after = (s, record)) (s, record) := by
  induction count generalizing offset with
  | zero => exact rfl
  | succ count ih =>
    refine lived_silent (fun _ => rfl) ?_
    rintro byte _ ⟨rfl, -⟩
    refine (ih (offset + 1)).bind_at fun rest => ?_
    exact rfl

theorem sourceBytes_lived (param : TeeParam) :
    (sourceBytes param).Obeys lived (fun _ after => after = (s, record)) (s, record) := by
  unfold sourceBytes
  split
  · exact rfl
  · refine (loadFrom_lived _ _ _).bind_at fun bytes => ?_
    exact rfl

/-- Stores change the content of the heap alone. -/
theorem storeAll_lived (ptr : Ptr) (stores : List (Nat × Byte)) :
    (storeAll ptr stores).Obeys lived
      (fun _ after => after = ({ s with heap := s.heap.storeAll ptr stores }, record))
      (s, record) := by
  induction stores generalizing s with
  | nil => exact rfl
  | cons first rest ih =>
    refine lived_silent (fun _ => rfl) ?_
    rintro _ _ rfl
    exact ih (s := { s with heap := s.heap.store ptr first.1 first.2 })

theorem callDriver_lived (call : DriverCall) (out : Ptr) :
    (callDriver call out).Obeys lived
      (fun res after => ∃ reply, DeviceAllows call reply ∧ res = reply.res ∧
        after = ({ s with heap := s.heap.storeAll out reply.out }, record)) (s, record) := by
  refine lived_silent (fun _ => rfl) ?_
  rintro (reply : Drivers.Reply) _ ⟨allowed, rfl⟩
  refine (storeAll_lived out reply.out).bind_at fun _ => ?_
  exact ⟨reply, allowed, rfl, rfl⟩

/-! ### Collection -/

theorem takeData_lived (params : Params) :
    (takeData params p q).Obeys lived
      (fun _ after => after.2 = record ++ [.freed (s.entry p q).buf, .released]) (s, record) := by
  refine lived_silent (fun _ => rfl) ?_
  rintro _ s ⟨rfl, rfl⟩
  refine lived_silent (fun _ => rfl) ?_
  rintro _ s ⟨rfl, rfl⟩
  refine (loadFrom_lived _ _ _).bind_at fun out => ?_
  refine lived_silent (fun _ => rfl) ?_
  rintro _ s ⟨rfl, rfl⟩
  refine lived_bind ?_
  rintro _ _ rfl
  refine lived_silent (fun _ => rfl) fun _ _ _ => lived_silent (fun _ => rfl) fun _ _ _ => ?_
  refine lived_silent (fun _ => rfl) fun _ _ _ => lived_silent (fun _ => rfl) fun _ _ _ => ?_
  refine lived_silent (fun _ => rfl) fun _ _ _ => lived_silent (fun _ => rfl) fun _ _ _ => ?_
  refine lived_bind fun _ _ _ => ?_
  exact List.append_assoc record _ _

theorem dataBufMissing_lived :
    (dataBufMissing p q).Obeys lived
      (fun missing after => after = (s, record) ∧
        (missing = true ↔ (s.entry p q).len ≠ 0 ∧ (s.entry p q).buf = null)) (s, record) := by
  refine lived_silent (fun _ => rfl) ?_
  rintro _ s ⟨rfl, rfl⟩
  split
  · rename_i notEmpty
    refine lived_silent (fun _ => rfl) ?_
    rintro _ s ⟨rfl, rfl⟩
    exact ⟨rfl, decide_eq_true_iff.trans (and_iff_right notEmpty).symm⟩
  · rename_i isEmpty
    exact ⟨rfl, by simp [not_not.mp isEmpty]⟩

/-- A collection with room for every result. -/
theorem getReadyData_lived {params : Params} (room : 2 ^ 32 ≤ params.p1.size.toNat + 1) :
    (getReadyData params p q).Obeys lived
      (fun _ after => after.2 = record ++ collectEvents (s.entry p q)) (s, record) := by
  refine lived_silent (fun _ => rfl) ?_
  rintro _ s ⟨rfl, rfl⟩
  split
  · rename_i negative
    refine lived_silent (fun _ => rfl) fun _ _ _ => lived_bind fun _ _ _ => ?_
    rw [collectEvents, if_pos (.inl negative)]
    exact rfl
  · rename_i notNegative
    refine lived_silent (fun _ => rfl) ?_
    rintro _ s ⟨rfl, rfl⟩
    rw [if_neg (by omega)]
    refine Program.Obeys.bind dataBufMissing_lived ?_
    rintro missing _ ⟨rfl, isMissing⟩
    split
    · rename_i isTrue
      refine lived_bind fun _ _ _ => ?_
      rw [collectEvents, if_pos (.inr (.inr (isMissing.mp isTrue).2))]
      exact rfl
    · rename_i present
      refine lived_silent (fun _ => rfl) ?_
      rintro _ s ⟨rfl, rfl⟩
      split
      · rename_i isEmpty
        refine lived_silent (fun _ => rfl) fun _ _ _ => lived_bind fun _ _ _ => ?_
        rw [collectEvents, if_pos (.inr (.inl isEmpty))]
        exact rfl
      · rename_i notEmpty
        have hasData : ¬(isNegative (s.entry p q).ret = true ∨ (s.entry p q).len = 0 ∨
            (s.entry p q).buf = null) := by
          rintro (negative | isEmpty | isNull)
          · exact notNegative negative
          · exact notEmpty isEmpty
          · exact present (isMissing.mpr ⟨notEmpty, isNull⟩)
        rw [collectEvents, if_neg hasData]
        exact takeData_lived params

theorem isReadySignal_setReadySignal (s : Pta) (p : Nat) {q : Nat} (range : q < nSubSig) :
    (s.setReadySignal p q).isReadySignal p q = true := by
  have inRange : q < 64 := range
  rw [isReadySignal_eq_true_iff inRange]
  simp [Pta.setReadySignal, Mask.getLsbD_bit_of_lt inRange]

theorem collect_lived (periph : p < nPeriph) (range : q < nSubSig) :
    (collect p q).Obeys lived
      (fun _ after => after.2 = record ++ .ready :: collectEvents (s.entry p q)) (s, record) := by
  have periphNo : toUint16 (collectParams p q).p0.a = p := by
    unfold nPeriph at periph
    simp only [collectParams, TeeParam.value_a, toUint16, BitVec.toNat_ofNat]
    omega
  have subSigno : (collectParams p q).p0.b.toNat = q := by
    unfold nSubSig at range
    simp only [collectParams, TeeParam.value_b, BitVec.toNat_ofNat]
    omega
  refine lived_bind ?_
  rintro _ _ rfl
  have collected : (getData getDataTypes (collectParams p q)).Obeys lived
      (fun _ after => after.2 = record ++ .ready :: collectEvents (s.entry p q))
      (s.setReadySignal p q, record ++ [.ready]) := by
    unfold getData
    rw [if_neg (not_not_intro rfl)]
    dsimp only
    rw [periphNo, subSigno, if_neg (by omega)]
    refine lived_silent (fun _ => rfl) ?_
    rintro _ _ ⟨rfl, rfl⟩
    rw [isReadySignal_setReadySignal s p range]
    refine (getReadyData_lived ?_).mono fun _ _ same => ?_
    · simp [collectParams]
    · rw [same, List.append_assoc]
      rfl
  refine Program.Obeys.bind collected ?_
  intro _ after same
  exact same

end Rules

/-! ## Requests that settle -/

/-- From here on the request becomes ready and is collected in balance. -/
def Settled (args : List Ptr) (p q : Nat) (after : Pta × List LifeEvent) : Prop :=
  Balanced args (after.2 ++ .ready :: collectEvents (after.1.entry p q))

/-- However the program runs, its request is settled when it returns. -/
def Settles {α : Type} (args : List Ptr) (p q : Nat) (program : Program Helper α) (s : Pta)
    (record : List LifeEvent) : Prop :=
  program.Obeys lived (fun _ after => Settled args p q after) (s, record)

theorem storageAllows_failure (call : StorageCall) :
    StorageAllows call ⟨teeErrorGeneric, 0, []⟩ := by
  cases call with
  | objRead obj size =>
    exact ⟨.inr rfl, Nat.zero_le _,
      fun same => absurd same (show teeErrorGeneric ≠ teeSuccess by decide)⟩
  | _ => exact ⟨.inr rfl, rfl⟩

theorem helperStep_total (s : Pta) (op : HelperOp) :
    ∃ reply after, helperStep s op reply after := by
  cases op with
  | enqueue p req => exact ⟨teeErrorOutOfMemory, s, .inl ⟨rfl, rfl⟩⟩
  | malloc size => exact ⟨null, s, .inl ⟨rfl, rfl⟩⟩
  | loadByte ptr offset =>
    cases found : s.heap.blocks ptr with
    | none => exact ⟨(0 : Byte), s, rfl, fun block other => by simp [found] at other⟩
    | some block =>
      exact ⟨block.bytes offset, s, rfl, fun other same => by cases found.symm.trans same; rfl⟩
  | loadClient ptr offset => exact ⟨(0 : Byte), s, rfl⟩
  | driver call =>
    obtain ⟨reply, allowed⟩ := exists_deviceAllows call
    exact ⟨reply, s, allowed, rfl⟩
  | storage call => exact ⟨_, s, storageAllows_failure call, rfl⟩
  | getReadySignal | allocateSigno => exact ⟨_, _, rfl⟩
  | isReadySignal | isUsingSigno | getReqNum | getRet | getLen | getBuf | getPollTimes =>
    exact ⟨_, s, rfl, rfl⟩
  | setReadySignal | releaseSigno | setRet | setLen | setBuf | setPollTimes | free | storeByte =>
    exact ⟨(), _, rfl⟩

/-- Every program of the helper runs to its end in some way. -/
theorem exists_lived {α : Type} (program : Program Helper α) (state : Pta × List LifeEvent) :
    ∃ result after, program.Exec lived state result after := by
  refine program.uses_all.exists_exec ?_ state
  rintro ⟨s, record⟩ op -
  obtain ⟨reply, after, step⟩ := helperStep_total s op
  exact ⟨reply, (after, _), step, rfl⟩

section Settling

variable {args : List Ptr} {s : Pta} {record : List LifeEvent} {p q : Nat} {α : Type}

/-- The life of a request is balanced exactly when its handler settles it. -/
theorem life_balanced_iff {req : IoReq} (periph : p < nPeriph) (range : req.signo < nSubSig) :
    (life req p).Obeys lived (fun _ after => Balanced args after.2) (s, []) ↔
      Settles args p req.signo (handleReq req p) s [] := by
  unfold life Settles
  rw [Program.obeys_bind_iff]
  constructor
  · intro obeys
    refine obeys.mono ?_
    rintro res ⟨s', record⟩ collected
    obtain ⟨_, after, run⟩ := exists_lived (collect p req.signo) (s', record)
    have balanced := collected.post_of_exec run
    rwa [(collect_lived periph range).post_of_exec run] at balanced
  · intro obeys
    refine obeys.mono ?_
    rintro res ⟨s', record⟩ settled
    refine (collect_lived periph range).mono ?_
    rintro _ after same
    rw [same]
    exact settled

theorem settles_pure (value : α) :
    Settles args p q (Program.pure value) s record ↔ Settled args p q (s, record) :=
  Iff.rfl

theorem settles_bind {op : HelperOp} {rest : Helper.Reply op → Program Helper α} :
    Settles args p q (Program.perform (I := Helper) op >>= rest) s record ↔
      ∀ reply after, helperStep s op reply after →
        Settles args p q (rest reply) after (record ++ lifeEvents op reply) := by
  constructor
  · intro settles reply after step
    exact settles.rest_of_step reply ⟨step, rfl⟩
  · exact lived_bind

theorem settles_free (ptr : Ptr) {rest : Unit → Program Helper α} :
    Settles args p q (free ptr >>= rest) s record ↔
      Settles args p q (rest ()) { s with heap := s.heap.free ptr } (record ++ [.freed ptr]) := by
  refine settles_bind.trans ⟨fun settles => settles () _ rfl, ?_⟩
  rintro settles _ _ rfl
  exact settles

/-- Allocation is refused or returns a block that was not live. -/
theorem settles_malloc (size : Nat) {rest : Ptr → Program Helper α} :
    Settles args p q (malloc size >>= rest) s record ↔
      Settles args p q (rest null) s record ∧
        ∀ buf ≠ null, s.heap.blocks buf = none → ∀ junk,
          Settles args p q (rest buf) { s with heap := s.heap.alloc buf size junk }
            (record ++ [.allocated buf]) := by
  refine settles_bind.trans ⟨fun settles => ⟨?_, ?_⟩, ?_⟩
  · have refused := settles null s (.inl ⟨rfl, rfl⟩)
    rwa [show lifeEvents (.malloc size) null = [] from rfl, List.append_nil] at refused
  · intro buf notNull fresh junk
    have granted := settles buf _ (.inr ⟨notNull, fresh, junk, rfl⟩)
    rwa [show lifeEvents (.malloc size) buf = [.allocated buf] from if_neg notNull] at granted
  · rintro ⟨refused, granted⟩ (buf : Ptr) _ (⟨rfl, rfl⟩ | ⟨notNull, fresh, junk, rfl⟩)
    · rwa [show lifeEvents (.malloc size) null = [] from rfl, List.append_nil]
    · rw [show lifeEvents (.malloc size) buf = [.allocated buf] from if_neg notNull]
      exact granted buf notNull fresh junk

theorem settles_storage (call : StorageCall) {rest : StorageReply → Program Helper α} :
    Settles args p q (storage call >>= rest) s record ↔
      ∀ reply, StorageAllows call reply →
        Settles args p q (rest reply) s (record ++ lifeEvents (.storage call) reply) := by
  refine settles_bind.trans ⟨fun settles reply allowed => settles reply s ⟨allowed, rfl⟩, ?_⟩
  rintro settles reply _ ⟨allowed, rfl⟩
  exact settles reply allowed

theorem callDriver_lived_exec {call : DriverCall} {reply : Drivers.Reply}
    (allowed : DeviceAllows call reply) (out : Ptr) :
    (callDriver call out).Exec lived (s, record) reply.res
      ({ s with heap := s.heap.storeAll out reply.out }, record) := by
  refine ⟨reply, (s, record), ⟨⟨allowed, rfl⟩, (List.append_nil record).symm⟩, ?_⟩
  change (storeAll out reply.out >>= fun _ => pure reply.res).Exec lived (s, record) reply.res _
  obtain ⟨_, after, run⟩ := exists_lived (storeAll out reply.out) (s, record)
  cases (storeAll_lived out reply.out).post_of_exec run
  exact Program.exec_bind.mpr ⟨(), _, run, rfl, rfl⟩

theorem settles_driver (call : DriverCall) (out : Ptr) {rest : TeeResult → Program Helper α} :
    Settles args p q (callDriver call out >>= rest) s record ↔
      ∀ reply, DeviceAllows call reply →
        Settles args p q (rest reply.res) { s with heap := s.heap.storeAll out reply.out }
          record := by
  constructor
  · intro settles reply allowed
    exact settles.rest_of_exec (callDriver_lived_exec allowed out)
  · intro settles
    refine (callDriver_lived call out).bind ?_
    rintro _ _ ⟨reply, allowed, rfl, rfl⟩
    exact settles reply allowed

end Settling

end TrustWasm.IoHelper
