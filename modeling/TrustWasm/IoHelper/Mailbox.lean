import TrustWasm.IoHelper.Memory

/-!
# The io_helper as a mailbox for each peripheral

A client sees a mailbox for each peripheral: requests wait in the order they
were enqueued, the first one waiting is finished into its slot, and a collection
takes the result out of the slot or leaves it there when the buffer is too
short.  `deliver` says which events a mailbox allows.  In every run of whole
commands on existing slots with matched submissions the log is one the
mailboxes allow, and the mailboxes they end in are those the state stands for.
-/

namespace TrustWasm.IoHelper

open TrustWasm.Lib TrustWasm.Tee Function

/-! ## Mailboxes -/

/-- The mailbox of a peripheral: the requests enqueued and not finished, oldest
first, and for each slot the request whose result waits there, with the
result. -/
structure Mailbox where
  waiting : List IoReq
  ready : Nat → Option (Nat × Result)

def Mailbox.empty : Mailbox :=
  ⟨[], fun _ => none⟩

/-- Empty a slot. -/
def Mailbox.take (mailbox : Mailbox) (signo : Nat) : Mailbox :=
  { mailbox with ready := update mailbox.ready signo none }

/-- The first request waiting is finished into its slot, which has to be empty. -/
def Mailbox.finish (mailbox : Mailbox) (req : IoReq) (result : Result) : Option Mailbox :=
  match mailbox.waiting with
  | [] => none
  | first :: rest =>
    if first = req ∧ mailbox.ready req.signo = none then
      some ⟨rest, update mailbox.ready req.signo (some (req.ticket.serial, result))⟩
    else
      none

/-- The answer to a collection hands over the result: the return value, and
with a value that is not negative the bytes and their number. -/
def Delivers (result : Result) (reply : CommandResult) : Prop :=
  reply.res = teeSuccess ∧ reply.params.p0.a = result.ret ∧
    (isNegative result.ret = false →
      reply.out = result.data ∧ reply.params.p1.size.toNat = result.data.length)

instance (result : Result) (reply : CommandResult) : Decidable (Delivers result reply) :=
  inferInstanceAs (Decidable (_ ∧ _ ∧ (_ → _)))

/-- A collection finds nothing, finds the client's buffer too short, or takes
the result. -/
def Mailbox.collect (mailbox : Mailbox) (signo : Nat) (params : Params) (reply : CommandResult) :
    Option Mailbox :=
  match mailbox.ready signo with
  | none => if reply = .error teeErrorNoData params then some mailbox else none
  | some (_, result) =>
    if isNegative result.ret = false ∧ params.p1.size.toNat < result.data.length then
      if reply.res = teeErrorShortBuffer ∧ reply.params.p1.size.toNat = result.data.length then
        some mailbox
      else
        none
    else if Delivers result reply then
      some (mailbox.take signo)
    else
      none

/-- The mailboxes after an event, if they allow it.  A collection with other
parameter types or of a slot that does not exist has to be refused. -/
def deliver (mail : Nat → Mailbox) : Event → Option (Nat → Mailbox)
  | .enqueued periphNo req =>
    some (update mail periphNo
      { mail periphNo with waiting := (mail periphNo).waiting ++ [req] })
  | .finished periphNo req result =>
    ((mail periphNo).finish req result).map (update mail periphNo)
  | .collected paramTypes params reply =>
    if paramTypes = getDataTypes ∧ InRange (slotOf params) then
      ((mail (slotOf params).1).collect (slotOf params).2 params reply).map
        (update mail (slotOf params).1)
    else if reply.res ≠ teeSuccess then
      some mail
    else
      none

/-- The mailboxes after a sequence of events, if they allow it. -/
def deliverAll (mail : Nat → Mailbox) : List Event → Option (Nat → Mailbox)
  | [] => some mail
  | event :: rest => (deliver mail event).bind fun mail => deliverAll mail rest

theorem deliverAll_append (mail : Nat → Mailbox) (first second : List Event) :
    deliverAll mail (first ++ second) =
      (deliverAll mail first).bind fun mail => deliverAll mail second := by
  induction first generalizing mail with
  | nil => rfl
  | cons event rest ih => simp only [List.cons_append, deliverAll, Option.bind_assoc, ih]

theorem deliverAll_singleton (mail : Nat → Mailbox) (event : Event) :
    deliverAll mail [event] = deliver mail event := by
  simp [deliverAll]

/-- The requests the events enqueue on a peripheral, in order. -/
def enqueuedAt (p : Nat) (events : List Event) : List IoReq :=
  events.filterMap fun
    | .enqueued periphNo req => if periphNo = p then some req else none
    | _ => none

/-- The requests of a peripheral the events finish, in order. -/
def finishedAt (p : Nat) (events : List Event) : List IoReq :=
  events.filterMap fun
    | .finished periphNo req _ => if periphNo = p then some req else none
    | _ => none

theorem waiting_of_collect {mailbox mailbox' : Mailbox} {signo : Nat} {params : Params}
    {reply : CommandResult} (collected : mailbox.collect signo params reply = some mailbox') :
    mailbox'.waiting = mailbox.waiting := by
  unfold Mailbox.collect at collected
  split at collected
  · obtain ⟨-, ⟨⟩⟩ := Option.ite_none_right_eq_some.mp collected
    rfl
  · split at collected
    · obtain ⟨-, ⟨⟩⟩ := Option.ite_none_right_eq_some.mp collected
      rfl
    · obtain ⟨-, ⟨⟩⟩ := Option.ite_none_right_eq_some.mp collected
      rfl

/-- One event adds what it enqueues at the end and takes what it finishes from
the front. -/
theorem waiting_of_deliver {mail mail' : Nat → Mailbox} {event : Event}
    (delivered : deliver mail event = some mail') (p : Nat) :
    (mail p).waiting ++ enqueuedAt p [event] = finishedAt p [event] ++ (mail' p).waiting := by
  cases event with
  | enqueued periphNo req =>
    obtain rfl := Option.some.inj delivered
    by_cases here : periphNo = p
    · subst here
      simp [enqueuedAt, finishedAt]
    · have other : p ≠ periphNo := fun same => here same.symm
      simp [enqueuedAt, finishedAt, here, other]
  | finished periphNo req result =>
    obtain ⟨mailbox, finished, rfl⟩ := Option.map_eq_some_iff.mp delivered
    by_cases here : periphNo = p
    · subst here
      unfold Mailbox.finish at finished
      split at finished
      · cases finished
      · rename_i first rest waiting
        obtain ⟨⟨rfl, -⟩, ⟨⟩⟩ := Option.ite_none_right_eq_some.mp finished
        simp [enqueuedAt, finishedAt, waiting]
    · have other : p ≠ periphNo := fun same => here same.symm
      simp [enqueuedAt, finishedAt, here, other]
  | collected paramTypes params reply =>
    suffices same : (mail' p).waiting = (mail p).waiting by simp [enqueuedAt, finishedAt, same]
    dsimp only [deliver] at delivered
    split at delivered
    · obtain ⟨mailbox, collected, rfl⟩ := Option.map_eq_some_iff.mp delivered
      by_cases here : p = (slotOf params).1
      · subst here
        rw [update_self, waiting_of_collect collected]
      · rw [update_of_ne here]
    · obtain ⟨-, ⟨⟩⟩ := Option.ite_none_right_eq_some.mp delivered
      rfl

/-- The mailboxes finish requests in the order in which they were enqueued. -/
theorem waiting_of_deliverAll {mail mail' : Nat → Mailbox} {events : List Event}
    (delivered : deliverAll mail events = some mail') (p : Nat) :
    (mail p).waiting ++ enqueuedAt p events = finishedAt p events ++ (mail' p).waiting := by
  induction events generalizing mail with
  | nil =>
    obtain rfl := Option.some.inj delivered
    simp [enqueuedAt, finishedAt]
  | cons event rest ih =>
    obtain ⟨middle, first, second⟩ := Option.bind_eq_some_iff.mp delivered
    have head := waiting_of_deliver first p
    have tail := ih second
    have split (f : Event → Option IoReq) :
        (event :: rest).filterMap f = [event].filterMap f ++ rest.filterMap f := by
      rw [← List.filterMap_append, List.singleton_append]
    calc (mail p).waiting ++ enqueuedAt p (event :: rest)
        = ((mail p).waiting ++ enqueuedAt p [event]) ++ enqueuedAt p rest := by
          rw [enqueuedAt, split, List.append_assoc]
          rfl
      _ = finishedAt p [event] ++ ((middle p).waiting ++ enqueuedAt p rest) := by
          rw [head, List.append_assoc]
      _ = finishedAt p (event :: rest) ++ (mail' p).waiting := by
          rw [tail, finishedAt, finishedAt, finishedAt, split, List.append_assoc]

/-! ## The mailboxes a state stands for -/

/-- The requests of a peripheral that are enqueued and not finished: the one its
worker handles and those in the queue. -/
def Sys.waiting (s : Sys) (p : Nat) : List IoReq :=
  (match s.loops p with
    | some thread => if thread.served then [] else [thread.req]
    | none => []) ++ (s.pta.reqQueues p).map (·.req)

/-- The results that are ready, with their requests. -/
def Sys.results (s : Sys) (p q : Nat) : Option (Nat × Result) :=
  (s.ready p q).map fun serial => (serial, s.pta.result p q)

def Sys.mail (s : Sys) (p : Nat) : Mailbox :=
  ⟨s.waiting p, s.results p⟩

variable {p q serial : Nat} {req : IoReq} {work : WorkView} {action : Action}

section Step

variable {s s' : Sys} {owner : Ptr → Option Owner}

/-- A ready result stays as it is while no collection has freed it. -/
theorem result_of_heapMove (inv : HeapInv s owner) (move : HeapMove s s' owner)
    (notTaken : ¬s.Taken p q) (notTaken' : ¬s'.Taken p q) (wasReady : s.ready p q = some serial)
    (isReady : s'.ready p q = some serial) : s'.pta.result p q = s.pta.result p q := by
  obtain ⟨actor, owner', step, taken⟩ := move
  have other : ¬actor serial := fun acts => notTaken' (taken p q serial wasReady isReady acts)
  exact step.result_eq inv isReady other notTaken

theorem not_taken_of_gets (gets : ∀ id, s.gets id = none) (p q : Nat) : ¬s.Taken p q := by
  rintro ⟨id, thread, found, -⟩
  rw [gets id] at found
  cases found

/-- The heap moves from `s` to `s'`, and no collection is in progress. -/
structure Moves (s s' : Sys) : Prop where
  heap : ∃ owner, HeapInv s owner ∧ HeapMove s s' owner
  before : ∀ id, s.gets id = none
  after : ∀ id, s'.gets id = none

theorem Moves.results_eq (moves : Moves s s') (same : s'.ready p q = s.ready p q) :
    s'.results p q = s.results p q := by
  obtain ⟨owner, inv, move⟩ := moves.heap
  unfold Sys.results
  rw [same]
  cases isReady : s.ready p q with
  | none => rfl
  | some serial =>
    have kept := result_of_heapMove inv move (not_taken_of_gets moves.before p q)
      (not_taken_of_gets moves.after p q) isReady (same.trans isReady)
    rw [Option.map_some, Option.map_some, kept]

/-- A step that sets one slot of the ready results leaves the others. -/
theorem Moves.results_setSlot {value : Option Nat} (moves : Moves s s')
    (ready : s'.ready = setSlot s.ready p q value) :
    s'.results p = update (s.results p) q (value.map (·, s'.pta.result p q)) ∧
      ∀ p', p' ≠ p → s'.results p' = s.results p' := by
  have elsewhere (p' q' : Nat) (other : ¬(p' = p ∧ q' = q)) : s'.results p' q' = s.results p' q' :=
    moves.results_eq (by rw [ready, setSlot_of_ne _ _ other])
  refine ⟨funext fun q' => ?_, fun p' other => funext fun q' => elsewhere p' q' fun same =>
    other same.1⟩
  by_cases here : q' = q
  · subst here
    rw [update_self, Sys.results, ready, setSlot_self]
  · rw [update_of_ne here]
    exact elsewhere p q' fun same => here same.2

theorem mail_congr (waiting : s'.waiting p = s.waiting p) (results : s'.results p = s.results p) :
    s'.mail p = s.mail p := by
  rw [Sys.mail, Sys.mail, waiting, results]

theorem Moves.mail_eq (moves : Moves s s') (ready : s'.ready = s.ready)
    (waiting : s'.waiting p = s.waiting p) : s'.mail p = s.mail p :=
  mail_congr waiting (funext fun q => moves.results_eq (by rw [ready]))

theorem mail_eq_update {mailbox : Mailbox} (here : s'.mail p = mailbox)
    (elsewhere : ∀ p', p' ≠ p → s'.mail p' = s.mail p') :
    s'.mail = update s.mail p mailbox := by
  funext p'
  by_cases same : p' = p
  · subst same
    rw [update_self, here]
  · rw [update_of_ne same, elsewhere p' same]

theorem waiting_congr (loops : s'.loops p = s.loops p)
    (queue : s'.pta.reqQueues p = s.pta.reqQueues p) : s'.waiting p = s.waiting p := by
  rw [Sys.waiting, Sys.waiting, loops, queue]

/-- What a step logs is what the mailboxes allow. -/
def Delivered (s s' : Sys) : Prop :=
  ∃ events, s'.log = s.log ++ events ∧ deliverAll s.mail events = some s'.mail

theorem Delivered.silent (log : s'.log = s.log) (mail : ∀ p, s'.mail p = s.mail p) :
    Delivered s s' := by
  refine ⟨[], by rw [log, List.append_nil], ?_⟩
  rw [deliverAll, funext mail]

theorem Delivered.single {event : Event} (log : s'.log = s.log ++ [event])
    (delivers : deliver s.mail event = some s'.mail) : Delivered s s' :=
  ⟨[event], log, (deliverAll_singleton _ _).trans delivers⟩

theorem delivered_submitOp {op : HelperOp} {reply : Helper.Reply op} (moves : Moves s s')
    (step : helperStep s.pta op reply s'.pta) (loops : s'.loops = s.loops)
    (ready : s'.ready = s.ready) (log : s'.log = s.log ++ submitEvents op reply) :
    Delivered s s' := by
  by_cases enqueues : ∃ p req, op = .enqueue p req
  · obtain ⟨p, req, rfl⟩ := enqueues
    rcases step with ⟨rfl, same⟩ | ⟨rfl, addr, junk, -, -, same⟩
    · refine .silent (log.trans (List.append_nil _)) fun p' => moves.mail_eq ready ?_
      exact waiting_congr (by rw [loops]) (by rw [same])
    · refine .single log ?_
      rw [deliver, Option.some.injEq]
      refine (mail_eq_update ?_ fun p' other => moves.mail_eq ready ?_).symm
      · have results : s'.results p = s.results p :=
          funext fun q => moves.results_eq (by rw [ready])
        rw [Sys.mail, Sys.mail, results, Sys.waiting, Sys.waiting, loops, same]
        simp [Pta.enqueueNode]
      · exact waiting_congr (by rw [loops]) (by rw [same]; simp [Pta.enqueueNode, other])
  · have quiet : submitEvents op reply = [] := by
      cases op with
      | enqueue p req => exact absurd ⟨p, req, rfl⟩ enqueues
      | _ => rfl
    have queues := reqQueues_of_not_enqueue step fun p req equal => enqueues ⟨p, req, equal⟩
    refine .silent (by rw [log, quiet, List.append_nil]) fun p => moves.mail_eq ready ?_
    exact waiting_congr (by rw [loops]) (by rw [queues])

theorem delivered_dequeue (moves : Moves s s') (idle : s.loops p = none)
    (step : s.pta.dequeue p = some (req, s'.pta)) (loops : s'.loops = update s.loops p
      (some ⟨req, serve req p, false, .start req⟩)) (ready : s'.ready = s.ready)
    (log : s'.log = s.log) : Delivered s s' := by
  unfold Pta.dequeue at step
  cases queue : s.pta.reqQueues p with
  | nil => simp [queue] at step
  | cons node rest =>
    simp only [queue, Option.some.injEq, Prod.mk.injEq] at step
    obtain ⟨rfl, pta⟩ := step
    refine .silent log fun p' => moves.mail_eq ready ?_
    by_cases here : p' = p
    · subst here
      rw [Sys.waiting, Sys.waiting, loops, ← pta, idle, queue]
      simp
    · exact waiting_congr (by rw [loops, update_of_ne here]) (by rw [← pta]; simp [here])

/-- The fields a complete result has set stand for the same result in the
entry. -/
theorem WorkView.Complete.result_eq {entry : SigEntry} (complete : work.Complete)
    (agrees : work.written.Agrees entry) (heap : Heap Ptr Byte) :
    resultOf heap entry.ret entry.len entry.buf = work.result heap := by
  obtain ⟨ret, isRet, negative | ⟨len, buf, isLen, isBuf, -⟩⟩ := complete
  · rw [WorkView.result, agrees.ret ret isRet, isRet, resultOf, resultOf]
    simp [negative]
  · rw [WorkView.result, agrees.ret ret isRet, agrees.len len isLen, agrees.buf buf isBuf,
      isRet, isLen, isBuf]
    rfl

theorem delivered_loopOp {op : HelperOp} {next : Helper.Reply op → Program Helper Unit}
    {reply : Helper.Reply op} (moves : Moves s s') (threads : HeapThreads s) (ok : SlotsOk s)
    (found : s.loops p = some ⟨req, .call op next, false, work⟩)
    (step : helperStep s.pta op reply s'.pta) (loops : s'.loops = update s.loops p
      (some ⟨req, next reply, servedAfter false op reply, work.after op reply⟩))
    (ready : s'.ready = readyAfterLoop s.ready req op)
    (log : s'.log = s.log ++ loopEvents s.pta.heap req work op) : Delivered s s' := by
  obtain ⟨⟨allowed, -⟩, agrees⟩ := threads.loops p _ found rfl
  change workGuard p req.signo work op at allowed
  have queues : s'.pta.reqQueues = s.pta.reqQueues := by
    apply reqQueues_of_not_enqueue step
    rintro p' req' rfl
    exact allowed.elim
  by_cases finishes : ∃ p₀ q₀, op = .setReadySignal p₀ q₀
  · obtain ⟨p₀, q₀, rfl⟩ := finishes
    obtain ⟨⟨rfl, rfl⟩, complete⟩ := allowed
    have pta : s'.pta = s.pta.setReadySignal p₀ req.signo := step
    have isReady : s'.ready = setSlot s.ready p₀ req.signo (some req.ticket.serial) := ready
    obtain ⟨results, elsewhere⟩ := moves.results_setSlot isReady
    have was : s.waiting p₀ = req :: (s.pta.reqQueues p₀).map (·.req) := by
      rw [Sys.waiting, found]
      rfl
    have vacant : s.results p₀ req.signo = none := by
      cases taken : s.ready p₀ req.signo with
      | none => rw [Sys.results, taken, Option.map_none]
      | some serial =>
        have handling : Holds s p₀ req.signo req.ticket.serial .handling :=
          ⟨_, found, rfl, rfl, rfl⟩
        have here : Holds s p₀ req.signo serial .ready := taken
        cases (ok.oneOwner handling here).2
    have result : s'.pta.result p₀ req.signo = work.result s.pta.heap := by
      rw [pta]
      exact complete.result_eq agrees s.pta.heap
    have finished : (s.mail p₀).finish req (work.result s.pta.heap) = some (s'.mail p₀) := by
      have waiting : s'.waiting p₀ = (s.pta.reqQueues p₀).map (·.req) := by
        rw [Sys.waiting, loops, queues]
        simp [servedAfter]
      rw [Mailbox.finish, Sys.mail, was]
      simp only [vacant, and_self, if_true, Sys.mail, waiting, results, Option.map_some, result]
    refine .single log ?_
    rw [deliver, finished, Option.map_some, Option.some.injEq]
    refine (mail_eq_update rfl fun p' other => mail_congr ?_ (elsewhere p' other)).symm
    exact waiting_congr (by rw [loops, update_of_ne other]) (by rw [queues])
  · have quiet : loopEvents s.pta.heap req work op = [] ∧ readyAfterLoop s.ready req op = s.ready ∧
        servedAfter false op reply = false := by
      cases op with
      | setReadySignal p₀ q₀ => exact absurd ⟨p₀, q₀, rfl⟩ finishes
      | _ => exact ⟨rfl, rfl, rfl⟩
    obtain ⟨noEvents, sameReady, notServed⟩ := quiet
    refine .silent (by rw [log, noEvents, List.append_nil]) fun p' =>
      moves.mail_eq (ready.trans sameReady) ?_
    by_cases here : p' = p
    · subst here
      rw [Sys.waiting, Sys.waiting, loops, found, queues, notServed]
      simp
    · exact waiting_congr (by rw [loops, update_of_ne here]) (by rw [queues])

theorem delivered_loopDone {served : Bool} (moves : Moves s s') (threads : Threads s)
    (found : s.loops p = some ⟨req, .pure (), served, work⟩) (pta : s'.pta = s.pta)
    (loops : s'.loops = update s.loops p none) (ready : s'.ready = s.ready)
    (log : s'.log = s.log) : Delivered s s' := by
  have isServed : served = true := threads.loops p _ found
  refine .silent log fun p' => moves.mail_eq ready ?_
  by_cases here : p' = p
  · subst here
    rw [Sys.waiting, Sys.waiting, loops, found, pta, isServed]
    simp
  · exact waiting_congr (by rw [loops, update_of_ne here]) (by rw [pta])

/-- A ready result with a value that is not negative and a length is that of a
live block. -/
theorem contents_of_ready (inv : HeapInv s owner) (notTaken : ¬s.Taken p q)
    (isReady : s.ready p q = some serial) (notNegative : isNegative (s.pta.entry p q).ret = false)
    (notEmpty : (s.pta.entry p q).len ≠ 0) :
    s.pta.heap.contents? (s.pta.entry p q).buf (s.pta.entry p q).len.toNat =
      some (s.pta.result p q).data := by
  have owned := inv.refers _ _ (.result isReady notTaken notNegative notEmpty)
  obtain ⟨block, found⟩ := Option.ne_none_iff_exists'.mp (inv.owned.live _ _ owned)
  simp [Pta.result, resultOf, notNegative, Heap.contents?, found]

theorem length_of_ready (inv : HeapInv s owner) (notTaken : ¬s.Taken p q)
    (isReady : s.ready p q = some serial) (notNegative : isNegative (s.pta.entry p q).ret = false) :
    (s.pta.result p q).data.length = (s.pta.entry p q).len.toNat := by
  by_cases empty : (s.pta.entry p q).len = 0
  · simp only [Pta.result, resultOf, notNegative, empty, Heap.contents?]
    cases s.pta.heap.blocks (s.pta.entry p q).buf <;> rfl
  · have contents := contents_of_ready inv notTaken isReady notNegative empty
    unfold Heap.contents? at contents
    obtain ⟨block, -, isData⟩ := Option.map_eq_some_iff.mp contents
    rw [← isData, List.length_map, List.length_range]

section GetData

variable {paramTypes : BitVec 32} {params : Params} {reply : CommandResult}

/-- What a collection of a ready slot answers is what the mailbox allows: it
keeps the slot, or takes the result and releases the slot. -/
theorem collect_of_collected {after : Pta} (inv : HeapInv s owner) (notTaken : ¬s.Taken p q)
    (isReady : s.ready p q = some serial) (collected : Collected s.pta params p q reply after) :
    ((s.mail p).collect q params reply = some (s.mail p) ∧ after = s.pta) ∨
      ((s.mail p).collect q params reply = some ((s.mail p).take q) ∧
        ∃ before, SameSlots s.pta before ∧ after = before.releaseSigno p q) := by
  have result : (s.mail p).ready q = some (serial, s.pta.result p q) := by
    change (s.ready p q).map _ = _
    rw [isReady, Option.map_some]
  have taken (released : ¬(isNegative (s.pta.result p q).ret = false ∧
        params.p1.size.toNat < (s.pta.result p q).data.length))
      (delivers : Delivers (s.pta.result p q) reply) :
      (s.mail p).collect q params reply = some ((s.mail p).take q) := by
    unfold Mailbox.collect
    rw [result]
    simp only [if_neg released, if_pos delivers]
  have ret : (s.pta.result p q).ret = (s.pta.entry p q).ret := rfl
  have width : ((s.pta.entry p q).len.setWidth 64).toNat = (s.pta.entry p q).len.toNat :=
    BitVec.toNat_setWidth_of_le (by decide)
  cases collected with
  | failed negative =>
    refine .inr ⟨taken ?_ ⟨rfl, TeeParam.setA_a _ _, ?_⟩, s.pta, .refl _, rfl⟩
    · rw [ret, negative]
      simp
    · rw [ret, negative]
      simp
  | short notNegative tooLong =>
    have length := length_of_ready inv notTaken isReady notNegative
    refine .inl ⟨?_, rfl⟩
    unfold Mailbox.collect
    rw [result]
    simp only [ret, notNegative, length, width, true_and, if_pos tooLong, if_true]
  | missing notNegative _ notEmpty isNull =>
    have owned := inv.refers _ _ (.result isReady notTaken notNegative notEmpty)
    rw [isNull, inv.owned.null] at owned
    cases owned
  | empty notNegative isEmpty =>
    have length := length_of_ready inv notTaken isReady notNegative
    rw [isEmpty] at length
    refine .inr ⟨taken ?_ ⟨rfl, TeeParam.setA_a _ _, fun _ => ⟨?_, ?_⟩⟩, s.pta, .refl _, rfl⟩
    · rw [length]
      simp
    · exact (List.length_eq_zero_iff.mp length).symm
    · rw [length]
      rfl
  | data notNegative fits notEmpty _ isOut =>
    have length := length_of_ready inv notTaken isReady notNegative
    have contents := contents_of_ready inv notTaken isReady notNegative notEmpty
    refine .inr ⟨taken ?_ ⟨rfl, ?_, fun _ => ⟨isOut _ contents, ?_⟩⟩, ?_⟩
    · rw [length]
      omega
    · rw [TeeParam.setB_a, TeeParam.setA_a, ret]
    · rw [length, width]
    · refine ⟨_, ?_, rfl⟩
      exact ⟨rfl, rfl, rfl, rfl⟩

theorem delivered_getData (moves : Moves s s') (ok : SlotsOk s) (inRange : InRange (slotOf params))
    (got : GotData s.pta paramTypes params reply s'.pta) (loops : s'.loops = s.loops)
    (ready : s'.ready = readyAfterGetData s.ready s'.pta params)
    (log : s'.log = s.log ++ [.collected paramTypes params reply]) : Delivered s s' := by
  obtain ⟨-, -, board, slots⟩ := ok
  obtain ⟨owner, inv, -⟩ := moves.heap
  have kept (same : s'.pta = s.pta) (p : Nat) : s'.mail p = s.mail p := by
    refine moves.mail_eq ?_ (waiting_congr (by rw [loops]) (by rw [same]))
    rw [ready, readyAfterGetData_of_kept slots inRange (by rw [same])]
  refine .single log ?_
  dsimp only [deliver]
  rcases got with ⟨refused, rfl, same⟩ | ⟨⟨types, -⟩, got⟩
  · have notAccepted : ¬(paramTypes = getDataTypes ∧ InRange (slotOf params)) := by
      rintro ⟨types, -⟩
      rcases refused with badTypes | badSlot
      · exact badTypes types
      · exact Nat.not_lt_of_lt inRange.2 badSlot
    have failed : (CommandResult.error teeErrorBadParameters params).res ≠ teeSuccess :=
      show teeErrorBadParameters ≠ teeSuccess by decide
    rw [if_neg notAccepted, if_pos failed, ← funext (kept same)]
  · rw [if_pos ⟨types, inRange⟩]
    have isReady := slots.isReadySignal_iff (p := (slotOf params).1) inRange.2
    rcases got with ⟨notReady, rfl, same⟩ | ⟨marked, collected⟩
    · have vacant : (s.mail (slotOf params).1).ready (slotOf params).2 = none := by
        cases found : s.ready (slotOf params).1 (slotOf params).2 with
        | none =>
          change (s.ready (slotOf params).1 (slotOf params).2).map _ = none
          rw [found, Option.map_none]
        | some serial =>
          have marked := isReady.mpr ⟨serial, found⟩
          change s.pta.isReadySignal (slotOf params).1 (slotOf params).2 = false at notReady
          change s.pta.isReadySignal (slotOf params).1 (slotOf params).2 = true at marked
          rw [notReady] at marked
          cases marked
      have unchanged : (s.mail (slotOf params).1).collect (slotOf params).2 params
          (.error teeErrorNoData params) = some (s.mail (slotOf params).1) := by
        unfold Mailbox.collect
        rw [vacant]
        exact if_pos rfl
      rw [unchanged, Option.map_some, update_eq_self, ← funext (kept same)]
    · obtain ⟨serial, found⟩ := isReady.mp marked
      rcases collect_of_collected inv (not_taken_of_gets moves.before _ _) found collected with
        ⟨unchanged, same⟩ | ⟨taken, before, first, released⟩
      · change (s.mail (slotOf params).1).collect (slotOf params).2 params reply = _ at unchanged
        rw [unchanged, Option.map_some, update_eq_self, ← funext (kept same)]
      · change (s.mail (slotOf params).1).collect (slotOf params).2 params reply = _ at taken
        rw [taken, Option.map_some, Option.some.injEq]
        change s'.pta = before.releaseSigno (slotOf params).1 (slotOf params).2 at released
        have isReady' : s'.ready = setSlot s.ready (slotOf params).1 (slotOf params).2 none := by
          rw [ready, released, readyAfterGetData_of_released inRange (.refl _)]
        have queues : s'.pta.reqQueues = s.pta.reqQueues := by
          rw [released]
          exact first.reqQueues
        have waiting (p : Nat) : s'.waiting p = s.waiting p :=
          waiting_congr (by rw [loops]) (by rw [queues])
        obtain ⟨results, elsewhere⟩ := moves.results_setSlot isReady'
        refine (mail_eq_update ?_ fun p other => mail_congr (waiting p) (elsewhere p other)).symm
        rw [Sys.mail, Mailbox.take, waiting, results]
        rfl

end GetData

end Step

/-! ## Runs -/

section Runs

variable {s s' : Sys}

/-- Every step logs what the mailboxes allow. -/
theorem delivered_of_step (reachable : matchedCommandSystem.Reachable s)
    (step : matchedCommandSystem.step s action s') : Delivered s s' := by
  have ok := heapOk_of_matched reachable
  have moves : Moves s s' := by
    obtain ⟨owner, inv⟩ := ok.owned
    have moved := heap_step ok.slots ok.threads inv (orderly_of_matched reachable step.1)
      (step_of_reliable step.2)
    exact ⟨⟨owner, inv, moved.2⟩, gets_of_wholeCommands (wholeCommands_of_matched reachable),
      gets_of_wholeCommands (wholeCommands_of_matched (reachable.next step))⟩
  obtain ⟨⟨whole, -⟩, taken⟩ := step
  cases step_of_reliable taken with
  | submit submission => exact .silent rfl fun p => moves.mail_eq rfl (waiting_congr rfl rfl)
  | submitOp serial op next phase args reply after found step =>
    exact delivered_submitOp moves step rfl rfl rfl
  | dequeue p req after idle step => exact delivered_dequeue moves idle step rfl rfl rfl
  | loopOp p req op next served work reply after found step =>
    have allowed : loopGuard p req.signo served op := (ok.slots.threads.loops p _ found).1
    obtain ⟨rfl, -⟩ := loopGuard_cases allowed
    exact delivered_loopOp moves ok.threads ok.slots found step rfl rfl rfl
  | loopDone p req served work found =>
    exact delivered_loopDone moves ok.slots.threads found rfl rfl rfl rfl
  | poll paramTypes params reply after run =>
    have store := sameStore_of_polls (poll_uses _ _) run
    exact .silent rfl fun p => moves.mail_eq rfl (waiting_congr rfl (by rw [store.reqQueues]))
  | pollSubsignal paramTypes params reply after run =>
    have store := sameStore_of_polls (pollSubsignal_uses _ _) run
    exact .silent rfl fun p => moves.mail_eq rfl (waiting_congr rfl (by rw [store.reqQueues]))
  | getData paramTypes params reply after run =>
    exact delivered_getData moves ok.slots whole (getData_exec run) rfl rfl rfl
  | getStart | getOp => exact whole.elim

/-- Every run is one the mailboxes allow, and they end as the state says. -/
theorem mail_of_reachable (reachable : matchedCommandSystem.Reachable s) :
    deliverAll (fun _ => .empty) s.log = some s.mail := by
  refine reachable.invariant (P := fun state =>
    deliverAll (fun _ => .empty) state.log = some state.mail) ?_ ?_
  · rintro state rfl
    rfl
  · intro state action after before delivered step
    obtain ⟨events, log, next⟩ := delivered_of_step before step
    rw [log, deliverAll_append, delivered, Option.bind_some, next]

/-- The io_helper refines the mailboxes: they allow every log and end as the
state says, so every request is finished at most once, in the order of the
queue, and every collection answers with the result that waits in its slot. -/
theorem mailboxes_allow_log (reachable : matchedCommandSystem.Reachable s) :
    deliverAll (fun _ => .empty) s.log = some s.mail ∧
      ∀ p, enqueuedAt p s.log = finishedAt p s.log ++ s.waiting p := by
  have delivered := mail_of_reachable reachable
  exact ⟨delivered, waiting_of_deliverAll delivered⟩

end Runs

/-- The steps up to the result of the request without a handler. -/
def Action.OfUnsupported : Action → Prop
  | .submit submission => submission = unsupportedSubmission
  | .submitOp _ | .dequeue _ | .loopOp _ => True
  | _ => False

/-- The io_helper once that result is ready in slot 0 of peripheral 1. -/
def unsupportedPta : Pta :=
  let queued := (Pta.zero.allocateSigno 1).2.enqueueNode 1 1 (fun _ => 0) unsupportedReq
  let taken := ((queued.dequeue 1).map Prod.snd).getD Pta.zero
  (taken.setEntry 1 0 { taken.entry 1 0 with ret := teeErrorNotSupported }).setReadySignal 1 0

/-- The state the steps lead to. -/
def unsupportedState : Sys where
  pta := unsupportedPta
  next := 1
  submits := update (fun _ => none) 0
    (some ⟨.pure ⟨teeSuccess, ⟨.value 0 5, .value 0 0, .value 0 0, .value 0 0⟩, []⟩, .enqueued, []⟩)
  loops := update (fun _ => none) 1
    (some ⟨unsupportedReq, .pure (), true, ⟨[], ⟨some teeErrorNotSupported, none, none⟩⟩⟩)
  gets _ := none
  ready := setSlot (fun _ _ => none) 1 0 (some 0)
  log := [.enqueued 1 unsupportedReq, .finished 1 unsupportedReq ⟨teeErrorNotSupported, []⟩]

theorem unsupported_ready :
    ((ioHelper reliable).restrict fun _ action => action.OfUnsupported).Reachable
      unsupportedState := by
  have booted : ((ioHelper reliable).restrict fun _ action => action.OfUnsupported).Reachable
      Sys.init := .start rfl
  have submitted := booted.next_restrict (Step.submit _ unsupportedSubmission) rfl
  have allocated := submitted.next_restrict
    (Step.submitOp _ 0 (.allocateSigno 1) _ .fresh [] (some 0) _ rfl ⟨rfl, trivial⟩) trivial
  have enqueued := allocated.next_restrict
    (Step.submitOp _ 0 (.enqueue 1 unsupportedReq) _ (.held 1 0) [] teeSuccess _ rfl
      ⟨.inr ⟨rfl, 1, fun _ => 0, by decide, rfl, rfl⟩, rfl⟩) trivial
  have dequeued := enqueued.next_restrict (Step.dequeue _ 1 unsupportedReq _ rfl rfl) trivial
  have handled := dequeued.next_restrict
    (Step.loopOp _ 1 unsupportedReq (.setRet 1 0 teeErrorNotSupported) _ false
      (.start unsupportedReq) () _ rfl ⟨rfl, trivial⟩) trivial
  have finished := handled.next_restrict
    (Step.loopOp _ 1 unsupportedReq (.setReadySignal 1 0) _ false _ () _ rfl ⟨rfl, trivial⟩) trivial
  -- the threads of the run were updated more than once
  have replace : ∀ submits loops, submits = unsupportedState.submits →
      loops = unsupportedState.loops →
      ((ioHelper reliable).restrict fun _ action => action.OfUnsupported).Reachable
        { unsupportedState with submits := submits, loops := loops } →
      ((ioHelper reliable).restrict fun _ action => action.OfUnsupported).Reachable
        unsupportedState := by
    rintro _ _ rfl rfl reachable
    exact reachable
  refine replace _ _ ?_ ?_ finished
  · simp only [Sys.init, update_idem]
    rfl
  · simp only [update_idem]
    rfl

/-- These steps match their handlers. -/
theorem Action.OfUnsupported.matched (plain : action.OfUnsupported) :
    action.Matched := by
  cases action with
  | submit submission =>
    cases plain
    exact unsupportedSubmission_matched
  | submitOp | dequeue | loopOp => trivial
  | poll | pollSubsignal | getData | getStart | getOp => exact plain.elim

theorem Action.OfUnsupported.wholeCommands (plain : action.OfUnsupported) (s : Sys) :
    WholeCommands s action := by
  cases action with
  | submit | submitOp | dequeue | loopOp => trivial
  | poll | pollSubsignal | getData | getStart | getOp => exact plain.elim

/-- A request of a type without a handler is enqueued, finished and collected. -/
theorem mailboxes_allow_unsupported :
    ∃ s, matchedCommandSystem.Reachable s ∧ s.log.length = 3 ∧
      deliverAll (fun _ => .empty) s.log = some s.mail ∧
      ∀ p, enqueuedAt p s.log = finishedAt p s.log ++ s.waiting p := by
  have finished : matchedCommandSystem.Reachable unsupportedState := by
    refine unsupported_ready.mono ?_ ?_
    · exact fun _ initial => initial
    · exact fun s _ _ step => ⟨⟨step.1.wholeCommands s, step.1.matched⟩, step.2⟩
  have collected := finished.next_restrict
    (Step.getData _ getDataTypes (getDataParams 1 0 0) _ _
      ⟨true, _, ⟨⟨rfl, rfl⟩, trivial⟩, teeErrorNotSupported, _, ⟨⟨rfl, rfl⟩, trivial⟩,
        teeErrorNotSupported, _, ⟨⟨rfl, rfl⟩, trivial⟩, (), _, ⟨rfl, trivial⟩, rfl, rfl⟩)
    ⟨show InRange (slotOf (getDataParams 1 0 0)) by decide, trivial⟩
  exact ⟨_, collected, rfl, mailboxes_allow_log collected⟩

/-- A GET_DATA of slot 64 is accepted: it tests and releases slot 0 and answers
with the entry behind the row of the peripheral, so the result that was ready in
slot 0 is lost. -/
theorem getData_beyond_slots :
    ∃ s, ((ioHelper reliable).restrict fun _ action => action.Matched).Reachable s ∧
      deliverAll (fun _ => .empty) s.log = none := by
  have finished : ((ioHelper reliable).restrict fun _ action => action.Matched).Reachable
      unsupportedState := by
    refine unsupported_ready.mono ?_ ?_
    · exact fun _ initial => initial
    · exact fun _ _ _ step => ⟨step.1.matched, step.2⟩
  have collected := finished.next_restrict
    (Step.getData _ getDataTypes (getDataParams 1 64 0) _ _
      ⟨true, _, ⟨⟨rfl, rfl⟩, trivial⟩, 0, _, ⟨⟨rfl, rfl⟩, trivial⟩, 0, _, ⟨⟨rfl, rfl⟩, trivial⟩,
        0, _, ⟨⟨rfl, rfl⟩, trivial⟩, 0, _, ⟨⟨rfl, rfl⟩, trivial⟩, 0, _, ⟨⟨rfl, rfl⟩, trivial⟩,
        (), _, ⟨rfl, trivial⟩, rfl, rfl⟩) trivial
  exact ⟨_, collected, rfl⟩

/-- A READ_REQ_WITH_BUFFER for a secure object with the empty name. -/
def readObjectSubmission : Submission where
  cmd := .readReqWithBuffer
  paramTypes := bufferReqTypes
  params := ⟨.value 31 10, ⟨null, 0⟩, .value 0 0, .value 0 0⟩
  uninit := null

def readObjectReq : IoReq where
  type := .readSecureObject
  signo := 0
  p0 := ⟨1, 0⟩
  p1 := .value 0 0
  p2 := .value 0 0
  ticket := ⟨0, [1]⟩

/-- A WRITE_REQ of no bytes frees the address on its stack.  Here that is the
buffer of a result that is ready, and its collection answers with other
bytes. -/
theorem emptyWrite_frees_result :
    ∃ s, wholeCommandSystem.Reachable s ∧ deliverAll (fun _ => .empty) s.log = none := by
  have booted : wholeCommandSystem.Reachable Sys.init := .start rfl
  have submitted := booted.next_restrict (Step.submit _ readObjectSubmission) trivial
  have copied := submitted.next_restrict
    (Step.submitOp _ 0 (.malloc 0) _ .fresh [] 1 _ rfl
      ⟨.inr ⟨by decide, rfl, fun _ => 0, rfl⟩, show (1 : Ptr) ≠ null by decide⟩) trivial
  have allocated := copied.next_restrict
    (Step.submitOp _ 0 (.allocateSigno 31) _ .fresh [1] (some 0) _ rfl ⟨rfl, trivial⟩) trivial
  have enqueued := allocated.next_restrict
    (Step.submitOp _ 0 (.enqueue 31 readObjectReq) _ (.held 31 0) [1] teeSuccess _ rfl
      ⟨.inr ⟨rfl, 2, fun _ => 0, by decide, rfl, rfl⟩, rfl⟩) trivial
  have dequeued := enqueued.next_restrict (Step.dequeue _ 31 readObjectReq _ rfl rfl) trivial
  have opened := dequeued.next_restrict
    (Step.loopOp _ 31 readObjectReq (.storage (.objOpen [])) _ false _ ⟨teeSuccess, 0, []⟩ _ rfl
      ⟨⟨⟨.inl rfl, rfl⟩, rfl⟩, trivial⟩) trivial
  have measured := opened.next_restrict
    (Step.loopOp _ 31 readObjectReq (.storage (.objGetInfo 0)) _ false _ ⟨teeSuccess, 1, []⟩ _ rfl
      ⟨⟨⟨.inl rfl, rfl⟩, rfl⟩, trivial⟩) trivial
  have buffered := measured.next_restrict
    (Step.loopOp _ 31 readObjectReq (.malloc 1) _ false _ 3 _ rfl
      ⟨.inr ⟨by decide, rfl, fun _ => 0, rfl⟩, show (3 : Ptr) ≠ null by decide⟩) trivial
  have read := buffered.next_restrict
    (Step.loopOp _ 31 readObjectReq (.storage (.objRead 0 1)) _ false _ ⟨teeSuccess, 1, [7]⟩ _ rfl
      ⟨⟨⟨.inl rfl, by decide, fun _ => rfl⟩, rfl⟩, trivial⟩) trivial
  have stored := read.next_restrict
    (Step.loopOp _ 31 readObjectReq (.storeByte 3 0 7) _ false _ () _ rfl ⟨rfl, trivial⟩) trivial
  have coded := stored.next_restrict
    (Step.loopOp _ 31 readObjectReq (.setRet 31 0 1) _ false _ () _ rfl ⟨rfl, trivial⟩) trivial
  have sized := coded.next_restrict
    (Step.loopOp _ 31 readObjectReq (.setLen 31 0 1) _ false _ () _ rfl ⟨rfl, trivial⟩) trivial
  have published := sized.next_restrict
    (Step.loopOp _ 31 readObjectReq (.setBuf 31 0 3) _ false _ () _ rfl ⟨rfl, trivial⟩) trivial
  have freed := published.next_restrict
    (Step.loopOp _ 31 readObjectReq (.free 1) _ false _ () _ rfl ⟨rfl, trivial⟩) trivial
  have finished := freed.next_restrict
    (Step.loopOp _ 31 readObjectReq (.setReadySignal 31 0) _ false _ () _ rfl ⟨rfl, trivial⟩)
    trivial
  have submitted := finished.next_restrict (Step.submit _ emptyWriteSubmission) trivial
  have allocated := submitted.next_restrict
    (Step.submitOp _ 1 (.allocateSigno 28) _ .fresh [] (some 0) _ rfl ⟨rfl, trivial⟩) trivial
  have enqueued := allocated.next_restrict
    (Step.submitOp _ 1 (.enqueue 28 emptyWriteReq) _ (.held 28 0) [] teeSuccess _ rfl
      ⟨.inr ⟨rfl, 2, fun _ => 0, by decide, rfl, rfl⟩, rfl⟩) trivial
  have dequeued := enqueued.next_restrict (Step.dequeue _ 28 emptyWriteReq _ rfl rfl) trivial
  have called := dequeued.next_restrict
    (Step.loopOp _ 28 emptyWriteReq (.driver (.at24cxxWrite ⟨0, 0⟩ 0 (some []) 0)) _ false _
      ⟨teeErrorBadParameters, []⟩ _ rfl
      ⟨⟨⟨teeSuccess, (), rfl, teeErrorBadParameters, (), rfl, teeSuccess, (), rfl, rfl, rfl⟩,
        rfl⟩, trivial⟩) trivial
  have coded := called.next_restrict
    (Step.loopOp _ 28 emptyWriteReq (.setRet 28 0 teeErrorBadParameters) _ false _ () _ rfl
      ⟨rfl, trivial⟩) trivial
  have sized := coded.next_restrict
    (Step.loopOp _ 28 emptyWriteReq (.setLen 28 0 0) _ false _ () _ rfl ⟨rfl, trivial⟩) trivial
  have published := sized.next_restrict
    (Step.loopOp _ 28 emptyWriteReq (.setBuf 28 0 null) _ false _ () _ rfl ⟨rfl, trivial⟩) trivial
  have freed := published.next_restrict
    (Step.loopOp _ 28 emptyWriteReq (.free 3) _ false _ () _ rfl ⟨rfl, trivial⟩) trivial
  have collected := freed.next_restrict
    (Step.getData _ getDataTypes (getDataParams 31 0 1) _ _
      ⟨true, _, ⟨⟨rfl, rfl⟩, trivial⟩, 1, _, ⟨⟨rfl, rfl⟩, trivial⟩, 1, _, ⟨⟨rfl, rfl⟩, trivial⟩,
        1, _, ⟨⟨rfl, rfl⟩, trivial⟩, 3, _, ⟨⟨rfl, rfl⟩, trivial⟩, 1, _, ⟨⟨rfl, rfl⟩, trivial⟩,
        3, _, ⟨⟨rfl, rfl⟩, trivial⟩, 1, _, ⟨⟨rfl, rfl⟩, trivial⟩,
        9, _, ⟨⟨rfl, fun _ dead => nomatch dead⟩, trivial⟩, 3, _, ⟨⟨rfl, rfl⟩, trivial⟩,
        (), _, ⟨rfl, trivial⟩, 1, _, ⟨⟨rfl, rfl⟩, trivial⟩, 0, _, ⟨⟨rfl, rfl⟩, trivial⟩,
        1, _, ⟨⟨rfl, rfl⟩, trivial⟩, (), _, ⟨rfl, trivial⟩, (), _, ⟨rfl, trivial⟩,
        (), _, ⟨rfl, trivial⟩, (), _, ⟨rfl, trivial⟩, rfl, rfl⟩)
    (show InRange (slotOf (getDataParams 31 0 1)) by decide)
  exact ⟨_, collected, rfl⟩

/-- Each of the two conditions is needed: the mailboxes reject a run with matched
submissions and a collection of slot 64, and a run of whole commands on existing
slots with a write of no bytes. -/
theorem mailboxes_reject_log :
    (∃ s, ((ioHelper reliable).restrict fun _ action => action.Matched).Reachable s ∧
      deliverAll (fun _ => .empty) s.log = none) ∧
    ∃ s, wholeCommandSystem.Reachable s ∧ deliverAll (fun _ => .empty) s.log = none :=
  ⟨getData_beyond_slots, emptyWrite_frees_result⟩

end TrustWasm.IoHelper
