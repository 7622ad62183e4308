import TrustWasm.Drivers.Success

/-!
# The block read of the positioning driver

`tel0157_get_all_gnss_internal` reads a buffer in blocks of 32 bytes, the last one shorter, and
replaces the NULs of each block before it reads the next.  The runs are recorded with every
call of a bus function, so that the blocks are the reads the driver really asked for.
-/

namespace TrustWasm.Drivers

open TrustWasm.Lib TrustWasm.Tee Function

/-- A call of a bus function with its answer. -/
abbrev BusCall := (op : BusOp) × Bus.Reply op

/-- The driver runs with a record of the bus functions it calls. -/
def busRecord : Semantics Bus (Unit × List BusCall) :=
  Program.recorded busSemantics fun op reply => [⟨op, reply⟩]

/-- The length a read asks for and what it delivered. -/
def BusCall.block : BusCall → Option (Nat × Transfer)
  | ⟨.i2cReadBytes _ _ _ len _, (transfer : Transfer)⟩ => some (len.toNat, transfer)
  | _ => none

/-- The blocks a record asks for, in order. -/
def blocks (record : List BusCall) : List (Nat × Transfer) :=
  record.filterMap BusCall.block

theorem blocks_append (first second : List BusCall) :
    blocks (first ++ second) = blocks first ++ blocks second :=
  List.filterMap_append

variable {transfer : Transfer} {requests : List (Nat × Transfer)}

namespace Tel0157

/-- What the driver leaves in the buffer for a byte of the device. -/
def newline (byte : Byte) : Byte :=
  if byte = 0 then 10 else byte

/-- The replacement of a block writes a newline where the block has a NUL. -/
theorem applyStores_newlinesFrom (memory : Nat → Byte) (start : Nat) (bytes : List Byte)
    (offset : Nat) :
    applyStores memory (newlinesFrom start bytes) offset =
      if start ≤ offset ∧ bytes[offset - start]? = some 0 then 10 else memory offset := by
  induction bytes generalizing memory start with
  | nil => simp [newlinesFrom]
  | cons byte rest ih =>
    have rest_eq : ∀ memory' : Nat → Byte,
        applyStores memory' (newlinesFrom (start + 1) rest) offset =
          if start + 1 ≤ offset ∧ rest[offset - (start + 1)]? = some 0 then 10
          else memory' offset := fun memory' => ih memory' (start + 1)
    rcases Nat.lt_trichotomy offset start with before | rfl | behind
    · rw [if_neg (by omega)]
      unfold newlinesFrom
      split
      · refine (rest_eq _).trans ?_
        rw [if_neg (by omega), update_of_ne (by omega)]
      · rw [rest_eq, if_neg (by omega)]
    · rw [Nat.sub_self, List.getElem?_cons_zero]
      unfold newlinesFrom
      split
      · rename_i isNul
        refine (rest_eq _).trans ?_
        rw [if_neg (by omega), update_self, if_pos ⟨Nat.le_refl _, by rw [isNul]⟩]
      · rename_i kept
        rw [rest_eq, if_neg (by omega), if_neg fun both => kept (Option.some.inj both.2)]
    · rw [show offset - start = offset - (start + 1) + 1 by omega, List.getElem?_cons_succ]
      have later : ∀ P : Prop, start + 1 ≤ offset ∧ P ↔ start ≤ offset ∧ P := by
        intro P
        constructor
        · exact fun both => ⟨by omega, both.2⟩
        · exact fun both => ⟨by omega, both.2⟩
      unfold newlinesFrom
      split
      · refine (rest_eq _).trans ?_
        simp only [later, update_of_ne (show offset ≠ start by omega)]
      · simp only [rest_eq, later]

/-- Storing a block and replacing its NULs leaves the block with the NULs replaced. -/
theorem applyStores_block (memory : Nat → Byte) (start : Nat) (bytes : List Byte) :
    applyStores memory (storesFrom start bytes ++ newlinesFrom start bytes) =
      applyStores memory (storesFrom start (bytes.map newline)) := by
  funext offset
  rw [applyStores_append, applyStores_newlinesFrom, applyStores_storesFrom, applyStores_storesFrom,
    List.getElem?_map]
  by_cases before : offset < start
  · rw [if_neg (by omega), if_pos before, if_pos before]
  · rw [if_neg before, if_neg before]
    cases found : bytes[offset - start]? with
    | none => simp
    | some byte => simp [newline, Nat.le_of_not_lt before]

/-- The stores of blocks delivered from block `i` on. -/
def blockStores (i : Nat) : List (List Byte) → List (Nat × Byte)
  | [] => []
  | bytes :: rest =>
    storesFrom (32 * i) bytes ++ newlinesFrom (32 * i) bytes ++ blockStores (i + 1) rest

/-- Blocks of 32 bytes before the last one fill the memory without a gap. -/
theorem applyStores_blockStores (memory : Nat → Byte) (i : Nat) (delivered : List (List Byte))
    (full : ∀ j bytes, delivered[j]? = some bytes → j + 1 < delivered.length → bytes.length = 32) :
    applyStores memory (blockStores i delivered) =
      applyStores memory (storesFrom (32 * i) (delivered.flatten.map newline)) := by
  induction delivered generalizing memory i with
  | nil => rfl
  | cons bytes rest ih =>
    rw [blockStores, applyStores_append, applyStores_block, List.flatten_cons, List.map_append,
      storesFrom_append, applyStores_append]
    rcases rest with _ | ⟨next, rest⟩
    · rfl
    · have size : bytes.length = 32 := full 0 bytes rfl (by simp)
      rw [ih _ _ fun j found at_j inside => full (j + 1) found at_j (by simpa using inside),
        List.length_map, size]
      rfl

/-- What is known of the blocks from block `i` on: the ones asked for have the sizes of the
loop, a success has read all of them, and a failure ends with the block that failed. -/
structure BlockRun (len i count : Nat) (reply : Reply) (requests : List (Nat × Transfer)) :
    Prop where
  sized : ∀ j request, requests[j]? = some request →
    request.1 = blockSize len ((len + 31) / 32) (i + j) ∧ request.2.Fills request.1
  success : reply.res = teeSuccess → requests.length = count ∧
    (∀ request ∈ requests, request.2.res = teeSuccess) ∧
    reply.out = blockStores i (requests.map fun request => request.2.bytes)
  failure : reply.res ≠ teeSuccess → ∃ k < count, k ≤ requests.length ∧
    requests.length ≤ k + 1 ∧ (∀ request ∈ requests.take k, request.2.res = teeSuccess) ∧
    (∀ request, requests[k]? = some request → request.2.res = reply.res) ∧
    ∀ store ∈ reply.out, store.1 < min (32 * (i + k + 1)) len

variable {dev : I2cDevice} {before after : List BusCall}

/-- A block is asked for unless the command before it fails. -/
theorem exec_getAllDataInternal {len : BitVec 16}
    (run : (getAllDataInternal dev len).Exec busRecord ((), before) transfer ((), after)) :
    transfer.Fills len.toNat ∧ ∃ new, after = before ++ new ∧
      ((transfer.res ≠ teeSuccess ∧ blocks new = []) ∨ blocks new = [(len.toNat, transfer)]) := by
  obtain ⟨res, ⟨_, called⟩, ⟨-, rfl⟩, run⟩ := run
  change (ite (res ≠ teeSuccess) _ _ : Program Bus Transfer).Exec _ _ _ _ at run
  by_cases written : res = teeSuccess
  · rw [if_neg (not_not.mpr written)] at run
    obtain ⟨_, ⟨_, _⟩, ⟨allowed, noted⟩, rfl, same⟩ := run
    cases same
    refine ⟨?_, _, noted.trans (List.append_assoc _ _ _), .inr rfl⟩
    have allowed : BusAllows (.i2cReadBytes dev.i2c dev.busAddr false len i2cCont) transfer :=
      allowed
    simp only [BusAllows] at allowed
    split at allowed
    · rw [allowed]
      exact ⟨Nat.zero_le _, fun code => absurd code (by decide)⟩
    · exact allowed.2
  · rw [if_pos written] at run
    obtain ⟨rfl, same⟩ := run
    cases same
    exact ⟨⟨Nat.zero_le _, fun code => absurd code written⟩, _, rfl, .inl ⟨written, rfl⟩⟩

variable {len i count : Nat} {reply : Reply}

/-- The read that ends with block `i`, which failed. -/
theorem BlockRun.failed (inside : 32 * i < len)
    (fills : transfer.Fills (blockSize len ((len + 31) / 32) i))
    (failed : transfer.res ≠ teeSuccess)
    (asked : requests = [] ∨ requests = [(blockSize len ((len + 31) / 32) i, transfer)]) :
    BlockRun len i (count + 1) ⟨transfer.res, storesFrom (32 * i) transfer.bytes⟩ requests where
  sized := by
    intro j request found
    rcases asked with rfl | rfl
    · cases found
    · cases j with
      | zero =>
        cases found
        exact ⟨rfl, fills⟩
      | succ j => cases found
  success code := absurd code failed
  failure _ := by
    refine ⟨0, Nat.succ_pos _, Nat.zero_le _, ?_, by simp, ?_, ?_⟩
    · rcases asked with rfl | rfl <;> simp
    · intro request found
      rcases asked with rfl | rfl
      · cases found
      · cases found
        rfl
    · intro store member
      have range := mem_storesFrom.mp (List.mem_map_of_mem member)
      have last := blockSize_eq inside
      have few := fills.1
      omega

/-- The read that goes on after block `i`. -/
theorem BlockRun.cons (inside : 32 * i < len)
    (fills : transfer.Fills (blockSize len ((len + 31) / 32) i))
    (succeeded : transfer.res = teeSuccess) (rest : BlockRun len (i + 1) count reply requests) :
    BlockRun len i (count + 1) ⟨reply.res, storesFrom (32 * i) transfer.bytes ++
        newlinesFrom (32 * i) transfer.bytes ++ reply.out⟩
      ((blockSize len ((len + 31) / 32) i, transfer) :: requests) where
  sized := by
    intro j request found
    cases j with
    | zero =>
      cases found
      exact ⟨rfl, fills⟩
    | succ j =>
      have sized := rest.sized j request found
      rwa [Nat.add_right_comm] at sized
  success code := by
    obtain ⟨length_eq, all, out_eq⟩ := rest.success code
    refine ⟨congrArg Nat.succ length_eq, ?_, ?_⟩
    · intro request member
      rcases List.mem_cons.mp member with rfl | member
      · exact succeeded
      · exact all request member
    · rw [List.map_cons, blockStores, out_eq]
  failure code := by
    obtain ⟨k, below, reached, few, all, last, stores⟩ := rest.failure code
    refine ⟨k + 1, Nat.succ_lt_succ below, Nat.succ_le_succ reached, Nat.succ_le_succ few, ?_, last,
      ?_⟩
    · intro request member
      rw [List.take_succ_cons] at member
      rcases List.mem_cons.mp member with rfl | member
      · exact succeeded
      · exact all request member
    · intro store member
      rw [List.mem_append, List.mem_append] at member
      have size := blockSize_eq inside
      have few := fills.1
      rcases member with (member | member) | member
      · have range := mem_storesFrom.mp (List.mem_map_of_mem member)
        omega
      · have range := mem_newlinesFrom (List.mem_map_of_mem member)
        omega
      · have bound := stores store member
        omega

/-- The block loop from block `i` on. -/
theorem exec_getAllGnssFrom (total : i + count = (len + 31) / 32)
    (run : (getAllGnssFrom dev len ((len + 31) / 32) count i).Exec busRecord ((), before) reply
      ((), after)) :
    ∃ new, after = before ++ new ∧ BlockRun len i count reply (blocks new) := by
  induction count generalizing i before reply with
  | zero =>
    obtain ⟨rfl, same⟩ := run
    cases same
    refine ⟨[], (List.append_nil _).symm, ⟨?_, ?_, ?_⟩⟩
    · intro j request found
      cases found
    · exact fun _ => ⟨rfl, by simp [blocks], rfl⟩
    · exact fun failed => absurd rfl failed
  | succ count ih =>
    have inside : 32 * i < len := by omega
    have width : (BitVec.ofNat 16 (blockSize len ((len + 31) / 32) i)).toNat =
        blockSize len ((len + 31) / 32) i := by
      have small := blockSize_le len ((len + 31) / 32) i
      rw [BitVec.toNat_ofNat]
      exact Nat.mod_eq_of_lt (by omega)
    obtain ⟨transfer, ⟨_, middle⟩, read, run⟩ := Program.exec_bind.mp run
    obtain ⟨fills, new, rfl, asked⟩ := exec_getAllDataInternal read
    rw [width] at fills asked
    change (ite (transfer.res ≠ teeSuccess) _ _ : Program Bus Reply).Exec _ _ _ _ at run
    by_cases succeeded : transfer.res = teeSuccess
    · rw [if_neg (not_not.mpr succeeded)] at run
      obtain ⟨rest, ⟨_, _⟩, ran, rfl, same⟩ := Program.exec_bind.mp run
      cases same
      obtain ⟨more, rfl, tail⟩ := ih (by omega) ran
      have asked : blocks new = [(blockSize len ((len + 31) / 32) i, transfer)] :=
        asked.resolve_left fun failed => failed.1 succeeded
      refine ⟨new ++ more, List.append_assoc _ _ _, ?_⟩
      rw [blocks_append, asked]
      exact tail.cons inside fills succeeded
    · rw [if_pos succeeded] at run
      obtain ⟨rfl, same⟩ := run
      cases same
      exact ⟨new, rfl, .failed inside fills succeeded (asked.imp_left And.right)⟩

/-- The first blocks, up to any of those asked for, end where the next one begins, or at the
length. -/
theorem BlockRun.sum_take (ran : BlockRun len 0 count reply requests)
    (few : requests.length ≤ (len + 31) / 32) {j : Nat} (reached : j ≤ requests.length) :
    ((requests.map Prod.fst).take j).sum = min (32 * j) len := by
  induction j with
  | zero => simp
  | succ j ih =>
    obtain ⟨request, found⟩ : ∃ request, requests[j]? = some request :=
      ⟨_, List.getElem?_eq_getElem (by omega)⟩
    have size := (ran.sized j request found).1
    have last := blockSize_eq (show 32 * j < len by omega)
    rw [Nat.zero_add] at size
    rw [List.take_add_one, List.getElem?_map, found, List.sum_append, ih (by omega)]
    simp only [Option.map_some, Option.toList_some, List.sum_singleton, size]
    omega

/-- A block read of `len` bytes.  The blocks asked for are consecutive parts of the buffer of
1 to 32 bytes.  A success has asked for all of the buffer and left in it what was delivered,
with the NULs replaced.  A failure has written nothing after the block that failed. -/
structure BlockRead (len : Nat) (reply : Reply) (requests : List (Nat × Transfer)) : Prop where
  sizes : ∀ request ∈ requests, 0 < request.1 ∧ request.1 ≤ 32
  consecutive : ∀ j < requests.length, ((requests.map Prod.fst).take j).sum = 32 * j
  inside : (requests.map Prod.fst).sum ≤ len
  success : reply.res = teeSuccess → (requests.map Prod.fst).sum = len ∧
    (∀ request ∈ requests, request.2.res = teeSuccess) ∧
    ∀ memory : Nat → Byte,
      (List.range len).map (applyStores memory reply.out) =
        (requests.flatMap fun request => request.2.bytes).map newline ∧
      ∀ offset ≥ len, applyStores memory reply.out offset = memory offset
  failure : reply.res ≠ teeSuccess → ∃ k, k ≤ requests.length ∧ requests.length ≤ k + 1 ∧
    (∀ request ∈ requests.take k, request.2.res = teeSuccess) ∧
    (∀ request, requests[k]? = some request → request.2.res = reply.res) ∧
    ∀ store ∈ reply.out, store.1 < 32 * (k + 1) ∧ store.1 < len

theorem BlockRun.length_le (ran : BlockRun len i count reply requests) :
    requests.length ≤ count := by
  by_cases code : reply.res = teeSuccess
  · exact (ran.success code).1.le
  · obtain ⟨k, below, -, few, -⟩ := ran.failure code
    omega

/-- What a successful loop leaves in memory. -/
theorem BlockRun.content (ran : BlockRun len 0 ((len + 31) / 32) reply requests)
    (code : reply.res = teeSuccess) :
    (requests.flatMap fun request => request.2.bytes).length = len ∧
      ∀ memory, applyStores memory reply.out = applyStores memory
        (storesFrom 0 ((requests.flatMap fun request => request.2.bytes).map newline)) := by
  obtain ⟨length_eq, all, out_eq⟩ := ran.success code
  have lengths : requests.map (fun request => request.2.bytes.length) = requests.map Prod.fst := by
    refine List.map_congr_left fun request member => ?_
    obtain ⟨j, inside, rfl⟩ := List.mem_iff_getElem.mp member
    exact (ran.sized j _ (List.getElem?_eq_getElem inside)).2.2 (all _ member)
  refine ⟨?_, fun memory => ?_⟩
  · have sum := ran.sum_take length_eq.le (Nat.le_refl _)
    rw [← List.length_map (f := Prod.fst), List.take_length, List.length_map, length_eq] at sum
    rw [List.length_flatMap, lengths, sum]
    omega
  · rw [out_eq, List.flatMap_def]
    refine applyStores_blockStores memory 0 _ fun j bytes found inside => ?_
    rw [List.getElem?_map, Option.map_eq_some_iff] at found
    rw [List.length_map] at inside
    obtain ⟨request, found, rfl⟩ := found
    have size := ran.sized j request found
    have last := blockSize_eq (show 32 * j < len by omega)
    have full := size.2.2 (all request (List.mem_of_getElem? found))
    rw [Nat.zero_add] at size
    omega

theorem BlockRun.blockRead (ran : BlockRun len 0 ((len + 31) / 32) reply requests) :
    BlockRead len reply requests where
  sizes := by
    intro request member
    obtain ⟨j, inside, rfl⟩ := List.mem_iff_getElem.mp member
    have few := ran.length_le
    have size := (ran.sized j _ (List.getElem?_eq_getElem inside)).1
    have last := blockSize_eq (show 32 * j < len by omega)
    rw [Nat.zero_add] at size
    omega
  consecutive := by
    intro j inside
    have few := ran.length_le
    rw [ran.sum_take few inside.le]
    omega
  inside := by
    have sum := ran.sum_take ran.length_le (Nat.le_refl _)
    rw [← List.length_map (f := Prod.fst), List.take_length] at sum
    omega
  success := by
    intro code
    obtain ⟨length_eq, all, out_eq⟩ := ran.success code
    have sum := ran.sum_take ran.length_le (Nat.le_refl _)
    rw [← List.length_map (f := Prod.fst), List.take_length, List.length_map, length_eq] at sum
    obtain ⟨total, content⟩ := ran.content code
    refine ⟨by omega, all, fun memory => ⟨?_, fun offset behind => ?_⟩⟩
    · rw [content]
      refine List.ext_getElem (by simp only [List.length_map, List.length_range, total])
        fun offset _ below => ?_
      rw [List.getElem_map, List.getElem_range, applyStores_storesFrom, if_neg (Nat.not_lt_zero _),
        Nat.sub_zero, List.getElem?_eq_getElem below]
      rfl
    · rw [content, applyStores_storesFrom, if_neg (Nat.not_lt_zero _), List.getElem?_eq_none]
      · rfl
      · rw [List.length_map, total]
        exact behind
  failure := by
    intro code
    obtain ⟨k, -, reached, few, all, last, stores⟩ := ran.failure code
    refine ⟨k, reached, few, all, last, fun store member => ?_⟩
    have bound := stores store member
    omega

/-- A block read refuses an empty and a long buffer before it touches the bus, and reads every
other buffer block by block, whatever the bus functions answer. -/
theorem getAllGnssInternal_reads_blocks (dev : I2cDevice) (len : BitVec 16) (reply : Reply)
    (record : List BusCall)
    (run : (getAllGnssInternal dev len).Exec busRecord ((), []) reply ((), record)) :
    ((len = 0 ∨ 1224 < len.toNat) → reply = ⟨teeErrorBadParameters, []⟩ ∧ record = []) ∧
      (¬(len = 0 ∨ 1224 < len.toNat) → BlockRead len.toNat reply (blocks record)) := by
  unfold getAllGnssInternal at run
  by_cases refused : 1024 + 200 < len.toNat ∨ len = 0
  · rw [if_pos refused] at run
    obtain ⟨rfl, same⟩ := run
    cases same
    exact ⟨fun _ => ⟨rfl, rfl⟩, fun accepted => absurd refused.symm accepted⟩
  · rw [if_neg refused] at run
    refine ⟨fun rejected => absurd rejected.symm refused, fun _ => ?_⟩
    obtain ⟨new, rfl, ran⟩ := exec_getAllGnssFrom (Nat.zero_add _) run
    exact ran.blockRead

/-- A block that is delivered, and the run of the loop after it. -/
theorem exec_next {blocks : Nat} (bytes : List Byte) (bus : dev.i2c.toNat < i2cNum)
    (size : bytes.length = (BitVec.ofNat 16 (blockSize len blocks i)).toNat)
    (nonempty : BitVec.ofNat 16 (blockSize len blocks i) ≠ 0)
    (tail : (getAllGnssFrom dev len blocks count (i + 1)).Exec busRecord
      ((), before ++ [⟨.i2cWriteBytes dev.i2c dev.busAddr (some [33]) 1 0, teeSuccess⟩] ++
        [⟨.i2cReadBytes dev.i2c dev.busAddr false
          (BitVec.ofNat 16 (blockSize len blocks i)) i2cCont,
          (⟨teeSuccess, bytes⟩ : Transfer)⟩]) reply ((), after)) :
    (getAllGnssFrom dev len blocks (count + 1) i).Exec busRecord ((), before)
      ⟨reply.res, storesFrom (32 * i) bytes ++ newlinesFrom (32 * i) bytes ++ reply.out⟩
      ((), after) := by
  have written : BusAllows (.i2cWriteBytes dev.i2c dev.busAddr (some [33]) 1 0) teeSuccess :=
    i2cWriteBytes_allowed bus _ _ _ (by decide) (by decide)
  have read : BusAllows (.i2cReadBytes dev.i2c dev.busAddr false
      (BitVec.ofNat 16 (blockSize len blocks i)) i2cCont) (⟨teeSuccess, bytes⟩ : Transfer) := by
    simp only [BusAllows, nonempty, Nat.not_le.mpr bus, false_or, Bool.false_eq_true, if_false]
    exact ⟨.inl rfl, size.le, fun _ => size⟩
  refine ⟨teeSuccess, ((), _), ⟨written, rfl⟩, (⟨teeSuccess, bytes⟩ : Transfer), ((), _),
    ⟨read, rfl⟩, ?_⟩
  change (getAllGnssFrom dev len blocks count (i + 1) >>= fun rest => Program.pure
    (⟨rest.res, storesFrom (32 * i) bytes ++ newlinesFrom (32 * i) bytes ++ rest.out⟩ : Reply)).Exec
      busRecord _ _ _
  exact Program.exec_bind.mpr ⟨reply, _, tail, rfl, rfl⟩

/-- A read of 33 bytes: two blocks, the second of one byte. -/
theorem getAllGnssInternal_two_blocks :
    ∃ record reply, (getAllGnssInternal ⟨0, 0x20⟩ 33).Exec busRecord ((), []) reply ((), record) ∧
      reply.res = teeSuccess ∧ (blocks record).map Prod.fst = [32, 1] ∧
      BlockRead 33 reply (blocks record) := by
  have run : ∃ record reply,
      (getAllGnssFrom ⟨0, 0x20⟩ 33 2 2 0).Exec busRecord ((), []) reply ((), record) ∧
        reply.res = teeSuccess ∧ (blocks record).map Prod.fst = [32, 1] := by
    refine ⟨_, _, exec_next (List.replicate 32 7) (by decide) ?_ ?_
      (exec_next [0] (by decide) ?_ ?_ ⟨rfl, rfl⟩), rfl, rfl⟩ <;> decide
  obtain ⟨record, reply, run, code, sizes⟩ := run
  have read := getAllGnssInternal_reads_blocks ⟨0, 0x20⟩ 33 reply record run
  exact ⟨record, reply, run, code, sizes, read.2 (by decide)⟩

end Tel0157

end TrustWasm.Drivers
