import TrustWasm.Drivers.BscBus

/-!
# EEPROM transfers on the controller

`at24cxx_write` and `at24cxx_read` take a length of 32 bits and pass it to bus functions
that take 16 bits; `i2c_write_with_prefix` adds the two bytes of the memory address to it in
16 bits.  A transfer that reports success is complete exactly when no bit of the length, and
no carry of the sum, is lost on the way.
-/

namespace TrustWasm.Drivers

open TrustWasm.Lib TrustWasm.Tee Function

theorem map_memoryFrom (past : Nat → Byte) (bytes : List Byte) :
    (List.range bytes.length).map (memoryFrom past bytes) = bytes := by
  refine List.ext_getElem (by simp) fun i _ below => ?_
  simp [memoryFrom, below]

/-- The stream of a write with a prefix, as far as its data goes. -/
theorem map_prefixedSource (past : Nat → Byte) (head bytes : List Byte) :
    (List.range (head.length + bytes.length)).map
        (Bsc.prefixedSource (memoryFrom past head) head.length (memoryFrom past bytes)).byte =
      head ++ bytes := by
  rw [List.range_add, List.map_append, List.map_map]
  congr 1
  · conv_rhs => rw [← map_memoryFrom past head]
    exact List.map_congr_left fun i below => if_pos (List.mem_range.mp below)
  · conv_rhs => rw [← map_memoryFrom past bytes]
    refine List.map_congr_left fun i _ => ?_
    simp [Bsc.prefixedSource]

namespace At24cxx

/-- The two bytes of a memory address, high byte first. -/
def addrBuf (addr : BitVec 16) : List Byte :=
  [(addr >>> 8).setWidth 8, addr.setWidth 8]

/-- A buffer of `len` bytes. -/
def buffer (data : Nat → Byte) (len : BitVec 32) : List Byte :=
  (List.range len.toNat).map data

theorem length_buffer (data : Nat → Byte) (len : BitVec 32) :
    (buffer data len).length = len.toNat := by
  simp [buffer]

/-- Whenever `at24cxx_write` succeeds, the FIFO got the address and the whole buffer, and
the length register the number of these bytes. -/
def WritesAll (dev : I2cDevice) (addr : BitVec 16) (data : Nat → Byte) (len : BitVec 32) : Prop :=
  ∀ input source reply target,
    (at24cxxWrite dev addr (some (buffer data len)) len).Exec (bscSemantics input) source reply
      target → reply.res = teeSuccess →
    ∃ new, (target dev.i2c).trace = (source dev.i2c).trace ++ new ∧
      pushes new = addrBuf addr ++ buffer data len ∧
      (lengths new).map BitVec.toNat = [len.toNat + 2]

/-- Whenever `at24cxx_read` succeeds, the whole buffer got the bytes taken from the FIFO
after the address was written. -/
def ReadsAll (dev : I2cDevice) (addr : BitVec 16) (len : BitVec 32) : Prop :=
  ∀ input source reply target,
    (at24cxxRead dev addr false len).Exec (bscSemantics input) source reply target →
    reply.res = teeSuccess →
    ∃ before new, (target dev.i2c).trace = (source dev.i2c).trace ++ (before ++ new) ∧
      pushes before = addrBuf addr ∧ stores new = storesFrom 0 (pops new) ∧
      (pops new).length = len.toNat ∧ reply.out = stores new

variable {dev : I2cDevice} {addr : BitVec 16} {data : Nat → Byte} {len : BitVec 32}

/-- A run of `at24cxx_write` is a run of the bus function. -/
theorem exec_write_iff {input : BitVec 8 → BscInput} {source target : BitVec 8 → Bsc}
    {reply : Reply} {bytes : Option (List Byte)} :
    (at24cxxWrite dev addr bytes len).Exec (bscSemantics input) source reply target ↔
      ∃ res, reply = ⟨res, []⟩ ∧ (bscSemantics input).step source (.i2cWriteWithPrefix dev.i2c
        dev.busAddr (addrBuf addr) bytes (len.setWidth 16) 0) res target := by
  constructor
  · rintro ⟨_, _, ⟨-, rfl⟩, res, _, step, _, _, ⟨-, rfl⟩, rfl, rfl⟩
    exact ⟨res, rfl, step⟩
  · rintro ⟨res, rfl, step⟩
    exact ⟨_, source, ⟨rfl, rfl⟩, res, target, step, _, target, ⟨rfl, rfl⟩, rfl, rfl⟩

theorem setWidth_toNat (len : BitVec 32) : (len.setWidth 16).toNat = len.toNat % 65536 :=
  BitVec.toNat_setWidth 16 len

theorem setWidth_ne_zero (rest : len.toNat % 65536 ≠ 0) : len.setWidth 16 ≠ 0 := by
  intro zero
  have := congrArg BitVec.toNat zero
  rw [setWidth_toNat] at this
  exact rest this

theorem setWidth_eq_zero (rest : len.toNat % 65536 = 0) : len.setWidth 16 = 0 :=
  BitVec.eq_of_toNat_eq ((setWidth_toNat len).trans rest)

/-- What a write that succeeds sent: the stream, cut after as many bytes as the 16-bit sum
says. -/
theorem write_success {input : BscInput} {rounds : Nat} {past : Nat → Byte} {s s' : Bsc}
    (ran : Bsc.i2cWriteWithPrefix input rounds dev.i2c dev.busAddr
      (some (memoryFrom past (addrBuf addr))) (BitVec.ofNat 16 (addrBuf addr).length)
      (some (memoryFrom past (buffer data len))) (len.setWidth 16) 0 s = some (teeSuccess, s')) :
    dev.i2c.toNat < i2cNum ∧ len.toNat % 65536 ≠ 0 ∧
      ∃ new, s'.trace = s.trace ++ new ∧
        pushes new = (List.range ((len.toNat % 65536 + 2) % 65536)).map (Bsc.prefixedSource
          (memoryFrom past (addrBuf addr)) 2 (memoryFrom past (buffer data len))).byte ∧
        (lengths new).map BitVec.toNat = [len.toNat % 65536 + 2] := by
  by_cases refused : i2cNum ≤ dev.i2c.toNat ∨ len.setWidth 16 = 0 ∨ (0 : BitVec 8) &&& i2cAddr10 ≠ 0
  · obtain ⟨res, failed, ran'⟩ := Bsc.i2cWriteWithPrefix_refused input rounds dev.busAddr
      (some (memoryFrom past (addrBuf addr))) (BitVec.ofNat 16 (addrBuf addr).length)
      (some (memoryFrom past (buffer data len))) s (.inr (.inr refused))
    rw [ran'] at ran
    cases ran
    exact absurd rfl failed
  · simp only [not_or, Nat.not_le, not_not] at refused
    obtain ⟨bus, nonempty, addr7⟩ := refused
    rw [Bsc.i2cWriteWithPrefix_addr7 input rounds dev.busAddr _ _ _ s bus nonempty addr7] at ran
    obtain ⟨count, new, -, complete, trace, pushed, -, sized⟩ := Bsc.select_sends ran
    refine ⟨bus, fun rest => nonempty (setWidth_eq_zero rest), new, trace, ?_, ?_⟩
    · rw [pushed, complete rfl, BitVec.toNat_add, setWidth_toNat, Nat.add_comm]
      rfl
    · rw [sized, List.map_singleton, BitVec.toNat_add, BitVec.toNat_setWidth_of_le (by decide),
        BitVec.toNat_setWidth_of_le (by decide), setWidth_toNat]
      show [(2 + len.toNat % 65536) % 2 ^ 32] = _
      rw [Nat.mod_eq_of_lt (by omega), Nat.add_comm]

theorem writesAll_of (condition : i2cNum ≤ dev.i2c.toNat ∨ len.toNat < 65534 ∨
    len.toNat % 65536 = 0) : WritesAll dev addr data len := by
  intro input source reply target run success
  obtain ⟨res, rfl, past, rounds, s, ran, rfl⟩ := exec_write_iff.mp run
  obtain rfl : res = teeSuccess := success
  obtain ⟨bus, nonempty, new, trace, pushed, sized⟩ := write_success ran
  have short : len.toNat < 65534 := by
    rcases condition with absent | short | rest
    · omega
    · exact short
    · exact absurd rest nonempty
  rw [Nat.mod_eq_of_lt (by omega : len.toNat < 65536)] at pushed sized
  rw [Nat.mod_eq_of_lt (by omega : len.toNat + 2 < 65536)] at pushed
  refine ⟨new, by rw [update_self, trace], ?_, sized⟩
  have stream := map_prefixedSource past (addrBuf addr) (buffer data len)
  rw [length_buffer, Nat.add_comm] at stream
  exact pushed.trans stream

/-- A length that does not fit 16 bits with the address: with a controller that takes all it
is given the write succeeds and has sent less than it should. -/
theorem not_writesAll (bus : dev.i2c.toNat < i2cNum) (long : 65534 ≤ len.toNat)
    (rest : len.toNat % 65536 ≠ 0) : ¬WritesAll dev addr data len := by
  intro writes
  let s : Bsc := ⟨0, 0, 0, 0, []⟩
  let remain := (BitVec.ofNat 16 (addrBuf addr).length + len.setWidth 16).toNat
  let input := BscWrite.taker 0 remain 0
  have enough : remain + 1 < (2 + (len.setWidth 16).toNat) * 10000 := by
    have : remain ≤ 2 + (len.setWidth 16).toNat := by
      show (BitVec.ofNat 16 2 + len.setWidth 16).toNat ≤ _
      rw [BitVec.toNat_add]
      exact Nat.mod_le _ _
    omega
  obtain ⟨s', ran⟩ := BscWrite.transmit_succeeds
    (Bsc.prefixedSource (memoryFrom data (addrBuf addr)) 2 (memoryFrom data (buffer data len)))
    (w := ⟨0, remain, (2 + (len.setWidth 16).toNat) * 10000, false,
      (s.clearUnlessCont input 0).select (BitVec.setWidth 32 2#16 + (len.setWidth 16).setWidth 32)
        dev.busAddr⟩) rfl enough
  have ran' := (Bsc.i2cWriteWithPrefix_addr7 input 2 dev.busAddr (memoryFrom data (addrBuf addr))
    (BitVec.ofNat 16 (addrBuf addr).length) (memoryFrom data (buffer data len)) s bus
    (setWidth_ne_zero rest) (show (0 : BitVec 8) &&& i2cAddr10 = 0 by decide)).trans ran
  obtain ⟨-, -, new, trace, pushed, -⟩ := write_success ran'
  obtain ⟨new', trace', pushed', -⟩ := writes (fun _ => input) (fun _ => s) ⟨teeSuccess, []⟩ _
    (exec_write_iff.mpr ⟨teeSuccess, rfl, data, 2, s', ran', rfl⟩) rfl
  rw [update_self] at trace'
  obtain rfl : new = new' := List.append_cancel_left (trace.symm.trans trace')
  have lengths_eq := congrArg List.length (pushed.symm.trans pushed')
  rw [List.length_map, List.length_range, List.length_append, length_buffer] at lengths_eq
  have : (addrBuf addr).length = 2 := rfl
  omega

/-- A run of `at24cxx_read` that succeeds writes the address and then reads. -/
theorem exec_read {input : BitVec 8 → BscInput} {source target : BitVec 8 → Bsc} {reply : Reply}
    (run : (at24cxxRead dev addr false len).Exec (bscSemantics input) source reply target)
    (success : reply.res = teeSuccess) :
    ∃ middle transfer, reply = transfer.toReply ∧
      (bscSemantics input).step source
        (.i2cWriteBytes dev.i2c dev.busAddr (some (addrBuf addr)) 2 0)
        teeSuccess middle ∧
      (bscSemantics input).step middle (.i2cReadBytes dev.i2c dev.busAddr false (len.setWidth 16)
        i2cCont) transfer target := by
  obtain ⟨_, _, ⟨-, rfl⟩, res, middle, wrote, run⟩ := run
  change (ite (res ≠ teeSuccess) _ _ : Program Bus Reply).Exec _ _ _ _ at run
  by_cases written : res = teeSuccess
  · rw [if_neg (not_not.mpr written)] at run
    obtain ⟨transfer, _, read, _, _, ⟨-, rfl⟩, rfl, rfl⟩ := run
    exact ⟨middle, transfer, rfl, written ▸ wrote, read⟩
  · rw [if_pos written] at run
    obtain ⟨_, _, ⟨-, rfl⟩, rfl, rfl⟩ := run
    exact absurd success written

theorem readsAll_of (condition : i2cNum ≤ dev.i2c.toNat ∨ len.toNat < 65536 ∨
    len.toNat % 65536 = 0) : ReadsAll dev addr len := by
  intro input source reply target run success
  obtain ⟨_, transfer, rfl, ⟨past, rounds, s, wrote, rfl⟩, rounds', s', read, rfl⟩ :=
    exec_read run success
  change transfer.res = teeSuccess at success
  rw [update_self] at read
  have allowed := Bsc.i2cReadBytes_allowed read
  simp only [BusAllows] at allowed
  split at allowed
  · rw [allowed] at success
    exact absurd success (by decide)
  · rename_i accepted
    simp only [not_or, Nat.not_le] at accepted
    obtain ⟨bus, nonempty, -⟩ := accepted
    have short : len.toNat < 65536 := by
      rcases condition with absent | short | rest
      · omega
      · exact short
      · exact absurd (setWidth_eq_zero rest) nonempty
    obtain ⟨-, new, trace, reads⟩ := Bsc.i2cReadBytes_reads bus nonempty read
    rw [Option.map_some, Bsc.i2cWriteBytes_addr7 _ _ _ _ _ _ _ _ bus (by decide) (by decide)]
      at wrote
    obtain ⟨count, before, -, complete, trace', pushed, -⟩ := Bsc.select_sends wrote
    refine ⟨before, new, ?_, ?_, reads.stored, ?_, ?_⟩
    · rw [update_self, trace, trace', List.append_assoc]
    · rw [pushed, complete rfl]
      exact map_memoryFrom past (addrBuf addr)
    · rw [(reads.success success).1, setWidth_toNat, Nat.mod_eq_of_lt short]
    · rw [reads.stored, ← reads.bytes_eq]
      rfl

/-- The transfers of the EEPROM driver that report success are complete exactly when the
length, with the two address bytes, fits 16 bits, or the call is rejected. -/
theorem transfers_complete_iff (dev : I2cDevice) (addr : BitVec 16) (data : Nat → Byte)
    (len : BitVec 32) :
    (WritesAll dev addr data len ∧ ReadsAll dev addr len) ↔
      i2cNum ≤ dev.i2c.toNat ∨ len.toNat < 65534 ∨ len.toNat % 65536 = 0 := by
  constructor
  · rintro ⟨writes, -⟩
    by_contra condition
    simp only [not_or, Nat.not_le, Nat.not_lt] at condition
    obtain ⟨bus, long, rest⟩ := condition
    exact not_writesAll bus long rest writes
  · intro condition
    refine ⟨writesAll_of condition, readsAll_of ?_⟩
    rcases condition with absent | short | rest
    · exact .inl absent
    · exact .inr (.inl (by omega))
    · exact .inr (.inr rest)

/-- A write of 65534 bytes to an EEPROM on bus 0 succeeds without sending a byte. -/
theorem write_sends_nothing :
    ∃ target, (at24cxxWrite ⟨0, 0x50⟩ 0 (some (buffer (fun _ => 7) 65534)) 65534).Exec
        (bscSemantics fun _ => Bsc.ready fun _ => 0) (fun _ => ⟨0, 0, 0, 0, []⟩) ⟨teeSuccess, []⟩
        target ∧
      pushes (target 0).trace = [] ∧ lengths (target 0).trace = [65536] := by
  refine ⟨_, exec_write_iff.mpr ⟨teeSuccess, rfl, fun _ => 7, 1, _, rfl, rfl⟩, ?_, ?_⟩
  · rfl
  · rfl

end At24cxx

end TrustWasm.Drivers
