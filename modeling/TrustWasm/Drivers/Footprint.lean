import TrustWasm.Drivers.Calls

/-!
# What the drivers store

Every driver ends with a code of the TEE interface, stores only to offsets of a
set fixed by the call, and to every offset of that set when it succeeds.  The
set is not always all of the caller's structure: the time and the coordinates
of the GNSS receiver leave gaps.
-/

namespace TrustWasm.Drivers

open TrustWasm.Lib TrustWasm.Tee

variable {α β : Type}

/-- Whatever the devices do, `program` returns a value that meets `post`. -/
abbrev Ensures (post : α → Prop) (program : Program Bus α) : Prop :=
  program.Obeys busSemantics (fun value _ => post value) ()

theorem Ensures.bind {middle : α → Prop} {post : β → Prop} {program : Program Bus α}
    {rest : α → Program Bus β} (first : Ensures middle program)
    (second : ∀ value, middle value → Ensures post (rest value)) :
    Ensures post (program >>= rest) :=
  Program.Obeys.bind first fun value _ holds => second value holds

theorem Ensures.perform_bind {post : α → Prop} {op : BusOp} {rest : Bus.Reply op → Program Bus α}
    (second : ∀ reply, BusAllows op reply → Ensures post (rest reply)) :
    Ensures post (Program.perform (I := Bus) op >>= rest) :=
  ⟨trivial, fun reply _ allowed => second reply allowed⟩

theorem Ensures.map {middle : α → Prop} {post : β → Prop} {program : Program Bus α} {f : α → β}
    (first : Ensures middle program) (second : ∀ value, middle value → post (f value)) :
    Ensures post (f <$> program) := by
  rw [map_eq_pure_bind]
  exact first.bind fun value holds => second value holds

/-! ## Codes -/

theorem lawful_success : Lawful teeSuccess :=
  .inl rfl

theorem lawful_badParameters : Lawful teeErrorBadParameters := by
  decide

theorem lawful_notImplemented : Lawful teeErrorNotImplemented := by
  decide

variable {res : TeeResult} {reply : Reply}

theorem I2cOutcome.lawful (outcome : I2cOutcome res) : Lawful res := by
  rcases outcome with rfl | rfl | rfl | rfl
  all_goals decide

theorem SpiOutcome.lawful (outcome : SpiOutcome res) : Lawful res := by
  rcases outcome with rfl | rfl
  all_goals decide

theorem lawful_of_ite {c : Prop} [Decidable c]
    (answer : res = if c then teeErrorBadParameters else teeSuccess) : Lawful res := by
  subst answer
  split
  all_goals decide

/-! ## Transfers -/

/-- The transfer stores up to `count` bytes, and all of them on success. -/
structure Transfer.Covers (transfer : Transfer) (count : Nat) : Prop where
  lawful : Lawful transfer.res
  fills : transfer.Fills count

theorem Transfer.covers_of_error (lawful : Lawful res) (failed : res ≠ teeSuccess) (count : Nat) :
    Transfer.Covers ⟨res, []⟩ count :=
  ⟨lawful, Nat.zero_le _, fun success => absurd success failed⟩

theorem i2cReadBytes_covers (dev : BitVec 8) (addr : BitVec 16) (isNull : Bool) (len : BitVec 16)
    (flags : BitVec 8) :
    Ensures (fun transfer => transfer.Covers len.toNat)
      (i2cReadBytes dev addr isNull len flags) := by
  refine ⟨trivial, fun transfer _ allowed => ?_⟩
  change if _ then _ else _ at allowed
  split at allowed
  · subst allowed
    exact Transfer.covers_of_error (by decide) (by decide) _
  · exact ⟨allowed.1.lawful, allowed.2⟩

theorem i2cWriteBytes_lawful (dev : BitVec 8) (addr : BitVec 16) (data : Option (List Byte))
    (len : BitVec 16) (flags : BitVec 8) :
    Ensures Lawful (i2cWriteBytes dev addr data len flags) := by
  refine ⟨trivial, fun res _ allowed => ?_⟩
  change if _ then _ else _ at allowed
  split at allowed
  · subst allowed
    exact lawful_badParameters
  · exact allowed.lawful

theorem i2cWriteWithPrefix_lawful (dev : BitVec 8) (addr : BitVec 16) (head : List Byte)
    (data : Option (List Byte)) (len : BitVec 16) (flags : BitVec 8) :
    Ensures Lawful (i2cWriteWithPrefix dev addr head data len flags) := by
  refine ⟨trivial, fun res _ allowed => ?_⟩
  change if _ then _ else if _ then _ else _ at allowed
  split at allowed
  · subst allowed
    exact lawful_badParameters
  · split at allowed
    · subst allowed
      exact lawful_notImplemented
    · exact allowed.lawful

theorem i2cReadRegsFrom_covers (dev : BitVec 8) (addr reg : BitVec 16) (isNull : Bool)
    (count i : Nat) (flags : BitVec 8) :
    Ensures (fun transfer => transfer.Covers count)
      (i2cReadRegsFrom dev addr reg isNull count i flags) := by
  induction count generalizing i flags with
  | zero => exact ⟨lawful_success, Nat.le_refl _, fun _ => rfl⟩
  | succ count ih =>
    refine (i2cWriteBytes_lawful _ _ _ _ _).bind fun res lawful => ?_
    dsimp only
    split
    · rename_i failed
      exact Transfer.covers_of_error lawful failed _
    · refine (i2cReadBytes_covers _ _ _ _ _).bind fun read covers => ?_
      have length : read.bytes.length ≤ 1 := covers.fills.1
      split
      · rename_i failed
        exact ⟨covers.lawful, by omega, fun success => absurd success failed⟩
      · rename_i succeeded
        have one : read.bytes.length = 1 := covers.fills.2 (Decidable.not_not.mp succeeded)
        refine (ih (i + 1) _).bind fun rest restCovers => ?_
        refine ⟨restCovers.lawful, ?_, fun success => ?_⟩
        · have bound := restCovers.fills.1
          simp only [List.length_append]
          omega
        · have exactly := restCovers.fills.2 success
          simp only [List.length_append]
          omega

theorem i2cReadRegs_covers (dev : BitVec 8) (addr reg : BitVec 16) (isNull : Bool)
    (len : BitVec 16) (flags : BitVec 8) :
    Ensures (fun transfer => transfer.Covers len.toNat)
      (i2cReadRegs dev addr reg isNull len flags) := by
  unfold i2cReadRegs
  split
  · exact Transfer.covers_of_error (by decide) (by decide) _
  · exact i2cReadRegsFrom_covers _ _ _ _ _ _ _

/-! ## Replies -/

/-- The offsets a reply stores to. -/
def Reply.offsets (reply : Reply) : List Nat :=
  reply.out.map (·.1)

/-- The reply ends with a code of the interface, stores within `region`, and to
all of `region` on success. -/
structure Reply.Covers (reply : Reply) (region : Nat → Prop) : Prop where
  lawful : Lawful reply.res
  within : ∀ offset ∈ reply.offsets, region offset
  all : reply.res = teeSuccess → ∀ offset, region offset → offset ∈ reply.offsets

theorem Reply.covers_of_error (lawful : Lawful res) (failed : res ≠ teeSuccess)
    (region : Nat → Prop) : Reply.Covers ⟨res, []⟩ region :=
  ⟨lawful, by simp [Reply.offsets], fun success => absurd success failed⟩

theorem mem_storesFrom {offset start : Nat} {bytes : List Byte} :
    offset ∈ (storesFrom start bytes).map (·.1) ↔
      start ≤ offset ∧ offset < start + bytes.length := by
  induction bytes generalizing start with
  | nil =>
    simp only [storesFrom, List.map_nil, List.not_mem_nil, List.length_nil, false_iff]
    omega
  | cons byte rest ih =>
    simp only [storesFrom, List.map_cons, List.mem_cons, ih, List.length_cons]
    omega

theorem Transfer.Covers.toReply {transfer : Transfer} {count : Nat}
    (covers : transfer.Covers count) : transfer.toReply.Covers (· < count) where
  lawful := covers.lawful
  within := by
    intro offset member
    have range := mem_storesFrom.mp member
    have bound := covers.fills.1
    omega
  all := by
    intro success offset inside
    have exactly := covers.fills.2 success
    exact mem_storesFrom.mpr ⟨Nat.zero_le _, by omega⟩

theorem Reply.covers_of_result (lawful : Lawful res) :
    (Reply.ofResult res).Covers fun _ => False :=
  ⟨lawful, by simp [Reply.ofResult, Reply.offsets], by simp⟩

/-- A body that runs between acquire and release of the bus. -/
theorem withBus_covers (i2c : BitVec 8) {body : Program Bus Reply} {region : Nat → Prop}
    (covers : Ensures (fun reply => reply.Covers region) body) :
    Ensures (fun reply => reply.Covers region) (withBus i2c body) := by
  refine .perform_bind fun res acquired => ?_
  split
  · rename_i failed
    exact Reply.covers_of_error (lawful_of_ite acquired) failed _
  · refine Ensures.bind covers fun reply holds => ?_
    exact .perform_bind fun _ _ => holds

/-! ## Light, motion and memory -/

theorem bh1750fviSample_covers (dev : I2cDevice) :
    Ensures (fun reply => reply.Covers (· < 2)) (bh1750fviSample dev) := by
  refine .perform_bind fun res acquired => ?_
  split
  · rename_i failed
    exact Reply.covers_of_error (lawful_of_ite acquired) failed _
  · refine (i2cWriteBytes_lawful _ _ _ _ _).bind fun res lawful => ?_
    dsimp only
    split
    · rename_i failed
      exact .perform_bind fun _ _ => Reply.covers_of_error lawful failed _
    · refine (i2cWriteBytes_lawful _ _ _ _ _).bind fun res lawful => ?_
      split
      · rename_i failed
        exact .perform_bind fun _ _ => Reply.covers_of_error lawful failed _
      · refine .perform_bind fun _ _ => Ensures.perform_bind fun _ _ => ?_
        refine (i2cReadBytes_covers _ _ _ _ _).bind fun raw covers => ?_
        refine .perform_bind fun _ _ => ?_
        split
        · rename_i failed
          exact Reply.covers_of_error covers.lawful failed _
        · refine ⟨lawful_success, ?_, fun _ => ?_⟩
          · intro offset member
            exact (mem_storesFrom.mp member).2
          · intro offset inside
            exact mem_storesFrom.mpr ⟨Nat.zero_le _, inside⟩

/-- The registers from `i` on are stored at their own offsets. -/
theorem mpuSampleFrom_covers (dev : I2cDevice) (isNull : Bool) (count i : Nat) :
    Ensures (fun reply => reply.Covers fun offset => i ≤ offset ∧ offset < i + count)
      (mpuSampleFrom dev isNull count i) := by
  induction count generalizing i with
  | zero =>
    refine ⟨lawful_success, by simp [Reply.offsets], fun _ offset inside => ?_⟩
    omega
  | succ count ih =>
    refine (i2cReadRegs_covers _ _ _ _ _ _).bind fun read covers => ?_
    have bound : read.bytes.length ≤ 1 := covers.fills.1
    split
    · rename_i failed
      refine ⟨covers.lawful, ?_, fun success => absurd success failed⟩
      intro offset member
      have range := mem_storesFrom.mp member
      omega
    · rename_i succeeded
      have one : read.bytes.length = 1 := covers.fills.2 (Decidable.not_not.mp succeeded)
      refine (ih (i + 1)).bind fun rest restCovers => ?_
      refine ⟨restCovers.lawful, ?_, fun success => ?_⟩
      · intro offset member
        rw [Reply.offsets, List.map_append, List.mem_append, mem_storesFrom] at member
        rcases member with range | member
        · omega
        · have range := restCovers.within offset member
          omega
      · intro offset inside
        rw [Reply.offsets, List.map_append, List.mem_append, mem_storesFrom]
        by_cases here : offset = i
        · left
          omega
        · right
          exact restCovers.all success offset ⟨by omega, by omega⟩

theorem mpuSample_covers (dev : I2cDevice) (isNull : Bool) :
    Ensures (fun reply => reply.Covers fun offset => 0 ≤ offset ∧ offset < 0 + 14)
      (mpuSample dev isNull) :=
  withBus_covers _ (mpuSampleFrom_covers dev isNull 14 0)

/-- A register read into a null pointer fails and stores nothing. -/
theorem i2cReadReg_null (dev : BitVec 8) (addr reg : BitVec 16) :
    Ensures (fun read => read.res ≠ teeSuccess ∧ read.bytes = [])
      (i2cReadReg dev addr reg true 0) := by
  refine (i2cWriteBytes_lawful _ _ _ _ _).bind fun res _ => ?_
  dsimp only
  split
  · rename_i failed
    exact ⟨failed, rfl⟩
  · refine .perform_bind fun read allowed => ?_
    change if _ then _ else _ at allowed
    rw [if_pos (by simp)] at allowed
    subst allowed
    rw [if_pos (by decide)]
    exact ⟨(by decide : teeErrorBadParameters ≠ teeSuccess), rfl⟩

theorem mpuSample_null (dev : I2cDevice) :
    Ensures (fun reply => reply.res ≠ teeSuccess ∧ reply.out = []) (mpuSample dev true) := by
  have firstFails : Ensures (fun reply => reply.res ≠ teeSuccess ∧ reply.out = [])
      (mpuSampleFrom dev true 14 0) := by
    refine (i2cReadReg_null _ _ _).bind fun read failed => ?_
    rw [if_pos failed.1]
    exact ⟨failed.1, by rw [failed.2]; rfl⟩
  refine .perform_bind fun res acquired => ?_
  split
  · rename_i failed
    exact ⟨failed, rfl⟩
  · exact Ensures.bind firstFails fun reply failed => Ensures.perform_bind fun _ _ => failed

theorem at24cxxRead_covers (dev : I2cDevice) (addr : BitVec 16) (isNull : Bool) (len : BitVec 32) :
    Ensures (fun reply => reply.Covers (· < (len.setWidth 16).toNat))
      (at24cxxRead dev addr isNull len) := by
  refine .perform_bind fun _ _ => ?_
  refine (i2cWriteBytes_lawful _ _ _ _ _).bind fun res lawful => ?_
  split
  · rename_i failed
    exact .perform_bind fun _ _ => Reply.covers_of_error lawful failed _
  · refine (i2cReadBytes_covers _ _ _ _ _).bind fun read covers => ?_
    exact .perform_bind fun _ _ => covers.toReply

theorem at24cxxWrite_covers (dev : I2cDevice) (addr : BitVec 16) (data : Option (List Byte))
    (len : BitVec 32) :
    Ensures (fun reply => reply.Covers fun _ => False) (at24cxxWrite dev addr data len) := by
  refine .perform_bind fun _ _ => ?_
  refine (i2cWriteWithPrefix_lawful _ _ _ _ _ _).bind fun res lawful => ?_
  exact .perform_bind fun _ _ => Reply.covers_of_result lawful

/-! ## GNSS receiver -/

namespace Tel0157

theorem readInto_covers (dev : I2cDevice) (reg len : BitVec 16) :
    Ensures (fun reply => reply.Covers (· < len.toNat)) (readInto dev reg len) :=
  (i2cReadRegs_covers _ _ _ _ _ _).bind fun _ covers => covers.toReply

theorem getDateInternal_covers (dev : I2cDevice) :
    Ensures (fun reply => reply.Covers (· < 4)) (getDateInternal dev) := by
  refine (i2cReadRegs_covers _ _ _ _ _ _).bind fun date covers => ?_
  split
  · rename_i failed
    exact Reply.covers_of_error covers.lawful failed _
  · have offsets (offset : Nat) :
        offset ∈ (storesFrom 0 (bytes16 (((date.bytes.getD 0 0).setWidth 16 <<< 8) |||
          (date.bytes.getD 1 0).setWidth 16)) ++
            [(2, date.bytes.getD 2 0), (3, date.bytes.getD 3 0)]).map Prod.fst ↔ offset < 4 := by
      rw [List.map_append, List.mem_append, mem_storesFrom]
      simp only [bytes16, List.length_cons, List.length_nil, List.map_cons, List.map_nil,
        List.mem_cons, List.not_mem_nil, or_false]
      omega
    exact ⟨covers.lawful, fun offset => (offsets offset).mp, fun _ offset => (offsets offset).mpr⟩

theorem getUtcInternal_covers (dev : I2cDevice) :
    Ensures (fun reply => reply.Covers fun offset => 4 ≤ offset ∧ offset < 7)
      (getUtcInternal dev) := by
  refine (i2cReadRegs_covers _ _ _ _ _ _).bind fun utc covers => ?_
  split
  · rename_i failed
    exact Reply.covers_of_error covers.lawful failed _
  · have offsets (offset : Nat) :
        offset ∈ ([(4, utc.bytes.getD 0 0), (5, utc.bytes.getD 1 0),
          (6, utc.bytes.getD 2 0)] : List (Nat × Byte)).map (·.1) ↔ 4 ≤ offset ∧ offset < 7 := by
      simp only [List.map_cons, List.map_nil, List.mem_cons, List.not_mem_nil, or_false]
      omega
    exact ⟨covers.lawful, fun offset => (offsets offset).mp, fun _ offset => (offsets offset).mpr⟩

/-- Seven of the eight bytes of the time are stored. -/
theorem getUtcTime_covers (dev : I2cDevice) :
    Ensures (fun reply => reply.Covers (· < 7)) (getUtcTime dev) := by
  apply withBus_covers
  refine (getDateInternal_covers dev).bind fun date dateCovers => ?_
  split
  · rename_i failed
    refine ⟨dateCovers.lawful, ?_, fun success => absurd success failed⟩
    intro offset member
    have inside := dateCovers.within offset member
    omega
  · rename_i succeeded
    refine (getUtcInternal_covers dev).bind fun utc utcCovers => ?_
    refine ⟨utcCovers.lawful, ?_, fun success => ?_⟩
    · intro offset member
      rw [Reply.offsets, List.map_append, List.mem_append] at member
      rcases member with member | member
      · have inside := dateCovers.within offset member
        omega
      · exact (utcCovers.within offset member).2
    · intro offset inside
      rw [Reply.offsets, List.map_append, List.mem_append]
      by_cases early : offset < 4
      · exact .inl (dateCovers.all (Decidable.not_not.mp succeeded) offset early)
      · exact .inr (utcCovers.all success offset ⟨by omega, inside⟩)

/-- The bytes of one coordinate: a 32-bit word, two bytes and the direction. -/
def Coordinate.Region (field : Coordinate) (offset : Nat) : Prop :=
  (field.minutesOffset ≤ offset ∧ offset < field.minutesOffset + 4) ∨
    offset = field.degreesOffset ∨ offset = field.degreesOffset + 1 ∨
    offset = field.directionOffset

theorem getCoordinateInternal_covers (dev : I2cDevice) (field : Coordinate) :
    Ensures (fun reply => reply.Covers field.Region) (getCoordinateInternal dev field) := by
  refine (i2cReadRegs_covers _ _ _ _ _ _).bind fun read covers => ?_
  split
  · rename_i failed
    exact Reply.covers_of_error covers.lawful failed _
  · dsimp only
    generalize stores : [(field.degreesOffset, read.bytes.getD 0 0),
      (field.degreesOffset + 1, read.bytes.getD 1 0)] ++ storesFrom field.minutesOffset _ = first
    have offsets (offset : Nat) : offset ∈ first.map (·.1) ↔
        (field.minutesOffset ≤ offset ∧ offset < field.minutesOffset + 4) ∨
          offset = field.degreesOffset ∨ offset = field.degreesOffset + 1 := by
      rw [← stores, List.map_append, List.mem_append, mem_storesFrom]
      simp only [bytes32, List.length_cons, List.length_nil, List.map_cons, List.map_nil,
        List.mem_cons, List.not_mem_nil, or_false]
      omega
    refine (i2cReadRegs_covers _ _ _ _ _ _).bind fun direction directionCovers => ?_
    split
    · rename_i failed
      refine ⟨directionCovers.lawful, ?_, fun success => absurd success failed⟩
      intro offset member
      have inside := (offsets offset).mp member
      unfold Coordinate.Region
      omega
    · have all (offset : Nat) :
          offset ∈ (first ++ [(field.directionOffset, direction.bytes.getD 0 0)]).map (·.1) ↔
            field.Region offset := by
        rw [List.map_append, List.mem_append, offsets]
        simp only [List.map_cons, List.map_nil, List.mem_singleton, Coordinate.Region]
        omega
      exact ⟨directionCovers.lawful, fun offset => (all offset).mp,
        fun _ offset => (all offset).mpr⟩

theorem getGnssLenInternal_covers (dev : I2cDevice) :
    Ensures (fun reply => reply.Covers (· < 2)) (getGnssLenInternal dev) := by
  refine (i2cWriteBytes_lawful _ _ _ _ _).bind fun res lawful => ?_
  split
  · rename_i failed
    exact Reply.covers_of_error lawful failed _
  · refine (i2cReadRegs_covers _ _ _ _ _ _).bind fun len covers => ?_
    split
    · rename_i failed
      exact Reply.covers_of_error covers.lawful failed _
    · refine ⟨covers.lawful, ?_, fun _ => ?_⟩
      · intro offset member
        exact (mem_storesFrom.mp member).2
      · intro offset inside
        exact mem_storesFrom.mpr ⟨Nat.zero_le _, inside⟩

theorem mem_newlinesFrom {offset start : Nat} {bytes : List Byte}
    (member : offset ∈ (newlinesFrom start bytes).map (·.1)) :
    start ≤ offset ∧ offset < start + bytes.length := by
  induction bytes generalizing start with
  | nil => simp [newlinesFrom] at member
  | cons byte rest ih =>
    unfold newlinesFrom at member
    split at member
    · rcases List.mem_cons.mp member with rfl | member
      · simp
      · have range := ih member
        rw [List.length_cons]
        omega
    · have range := ih member
      rw [List.length_cons]
      omega

theorem getAllDataInternal_covers (dev : I2cDevice) (len : BitVec 16) :
    Ensures (fun transfer => transfer.Covers len.toNat) (getAllDataInternal dev len) := by
  refine (i2cWriteBytes_lawful _ _ _ _ _).bind fun res lawful => ?_
  split
  · rename_i failed
    exact Transfer.covers_of_error lawful failed _
  · exact i2cReadBytes_covers _ _ _ _ _

theorem blockSize_le (len blocks i : Nat) : blockSize len blocks i ≤ 32 := by
  unfold blockSize
  split
  · omega
  · exact Nat.le_refl _

/-- Blocks before the last are full, and the last ends at the length. -/
theorem blockSize_eq {len i : Nat} (inside : 32 * i < len) :
    32 * i + blockSize len ((len + 31) / 32) i = min (32 * (i + 1)) len := by
  unfold blockSize
  split
  · omega
  · omega

/-- From block `i` on the bytes up to the length are stored. -/
theorem getAllGnssFrom_covers (dev : I2cDevice) (len count i : Nat)
    (blocks : i + count = (len + 31) / 32) :
    Ensures (fun reply => reply.Covers fun offset => 32 * i ≤ offset ∧ offset < len)
      (getAllGnssFrom dev len ((len + 31) / 32) count i) := by
  induction count generalizing i with
  | zero =>
    refine ⟨lawful_success, by simp [Reply.offsets], fun _ offset inside => ?_⟩
    omega
  | succ count ih =>
    have size : 32 * i + blockSize len ((len + 31) / 32) i = min (32 * (i + 1)) len :=
      blockSize_eq (by omega)
    have small := blockSize_le len ((len + 31) / 32) i
    refine (getAllDataInternal_covers dev _).bind fun block covers => ?_
    have width : (BitVec.ofNat 16 (blockSize len ((len + 31) / 32) i)).toNat =
        blockSize len ((len + 31) / 32) i := by
      rw [BitVec.toNat_ofNat]
      exact Nat.mod_eq_of_lt (by omega)
    rw [width] at covers
    have bound := covers.fills.1
    split
    · rename_i failed
      refine ⟨covers.lawful, ?_, fun success => absurd success failed⟩
      intro offset member
      have range := mem_storesFrom.mp member
      omega
    · rename_i succeeded
      have full := covers.fills.2 (Decidable.not_not.mp succeeded)
      refine (ih (i + 1) (by omega)).bind fun rest restCovers => ?_
      refine ⟨restCovers.lawful, ?_, fun success => ?_⟩
      · intro offset member
        rw [Reply.offsets, List.map_append, List.map_append, List.mem_append, List.mem_append,
          mem_storesFrom] at member
        rcases member with (range | member) | member
        · omega
        · have range := mem_newlinesFrom member
          omega
        · have range := restCovers.within offset member
          omega
      · intro offset inside
        rw [Reply.offsets, List.map_append, List.map_append, List.mem_append, List.mem_append,
          mem_storesFrom]
        by_cases here : offset < 32 * (i + 1)
        · left
          left
          omega
        · right
          exact restCovers.all success offset ⟨by omega, inside.2⟩

theorem getAllGnssInternal_covers (dev : I2cDevice) (len : BitVec 16) :
    Ensures (fun reply => reply.Covers fun offset => 32 * 0 ≤ offset ∧ offset < len.toNat)
      (getAllGnssInternal dev len) := by
  unfold getAllGnssInternal
  split
  · exact Reply.covers_of_error lawful_badParameters (by decide) _
  · exact getAllGnssFrom_covers dev len.toNat _ 0 (Nat.zero_add _)

end Tel0157

/-! ## Fingerprint reader -/

namespace Atk301

theorem exchangeHead_lawful (dev : I2cDevice) (command : Byte) :
    Ensures (fun head => Lawful head.res) (exchangeHead dev command) := by
  refine .perform_bind fun res acquired => ?_
  split
  · exact lawful_of_ite acquired
  · refine (i2cWriteBytes_lawful _ _ _ _ _).bind fun res lawful => ?_
    split
    · exact .perform_bind fun _ _ => lawful
    · refine .perform_bind fun _ _ => Ensures.perform_bind fun _ _ => ?_
      refine .perform_bind fun _ _ => ?_
      refine (i2cReadBytes_covers _ _ _ _ _).bind fun head covers => ?_
      exact .perform_bind fun _ _ => covers.lawful

theorem getFingerprintImage_covers (dev : I2cDevice) :
    Ensures (fun reply => reply.Covers fun _ => False) (getFingerprintImage dev) := by
  refine (exchangeHead_lawful dev _).bind fun head lawful => ?_
  split
  · exact Reply.covers_of_result lawful
  · split
    · exact Reply.covers_of_result (by decide)
    · exact Reply.covers_of_result lawful

theorem uploadFrom_covers (dev : I2cDevice) (count i : Nat) :
    Ensures (fun reply => reply.Covers fun offset => 160 * i ≤ offset ∧ offset < 160 * (i + count))
      (uploadFrom dev count i) := by
  induction count generalizing i with
  | zero =>
    refine ⟨lawful_success, by simp [Reply.offsets], fun _ offset inside => ?_⟩
    omega
  | succ count ih =>
    refine (i2cReadBytes_covers _ _ _ _ _).bind fun block covers => ?_
    have bound : block.bytes.length ≤ 160 := covers.fills.1
    split
    · rename_i failed
      refine ⟨covers.lawful, ?_, fun success => absurd success failed⟩
      intro offset member
      have range := mem_storesFrom.mp member
      omega
    · rename_i succeeded
      have full : block.bytes.length = 160 := covers.fills.2 (Decidable.not_not.mp succeeded)
      refine (ih (i + 1)).bind fun rest restCovers => ?_
      refine ⟨restCovers.lawful, ?_, fun success => ?_⟩
      · intro offset member
        rw [Reply.offsets, List.map_append, List.mem_append, mem_storesFrom] at member
        rcases member with range | member
        · omega
        · have range := restCovers.within offset member
          omega
      · intro offset inside
        rw [Reply.offsets, List.map_append, List.mem_append, mem_storesFrom]
        by_cases here : offset < 160 * (i + 1)
        · left
          omega
        · right
          exact restCovers.all success offset ⟨by omega, by omega⟩

theorem uploadFingerprintImage_covers (dev : I2cDevice) :
    Ensures (fun reply => reply.Covers fun offset => 160 * 0 ≤ offset ∧ offset < 160 * (0 + 80))
      (uploadFingerprintImage dev) := by
  refine (exchangeHead_lawful dev _).bind fun head lawful => ?_
  split
  · rename_i failed
    exact Reply.covers_of_error lawful failed _
  · split
    · exact Reply.covers_of_error (by decide) (by decide) _
    · dsimp only
      split
      · exact Reply.covers_of_error (by decide) (by decide) _
      · refine .perform_bind fun _ _ => ?_
        refine (uploadFrom_covers dev 80 0).bind fun image covers => ?_
        exact .perform_bind fun _ _ => covers

end Atk301

/-! ## Temperature and humidity -/

namespace Dht

theorem parseRawValues_lawful {type : BitVec 32} {data : Frame} {code : TeeResult}
    (failed : parseRawValues type data = .error code) : Lawful code ∧ code ≠ teeSuccess := by
  have dht11 {scale : Byte} (failed : parseDht11 scale data = .error code) :
      code = teeErrorBadParameters := by
    unfold parseDht11 at failed
    dsimp only at failed
    split at failed
    · cases failed
    · cases failed
      rfl
  unfold parseRawValues at failed
  split at failed
  · rw [dht11 failed]
    decide
  · split at failed
    · rw [dht11 failed]
      decide
    · split at failed
      · cases failed
      · cases failed
        decide

/-- The trivial postcondition: the loops on the pin only matter by their code. -/
theorem ensures_true {α : Type} (program : Program Bus α) : Ensures (fun _ => True) program := by
  induction program with
  | pure value => trivial
  | call op next ih => exact ⟨trivial, fun reply _ _ => ih reply⟩

theorem read_covers (pin type : BitVec 32) :
    Ensures (fun reply => reply.Covers (· < 4)) (read pin type) := by
  refine (ensures_true _).bind fun started _ => ?_
  split
  · exact Reply.covers_of_error (by decide) (by decide) _
  · refine (ensures_true _).bind fun frame _ => ?_
    obtain ⟨res, data⟩ := frame
    dsimp only
    split
    · exact Reply.covers_of_error (by decide) (by decide) _
    · split
      · exact Reply.covers_of_error (by decide) (by decide) _
      · cases parsed : parseRawValues type data with
        | error code =>
          obtain ⟨lawful, failed⟩ := parseRawValues_lawful parsed
          exact Reply.covers_of_error lawful failed _
        | ok reading =>
          have offsets (offset : Nat) :
              offset ∈ (storesFrom 2 (bytes16 reading.humidity) ++
                storesFrom 0 (bytes16 reading.temperature)).map Prod.fst ↔ offset < 4 := by
            rw [List.map_append, List.mem_append, mem_storesFrom, mem_storesFrom]
            simp only [bytes16, List.length_cons, List.length_nil]
            omega
          exact ⟨lawful_success, fun offset => (offsets offset).mp,
            fun _ offset => (offsets offset).mpr⟩

end Dht

/-! ## Calls -/

/-- The offsets a call stores to when it succeeds. -/
def DriverCall.Region : DriverCall → Nat → Prop
  | .dhtRead _ _, offset => offset < 4
  | .bh1750fviSample _, offset => offset < 2
  | .mpuSample _ _, offset => offset < 14
  | .i2cReadBytes _ _ _ len _, offset => offset < len.toNat
  | .i2cReadRegs _ _ _ _ len _, offset => offset < len.toNat
  | .spiTransferBytes _ _ _ _ isNull len, offset => isNull = false ∧ offset < len.toNat
  | .at24cxxRead _ _ _ len, offset => offset < (len.setWidth 16).toNat
  | .tel0157GetGnssLen _, offset => offset < 2
  | .tel0157GetAllGnss _ len, offset => offset < len.toNat
  | .tel0157GetUtcTime _, offset => offset < 7
  | .tel0157GetGnssMode _, offset => offset < 1
  | .tel0157GetNumSatUsed _, offset => offset < 1
  | .tel0157GetLon _, offset => Tel0157.lon.Region offset
  | .tel0157GetLat _, offset => Tel0157.lat.Region offset
  | .tel0157GetAlt _, offset => offset < 3
  | .tel0157GetSog _, offset => offset < 3
  | .tel0157GetCog _, offset => offset < 3
  | .atk301UploadFingerprintImage _, offset => offset < 12800
  | .i2cAcquire _, _ | .i2cRelease _, _ | .i2cWriteBytes .., _ | .spiAcquire .., _
  | .spiRelease _, _ | .at24cxxWrite .., _ | .atk301GetFingerprintImage _, _ => False

theorem Reply.Covers.congr {region other : Nat → Prop} (covers : reply.Covers region)
    (same : ∀ offset, region offset ↔ other offset) :
    reply.Covers other :=
  ⟨covers.lawful, fun offset member => (same offset).mp (covers.within offset member),
    fun success offset inside => covers.all success offset ((same offset).mpr inside)⟩

theorem spiTransferBytes_covers (bus cs : BitVec 8) (cont : Bool) (out : Option (List Byte))
    (isNull : Bool) (len : BitVec 64) :
    Ensures (fun reply => reply.Covers fun offset => isNull = false ∧ offset < len.toNat)
      (Transfer.toReply <$> spiTransferBytes bus cs cont out isNull len) := by
  suffices transferred : Ensures (fun transfer => transfer.toReply.Covers fun offset =>
      isNull = false ∧ offset < len.toNat) (spiTransferBytes bus cs cont out isNull len) from
    transferred.map fun _ covers => covers
  refine ⟨trivial, fun transfer _ allowed => ?_⟩
  change if _ then _ else _ at allowed
  split at allowed
  · rename_i isTrue
    obtain ⟨nothing, outcome, -⟩ := allowed
    refine ⟨outcome.lawful, ?_, ?_⟩
    · simp [Transfer.toReply, Reply.offsets, nothing, storesFrom]
    · simp [isTrue]
  · rename_i notNull
    have covers := (Transfer.Covers.mk allowed.1.lawful allowed.2).toReply
    exact covers.congr fun offset => by simp [notNull]

/-- What every driver call stores, whatever the devices do. -/
theorem DriverCall.program_covers (call : DriverCall) :
    Ensures (fun reply => reply.Covers call.Region) call.program := by
  cases call with
  | dhtRead pin type => exact Dht.read_covers pin type
  | bh1750fviSample dev => exact bh1750fviSample_covers dev
  | mpuSample dev isNull =>
    refine (mpuSample_covers dev isNull).mono fun reply _ covers => ?_
    exact covers.congr fun offset => by simp [DriverCall.Region]
  | i2cAcquire dev =>
    exact Ensures.map (⟨trivial, fun _ _ allowed => lawful_of_ite allowed⟩ :
      Ensures Lawful (Drivers.i2cAcquire dev)) fun _ lawful => Reply.covers_of_result lawful
  | i2cRelease dev =>
    exact Ensures.map (⟨trivial, fun _ _ allowed => lawful_of_ite allowed⟩ :
      Ensures Lawful (Drivers.i2cRelease dev)) fun _ lawful => Reply.covers_of_result lawful
  | i2cWriteBytes dev addr data len flags =>
    exact Ensures.map (i2cWriteBytes_lawful dev addr data len flags) fun _ lawful =>
      Reply.covers_of_result lawful
  | i2cReadBytes dev addr isNull len flags =>
    exact Ensures.map (i2cReadBytes_covers dev addr isNull len flags) fun _ covers => covers.toReply
  | i2cReadRegs dev addr reg isNull len flags =>
    exact Ensures.map (i2cReadRegs_covers dev addr reg isNull len flags) fun _ covers =>
      covers.toReply
  | spiAcquire bus cs mode clk =>
    exact Ensures.map (⟨trivial, fun _ _ allowed => lawful_of_ite allowed⟩ :
      Ensures Lawful (Drivers.spiAcquire bus cs mode clk)) fun _ lawful =>
        Reply.covers_of_result lawful
  | spiRelease bus =>
    exact Ensures.map (⟨trivial, fun _ _ allowed => lawful_of_ite allowed⟩ :
      Ensures Lawful (Drivers.spiRelease bus)) fun _ lawful => Reply.covers_of_result lawful
  | spiTransferBytes bus cs cont out isNull len =>
    exact spiTransferBytes_covers bus cs cont out isNull len
  | at24cxxRead dev addr isNull len => exact at24cxxRead_covers dev addr isNull len
  | at24cxxWrite dev addr data len => exact at24cxxWrite_covers dev addr data len
  | tel0157GetGnssLen dev => exact withBus_covers _ (Tel0157.getGnssLenInternal_covers dev)
  | tel0157GetAllGnss dev len =>
    refine (withBus_covers _ (Tel0157.getAllGnssInternal_covers dev len)).mono
      fun reply _ covers => ?_
    exact covers.congr fun offset => by simp [DriverCall.Region]
  | tel0157GetUtcTime dev => exact Tel0157.getUtcTime_covers dev
  | tel0157GetGnssMode dev => exact withBus_covers _ (Tel0157.readInto_covers dev 34 1)
  | tel0157GetNumSatUsed dev => exact withBus_covers _ (Tel0157.readInto_covers dev 19 1)
  | tel0157GetLon dev | tel0157GetLat dev =>
    exact withBus_covers _ (Tel0157.getCoordinateInternal_covers dev _)
  | tel0157GetAlt dev => exact withBus_covers _ (Tel0157.readInto_covers dev 20 3)
  | tel0157GetSog dev => exact withBus_covers _ (Tel0157.readInto_covers dev 23 3)
  | tel0157GetCog dev => exact withBus_covers _ (Tel0157.readInto_covers dev 26 3)
  | atk301GetFingerprintImage dev => exact Atk301.getFingerprintImage_covers dev
  | atk301UploadFingerprintImage dev =>
    refine (Atk301.uploadFingerprintImage_covers dev).mono fun reply _ covers => ?_
    exact covers.congr fun offset => by simp [DriverCall.Region]

/-- Every answer a driver call may give covers the region of the call. -/
theorem covers_of_deviceAllows {call : DriverCall} (allowed : DeviceAllows call reply) :
    reply.Covers call.Region :=
  call.program_covers.post_of_exec allowed

theorem mpuSample_null_fails {dev : I2cDevice}
    (allowed : DeviceAllows (.mpuSample dev true) reply) :
    reply.res ≠ teeSuccess ∧ reply.out = [] :=
  (mpuSample_null dev).post_of_exec allowed

end TrustWasm.Drivers
