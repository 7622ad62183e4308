import TrustWasm.Drivers.Footprint

/-!
# Which driver calls can succeed

A driver call succeeds under some behaviour of the devices exactly when the
argument checks of the bus functions it goes through let it pass.  `Attains` is
the counterpart of `Ensures`: some behaviour of the devices leads to an answer
of the given kind.
-/

namespace TrustWasm.Drivers

open TrustWasm.Lib TrustWasm.Tee

variable {α β : Type}

/-- Under some behaviour of the devices the program returns a value of the kind
`post`. -/
def Attains (post : α → Prop) (program : Program Bus α) : Prop :=
  ∃ value, program.Exec busSemantics () value () ∧ post value

namespace Attains

theorem pure {post : α → Prop} {value : α} (holds : post value) :
    Attains post (Program.pure value : Program Bus α) :=
  ⟨value, ⟨rfl, rfl⟩, holds⟩

theorem bind {middle : α → Prop} {post : β → Prop} {program : Program Bus α}
    {rest : α → Program Bus β} (first : Attains middle program)
    (second : ∀ value, middle value → Attains post (rest value)) :
    Attains post (program >>= rest) := by
  obtain ⟨value, run, holds⟩ := first
  obtain ⟨result, tail, reached⟩ := second value holds
  exact ⟨result, Program.exec_bind.mpr ⟨value, (), run, tail⟩, reached⟩

theorem perform {post : α → Prop} {op : BusOp} {rest : Bus.Reply op → Program Bus α}
    (reply : Bus.Reply op) (allowed : BusAllows op reply) (second : Attains post (rest reply)) :
    Attains post (Program.perform (I := Bus) op >>= rest) := by
  obtain ⟨result, tail, reached⟩ := second
  exact ⟨result, ⟨reply, (), allowed, tail⟩, reached⟩

theorem map {middle : α → Prop} {post : β → Prop} {program : Program Bus α} {f : α → β}
    (first : Attains middle program) (second : ∀ value, middle value → post (f value)) :
    Attains post (f <$> program) := by
  rw [map_eq_pure_bind]
  exact first.bind fun value holds => pure (second value holds)

/-- Past a check of a code that reports success. -/
theorem succeed {post : α → Prop} {res : TeeResult} {failed rest : Program Bus α}
    (succeeded : res = teeSuccess) (second : Attains post rest) :
    Attains post (if res ≠ teeSuccess then failed else rest) := by
  rw [if_neg (not_not_intro succeeded)]
  exact second

/-- What every behaviour of the devices avoids is not attained. -/
theorem not_of_ensures {post : α → Prop} {program : Program Bus α}
    (ensures : Ensures (fun value => ¬post value) program) : ¬Attains post program := by
  rintro ⟨value, run, holds⟩
  exact Program.Obeys.post_of_exec ensures run holds

end Attains

/-! ## Bus functions -/

/-- The transfer ended with success. -/
def Transfer.Succeeded (transfer : Transfer) : Prop :=
  transfer.res = teeSuccess

/-- The call ended with success. -/
def Reply.Succeeded (reply : Reply) : Prop :=
  reply.res = teeSuccess

variable {len : BitVec 16}

section Bus

variable {dev : BitVec 8} (valid : dev.toNat < i2cNum) (addr : BitVec 16) (flags : BitVec 8)

include valid

theorem i2cAcquire_allowed : BusAllows (.i2cAcquire dev) teeSuccess :=
  (if_neg (Nat.not_le.mpr valid)).symm

theorem i2cRelease_allowed : BusAllows (.i2cRelease dev) teeSuccess :=
  (if_neg (Nat.not_le.mpr valid)).symm

theorem i2cReadBytes_allowed (nonempty : len ≠ 0) :
    BusAllows (.i2cReadBytes dev addr false len flags)
      (⟨teeSuccess, List.replicate len.toNat 0⟩ : Transfer) := by
  have accepted : ¬(i2cNum ≤ dev.toNat ∨ len = 0 ∨ false = true) := by
    rintro (invalid | empty | null)
    · exact Nat.not_le.mpr valid invalid
    · exact nonempty empty
    · cases null
  change if _ then _ else _
  rw [if_neg accepted]
  exact ⟨.inl rfl, by simp, fun _ => by simp⟩

theorem i2cWriteBytes_allowed (data : List Byte) (nonempty : len ≠ 0) (short : len ≠ 0xFFFF) :
    BusAllows (.i2cWriteBytes dev addr (some data) len flags) teeSuccess := by
  have accepted : ¬(i2cNum ≤ dev.toNat ∨ len = 0 ∨ some data = none ∨
      (len = 0xFFFF ∧ flags &&& i2cAddr10 ≠ 0)) := by
    rintro (invalid | empty | ⟨⟨⟩⟩ | long)
    · exact Nat.not_le.mpr valid invalid
    · exact nonempty empty
    · exact short long.1
  change if _ then _ else _
  rw [if_neg accepted]
  exact .inl rfl

theorem i2cReadBytes_succeeds (nonempty : len ≠ 0) :
    Attains Transfer.Succeeded (i2cReadBytes dev addr false len flags) :=
  ⟨_, ⟨_, (), i2cReadBytes_allowed valid addr flags nonempty, rfl, rfl⟩, rfl⟩

theorem i2cReadRegsFrom_succeeds (reg : BitVec 16) (count i : Nat) :
    Attains Transfer.Succeeded (i2cReadRegsFrom dev addr reg false count i flags) := by
  induction count generalizing i flags with
  | zero => exact .pure rfl
  | succ count ih =>
    refine .perform teeSuccess (i2cWriteBytes_allowed valid _ _ _ (by decide) (by decide)) ?_
    refine .perform _ (i2cReadBytes_allowed valid _ _ (by decide)) ?_
    exact (ih _ _).bind fun rest succeeded => .pure succeeded

theorem i2cReadRegs_succeeds {flags : BitVec 8} (supported : flags &&& i2cReg16 = 0)
    (reg len : BitVec 16) :
    Attains Transfer.Succeeded (i2cReadRegs dev addr reg false len flags) := by
  unfold i2cReadRegs
  rw [if_neg (not_not_intro supported)]
  exact i2cReadRegsFrom_succeeds valid addr flags reg _ _

/-- A body that can succeed can do so between acquire and release. -/
theorem withBus_succeeds {body : Program Bus Reply} (succeeds : Attains Reply.Succeeded body) :
    Attains Reply.Succeeded (withBus dev body) := by
  refine .perform teeSuccess (i2cAcquire_allowed valid) ?_
  refine succeeds.bind fun reply succeeded => ?_
  exact .perform teeSuccess (i2cRelease_allowed valid) (.pure succeeded)

end Bus

/-! ## Drivers -/

section Devices

variable {dev : I2cDevice} (valid : dev.i2c.toNat < i2cNum)

include valid

theorem at24cxxRead_succeeds (addr : BitVec 16) {len : BitVec 32}
    (nonempty : len.setWidth 16 ≠ (0 : BitVec 16)) :
    Attains Reply.Succeeded (at24cxxRead dev addr false len) := by
  refine .perform teeSuccess (i2cAcquire_allowed valid) ?_
  refine .perform teeSuccess (i2cWriteBytes_allowed valid _ _ _ (by decide) (by decide)) ?_
  refine .perform _ (i2cReadBytes_allowed valid _ _ nonempty) ?_
  exact .perform teeSuccess (i2cRelease_allowed valid) (.pure rfl)

namespace Tel0157

theorem getUtcTime_succeeds : Attains Reply.Succeeded (getUtcTime dev) := by
  refine withBus_succeeds valid ?_
  have date : Attains Reply.Succeeded (getDateInternal dev) := by
    refine (i2cReadRegs_succeeds valid _ (by decide) _ _).bind fun date succeeded => ?_
    refine .succeed succeeded ?_
    exact .pure succeeded
  have utc : Attains Reply.Succeeded (getUtcInternal dev) := by
    refine (i2cReadRegs_succeeds valid _ (by decide) _ _).bind fun utc succeeded => ?_
    refine .succeed succeeded ?_
    exact .pure succeeded
  refine date.bind fun date succeeded => ?_
  refine .succeed succeeded ?_
  exact utc.bind fun utc succeeded => .pure succeeded

theorem getCoordinate_succeeds (field : Coordinate) :
    Attains Reply.Succeeded (withBus dev.i2c (getCoordinateInternal dev field)) := by
  refine withBus_succeeds valid ?_
  refine (i2cReadRegs_succeeds valid _ (by decide) _ _).bind fun read succeeded => ?_
  refine .succeed succeeded ?_
  refine (i2cReadRegs_succeeds valid _ (by decide) _ _).bind fun direction succeeded => ?_
  dsimp only
  refine .succeed succeeded ?_
  exact .pure succeeded

theorem getAllGnssFrom_succeeds {len : Nat} (blocks count i : Nat) :
    Attains Reply.Succeeded (getAllGnssFrom dev len blocks count i) := by
  induction count generalizing i with
  | zero => exact .pure rfl
  | succ count ih =>
    have nonempty : BitVec.ofNat 16 (blockSize len blocks i) ≠ 0 := by
      have bound := blockSize_le len blocks i
      have positive : 0 < blockSize len blocks i := by
        unfold blockSize
        split
        · omega
        · omega
      intro empty
      have zero := congrArg BitVec.toNat empty
      simp only [BitVec.toNat_ofNat, BitVec.ofNat_eq_ofNat] at zero
      omega
    have block : Attains Transfer.Succeeded
        (getAllDataInternal dev (BitVec.ofNat 16 (blockSize len blocks i))) := by
      refine .perform teeSuccess (i2cWriteBytes_allowed valid _ _ _ (by decide) (by decide)) ?_
      exact i2cReadBytes_succeeds valid _ _ nonempty
    refine block.bind fun block succeeded => ?_
    refine .succeed succeeded ?_
    exact (ih (i + 1)).bind fun rest succeeded => .pure succeeded

theorem getAllGnss_succeeds (nonempty : len ≠ 0) (short : len.toNat ≤ 1224) :
    Attains Reply.Succeeded (getAllGnss dev len) := by
  refine withBus_succeeds valid ?_
  have accepted : ¬(1024 + 200 < len.toNat ∨ len = 0) := by
    rintro (long | empty)
    · omega
    · exact nonempty empty
  unfold getAllGnssInternal
  rw [if_neg accepted]
  exact getAllGnssFrom_succeeds valid _ _ _

end Tel0157

end Devices

/-! ## Calls that cannot succeed -/

/-- Without a bus nothing succeeds. -/
theorem withBus_fails {dev : BitVec 8} (invalid : i2cNum ≤ dev.toNat) (body : Program Bus Reply) :
    Ensures (fun reply => ¬reply.Succeeded) (withBus dev body) := by
  refine .perform_bind fun res acquired => ?_
  have failed : res = teeErrorBadParameters := acquired.trans (if_pos invalid)
  subst failed
  exact show teeErrorBadParameters ≠ teeSuccess by decide

theorem i2cReadBytes_empty_fails (dev : BitVec 8) (addr : BitVec 16) (flags : BitVec 8) :
    Ensures (fun transfer => ¬transfer.Succeeded) (i2cReadBytes dev addr false 0 flags) := by
  refine ⟨trivial, fun transfer _ allowed => ?_⟩
  change if _ then _ else _ at allowed
  rw [if_pos (.inr (.inl rfl))] at allowed
  subst allowed
  exact show teeErrorBadParameters ≠ teeSuccess by decide

theorem i2cReadRegs_unsupported_fails {flags : BitVec 8} (unsupported : flags &&& i2cReg16 ≠ 0)
    (dev : BitVec 8) (addr reg len : BitVec 16) (isNull : Bool) :
    Ensures (fun transfer => ¬transfer.Succeeded)
      (i2cReadRegs dev addr reg isNull len flags) := by
  unfold i2cReadRegs
  rw [if_pos unsupported]
  exact show teeErrorNotImplemented ≠ teeSuccess by decide

theorem at24cxxRead_fails {dev : I2cDevice} {len : BitVec 32}
    (refused : i2cNum ≤ dev.i2c.toNat ∨ len.setWidth 16 = (0 : BitVec 16)) (addr : BitVec 16) :
    Ensures (fun reply => ¬reply.Succeeded) (at24cxxRead dev addr false len) := by
  refine .perform_bind fun _ _ => ?_
  refine .perform_bind fun res allowed => ?_
  split
  · rename_i failed
    exact .perform_bind fun _ _ => failed
  · refine .perform_bind fun read allowed => ?_
    change if _ then _ else _ at allowed
    rw [if_pos (by rcases refused with invalid | empty; exacts [.inl invalid, .inr (.inl empty)])]
      at allowed
    subst allowed
    exact .perform_bind fun _ _ => show teeErrorBadParameters ≠ teeSuccess by decide

theorem Tel0157.getAllGnss_fails (refused : 1224 < len.toNat ∨ len = 0) (dev : I2cDevice) :
    Ensures (fun reply => ¬reply.Succeeded) (getAllGnss dev len) := by
  refine .perform_bind fun res acquired => ?_
  split
  · rename_i failed
    exact failed
  · unfold getAllGnssInternal
    rw [if_pos refused]
    exact .perform_bind fun _ _ => show teeErrorBadParameters ≠ teeSuccess by decide

/-! ## Calls -/

/-- The call succeeds under some behaviour of the devices. -/
def DriverCall.CanSucceed (call : DriverCall) : Prop :=
  Attains Reply.Succeeded call.program

section Calls

variable (dev : I2cDevice) (bus flags : BitVec 8) (addr reg : BitVec 16)

theorem canSucceed_i2cReadBytes (valid : bus.toNat < i2cNum) :
    (DriverCall.i2cReadBytes bus addr false len flags).CanSucceed ↔ len ≠ 0 := by
  constructor
  · rintro succeeds rfl
    refine Attains.not_of_ensures ?_ succeeds
    exact (i2cReadBytes_empty_fails bus addr flags).map fun _ failed => failed
  · intro nonempty
    exact (i2cReadBytes_succeeds valid addr flags nonempty).map fun _ succeeded => succeeded

theorem canSucceed_i2cReadRegs (valid : bus.toNat < i2cNum) :
    (DriverCall.i2cReadRegs bus addr reg false len flags).CanSucceed ↔ flags &&& i2cReg16 = 0 := by
  constructor
  · intro succeeds
    by_contra unsupported
    refine Attains.not_of_ensures ?_ succeeds
    exact (i2cReadRegs_unsupported_fails unsupported bus addr reg len false).map
      fun _ failed => failed
  · intro supported
    exact (i2cReadRegs_succeeds valid addr supported reg len).map fun _ succeeded => succeeded

theorem canSucceed_at24cxxRead {len : BitVec 32} :
    (DriverCall.at24cxxRead dev addr false len).CanSucceed ↔
      dev.i2c.toNat < i2cNum ∧ len.setWidth 16 ≠ (0 : BitVec 16) := by
  constructor
  · intro succeeds
    by_contra refused
    refine Attains.not_of_ensures (at24cxxRead_fails ?_ addr) succeeds
    by_cases invalid : i2cNum ≤ dev.i2c.toNat
    · exact .inl invalid
    · exact .inr (by_contra fun nonempty => refused ⟨Nat.not_le.mp invalid, nonempty⟩)
  · rintro ⟨valid, nonempty⟩
    exact at24cxxRead_succeeds valid addr nonempty

theorem canSucceed_tel0157GetAllGnss :
    (DriverCall.tel0157GetAllGnss dev len).CanSucceed ↔
      dev.i2c.toNat < i2cNum ∧ len ≠ 0 ∧ len.toNat ≤ 1224 := by
  constructor
  · intro succeeds
    refine ⟨?_, ?_, ?_⟩
    · by_contra invalid
      exact Attains.not_of_ensures (withBus_fails (Nat.not_lt.mp invalid) _) succeeds
    · intro empty
      exact Attains.not_of_ensures (Tel0157.getAllGnss_fails (.inr empty) dev) succeeds
    · by_contra long
      exact Attains.not_of_ensures
        (Tel0157.getAllGnss_fails (.inl (Nat.not_le.mp long)) dev) succeeds
  · rintro ⟨valid, nonempty, short⟩
    exact Tel0157.getAllGnss_succeeds valid nonempty short

/-- A call that only needs its bus. -/
theorem canSucceed_withBus {call : DriverCall} {body : Program Bus Reply}
    (runs : call.program = withBus bus body)
    (succeeds : bus.toNat < i2cNum → Attains Reply.Succeeded (withBus bus body)) :
    call.CanSucceed ↔ bus.toNat < i2cNum := by
  unfold DriverCall.CanSucceed
  rw [runs]
  constructor
  · intro attained
    by_contra invalid
    exact Attains.not_of_ensures (withBus_fails (Nat.not_lt.mp invalid) body) attained
  · exact succeeds

theorem canSucceed_tel0157GetUtcTime :
    (DriverCall.tel0157GetUtcTime dev).CanSucceed ↔ dev.i2c.toNat < i2cNum :=
  canSucceed_withBus dev.i2c rfl fun valid => Tel0157.getUtcTime_succeeds valid

theorem canSucceed_tel0157GetLon :
    (DriverCall.tel0157GetLon dev).CanSucceed ↔ dev.i2c.toNat < i2cNum :=
  canSucceed_withBus dev.i2c rfl fun valid => Tel0157.getCoordinate_succeeds valid _

theorem canSucceed_tel0157GetLat :
    (DriverCall.tel0157GetLat dev).CanSucceed ↔ dev.i2c.toNat < i2cNum :=
  canSucceed_withBus dev.i2c rfl fun valid => Tel0157.getCoordinate_succeeds valid _

end Calls

/-! ## Some answer -/

theorem busAllows_total (op : BusOp) : ∃ reply, BusAllows op reply := by
  cases op with
  | i2cAcquire | i2cRelease | spiAcquire | spiRelease => exact ⟨_, rfl⟩
  | i2cReadBytes dev addr isNull len flags =>
    by_cases refused : i2cNum ≤ dev.toNat ∨ len = 0 ∨ isNull = true
    · refine ⟨(⟨teeErrorBadParameters, []⟩ : Transfer), ?_⟩
      rw [BusAllows, if_pos refused]
    · refine ⟨(⟨teeErrorNoData, []⟩ : Transfer), ?_⟩
      rw [BusAllows, if_neg refused]
      exact ⟨.inr (.inl rfl), Nat.zero_le _, fun same => absurd same (by decide)⟩
  | i2cWriteBytes dev addr data len flags =>
    by_cases refused : i2cNum ≤ dev.toNat ∨ len = 0 ∨ data = none ∨
        (len = 0xFFFF ∧ flags &&& i2cAddr10 ≠ 0)
    · refine ⟨teeErrorBadParameters, ?_⟩
      rw [BusAllows, if_pos refused]
    · refine ⟨teeSuccess, ?_⟩
      rw [BusAllows, if_neg refused]
      exact .inl rfl
  | i2cWriteWithPrefix dev addr head data len flags =>
    by_cases refused : i2cNum ≤ dev.toNat ∨ len = 0 ∨ data = none ∨
        (len = 0xFFFF ∧ flags &&& i2cAddr10 ≠ 0)
    · refine ⟨teeErrorBadParameters, ?_⟩
      rw [BusAllows, if_pos refused]
    · by_cases wide : flags &&& i2cAddr10 ≠ 0
      · refine ⟨teeErrorNotImplemented, ?_⟩
        rw [BusAllows, if_neg refused, if_pos wide]
      · refine ⟨teeSuccess, ?_⟩
        rw [BusAllows, if_neg refused, if_neg wide]
        exact .inl rfl
  | spiTransferBytes bus cs cont out isNull len =>
    by_cases writes : isNull = true
    · refine ⟨(⟨teeSuccess, []⟩ : Transfer), ?_⟩
      rw [BusAllows, if_pos writes]
      exact ⟨rfl, .inl rfl, fun _ => rfl⟩
    · refine ⟨(⟨teeErrorTimeout, []⟩ : Transfer), ?_⟩
      rw [BusAllows, if_neg writes]
      exact ⟨.inr rfl, Nat.zero_le _, fun same => absurd same (by decide)⟩
  | gpioInit pin mode => exact ⟨(), trivial⟩
  | gpioSet pin level => exact ⟨(), trivial⟩
  | gpioGet pin =>
    by_cases outside : rpi3MaxPinNum < pin.toNat
    · exact ⟨(-1 : Int), (if_pos outside).mpr rfl⟩
    · exact ⟨(0 : Int), (if_neg outside).mpr (.inl rfl)⟩

/-- Every driver call returns under some behaviour of the devices. -/
theorem exists_deviceAllows (call : DriverCall) : ∃ reply, DeviceAllows call reply := by
  obtain ⟨reply, _, run⟩ := call.program.uses_all.exists_exec
    (S := busSemantics) (fun _ op _ => (busAllows_total op).imp fun _ allowed => ⟨(), allowed⟩) ()
  exact ⟨reply, run⟩

end TrustWasm.Drivers
