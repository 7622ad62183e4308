import TrustWasm.Drivers.Eeprom
import TrustWasm.Native.Sync

/-!
# Register writes

`i2c_write_regs` is to write its data to the registers of a device from a given one on.  A
device takes the first byte of a write transaction as the number of the register, so the
transaction has to carry the register and then the data.  The function packs the register into
a parameter the command it invokes does not read, and the transaction carries the data alone.
-/

namespace TrustWasm.Native

open TrustWasm.Lib TrustWasm.Tee TrustWasm.Drivers TrustWasm.Pta

/-! ## The board on the controllers -/

/-- The functions of the board on the registers of the I2C controllers. -/
def registerSemantics (input : BitVec 8 → BscInput) : Semantics Board (BitVec 8 → Bsc) where
  guard _ _ := True
  step source op reply target :=
    match op, reply with
    | .bus op, reply => (bscSemantics input).step source op reply target
    | _, _ => target = source

theorem exec_onBoard_iff {α : Type} {input : BitVec 8 → BscInput} {program : Program Bus α}
    {source target : BitVec 8 → Bsc} {result : α} :
    (onBoard program).Exec (registerSemantics input) source result target ↔
      program.Exec (bscSemantics input) source result target :=
  Program.exec_translate_iff fun source op reply target =>
    (Program.exec_perform_iff : (Program.perform (I := Board) (.bus op)).Exec
      (registerSemantics input) source reply target ↔ _)

/-! ## The function -/

/-- The arguments of `i2c_write_regs`. -/
structure RegisterWrite where
  i2cDev : BitVec 32
  addr : BitVec 32
  flags : BitVec 32
  reg : BitVec 32
  srcBufAddr : BitVec 32
  bufLen : BitVec 32
  deriving DecidableEq

namespace RegisterWrite

variable (write : RegisterWrite) (mem : Linear) (session : TeeResult)

/-- `i2c_write_regs_wrapper`. -/
def i2cWriteRegs : Program Board TeeResult :=
  match i2cWriteRegsInvocation mem write.i2cDev write.addr write.flags write.reg write.srcBufAddr
      write.bufLen with
  | .error code => return code
  | .ok inv => ServiceReply.res <$> inv.run session

/-- The bus the service addresses. -/
def bus : BitVec 8 :=
  write.i2cDev.setWidth 8

/-- The buffer, if its pointer means what it says. -/
def source : Range :=
  ⟨clearSignatureAndTag write.srcBufAddr, write.bufLen⟩

def data : List Byte :=
  (List.range write.bufLen.toNat).map fun i =>
    mem.bytes ((clearSignatureAndTag write.srcBufAddr).toNat + i)

/-- Whenever the call succeeds, the controller of its bus has carried out one write: of the
register and then of the data. -/
def ReachesRegister : Prop :=
  ∀ input source target,
    (write.i2cWriteRegs mem session).Exec (registerSemantics input) source teeSuccess target →
    ∃ new, (target write.bus).trace = (source write.bus).trace ++ new ∧
      pushes new = write.reg.setWidth 8 :: write.data mem ∧
      (lengths new).map BitVec.toNat = [write.bufLen.toNat + 1]

/-- The call ends with an error: the buffer is not accepted, there is no session, the bus does
not exist, or the length is zero for the driver. -/
def Refused : Prop :=
  session ≠ teeSuccess ∨ checkPtrSigned write.srcBufAddr = false ∨
    mem.size < (clearSignatureAndTag write.srcBufAddr).toNat + write.bufLen.toNat ∨
    i2cNum ≤ write.i2cDev.toNat % 256 ∨ write.bufLen.toNat % 65536 = 0

variable {write mem session} {input : BitVec 8 → BscInput} {before after : BitVec 8 → Bsc}

/-- The transfer the service makes for the function succeeds. -/
def Transfers (write : RegisterWrite) (content : Option (List Byte))
    (input : BitVec 8 → BscInput) (before after : BitVec 8 → Bsc) : Prop :=
  (bscSemantics input).step before (.i2cWriteBytes write.bus (write.addr.setWidth 16) content
    ((write.bufLen.setWidth 64).setWidth 16) (write.flags.setWidth 8)) teeSuccess after

theorem i2cWriteRegs_of_refusedBuffer {code : TeeResult}
    (refused : bufferArg mem write.srcBufAddr write.bufLen = .error code) :
    write.i2cWriteRegs mem session = return code := by
  unfold i2cWriteRegs i2cWriteRegsInvocation bufferInvocation
  rw [refused]
  rfl

theorem exec_acquire_iff {dev : BitVec 8} {res : TeeResult} :
    (i2cAcquire dev).Exec (bscSemantics input) before res after ↔
      (res = if i2cNum ≤ dev.toNat then teeErrorBadParameters else teeSuccess) ∧
        after = before :=
  Program.exec_perform_iff

theorem exec_release_iff {dev : BitVec 8} {res : TeeResult} :
    (i2cRelease dev).Exec (bscSemantics input) before res after ↔
      (res = if i2cNum ≤ dev.toNat then teeErrorBadParameters else teeSuccess) ∧
        after = before :=
  Program.exec_perform_iff

/-- A command of the I2C service that succeeds has made its transfer on a bus that exists. -/
theorem exec_i2cCommand_iff {types : BitVec 32} {params : ServiceParams}
    {transfer : Program Bus Transfer} {reply : Transfer → ServiceReply} {result : ServiceReply}
    (succeeds : result.res = teeSuccess) :
    (i2cCommand types types params (onBoard transfer) reply).Exec (registerSemantics input) before
        result after ↔
      params.i2c.toNat < i2cNum ∧ ∃ transferred, result = reply transferred ∧
        transfer.Exec (bscSemantics input) before transferred after := by
  unfold i2cCommand
  rw [if_neg (not_not.mpr rfl), Program.exec_bind]
  simp only [exec_onBoard_iff, exec_acquire_iff]
  by_cases absent : i2cNum ≤ params.i2c.toNat
  · simp only [if_pos absent]
    constructor
    · rintro ⟨_, _, ⟨rfl, rfl⟩, run⟩
      rw [if_pos (by decide)] at run
      obtain ⟨rfl, -⟩ := run
      exact absurd succeeds (show teeErrorBadParameters ≠ teeSuccess by decide)
    · rintro ⟨present, -⟩
      omega
  · simp only [if_neg absent]
    constructor
    · rintro ⟨_, _, ⟨rfl, rfl⟩, run⟩
      rw [if_neg (by decide), Program.exec_bind] at run
      obtain ⟨transferred, middle, moved, run⟩ := run
      rw [Program.exec_bind] at run
      obtain ⟨_, _, released, rfl, rfl⟩ := run
      obtain ⟨-, rfl⟩ := exec_release_iff.mp (exec_onBoard_iff.mp released)
      exact ⟨Nat.lt_of_not_le absent, transferred, rfl, exec_onBoard_iff.mp moved⟩
    · rintro ⟨-, transferred, rfl, moved⟩
      refine ⟨teeSuccess, before, ⟨rfl, rfl⟩, ?_⟩
      rw [if_neg (by decide), Program.exec_bind]
      refine ⟨transferred, after, exec_onBoard_iff.mpr moved, ?_⟩
      rw [Program.exec_bind]
      exact ⟨_, after, exec_onBoard_iff.mpr (exec_release_iff.mpr ⟨rfl, rfl⟩), rfl, rfl⟩

theorem bufferArg_fails (mem : Linear) (ptr len : BitVec 32) : Fails (bufferArg mem ptr len) :=
  fails_bind (signedArg_fails ptr) fun _ => validated_fails mem _ len

theorem bufferArg_eq_ok_iff {ptr len : BitVec 32} {range : Range} :
    bufferArg mem ptr len = .ok range ↔ range = ⟨clearSignatureAndTag ptr, len⟩ ∧
      checkPtrSigned ptr = true ∧ (clearSignatureAndTag ptr).toNat + len.toNat ≤ mem.size := by
  unfold bufferArg signedArg Linear.validated
  rw [← mem.validateAppAddr_iff]
  by_cases signed : checkPtrSigned ptr = true
  · by_cases valid : mem.validateAppAddr (clearSignatureAndTag ptr) len = true
    · simp [bind, Except.bind, signed, valid, eq_comm]
    · simp [bind, Except.bind, signed, valid]
  · simp [bind, Except.bind, signed]

theorem program_writeBytes (types : BitVec 32) (params : ServiceParams) :
    Invocation.program ⟨.i2c, 3, types, params⟩ = ptaI2cWriteBytes types params :=
  rfl

/-- A call that succeeds has written the buffer, and nothing else. -/
theorem exec_i2cWriteRegs_iff :
    (write.i2cWriteRegs mem session).Exec (registerSemantics input) before teeSuccess after ↔
      session = teeSuccess ∧ bufferArg mem write.srcBufAddr write.bufLen = .ok write.source ∧
        write.bus.toNat < i2cNum ∧
        write.Transfers (mem.content write.source) input before after := by
  cases checked : bufferArg mem write.srcBufAddr write.bufLen with
  | error code =>
    rw [i2cWriteRegs_of_refusedBuffer checked]
    constructor
    · rintro ⟨rfl, -⟩
      exact absurd rfl (bufferArg_fails mem write.srcBufAddr write.bufLen _ checked)
    · rintro ⟨-, accepted, -⟩
      cases accepted
  | ok range =>
    obtain ⟨rfl, -⟩ := bufferArg_eq_ok_iff.mp checked
    have program : write.i2cWriteRegs mem session = ServiceReply.res <$> Invocation.run
        ⟨.i2c, 3, i2cWriteTypes, ⟨words write.i2cDev write.addr, words write.flags write.reg,
          mem.buffer write.source, unset⟩⟩ session := by
      unfold i2cWriteRegs i2cWriteRegsInvocation bufferInvocation
      rw [checked]
      rfl
    rw [program, Program.exec_map]
    unfold Invocation.run
    by_cases opened : session = teeSuccess
    · rw [if_neg (not_not.mpr opened), program_writeBytes, ptaI2cWriteBytes]
      constructor
      · rintro ⟨reply, run, succeeds⟩
        obtain ⟨present, written, rfl, moved⟩ := (exec_i2cCommand_iff succeeds.symm).mp run
        obtain ⟨res, step, rfl⟩ := Program.exec_map.mp moved
        obtain rfl : teeSuccess = res := succeeds
        exact ⟨opened, rfl, present, Program.exec_perform_iff.mp step⟩
      · rintro ⟨-, -, present, step⟩
        refine ⟨ServiceParams.answer _ teeSuccess, (exec_i2cCommand_iff rfl).mpr
          ⟨present, codeOnly teeSuccess, rfl, ?_⟩, rfl⟩
        exact Program.exec_map.mpr
          ⟨teeSuccess, Program.exec_perform_iff.mpr step, rfl⟩
    · rw [if_pos opened]
      constructor
      · rintro ⟨_, ⟨rfl, -⟩, succeeds⟩
        exact absurd succeeds.symm opened
      · rintro ⟨succeeds, -⟩
        exact absurd succeeds opened

/-- What a write to a 7-bit address has sent when it succeeds. -/
theorem pushes_of_step {dev : BitVec 8} {addr len : BitVec 16} {flags : BitVec 8}
    {bytes : List Byte} (addr7 : flags &&& i2cAddr10 = 0)
    (step : (bscSemantics input).step before (.i2cWriteBytes dev addr (some bytes) len flags)
      teeSuccess after) :
    ∃ new, (after dev).trace = (before dev).trace ++ new ∧ (pushes new).length = len.toNat := by
  obtain ⟨past, rounds, s, ran, rfl⟩ := step
  rw [Option.map_some] at ran
  by_cases rejected : i2cNum ≤ dev.toNat ∨ len = 0 ∨ (len = 0xFFFF ∧ flags &&& i2cAddr10 ≠ 0)
  · rw [Bsc.i2cWriteBytes_rejected _ _ _ _ _ _ _ _ rejected] at ran
    cases ran
  · simp only [not_or, Nat.not_le] at rejected
    rw [Bsc.i2cWriteBytes_addr7 _ _ _ _ _ _ _ _ rejected.1 rejected.2.1 addr7] at ran
    obtain ⟨count, new, -, complete, trace, pushed, -⟩ := Bsc.select_sends ran
    refine ⟨new, by rw [Function.update_self, trace], ?_⟩
    rw [pushed, complete rfl, List.length_map, List.length_range]

/-- Some controller lets a write to a 7-bit address succeed. -/
theorem exists_step {dev : BitVec 8} {len : BitVec 16} {flags : BitVec 8} (addr : BitVec 16)
    (bytes : List Byte) (present : dev.toNat < i2cNum) (nonempty : len ≠ 0)
    (addr7 : flags &&& i2cAddr10 = 0) :
    ∃ input before after, (bscSemantics input).step before
      (.i2cWriteBytes dev addr (some bytes) len flags) teeSuccess after := by
  obtain ⟨input, s, ran⟩ : ∃ input s, Bsc.i2cWriteBytes input 2 dev addr
      (some (memoryFrom (fun _ => 0) bytes)) len flags ⟨0, 0, 0, 0, []⟩ = some (teeSuccess, s) :=
    Bsc.i2cWriteBytes_succeeds present nonempty addr7
  exact ⟨fun _ => input, fun _ => ⟨0, 0, 0, 0, []⟩, _, fun _ => 0, 2, s, ran, rfl⟩

/-- The length and the bus as the driver sees them. -/
theorem cutLength_toNat :
    ((write.bufLen.setWidth 64).setWidth 16).toNat = write.bufLen.toNat % 65536 := by
  rw [BitVec.toNat_setWidth, BitVec.toNat_setWidth_of_le (by decide)]

theorem bus_toNat : write.bus.toNat = write.i2cDev.toNat % 256 :=
  BitVec.toNat_setWidth 8 write.i2cDev

/-- The call is accepted, up to the transfer. -/
structure Accepted (write : RegisterWrite) (mem : Linear) (session : TeeResult) : Prop where
  opened : session = teeSuccess
  signed : checkPtrSigned write.srcBufAddr = true
  inside : (clearSignatureAndTag write.srcBufAddr).toNat + write.bufLen.toNat ≤ mem.size
  present : write.bus.toNat < i2cNum
  nonempty : (write.bufLen.setWidth 64).setWidth 16 ≠ 0

theorem not_refused_iff : ¬write.Refused mem session ↔ write.Accepted mem session := by
  have length : (write.bufLen.setWidth 64).setWidth 16 = 0 ↔ write.bufLen.toNat % 65536 = 0 := by
    rw [← cutLength_toNat]
    exact ⟨fun zero => congrArg BitVec.toNat zero, fun zero => BitVec.eq_of_toNat_eq zero⟩
  simp only [Refused, not_or, not_not, Nat.not_lt, Nat.not_le, Bool.not_eq_false, ← length,
    ← bus_toNat]
  exact ⟨fun ⟨opened, signed, inside, present, nonempty⟩ =>
      ⟨opened, signed, inside, present, nonempty⟩,
    fun ⟨opened, signed, inside, present, nonempty⟩ => ⟨opened, signed, inside, present, nonempty⟩⟩

theorem Accepted.bufferArg_eq (accepted : write.Accepted mem session) :
    bufferArg mem write.srcBufAddr write.bufLen = .ok write.source :=
  bufferArg_eq_ok_iff.mpr ⟨rfl, accepted.signed, accepted.inside⟩

theorem Accepted.content_eq (accepted : write.Accepted mem session) :
    mem.content write.source = some (write.data mem) := by
  have start : write.source.addr.toNat < mem.size := by
    have inside := accepted.inside
    have length : write.bufLen.toNat ≠ 0 := fun zero =>
      accepted.nonempty (BitVec.eq_of_toNat_eq (cutLength_toNat.trans (by rw [zero]; rfl)))
    show (clearSignatureAndTag write.srcBufAddr).toNat < mem.size
    omega
  rw [Linear.content_of_inside start]
  rfl

/-- A call that succeeds is accepted. -/
theorem accepted_of_exec
    (run : (write.i2cWriteRegs mem session).Exec (registerSemantics input) before teeSuccess
      after) : write.Accepted mem session := by
  obtain ⟨opened, checked, present, step⟩ := exec_i2cWriteRegs_iff.mp run
  obtain ⟨-, signed, inside⟩ := bufferArg_eq_ok_iff.mp checked
  refine ⟨opened, signed, inside, present, fun empty => ?_⟩
  have allowed := bscSemantics_allowed step
  simp only [BusAllows] at allowed
  rw [if_pos (.inr (.inl empty))] at allowed
  exact absurd allowed (by decide)

/-- The register is reached by no call but those that end with an error: a call that succeeds
has written as many bytes as the buffer has, or fewer, and the register is not among them. -/
theorem reachesRegister_iff (write : RegisterWrite) (mem : Linear) (session : TeeResult)
    (addr7 : write.flags.setWidth 8 &&& i2cAddr10 = 0) :
    write.ReachesRegister mem session ↔ write.Refused mem session := by
  constructor
  · intro reaches
    by_contra notRefused
    have accepted := not_refused_iff.mp notRefused
    obtain ⟨input, before, after, step⟩ := exists_step (write.addr.setWidth 16) (write.data mem)
      accepted.present accepted.nonempty addr7
    obtain ⟨new, trace, pushed, -⟩ := reaches input before after (exec_i2cWriteRegs_iff.mpr
      ⟨accepted.opened, accepted.bufferArg_eq, accepted.present, accepted.content_eq ▸ step⟩)
    obtain ⟨new', trace', sent⟩ := pushes_of_step addr7 step
    obtain rfl : new = new' := List.append_cancel_left (trace.symm.trans trace')
    have fewer := Nat.mod_le write.bufLen.toNat 65536
    rw [pushed, cutLength_toNat, List.length_cons, data, List.length_map, List.length_range] at sent
    omega
  · intro refused input before after run
    exact absurd refused (not_refused_iff.mpr (accepted_of_exec run))

/-- One byte for register `0x6B` of the device at address `0x68` on bus 0. -/
def wakeUp : RegisterWrite where
  i2cDev := 0
  addr := 0x68
  flags := 0
  reg := 0x6B
  srcBufAddr := signPtr 16 0xE5 0x12
  bufLen := 1

theorem wakeUp_misses : ¬wakeUp.ReachesRegister onePage teeSuccess := by
  intro reaches
  have refused := (reachesRegister_iff wakeUp onePage teeSuccess (by decide)).mp reaches
  rcases refused with closed | unsigned | outside | absent | empty
  · exact closed rfl
  · exact absurd unsigned (by decide)
  · exact absurd outside (by decide)
  · exact absurd absent (by decide)
  · exact absurd empty (by decide)

/-- The transaction of the call carries its byte alone.  The transaction of `i2c_write_reg`
with the same arguments carries the register before it. -/
theorem wakeUp_sends_data_alone :
    (∃ after, (wakeUp.i2cWriteRegs onePage teeSuccess).Exec
        (registerSemantics fun _ => Bsc.ready fun _ => 0) (fun _ => ⟨0, 0, 0, 0, []⟩) teeSuccess
        after ∧ pushes (after 0).trace = [0] ∧ lengths (after 0).trace = [1]) ∧
    ∃ after, (i2cWriteReg 0 0x68 0x6B 0 0).Exec
        (bscSemantics fun _ => Bsc.ready fun _ => 0) (fun _ => ⟨0, 0, 0, 0, []⟩) teeSuccess
        after ∧ pushes (after 0).trace = [0x6B, 0] ∧ lengths (after 0).trace = [2] := by
  refine ⟨⟨_, exec_i2cWriteRegs_iff.mpr
    ⟨rfl, rfl, by decide, fun _ => 0, 1, _, rfl, rfl⟩, rfl, rfl⟩, ?_⟩
  exact ⟨_, Program.exec_perform_iff.mpr ⟨fun _ => 0, 1, _, rfl, rfl⟩, rfl, rfl⟩

end RegisterWrite

end TrustWasm.Native
