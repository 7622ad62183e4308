import TrustWasm.Native.Async
import TrustWasm.Pta.Services

/-!
# Synchronous native functions

A synchronous function checks its pointers, packs its arguments into the parameters of a
service and waits for the answer.  None of them tests the number of a bus or of a pin; the
service cuts it to the width of its own type.  `i2c_write_regs` packs a register that its
service never reads.
-/

namespace TrustWasm.Native

open TrustWasm.Lib TrustWasm.Tee TrustWasm.Drivers TrustWasm.Pta

/-! ## Invocations -/

inductive Service where
  | i2c
  | spi
  | dht
  | bh1750fvi
  | mpu6050
  | tel0157
  | at24cxx
  | atk301
  deriving DecidableEq

/-- The arguments of `TEE_InvokeTACommand`. -/
structure Invocation where
  service : Service
  cmd : BitVec 32
  paramTypes : BitVec 32
  params : ServiceParams

/-- The command a service runs.  The DHT service is asked for nothing but a reading. -/
def Invocation.program (inv : Invocation) : Program Board ServiceReply :=
  match inv.service with
  | .i2c => i2cService inv.paramTypes inv.params inv.cmd
  | .spi => spiService inv.paramTypes inv.params inv.cmd
  | .dht => ptaDhtRead inv.paramTypes inv.params
  | .bh1750fvi => bh1750fviService inv.paramTypes inv.params inv.cmd
  | .mpu6050 => mpu6050Service inv.paramTypes inv.params inv.cmd
  | .tel0157 => tel0157Service inv.paramTypes inv.params inv.cmd
  | .at24cxx => at24cxxService inv.paramTypes inv.params inv.cmd
  | .atk301 => atk301Service inv.paramTypes inv.params inv.cmd

/-- `session` is the answer of `TEE_OpenTASession`, which is asked while there is no session
with the service. -/
def Invocation.run (inv : Invocation) (session : TeeResult) : Program Board ServiceReply :=
  if session ≠ teeSuccess then return inv.params.answer session else inv.program

/-! ## Parameters -/

/-- The bytes of a range, or `none` when its native address is null. -/
def Linear.content (mem : Linear) (range : Range) : Option (List Byte) :=
  if mem.addrAppToNative range.addr = null then none
  else some ((List.range range.len.toNat).map fun i => mem.bytes (range.addr.toNat + i))

theorem Linear.addrAppToNative_ne_null {mem : Linear} {addr : BitVec 32}
    (inside : addr.toNat < mem.size) : mem.addrAppToNative addr ≠ null := by
  unfold Linear.addrAppToNative
  rw [if_pos inside]
  intro isNull
  have fits := mem.fits
  have zero : (mem.base + addr.setWidth 64).toNat = 0 := congrArg BitVec.toNat isNull
  rw [BitVec.toNat_add, BitVec.toNat_setWidth_of_le (by decide), Nat.mod_eq_of_lt (by omega)]
    at zero
  exact mem.based (BitVec.eq_of_toNat_eq (by show mem.base.toNat = 0; omega))

theorem Linear.content_of_inside {mem : Linear} {range : Range}
    (inside : range.addr.toNat < mem.size) :
    mem.content range =
      some ((List.range range.len.toNat).map fun i => mem.bytes (range.addr.toNat + i)) :=
  if_neg (mem.addrAppToNative_ne_null inside)

/-- A parameter nothing is assigned to. -/
def unset : ServiceParam :=
  ⟨0, 0, none, 0⟩

def words (a b : BitVec 32) : ServiceParam :=
  ⟨a, b, none, 0⟩

def Linear.buffer (mem : Linear) (range : Range) : ServiceParam :=
  ⟨0, 0, mem.content range, range.len.setWidth 64⟩

/-! ## Writing registers -/

/-- A command of three parameters with a buffer in the last. -/
def bufferInvocation (mem : Linear) (service : Service) (cmd types : BitVec 32)
    (p0 p1 : ServiceParam) (buf len : BitVec 32) : Except TeeResult Invocation := do
  let range ← bufferArg mem buf len
  return ⟨service, cmd, types, ⟨p0, p1, mem.buffer range, unset⟩⟩

/-- `i2c_write_regs` asks for a write of bytes. -/
def i2cWriteRegsInvocation (mem : Linear) (i2cDev addr flags reg srcBufAddr bufLen : BitVec 32) :
    Except TeeResult Invocation :=
  bufferInvocation mem .i2c 3 i2cWriteTypes (words i2cDev addr) (words flags reg) srcBufAddr bufLen

end TrustWasm.Native
