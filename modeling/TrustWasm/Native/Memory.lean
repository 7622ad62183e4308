import TrustWasm.Tee.Api
import Mathlib.Data.BitVec

/-!
# Linear memory and signed pointers

A native function gets addresses of the linear memory of the Wasm program.  An
address of a buffer carries a signature in its top 8 bits and a tag in the next 7;
the function checks both, clears them and asks the runtime whether the buffer lies
in the linear memory.  17 bits are left for the address itself.
-/

namespace TrustWasm.Native

open TrustWasm.Tee

/-! ## Linear memory -/

/-- The linear memory of a module instance, at `base` in the memory of the process.
The runtime allocates less than 4 GiB for it. -/
structure Linear where
  bytes : Nat → Byte
  size : Nat
  base : Ptr
  small : size < 2 ^ 32
  based : base ≠ null
  fits : base.toNat + size < 2 ^ 64

/-- `wasm_runtime_validate_app_addr`. -/
def Linear.validateAppAddr (mem : Linear) (appOffset size : BitVec 32) : Bool :=
  if appOffset + size < appOffset then false
  else decide ((appOffset + size).toNat ≤ mem.size)

theorem Linear.validateAppAddr_iff (mem : Linear) (appOffset size : BitVec 32) :
    mem.validateAppAddr appOffset size = true ↔
      appOffset.toNat + size.toNat ≤ mem.size := by
  have small := mem.small
  have offset := appOffset.isLt
  have length := size.isLt
  unfold Linear.validateAppAddr
  split
  · rename_i overflow
    rw [BitVec.lt_def, BitVec.toNat_add] at overflow
    simp only [Bool.false_eq_true, false_iff]
    omega
  · rename_i noOverflow
    rw [BitVec.lt_def, BitVec.toNat_add] at noOverflow
    rw [decide_eq_true_iff, BitVec.toNat_add]
    omega

/-- A part of the linear memory that a wrapper hands out by its native address. -/
structure Range where
  addr : BitVec 32
  len : BitVec 32
  deriving DecidableEq

def Range.Covers (range : Range) (i : Nat) : Prop :=
  range.addr.toNat ≤ i ∧ i < range.addr.toNat + range.len.toNat

/-- `wasm_runtime_addr_app_to_native`: null for an address at the end of the memory,
where an empty buffer may lie. -/
def Linear.addrAppToNative (mem : Linear) (appOffset : BitVec 32) : Ptr :=
  if appOffset.toNat < mem.size then mem.base + appOffset.setWidth 64 else null

/-- The memory reference that stands for a buffer. -/
def Linear.memref (mem : Linear) (range : Range) : TeeParam :=
  ⟨mem.addrAppToNative range.addr, range.len.setWidth 64⟩

theorem Linear.memref_size (mem : Linear) (range : Range) :
    (mem.memref range).size.toNat = range.len.toNat :=
  BitVec.toNat_setWidth_of_le (by decide)

/-- Validate a buffer. -/
def Linear.validated (mem : Linear) (addr len : BitVec 32) : Except TeeResult Range :=
  if mem.validateAppAddr addr len then .ok ⟨addr, len⟩ else .error teeErrorAccessDenied

/-! ## Loads and stores -/

/-- The bytes of a word, low byte first. -/
def wordBytes (word : BitVec 32) : List Byte :=
  [BitVec.ofNat 8 word.toNat, BitVec.ofNat 8 (word.toNat / 2 ^ 8),
    BitVec.ofNat 8 (word.toNat / 2 ^ 16), BitVec.ofNat 8 (word.toNat / 2 ^ 24)]

namespace Linear

variable (mem : Linear) {addr i : Nat} {bytes : List Byte}

/-- The word at an address. -/
def word (addr : Nat) : BitVec 32 :=
  BitVec.ofNat 32 ((mem.bytes addr).toNat + 2 ^ 8 * (mem.bytes (addr + 1)).toNat +
    2 ^ 16 * (mem.bytes (addr + 2)).toNat + 2 ^ 24 * (mem.bytes (addr + 3)).toNat)

/-- Store bytes from an address on, wherever that is. -/
def store (addr : Nat) (bytes : List Byte) : Linear :=
  { mem with
    bytes := fun i => if addr ≤ i then bytes[i - addr]?.getD (mem.bytes i) else mem.bytes i }

theorem store_of_outside (outside : i < addr ∨ addr + bytes.length ≤ i) :
    (mem.store addr bytes).bytes i = mem.bytes i := by
  unfold store
  dsimp only
  split
  · rename_i after
    have beyond : bytes.length ≤ i - addr := by omega
    rw [List.getElem?_eq_none beyond, Option.getD_none]
  · rfl

theorem store_of_inside {byte : Byte} (inside : bytes[i]? = some byte) :
    (mem.store addr bytes).bytes (addr + i) = byte := by
  unfold store
  dsimp only
  rw [if_pos (Nat.le_add_right addr i), Nat.add_sub_cancel_left, inside, Option.getD_some]

/-- A byte that a store has changed is one of those it stores. -/
theorem inside_of_store_ne (changed : (mem.store addr bytes).bytes i ≠ mem.bytes i) :
    addr ≤ i ∧ i < addr + bytes.length := by
  by_contra outside
  exact changed (mem.store_of_outside (by omega))

/-- A word that is stored is read back. -/
theorem word_store (word : BitVec 32) : (mem.store addr (wordBytes word)).word addr = word := by
  have bound := word.isLt
  have first : (mem.store addr (wordBytes word)).bytes (addr + 0) = _ := mem.store_of_inside rfl
  have second : (mem.store addr (wordBytes word)).bytes (addr + 1) = _ := mem.store_of_inside rfl
  have third : (mem.store addr (wordBytes word)).bytes (addr + 2) = _ := mem.store_of_inside rfl
  have fourth : (mem.store addr (wordBytes word)).bytes (addr + 3) = _ := mem.store_of_inside rfl
  rw [Nat.add_zero] at first
  apply BitVec.eq_of_toNat_eq
  rw [Linear.word, first, second, third, fourth]
  simp only [BitVec.toNat_ofNat]
  omega

end Linear

/-! ## Signed pointers -/

/-- `FAT_PTR_ADDRESS_MASK`. -/
def fatPtrAddressMask : BitVec 32 := 0x0001FFFF

/-- `FAT_PTR_SIGNATURE_MASK`. -/
def fatPtrSignatureMask : BitVec 32 := 0xFF000000

/-- `FAT_PTR_TAG_MASK`. -/
def fatPtrTagMask : BitVec 32 := 0x00FE0000

/-- `global_signature[0]`, the signature. -/
def globalSignature : BitVec 8 := 0xE5

/-- `global_signature[1]`, the tag. -/
def globalTag : BitVec 8 := 0x12

def getSignature (fatPtr : BitVec 32) : BitVec 8 :=
  ((fatPtr &&& fatPtrSignatureMask) >>> 24).setWidth 8

def getTag (fatPtr : BitVec 32) : BitVec 8 :=
  ((fatPtr &&& fatPtrTagMask) >>> 17).setWidth 8

def clearSignatureAndTag (fatPtr : BitVec 32) : BitVec 32 :=
  fatPtr &&& fatPtrAddressMask

def checkPtrSigned (originalBuf : BitVec 32) : Bool :=
  let signature := getSignature originalBuf
  let tag := getTag originalBuf
  if signature ≠ globalSignature ∨ tag ≠ globalTag then false else true

/-- `sign_ptr_wrapper`. -/
def signPtr (originalPtr signature tag : BitVec 32) : BitVec 32 :=
  originalPtr &&& fatPtrAddressMask ||| ((signature &&& 0xFF) <<< 24 ||| (tag &&& 0x7F) <<< 17)

/-- A pointer argument: checked and cleared. -/
def signedArg (ptr : BitVec 32) : Except TeeResult (BitVec 32) :=
  if checkPtrSigned ptr then .ok (clearSignatureAndTag ptr) else .error teeErrorAccessDenied

/-- A pointer argument that may be 0. -/
def optionalPtr (ptr : BitVec 32) : Except TeeResult (BitVec 32) :=
  if ptr ≠ 0 then signedArg ptr else .ok ptr

/-- A buffer argument: its pointer is checked and cleared, and the buffer is
validated. -/
def bufferArg (mem : Linear) (ptr len : BitVec 32) : Except TeeResult Range := do
  let addr ← signedArg ptr
  mem.validated addr len

/-- A pointer is accepted when its fields are the global ones. -/
theorem checkPtrSigned_iff (ptr : BitVec 32) :
    checkPtrSigned ptr = true ↔ getSignature ptr = globalSignature ∧ getTag ptr = globalTag := by
  unfold checkPtrSigned
  dsimp only
  split
  · rename_i bad
    simp only [Bool.false_eq_true, false_iff, not_and_or]
    exact bad
  · rename_i good
    simp only [not_or, not_not] at good
    simp [good]

/-! ## Signing and clearing -/

/-- `sign_ptr` with the global signature and tag. -/
theorem signPtr_global (ptr : BitVec 32) :
    signPtr ptr 0xE5 0x12 = ptr &&& fatPtrAddressMask ||| 0xE5240000 :=
  rfl

/-- A mask takes its bits from the address and from the fields. -/
theorem masked (ptr address fields mask : BitVec 32) :
    (ptr &&& address ||| fields) &&& mask = ptr &&& (address &&& mask) ||| fields &&& mask := by
  ext i
  simp only [BitVec.getElem_and, BitVec.getElem_or, Bool.and_or_distrib_right, Bool.and_assoc]

theorem getSignature_signPtr (ptr : BitVec 32) :
    getSignature (signPtr ptr 0xE5 0x12) = globalSignature := by
  have disjoint : fatPtrAddressMask &&& fatPtrSignatureMask = 0#32 := rfl
  rw [getSignature, signPtr_global, masked, disjoint, BitVec.and_zero, BitVec.zero_or]
  rfl

theorem getTag_signPtr (ptr : BitVec 32) : getTag (signPtr ptr 0xE5 0x12) = globalTag := by
  have disjoint : fatPtrAddressMask &&& fatPtrTagMask = 0#32 := rfl
  rw [getTag, signPtr_global, masked, disjoint, BitVec.and_zero, BitVec.zero_or]
  rfl

/-- Signing and clearing keeps the low 17 bits of the address. -/
theorem clearSignatureAndTag_signPtr (ptr : BitVec 32) :
    (clearSignatureAndTag (signPtr ptr 0xE5 0x12)).toNat = ptr.toNat % 2 ^ 17 := by
  have disjoint : (0xE5240000 : BitVec 32) &&& fatPtrAddressMask = 0#32 := rfl
  rw [clearSignatureAndTag, signPtr_global, masked, disjoint, BitVec.or_zero, BitVec.and_self,
    BitVec.toNat_and]
  exact Nat.and_two_pow_sub_one_eq_mod ptr.toNat 17

theorem checkPtrSigned_signPtr (ptr : BitVec 32) :
    checkPtrSigned (signPtr ptr 0xE5 0x12) = true :=
  (checkPtrSigned_iff _).mpr ⟨getSignature_signPtr ptr, getTag_signPtr ptr⟩

/-- A memory of one page. -/
def onePage : Linear where
  bytes _ := 0
  size := 65536
  base := 0x40000000
  small := by decide
  based := by decide
  fits := by decide

end TrustWasm.Native
