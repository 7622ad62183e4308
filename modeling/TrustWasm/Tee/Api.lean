import Mathlib.Data.BitVec

/-!
# TEE result codes and command parameters

Result codes are 32-bit words; the io_helper stores them in a C `int` and
compares that with zero, so every error code counts as negative.  A command
parameter is a 16-byte union: read as a value it is two words, read as a memory
reference it is a pointer and a size, and the two words of the value are the
two halves of the pointer.
-/

namespace TrustWasm.Tee

abbrev Byte := BitVec 8

/-- An address of the secure world; `null` is the null pointer. -/
abbrev Ptr := BitVec 64

def null : Ptr := 0

/-- `TEE_Result`. -/
abbrev TeeResult := BitVec 32

def teeSuccess : TeeResult := 0x00000000
def teeErrorGeneric : TeeResult := 0xFFFF0000
def teeErrorAccessDenied : TeeResult := 0xFFFF0001
def teeErrorAccessConflict : TeeResult := 0xFFFF0003
def teeErrorBadFormat : TeeResult := 0xFFFF0005
def teeErrorBadParameters : TeeResult := 0xFFFF0006
def teeErrorBadState : TeeResult := 0xFFFF0007
def teeErrorItemNotFound : TeeResult := 0xFFFF0008
def teeErrorNotImplemented : TeeResult := 0xFFFF0009
def teeErrorNotSupported : TeeResult := 0xFFFF000A
def teeErrorNoData : TeeResult := 0xFFFF000B
def teeErrorOutOfMemory : TeeResult := 0xFFFF000C
def teeErrorBusy : TeeResult := 0xFFFF000D
def teeErrorShortBuffer : TeeResult := 0xFFFF0010
def teeErrorTimeout : TeeResult := 0xFFFF3001
def teeErrorCorruptObject : TeeResult := 0xF0100001
def teeErrorStorageNotAvailable : TeeResult := 0xF0100003

/-- The word is below zero when it is read as a C `int`. -/
def isNegative (word : BitVec 32) : Bool :=
  word.msb

/-- A code is lawful when it is the success code or reads as a negative number;
every code of the TEE interface is. -/
def Lawful (code : TeeResult) : Prop :=
  code = teeSuccess ∨ isNegative code = true

instance (code : TeeResult) : Decidable (Lawful code) :=
  inferInstanceAs (Decidable (_ ∨ _))

theorem Lawful.isNegative {code : TeeResult} (lawful : Lawful code)
    (failed : code ≠ teeSuccess) : isNegative code = true :=
  lawful.resolve_left failed

/-- `TEE_Param`, the 16-byte union, by its two 8-byte halves. -/
structure TeeParam where
  buffer : BitVec 64
  size : BitVec 64
  deriving DecidableEq

namespace TeeParam

/-- `value.a`, the low half of the pointer. -/
def a (param : TeeParam) : BitVec 32 :=
  param.buffer.extractLsb' 0 32

/-- `value.b`, the high half of the pointer. -/
def b (param : TeeParam) : BitVec 32 :=
  param.buffer.extractLsb' 32 32

/-- A value parameter as `copy_in_param` fills it: the other half is zero. -/
def value (a b : BitVec 32) : TeeParam :=
  ⟨b ++ a, 0⟩

/-- Assignment to `value.a`. -/
def setA (param : TeeParam) (word : BitVec 32) : TeeParam :=
  { param with buffer := param.b ++ word }

/-- Assignment to `value.b`. -/
def setB (param : TeeParam) (word : BitVec 32) : TeeParam :=
  { param with buffer := word ++ param.a }

@[simp]
theorem value_a (first second : BitVec 32) : (value first second).a = first :=
  BitVec.extractLsb'_append_eq_right

@[simp]
theorem value_b (first second : BitVec 32) : (value first second).b = second :=
  BitVec.extractLsb'_append_eq_left

@[simp]
theorem setA_a (param : TeeParam) (word : BitVec 32) : (param.setA word).a = word :=
  value_a word param.b

@[simp]
theorem setB_a (param : TeeParam) (word : BitVec 32) : (param.setB word).a = param.a :=
  value_a param.a word

@[simp]
theorem setB_b (param : TeeParam) (word : BitVec 32) : (param.setB word).b = word :=
  value_b param.a word

end TeeParam

/-- `TEE_Param params[4]`. -/
structure Params where
  p0 : TeeParam
  p1 : TeeParam
  p2 : TeeParam
  p3 : TeeParam
  deriving DecidableEq

/-- The kinds of a parameter, by their codes. -/
def teeParamTypeNone : BitVec 32 := 0
def teeParamTypeValueInput : BitVec 32 := 1
def teeParamTypeValueOutput : BitVec 32 := 2
def teeParamTypeValueInout : BitVec 32 := 3
def teeParamTypeMemrefInput : BitVec 32 := 5
def teeParamTypeMemrefOutput : BitVec 32 := 6

/-- `TEE_PARAM_TYPES`. -/
def teeParamTypes (t0 t1 t2 t3 : BitVec 32) : BitVec 32 :=
  t0 ||| (t1 <<< 4) ||| (t2 <<< 8) ||| (t3 <<< 12)

end TrustWasm.Tee
