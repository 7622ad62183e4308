import TrustWasm.Native.Memory

/-!
# Reading a secure object

`read_secure_object` opens an object of the secure storage, reads it into a temporary
buffer and copies the buffer into the linear memory.  The length of the destination is
read from a cell of four bytes, and the same cell takes the number of bytes read.  The
API takes that number by a `size_t *`, so it loads and stores eight bytes there.

A sandbox is the linear memory with a record of every access to it, the number of object
handles the call holds open and the number of buffers it has allocated.
-/

namespace TrustWasm.Native

open TrustWasm.Tee

/-! ## The sandbox -/

/-- Bytes that are accessed together.  They need not be in the linear memory. -/
structure Span where
  addr : Nat
  len : Nat
  deriving DecidableEq

def Span.Covers (span : Span) (i : Nat) : Prop :=
  span.addr ≤ i ∧ i < span.addr + span.len

structure Sandbox where
  mem : Linear
  accessed : List Span
  objects : Nat
  buffers : Nat

def Sandbox.start (mem : Linear) : Sandbox :=
  ⟨mem, [], 0, 0⟩

/-- What the allocator and the storage answer to a call: whether there is a buffer and
what is in it at first, the content of the object, and the result of each operation. -/
structure Answers where
  allocates : Bool
  junk : Nat → Byte
  openRes : TeeResult
  infoRes : TeeResult
  readRes : TeeResult
  content : List Byte
  sized : content.length < 2 ^ 64

/-- How a call ended: it returned, or the API stopped the TA. -/
inductive Ended where
  | returned (code : TeeResult)
  | panicked
  deriving DecidableEq

namespace Sandbox

def touch (s : Sandbox) (addr len : Nat) : Sandbox :=
  { s with accessed := ⟨addr, len⟩ :: s.accessed }

@[simp]
theorem start_mem (mem : Linear) : (start mem).mem = mem :=
  rfl

@[simp]
theorem touch_mem (s : Sandbox) (addr len : Nat) : (s.touch addr len).mem = s.mem :=
  rfl

def storeBytes (s : Sandbox) (addr : Nat) (bytes : List Byte) : Sandbox :=
  { s.touch addr bytes.length with mem := s.mem.store addr bytes }

def free (s : Sandbox) : Sandbox :=
  { s with buffers := s.buffers - 1 }

/-- `TEE_Panic`: the TA ends, and all it holds with it. -/
def teePanic (s : Sandbox) : Ended × Sandbox :=
  (.panicked, { s with objects := 0, buffers := 0 })

/-- `TEE_CloseObject` panics for a handle that is not open; then `TEE_Free`. -/
def closeAndFree (s : Sandbox) (res : TeeResult) : Ended × Sandbox :=
  if s.objects = 0 then s.teePanic
  else (.returned res, { s with objects := s.objects - 1 }.free)

end Sandbox

/-! ## The storage API -/

/-- The results with which `TEE_OpenPersistentObject` returns. -/
def openReturns (res : TeeResult) : Bool :=
  res = teeSuccess ∨ res = teeErrorItemNotFound ∨ res = teeErrorAccessConflict ∨
    res = teeErrorOutOfMemory ∨ res = teeErrorCorruptObject ∨ res = teeErrorStorageNotAvailable

/-- The results with which `TEE_GetObjectInfo1` and `TEE_ReadObjectData` return. -/
def dataReturns (res : TeeResult) : Bool :=
  res = teeSuccess ∨ res = teeErrorCorruptObject ∨ res = teeErrorStorageNotAvailable

/-- The bytes of a `size_t`, low byte first. -/
def sizeBytes (size : Nat) : List Byte :=
  (List.range 8).map fun k => BitVec.ofNat 8 (size / 2 ^ (8 * k))

/-- `TEE_ReadObjectData` up to its return: it loads `*count`, reads, and stores `*count`.
A read that fails leaves the count as it was; one that finds the object corrupt closes
the handle. -/
def teeReadObjectData (answers : Answers) (size count : Nat) (s : Sandbox) :
    Sandbox × (Nat → Byte) :=
  let loaded := s.touch count 8
  if answers.readRes = teeSuccess then
    let read := answers.content.take size
    (loaded.storeBytes count (sizeBytes read.length), fun i => read[i]?.getD (answers.junk i))
  else
    let closed :=
      if answers.readRes = teeErrorCorruptObject then
        { loaded with objects := loaded.objects - 1 }
      else loaded
    (closed.storeBytes count ((List.range 8).map fun k => s.mem.bytes (count + k)), answers.junk)

/-! ## The call -/

structure ReadArgs where
  idAddr : BitVec 32
  idLen : BitVec 32
  dataAddr : BitVec 32
  dataLenAddr : BitVec 32

/-- The pointers are checked and cleared one after the other. -/
def ReadArgs.clear (args : ReadArgs) : Except TeeResult ReadArgs := do
  let dataAddr ← signedArg args.dataAddr
  let dataLenAddr ← signedArg args.dataLenAddr
  let idAddr ← signedArg args.idAddr
  return ⟨idAddr, args.idLen, dataAddr, dataLenAddr⟩

/-- The call from `TEE_ReadObjectData` on. -/
def readData (args : ReadArgs) (answers : Answers) (dataSize : Nat) (s : Sandbox) :
    Ended × Sandbox :=
  let cell := args.dataLenAddr.toNat
  let (s, buf) := teeReadObjectData answers dataSize cell s
  if !dataReturns answers.readRes then s.teePanic
  else if answers.readRes = teeSuccess then
    let s := s.touch cell 4
    let moved := (List.range (s.mem.word cell).toNat).map buf
    let s := (s.storeBytes args.dataAddr.toNat moved).touch cell 4
    if (s.mem.word cell).toNat ≠ dataSize then s.closeAndFree answers.readRes
    else s.closeAndFree answers.readRes
  else s.closeAndFree answers.readRes

/-- The call from `TEE_GetObjectInfo1` on. -/
def readOpened (args : ReadArgs) (answers : Answers) (s : Sandbox) : Ended × Sandbox :=
  let cell := args.dataLenAddr.toNat
  if !dataReturns answers.infoRes then s.teePanic
  else if answers.infoRes ≠ teeSuccess then (.returned answers.infoRes, s.free)
  else
    let dataSize := answers.content.length
    let s := s.touch cell 4
    if (s.mem.word cell).toNat < dataSize then
      (s.storeBytes cell (wordBytes (BitVec.ofNat 32 dataSize))).closeAndFree teeErrorShortBuffer
    else readData args answers dataSize s

/-- The call from `TEE_OpenPersistentObject` on. -/
def readAllocated (args : ReadArgs) (answers : Answers) (s : Sandbox) : Ended × Sandbox :=
  let s := s.touch args.idAddr.toNat args.idLen.toNat
  if !openReturns answers.openRes then s.teePanic
  else if answers.openRes ≠ teeSuccess then (.returned answers.openRes, s.free)
  else readOpened args answers { s with objects := s.objects + 1 }

/-- The call with its pointers cleared. -/
def readCleared (args : ReadArgs) (answers : Answers) (s : Sandbox) : Ended × Sandbox :=
  let cell := args.dataLenAddr.toNat
  if !s.mem.validateAppAddr args.dataLenAddr 4 then (.returned teeErrorAccessDenied, s)
  else
    let s := s.touch cell 4
    if !s.mem.validateAppAddr args.dataAddr (s.mem.word cell) then
      (.returned teeErrorAccessDenied, s)
    else if !s.mem.validateAppAddr args.idAddr args.idLen then
      (.returned teeErrorAccessDenied, s)
    else
      let s := s.touch cell 4
      if !answers.allocates then (.returned teeErrorOutOfMemory, s)
      else readAllocated args answers { s with buffers := s.buffers + 1 }

/-- `read_secure_object_wrapper`. -/
def readSecureObject (args : ReadArgs) (answers : Answers) (s : Sandbox) : Ended × Sandbox :=
  match args.clear with
  | .error code => (.returned code, s)
  | .ok args => readCleared args answers s

/-! ## Confinement -/

namespace ReadArgs

/-- The arguments without signatures and tags. -/
def cleared (args : ReadArgs) : ReadArgs :=
  ⟨clearSignatureAndTag args.idAddr, args.idLen, clearSignatureAndTag args.dataAddr,
    clearSignatureAndTag args.dataLenAddr⟩

def Signed (args : ReadArgs) : Prop :=
  checkPtrSigned args.dataAddr = true ∧ checkPtrSigned args.dataLenAddr = true ∧
    checkPtrSigned args.idAddr = true

variable (args : ReadArgs) (mem : Linear)

def id : Range :=
  ⟨args.idAddr, args.idLen⟩

def cell : Range :=
  ⟨args.dataLenAddr, 4⟩

/-- The destination, of the length that is in the cell when the call starts. -/
def data : Range :=
  ⟨args.dataAddr, mem.word args.dataLenAddr.toNat⟩

/-- The three ranges are in the linear memory. -/
structure Valid : Prop where
  cell : args.dataLenAddr.toNat + 4 ≤ mem.size
  data : args.dataAddr.toNat + (args.data mem).len.toNat ≤ mem.size
  id : args.idAddr.toNat + args.idLen.toNat ≤ mem.size

def MayAccess (i : Nat) : Prop :=
  i < mem.size ∧ (args.id.Covers i ∨ (args.data mem).Covers i ∨ args.cell.Covers i)

end ReadArgs

/-- The object is at the start of the destination, and its size is in the cell unless the
cell overlaps the destination. -/
structure Complete (mem : Linear) (args : ReadArgs) (content : List Byte) (after : Linear) :
    Prop where
  fits : content.length ≤ (args.data mem).len.toNat
  data : ∀ i byte, content[i]? = some byte → after.bytes (args.dataAddr.toNat + i) = byte
  cell : (∀ i, args.cell.Covers i → ¬(args.data mem).Covers i) →
    (after.word args.dataLenAddr.toNat).toNat = content.length

/-- The accesses of a call so far. -/
def Sandbox.Within (s : Sandbox) (mem : Linear) (args : ReadArgs) : Prop :=
  ∀ span ∈ s.accessed, ∀ i, span.Covers i → args.MayAccess mem i

/-- What is expected of a call: it stays in its ranges, it succeeds only with the whole
object, and it holds nothing at its end. -/
structure Confined (mem : Linear) (args : ReadArgs) (answers : Answers)
    (result : Ended × Sandbox) : Prop where
  within : result.2.Within mem args
  complete : result.1 = .returned teeSuccess → Complete mem args answers.content result.2.mem
  objects : result.2.objects = 0
  buffers : result.2.buffers = 0

/-- The call opens the object. -/
def Opens (mem : Linear) (args : ReadArgs) (answers : Answers) : Prop :=
  args.Signed ∧ args.cleared.Valid mem ∧ answers.allocates = true ∧ answers.openRes = teeSuccess

/-- The four bytes after the cell are in a range of the call. -/
def CountInside (mem : Linear) (args : ReadArgs) : Prop :=
  ∀ i, args.dataLenAddr.toNat + 4 ≤ i → i < args.dataLenAddr.toNat + 8 →
    args.id.Covers i ∨ (args.data mem).Covers i

/-! ### Accesses -/

section Accesses

variable {s : Sandbox} {mem : Linear} {args : ReadArgs} {addr len : Nat} {bytes : List Byte}

theorem Sandbox.within_touch : (s.touch addr len).Within mem args ↔
    (∀ i, (⟨addr, len⟩ : Span).Covers i → args.MayAccess mem i) ∧ s.Within mem args := by
  simp only [Sandbox.Within, Sandbox.touch, List.mem_cons, forall_eq_or_imp]

theorem Sandbox.within_storeBytes : (s.storeBytes addr bytes).Within mem args ↔
    (∀ i, (⟨addr, bytes.length⟩ : Span).Covers i → args.MayAccess mem i) ∧ s.Within mem args :=
  Sandbox.within_touch

theorem ReadArgs.Valid.cellAccess (valid : args.Valid mem) {i : Nat}
    (covers : (⟨args.dataLenAddr.toNat, 4⟩ : Span).Covers i) : args.MayAccess mem i :=
  ⟨lt_of_lt_of_le covers.2 valid.cell, .inr (.inr covers)⟩

theorem ReadArgs.Valid.idAccess (valid : args.Valid mem) {i : Nat}
    (covers : (⟨args.idAddr.toNat, args.idLen.toNat⟩ : Span).Covers i) : args.MayAccess mem i :=
  ⟨lt_of_lt_of_le covers.2 valid.id, .inl covers⟩

theorem ReadArgs.Valid.dataAccess (valid : args.Valid mem)
    (short : len ≤ (args.data mem).len.toNat) {i : Nat}
    (covers : (⟨args.dataAddr.toNat, len⟩ : Span).Covers i) : args.MayAccess mem i := by
  have last : i < args.dataAddr.toNat + (args.data mem).len.toNat :=
    lt_of_lt_of_le covers.2 (Nat.add_le_add_left short _)
  exact ⟨lt_of_lt_of_le last valid.data, .inr (.inl ⟨covers.1, last⟩)⟩

/-- The count may be accessed when the bytes after the cell may. -/
theorem ReadArgs.Valid.countAccess_iff (valid : args.Valid mem) :
    (∀ i, (⟨args.dataLenAddr.toNat, 8⟩ : Span).Covers i → args.MayAccess mem i) ↔
      CountInside mem args := by
  constructor
  · intro may i above below
    rcases (may i ⟨by dsimp only; omega, below⟩).2 with inId | inData | inCell
    · exact .inl inId
    · exact .inr inData
    · have last : i < args.dataLenAddr.toNat + 4 := inCell.2
      omega
  · intro inside i covers
    by_cases inCell : i < args.dataLenAddr.toNat + 4
    · exact valid.cellAccess ⟨covers.1, inCell⟩
    · rcases inside i (Nat.le_of_not_lt inCell) covers.2 with inId | inData
      · exact valid.idAccess inId
      · exact valid.dataAccess le_rfl inData

end Accesses

/-! ### The stages -/

theorem word_sizeBytes (mem : Linear) (addr : Nat) {size : Nat} (small : size < 2 ^ 32) :
    ((mem.store addr (sizeBytes size)).word addr).toNat = size := by
  have at0 : (mem.store addr (sizeBytes size)).bytes (addr + 0) = _ := mem.store_of_inside rfl
  have at1 : (mem.store addr (sizeBytes size)).bytes (addr + 1) = _ := mem.store_of_inside rfl
  have at2 : (mem.store addr (sizeBytes size)).bytes (addr + 2) = _ := mem.store_of_inside rfl
  have at3 : (mem.store addr (sizeBytes size)).bytes (addr + 3) = _ := mem.store_of_inside rfl
  rw [Nat.add_zero] at at0
  rw [Linear.word, at0, at1, at2, at3]
  simp only [BitVec.toNat_ofNat]
  omega

section Stages

variable {mem : Linear} {args : ReadArgs} {answers : Answers} {s : Sandbox}

theorem confined_of_failed {code : TeeResult} (failed : code ≠ teeSuccess)
    (within : s.Within mem args) (objects : s.objects = 0) (buffers : s.buffers = 0) :
    Confined mem args answers (.returned code, s) where
  within := within
  complete succeeded := by
    cases succeeded
    contradiction
  objects := objects
  buffers := buffers

theorem confined_teePanic (within : s.Within mem args) :
    Confined mem args answers s.teePanic where
  within := within
  complete := nofun
  objects := rfl
  buffers := rfl

/-- Closing and freeing leaves nothing behind, also when the handle is already closed. -/
theorem confined_closeAndFree {res : TeeResult} (within : s.Within mem args)
    (complete : res = teeSuccess → Complete mem args answers.content s.mem)
    (objects : s.objects ≤ 1) (buffers : s.buffers = 1) :
    Confined mem args answers (s.closeAndFree res) := by
  unfold Sandbox.closeAndFree
  split
  · exact confined_teePanic within
  · refine ⟨within, ?_, Nat.sub_eq_zero_of_le objects, ?_⟩
    · rintro ⟨⟩
      exact complete rfl
    · change s.buffers - 1 = 0
      rw [buffers]

theorem closeAndFree_within {res : TeeResult}
    (within : (s.closeAndFree res).2.Within mem args) : s.Within mem args := by
  unfold Sandbox.closeAndFree at within
  split at within
  · exact within
  · exact within

/-- The accesses and the handle after `TEE_ReadObjectData`, whatever it answers. -/
theorem teeReadObjectData_after (mem : Linear) (args : ReadArgs) (answers : Answers)
    (size count : Nat) (s : Sandbox) :
    let after := (teeReadObjectData answers size count s).1
    (after.Within mem args ↔
      (∀ i, (⟨count, 8⟩ : Span).Covers i → args.MayAccess mem i) ∧ s.Within mem args) ∧
    after.objects ≤ s.objects ∧ after.buffers = s.buffers := by
  unfold teeReadObjectData
  dsimp only
  split
  · refine ⟨?_, le_rfl, rfl⟩
    have eight : (sizeBytes (answers.content.take size).length).length = 8 := rfl
    rw [Sandbox.within_storeBytes, Sandbox.within_touch, eight]
    tauto
  · have eight : ((List.range 8).map fun k => s.mem.bytes (count + k)).length = 8 := by simp
    split
    · refine ⟨?_, Nat.sub_le _ _, rfl⟩
      rw [Sandbox.within_storeBytes, eight]
      change _ ∧ (s.touch count 8).Within mem args ↔ _
      rw [Sandbox.within_touch]
      tauto
    · refine ⟨?_, le_rfl, rfl⟩
      rw [Sandbox.within_storeBytes, Sandbox.within_touch, eight]
      tauto

theorem teeReadObjectData_success {count : Nat} (succeeded : answers.readRes = teeSuccess) :
    teeReadObjectData answers answers.content.length count s =
      ((s.touch count 8).storeBytes count (sizeBytes answers.content.length),
        fun i => answers.content[i]?.getD (answers.junk i)) := by
  simp only [teeReadObjectData, if_pos succeeded, List.take_length]

/-- The bytes that are moved when the read succeeds are the object. -/
theorem moved_eq {content : List Byte} {junk : Nat → Byte} :
    (List.range content.length).map (fun i => content[i]?.getD (junk i)) = content := by
  refine List.ext_getElem (by simp) ?_
  intro i first second
  simp [List.getElem?_eq_getElem second]

/-- The memory after a read that succeeds: the count is stored, then the object. -/
theorem complete_of_moved (fits : answers.content.length ≤ (args.data mem).len.toNat)
    (before : Linear)
    (counted : (before.word args.dataLenAddr.toNat).toNat = answers.content.length) :
    Complete mem args answers.content
      (before.store args.dataAddr.toNat answers.content) where
  fits := fits
  data i byte found := before.store_of_inside found
  cell apart := by
    -- a byte of the cell is not one of those the object was moved to
    have kept {k : Nat} (small : k < 4) :
        (before.store args.dataAddr.toNat answers.content).bytes (args.dataLenAddr.toNat + k) =
          before.bytes (args.dataLenAddr.toNat + k) := by
      refine before.store_of_outside ?_
      have outside := apart (args.dataLenAddr.toNat + k)
        ⟨Nat.le_add_right _ _, Nat.add_lt_add_left small _⟩
      unfold ReadArgs.data Range.Covers at outside
      unfold ReadArgs.data at fits
      dsimp only at outside fits
      omega
    have first := kept (k := 0) (by decide)
    rw [Nat.add_zero] at first
    rw [Linear.word, first, kept (by decide), kept (by decide), kept (by decide)]
    exact counted

/-- The call from `TEE_ReadObjectData` on keeps to its ranges exactly when the count does. -/
theorem readData_confined_iff (valid : args.Valid mem) (within : s.Within mem args)
    (fits : answers.content.length ≤ (args.data mem).len.toNat) (objects : s.objects = 1)
    (buffers : s.buffers = 1) :
    Confined mem args answers (readData args answers answers.content.length s) ↔
      CountInside mem args := by
  have small : answers.content.length < 2 ^ 32 := lt_of_le_of_lt fits (BitVec.isLt _)
  have read := teeReadObjectData_after mem args answers answers.content.length
    args.dataLenAddr.toNat s
  dsimp only at read
  rw [valid.countAccess_iff] at read
  obtain ⟨readWithin, readObjects, readBuffers⟩ := read
  rw [objects] at readObjects
  rw [buffers] at readBuffers
  have cell : ∀ i, (⟨args.dataLenAddr.toNat, 4⟩ : Span).Covers i → args.MayAccess mem i :=
    fun i => valid.cellAccess
  unfold readData
  dsimp only
  split
  · exact ⟨fun confined => (readWithin.mp confined.within).1,
      fun inside => confined_teePanic (readWithin.mpr ⟨inside, within⟩)⟩
  · split
    · rename_i succeeded
      -- the last test decides nothing: both of its branches close and free
      rw [ite_self]
      rw [teeReadObjectData_success succeeded] at readWithin readObjects readBuffers ⊢
      dsimp only at readWithin readObjects readBuffers ⊢
      have counted : ((s.mem.store args.dataLenAddr.toNat
          (sizeBytes answers.content.length)).word args.dataLenAddr.toNat).toNat =
          answers.content.length := word_sizeBytes _ _ small
      have memory : ((((s.touch args.dataLenAddr.toNat 8).storeBytes args.dataLenAddr.toNat
          (sizeBytes answers.content.length)).touch args.dataLenAddr.toNat 4).mem) =
          s.mem.store args.dataLenAddr.toNat (sizeBytes answers.content.length) := rfl
      rw [memory, counted, moved_eq]
      constructor
      · intro confined
        have all := closeAndFree_within confined.within
        rw [Sandbox.within_touch, Sandbox.within_storeBytes, Sandbox.within_touch] at all
        exact (readWithin.mp all.2.2.2).1
      · intro inside
        refine confined_closeAndFree ?_ (fun _ => complete_of_moved fits _ counted)
          readObjects readBuffers
        rw [Sandbox.within_touch, Sandbox.within_storeBytes, Sandbox.within_touch]
        exact ⟨cell, fun i => valid.dataAccess fits, cell, readWithin.mpr ⟨inside, within⟩⟩
    · rename_i failed
      refine ⟨fun confined => (readWithin.mp (closeAndFree_within confined.within)).1,
        fun inside => ?_⟩
      exact confined_closeAndFree (readWithin.mpr ⟨inside, within⟩)
        (fun succeeded => absurd succeeded failed) readObjects readBuffers

/-- The call from `TEE_GetObjectInfo1` on is confined exactly when the information is
there, or the TA panics, and the count is in the ranges when the object is read. -/
theorem readOpened_confined_iff (valid : args.Valid mem) (within : s.Within mem args)
    (memory : s.mem = mem) (objects : s.objects = 1) (buffers : s.buffers = 1) :
    Confined mem args answers (readOpened args answers s) ↔
      (dataReturns answers.infoRes = true → answers.infoRes = teeSuccess) ∧
      (answers.infoRes = teeSuccess →
        answers.content.length ≤ (args.data mem).len.toNat → CountInside mem args) := by
  have cell : ∀ i, (⟨args.dataLenAddr.toNat, 4⟩ : Span).Covers i → args.MayAccess mem i :=
    fun i => valid.cellAccess
  have touched : (s.touch args.dataLenAddr.toNat 4).Within mem args :=
    Sandbox.within_touch.mpr ⟨cell, within⟩
  have length : ((s.touch args.dataLenAddr.toNat 4).mem.word args.dataLenAddr.toNat).toNat =
      (args.data mem).len.toNat := by
    rw [← memory]
    rfl
  unfold readOpened
  dsimp only
  split
  · rename_i stops
    refine iff_of_true (confined_teePanic within) ⟨fun returns => ?_, fun succeeded => ?_⟩
    · simp [returns] at stops
    · rw [succeeded] at stops
      exact absurd stops (by decide)
  · rename_i returns
    rw [Bool.not_eq_true, Bool.not_eq_false'] at returns
    split
    · rename_i failed
      -- the handle is still open
      refine iff_of_false (fun confined => ?_) (fun fine => failed (fine.1 returns))
      have closed : s.objects = 0 := confined.objects
      omega
    · rename_i succeeded
      rw [not_not] at succeeded
      rw [length]
      split
      · rename_i tooLong
        refine iff_of_true (confined_closeAndFree ?_ ?_ objects.le buffers)
          ⟨fun _ => succeeded, fun _ fits => ?_⟩
        · exact Sandbox.within_storeBytes.mpr ⟨cell, touched⟩
        · exact fun success => absurd success (by decide)
        · omega
      · rename_i fits
        rw [Nat.not_lt] at fits
        rw [readData_confined_iff valid touched fits objects buffers]
        exact ⟨fun inside => ⟨fun _ => succeeded, fun _ _ => inside⟩,
          fun fine => fine.2 succeeded fits⟩

/-- The call from `TEE_OpenPersistentObject` on. -/
theorem readAllocated_confined_iff (valid : args.Valid mem) (within : s.Within mem args)
    (memory : s.mem = mem) (objects : s.objects = 0) (buffers : s.buffers = 1) :
    Confined mem args answers (readAllocated args answers s) ↔
      (answers.openRes = teeSuccess →
        (dataReturns answers.infoRes = true → answers.infoRes = teeSuccess) ∧
        (answers.infoRes = teeSuccess →
          answers.content.length ≤ (args.data mem).len.toNat → CountInside mem args)) := by
  have touched : (s.touch args.idAddr.toNat args.idLen.toNat).Within mem args :=
    Sandbox.within_touch.mpr ⟨fun i => valid.idAccess, within⟩
  unfold readAllocated
  dsimp only
  split
  · rename_i stops
    refine iff_of_true (confined_teePanic touched) fun opened => ?_
    rw [opened] at stops
    exact absurd stops (by decide)
  · split
    · rename_i failed
      refine iff_of_true (confined_of_failed failed touched objects ?_)
        fun opened => absurd opened failed
      change s.buffers - 1 = 0
      rw [buffers]
    · rename_i opened
      rw [not_not] at opened
      have opens : (s.touch args.idAddr.toNat args.idLen.toNat).objects + 1 = 1 :=
        congrArg Nat.succ objects
      refine (readOpened_confined_iff valid ?_ ?_ ?_ ?_).trans ?_
      · exact touched
      · exact memory
      · exact opens
      · exact buffers
      · exact ⟨fun fine _ => fine, fun fine => fine opened⟩

end Stages

/-- The call with its pointers cleared. -/
theorem readCleared_confined_iff (mem : Linear) (args : ReadArgs) (answers : Answers) :
    Confined mem args answers (readCleared args answers (.start mem)) ↔
      (args.Valid mem ∧ answers.allocates = true ∧ answers.openRes = teeSuccess →
        (dataReturns answers.infoRes = true → answers.infoRes = teeSuccess) ∧
        (answers.infoRes = teeSuccess →
          answers.content.length ≤ (args.data mem).len.toNat → CountInside mem args)) := by
  have denied : teeErrorAccessDenied ≠ teeSuccess := by decide
  have noMemory : teeErrorOutOfMemory ≠ teeSuccess := by decide
  have untouched : (Sandbox.start mem).Within mem args := by
    intro span accessed
    cases accessed
  unfold readCleared
  simp only [Sandbox.start_mem, Sandbox.touch_mem, Bool.not_eq_true', Bool.eq_false_iff, ne_eq,
    Linear.validateAppAddr_iff, ite_not]
  split
  · rename_i goodCell
    have cell : ∀ i, (⟨args.dataLenAddr.toNat, 4⟩ : Span).Covers i → args.MayAccess mem i :=
      fun i covers => ⟨lt_of_lt_of_le covers.2 goodCell, .inr (.inr covers)⟩
    have touched : ((Sandbox.start mem).touch args.dataLenAddr.toNat 4).Within mem args :=
      Sandbox.within_touch.mpr ⟨cell, untouched⟩
    split
    · rename_i goodData
      split
      · rename_i goodId
        have valid : args.Valid mem := ⟨goodCell, goodData, goodId⟩
        have twice := Sandbox.within_touch.mpr ⟨cell, touched⟩
        split
        · rename_i allocates
          refine (readAllocated_confined_iff valid ?_ rfl rfl rfl).trans ?_
          · exact twice
          · exact ⟨fun fine opens => fine opens.2.2,
              fun fine opened => fine ⟨valid, allocates, opened⟩⟩
        · rename_i refused
          exact iff_of_true (confined_of_failed noMemory twice rfl rfl)
            fun opens => absurd opens.2.1 refused
      · rename_i badId
        exact iff_of_true (confined_of_failed denied touched rfl rfl)
          fun opens => absurd opens.1.id badId
    · rename_i badData
      exact iff_of_true (confined_of_failed denied touched rfl rfl)
        fun opens => absurd opens.1.data badData
  · rename_i badCell
    exact iff_of_true (confined_of_failed denied untouched rfl rfl)
      fun opens => absurd opens.1.cell badCell

theorem ReadArgs.clear_cases (args : ReadArgs) :
    (args.Signed ∧ args.clear = .ok args.cleared) ∨
      (¬args.Signed ∧ args.clear = .error teeErrorAccessDenied) := by
  unfold ReadArgs.Signed ReadArgs.clear signedArg
  by_cases data : checkPtrSigned args.dataAddr = true
  · by_cases cell : checkPtrSigned args.dataLenAddr = true
    · by_cases id : checkPtrSigned args.idAddr = true
      · simp only [data, cell, id, if_true]
        exact .inl ⟨⟨trivial, trivial, trivial⟩, rfl⟩
      · simp only [data, cell, id, if_true]
        exact .inr ⟨fun signed => absurd signed.2.2 (by decide), rfl⟩
    · simp only [data, cell, if_true]
      exact .inr ⟨fun signed => absurd signed.2.1 (by decide), rfl⟩
  · simp only [data]
    exact .inr ⟨fun signed => absurd signed.1 (by decide), rfl⟩

/-- A call stays in its ranges, succeeds only with the whole object and holds nothing at
its end exactly when, should it open the object, the information about the object is
there and, should it read the object, the four bytes after the cell are in the range of
the identifier or of the data. -/
theorem readSecureObject_confined_iff (mem : Linear) (args : ReadArgs) (answers : Answers) :
    Confined mem args.cleared answers (readSecureObject args answers (.start mem)) ↔
      (Opens mem args answers →
        (dataReturns answers.infoRes = true → answers.infoRes = teeSuccess) ∧
        (answers.infoRes = teeSuccess →
          answers.content.length ≤ (args.cleared.data mem).len.toNat →
          CountInside mem args.cleared)) := by
  unfold readSecureObject Opens
  rcases args.clear_cases with ⟨signed, accepted⟩ | ⟨notSigned, refused⟩
  · rw [accepted]
    dsimp only
    rw [readCleared_confined_iff]
    exact ⟨fun fine opens => fine opens.2, fun fine opens => fine ⟨signed, opens⟩⟩
  · rw [refused]
    dsimp only
    have denied : teeErrorAccessDenied ≠ teeSuccess := by decide
    refine iff_of_true (confined_of_failed denied ?_ rfl rfl) fun opens => absurd opens.1 notSigned
    intro span accessed
    cases accessed

/-- A read of an empty object whose cell is the last word of the memory: it succeeds,
and it accesses the four bytes after the memory. -/
def lastWordArgs : ReadArgs where
  idAddr := signPtr 16 0xE5 0x12
  idLen := 4
  dataAddr := signPtr 64 0xE5 0x12
  dataLenAddr := signPtr 65532 0xE5 0x12

def emptyObject : Answers where
  allocates := true
  junk _ := 0
  openRes := teeSuccess
  infoRes := teeSuccess
  readRes := teeSuccess
  content := []
  sized := by decide

theorem readSecureObject_past_memory :
    (readSecureObject lastWordArgs emptyObject (.start onePage)).1 = .returned teeSuccess ∧
    (⟨65532, 8⟩ : Span) ∈ (readSecureObject lastWordArgs emptyObject (.start onePage)).2.accessed ∧
    onePage.size = 65536 ∧
    ¬Confined onePage lastWordArgs.cleared emptyObject
      (readSecureObject lastWordArgs emptyObject (.start onePage)) := by
  have accessed : (⟨65532, 8⟩ : Span) ∈
      (readSecureObject lastWordArgs emptyObject (.start onePage)).2.accessed := by decide
  refine ⟨by decide, accessed, rfl, fun confined => ?_⟩
  have inside := (confined.within _ accessed 65536 ⟨by decide, by decide⟩).1
  exact absurd inside (by decide)

end TrustWasm.Native
