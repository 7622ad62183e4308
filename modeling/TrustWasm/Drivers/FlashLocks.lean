import TrustWasm.Drivers.BusLocks

/-!
# Sessions on the SPI bus and the flash driver

A function that stops when the bus cannot be acquired is balanced.  Most functions of the
flash driver go on instead: they are disciplined exactly when the bus and the chip select
they are called with exist.
-/

namespace TrustWasm.Drivers

open TrustWasm.Lib TrustWasm.Tee

variable {α : Type} {held : Mutex → Nat}

/-! ## Sessions on the SPI bus -/

/-- The bus and the chip select exist, so acquiring the bus succeeds. -/
def SelectsChip (bus cs : BitVec 8) : Prop :=
  bus.toNat < spiNum ∧ cs.toNat < spiCsNum

instance (bus cs : BitVec 8) : Decidable (SelectsChip bus cs) :=
  inferInstanceAs (Decidable (_ ∧ _))

section Spi

variable {bus cs : BitVec 8} {mode clk : BitVec 32} {post : α → (Mutex → Nat) → Prop}

/-- The operation touches the registers of the SPI controller. -/
def BoardOp.OnSpi (bus : BitVec 8) (op : BoardOp) : Prop :=
  boardLocks.effect op = .touch (.spi bus.toNat)

theorem spiAcquire_answer (mode clk : BitVec 32) {res : TeeResult}
    (allowed : BusAllows (.spiAcquire bus cs mode clk) res) :
    res = teeSuccess ↔ SelectsChip bus cs := by
  change res = if spiNum ≤ bus.toNat ∨ spiCsNum ≤ cs.toNat then _ else _ at allowed
  unfold SelectsChip
  rw [allowed]
  split
  · simp only [show teeErrorBadParameters ≠ teeSuccess by decide, false_iff]
    omega
  · simp only [true_iff]
    omega

/-- A session that a failed acquire ends: acquire, transfers, release. -/
theorem obeys_spiSession {refused : TeeResult → Program Board α} {β : Type}
    {body : Program Board β} {answer : β → Program Board α}
    (uses : body.Uses (boardLocks.Within (.spi bus.toNat)))
    (early : ∀ res, (refused res).Obeys boardLocks.semantics post held)
    (after : ∀ value, (answer value).Obeys boardLocks.semantics post held) :
    (onBoard (spiAcquire bus cs mode clk) >>= fun res =>
      if res ≠ teeSuccess then refused res
      else body >>= fun value => onBoard (spiRelease bus) >>= fun _ => answer value).Obeys
        boardLocks.semantics post held := by
  have brackets :
      (boardLocks.effect (.bus (.spiAcquire bus cs mode clk)) = .lock (.spi bus.toNat) ∧
        boardLocks.effect (.bus (.spiRelease bus)) = .unlock (.spi bus.toNat) ∧
        ∀ res, BusAllows (.spiAcquire bus cs mode clk) res → ¬(res ≠ teeSuccess)) ∨
      (boardLocks.effect (.bus (.spiAcquire bus cs mode clk)) = .idle ∧
        ∀ res, BusAllows (.spiAcquire bus cs mode clk) res → res ≠ teeSuccess) := by
    by_cases selects : SelectsChip bus cs
    · refine .inl ⟨if_pos selects, if_pos selects.1, fun res allowed => ?_⟩
      exact not_not.mpr ((spiAcquire_answer mode clk allowed).mpr selects)
    · exact .inr ⟨if_neg selects,
        fun res allowed => mt (spiAcquire_answer mode clk allowed).mp selects⟩
  exact LockModel.obeys_session brackets uses early after

end Spi

/-! ## The flash driver -/

namespace W25qxx

variable {polls : Polls} {bus cs : BitVec 8}

theorem spiTransferRegs_uses {reg : Byte} {out : Option (List Byte)} {isNull : Bool}
    {len : BitVec 64} :
    (spiTransferRegs bus cs reg out isNull len).Uses (BoardOp.OnSpi bus) :=
  ⟨rfl, fun _ => trivial⟩

theorem spiWrite_uses {cmd : Byte} {data : Option (List Byte)} {len : BitVec 64} :
    (spiWrite bus cs cmd data len).Uses (BoardOp.OnSpi bus) :=
  ⟨rfl, fun _ => trivial⟩

theorem waitUntilReadyInternal_uses (early : Nat) :
    (waitUntilReadyInternal bus cs early).Uses (BoardOp.OnSpi bus) := by
  induction early with
  | zero =>
    refine Program.Uses.bind spiTransferRegs_uses fun status => ?_
    split
    all_goals trivial
  | succ early ih =>
    refine Program.Uses.bind spiTransferRegs_uses fun status => ?_
    split
    · trivial
    · split
      · exact ih
      · trivial

theorem waitUntilReadyInternal_starts (early : Nat) :
    (waitUntilReadyInternal bus cs early).StartsWith (BoardOp.OnSpi bus) := by
  cases early with
  | zero => rfl
  | succ early => rfl

theorem writeEnableInternal_uses :
    (writeEnableInternal polls bus cs).Uses (BoardOp.OnSpi bus) := by
  refine spiWrite_uses.bind fun res => ?_
  split
  · trivial
  · exact waitUntilReadyInternal_uses _

theorem writeDisableInternal_uses :
    (writeDisableInternal polls bus cs).Uses (BoardOp.OnSpi bus) := by
  refine spiWrite_uses.bind fun res => ?_
  split
  · trivial
  · exact waitUntilReadyInternal_uses _

/-- Enabling writes, a command, and a wait whose answer is dropped. -/
theorem erase_uses {cmd : Byte} {data : Option (List Byte)} {len : BitVec 64}
    {timeout : BitVec 32} :
    (do
      let res ← writeEnableInternal polls bus cs
      if res ≠ teeSuccess then
        return (⟨res, []⟩ : Reply)
      let res ← spiWrite bus cs cmd data len
      if res ≠ teeSuccess then
        return ⟨res, []⟩
      let _ ← waitUntilReadyInternal bus cs (polls 1 timeout)
      return ⟨teeSuccess, []⟩).Uses (BoardOp.OnSpi bus) := by
  refine writeEnableInternal_uses.bind fun res => ?_
  split
  · trivial
  · refine spiWrite_uses.bind fun res => ?_
    split
    · trivial
    · exact (waitUntilReadyInternal_uses _).bind fun _ => trivial

theorem checked_balanced {body : Program Board Reply} (uses : body.Uses (BoardOp.OnSpi bus)) :
    boardLocks.Balanced (checked bus cs body) :=
  fun _ => obeys_spiSession (uses.mono fun _ => .inr) (fun _ => rfl) fun _ => rfl

/-- Ignoring the answer of the acquire is right exactly when the acquire succeeds. -/
theorem unchecked_disciplined_iff {body : Program Board Reply}
    (uses : body.Uses (BoardOp.OnSpi bus)) (starts : body.StartsWith (BoardOp.OnSpi bus)) :
    boardLocks.Disciplined (unchecked bus cs body) ↔ SelectsChip bus cs := by
  constructor
  · intro disciplined
    by_contra rejected
    have idle : boardLocks.effect (.bus (.spiAcquire bus cs 0 5)) = .idle := if_neg rejected
    have step : boardLocks.semantics.step (fun _ => 0) (.bus (.spiAcquire bus cs 0 5))
        teeErrorBadParameters fun _ => 0 := by
      refine ⟨?_, by rw [idle]; rfl⟩
      unfold SelectsChip at rejected
      exact (if_pos (by omega)).symm
    exact LockModel.not_obeys_of_touch (starts.bind _) rfl (disciplined.rest_of_step _ step)
  · intro selects
    have locks : boardLocks.effect (.bus (.spiAcquire bus cs 0 5)) = .lock (.spi bus.toNat) :=
      if_pos selects
    have unlocks : boardLocks.effect (.bus (.spiRelease bus)) = .unlock (.spi bus.toNat) :=
      if_pos selects.1
    refine LockModel.obeys_lock locks fun res _ => ?_
    refine (LockModel.keeps_of_uses (uses.mono fun _ => .inr)
      (LockModel.add_pos _ _)).then fun value => ?_
    exact LockModel.obeys_unlock unlocks fun _ _ => rfl

/-- The calls that check the answer of the acquire. -/
def Call.IsChecked : Call → Prop
  | .readId _ | .pageProgram .. => True
  | _ => False

theorem Call.IsChecked.balanced {call : Call} (isChecked : call.IsChecked) :
    boardLocks.Balanced (call.program polls bus cs) := by
  cases call with
  | readId id =>
    apply checked_balanced
    refine spiTransferRegs_uses.bind fun read => ?_
    split
    all_goals trivial
  | pageProgram data writeAddr len =>
    apply checked_balanced
    refine writeEnableInternal_uses.bind fun res => ?_
    split
    · trivial
    · refine spiWrite_uses.bind fun res => ?_
      split
      · trivial
      · refine .perform_bind rfl fun written => ?_
        split
        · trivial
        · exact (waitUntilReadyInternal_uses _).bind fun _ => trivial
  | _ => exact isChecked.elim

theorem Call.disciplined_iff {call : Call} (unchecked : ¬call.IsChecked) :
    boardLocks.Disciplined (call.program polls bus cs) ↔ SelectsChip bus cs := by
  cases call with
  | waitUntilReady timeout =>
    exact unchecked_disciplined_iff ((waitUntilReadyInternal_uses _).bind fun _ => trivial)
      ((waitUntilReadyInternal_starts _).bind _)
  | readStatus isNull =>
    exact unchecked_disciplined_iff (spiTransferRegs_uses.bind fun _ => trivial) rfl
  | writeStatus status => exact unchecked_disciplined_iff (spiWrite_uses.bind fun _ => trivial) rfl
  | init | writeEnable =>
    exact unchecked_disciplined_iff (writeEnableInternal_uses.bind fun _ => trivial) rfl
  | readId id => exact (unchecked trivial).elim
  | writeDisable =>
    exact unchecked_disciplined_iff (writeDisableInternal_uses.bind fun _ => trivial) rfl
  | readData isNull readAddr len =>
    refine unchecked_disciplined_iff (spiWrite_uses.bind fun res => ?_) rfl
    split
    · trivial
    · exact .perform_bind rfl fun _ => trivial
  | pageProgram data writeAddr len => exact (unchecked trivial).elim
  | sectorErase eraseAddr => exact unchecked_disciplined_iff erase_uses rfl
  | chipErase => exact unchecked_disciplined_iff erase_uses rfl

end W25qxx

end TrustWasm.Drivers
