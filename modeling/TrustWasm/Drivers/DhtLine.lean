import TrustWasm.Drivers.Dht

/-!
# The data line of the DHT sensor

`_busy_wait_read` polls the data pin in two wait loops for each bit, waits 40 microseconds after
the second one and samples the pin.  On the line the three kinds of access are told apart, so
that a meaning of the line can say how long each of them takes; on the board polls and samples
both are `gpio_get`.  What the decoder receives is a list of bits, and the frame is that list
packed most significant bit first.
-/

namespace TrustWasm.Drivers.Dht

open TrustWasm.Lib TrustWasm.Tee

def readThreshold : Nat := 40

/-- An access to the data line: a poll of a wait loop, the sample of a bit, and a delay. -/
inductive LineOp where
  | poll
  | sample
  | udelay (us : Nat)
  deriving DecidableEq

abbrev Line : Interface where
  Op := LineOp
  Reply
    | .poll | .sample => Int
    | .udelay _ => Unit

def poll : Program Line Int :=
  Program.perform (I := Line) .poll

def sample : Program Line Int :=
  Program.perform (I := Line) .sample

def udelay (us : Nat) : Program Line Unit :=
  Program.perform (I := Line) (.udelay us)

/-- The line on the board: a delay calls no bus function. -/
def onPin (pin : BitVec 32) : (op : LineOp) → Program Bus (Line.Reply op)
  | .poll => gpioGet pin
  | .sample => gpioGet pin
  | .udelay _ => return ()

/-- `while(keep(gpio_get(pin)) && --time_out){}` on the line. -/
def wait (keep : Int → Bool) : Nat → Program Line Nat
  | 0 => return 0
  | timeOut + 1 => do
    let level ← poll
    if keep level then
      wait keep timeOut
    else
      return timeOut + 1

/-- The bits `_busy_wait_read` receives, `count` of them unless a wait runs out of time. -/
def receive : Nat → Nat → Program Line (TeeResult × List Bool)
  | 0, _ => return (teeSuccess, [])
  | count + 1, timeOut => do
    let timeOut ← wait (· != 0) timeOut
    if timeOut = 0 then
      return (teeErrorTimeout, [])
    let timeOut ← wait (· == 0) spinTimeoutUs
    if timeOut = 0 then
      return (teeErrorTimeout, [])
    udelay readThreshold
    let level ← sample
    let rest ← receive count timeOut
    return (rest.1, (level == 1) :: rest.2)

/-- `_bit_parse` for each bit in turn. -/
def parseBits (data : Frame) (pos : Nat) : List Bool → Frame
  | [] => data
  | bit :: rest => parseBits (bitParse data pos bit) (pos + 1) rest

/-- The frame of forty bits. -/
def frameOf (bits : List Bool) : Frame :=
  parseBits (fun _ => 0) 0 bits

/-! ## The line on the board -/

theorem translate_wait (pin : BitVec 32) (keep : Int → Bool) (timeOut : Nat) :
    (wait keep timeOut).translate (onPin pin) = spin pin keep timeOut := by
  induction timeOut with
  | zero => rfl
  | succ timeOut ih =>
    refine congrArg (Program.call (I := Bus) (.gpioGet pin)) (funext fun level => ?_)
    show (ite (keep level = true) (wait keep timeOut) (.pure (timeOut + 1)) :
      Program Line Nat).translate (onPin pin) = ite (keep level = true) _ _
    split
    · exact ih
    · rfl

theorem busyWaitReadFrom_eq (pin : BitVec 32) (count pos timeOut : Nat) (data : Frame) :
    busyWaitReadFrom pin count pos timeOut data =
      (fun received => (received.1, parseBits data pos received.2)) <$>
        (receive count timeOut).translate (onPin pin) := by
  induction count generalizing pos timeOut data with
  | zero => rfl
  | succ count ih =>
    simp only [busyWaitReadFrom, receive, Program.translate_bind, translate_wait, map_bind]
    refine congrArg (spin pin (· != 0) timeOut >>= ·) (funext fun high => ?_)
    by_cases late : high = 0
    · simp only [if_pos late]
      rfl
    · simp only [if_neg late, Program.translate_bind, translate_wait, map_bind]
      refine congrArg (spin pin (· == 0) spinTimeoutUs >>= ·) (funext fun low => ?_)
      by_cases late : low = 0
      · simp only [if_pos late]
        rfl
      · simp only [if_neg late, Program.translate_bind, map_bind]
        refine congrArg (Program.call (I := Bus) (.gpioGet pin)) (funext fun level => ?_)
        exact (ih _ _ _).trans (map_eq_pure_bind _ _)

/-- `_busy_wait_read` packs the bits it receives. -/
theorem busyWaitRead_eq (pin : BitVec 32) :
    busyWaitRead pin = (fun received => (received.1, frameOf received.2)) <$>
      (receive 40 spinTimeoutUs).translate (onPin pin) :=
  busyWaitReadFrom_eq pin 40 0 spinTimeoutUs fun _ => 0

/-! ## Packing -/

theorem getMsbD_mask (i j : Fin 8) :
    (((0x80 >>> i.val : Nat) : Byte)).getMsbD j.val = decide (j = i) := by
  decide +revert

/-- `_bit_parse` sets the bit at its position. -/
theorem getMsbD_bitParse (data : Frame) (pos : Nat) (bit : Bool) (i : Nat)
    {j : Nat} (inside : j < 8) :
    (bitParse data pos bit i).getMsbD j =
      ((data i).getMsbD j || (bit && decide (8 * i + j = pos))) := by
  cases bit with
  | false => simp [bitParse]
  | true =>
    by_cases here : i = pos / 8
    · have mask := getMsbD_mask ⟨pos % 8, Nat.mod_lt _ (by decide)⟩ ⟨j, inside⟩
      simp only [Fin.mk.injEq] at mask
      rw [bitParse, if_pos rfl, here, Function.update_self, BitVec.getMsbD_or, mask, Bool.true_and]
      congr 2
      exact propext ⟨fun same => by omega, fun same => by omega⟩
    · rw [bitParse, if_pos rfl, Function.update_of_ne here]
      have elsewhere : 8 * i + j ≠ pos := by omega
      simp [elsewhere]

theorem getMsbD_parseBits (data : Frame) (pos : Nat) (bits : List Bool) (i : Nat) {j : Nat}
    (inside : j < 8) :
    (parseBits data pos bits i).getMsbD j =
      ((data i).getMsbD j || (decide (pos ≤ 8 * i + j) && bits.getD (8 * i + j - pos) false)) := by
  induction bits generalizing data pos with
  | nil => simp [parseBits]
  | cons bit rest ih =>
    rw [parseBits, ih, getMsbD_bitParse _ _ _ _ inside, Bool.or_assoc]
    congr 1
    rcases Nat.lt_trichotomy (8 * i + j) pos with before | here | behind
    · have : ¬pos + 1 ≤ 8 * i + j := by omega
      have : ¬pos ≤ 8 * i + j := by omega
      simp [*, before.ne]
    · have : ¬pos + 1 ≤ 8 * i + j := by omega
      simp [here]
    · have next : 8 * i + j - pos = 8 * i + j - (pos + 1) + 1 := by omega
      have : pos + 1 ≤ 8 * i + j := by omega
      have : pos ≤ 8 * i + j := by omega
      simp [*, behind.ne']

/-- Bit `j` of byte `i` is the bit received at position `8 i + j`. -/
theorem getMsbD_frameOf (bits : List Bool) (i : Nat) {j : Nat} (inside : j < 8) :
    (frameOf bits i).getMsbD j = bits.getD (8 * i + j) false := by
  rw [frameOf, getMsbD_parseBits _ _ _ _ inside]
  simp

/-- The forty bits of a frame, most significant bit first. -/
def bitsOf (data : Frame) : List Bool :=
  (List.range 40).map fun k => (data (k / 8)).getMsbD (k % 8)

theorem length_bitsOf (data : Frame) : (bitsOf data).length = 40 := by
  simp [bitsOf]

theorem frameOf_bitsOf (data : Frame) {i : Nat} (inside : i < 5) :
    frameOf (bitsOf data) i = data i := by
  refine BitVec.eq_of_getMsbD_eq fun j below => ?_
  have position : 8 * i + j < 40 := by omega
  rw [getMsbD_frameOf _ _ below, bitsOf, List.getD_eq_getElem?_getD, List.getElem?_map,
    List.getElem?_range position, Option.map_some, Option.getD_some,
    show (8 * i + j) / 8 = i by omega, show (8 * i + j) % 8 = j by omega]

/-! ## Runs on the line -/

/-- Every behaviour of the pin the board lets through. -/
def pinSemantics (pin : BitVec 32) : Semantics Line Unit where
  guard _ _ := True
  step source op reply target := (onPin pin op).Exec busSemantics source reply target

theorem exec_onPin_iff {α : Type} {pin : BitVec 32} {program : Program Line α} {result : α} :
    (program.translate (onPin pin)).Exec busSemantics () result () ↔
      program.Exec (pinSemantics pin) () result () :=
  Program.exec_translate_iff fun _ _ _ _ => Iff.rfl

section Runs

variable {σ : Type} {S : Semantics Line σ} {source target : σ} {count timeOut : Nat}

/-- A reception that succeeds delivers all the bits. -/
theorem length_received {bits : List Bool}
    (run : (receive count timeOut).Exec S source (teeSuccess, bits) target) :
    bits.length = count := by
  induction count generalizing timeOut source bits with
  | zero =>
    obtain ⟨same, -⟩ := run
    cases same
    rfl
  | succ count ih =>
    obtain ⟨high, _, -, run⟩ := Program.exec_bind.mp run
    by_cases late : high = 0
    · rw [if_pos late] at run
      obtain ⟨same, -⟩ := run
      cases same
    · rw [if_neg late] at run
      obtain ⟨low, _, -, run⟩ := Program.exec_bind.mp run
      by_cases late : low = 0
      · rw [if_pos late] at run
        obtain ⟨same, -⟩ := run
        cases same
      · rw [if_neg late] at run
        obtain ⟨paused, _, -, level, _, -, run⟩ := run
        obtain ⟨_, _, -, run⟩ := Program.exec_bind.mp run
        obtain ⟨⟨res, rest⟩, _, ran, same, rfl⟩ := Program.exec_bind.mp run
        obtain ⟨rfl, rfl⟩ := Prod.mk.inj same
        exact congrArg Nat.succ (ih ran)

end Runs

theorem gpioGet_allowed {pin : BitVec 32} (valid : pin.toNat ≤ rpi3MaxPinNum) {level : Int}
    (binary : level = 0 ∨ level = 1) : (gpioGet pin).Exec busSemantics () level () :=
  ⟨level, (), (if_neg (Nat.not_lt.mpr valid)).mpr binary, rfl, rfl⟩

/-- A wait that ends at its first poll. -/
theorem exec_wait_first {S : Semantics Line Unit} {keep : Int → Bool} {level : Int} {timeOut : Nat}
    (step : S.step () .poll level ()) (stops : keep level = false) :
    (wait keep (timeOut + 1)).Exec S () (timeOut + 1) () := by
  refine ⟨level, (), step, ?_⟩
  show (ite (keep level = true) (wait keep timeOut) (.pure (timeOut + 1)) :
    Program Line Nat).Exec S () (timeOut + 1) ()
  rw [if_neg (by simp [stops])]
  exact ⟨rfl, rfl⟩

/-- Every list of bits can be received. -/
theorem exists_received {pin : BitVec 32} (valid : pin.toNat ≤ rpi3MaxPinNum) (bits : List Bool)
    (timeOut : Nat) :
    (receive bits.length (timeOut + 1)).Exec (pinSemantics pin) () (teeSuccess, bits) () := by
  induction bits generalizing timeOut with
  | nil => exact ⟨rfl, rfl⟩
  | cons bit rest ih =>
    have low : (pinSemantics pin).step () .poll (0 : Int) () := gpioGet_allowed valid (.inl rfl)
    have high : (pinSemantics pin).step () .poll (1 : Int) () := gpioGet_allowed valid (.inr rfl)
    have sampled : (pinSemantics pin).step () .sample (if bit then 1 else 0 : Int) () := by
      refine gpioGet_allowed valid ?_
      cases bit <;> simp
    refine Program.exec_bind.mpr ⟨_, (), exec_wait_first low rfl, ?_⟩
    refine Program.exec_bind.mpr ⟨_, (), exec_wait_first high rfl, ?_⟩
    refine ⟨(), (), ⟨rfl, rfl⟩, _, (), sampled, ?_⟩
    refine Program.exec_bind.mpr ⟨_, (), ⟨rfl, rfl⟩, ?_⟩
    refine Program.exec_bind.mpr ⟨_, (), ih 99, ?_, rfl⟩
    cases bit <;> rfl

end TrustWasm.Drivers.Dht
