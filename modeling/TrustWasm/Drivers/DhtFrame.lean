import TrustWasm.Drivers.DhtLine
import TrustWasm.Drivers.Success

/-!
# Frames of the DHT sensors

A frame holds humidity and temperature in one of three formats and the sum of its first four
bytes.  The formats are given here by the numbers they encode, in tenths, with the temperature
as sign and magnitude.  `dht_read` accepts the well-formed frames of the three sensors and
returns the numbers they encode.  It returns humidity in a signed word, and the DHT22 has an
unsigned one, so a humidity with the high bit set comes out negative.
-/

namespace TrustWasm.Drivers.Dht

open TrustWasm.Lib TrustWasm.Tee

/-- The data formats. -/
inductive Sensor where
  | dht11
  | dht11Rev2022
  | dht22
  deriving DecidableEq

namespace Sensor

/-- The format a sensor type stands for. -/
def ofType (type : BitVec 32) : Option Sensor :=
  if type = 0 then some .dht11
  else if type = 1 then some .dht11Rev2022
  else if type = 2 then some .dht22
  else none

/-- The low temperature byte of a DHT11 frame is a decimal digit, in the revision of 2022 after
its last decimal is dropped. -/
def Valid (data : Frame) : Sensor → Prop
  | .dht11 => (data 3).toNat % 128 < 10
  | .dht11Rev2022 => (data 3).toNat % 128 / 10 < 10
  | .dht22 => True

instance (data : Frame) : (sensor : Sensor) → Decidable (sensor.Valid data)
  | .dht11 => inferInstanceAs (Decidable ((data 3).toNat % 128 < 10))
  | .dht11Rev2022 => inferInstanceAs (Decidable ((data 3).toNat % 128 / 10 < 10))
  | .dht22 => inferInstanceAs (Decidable True)

/-- The humidity in tenths.  The DHT22 has it as a 16-bit word. -/
def humidity (data : Frame) : Sensor → Int
  | .dht11 | .dht11Rev2022 => (10 * (data 0).toNat + (data 1).toNat : Nat)
  | .dht22 => (256 * (data 0).toNat + (data 1).toNat : Nat)

/-- The magnitude of the temperature in tenths. -/
def magnitude (data : Frame) : Sensor → Nat
  | .dht11 => 10 * (data 2).toNat + (data 3).toNat % 128
  | .dht11Rev2022 => 10 * (data 2).toNat + (data 3).toNat % 128 / 10
  | .dht22 => 256 * ((data 2).toNat % 128) + (data 3).toNat

/-- The sign of the temperature. -/
def negative (data : Frame) : Sensor → Bool
  | .dht11 | .dht11Rev2022 => 128 ≤ (data 3).toNat
  | .dht22 => 128 ≤ (data 2).toNat

/-- The temperature in tenths. -/
def temperature (data : Frame) (sensor : Sensor) : Int :=
  if sensor.negative data then -(sensor.magnitude data : Int) else sensor.magnitude data

/-- The numbers a format can hold. -/
def Represents (humidity temperature : Int) : Sensor → Prop
  | .dht11 | .dht11Rev2022 => 0 ≤ humidity ∧ humidity < 2560 ∧ temperature.natAbs < 2560
  | .dht22 => 0 ≤ humidity ∧ humidity < 65536 ∧ temperature.natAbs < 32768

/-- The first four bytes that encode a reading. -/
def body (humidity temperature : Int) : Sensor → List Nat
  | .dht11 => [humidity.toNat / 10, humidity.toNat % 10, temperature.natAbs / 10,
      temperature.natAbs % 10 + if temperature < 0 then 128 else 0]
  | .dht11Rev2022 => [humidity.toNat / 10, humidity.toNat % 10, temperature.natAbs / 10,
      temperature.natAbs % 10 * 10 + if temperature < 0 then 128 else 0]
  | .dht22 => [humidity.toNat / 256, humidity.toNat % 256,
      temperature.natAbs / 256 + (if temperature < 0 then 128 else 0), temperature.natAbs % 256]

/-- The frame that encodes a reading. -/
def encode (humidity temperature : Int) (sensor : Sensor) : Frame :=
  fun i => BitVec.ofNat 8 (if i = 4 then (sensor.body humidity temperature).sum
    else (sensor.body humidity temperature).getD i 0)

/-- The reading of a frame as the driver stores it. -/
def reading (data : Frame) (sensor : Sensor) : Reading where
  humidity := BitVec.ofInt 16 (sensor.humidity data)
  temperature := BitVec.ofInt 16 (sensor.temperature data)

end Sensor

/-- The last byte of a frame is the sum of the others. -/
def Summed (data : Frame) : Prop :=
  ((data 0).toNat + (data 1).toNat + (data 2).toNat + (data 3).toNat) % 256 = (data 4).toNat

theorem validateChecksum_eq_success_iff (data : Frame) :
    validateChecksum data = teeSuccess ↔ Summed data := by
  have sum : (data 0 + data 1 + data 2 + data 3).toNat =
      ((data 0).toNat + (data 1).toNat + (data 2).toNat + (data 3).toNat) % 256 := by
    simp only [BitVec.toNat_add]
    omega
  rw [Summed, ← sum, validateChecksum, ← BitVec.toNat_inj]
  by_cases same : data 0 + data 1 + data 2 + data 3 = data 4
  · simp [same]
  · have differ : (data 0 + data 1 + data 2 + data 3).toNat ≠ (data 4).toNat :=
      fun equal => same (BitVec.eq_of_toNat_eq equal)
    simp only [ne_eq, same, not_false_eq_true, if_true, differ, iff_false]
    decide

/-! ## The conversion -/

theorem and_low (byte : Byte) : (byte &&& 0x7F).toNat = byte.toNat % 128 := by
  rw [BitVec.toNat_and]
  exact Nat.and_two_pow_sub_one_eq_mod byte.toNat 7

theorem and_high (byte : Byte) : (byte &&& 0x80 != 0) = decide (128 ≤ byte.toNat) := by
  decide +revert

theorem word_eq (high low : Byte) :
    ((high.setWidth 16 <<< 8) ||| low.setWidth 16 : BitVec 16) =
      BitVec.ofNat 16 (256 * high.toNat + low.toNat) := by
  have highBound := high.isLt
  have lowBound := low.isLt
  have highWidth : (high.setWidth 16).toNat = high.toNat := BitVec.toNat_setWidth_of_le (by decide)
  have lowWidth : (low.setWidth 16).toNat = low.toNat := BitVec.toNat_setWidth_of_le (by decide)
  apply BitVec.eq_of_toNat_eq
  rw [BitVec.toNat_or, BitVec.toNat_shiftLeft, highWidth, lowWidth, BitVec.toNat_ofNat,
    Nat.mod_eq_of_lt (by rw [Nat.shiftLeft_eq]; omega), Nat.mod_eq_of_lt (by omega),
    ← Nat.shiftLeft_add_eq_or_of_lt lowBound, Nat.shiftLeft_eq]
  omega

/-- A decimal number of two bytes. -/
theorem decimal_eq {high low : Byte} :
    (high.setWidth 16 * 10 + low.setWidth 16 : BitVec 16) =
      BitVec.ofNat 16 (10 * high.toNat + low.toNat) := by
  have highBound := high.isLt
  have lowBound := low.isLt
  have highWidth : (high.setWidth 16).toNat = high.toNat := BitVec.toNat_setWidth_of_le (by decide)
  have lowWidth : (low.setWidth 16).toNat = low.toNat := BitVec.toNat_setWidth_of_le (by decide)
  apply BitVec.eq_of_toNat_eq
  rw [BitVec.toNat_add, BitVec.toNat_mul, highWidth, lowWidth, BitVec.toNat_ofNat]
  show (high.toNat * 10 % 2 ^ 16 + low.toNat) % 2 ^ 16 = _
  omega

theorem applySign_eq (negative : Bool) {magnitude : BitVec 16} {value : Nat}
    (same : magnitude = BitVec.ofNat 16 value) :
    applySign negative magnitude =
      BitVec.ofInt 16 (if negative then -(value : Int) else value) := by
  rw [applySign, same]
  cases negative with
  | false => exact (BitVec.ofInt_natCast 16 value).symm
  | true => rw [if_pos rfl, if_pos rfl, BitVec.ofInt_neg, BitVec.ofInt_natCast]

/-- The low temperature byte without its sign, scaled. -/
theorem low_eq (byte scale : Byte) :
    ((byte &&& 0x7F) / scale).toNat = byte.toNat % 128 / scale.toNat := by
  rw [BitVec.toNat_udiv, and_low]

/-- The DHT11 formats differ in the scale of the low temperature byte. -/
theorem parseDht11_eq (scale : Byte) (data : Frame) :
    parseDht11 scale data =
      if (data 3).toNat % 128 / scale.toNat < 10 then
        .ok ⟨BitVec.ofInt 16 (10 * (data 0).toNat + (data 1).toNat : Nat),
          BitVec.ofInt 16 (if 128 ≤ (data 3).toNat then
              -((10 * (data 2).toNat + (data 3).toNat % 128 / scale.toNat : Nat) : Int)
            else (10 * (data 2).toNat + (data 3).toNat % 128 / scale.toNat : Nat))⟩
      else .error teeErrorBadParameters := by
  rw [← low_eq]
  simp only [parseDht11, and_high, decimal_eq, applySign_eq _ rfl, BitVec.ofInt_natCast,
    decide_eq_true_eq]
  rfl

variable {sensor : Sensor} {type : BitVec 32} {data : Frame} {bits : List Bool}

/-- `_parse_raw_values` accepts the valid frames of a sensor and reads the numbers they
encode. -/
theorem parseRawValues_eq (known : Sensor.ofType type = some sensor) (data : Frame) :
    parseRawValues type data =
      if sensor.Valid data then .ok (sensor.reading data) else .error teeErrorBadParameters := by
  unfold Sensor.ofType at known
  unfold parseRawValues
  by_cases first : type = 0
  · rw [if_pos first] at known ⊢
    cases known
    rw [parseDht11_eq, show (1 : Byte).toNat = 1 from rfl, Nat.div_one]
    simp only [Sensor.Valid, Sensor.reading, Sensor.temperature, Sensor.negative, Sensor.magnitude,
      Sensor.humidity, decide_eq_true_eq]
  · rw [if_neg first] at known ⊢
    by_cases second : type = 1
    · rw [if_pos second] at known ⊢
      cases known
      rw [parseDht11_eq, show (10 : Byte).toNat = 10 from rfl]
      simp only [Sensor.Valid, Sensor.reading, Sensor.temperature, Sensor.negative,
        Sensor.magnitude, Sensor.humidity, decide_eq_true_eq]
    · rw [if_neg second] at known ⊢
      by_cases third : type = 2
      · rw [if_pos third] at known ⊢
        cases known
        simp only [parseDht22, and_high, word_eq, applySign_eq _ rfl, Sensor.Valid, Sensor.reading,
          Sensor.temperature, Sensor.negative, Sensor.magnitude, Sensor.humidity, and_low,
          BitVec.ofInt_natCast, if_true, decide_eq_true_eq]
      · rw [if_neg third] at known
        cases known

theorem parseRawValues_unknown (unknown : Sensor.ofType type = none) (data : Frame) :
    parseRawValues type data = .error teeErrorNotSupported := by
  unfold Sensor.ofType at unknown
  unfold parseRawValues
  split at unknown
  · cases unknown
  · split at unknown
    · cases unknown
    · split at unknown
      · cases unknown
      · rw [if_neg ‹_›, if_neg ‹_›, if_neg ‹_›]

/-- A number that fits 16 bits is the number of its word. -/
theorem toInt_ofInt_of_fits {value : Int} (lower : -32768 ≤ value) (upper : value < 32768) :
    (BitVec.ofInt 16 value).toInt = value := by
  rw [BitVec.toInt_ofInt]
  exact Int.bmod_eq_of_le_mul_two (by omega) (by omega)

theorem Sensor.magnitude_fits (valid : sensor.Valid data) :
    sensor.magnitude data < 32768 := by
  have high := (data 2).isLt
  have low := (data 3).isLt
  cases sensor with
  | dht22 =>
    simp only [Sensor.magnitude]
    omega
  | dht11 | dht11Rev2022 =>
    simp only [Sensor.magnitude, Sensor.Valid] at valid ⊢
    omega

/-- The words the driver stores are the numbers of the frame. -/
theorem toInt_reading (valid : sensor.Valid data) (fits : sensor.humidity data < 32768) :
    (sensor.reading data).humidity.toInt = sensor.humidity data ∧
      (sensor.reading data).temperature.toInt = sensor.temperature data := by
  have small := Sensor.magnitude_fits valid
  have nonneg : 0 ≤ sensor.humidity data := by
    cases sensor <;> exact Int.natCast_nonneg _
  refine ⟨toInt_ofInt_of_fits (by omega) fits, toInt_ofInt_of_fits ?_ ?_⟩
  · unfold Sensor.temperature
    split <;> omega
  · unfold Sensor.temperature
    split <;> omega

/-! ## Encoded readings -/

section Encode

variable {humidity temperature : Int}
    (same : ∀ i < 5, data i = sensor.encode humidity temperature i)

include same

theorem toNat_encoded {i : Nat} (inside : i < 4) :
    (data i).toNat = (sensor.body humidity temperature).getD i 0 % 256 := by
  rw [same i (by omega), Sensor.encode, if_neg (by omega), BitVec.toNat_ofNat]

theorem toNat_encoded_sum :
    (data 4).toNat = (sensor.body humidity temperature).sum % 256 := by
  rw [same 4 (by omega), Sensor.encode, if_pos rfl, BitVec.toNat_ofNat]

theorem summed_encoded : Summed data := by
  have first := toNat_encoded same (show 0 < 4 by decide)
  have second := toNat_encoded same (show 1 < 4 by decide)
  have third := toNat_encoded same (show 2 < 4 by decide)
  have fourth := toNat_encoded same (show 3 < 4 by decide)
  have last := toNat_encoded_sum same
  rw [Summed, first, second, third, fourth, last]
  cases sensor <;> simp [Sensor.body] <;> omega

theorem valid_encoded (fits : sensor.Represents humidity temperature) :
    sensor.Valid data ∧ sensor.humidity data = humidity ∧
      sensor.temperature data = temperature := by
  have first := toNat_encoded same (show 0 < 4 by decide)
  have second := toNat_encoded same (show 1 < 4 by decide)
  have third := toNat_encoded same (show 2 < 4 by decide)
  have fourth := toNat_encoded same (show 3 < 4 by decide)
  cases sensor
  all_goals
    simp only [Sensor.body, Sensor.Represents, List.getD_cons_zero, List.getD_cons_succ] at *
    simp only [Sensor.Valid, Sensor.humidity, Sensor.temperature, Sensor.negative,
      Sensor.magnitude, decide_eq_true_eq]
  case dht11 =>
    refine ⟨?_, by omega, ?_⟩
    · split at fourth <;> omega
    · split at fourth <;> split <;> omega
  case dht11Rev2022 =>
    have digit : (data 3).toNat % 128 = temperature.natAbs % 10 * 10 ∧
        (128 ≤ (data 3).toNat ↔ temperature < 0) := by
      have bound : temperature.natAbs % 10 < 10 := Nat.mod_lt _ (by decide)
      rw [Nat.mod_eq_of_lt (by split <;> omega)] at fourth
      split at fourth <;> omega
    rw [digit.1, Nat.mul_div_cancel _ (by decide : 0 < 10)]
    simp only [digit.2]
    refine ⟨Nat.mod_lt _ (by decide), by omega, ?_⟩
    split <;> omega
  case dht22 =>
    refine ⟨trivial, by omega, ?_⟩
    split at third <;> split <;> omega

end Encode

/-! ## Reading -/

/-- `dht_read` after the bits have been received. -/
def conclude (type : BitVec 32) (bits : List Bool) : Reply :=
  if validateChecksum (frameOf bits) ≠ teeSuccess then
    ⟨teeErrorBadFormat, []⟩
  else
    match parseRawValues type (frameOf bits) with
    | .error code => ⟨code, []⟩
    | .ok reading =>
      ⟨teeSuccess, storesFrom 2 (bytes16 reading.humidity) ++
        storesFrom 0 (bytes16 reading.temperature)⟩

/-- `dht_read` with the bits it received, if the start handshake and the reception
succeeded. -/
def observedRead (pin type : BitVec 32) : Program Bus (Option (List Bool) × Reply) := do
  let started ← sendStartSignal pin
  if started ≠ teeSuccess then
    return (none, ⟨teeErrorItemNotFound, []⟩)
  let received ← (receive 40 spinTimeoutUs).translate (onPin pin)
  if received.1 ≠ teeSuccess then
    return (none, ⟨teeErrorItemNotFound, []⟩)
  return (some received.2, conclude type received.2)

theorem read_eq_observedRead (pin type : BitVec 32) :
    read pin type = Prod.snd <$> observedRead pin type := by
  simp only [read, observedRead, busyWaitRead_eq, map_bind, bind_map_left]
  refine congrArg (sendStartSignal pin >>= ·) (funext fun started => ?_)
  by_cases failed : started ≠ teeSuccess
  · simp only [if_pos failed]
    rfl
  · simp only [if_neg failed, map_bind]
    refine congrArg (Program.translate (onPin pin) (receive 40 spinTimeoutUs) >>= ·)
      (funext fun received => ?_)
    by_cases failed : received.1 ≠ teeSuccess
    · simp only [if_pos failed]
      rfl
    · simp only [if_neg failed, conclude]
      by_cases failed : validateChecksum (frameOf received.2) ≠ teeSuccess
      · simp only [if_pos failed]
        rfl
      · simp only [if_neg failed]
        cases parseRawValues type (frameOf received.2) with
        | error code => rfl
        | ok reading => rfl

/-- The answer is a success with the two numbers in signed words. -/
def Gives (reply : Reply) (humidity temperature : Int) : Prop :=
  reply.res = teeSuccess ∧ ∃ reading : Reading,
    reply.out = storesFrom 2 (bytes16 reading.humidity) ++
      storesFrom 0 (bytes16 reading.temperature) ∧
    reading.humidity.toInt = humidity ∧ reading.temperature.toInt = temperature

/-- What `dht_read` should answer for the bits it received: it succeeds for the well-formed frames
of the three sensors, gives the numbers they encode, decodes every encoded reading to itself, and
stores nothing otherwise. -/
structure Decodes (type : BitVec 32) (bits : List Bool) (reply : Reply) : Prop where
  packed : bits.length = 40 ∧
    ∀ i j, j < 8 → (frameOf bits i).getMsbD j = bits.getD (8 * i + j) false
  success_iff : reply.res = teeSuccess ↔ ∃ sensor, Sensor.ofType type = some sensor ∧
    Summed (frameOf bits) ∧ sensor.Valid (frameOf bits)
  outputs : reply.res = teeSuccess → ∃ sensor, Sensor.ofType type = some sensor ∧
    Gives reply (sensor.humidity (frameOf bits)) (sensor.temperature (frameOf bits))
  roundTrip : ∀ sensor humidity temperature, Sensor.ofType type = some sensor →
    sensor.Represents humidity temperature →
    (∀ i < 5, frameOf bits i = sensor.encode humidity temperature i) →
    Gives reply humidity temperature
  failure : reply.res ≠ teeSuccess → reply.out = []

/-- The humidity of a well-formed frame is less than 0x8000. -/
def HumidityFits (type : BitVec 32) (bits : List Bool) : Prop :=
  ∀ sensor, Sensor.ofType type = some sensor → Summed (frameOf bits) →
    sensor.Valid (frameOf bits) → sensor.humidity (frameOf bits) < 32768

/-- The answer for a well-formed frame. -/
theorem conclude_of_valid (known : Sensor.ofType type = some sensor)
    (summed : Summed (frameOf bits)) (valid : sensor.Valid (frameOf bits)) :
    conclude type bits = ⟨teeSuccess,
      storesFrom 2 (bytes16 (sensor.reading (frameOf bits)).humidity) ++
        storesFrom 0 (bytes16 (sensor.reading (frameOf bits)).temperature)⟩ := by
  have checked := (validateChecksum_eq_success_iff _).mpr summed
  simp only [conclude, checked, parseRawValues_eq known, if_pos valid, ne_eq, not_true_eq_false,
    if_false]

/-- The answer for every other frame. -/
theorem conclude_of_not_valid
    (refused : ¬∃ sensor, Sensor.ofType type = some sensor ∧ Summed (frameOf bits) ∧
      sensor.Valid (frameOf bits)) :
    (conclude type bits).res ≠ teeSuccess ∧ (conclude type bits).out = [] := by
  unfold conclude
  by_cases checked : validateChecksum (frameOf bits) = teeSuccess
  · rw [if_neg (not_not.mpr checked)]
    cases known : Sensor.ofType type with
    | none =>
      rw [parseRawValues_unknown known]
      exact ⟨by decide, rfl⟩
    | some sensor =>
      have invalid : ¬sensor.Valid (frameOf bits) := fun valid =>
        refused ⟨sensor, known, (validateChecksum_eq_success_iff _).mp checked, valid⟩
      rw [parseRawValues_eq known, if_neg invalid]
      exact ⟨by decide, rfl⟩
  · rw [if_pos checked]
    exact ⟨by decide, rfl⟩

theorem gives_conclude (fits : HumidityFits type bits) (known : Sensor.ofType type = some sensor)
    (summed : Summed (frameOf bits)) (valid : sensor.Valid (frameOf bits)) :
    Gives (conclude type bits) (sensor.humidity (frameOf bits))
      (sensor.temperature (frameOf bits)) := by
  rw [conclude_of_valid known summed valid]
  exact ⟨rfl, _, rfl, toInt_reading valid (fits sensor known summed valid)⟩

theorem success_conclude_iff (type : BitVec 32) (bits : List Bool) :
    (conclude type bits).res = teeSuccess ↔ ∃ sensor, Sensor.ofType type = some sensor ∧
      Summed (frameOf bits) ∧ sensor.Valid (frameOf bits) := by
  constructor
  · intro success
    by_contra refused
    exact (conclude_of_not_valid refused).1 success
  · rintro ⟨sensor, known, summed, valid⟩
    rw [conclude_of_valid known summed valid]

theorem decodes_conclude (full : bits.length = 40) (fits : HumidityFits type bits) :
    Decodes type bits (conclude type bits) where
  packed := ⟨full, fun i j inside => getMsbD_frameOf bits i inside⟩
  success_iff := success_conclude_iff type bits
  outputs := by
    intro success
    obtain ⟨sensor, known, summed, valid⟩ := (success_conclude_iff type bits).mp success
    exact ⟨sensor, known, gives_conclude fits known summed valid⟩
  roundTrip := by
    intro sensor humidity temperature known represents same
    obtain ⟨valid, rfl, rfl⟩ := valid_encoded same represents
    exact gives_conclude fits known (summed_encoded same) valid
  failure := by
    intro failed
    refine (conclude_of_not_valid fun accepted => ?_).2
    exact failed ((success_conclude_iff type bits).mpr accepted)

/-- A humidity that does not fit is not returned. -/
theorem Decodes.humidityFits {reply : Reply} (decodes : Decodes type bits reply) :
    HumidityFits type bits := by
  intro sensor known summed valid
  obtain ⟨sensor', known', -, reading, -, humidity, -⟩ :=
    decodes.outputs (decodes.success_iff.mpr ⟨sensor, known, summed, valid⟩)
  rw [known] at known'
  cases known'
  rw [← humidity]
  exact BitVec.toInt_lt

theorem exec_observedRead {pin : BitVec 32} {reply : Reply}
    (run : (observedRead pin type).Exec busSemantics () (some bits, reply) ()) :
    bits.length = 40 ∧ reply = conclude type bits := by
  obtain ⟨started, _, -, run⟩ := Program.exec_bind.mp run
  by_cases failed : started ≠ teeSuccess
  · rw [if_pos failed] at run
    obtain ⟨same, -⟩ := run
    cases same
  · rw [if_neg failed] at run
    obtain ⟨received, _, ran, run⟩ := Program.exec_bind.mp run
    by_cases failed : received.1 ≠ teeSuccess
    · rw [if_pos failed] at run
      obtain ⟨same, -⟩ := run
      cases same
    · rw [if_neg failed] at run
      obtain ⟨same, -⟩ := run
      cases same
      obtain ⟨res, bits⟩ := received
      obtain rfl : res = teeSuccess := not_not.mp failed
      exact ⟨length_received (exec_onPin_iff.mp ran), rfl⟩

/-- Every list of forty bits is received in some run. -/
theorem exists_observedRead (pin type : BitVec 32) (valid : pin.toNat ≤ rpi3MaxPinNum)
    (full : bits.length = 40) :
    (observedRead pin type).Exec busSemantics () (some bits, conclude type bits) () := by
  have started : (sendStartSignal pin).Exec busSemantics () teeSuccess () := by
    have low : BusAllows (.gpioGet pin) (0 : Int) := (if_neg (Nat.not_lt.mpr valid)).mpr (.inl rfl)
    have high : (pinSemantics pin).step () .poll (1 : Int) () := gpioGet_allowed valid (.inr rfl)
    have released : (spin pin (· == 0) spinTimeoutUs).Exec busSemantics () 100 () := by
      rw [← translate_wait]
      exact exec_onPin_iff.mpr (exec_wait_first high rfl)
    refine ⟨(), (), trivial, (), (), trivial, (), (), trivial, (), (),
      trivial, (0 : Int), (), low, ?_⟩
    refine Program.exec_bind.mpr ⟨(0 : Int), (), ⟨rfl, rfl⟩, ?_⟩
    exact Program.exec_bind.mpr ⟨100, (), released, rfl, rfl⟩
  have received := exists_received valid bits 99
  rw [full] at received
  exact Program.exec_bind.mpr ⟨teeSuccess, (), started,
    Program.exec_bind.mpr ⟨(teeSuccess, bits), (), exec_onPin_iff.mpr received,
      rfl, rfl⟩⟩

/-- Whatever bits `dht_read` receives after a successful start handshake, it decodes them as the
frame of its sensor exactly when the humidity fits. -/
theorem read_decodes_iff (pin type : BitVec 32) (bits : List Bool) (reply : Reply)
    (run : (observedRead pin type).Exec busSemantics () (some bits, reply) ()) :
    read pin type = Prod.snd <$> observedRead pin type ∧
      (Decodes type bits reply ↔ HumidityFits type bits) := by
  obtain ⟨full, rfl⟩ := exec_observedRead run
  exact ⟨read_eq_observedRead pin type, Decodes.humidityFits, decodes_conclude full⟩

/-- A humidity of 65.2 % and a temperature of -10.1 degrees from a DHT22 on pin 4. -/
theorem read_decodes_negative :
    ∃ bits reply, (observedRead 4 2).Exec busSemantics () (some bits, reply) () ∧
      Decodes 2 bits reply ∧ Gives reply 652 (-101) := by
  have same (i : Nat) (inside : i < 5) := frameOf_bitsOf (Sensor.encode 652 (-101) .dht22) inside
  have run := exists_observedRead 4 2 (by decide) (length_bitsOf (Sensor.encode 652 (-101) .dht22))
  have represents : Sensor.dht22.Represents 652 (-101) := ⟨by decide, by decide, by decide⟩
  have decoded := (read_decodes_iff 4 2 _ _ run).2.mpr fun sensor known _ _ => by
    cases known
    rw [(valid_encoded same represents).2.1]
    decide
  exact ⟨_, _, run, decoded, decoded.roundTrip .dht22 _ _ rfl represents same⟩

/-- The frame 80 00 00 00 80 of a DHT22: the humidity of 3276.8 % comes out as -3276.8 %. -/
theorem read_wraps_humidity :
    ∃ bits reply, (observedRead 4 2).Exec busSemantics () (some bits, reply) () ∧
      Sensor.dht22.humidity (frameOf bits) = 32768 ∧ Gives reply (-32768) 0 ∧
      ¬Decodes 2 bits reply := by
  have same (i : Nat) (inside : i < 5) := frameOf_bitsOf (Sensor.encode 32768 0 .dht22) inside
  have run := exists_observedRead 4 2 (by decide) (length_bitsOf (Sensor.encode 32768 0 .dht22))
  have represents : Sensor.dht22.Represents 32768 0 := ⟨by decide, by decide, by decide⟩
  obtain ⟨valid, humidity, temperature⟩ := valid_encoded same represents
  have summed := summed_encoded same
  refine ⟨_, _, run, humidity, ?_, fun decodes => ?_⟩
  · rw [conclude_of_valid rfl summed valid]
    refine ⟨rfl, _, rfl, ?_, ?_⟩
    · simp only [Sensor.reading, humidity]
      decide
    · simp only [Sensor.reading, temperature]
      decide
  · have fits := decodes.humidityFits .dht22 rfl summed valid
    rw [humidity] at fits
    exact absurd fits (by decide)

end TrustWasm.Drivers.Dht
