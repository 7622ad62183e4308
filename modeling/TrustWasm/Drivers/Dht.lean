import TrustWasm.Drivers.Devices

/-!
# The DHT temperature and humidity sensor

The driver sends a start signal, samples forty bits from the data pin with
bounded waits, checks the sum of the first four bytes and converts the frame.
The outputs are stored only after all of that succeeded, humidity first.
-/

namespace TrustWasm.Drivers.Dht

open TrustWasm.Lib TrustWasm.Tee

def spinTimeoutUs : Nat := 100

/-- `while(keep(gpio_get(pin)) && --time_out){}`: the time-out left when the
loop ends.  It is entered with a positive time-out only. -/
def spin (pin : BitVec 32) (keep : Int → Bool) : Nat → Program Bus Nat
  | 0 => return 0
  | timeOut + 1 => do
    let level ← gpioGet pin
    if keep level then
      spin pin keep timeOut
    else
      return timeOut + 1

/-- `_send_start_signal`. -/
def sendStartSignal (pin : BitVec 32) : Program Bus TeeResult := do
  gpioInit pin .output
  gpioSet pin false
  gpioSet pin true
  gpioInit pin .inputPullUp
  let level ← gpioGet pin
  if level = 0 then
    let timeOut ← spin pin (· == 0) spinTimeoutUs
    if timeOut = 0 then
      return teeErrorItemNotFound
    return teeSuccess
  else
    return teeErrorItemNotFound

/-- The five bytes of a frame by position. -/
abbrev Frame := Nat → Byte

/-- `_bit_parse`: set bit `pos` of the frame, most significant bit first. -/
def bitParse (data : Frame) (pos : Nat) (bit : Bool) : Frame :=
  if bit then
    Function.update data (pos / 8) (data (pos / 8) ||| (0x80 >>> (pos % 8)))
  else
    data

/-- The bit loop of `_busy_wait_read` with `count` bits left; the time-out of
one wait for a high level carries over to the next wait for a low one. -/
def busyWaitReadFrom (pin : BitVec 32) :
    Nat → Nat → Nat → Frame → Program Bus (TeeResult × Frame)
  | 0, _, _, data => return (teeSuccess, data)
  | count + 1, pos, timeOut, data => do
    let timeOut ← spin pin (· != 0) timeOut
    if timeOut = 0 then
      return (teeErrorTimeout, data)
    let timeOut ← spin pin (· == 0) spinTimeoutUs
    if timeOut = 0 then
      return (teeErrorTimeout, data)
    let level ← gpioGet pin
    busyWaitReadFrom pin count (pos + 1) timeOut (bitParse data pos (level == 1))

def busyWaitRead (pin : BitVec 32) : Program Bus (TeeResult × Frame) :=
  busyWaitReadFrom pin 40 0 spinTimeoutUs fun _ => 0

/-- `_validate_checksum`. -/
def validateChecksum (data : Frame) : TeeResult :=
  if data 0 + data 1 + data 2 + data 3 ≠ data 4 then teeErrorBadFormat else teeSuccess

/-- A reading in tenths: humidity and temperature as stored. -/
structure Reading where
  humidity : BitVec 16
  temperature : BitVec 16
  deriving DecidableEq

/-- The sign of a reading is kept apart from its magnitude. -/
def applySign (negative : Bool) (magnitude : BitVec 16) : BitVec 16 :=
  if negative then -magnitude else magnitude

/-- The DHT11 formats: `scale` divides the low temperature byte. -/
def parseDht11 (scale : Byte) (data : Frame) : Except TeeResult Reading :=
  let low := (data 3 &&& 0x7F) / scale
  if low < 10 then
    .ok {
      humidity := (data 0).setWidth 16 * 10 + (data 1).setWidth 16
      temperature := applySign (data 3 &&& 0x80 != 0)
        ((data 2).setWidth 16 * 10 + low.setWidth 16) }
  else
    .error teeErrorBadParameters

def parseDht22 (data : Frame) : Reading where
  humidity := ((data 0).setWidth 16 <<< 8) ||| (data 1).setWidth 16
  temperature := applySign (data 2 &&& 0x80 != 0)
    (((data 2 &&& 0x7F).setWidth 16 <<< 8) ||| (data 3).setWidth 16)

/-- `_parse_raw_values` by the type of the sensor: DHT11 is 0, DHT11_2022 is 1
and DHT22 is 2. -/
def parseRawValues (type : BitVec 32) (data : Frame) : Except TeeResult Reading :=
  if type = 0 then
    parseDht11 1 data
  else if type = 1 then
    parseDht11 10 data
  else if type = 2 then
    .ok (parseDht22 data)
  else
    .error teeErrorNotSupported

/-- `dht_read`: temperature is stored at offset 0 and humidity at offset 2 of
the caller's pair. -/
def read (pin type : BitVec 32) : Program Bus Reply := do
  let started ← sendStartSignal pin
  if started ≠ teeSuccess then
    return ⟨teeErrorItemNotFound, []⟩
  let (res, data) ← busyWaitRead pin
  if res ≠ teeSuccess then
    return ⟨teeErrorItemNotFound, []⟩
  if validateChecksum data ≠ teeSuccess then
    return ⟨teeErrorBadFormat, []⟩
  match parseRawValues type data with
  | .error code => return ⟨code, []⟩
  | .ok reading =>
    return ⟨teeSuccess, storesFrom 2 (bytes16 reading.humidity) ++
      storesFrom 0 (bytes16 reading.temperature)⟩

end TrustWasm.Drivers.Dht
