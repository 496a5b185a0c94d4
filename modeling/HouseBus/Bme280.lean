import HouseBus.Lib.Machine
import Mathlib.Logic.Function.Basic

/-!
# The environment sensors (`sw/modules/bme280.c`)

`bme280_app_read` reads two sensors in two rounds, and sends the values of the first sensor that is
present. Both rounds address the first sensor, the result code is dropped, and a round that fails
leaves the local struct `data` as it is: with the values of the round before, or uninitialised.

The driver compensates the registers; a call takes the compensated values as input. A read of the
bus can fail in any round.
-/

namespace HouseBus

/-- `struct bme280_data` -/
structure BmeData where
  pressure : UInt32
  temperature : Int32
  humidity : UInt32

/-- `BME280_CHIP_ID`; the other chip has no humidity sensor. -/
def bme280ChipId : UInt8 := 0x60

/-- `BME280_OK` -/
def bme280Ok : Int8 := 0

/-- `BME280_E_COMM_FAIL` -/
def bme280ECommFail : Int8 := -4

/-- What a successful `bme280_get_sensor_data` stores. -/
def BmeData.compensate (chipId : UInt8) (d : BmeData) : BmeData :=
  if chipId ≠ bme280ChipId then { d with humidity := 0 } else d

/-- `bme280_get_sensor_data`: the result code and `comp_data`. -/
def bme280GetSensorData (chipId : UInt8) (read : Option BmeData) (compData : BmeData) :
    Int8 × BmeData :=
  match read with
  | some d => (bme280Ok, d.compensate chipId)
  | none => (bme280ECommFail, compData)

/-- The sensors: `BME280_I2C_ADDR_PRIM` and `BME280_I2C_ADDR_SEC`, with the indices 0 and 1. -/
inductive BmeSensor
  | primary
  | secondary
  deriving DecidableEq

/-- The index of a sensor. -/
def BmeSensor.index : BmeSensor → ℕ
  | .primary => 0
  | .secondary => 1

/-- The arguments of `bme280_broadcast`, and the sensor that they are about. -/
structure Environment where
  sensor : BmeSensor
  centiCelsiusTemperature : Int32
  milliRelativeHumidity : UInt32
  centiBarPressure : UInt32
  validFlags : UInt8

/-- The values of one sensor as the variables hold them. -/
structure BmeReading where
  centiTemperature : Int16
  milliHumidity : UInt32
  centiPressure : UInt32
  deriving DecidableEq

/-- The values that are stored for `d`: the temperature has 16 bits. -/
def BmeData.reading (d : BmeData) : BmeReading := ⟨d.temperature.toInt16, d.humidity, d.pressure⟩

/-- The variables of the module: `bme_presence`, `chip_id` of the devices, `BMECentiTemperature`,
`BMEMilliHumidity` and `BMECentiPressure` by sensor, and the messages that were sent. -/
structure Bme280 where
  bmePresence : UInt8
  chipId : BmeSensor → UInt8
  bmeReading : BmeSensor → BmeReading
  messages : List Environment

/-- The inputs of `bme280_app_read`: what is in the uninitialised `data`, and what a read of the
device `d` on the bus gives in round `i` (`none`: it fails). -/
structure BmeInput where
  uninitialised : BmeData
  read : (i d : BmeSensor) → Option BmeData

namespace Bme280

/-- `bme_presence & (1 << i)` -/
def Present (s : Bme280) (i : BmeSensor) : Prop := s.bmePresence.toNat.testBit i.index = true

instance (s : Bme280) (i : BmeSensor) : Decidable (s.Present i) :=
  inferInstanceAs (Decidable (_ = true))

/-- A round of the loop in `bme280_app_read`, with `data`. -/
def readRound (input : BmeInput) (s : Bme280 × BmeData) (i : BmeSensor) : Bme280 × BmeData :=
  let data := (bme280GetSensorData (s.1.chipId .primary) (input.read i .primary) s.2).2
  ({ s.1 with bmeReading := Function.update s.1.bmeReading i data.reading }, data)

/-- `bme280_broadcast` of the values of sensor `i`. -/
def broadcast (i : BmeSensor) (validFlags : UInt8) (s : Bme280) : Bme280 :=
  { s with
    messages := s.messages ++ [⟨i, (s.bmeReading i).centiTemperature.toInt32,
      (s.bmeReading i).milliHumidity, (s.bmeReading i).centiPressure, validFlags⟩] }

/-- The broadcast in `bme280_app_read`: the first sensor that is present. -/
def broadcastFirst (s : Bme280) : Bme280 :=
  if s.Present .primary then s.broadcast .primary 3
  else if s.Present .secondary then s.broadcast .secondary 3
  else s

/-- `bme280_app_read` -/
def appRead (input : BmeInput) (s : Bme280) : Bme280 :=
  ([.primary, .secondary].foldl (readRound input) (s, input.uninitialised)).1.broadcastFirst

/-! ## What a call leaves -/

/-- `data` after the first round. -/
def dataFirst (input : BmeInput) (s : Bme280) : BmeData :=
  ((input.read .primary .primary).map (BmeData.compensate (s.chipId .primary))).getD
    input.uninitialised

/-- `data` after the second round. -/
def dataSecond (input : BmeInput) (s : Bme280) : BmeData :=
  ((input.read .secondary .primary).map (BmeData.compensate (s.chipId .primary))).getD
    (s.dataFirst input)

/-- The values that the rounds store. -/
def stored (input : BmeInput) (s : Bme280) : BmeSensor → BmeReading
  | .primary => (s.dataFirst input).reading
  | .secondary => (s.dataSecond input).reading

theorem bme280GetSensorData_snd (chipId : UInt8) (read : Option BmeData) (compData : BmeData) :
    (bme280GetSensorData chipId read compData).2 =
      (read.map (BmeData.compensate chipId)).getD compData := by
  cases read <;> rfl

@[simp] theorem broadcastFirst_bmeReading (s : Bme280) :
    s.broadcastFirst.bmeReading = s.bmeReading := by
  unfold broadcastFirst
  split
  · rfl
  · split <;> rfl

@[simp] theorem broadcastFirst_bmePresence (s : Bme280) :
    s.broadcastFirst.bmePresence = s.bmePresence := by
  unfold broadcastFirst
  split
  · rfl
  · split <;> rfl

@[simp] theorem broadcastFirst_chipId (s : Bme280) : s.broadcastFirst.chipId = s.chipId := by
  unfold broadcastFirst
  split
  · rfl
  · split <;> rfl

/-- The state before the broadcast. -/
theorem appRead_eq (input : BmeInput) (s : Bme280) :
    s.appRead input = { s with bmeReading := s.stored input }.broadcastFirst := by
  unfold appRead
  rw [List.foldl_cons, List.foldl_cons, List.foldl_nil]
  simp only [readRound, bme280GetSensorData_snd]
  congr 2
  funext i
  match i with
  | .primary =>
    rw [Function.update_of_ne (by decide), Function.update_self]
    rfl
  | .secondary =>
    rw [Function.update_self]
    rfl

/-- The second sensor is never addressed. -/
theorem appRead_congr {input input' : BmeInput} (s : Bme280)
    (huninitialised : input.uninitialised = input'.uninitialised)
    (hread : ∀ i, input.read i .primary = input'.read i .primary) :
    s.appRead input = s.appRead input' := by
  have hstored : s.stored input = s.stored input' := by
    funext i
    match i with
    | .primary => simp only [stored, dataFirst, hread .primary, huninitialised]
    | .secondary => simp only [stored, dataSecond, dataFirst, hread, huninitialised]
  rw [appRead_eq, appRead_eq, hstored]

end Bme280

end HouseBus
