import HouseBus.Bme280
import HouseBus.Canard.Fields
import HouseBus.TemperatureReceiver

/-!
# The Environment message on the bus

`bme280_broadcast` packs flags, temperature, humidity and pressure into seven bytes, the temperature
as the low 19 bits of a signed number. The receiver reads these bits as an unsigned number and keeps
16 of them: the temperature of 16 bits comes through (`environment_temperature`), whatever the
arguments beside it are.
-/

namespace HouseBus

open Bytes

namespace Environment

/-- The buffer of `bme280_broadcast` behind the encoding; `stack` is what is in memory before. -/
def encode (can : Canard) (stack : Mem) (e : Environment) : Mem :=
  let buffer := write stack 0 (List.replicate environmentMessageSize 0)
  let buffer := can.encodeScalar buffer 0 2 e.validFlags.toNat
  let buffer := can.encodeScalar buffer 2 19 e.centiCelsiusTemperature.toUInt32.toNat
  let buffer := can.encodeScalar buffer 21 17 e.milliRelativeHumidity.toNat
  can.encodeScalar buffer 38 18 e.centiBarPressure.toNat

/-- The seven bytes that are sent. -/
def payload (can : Canard) (stack : Mem) (e : Environment) : List UInt8 :=
  read (e.encode can stack) 0 environmentMessageSize

variable {can : Canard}

/-- The field of the temperature, read as an unsigned number. -/
theorem decode_temperature (laws : can.FieldLaws) (stack : Mem) (e : Environment) :
    can.decodeScalar (e.payload can stack) 2 19 =
      some (e.centiCelsiusTemperature.toUInt32.toNat % 2 ^ 19) := by
  unfold payload encode environmentMessageSize
  dsimp only
  rw [laws.decode_other _ 38 18 _ 2 19 7 (by decide) (by decide) (by decide),
    laws.decode_other _ 21 17 _ 2 19 7 (by decide) (by decide) (by decide),
    laws.decode_encode _ 2 19 _ 7 (by decide) (by decide) (by decide)]

end Environment

/-- The low bits of a number, 16 or more, narrow to the same 16 bits. -/
theorem int16_low (v : ℕ) {n : ℕ} (hn : 16 ≤ n) :
    int16 (int32 ((v % 2 ^ n : ℕ) : ℤ)) = int16 (int32 v) := by
  have h16 : (2 : ℕ) ^ 16 ∣ 2 ^ n := Nat.pow_dvd_pow 2 hn
  have hmod : (v % 2 ^ n : ℕ) % (2 ^ 16 : ℕ) = v % 2 ^ 16 := Nat.mod_mod_of_dvd v h16
  unfold int16 int32
  rw [Int.bmod_bmod_of_dvd (by decide), Int.bmod_bmod_of_dvd (by decide), ← Int.emod_bmod,
    ← Int.emod_bmod (v : ℤ)]
  exact congrArg (fun r : ℕ => Int.bmod (r : ℤ) (2 ^ 16)) hmod

/-- A number of 16 bits, through one of 32 bits and back. -/
theorem int16_toInt32 (t : Int16) : int16 (int32 t.toInt32.toUInt32.toNat) = t.toInt := by
  have hint : int32 t.toInt32.toUInt32.toNat = t.toInt := by
    have h := BitVec.toInt_eq_toNat_bmod t.toInt32.toBitVec
    rw [Int32.toInt_toBitVec, Int16.toInt_toInt32] at h
    exact h.symm
  rw [hint]
  exact Int.bmod_eq_of_le t.le_toInt t.toInt_lt

/-- **The temperature survives the bus.** -/
theorem environment_temperature (can : Canard) (laws : can.FieldLaws) (stack : Mem)
    (sensor : BmeSensor) (t : Int16) (milliRelativeHumidity centiBarPressure : UInt32)
    (validFlags : UInt8) (transfer : CanardRxTransfer) (s : TemperatureReceiver)
    (timestamp uninitialised : ℕ)
    (hpayload : transfer.payload =
      Environment.payload can stack
        ⟨sensor, t.toInt32, milliRelativeHumidity, centiBarPressure, validFlags⟩)
    (hsource : transfer.sourceNodeId = s.targetNodeId) :
    (s.onEnvironmentData can timestamp uninitialised transfer).temperature = t.toInt := by
  have haccepts : s.Accepts transfer := by
    refine ⟨?_, hsource⟩
    unfold CanardRxTransfer.payloadLen
    rw [hpayload, Environment.payload, length_read]
  have hdecoded : TemperatureReceiver.decodeTemperature can uninitialised transfer = t.toInt := by
    rw [TemperatureReceiver.decodeTemperature, hpayload, Environment.decode_temperature laws,
      Option.getD_some, int16_low _ (by decide), int16_toInt32]
  exact (TemperatureReceiver.onEnvironmentData_temperature _ _ haccepts).trans hdecoded

/-- The message of a sensor, received from node `source`. -/
def Environment.transfer (can : Canard) (source : UInt8) (stack : Mem) (e : Environment) :
    CanardRxTransfer where
  sourceNodeId := source
  transferId := 0
  priority := 24
  payload := e.payload can stack
  payload_len_lt := by
    rw [payload, length_read]
    decide
  beyond := fun _ => 0

/-- A temperature of -12.34 degrees, beside values that do not fit. -/
theorem environment_temperature_negative :
    let e : Environment := ⟨.primary, (-1234 : Int16).toInt32, 4000000000, 4000000000, 255⟩
    let s : TemperatureReceiver := TemperatureReceiver.start.setReceiverTarget 5
    (s.onEnvironmentData .uavcan 0 0 (e.transfer .uavcan 5 fun _ => 0xAA)).temperature =
      (-1234 : Int16).toInt :=
  environment_temperature .uavcan Canard.uavcan_fieldLaws (fun _ => 0xAA) .primary (-1234)
    4000000000 4000000000 255 (Environment.transfer .uavcan 5 (fun _ => 0xAA) _)
    (TemperatureReceiver.start.setReceiverTarget 5) 0 0 rfl rfl

end HouseBus
