import HouseBus.Canard.Fields
import HouseBus.Lib.Machine
import HouseBus.Qfp

/-!
# The boiler node (`sw/nodes/boiler.c`, `sw/dimmer.c`)

The node heats water with excess solar power: it regulates on OBIS messages, drives the heater by
the dimmer and shares the power with other boilers by their status messages.

- **The dimmer** has its own copy of the duty cycle, in half-waves.
- **The table** `other_boiler_status` has an entry for each other boiler; `node_id` 0 is a free one.
- `BoilerConfig` are the values that the `config_get_*` calls of `reconfigure` return; `now` is the
  system time that a function reads.
-/

namespace HouseBus

/-! ## The dimmer -/

/-- The static variables of `dimmer.c`, and the output pad. -/
structure Dimmer where
  pin : ℕ
  halfwavesOn : ℕ
  halfwavesTotal : ℕ
  cnt : ℕ
  pad : Bool

namespace Dimmer

/-- `halfwaves_to_tick` -/
def halfwavesToTick (h : ℕ) : ℕ := h * 10 / 5

/-- `dimmer_init` with the value of `CONFIG_DIMMER_PIN`. -/
def init (configPin : ℕ) (d : Dimmer) : Dimmer :=
  let pin := configPin % 256
  if pin = 0 then { d with pin := 16 } else { d with pin := pin - 1, pad := false }

/-- `dimmer_read_config` with the values of `CONFIG_DIMMER_PERIOD_IN_HALFWAVES` and
`CONFIG_DIMMER_DUTY_CYCLE`; all variables have 8 bits. -/
def readConfig (period dutyCycle : ℕ) (d : Dimmer) : Dimmer :=
  let total := period % 256
  let dc := dutyCycle % 256
  { d with halfwavesTotal := total, halfwavesOn := dc * total / 100 % 256 }

/-- `dimmer_set_dc` -/
def setDc (dc : ℕ) (d : Dimmer) : Dimmer :=
  { d with halfwavesOn := dc * d.halfwavesTotal / 100 % 256 }

/-- `dimmer_tick` -/
def tick (d : Dimmer) : Dimmer :=
  let pad := decide (d.cnt < halfwavesToTick d.halfwavesOn)
  let cnt := (d.cnt + 1) % 256
  { d with pad := pad, cnt := if halfwavesToTick d.halfwavesTotal ≤ cnt then 0 else cnt }

end Dimmer

/-! ## The data of the node -/

/-- `CONTROLLER_TIMEOUT` -/
def controllerTimeout : ℕ := 15

/-- `OTHER_NODE_TIMEOUT` -/
def otherNodeTimeout : ℕ := 15

/-- `MAX_OTHER_BOILER_NODES` -/
def maxOtherBoilerNodes : ℕ := 3

/-- `OtherBoilerStatus` -/
structure OtherBoilerStatus where
  lastUpdate : ℕ
  nodeId : UInt8
  priority : ℕ
  dc : ℕ
  temperature : ℤ
  deriving DecidableEq

/-- `homeautomation_BoilerStatus` as it is sent. -/
structure BoilerStatus where
  dutyCycle : ℕ
  temperature : ℤ
  priority : ℕ
  deriving DecidableEq

/-- The values that `reconfigure` reads. -/
structure BoilerConfig where
  maxTemperature : ℤ
  minTemperature : ℤ
  targetTemperature : ℤ
  pidKp : FloatBits
  pidKd : FloatBits
  pidKi : FloatBits
  targetPower : ℤ
  dimmerPeriod : ℕ
  dimmerDutyCycle : ℕ

/-- The last reading of one meter register in `on_obis_data`. -/
structure MeterReading where
  reading : ℕ
  timestamp : ℕ

/-- The static variables of the node, with those of the dimmer and the status messages sent. -/
structure Boiler where
  targetPower : ℤ
  pidConfig : PidControl
  controllerDc : ℕ
  boilerDc : ℕ
  controllerUpdate : Bool
  controllerLastUpdate : ℕ
  maxBoilerTemperature : ℤ
  minBoilerTemperature : ℤ
  targetBoilerTemperature : ℤ
  boilerTemperature : ℤ
  otherBoilerStatus : List OtherBoilerStatus
  last180meter : MeterReading
  last280meter : MeterReading
  last180reading : ℤ
  fresh180reading : Bool
  dimmer : Dimmer
  sent : List BoilerStatus

/-- The initial values of the static variables; `dimmer_init` has run. -/
def Boiler.start (configPin : ℕ) : Boiler where
  targetPower := 100
  pidConfig := ⟨0, 0, 0, 0, 0, 0, false⟩
  controllerDc := 0
  boilerDc := 0
  controllerUpdate := false
  controllerLastUpdate := 0
  maxBoilerTemperature := 0
  minBoilerTemperature := 0
  targetBoilerTemperature := 0
  boilerTemperature := 0
  otherBoilerStatus := List.replicate maxOtherBoilerNodes ⟨0, 0, 0, 0, 0⟩
  last180meter := ⟨0, 0⟩
  last280meter := ⟨0, 0⟩
  last180reading := 0
  fresh180reading := false
  dimmer := Dimmer.init configPin ⟨0, 0, 0, 0, false⟩
  sent := []

namespace Boiler

/-! ## Priority and duty cycle -/

/-- `calculate_priority` -/
def calculatePriority (b : Boiler) : ℕ :=
  if b.maxBoilerTemperature < b.boilerTemperature then 0
  else if b.boilerTemperature < b.targetBoilerTemperature then 2
  else 1

/-- `send_status_message`; `homeautomation_BoilerStatus_encode` saturates. -/
def sendStatusMessage (dc : ℕ) (b : Boiler) : Boiler :=
  let temperature := canardInternalSaturate b.boilerTemperature 262143
  { b with sent := b.sent ++ [⟨dc, temperature, min b.calculatePriority 7⟩] }

/-- `set_dc` -/
def setDc (dc : ℕ) (b : Boiler) : Boiler :=
  sendStatusMessage dc { b with boilerDc := dc, dimmer := b.dimmer.setDc dc }

/-- `reconfigure` -/
def reconfigure (cfg : BoilerConfig) (b : Boiler) : Boiler :=
  { b with
    maxBoilerTemperature := cfg.maxTemperature
    minBoilerTemperature := cfg.minTemperature
    targetBoilerTemperature := cfg.targetTemperature
    pidConfig := b.pidConfig.init cfg.pidKp cfg.pidKd cfg.pidKi
    targetPower := cfg.targetPower
    dimmer := b.dimmer.readConfig cfg.dimmerPeriod cfg.dimmerDutyCycle }

/-- `app_init`: it sets up the sensor pad and reads the configuration. -/
def appInit (cfg : BoilerConfig) (b : Boiler) : Boiler := b.reconfigure cfg

/-- `app_config_update` -/
def appConfigUpdate (cfg : BoilerConfig) (b : Boiler) : Boiler := b.reconfigure cfg

/-- `calculate_thermistor_temperature`; the constants are 1/298.15, 1/4090, `ANALOG_MAX`, 1, 273.15
and 100. -/
def calculateThermistorTemperature (qfp : Qfp) (adc : ℕ) : ℤ :=
  let invT0 : FloatBits := 0x3B5BCF0F
  let invB : FloatBits := 0x39803012
  let adcmax : FloatBits := 0x477FF000
  let one : FloatBits := 0x3F800000
  let ratio := qfp.fsub (qfp.fdiv adcmax (qfp.uint2float adc)) one
  let invT := qfp.fadd invT0 (qfp.fmul invB (qfp.fln ratio))
  let t := qfp.fsub (qfp.fdiv one invT) 0x43889333
  int32 (qfp.float2int (qfp.fmul t 0x42C80000))

/-- `app_tick` -/
def appTick (qfp : Qfp) (adc now : ℕ) (b : Boiler) : Boiler :=
  let b := { b with boilerTemperature := calculateThermistorTemperature qfp adc }
  if timeS2I controllerTimeout < timeElapsedSince now b.controllerLastUpdate then b.setDc 0 else b

/-- `transform_dc` -/
def transformDc (dc : ℕ) : ℕ := dc

/-- `app_fast_tick` -/
def appFastTick (b : Boiler) : Boiler :=
  if b.controllerUpdate then
    let targetDc := b.controllerDc
    let targetDc :=
      if b.boilerTemperature < b.minBoilerTemperature ∨
          (b.boilerDc = 100 ∧ b.boilerTemperature < int32 (b.minBoilerTemperature + 300)) then 100
      else targetDc
    let targetDc := if b.maxBoilerTemperature < b.boilerTemperature then 0 else targetDc
    { b.setDc (transformDc targetDc) with controllerUpdate := false }
  else b

/-! ## The other boilers -/

/-- The loop of `get_target_power` over the entries: whether another boiler has a higher priority
(the loop ends there), and the entries with the expired ones freed. -/
def pollEntries (now ourPriority : ℕ) : List OtherBoilerStatus → Bool × List OtherBoilerStatus
  | [] => (false, [])
  | e :: es =>
    if e.nodeId ≠ 0 then
      if timeElapsedSince now e.lastUpdate < timeS2I otherNodeTimeout then
        if ourPriority < e.priority then (true, e :: es)
        else
          let rest := pollEntries now ourPriority es
          (rest.1, e :: rest.2)
      else
        let rest := pollEntries now ourPriority es
        (rest.1, { e with nodeId := 0 } :: rest.2)
    else
      let rest := pollEntries now ourPriority es
      (rest.1, e :: rest.2)

/-- `get_target_power` -/
def getTargetPower (now : ℕ) (b : Boiler) : ℤ × Boiler :=
  let polled := pollEntries now b.calculatePriority b.otherBoilerStatus
  (if polled.1 then 0 else b.targetPower, { b with otherBoilerStatus := polled.2 })

/-- `get_other_boiler_entry`: the first entry that matches or is free, else the first one. -/
def getOtherBoilerEntry (nodeId : UInt8) (entries : List OtherBoilerStatus) :
    ℕ × List OtherBoilerStatus :=
  let id := (entries.findIdx? fun e => e.nodeId = nodeId ∨ e.nodeId = 0).getD 0
  (id, entries.modify id fun e => { e with nodeId := nodeId })

/-- The priority after `homeautomation_BoilerStatus_decode`: it stays zero when the payload ends
before it (two attempts, which are the same without dynamic arrays). -/
def decodePriority (can : Canard) (transfer : CanardRxTransfer) : ℕ :=
  if 8 * transfer.payloadLen < 8 then 0
  else if 8 * transfer.payloadLen < 8 + 19 then 0
  else (can.decodeScalar transfer.payload 27 3).getD 0

/-- The duty cycle after `homeautomation_BoilerStatus_decode`. -/
def decodeDutyCycle (can : Canard) (transfer : CanardRxTransfer) : ℕ :=
  (can.decodeScalar transfer.payload 0 8).getD 0

/-- The temperature after it, a signed field of 19 bits: those behind the end of the payload are
zero. -/
def decodeTemperature (can : Canard) (transfer : CanardRxTransfer) : ℤ :=
  Int.bmod ((can.decodeScalar transfer.payload 8 19).getD 0) (2 ^ 19)

/-- `on_boilerstatus_data`; what the decoder returns is ignored. -/
def onBoilerstatusData (can : Canard) (timestamp : ℕ) (transfer : CanardRxTransfer) (b : Boiler) :
    Boiler :=
  let found := getOtherBoilerEntry transfer.sourceNodeId b.otherBoilerStatus
  { b with
    otherBoilerStatus := found.2.modify found.1 fun e =>
      { e with
        lastUpdate := timestamp
        priority := decodePriority can transfer
        dc := decodeDutyCycle can transfer
        temperature := decodeTemperature can transfer } }

/-- The entry that it leaves. -/
def boilerEntry (can : Canard) (timestamp : ℕ) (transfer : CanardRxTransfer) : OtherBoilerStatus :=
  ⟨timestamp, transfer.sourceNodeId, decodePriority can transfer, decodeDutyCycle can transfer,
    decodeTemperature can transfer⟩

@[simp] theorem boilerEntry_nodeId (can : Canard) (timestamp : ℕ) (transfer : CanardRxTransfer) :
    (boilerEntry can timestamp transfer).nodeId = transfer.sourceNodeId := rfl

/-! ## The controller -/

/-- `regulate` -/
def regulate (qfp : Qfp) (now : ℕ) (currentPower : ℤ) (timestamp : ℕ) (b : Boiler) : Boiler :=
  let power := b.getTargetPower now
  let e := int32 (power.1 - currentPower)
  let result := power.2.pidConfig.tick qfp e timestamp
  { power.2 with
    pidConfig := result.2
    controllerDc := if result.1 < 0 then 0 else if 100 < result.1 then 100 else result.1.toNat
    controllerLastUpdate := timestamp
    controllerUpdate := true }

/-- `homeautomation_Obis` -/
structure Obis where
  code : List UInt8
  value : ℕ

/-- `homeautomation_Obis_decode`, without the unit, which nothing reads: the fields behind the end
of the payload stay zero. -/
def decodeObis (can : Canard) (transfer : CanardRxTransfer) : Obis where
  code := (List.range 3).map fun i =>
    UInt8.ofNat ((can.decodeScalar transfer.payload (8 * i) 8).getD 0)
  value := (can.decodeScalar transfer.payload 32 64).getD 0 % 2 ^ 64

/-- The power between two readings, in `on_obis_data`; the constant is 360000. -/
def meterPower (qfp : Qfp) (last : MeterReading) (value timestamp : ℕ) : ℤ :=
  let difference : ℤ := int32 ((value : ℤ) - last.reading)
  let timeDifference := timeI2MS (timeElapsedSince timestamp last.timestamp)
  int32 (qfp.float2int (qfp.fmul
    (qfp.fdiv (qfp.int2float difference) (qfp.ofInt timeDifference)) 0x48AFC800))

/-- The part of `on_obis_data` for 1.8.0. -/
def onObis180 (qfp : Qfp) (value timestamp : ℕ) (b : Boiler) : Boiler :=
  let b :=
    if b.last180meter.reading ≠ 0 then
      { b with
        fresh180reading := true
        last180reading := meterPower qfp b.last180meter value timestamp }
    else b
  { b with last180meter := ⟨value, timestamp⟩ }

/-- The part of `on_obis_data` for 2.8.0. -/
def onObis280 (qfp : Qfp) (now value timestamp : ℕ) (b : Boiler) : Boiler :=
  let b :=
    if b.last280meter.reading ≠ 0 ∧ b.fresh180reading then
      let power := meterPower qfp b.last280meter value timestamp
      { b.regulate qfp now (int32 (b.last180reading - power)) timestamp with
        fresh180reading := false }
    else b
  { b with last280meter := ⟨value, timestamp⟩ }

/-- `on_obis_data` -/
def onObisData (can : Canard) (qfp : Qfp) (now timestamp : ℕ) (transfer : CanardRxTransfer)
    (b : Boiler) : Boiler :=
  let message := decodeObis can transfer
  let b := if message.code = [1, 8, 0] then b.onObis180 qfp message.value timestamp else b
  if message.code = [2, 8, 0] then b.onObis280 qfp now message.value timestamp else b

end Boiler

end HouseBus
