import HouseBus.Canard
import HouseBus.System
import Mathlib.Logic.Function.Basic

/-!
# The pump receiver (`sw/pump_receiver.c`)

The node pumps water into the tank of another node. The messages of that node say whether its tank
is empty or full; the fill level of the source is measured here. A tick filters the level, changes
the state, and sets the outputs of the pump and of the refill by it.

- Every `chVTGetSystemTime` in a tick has its own reading (`PumpClock`).
- The switch over the states (`transition`) does not depend on the outputs, and `setOutputs` only on
  the state.
-/

namespace HouseBus

/-- `STATE_WAIT` and so on. -/
inductive PumpState
  | wait
  | pump
  | refillOnly
  | refillPump
  | error
  deriving DecidableEq

/-- `MAX_PUMP_ON_SECONDS` -/
def maxPumpOnSeconds : ℕ := 3 * 60

/-- `MAX_REFILL_SECONDS` -/
def maxRefillSeconds : ℕ := 10 * 60

/-- `SOURCE_EMPTY_PUMP_COOLDOWN_SECONDS` -/
def sourceEmptyPumpCooldownSeconds : ℕ := 20

/-- The seconds in `pump_receiver_is_up_to_date`. -/
def upToDateSeconds : ℕ := 3

/-- `REFILL_PAD` -/
def refillPad : UInt8 := 0

/-- `IIR_LENGTH` -/
def iirLength : ℕ := 4

/-- The static variables, those of `pump_receiver_tick` included, and the pads of `GPIOB`. -/
structure PumpReceiver where
  pin : UInt8
  targetNode : UInt8
  targetHasError : Bool
  targetIsFull : Bool
  targetIsEmpty : Bool
  isPumpOn : Bool
  isRefillOn : Bool
  pumpOnTime : ℕ
  refillOnTime : ℕ
  targetDataUpdateTime : ℕ
  lastEmptySourcePumpStop : ℕ
  state : PumpState
  filteredFillLevel : UInt8
  sourceIsEmpty : Bool
  filteredVariance : UInt8
  longFilteredVariance : UInt8
  pads : UInt8 → Bool

/-- The readings of `chVTGetSystemTime` in a tick: two in the switch over the states, one of
`pump_receiver_is_up_to_date`, and those that are stored when an output is turned on. -/
structure PumpClock where
  first : ℕ
  second : ℕ
  upToDate : ℕ
  pumpOn : ℕ
  refillOn : ℕ

/-- `canardDecodeScalar` of one bit to a `bool`. -/
def Canard.decodeBool (can : Canard) (payload : List UInt8) (offset : ℕ) (out : Bool) : Bool :=
  match can.decodeScalar payload offset 1 with
  | some v => decide (v ≠ 0)
  | none => out

namespace PumpReceiver

/-- The initial values of the static variables; the outputs are off. -/
def start : PumpReceiver where
  pin := 0
  targetNode := 0
  targetHasError := true
  targetIsFull := true
  targetIsEmpty := false
  isPumpOn := false
  isRefillOn := false
  pumpOnTime := 0
  refillOnTime := 0
  targetDataUpdateTime := 0
  lastEmptySourcePumpStop := 0
  state := .wait
  filteredFillLevel := 0
  sourceIsEmpty := false
  filteredVariance := 0
  longFilteredVariance := 0
  pads _ := false

/-- `pump_receiver_init` with the values of `CONFIG_PUMP_RECEIVER_PIN` and
`CONFIG_PUMP_RECEIVER_TARGET_NODE_ID`. -/
def init (configPin configTargetNode : ℕ) (s : PumpReceiver) : PumpReceiver :=
  let pin := UInt8.ofNat configPin
  let targetNode := UInt8.ofNat configTargetNode
  if pin = 0 then { s with pin := 16, targetNode := targetNode }
  else if targetNode = 0 then { s with pin := pin, targetNode := 0xFF }
  else
    { s with
      pin := pin - 1
      targetNode := targetNode
      pads := Function.update s.pads (pin - 1) false }

/-! ## Times -/

/-- `pump_receiver_is_up_to_date` -/
def isUpToDate (now : ℕ) (s : PumpReceiver) : Bool :=
  decide (now < (s.targetDataUpdateTime + timeS2I upToDateSeconds) % systimeRange)

/-- `pump_recently_stopped_because_source_was_empty` -/
def recentlyStopped (now : ℕ) (s : PumpReceiver) : Bool :=
  decide (now <
    (s.lastEmptySourcePumpStop + timeS2I sourceEmptyPumpCooldownSeconds) % systimeRange)

/-- The pump was on for more than `MAX_PUMP_ON_SECONDS`, by its comparison. -/
def pumpOvertime (now : ℕ) (s : PumpReceiver) : Bool :=
  decide ((s.pumpOnTime + timeS2I maxPumpOnSeconds) % systimeRange < now)

/-- The refill was on for more than `MAX_REFILL_SECONDS`, by its comparison. -/
def refillOvertime (now : ℕ) (s : PumpReceiver) : Bool :=
  decide ((s.refillOnTime + timeS2I maxRefillSeconds) % systimeRange < now)

/-! ## Outputs -/

/-- `turn_pump_on` -/
def turnPumpOn (now : ℕ) (s : PumpReceiver) : PumpReceiver :=
  { s with
    pads := Function.update s.pads s.pin true
    isPumpOn := true
    pumpOnTime := if s.isPumpOn then s.pumpOnTime else now }

/-- `turn_pump_off` -/
def turnPumpOff (s : PumpReceiver) : PumpReceiver :=
  { s with pads := Function.update s.pads s.pin false, isPumpOn := false }

/-- `water_refill_start` -/
def waterRefillStart (now : ℕ) (s : PumpReceiver) : PumpReceiver :=
  { s with
    pads := Function.update s.pads refillPad true
    isRefillOn := true
    refillOnTime := if s.isRefillOn then s.refillOnTime else now }

/-- `water_refill_stop` -/
def waterRefillStop (s : PumpReceiver) : PumpReceiver :=
  { s with pads := Function.update s.pads refillPad false, isRefillOn := false }

/-- The outputs of a state. -/
def setOutputs (clock : PumpClock) (s : PumpReceiver) : PumpReceiver :=
  match s.state with
  | .wait => s.turnPumpOff.waterRefillStop
  | .pump => (s.turnPumpOn clock.pumpOn).waterRefillStop
  | .refillOnly => s.turnPumpOff.waterRefillStart clock.refillOn
  | .refillPump => (s.turnPumpOn clock.pumpOn).waterRefillStart clock.refillOn
  | .error => s.turnPumpOff.waterRefillStop

/-! ## `pump_receiver_tick` -/

/-- The filters of the fill level, and `source_is_empty` with its hysteresis. -/
def filter (level : UInt8) (s : PumpReceiver) : PumpReceiver :=
  let filled := if s.filteredFillLevel = 0 then level else s.filteredFillLevel
  let variance := if level < filled then filled - level else level - filled
  let fillLevel := ((iirLength - 1) * filled.toNat + level.toNat) / iirLength
  { s with
    filteredFillLevel := UInt8.ofNat fillLevel
    filteredVariance := UInt8.ofNat ((3 * s.filteredVariance.toNat + variance.toNat) / 4)
    longFilteredVariance :=
      UInt8.ofNat ((15 * s.longFilteredVariance.toNat + variance.toNat) / 16)
    sourceIsEmpty :=
      if s.sourceIsEmpty = true ∧ 210 < fillLevel then false
      else if s.sourceIsEmpty = false ∧ fillLevel < 205 then true
      else s.sourceIsEmpty }

/-- The variance is far above its long-term value. -/
def varianceJumps (s : PumpReceiver) : Bool :=
  decide (s.longFilteredVariance < s.filteredVariance ∧
    10 < s.filteredVariance.toNat - s.longFilteredVariance.toNat)

/-- The switch over the states: `next_state`, and `last_empty_source_pump_stop` behind it. -/
def transition (clock : PumpClock) (s : PumpReceiver) : PumpState × ℕ :=
  match s.state with
  | .wait =>
    if s.targetIsEmpty then
      if s.sourceIsEmpty || s.recentlyStopped clock.first then
        (.refillOnly, s.lastEmptySourcePumpStop)
      else (.pump, s.lastEmptySourcePumpStop)
    else (.wait, s.lastEmptySourcePumpStop)
  | .pump =>
    if s.sourceIsEmpty then (.wait, clock.first)
    else if s.targetIsFull then (.wait, s.lastEmptySourcePumpStop)
    else if s.pumpOvertime clock.first then (.error, s.lastEmptySourcePumpStop)
    else (.pump, s.lastEmptySourcePumpStop)
  | .refillOnly =>
    if s.refillOvertime clock.first then (.error, s.lastEmptySourcePumpStop)
    else if !s.sourceIsEmpty && !s.recentlyStopped clock.second then
      (.refillPump, s.lastEmptySourcePumpStop)
    else (.refillOnly, s.lastEmptySourcePumpStop)
  | .refillPump =>
    if s.refillOvertime clock.first then (.error, s.lastEmptySourcePumpStop)
    else if s.sourceIsEmpty || s.varianceJumps then (.refillOnly, clock.second)
    else (.refillPump, s.lastEmptySourcePumpStop)
  | .error => (.error, s.lastEmptySourcePumpStop)

/-- The overrides hold. -/
def overridden (clock : PumpClock) (s : PumpReceiver) : Bool :=
  s.targetIsFull || s.targetHasError || !s.isUpToDate clock.upToDate

/-- `pump_receiver_tick`; `level` is what `conduction_evaluate` measures. -/
def tick (level : UInt8) (clock : PumpClock) (s : PumpReceiver) : PumpReceiver :=
  let s := s.filter level
  let next := s.transition clock
  setOutputs clock
    { s with
      state := if s.overridden clock then .wait else next.1
      lastEmptySourcePumpStop := next.2 }

/-- `on_conduction_sensor_data`; `uninitialised` is what `target_is_not_empty` holds at first. -/
def onConductionSensorData (can : Canard) (transfer : CanardRxTransfer) (uninitialised : Bool)
    (now : ℕ) (s : PumpReceiver) : PumpReceiver :=
  if transfer.payloadLen < 1 then s
  else if transfer.sourceNodeId ≠ s.targetNode then s
  else
    { s with
      targetHasError := can.decodeBool transfer.payload 0 s.targetHasError
      targetIsFull := can.decodeBool transfer.payload 7 s.targetIsFull
      targetIsEmpty := !can.decodeBool transfer.payload 6 uninitialised
      targetDataUpdateTime := now }

end PumpReceiver

end HouseBus
