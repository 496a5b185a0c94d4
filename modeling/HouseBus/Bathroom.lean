import HouseBus.Lib.Machine
import HouseBus.System

/-!
# The bathroom node (`sw/nodes/bathroom.c`)

`app_fast_tick` debounces the door sensor and the two switches. `app_tick` reads the motion sensor
and decides about once per second whether the room is occupied, and by whom
(`occupancyIndicatorTick`); fan and light follow. Each of the two runs as one step.

- The values of other modules (ADC, humidity, wall temperature) are inputs: any values.
- `TickClock` has the clock readings of a tick, in their order.
- The runs (`BathroomRun`) are in real time from power-on at tick 0.
-/

namespace HouseBus

/-! ## Constants -/

/-- `MOTION_TRIGGER_ACTIVE_S` -/
def motionTriggerActiveS : ℕ := 60

/-- `MOTION_TRIGGER_ACTIVE_DOOR_CLOSED_S` -/
def motionTriggerActiveDoorClosedS : ℕ := 900

/-- `MOTION_TRIGGER_BLOCK_AFTER_DOOR_CLOSE_S` -/
def motionTriggerBlockAfterDoorCloseS : ℕ := 120

/-- `MOTION_TRIGGER_AFTER_DOOR_CLOSE_NOT_EMPTY_S` -/
def motionTriggerAfterDoorCloseNotEmptyS : ℕ := 120

/-- `PRIVATE_MODE_BUTTON_VALID_FOR_S` -/
def privateModeButtonValidForS : ℕ := 30

/-- `LDR_TICK_INTERVAL_S` -/
def ldrTickIntervalS : ℕ := 10

/-- `LDR_WINDOW_LENGTH` -/
def ldrWindowLength : ℕ := 128

/-- `LED_RED` -/
def ledRed : ℕ := 0

/-- `LED_YELLOW` -/
def ledYellow : ℕ := 1

/-- `LED_GREEN` -/
def ledGreen : ℕ := 2

/-! ## The data of the node -/

/-- `homeautomation_BathroomStatus` -/
structure BathroomStatus where
  brightness : ℕ
  doorOpen : Bool
  personInside : Bool
  privateMode : Bool
  fanRunning : Bool
  deriving DecidableEq

/-- `occupancyMode` -/
inductive OccupancyMode
  | empty
  | openInUse
  | inUse
  | privateMode
  deriving DecidableEq

/-- The variables of one switch in `readButtons`. -/
structure Switch where
  pressed : Bool
  count : ℕ

/-- The variables of `readLdr`. -/
structure Ldr where
  window : ℕ → UInt8
  windowPointer : ℕ
  sum : UInt16
  lastReadingAt : ℕ

/-- The static variables of `occupancyIndicatorTick`. -/
structure Occupancy where
  state : OccupancyMode
  occupancyPressedAt : ℕ
  activeSinceDoorClosed : Bool

/-- The variables of the fan. -/
structure Fan where
  fanNotTriggeredAnymoreAt : ℕ
  fanRunning : ℕ
  onAboveRelativeHumidity : ℕ
  runOutTime : ℕ

/-- The pads that the node writes: LEDs at PA2 to PA4, light at PA6 and PB3, fan at PB4. -/
structure BathroomPads where
  leds : ℕ → Bool
  softLight : Bool
  brightLight : Bool
  fan : Bool

/-- The variables for the blinking LED. -/
structure Blink where
  ticks : ℕ
  ledNr : ℕ
  speed : ℕ
  state : Bool

/-- The static variables, the pads and the status messages sent. -/
structure Bathroom where
  motionSensorLastActive : ℕ
  motionSensorState : Bool
  doorClosed : Bool
  doorSensorLastOpen : ℕ
  doorSensorLast : Bool
  doorSensorCount : ℕ
  occupancySwitch : Switch
  brightnessSwitch : Switch
  bright : Bool
  ldr : Ldr
  occupancy : Occupancy
  fan : Fan
  blink : Blink
  pads : BathroomPads
  status : BathroomStatus
  sent : List BathroomStatus

/-- The configuration that `read_config` copies for the fan. -/
structure BathroomConfig where
  fanOnAboveMilliRelativeHumidity : ℕ
  fanRunOutTimeS : ℕ

/-- The inputs of a tick: motion sensor, filtered ADC value, humidity, and the wall temperature
difference if there is one. -/
structure BathroomInput where
  motion : Bool
  adc : UInt16
  insideHumidity : ℕ
  wallTemperatureDifference : Option ℤ

namespace Bathroom

/-- The clock readings of a tick: in `readMotionSensor`, in `readLdr`, for the ages of motion and
door, at a key press, for its age, and in `fanControlTick`. -/
structure TickClock where
  sample : ℕ
  sensorState : ℕ
  ldr : ℕ
  ldrStore : ℕ
  motion : ℕ
  door : ℕ
  press : ℕ
  check : ℕ
  fanStore : ℕ
  fanCheck : ℕ

/-! ## `app_fast_tick` -/

/-- A switch in `readButtons`: what it compares the level with is never assigned and stays 0. -/
def sampleSwitch (level : Bool) (s : Switch) : Switch :=
  if level = false then
    { pressed := if s.count = 10 ∧ ¬ level then true else s.pressed
      count := if s.count ≤ 10 then s.count + 1 else s.count }
  else { s with count := 0 }

/-- The door sensor in `readButtons`. -/
def sampleDoor (now : ℕ) (doorSensor : Bool) (b : Bathroom) : Bathroom :=
  let b :=
    if doorSensor = b.doorSensorLast then
      if 100 < b.doorSensorCount then
        { b with
          doorClosed := !doorSensor
          doorSensorLastOpen := if doorSensor then now else b.doorSensorLastOpen }
      else { b with doorSensorCount := b.doorSensorCount + 1 }
    else { b with doorSensorCount := 0 }
  { b with doorSensorLast := doorSensor }

/-- `readButtons` with the levels of the pads. -/
def readButtons (now : ℕ) (doorSensor occupancySwitch brightnessSwitch : Bool) (b : Bathroom) :
    Bathroom :=
  let b := b.sampleDoor now doorSensor
  { b with
    occupancySwitch := sampleSwitch occupancySwitch b.occupancySwitch
    brightnessSwitch := sampleSwitch brightnessSwitch b.brightnessSwitch }

/-- `setLed` -/
def setLed (led on : ℕ) (b : Bathroom) : Bathroom :=
  if led < 3 then
    { b with pads := { b.pads with leds := Function.update b.pads.leds led (decide (1 ≤ on)) } }
  else b

/-- The blinking in `app_fast_tick`; `blinkTicks` has 8 bits. -/
def blinkTick (b : Bathroom) : Bathroom :=
  if b.blink.speed ≠ 0 then
    let ticks := (b.blink.ticks + 1) % 256
    if b.blink.speed ≤ ticks then
      let b := { b with blink := { b.blink with ticks := ticks, state := !b.blink.state } }
      let b := b.setLed b.blink.ledNr (if b.blink.state then 1 else 0)
      { b with blink := { b.blink with ticks := 0 } }
    else { b with blink := { b.blink with ticks := ticks } }
  else b

/-- `app_fast_tick` -/
def appFastTick (now : ℕ) (doorSensor occupancySwitch brightnessSwitch : Bool) (b : Bathroom) :
    Bathroom :=
  (b.readButtons now doorSensor occupancySwitch brightnessSwitch).blinkTick

/-! ## Motion and brightness -/

/-- `readMotionSensor` -/
def readMotionSensor (clock : TickClock) (motion : Bool) (b : Bathroom) : Bathroom :=
  let lastActive := if motion then clock.sample else b.motionSensorLastActive
  { b with
    motionSensorLastActive := lastActive
    motionSensorState := decide
      (timeElapsedSince clock.sensorState lastActive < timeS2I motionTriggerActiveS) }

/-- The brightness that `readLdr` takes: none by the bright light, the last one by another light. -/
def ldrValue (adc : UInt16) (b : Bathroom) : UInt8 :=
  if b.bright then 0
  else if b.status.personInside then b.ldr.window b.ldr.windowPointer
  else (~~~adc >>> 8).toUInt8

/-- `readLdr` -/
def readLdr (clock : TickClock) (adc : UInt16) (b : Bathroom) : Bathroom :=
  if timeS2I ldrTickIntervalS ≤ timeElapsedSince clock.ldr b.ldr.lastReadingAt then
    let v := b.ldrValue adc
    let windowPointer := (b.ldr.windowPointer + 1) % ldrWindowLength
    let sum := b.ldr.sum + v.toUInt16 - (b.ldr.window windowPointer).toUInt16
    { b with
      ldr :=
        { window := Function.update b.ldr.window windowPointer v
          windowPointer := windowPointer
          sum := sum
          lastReadingAt := clock.ldrStore }
      status := { b.status with brightness := sum.toNat / ldrWindowLength / 2 ^ 5 } }
  else b

/-! ## The occupancy -/

/-- `blinkLed` -/
def blinkLed (number speed : ℕ) (b : Bathroom) : Bathroom :=
  if b.blink.ledNr ≠ number ∨ b.blink.speed ≠ speed then
    let b := { b with blink := { b.blink with ledNr := number, speed := speed } }
    if speed ≠ 0 then
      { b with blink := { b.blink with state := true } }.setLed number speed
    else b
  else b

end Bathroom

namespace Occupancy

/-- `motion_sensor_active_since_door_closed` in a tick, by the ages of motion and open door. -/
def nextActive (doorClosed : Bool) (motionAgo doorOpenAgo : ℕ) (o : Occupancy) : Bool :=
  if doorClosed ∧ ¬ o.activeSinceDoorClosed then
    decide (timeS2I motionTriggerBlockAfterDoorCloseS ≤ doorOpenAgo ∧
      motionAgo < doorOpenAgo - timeS2I motionTriggerBlockAfterDoorCloseS)
  else if ¬ doorClosed then false
  else o.activeSinceDoorClosed

/-- `occupancyPressedAt` for a press at the system time `now`: 0 stands for none. -/
def stamp (now : ℕ) : ℕ := if now = 0 then 1 else now

/-- The press that is valid in a tick, or 0: `readKey`, and the expiry. -/
def validPress (key : Bool) (press check : ℕ) (o : Occupancy) : ℕ :=
  let pressedAt := if key then stamp press else o.occupancyPressedAt
  if timeS2I privateModeButtonValidForS < timeElapsedSince check pressedAt then 0 else pressedAt

/-- The `switch` over the mode: the next mode, and `occupancyPressedAt`. -/
def nextMode (doorClosed active : Bool) (motionAgo doorOpenAgo pressedAt : ℕ) :
    OccupancyMode → OccupancyMode × ℕ
  | .empty => (if motionAgo < timeS2I 2 then .openInUse else .empty, pressedAt)
  | .openInUse =>
    let next := if doorClosed ∧ active then .inUse else .openInUse
    let next := if timeS2I motionTriggerActiveS < motionAgo then .empty else next
    if pressedAt ≠ 0 then (.privateMode, 0) else (next, pressedAt)
  | .inUse =>
    if pressedAt ≠ 0 then (.privateMode, 0)
    else
      let next := if ¬ doorClosed then .openInUse else .inUse
      (if timeS2I motionTriggerActiveS < motionAgo then .empty else next, pressedAt)
  | .privateMode =>
    let shouldHaveBeenActive :=
      doorClosed && decide (timeS2I motionTriggerAfterDoorCloseNotEmptyS < doorOpenAgo)
    let next :=
      if timeS2I motionTriggerActiveDoorClosedS < motionAgo ∨ shouldHaveBeenActive ∧ ¬ active then
        .empty
      else .privateMode
    if pressedAt ≠ 0 then (.inUse, 0) else (next, pressedAt)

/-- The static variables after a tick. -/
def next (doorClosed key : Bool) (motionAgo doorOpenAgo press check : ℕ) (o : Occupancy) :
    Occupancy :=
  let active := o.nextActive doorClosed motionAgo doorOpenAgo
  let mode :=
    nextMode doorClosed active motionAgo doorOpenAgo (o.validPress key press check) o.state
  ⟨mode.1, mode.2, active⟩

end Occupancy

namespace Bathroom

/-- `motionSensorActiveAgo` -/
def motionSensorActiveAgo (clock : TickClock) (b : Bathroom) : ℕ :=
  timeElapsedSince clock.motion b.motionSensorLastActive

/-- `doorOpenAgo` -/
def doorOpenAgo (clock : TickClock) (b : Bathroom) : ℕ :=
  timeElapsedSince clock.door b.doorSensorLastOpen

/-- The LEDs that show the mode. -/
def showMode (b : Bathroom) : Bathroom :=
  match b.occupancy.state with
  | .empty =>
    (((b.setLed ledGreen 1).setLed ledYellow 0).setLed ledRed 0).blinkLed ledYellow 0
  | .inUse =>
    (((b.setLed ledGreen 0).setLed ledYellow 1).setLed ledRed 0).blinkLed ledYellow 0
  | .openInUse => ((b.setLed ledGreen 0).blinkLed ledYellow 70).setLed ledRed 0
  | .privateMode =>
    (((b.setLed ledGreen 0).blinkLed ledYellow 0).setLed ledYellow 0).setLed ledRed 1

/-- `occupancyIndicatorTick`; `readKey` clears `occupancySwitchPressed`. -/
def occupancyIndicatorTick (clock : TickClock) (b : Bathroom) : Bathroom :=
  let occupancy := b.occupancy.next b.doorClosed b.occupancySwitch.pressed
    (b.motionSensorActiveAgo clock) (b.doorOpenAgo clock) clock.press clock.check
  let b := { b with
    occupancy := occupancy
    occupancySwitch := { b.occupancySwitch with pressed := false } }.showMode
  { b with
    status := { b.status with
      privateMode := decide (occupancy.state = .privateMode)
      personInside := decide (occupancy.state ≠ .empty)
      doorOpen := !b.doorClosed } }

/-! ## Fan and light -/

/-- `fanControlTick` -/
def fanControlTick (clock : TickClock) (input : BathroomInput) (b : Bathroom) : Bathroom :=
  let fanTrigger := b.fan.onAboveRelativeHumidity < input.insideHumidity ∨
    ∃ difference ∈ input.wallTemperatureDifference, difference < 0
  let b :=
    if fanTrigger then
      { b with fan := { b.fan with fanRunning := 2 }, pads := { b.pads with fan := true } }
    else b
  let b :=
    if ¬ fanTrigger ∧ b.fan.fanRunning = 2 then
      { b with
        fan := { b.fan with fanRunning := 1, fanNotTriggeredAnymoreAt := clock.fanStore } }
    else b
  let b :=
    if ¬ fanTrigger ∧ b.fan.fanRunning ≠ 0 ∧
        b.fan.runOutTime < timeElapsedSince clock.fanCheck b.fan.fanNotTriggeredAnymoreAt then
      { b with fan := { b.fan with fanRunning := 0 }, pads := { b.pads with fan := false } }
    else b
  { b with status := { b.status with fanRunning := decide (b.fan.fanRunning ≠ 0) } }

/-- `setLight` -/
def setLight (brightness : ℕ) (b : Bathroom) : Bathroom :=
  match brightness with
  | 0 => { b with pads := { b.pads with brightLight := false, softLight := false } }
  | 1 => { b with pads := { b.pads with brightLight := false, softLight := true } }
  | 2 => { b with pads := { b.pads with brightLight := true, softLight := true } }
  | _ => b

/-- `lightTick` -/
def lightTick (b : Bathroom) : Bathroom :=
  let b :=
    if b.brightnessSwitch.pressed then
      { b with
        bright := !b.bright
        brightnessSwitch := { b.brightnessSwitch with pressed := false } }
    else b
  if b.status.personInside then
    b.setLight (if b.bright then 2 else if b.status.brightness = 0 then 1 else 0)
  else { b with bright := false }.setLight 0

/-! ## The node -/

/-- `read_config` -/
def readConfig (cfg : BathroomConfig) (b : Bathroom) : Bathroom :=
  { b with
    fan := { b.fan with
      onAboveRelativeHumidity := cfg.fanOnAboveMilliRelativeHumidity
      runOutTime := timeS2I cfg.fanRunOutTimeS % 2 ^ 32 } }

/-- `bathroom_status_broadcast` -/
def bathroomStatusBroadcast (b : Bathroom) : Bathroom := { b with sent := b.sent ++ [b.status] }

/-- `app_tick` -/
def appTick (clock : TickClock) (input : BathroomInput) (b : Bathroom) : Bathroom :=
  ((((b.readMotionSensor clock input.motion).readLdr clock input.adc).occupancyIndicatorTick
    clock).fanControlTick clock input).lightTick.bathroomStatusBroadcast

/-- The initial values of the static variables, and `app_init`. -/
def start (cfg : BathroomConfig) : Bathroom :=
  readConfig cfg
    { motionSensorLastActive := 0
      motionSensorState := false
      doorClosed := false
      doorSensorLastOpen := 0
      doorSensorLast := false
      doorSensorCount := 0
      occupancySwitch := ⟨false, 0⟩
      brightnessSwitch := ⟨false, 0⟩
      bright := false
      ldr := ⟨fun _ => 0, 0, 0, 0⟩
      occupancy := ⟨.empty, 0, false⟩
      fan := ⟨0, 0, 0, 0⟩
      blink := ⟨0, 0, 0, false⟩
      pads := ⟨fun _ => false, false, false, false⟩
      status := ⟨0, false, false, false, false⟩
      sent := [] }

end Bathroom

/-! ## What a tick leaves alone -/

namespace Bathroom

/-- `g` does not read pads and status, nor what only light and fan depend on. -/
def Ignores {α : Type*} (g : Bathroom → α) : Prop :=
  ∀ (b : Bathroom) (pads : BathroomPads) (blink : Blink) (status : BathroomStatus) (ldr : Ldr)
    (fan : Fan) (bright pressed : Bool),
    g { b with
      pads := pads
      blink := blink
      status := status
      ldr := ldr
      fan := fan
      bright := bright
      brightnessSwitch := { b.brightnessSwitch with pressed := pressed } } = g b

namespace Ignores

variable {α : Type*} {g : Bathroom → α} (h : Ignores g) (b : Bathroom)
include h

theorem pads (pads : BathroomPads) (blink : Blink) :
    g { b with pads := pads, blink := blink } = g b :=
  h b pads blink b.status b.ldr b.fan b.bright b.brightnessSwitch.pressed

theorem setLed (led on : ℕ) : g (b.setLed led on) = g b := by
  unfold Bathroom.setLed
  split
  · exact h.pads b _ b.blink
  · rfl

theorem blinkLed (number speed : ℕ) : g (b.blinkLed number speed) = g b := by
  unfold Bathroom.blinkLed
  split
  · dsimp only
    split
    · rw [h.setLed]
      exact h.pads b b.pads _
    · exact h.pads b b.pads _
  · rfl

theorem blinkTick : g b.blinkTick = g b := by
  unfold Bathroom.blinkTick
  split
  · dsimp only
    split
    · rw [h.pads, h.setLed]
      exact h.pads b b.pads _
    · exact h.pads b b.pads _
  · rfl

theorem showMode : g b.showMode = g b := by
  unfold Bathroom.showMode
  split <;> simp only [h.setLed, h.blinkLed]

theorem readLdr (clock : TickClock) (adc : UInt16) : g (b.readLdr clock adc) = g b := by
  unfold Bathroom.readLdr
  split
  · exact h b b.pads b.blink _ _ b.fan b.bright b.brightnessSwitch.pressed
  · rfl

theorem fanControlTick (clock : TickClock) (input : BathroomInput) :
    g (b.fanControlTick clock input) = g b := by
  unfold Bathroom.fanControlTick
  dsimp only
  split <;> split <;> split <;>
    exact h b _ b.blink _ b.ldr _ b.bright b.brightnessSwitch.pressed

theorem setLight (brightness : ℕ) : g (b.setLight brightness) = g b := by
  unfold Bathroom.setLight
  split <;> exact h.pads b _ b.blink

theorem lightTick : g b.lightTick = g b := by
  unfold Bathroom.lightTick
  dsimp only
  split <;> split <;> rw [h.setLight]
  all_goals exact h b b.pads b.blink b.status b.ldr b.fan _ _

end Ignores

end Bathroom

/-! ## What a tick does to the occupancy -/

/-- The variables that the occupancy depends on. -/
structure Room where
  motionSensorLastActive : ℕ
  doorClosed : Bool
  doorSensorLastOpen : ℕ
  occupancy : Occupancy
  keyPressed : Bool

namespace Bathroom

def room (b : Bathroom) : Room :=
  ⟨b.motionSensorLastActive, b.doorClosed, b.doorSensorLastOpen, b.occupancy,
    b.occupancySwitch.pressed⟩

theorem room_ignores : Ignores room := fun _ _ _ _ _ _ _ _ => rfl

variable (b : Bathroom) (clock : TickClock)

/-- `motion_sensor_last_active` in a tick. -/
def lastActive (input : BathroomInput) : ℕ :=
  if input.motion then clock.sample else b.motionSensorLastActive

/-- **A tick** samples the motion sensor, and the occupancy makes its step. -/
theorem room_appTick (input : BathroomInput) :
    (b.appTick clock input).room =
      { b.room with
        motionSensorLastActive := b.lastActive clock input
        occupancy := b.occupancy.next b.doorClosed b.occupancySwitch.pressed
          (timeElapsedSince clock.motion (b.lastActive clock input)) (b.doorOpenAgo clock)
          clock.press clock.check
        keyPressed := false } := by
  have hread : ((b.readMotionSensor clock input.motion).readLdr clock input.adc).room =
      { b.room with motionSensorLastActive := b.lastActive clock input } :=
    room_ignores.readLdr _ _ _
  have htick : ∀ b' : Bathroom, (b'.occupancyIndicatorTick clock).room =
      { b'.room with
        occupancy := b'.room.occupancy.next b'.room.doorClosed b'.room.keyPressed
          (timeElapsedSince clock.motion b'.room.motionSensorLastActive)
          (timeElapsedSince clock.door b'.room.doorSensorLastOpen) clock.press clock.check
        keyPressed := false } := fun b' => room_ignores.showMode _
  show (lightTick _).room = _
  rw [room_ignores.lightTick, room_ignores.fanControlTick, htick, hread]
  rfl

/-- `app_fast_tick` leaves motion and occupancy alone. -/
theorem room_appFastTick (now : ℕ) (door occupancy brightness : Bool) :
    (b.appFastTick now door occupancy brightness).room.occupancy = b.occupancy ∧
      (b.appFastTick now door occupancy brightness).room.motionSensorLastActive =
        b.motionSensorLastActive := by
  rw [appFastTick, room_ignores.blinkTick]
  unfold readButtons sampleDoor
  simp only
  split
  · split <;> exact ⟨rfl, rfl⟩
  · exact ⟨rfl, rfl⟩

end Bathroom

/-! ## Runs in real time -/

namespace Bathroom

/-- The clock readings after `f`. -/
def TickClock.map (f : ℕ → ℕ) (c : TickClock) : TickClock where
  sample := f c.sample
  sensorState := f c.sensorState
  ldr := f c.ldr
  ldrStore := f c.ldrStore
  motion := f c.motion
  door := f c.door
  press := f c.press
  check := f c.check
  fanStore := f c.fanStore
  fanCheck := f c.fanCheck

/-- The readings are in their order. -/
def TickClock.Ascending (c : TickClock) : Prop :=
  [c.sample, c.sensorState, c.ldr, c.ldrStore, c.motion, c.door, c.press, c.check, c.fanStore,
    c.fanCheck].Pairwise (· ≤ ·)

instance (c : TickClock) : Decidable c.Ascending := inferInstanceAs (Decidable (List.Pairwise _ _))

end Bathroom

open Bathroom (TickClock)

/-- A tick: its input, and its clock readings in ticks after the event before it. -/
structure BathroomTick where
  input : BathroomInput
  delays : TickClock
  ascending : delays.Ascending

/-- What happens to the node. -/
inductive BathroomEvent
  | fastTick (delay : ℕ) (doorSensor occupancySwitch brightnessSwitch : Bool)
  | tick (t : BathroomTick)
  | configUpdate (cfg : BathroomConfig)

/-- What a tick did: the mode before and after it, whether `readKey` returned 1, and the real ticks
of the readings at a press and for its age. -/
structure TickRecord where
  before : OccupancyMode
  after : OccupancyMode
  keyRead : Bool
  pressAt : ℕ
  checkAt : ℕ
  deriving DecidableEq

/-- The node at the real tick `now`, the tick of the last active sample of the motion sensor, and
the ticks so far. -/
structure BathroomRun where
  node : Bathroom
  now : ℕ
  lastActive : Option ℕ
  ticks : List TickRecord

namespace BathroomRun

/-- Power-on. -/
def start (cfg : BathroomConfig) : BathroomRun := ⟨.start cfg, 0, none, []⟩

/-- The state after a tick. -/
def tick (t : BathroomTick) (s : BathroomRun) : BathroomRun :=
  let real := t.delays.map (s.now + ·)
  let node := s.node.appTick (real.map systemTime) t.input
  { node := node
    now := real.fanCheck
    lastActive := if t.input.motion then some real.sample else s.lastActive
    ticks := s.ticks ++ [
      { before := s.node.occupancy.state
        after := node.occupancy.state
        keyRead := s.node.occupancySwitch.pressed
        pressAt := real.press
        checkAt := real.check }] }

/-- The state after an event. -/
def step (s : BathroomRun) : BathroomEvent → BathroomRun
  | .fastTick delay door occupancy brightness =>
    { s with
      node := s.node.appFastTick (systemTime (s.now + delay)) door occupancy brightness
      now := s.now + delay }
  | .tick t => s.tick t
  | .configUpdate cfg => { s with node := s.node.readConfig cfg }

/-- The real tick from which on a tick has seen no motion: that of the last active sample, its own
included, or power-on. -/
def quietSince (s : BathroomRun) (t : BathroomTick) : ℕ :=
  if t.input.motion then s.now + t.delays.sample else s.lastActive.getD 0

/-- The real ticks without motion at the reading of `motionSensorActiveAgo`. -/
def quietFor (s : BathroomRun) (t : BathroomTick) : ℕ :=
  s.now + t.delays.motion - s.quietSince t

/-- The press that a tick finds valid, or 0. -/
def validPress (s : BathroomRun) (t : BathroomTick) : ℕ :=
  s.node.occupancy.validPress s.node.occupancySwitch.pressed
    (systemTime (s.now + t.delays.press)) (systemTime (s.now + t.delays.check))

/-- A tick of one second: all readings at its end. -/
def secondTick (motion : Bool) : BathroomTick :=
  let at1s : TickClock := ⟨10000, 10000, 10000, 10000, 10000, 10000, 10000, 10000, 10000, 10000⟩
  ⟨⟨motion, 0, 0, none⟩, at1s, by decide⟩

/-- `motion_sensor_last_active` shows the last active sample. -/
structure MotionOk (s : BathroomRun) : Prop where
  lastActive_le : s.lastActive.getD 0 ≤ s.now
  shown : s.node.motionSensorLastActive = systemTime (s.lastActive.getD 0)

variable {s : BathroomRun} {t : BathroomTick}

/-- The occupancy after a tick. -/
theorem occupancy_tick (s : BathroomRun) (t : BathroomTick) :
    (s.tick t).node.occupancy =
      s.node.occupancy.next s.node.doorClosed s.node.occupancySwitch.pressed
        (timeElapsedSince (systemTime (s.now + t.delays.motion))
          (s.node.lastActive ((t.delays.map (s.now + ·)).map systemTime) t.input))
        (timeElapsedSince (systemTime (s.now + t.delays.door)) s.node.doorSensorLastOpen)
        (systemTime (s.now + t.delays.press)) (systemTime (s.now + t.delays.check)) :=
  congrArg Room.occupancy (Bathroom.room_appTick s.node _ t.input)

theorem delays_sample_le (t : BathroomTick) :
    t.delays.sample ≤ t.delays.motion ∧ t.delays.sample ≤ t.delays.fanCheck := by
  have hfirst := (List.pairwise_cons.mp t.ascending).1
  exact ⟨hfirst _ (by simp), hfirst _ (by simp)⟩

theorem quietSince_eq (s : BathroomRun) (t : BathroomTick) :
    (s.tick t).lastActive.getD 0 = s.quietSince t := by
  show (if t.input.motion then some (s.now + t.delays.sample) else s.lastActive).getD 0 = _
  unfold quietSince
  split <;> rfl

theorem MotionOk.quietSince_le (h : MotionOk s) (t : BathroomTick) :
    s.quietSince t ≤ s.now + t.delays.sample := by
  unfold quietSince
  split
  · exact Nat.le_refl _
  · exact h.lastActive_le.trans (Nat.le_add_right _ _)

theorem MotionOk.lastActive_eq (h : MotionOk s) (t : BathroomTick) :
    s.node.lastActive ((t.delays.map (s.now + ·)).map systemTime) t.input =
      systemTime (s.quietSince t) := by
  unfold Bathroom.lastActive quietSince
  split
  · rfl
  · exact h.shown

/-- `motionSensorActiveAgo` is the time without motion, modulo 2^32. -/
theorem MotionOk.motionAgo_eq (h : MotionOk s) (t : BathroomTick) :
    timeElapsedSince (systemTime (s.now + t.delays.motion))
      (s.node.lastActive ((t.delays.map (s.now + ·)).map systemTime) t.input) =
      s.quietFor t % systimeRange := by
  have hle := h.quietSince_le t
  have hdelay := (delays_sample_le t).1
  rw [h.lastActive_eq]
  exact Ticks.elapsed_clock (by decide) (by omega)

theorem motionOk_start (cfg : BathroomConfig) : MotionOk (start cfg) := ⟨Nat.le_refl 0, rfl⟩

theorem motionOk_step : Machine.Keeps step MotionOk := by
  intro s e h
  cases e with
  | fastTick delay door occupancy brightness =>
    obtain ⟨-, hmotion⟩ := s.node.room_appFastTick (systemTime (s.now + delay)) door occupancy
      brightness
    exact ⟨h.lastActive_le.trans (Nat.le_add_right _ _), hmotion.trans h.shown⟩
  | tick t =>
    have hle := h.quietSince_le t
    have hdelay := (delays_sample_le t).2
    refine ⟨?_, ?_⟩
    · show (s.tick t).lastActive.getD 0 ≤ s.now + t.delays.fanCheck
      rw [quietSince_eq]
      omega
    · show _ = systemTime ((s.tick t).lastActive.getD 0)
      rw [quietSince_eq, ← h.lastActive_eq]
      exact congrArg Room.motionSensorLastActive (Bathroom.room_appTick s.node _ t.input)
  | configUpdate cfg => exact ⟨h.lastActive_le, h.shown⟩

end BathroomRun

end HouseBus
