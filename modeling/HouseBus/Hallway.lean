import HouseBus.Lib.Machine
import HouseBus.System
import Mathlib.Data.List.FinRange
import Mathlib.Logic.Equiv.Basic

/-!
# The hallway light (`sw/nodes/hallway_light.c`)

`app_fast_tick` chooses the brightness of the hallway by daylight, hour and motion. A change starts
a fade of 600 steps, light by light in a shuffled order; a change during a fade reverses it.
Without a change the lights play around the brightness.

The pulse widths are by channel (`pwm`): the lights are the channels 1 to 5, the staircase has 6
and 7. Values of other modules are inputs: any values.
-/

namespace HouseBus

/-- `HALLWAY_START` -/
def hallwayStart : ℕ := 1

/-- `HALLWAY_LIGHTS` -/
def hallwayLights : ℕ := 5

/-- `STAIRCASE_K20_1` -/
def staircaseK201 : ℕ := 6

/-- `STAIRCASE_K20_2` -/
def staircaseK202 : ℕ := 7

/-- `HALLWAY_MOTION_SENSOR_MAX_SECONDS` -/
def hallwayMotionSensorMaxSeconds : ℕ := 45

/-- `ANIMATION_NONE`, `ANIMATION_FADE`, `ANIMATION_PLAY` -/
inductive Animation
  | none
  | fade
  | play
  deriving DecidableEq

/-- `animation_state_t`; `from` and `to` are `fadeFrom` and `fadeTo`. -/
structure AnimationState where
  animation : Animation
  fadeFrom : ℤ
  fadeTo : ℤ
  length : ℤ
  counter : ℤ
  lightsIndex : Fin hallwayLights → ℕ

/-- `get_fade_val` -/
def getFadeVal (step fadeFrom fadeTo length : ℤ) : ℤ :=
  if step < 0 then fadeFrom
  else if length < step then fadeTo
  else fadeFrom + ((fadeTo - fadeFrom) * step).tdiv length

/-! ## The light order -/

section Shuffle

variable {α : Type*} {n : ℕ}

/-- One round of `shuffle`: `array[i]` and `array[vdda % n]` change places. -/
def shuffleRound (vdda : ℕ → ℕ) (array : Fin n → α) (i : Fin n) : Fin n → α :=
  let j : Fin n := ⟨vdda i % n, Nat.mod_lt _ i.pos⟩
  Function.update (Function.update array i (array j)) j (array i)

/-- `shuffle`; `vdda i` is what `analog_get_vdda` returns in round `i`. -/
def shuffle (vdda : ℕ → ℕ) (array : Fin n → α) : Fin n → α :=
  (List.finRange n).foldl (shuffleRound vdda) array

/-- A round is a swap of two places. -/
theorem shuffleRound_eq (vdda : ℕ → ℕ) (array : Fin n → α) (i : Fin n) :
    ∃ j, shuffleRound vdda array i = array ∘ Equiv.swap j i := by
  refine ⟨⟨vdda i % n, Nat.mod_lt _ i.pos⟩, ?_⟩
  rw [Equiv.comp_swap_eq_update]
  rfl

/-- **The shuffled array** is the array in another order. -/
theorem shuffle_eq_comp (vdda : ℕ → ℕ) (array : Fin n → α) :
    ∃ order : Equiv.Perm (Fin n), shuffle vdda array = array ∘ order := by
  unfold shuffle
  induction List.finRange n generalizing array with
  | nil => exact ⟨Equiv.refl _, rfl⟩
  | cons i rounds ih =>
    obtain ⟨j, hround⟩ := shuffleRound_eq vdda array i
    obtain ⟨order, hrest⟩ := ih (array ∘ Equiv.swap j i)
    rw [List.foldl_cons, hround, hrest]
    exact ⟨order.trans (Equiv.swap j i), rfl⟩

end Shuffle

namespace AnimationState

/-- The offset of a light to the one before it. -/
def offset (a : AnimationState) : ℤ := a.length.tdiv 6

/-- The stores to `brightness` in a fade: index and value. -/
def fadeStores (a : AnimationState) : List (ℕ × UInt16) :=
  (List.finRange hallwayLights).map fun i =>
    (a.lightsIndex i, UInt16.ofInt (getFadeVal (a.counter - a.offset * (i.val : ℤ)) a.fadeFrom
      a.fadeTo (a.length - hallwayLights * a.offset)))

/-- The stores to `brightness` in `ANIMATION_PLAY`. The factors 1.4 and 0.6 are exact for the
brightness values that occur. -/
def playStores (a : AnimationState) : List (ℕ × UInt16) :=
  let half := a.length.tdiv 2
  let high := (a.fadeFrom * 14).tdiv 10
  let low := (a.fadeFrom * 6).tdiv 10
  let stores := (List.finRange hallwayLights).map fun i =>
    let up : Bool := decide (0 < i.val % 2) != decide (half ≤ a.counter)
    (a.lightsIndex i, UInt16.ofInt (getFadeVal (a.counter.tmod half) (if up then low else high)
      (if up then high else low) half))
  stores ++ [(2, UInt16.ofInt a.fadeFrom)]

/-- `animate`: what it returns, the stores to `brightness`, and the state. -/
def animate (a : AnimationState) : Bool × List (ℕ × UInt16) × AnimationState :=
  match a.animation with
  | .fade =>
    if a.length ≤ a.counter then (false, [], a)
    else (true, a.fadeStores, { a with counter := a.counter + 1 })
  | .play => (true, a.playStores, { a with counter := (a.counter + 1).tmod a.length })
  | .none => (true, [], a)

theorem animate_fade {a : AnimationState} (h : a.animation = .fade) :
    a.animate = if a.length ≤ a.counter then (false, [], a)
      else (true, a.fadeStores, { a with counter := a.counter + 1 }) := by
  obtain ⟨animation, fadeFrom, fadeTo, length, counter, lightsIndex⟩ := a
  subst h
  rfl

/-- `start_animation_fade` -/
def startFade (vdda : ℕ → ℕ) (fadeFrom fadeTo length : ℤ) : AnimationState where
  animation := .fade
  fadeFrom := fadeFrom
  fadeTo := fadeTo
  length := length
  counter := 0
  lightsIndex := shuffle vdda fun i => i.val

/-- `reverse_animation_fade` -/
def reverseFade (a : AnimationState) : AnimationState :=
  { a with counter := a.length - a.counter, fadeFrom := a.fadeTo, fadeTo := a.fadeFrom }

/-- `start_animation_play`; `to` stays. -/
def startPlay (fadeFrom length : ℤ) (a : AnimationState) : AnimationState :=
  { a with
    animation := .play
    counter := length.tdiv 4
    fadeFrom := fadeFrom
    length := length
    lightsIndex := fun i => i.val }

end AnimationState

/-! ## The node -/

/-- The static variables of the node, the pulse widths, and the number of motion messages sent. -/
structure Hallway where
  hallwayMotionSensorTriggerTime : ℕ
  hallwayBrightness : ℤ
  hallwayMotionSensorBrightness : ℤ
  hallwayAnimation : Animation
  animation : AnimationState
  lastTriggerTime : ℕ
  pwm : ℕ → UInt16
  motionMessages : ℕ

/-- The inputs of a fast tick: configuration, daylight, UTC hour, motion sensor, the two clock
readings, the values for the shuffle, and what is in the array `brightness` before. -/
structure HallwayInput where
  hasLightControl : Bool
  brightness : ℕ
  hour : ℕ
  motion : Bool
  triggerClock : ℕ
  compareClock : ℕ
  vdda : ℕ → ℕ
  uninitialised : ℕ → UInt16

/-- What daylight and hour choose: the brightness without and with motion, and the staircase. -/
structure LightMode where
  hallway : ℤ
  motion : ℤ
  staircase1 : UInt16
  staircase2 : UInt16

/-- The modes of `app_fast_tick`. -/
def lightMode (brightness hour : ℕ) : LightMode :=
  if brightness < 2 then
    if 6 ≤ hour ∧ hour ≤ 22 then ⟨500, 20000, 4000, 2000⟩ else ⟨70, 2500, 500, 300⟩
  else if brightness < 5 then ⟨0, 20000, 0, 0⟩
  else ⟨0, 0, 0, 0⟩

namespace Hallway

/-- `pwm_set_dc` -/
def pwmSetDc (channel : ℕ) (dc : UInt16) (s : Hallway) : Hallway :=
  { s with pwm := Function.update s.pwm channel dc }

/-- The lights get the values of `brightness`. -/
def setLights (brightness : ℕ → UInt16) (s : Hallway) : Hallway :=
  (List.range hallwayLights).foldl (fun s i => s.pwmSetDc (hallwayStart + i) (brightness i)) s

/-- The lights change nothing else. -/
theorem setLights_eq (brightness : ℕ → UInt16) (s : Hallway) :
    ∃ pwm, s.setLights brightness = { s with pwm := pwm } := by
  unfold setLights
  induction List.range hallwayLights generalizing s with
  | nil => exact ⟨s.pwm, rfl⟩
  | cons i lights ih =>
    obtain ⟨pwm, hrest⟩ := ih (s.pwmSetDc (hallwayStart + i) (brightness i))
    rw [List.foldl_cons, hrest]
    exact ⟨pwm, rfl⟩

/-- The motion sensor in `app_fast_tick`. -/
def triggerTime (input : HallwayInput) (s : Hallway) : ℕ :=
  if input.motion then input.triggerClock else s.hallwayMotionSensorTriggerTime

/-- `next_hallway_brightness` -/
def nextHallwayBrightness (input : HallwayInput) (s : Hallway) : ℤ :=
  let mode := lightMode input.brightness input.hour
  if input.compareClock <
      (s.triggerTime input + timeS2I hallwayMotionSensorMaxSeconds) % systimeRange then
    mode.motion
  else mode.hallway

/-- A changed brightness starts a fade, or reverses it. -/
def acceptBrightness (vdda : ℕ → ℕ) (next : ℤ) (s : Hallway) : Hallway :=
  if next ≠ s.hallwayBrightness then
    let s' :=
      if s.hallwayAnimation = .fade then { s with animation := s.animation.reverseFade }
      else
        { s with
          animation := .startFade vdda s.hallwayBrightness next 600
          hallwayAnimation := .fade }
    { s' with hallwayBrightness := next }
  else s

/-- The animation in `app_fast_tick`. -/
def stepAnimation (uninitialised : ℕ → UInt16) (s : Hallway) : Hallway :=
  if s.hallwayAnimation ≠ .none then
    let animated := s.animation.animate
    let s := { s with animation := animated.2.2 }
    if animated.1 then
      s.setLights (animated.2.1.foldl (fun b w => Function.update b w.1 w.2) uninitialised)
    else { s with hallwayAnimation := .none }
  else
    let s := s.setLights fun _ => UInt16.ofInt s.hallwayBrightness
    { s with
      animation := s.animation.startPlay s.hallwayBrightness 1024
      hallwayAnimation := .play }

/-- `app_fast_tick` -/
def appFastTick (input : HallwayInput) (s : Hallway) : Hallway :=
  if input.hasLightControl then
    let mode := lightMode input.brightness input.hour
    let lit := { ((s.pwmSetDc staircaseK201 mode.staircase1).pwmSetDc staircaseK202
        mode.staircase2) with
      hallwayMotionSensorBrightness := mode.motion
      hallwayMotionSensorTriggerTime := s.triggerTime input }
    (lit.acceptBrightness input.vdda (s.nextHallwayBrightness input)).stepAnimation
      input.uninitialised
  else s

/-- A fast tick sets staircase and motion sensor, and then what the lights show. -/
theorem appFastTick_lit (s : Hallway) {input : HallwayInput} (h : input.hasLightControl = true) :
    ∃ (pwm : ℕ → UInt16) (motion : ℤ), s.appFastTick input =
        (({ s with
            pwm := pwm
            hallwayMotionSensorBrightness := motion
            hallwayMotionSensorTriggerTime := s.triggerTime input } : Hallway).acceptBrightness
          input.vdda (s.nextHallwayBrightness input)).stepAnimation input.uninitialised ∧
      ∀ i < hallwayLights, pwm (hallwayStart + i) = s.pwm (hallwayStart + i) := by
  unfold appFastTick
  rw [if_pos h]
  refine ⟨_, _, rfl, fun i hi => ?_⟩
  simp only [hallwayLights] at hi
  have hne1 : hallwayStart + i ≠ staircaseK201 := by simp only [hallwayStart, staircaseK201]; omega
  have hne2 : hallwayStart + i ≠ staircaseK202 := by simp only [hallwayStart, staircaseK202]; omega
  exact (Function.update_of_ne hne2 _ _).trans (Function.update_of_ne hne1 _ _)

/-- `send_motion_message` -/
def sendMotionMessage (s : Hallway) : Hallway := { s with motionMessages := s.motionMessages + 1 }

/-- `app_tick`, at the system time `now`. -/
def appTick (now : ℕ) (s : Hallway) : Hallway :=
  let s := if s.lastTriggerTime = 0 then { s with lastTriggerTime := now } else s
  if s.lastTriggerTime < s.hallwayMotionSensorTriggerTime then
    { s.sendMotionMessage with lastTriggerTime := s.hallwayMotionSensorTriggerTime }
  else s

/-- The initial values of the static variables; `app_init` sets all lights to 0.1. -/
def start : Hallway where
  hallwayMotionSensorTriggerTime := 0
  hallwayBrightness := 0
  hallwayMotionSensorBrightness := 20000
  hallwayAnimation := .none
  animation := ⟨.none, 0, 0, 0, 0, fun _ => 0⟩
  lastTriggerTime := 0
  pwm := fun _ => 6500
  motionMessages := 0

end Hallway

end HouseBus
