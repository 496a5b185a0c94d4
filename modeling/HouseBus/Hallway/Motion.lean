import HouseBus.Hallway

/-!
# Motion in the hallway, in real time

A fast tick that sees motion stores the system time. For 45 s it overrides the brightness, and
`app_tick` announces it. Both compare two readings of the 32-bit counter by their absolute values,
and not by the time elapsed. So they go wrong around a wrap:

- The override lasts 45 s exactly where the counter does not wrap before its end; behind its end it
  comes back in every epoch, up to where the end was in the first one (`hallway_override_iff`).
- New motion is announced exactly where its reading is above that of the last announcement
  (`HouseBus.Hallway.Announcements`).

The runs (`HallwayRun`) are in real time from power-on at tick 0.
-/

namespace HouseBus

namespace Hallway

/-- The condition of the override. -/
def Overridden (input : HallwayInput) (s : Hallway) : Prop :=
  input.compareClock <
    (s.triggerTime input + timeS2I hallwayMotionSensorMaxSeconds) % systimeRange

instance (input : HallwayInput) (s : Hallway) : Decidable (s.Overridden input) :=
  inferInstanceAs (Decidable (_ < _))

/-- The brightness that a fast tick wants. -/
theorem nextHallwayBrightness_eq (input : HallwayInput) (s : Hallway) :
    s.nextHallwayBrightness input =
      if s.Overridden input then (lightMode input.brightness input.hour).motion
      else (lightMode input.brightness input.hour).hallway := rfl

end Hallway

/-! ## Runs -/

/-- What happens to the node. A fast tick reads the clock `sample` ticks after the event before it
(if it sees motion), and then `compare` ticks later; `app_tick` reads it `delay` ticks after the
event before it. -/
inductive HallwayEvent
  | fastTick (input : HallwayInput) (sample compare : ℕ)
  | tick (delay : ℕ)

/-- The node at real tick `now`, with what its variables stand for: the last tick that sampled
motion, whether it was since the last `app_tick`, the tick that `last_trigger_time` shows, the last
announced motion, and the number of calls of `app_tick`. -/
structure HallwayRun where
  node : Hallway
  now : ℕ
  lastMotion : Option ℕ
  newMotion : Bool
  reference : ℕ
  announced : Option ℕ
  appTicks : ℕ

namespace HallwayRun

/-- Power-on. -/
def start : HallwayRun := ⟨.start, 0, none, false, 0, none, 0⟩

/-- The inputs of a fast tick, with the clock readings. -/
def fastTickInput (input : HallwayInput) (sample compare : ℕ) (s : HallwayRun) : HallwayInput :=
  { input with
    triggerClock := systemTime (s.now + sample)
    compareClock := systemTime (s.now + sample + compare) }

/-- A fast tick samples motion. -/
def samples (input : HallwayInput) : Bool := input.hasLightControl && input.motion

/-- The state after a fast tick. -/
def fastTick (input : HallwayInput) (sample compare : ℕ) (s : HallwayRun) : HallwayRun :=
  { s with
    node := s.node.appFastTick (s.fastTickInput input sample compare)
    now := s.now + sample + compare
    lastMotion := if samples input then some (s.now + sample) else s.lastMotion
    newMotion := samples input || s.newMotion }

/-- The tick that `last_trigger_time` shows at the comparison of `app_tick`. -/
def compared (delay : ℕ) (s : HallwayRun) : ℕ :=
  if s.node.lastTriggerTime = 0 then s.now + delay else s.reference

/-- The state after `app_tick`. -/
def tick (delay : ℕ) (s : HallwayRun) : HallwayRun :=
  let node := s.node.appTick (systemTime (s.now + delay))
  let sent : Bool := decide (s.node.motionMessages < node.motionMessages)
  { s with
    node := node
    now := s.now + delay
    newMotion := false
    reference := if sent then s.lastMotion.getD 0 else s.compared delay
    announced := if sent then s.lastMotion else s.announced
    appTicks := s.appTicks + 1 }

/-- The state after an event. -/
def step (s : HallwayRun) : HallwayEvent → HallwayRun
  | .fastTick input sample compare => s.fastTick input sample compare
  | .tick delay => s.tick delay

/-! ## The stored trigger time -/

/-- The lights leave the variables of the motion sensor and of `app_tick` as they are. -/
theorem setLights_motion (brightness : ℕ → UInt16) (s : Hallway) :
    (s.setLights brightness).hallwayMotionSensorTriggerTime = s.hallwayMotionSensorTriggerTime ∧
      (s.setLights brightness).lastTriggerTime = s.lastTriggerTime ∧
      (s.setLights brightness).motionMessages = s.motionMessages := by
  obtain ⟨pwm, hlights⟩ := s.setLights_eq brightness
  rw [hlights]
  exact ⟨rfl, rfl, rfl⟩

theorem stepAnimation_motion (uninitialised : ℕ → UInt16) (s : Hallway) :
    (s.stepAnimation uninitialised).hallwayMotionSensorTriggerTime =
        s.hallwayMotionSensorTriggerTime ∧
      (s.stepAnimation uninitialised).lastTriggerTime = s.lastTriggerTime ∧
      (s.stepAnimation uninitialised).motionMessages = s.motionMessages := by
  unfold Hallway.stepAnimation
  split
  · dsimp only
    split
    · exact setLights_motion _ _
    · exact ⟨rfl, rfl, rfl⟩
  · dsimp only
    exact setLights_motion _ s

theorem acceptBrightness_motion (vdda : ℕ → ℕ) (next : ℤ) (s : Hallway) :
    (s.acceptBrightness vdda next).hallwayMotionSensorTriggerTime =
        s.hallwayMotionSensorTriggerTime ∧
      (s.acceptBrightness vdda next).lastTriggerTime = s.lastTriggerTime ∧
      (s.acceptBrightness vdda next).motionMessages = s.motionMessages := by
  unfold Hallway.acceptBrightness
  split
  · dsimp only
    split <;> exact ⟨rfl, rfl, rfl⟩
  · exact ⟨rfl, rfl, rfl⟩

/-- What a fast tick does to these variables. -/
theorem appFastTick_motion (input : HallwayInput) (s : Hallway) :
    (s.appFastTick input).hallwayMotionSensorTriggerTime =
        (if samples input then input.triggerClock else s.hallwayMotionSensorTriggerTime) ∧
      (s.appFastTick input).lastTriggerTime = s.lastTriggerTime ∧
      (s.appFastTick input).motionMessages = s.motionMessages := by
  by_cases hcontrol : input.hasLightControl = true
  · obtain ⟨pwm, motion, hfast, -⟩ := s.appFastTick_lit hcontrol
    have hstep := fun s' : Hallway => stepAnimation_motion input.uninitialised
      (s'.acceptBrightness input.vdda (s.nextHallwayBrightness input))
    have haccept := acceptBrightness_motion input.vdda (s.nextHallwayBrightness input)
    rw [hfast, (hstep _).1, (hstep _).2.1, (hstep _).2.2, (haccept _).1, (haccept _).2.1,
      (haccept _).2.2, samples, hcontrol, Bool.true_and]
    exact ⟨rfl, rfl, rfl⟩
  · unfold Hallway.appFastTick samples
    rw [if_neg hcontrol, Bool.eq_false_of_not_eq_true hcontrol, Bool.false_and]
    exact ⟨rfl, rfl, rfl⟩

/-- `app_tick` leaves the trigger time. -/
theorem appTick_trigger (now : ℕ) (s : Hallway) :
    (s.appTick now).hallwayMotionSensorTriggerTime = s.hallwayMotionSensorTriggerTime := by
  unfold Hallway.appTick Hallway.sendMotionMessage
  by_cases hinit : s.lastTriggerTime = 0
  · simp only [if_pos hinit]
    split <;> rfl
  · simp only [if_neg hinit]
    split <;> rfl

/-- `hallway_motion_sensor_trigger_time` shows the last sampled motion. -/
structure MotionOk (s : HallwayRun) : Prop where
  lastMotion_le : s.lastMotion.getD 0 ≤ s.now
  shown : s.node.hallwayMotionSensorTriggerTime = systemTime (s.lastMotion.getD 0)

theorem motionOk_start : MotionOk start := ⟨Nat.le_refl 0, rfl⟩

theorem motionOk_step : Machine.Keeps step MotionOk := by
  intro s e h
  have hle := h.lastMotion_le
  cases e with
  | fastTick input sample compare =>
    obtain ⟨htrigger, -⟩ := appFastTick_motion (s.fastTickInput input sample compare) s.node
    by_cases hsamples : samples input = true
    · have hmotion : (s.fastTick input sample compare).lastMotion = some (s.now + sample) :=
        if_pos hsamples
      constructor
      · show (s.fastTick input sample compare).lastMotion.getD 0 ≤ s.now + sample + compare
        rw [hmotion]
        exact Nat.le_add_right _ _
      · show _ = systemTime ((s.fastTick input sample compare).lastMotion.getD 0)
        rw [hmotion]
        exact htrigger.trans (if_pos hsamples)
    · have hmotion : (s.fastTick input sample compare).lastMotion = s.lastMotion :=
        if_neg hsamples
      constructor
      · show (s.fastTick input sample compare).lastMotion.getD 0 ≤ s.now + sample + compare
        rw [hmotion]
        omega
      · show _ = systemTime ((s.fastTick input sample compare).lastMotion.getD 0)
        rw [hmotion, ← h.shown]
        exact htrigger.trans (if_neg hsamples)
  | tick delay => exact ⟨hle.trans (Nat.le_add_right _ _), (appTick_trigger _ _).trans h.shown⟩

/-! ## The override -/

/-- Behind the first motion a fast tick overrides the brightness exactly in the 45 s behind the last
one. -/
def OverriddenFor45s (s : HallwayRun) : HallwayEvent → Prop
  | .fastTick input sample compare =>
    input.hasLightControl = true → ∀ m ∈ (s.fastTick input sample compare).lastMotion,
      (s.node.Overridden (s.fastTickInput input sample compare) ↔
        s.now + sample + compare < m + timeS2I hallwayMotionSensorMaxSeconds)
  | .tick _ => True

/-- The counter does not wrap between `now` and the end `e` of the 45 s; behind the end, the time
since then without whole wraps ends before the next wrap. -/
def EndUnwrapped (now e : ℕ) : Prop :=
  if now < e then Ticks.epoch systimeRange now = Ticks.epoch systimeRange e
  else systemTime e + (now - e) % systimeRange < systimeRange

/-- Every fast tick behind the first motion comes at such a time. -/
def InUnwrapped (s : HallwayRun) : HallwayEvent → Prop
  | .fastTick input sample compare =>
    input.hasLightControl = true → ∀ m ∈ (s.fastTick input sample compare).lastMotion,
      EndUnwrapped (s.now + sample + compare) (m + timeS2I hallwayMotionSensorMaxSeconds)
  | .tick _ => True

/-- The condition of the override, by the ticks that it stands for. -/
theorem overridden_iff {s : HallwayRun} (h : MotionOk s) {input : HallwayInput}
    (hcontrol : input.hasLightControl = true) (sample compare : ℕ) {m : ℕ}
    (hm : m ∈ (s.fastTick input sample compare).lastMotion) :
    s.node.Overridden (s.fastTickInput input sample compare) ↔
      systemTime (s.now + sample + compare) <
        systemTime (m + timeS2I hallwayMotionSensorMaxSeconds) := by
  have hshown := (motionOk_step s (.fastTick input sample compare) h).shown
  have hlast : (step s (.fastTick input sample compare)).lastMotion = some m := hm
  have htrigger : s.node.triggerTime (s.fastTickInput input sample compare) = systemTime m := by
    rw [hlast, Option.getD_some] at hshown
    rw [← hshown]
    obtain ⟨heq, -⟩ := appFastTick_motion (s.fastTickInput input sample compare) s.node
    refine Eq.trans ?_ heq.symm
    unfold Hallway.triggerTime samples
    rw [show (s.fastTickInput input sample compare).hasLightControl = true from hcontrol,
      Bool.true_and]
  unfold Hallway.Overridden
  rw [htrigger]
  show _ < (m % systimeRange + _) % systimeRange ↔ _ < (m + _) % systimeRange
  rw [Nat.mod_add_mod]
  rfl

/-- **One fast tick**: the override is right exactly at these times. -/
theorem overriddenFor45s_iff {s : HallwayRun} (h : MotionOk s) (e : HallwayEvent) :
    OverriddenFor45s s e ↔ InUnwrapped s e := by
  cases e with
  | tick delay => exact Iff.rfl
  | fastTick input sample compare =>
    unfold OverriddenFor45s InUnwrapped
    apply imp_congr_right
    intro hcontrol
    apply forall₂_congr
    intro m hm
    have hle := (motionOk_step s (.fastTick input sample compare) h).lastMotion_le
    have hlast : (step s (.fastTick input sample compare)).lastMotion = some m := hm
    rw [hlast, Option.getD_some] at hle
    have hbound : m + timeS2I hallwayMotionSensorMaxSeconds <
        s.now + sample + compare + systimeRange :=
      Nat.add_lt_add_of_le_of_lt hle (by decide)
    rw [overridden_iff h hcontrol sample compare hm]
    exact Ticks.clock_lt_deadline_iff (by decide) hbound

/-- **When the override lasts 45 s**: in the runs in which the counter does not wrap between a fast
tick and the end of the 45 s, and does not come back below it. -/
theorem hallway_override_iff (es : List HallwayEvent) :
    Machine.Meets step OverriddenFor45s start es ↔ Machine.Meets step InUnwrapped start es :=
  (motionOk_step.keepsIf InUnwrapped).meets_congr (fun _ e h => overriddenFor45s_iff h e)
    motionOk_start es

/-- Motion one second before the first wrap. -/
def motionBeforeWrap : List HallwayEvent :=
  [.fastTick ⟨true, 0, 12, true, 0, 0, fun _ => 0, fun _ => 0⟩ (systimeRange - timeS2I 1) 0]

/-- The fast tick that samples it does not override the brightness. -/
theorem not_hallway_override :
    ¬ ∀ es : List HallwayEvent, Machine.Meets step OverriddenFor45s start es := by
  intro h
  obtain ⟨hfast, -⟩ := h motionBeforeWrap
  have hover := (hfast rfl (systimeRange - timeS2I 1) rfl).mpr (by decide)
  exact absurd hover (by decide +kernel)

end HallwayRun

end HouseBus
