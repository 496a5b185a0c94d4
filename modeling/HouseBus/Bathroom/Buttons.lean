import HouseBus.Bathroom
import HouseBus.Lib.Runs

/-!
# Debouncing of door and switches (`readButtons`)

A pressed switch is low. Its samples are compared with 0, so its counter is the length of the last
run of low samples, up to 11 (`SwitchOk`): each run of 11 low samples raises one press. The samples
of the door sensor are compared with the one before, and the counter is at most the length of their
last run. `buttons_debounced` has both for every run of the node.
-/

namespace HouseBus

open Runs (countRuns lastRun)

/-! ## A switch -/

/-- A sample of this level sets `pressed`, when it was read since the last press. -/
def Switch.Raises (level : Bool) (s : Switch) : Prop :=
  (Bathroom.sampleSwitch level { s with pressed := false }).pressed = true

instance (level : Bool) (s : Switch) : Decidable (s.Raises level) :=
  inferInstanceAs (Decidable (_ = true))

theorem Switch.raises_iff (level : Bool) (s : Switch) :
    s.Raises level ↔ level = false ∧ s.count = 10 := by
  unfold Raises Bathroom.sampleSwitch
  cases level <;> simp

theorem Switch.count_sample (level : Bool) (s : Switch) :
    (Bathroom.sampleSwitch level s).count =
      if level = false then min (s.count + 1) (max s.count 11) else 0 := by
  unfold Bathroom.sampleSwitch
  cases level with
  | false =>
    rw [if_pos rfl, if_pos rfl]
    dsimp only
    split <;> omega
  | true => rfl

/-- The counter has the length of the last run of low samples, and the presses are the long runs. -/
structure SwitchOk (switchCount : ℕ) (samples : List Bool) (presses : ℕ) : Prop where
  count : switchCount = min (lastRun false samples) 11
  presses : presses = countRuns false 11 samples

theorem SwitchOk.sample {s : Switch} {samples : List Bool} {presses : ℕ}
    (h : SwitchOk s.count samples presses) (level : Bool) :
    SwitchOk (Bathroom.sampleSwitch level s).count (samples ++ [level])
      (presses + if s.Raises level then 1 else 0) := by
  have hcount := h.count
  constructor
  · rw [Switch.count_sample]
    cases level with
    | false =>
      rw [if_pos rfl, Runs.lastRun_concat_self]
      omega
    | true => rw [Runs.lastRun_concat_of_ne (Bool.noConfusion)]; rfl
  · rw [Runs.countRuns_concat (by decide), ← h.presses]
    -- the counter is 10 when the run before the sample has length 10
    have hten : s.count = 10 ↔ lastRun false samples + 1 = 11 := by omega
    simp only [Switch.raises_iff, hten]

/-! ## The run of the node -/

/-- The node, the samples of its inputs, and how often the switches were raised. -/
structure ButtonRun where
  bathroom : BathroomRun
  doorSamples : List Bool
  occupancySamples : List Bool
  occupancyPresses : ℕ
  brightnessSamples : List Bool
  brightnessPresses : ℕ

namespace ButtonRun

/-- Power-on. -/
def start (cfg : BathroomConfig) : ButtonRun := ⟨.start cfg, [], [], 0, [], 0⟩

/-- The state after an event. -/
def step (s : ButtonRun) (e : BathroomEvent) : ButtonRun :=
  let bathroom := s.bathroom.step e
  match e with
  | .fastTick _ door occupancy brightness =>
    { bathroom := bathroom
      doorSamples := s.doorSamples ++ [door]
      occupancySamples := s.occupancySamples ++ [occupancy]
      occupancyPresses := s.occupancyPresses +
        if s.bathroom.node.occupancySwitch.Raises occupancy then 1 else 0
      brightnessSamples := s.brightnessSamples ++ [brightness]
      brightnessPresses := s.brightnessPresses +
        if s.bathroom.node.brightnessSwitch.Raises brightness then 1 else 0 }
  | .tick _ | .configUpdate _ => { s with bathroom := bathroom }

/-- `door_closed` changes only at a sample that ends a run of at least 102 equal ones, to the
negated level of the run. -/
def DoorDebounced (s : ButtonRun) (e : BathroomEvent) : Prop :=
  (s.step e).bathroom.node.doorClosed ≠ s.bathroom.node.doorClosed →
    ∃ delay door occupancy brightness, e = .fastTick delay door occupancy brightness ∧
      102 ≤ lastRun door (s.step e).doorSamples ∧
      (s.step e).bathroom.node.doorClosed = !door

end ButtonRun

/-! ## The door sensor -/

namespace Bathroom

variable (now : ℕ) (door : Bool) (b : Bathroom)

theorem doorSensorCount_sampleDoor :
    (b.sampleDoor now door).doorSensorCount =
      if door = b.doorSensorLast then min (b.doorSensorCount + 1) (max b.doorSensorCount 101)
      else 0 := by
  unfold sampleDoor
  dsimp only
  split
  · split
    · show b.doorSensorCount = _
      omega
    · show b.doorSensorCount + 1 = _
      omega
  · rfl

theorem doorClosed_sampleDoor :
    (b.sampleDoor now door).doorClosed =
      if door = b.doorSensorLast ∧ 100 < b.doorSensorCount then !door else b.doorClosed := by
  unfold sampleDoor
  dsimp only
  by_cases hlast : door = b.doorSensorLast
  · rw [if_pos hlast]
    by_cases hlong : 100 < b.doorSensorCount
    · rw [if_pos hlong]
      exact (if_pos ⟨hlast, hlong⟩).symm
    · rw [if_neg hlong]
      exact (if_neg fun h => hlong h.2).symm
  · rw [if_neg hlast]
    exact (if_neg fun h => hlast h.1).symm

/-- The variables that debouncing depends on, and the door. -/
structure Buttons where
  doorClosed : Bool
  doorSensorLast : Bool
  doorSensorCount : ℕ
  occupancyCount : ℕ
  brightnessCount : ℕ

def buttons (b : Bathroom) : Buttons :=
  ⟨b.doorClosed, b.doorSensorLast, b.doorSensorCount, b.occupancySwitch.count,
    b.brightnessSwitch.count⟩

theorem buttons_ignores : Ignores buttons := fun _ _ _ _ _ _ _ _ => rfl

/-- `app_tick` leaves them alone: reading a key clears `pressed` only. -/
theorem buttons_appTick (clock : TickClock) (input : BathroomInput) :
    (b.appTick clock input).buttons = b.buttons := by
  have htick : ∀ b' : Bathroom, (b'.occupancyIndicatorTick clock).buttons = b'.buttons :=
    fun b' => buttons_ignores.showMode _
  show (lightTick _).buttons = _
  rw [buttons_ignores.lightTick, buttons_ignores.fanControlTick, htick, buttons_ignores.readLdr]
  rfl

theorem buttons_appFastTick (occupancy brightness : Bool) :
    (b.appFastTick now door occupancy brightness).buttons =
      ⟨(b.sampleDoor now door).doorClosed, door, (b.sampleDoor now door).doorSensorCount,
        (sampleSwitch occupancy b.occupancySwitch).count,
        (sampleSwitch brightness b.brightnessSwitch).count⟩ := by
  rw [appFastTick, buttons_ignores.blinkTick]
  unfold readButtons sampleDoor
  dsimp only
  split
  · split <;> rfl
  · rfl

end Bathroom

/-! ## Every run -/

namespace ButtonRun

open Bathroom

/-- The counters of the node show the samples. -/
structure ButtonsOk (b : Buttons) (s : ButtonRun) : Prop where
  door : b.doorSensorCount ≤ lastRun b.doorSensorLast s.doorSamples
  occupancy : SwitchOk b.occupancyCount s.occupancySamples s.occupancyPresses
  brightness : SwitchOk b.brightnessCount s.brightnessSamples s.brightnessPresses

theorem buttonsOk_start (cfg : BathroomConfig) :
    ButtonsOk (start cfg).bathroom.node.buttons (start cfg) :=
  ⟨Nat.le_refl 0, ⟨rfl, rfl⟩, ⟨rfl, rfl⟩⟩

theorem buttonsOk_step : Machine.Keeps step fun s => ButtonsOk s.bathroom.node.buttons s := by
  intro s e h
  cases e with
  | fastTick delay door occupancy brightness =>
    show ButtonsOk (Bathroom.appFastTick _ _ _ _ _).buttons _
    rw [buttons_appFastTick]
    refine ⟨?_, h.occupancy.sample occupancy, h.brightness.sample brightness⟩
    show (sampleDoor _ _ _).doorSensorCount ≤ lastRun door (s.doorSamples ++ [door])
    rw [doorSensorCount_sampleDoor, Runs.lastRun_concat_self]
    split
    · rename_i hlast
      rw [hlast]
      exact (Nat.min_le_left _ _).trans (Nat.succ_le_succ h.door)
    · exact Nat.zero_le _
  | tick t =>
    show ButtonsOk (Bathroom.appTick _ _ _).buttons _
    rw [buttons_appTick]
    exact ⟨h.door, h.occupancy, h.brightness⟩
  | configUpdate cfg => exact ⟨h.door, h.occupancy, h.brightness⟩

theorem doorDebounced {s : ButtonRun} (h : ButtonsOk s.bathroom.node.buttons s)
    (e : BathroomEvent) : DoorDebounced s e := by
  intro hchanged
  cases e with
  | fastTick delay door occupancy brightness =>
    refine ⟨delay, door, occupancy, brightness, rfl, ?_⟩
    have hdoor : (s.step (.fastTick delay door occupancy brightness)).bathroom.node.doorClosed =
        (s.bathroom.node.sampleDoor (systemTime (s.bathroom.now + delay)) door).doorClosed :=
      congrArg Buttons.doorClosed (s.bathroom.node.buttons_appFastTick _ door occupancy brightness)
    rw [hdoor, doorClosed_sampleDoor] at hchanged ⊢
    split at hchanged
    · rename_i hlong
      obtain ⟨hlast, hcount⟩ := hlong
      rw [if_pos ⟨hlast, hcount⟩]
      refine ⟨?_, rfl⟩
      have hrun := h.door
      show 102 ≤ lastRun door (s.doorSamples ++ [door])
      rw [Runs.lastRun_concat_self, hlast]
      exact Nat.succ_le_succ (Nat.le_trans hcount hrun)
    · exact absurd rfl hchanged
  | tick t =>
    exact absurd (congrArg Buttons.doorClosed (s.bathroom.node.buttons_appTick _ t.input)) hchanged
  | configUpdate cfg => exact absurd rfl hchanged

/-- **Debouncing**: whatever the samples, and whatever the node does between them, a switch was
raised once for each run of at least 11 low samples, and the door was changed by long runs only. -/
theorem buttons_debounced (cfg : BathroomConfig) (es : List BathroomEvent) :
    (Machine.run step (start cfg) es).occupancyPresses =
        countRuns false 11 (Machine.run step (start cfg) es).occupancySamples ∧
      (Machine.run step (start cfg) es).brightnessPresses =
        countRuns false 11 (Machine.run step (start cfg) es).brightnessSamples ∧
      Machine.Meets step DoorDebounced (start cfg) es := by
  have hok := buttonsOk_step.run (buttonsOk_start cfg) es
  refine ⟨hok.occupancy.presses, hok.brightness.presses, ?_⟩
  exact buttonsOk_step.meets (fun _ e h => doorDebounced h e) (buttonsOk_start cfg) es

end ButtonRun

end HouseBus
