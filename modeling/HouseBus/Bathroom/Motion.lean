import HouseBus.Bathroom

/-!
# Motion empties and fills the room

A tick declares the room empty when the motion sensor was quiet for too long. In
`OCCUPANCY_MODE_PRIVATE` there is a second reason: no motion since the door was closed. Motion
counts for this only from 120 s after the door on, and it is missed from 120 s on: so what the
sensor saw up to then is forgotten, and the room is declared empty around someone
(`bathroom_emptied_iff`).

The room becomes occupied by a small age of the last motion. The age is taken modulo 2^32, and from
0 before any motion (`bathroom_filled_iff`).
-/

namespace HouseBus

namespace BathroomRun

open Occupancy
open Bathroom (TickClock)

/-! ## Into `OCCUPANCY_MODE_EMPTY` -/

/-- A tick that declares the room empty sees no motion for more than `MOTION_TRIGGER_ACTIVE_S`. -/
def EmptiedWhenQuiet (s : BathroomRun) : BathroomEvent → Prop
  | .tick t =>
    s.node.occupancy.state ≠ .empty → (s.tick t).node.occupancy.state = .empty →
      timeS2I motionTriggerActiveS < s.quietFor t
  | _ => True

/-- The tick misses the motion behind a closed door: in private mode without a valid press, 120 s
after the door, without motion from 120 s after the door on, but with motion in the last 60 s. -/
def MissesMotion (s : BathroomRun) (t : BathroomTick) : Prop :=
  s.node.occupancy.state = .privateMode ∧ s.validPress t = 0 ∧
    s.node.doorClosed = true ∧ s.node.occupancy.activeSinceDoorClosed = false ∧
    timeS2I 120 < timeElapsedSince (systemTime (s.now + t.delays.door)) s.node.doorSensorLastOpen ∧
    timeElapsedSince (systemTime (s.now + t.delays.door)) s.node.doorSensorLastOpen ≤
      timeS2I 120 + s.quietFor t ∧
    s.quietFor t ≤ timeS2I 60

/-- No tick misses it. -/
def NoMissedMotion (s : BathroomRun) : BathroomEvent → Prop
  | .tick t => ¬ s.MissesMotion t
  | _ => True

/-- When the mode becomes empty. -/
theorem nextMode_eq_empty_iff {doorClosed active : Bool} {motionAgo doorOpenAgo pressedAt : ℕ}
    {mode : OccupancyMode} (hmode : mode ≠ .empty) :
    (nextMode doorClosed active motionAgo doorOpenAgo pressedAt mode).1 = .empty ↔
      pressedAt = 0 ∧
        (timeS2I (if mode = .privateMode then 900 else 60) < motionAgo ∨
          mode = .privateMode ∧ doorClosed = true ∧ timeS2I 120 < doorOpenAgo ∧
            active = false) := by
  by_cases hpress : pressedAt = 0
  · subst hpress
    cases mode with
    | empty => exact absurd rfl hmode
    | openInUse =>
      by_cases hquiet : timeS2I 60 < motionAgo
      · simp [nextMode, motionTriggerActiveS, hquiet]
      · by_cases hused : doorClosed = true ∧ active = true <;>
          simp [nextMode, motionTriggerActiveS, hquiet, hused]
    | inUse =>
      by_cases hquiet : timeS2I 60 < motionAgo
      · simp [nextMode, motionTriggerActiveS, hquiet]
      · by_cases hopen : doorClosed = true <;>
          simp [nextMode, motionTriggerActiveS, hquiet, hopen]
    | privateMode =>
      by_cases hquiet : timeS2I 900 < motionAgo
      · simp [nextMode, motionTriggerActiveDoorClosedS, hquiet]
      · simp [nextMode, motionTriggerActiveDoorClosedS, motionTriggerAfterDoorCloseNotEmptyS,
          hquiet, and_assoc]
        exact fun _ _ => decide_eq_true_iff
  · -- a valid press goes into private mode, or back from it
    cases mode <;> simp [nextMode, hpress] at hmode ⊢

/-- `motion_sensor_active_since_door_closed` stays unset. -/
theorem nextActive_eq_false_iff {motionAgo doorOpenAgo : ℕ} {o : Occupancy}
    (hdoor : timeS2I 120 < doorOpenAgo) :
    o.nextActive true motionAgo doorOpenAgo = false ↔
      o.activeSinceDoorClosed = false ∧ doorOpenAgo ≤ timeS2I 120 + motionAgo := by
  unfold nextActive
  cases o.activeSinceDoorClosed with
  | true => simp
  | false =>
    rw [if_pos ⟨rfl, Bool.false_ne_true⟩, motionTriggerBlockAfterDoorCloseS,
      decide_eq_false_iff_not, eq_self_iff_true, true_and]
    omega

/-- **One tick**: motion in the last 60 s and an empty room are exactly the missed motion. -/
theorem emptiedWhenQuiet_iff {s : BathroomRun} (h : MotionOk s) (e : BathroomEvent) :
    EmptiedWhenQuiet s e ↔ NoMissedMotion s e := by
  cases e with
  | fastTick | configUpdate => exact Iff.rfl
  | tick t =>
    have hago := h.motionAgo_eq t
    have hmod : s.quietFor t % systimeRange ≤ s.quietFor t := Nat.mod_le _ _
    unfold EmptiedWhenQuiet NoMissedMotion MissesMotion validPress
    simp only [occupancy_tick, next, hago]
    generalize hpress : s.node.occupancy.validPress _ _ _ = pressedAt
    generalize timeElapsedSince (systemTime (s.now + t.delays.door)) _ = doorOpenAgo
    generalize s.quietFor t = quiet at hmod
    constructor
    · rintro hquiet ⟨hmode, hvalid, hclosed, hactive, hdoor, hblocked, hrecent⟩
      have hempty := hquiet (by rw [hmode]; decide) ?_
      · simp only [motionTriggerActiveS] at hempty
        omega
      · have hsmall : quiet % systimeRange = quiet := by
          simp only [timeS2I] at hrecent
          exact Nat.mod_eq_of_lt (by simp only [systimeRange]; omega)
        rw [hmode, nextMode_eq_empty_iff (by decide), hsmall, hclosed,
          nextActive_eq_false_iff hdoor]
        exact ⟨hvalid, .inr ⟨rfl, rfl, hdoor, hactive, hblocked⟩⟩
    · intro hno hmode hempty
      obtain ⟨hvalid, hold | ⟨hprivate, hclosed, hdoor, hactive⟩⟩ :=
        (nextMode_eq_empty_iff hmode).mp hempty
      · simp only [timeS2I, motionTriggerActiveS] at hold ⊢
        split at hold <;> omega
      · by_contra hrecent
        rw [hclosed, nextActive_eq_false_iff hdoor] at hactive
        have hsmall : quiet % systimeRange ≤ quiet := hmod
        apply hno
        refine ⟨hprivate, hvalid, hclosed, hactive.1, hdoor, ?_, Nat.le_of_not_lt hrecent⟩
        omega

/-- **When the room is emptied only after the timeout**: in the runs none of whose ticks misses the
motion behind a closed door. -/
theorem bathroom_emptied_iff (cfg : BathroomConfig) (es : List BathroomEvent) :
    Machine.Meets step EmptiedWhenQuiet (start cfg) es ↔
      Machine.Meets step NoMissedMotion (start cfg) es :=
  (motionOk_step.keepsIf NoMissedMotion).meets_congr (fun _ e h => emptiedWhenQuiet_iff h e)
    (motionOk_start cfg) es

/-- The door is closed and the key pressed, someone enters private mode and moves every second for
two minutes, and then not for one second. -/
def movesForTwoMinutes : List BathroomEvent :=
  List.replicate 102 (.fastTick 50 false false true) ++
    List.replicate 119 (.tick (secondTick true)) ++ [.tick (secondTick false)]

instance (s : BathroomRun) : ∀ e, Decidable (EmptiedWhenQuiet s e)
  | .fastTick _ _ _ _ | .configUpdate _ => isTrue trivial
  | .tick t =>
    inferInstanceAs (Decidable (s.node.occupancy.state ≠ .empty →
      (s.tick t).node.occupancy.state = .empty → timeS2I motionTriggerActiveS < s.quietFor t))

/-- The room is declared empty around them. -/
theorem not_bathroom_emptied :
    ¬ ∀ (cfg : BathroomConfig) (es : List BathroomEvent),
      Machine.Meets step EmptiedWhenQuiet (start cfg) es := by
  intro h
  have hfails : ¬ Machine.Meets step EmptiedWhenQuiet (start ⟨70000, 600⟩) movesForTwoMinutes := by
    decide +kernel
  exact hfails (h ⟨70000, 600⟩ movesForTwoMinutes)

/-! ## Out of `OCCUPANCY_MODE_EMPTY` -/

/-- A tick that finds the room empty and changes this has an active sample less than 2 s before. -/
def FilledByMotion (s : BathroomRun) : BathroomEvent → Prop
  | .tick t =>
    s.node.occupancy.state = .empty → (s.tick t).node.occupancy.state ≠ .empty →
      ∃ sample ∈ (s.tick t).lastActive, s.now + t.delays.motion < sample + timeS2I 2
  | _ => True

/-- The time without motion lies less than 2 s behind a multiple of 2^32 ticks: behind 0 only if it
counts from power-on, without any active sample up to now. -/
def AliasedAge (s : BathroomRun) (t : BathroomTick) : Prop :=
  ∃ wraps, (wraps = 0 → t.input.motion = false ∧ s.lastActive = none) ∧
    wraps * systimeRange ≤ s.quietFor t ∧
    s.quietFor t < wraps * systimeRange + timeS2I 2

/-- No tick finds the room empty at such an age. -/
def NoAliasedAge (s : BathroomRun) : BathroomEvent → Prop
  | .tick t => s.node.occupancy.state = .empty → ¬ s.AliasedAge t
  | _ => True

/-- The windows as an age modulo 2^32. -/
theorem aliasedAge_iff {s : BathroomRun} {t : BathroomTick} :
    s.AliasedAge t ↔ s.quietFor t % systimeRange < timeS2I 2 ∧
      (s.quietFor t < timeS2I 2 → t.input.motion = false ∧ s.lastActive = none) := by
  unfold AliasedAge
  generalize s.quietFor t = quiet
  simp only [systimeRange, timeS2I]
  constructor
  · rintro ⟨wraps, hfirst, hle, hlt⟩
    exact ⟨by omega, fun hrecent => hfirst (by omega)⟩
  · rintro ⟨hage, hrecent⟩
    exact ⟨quiet / 2 ^ 32, fun hzero => hrecent (by omega), by omega, by omega⟩

/-- A tick has a sample of the last 2 s exactly if it has one at all and was not quiet for 2 s. -/
theorem exists_recent_iff {s : BathroomRun} {t : BathroomTick} :
    (∃ sample ∈ (s.tick t).lastActive, s.now + t.delays.motion < sample + timeS2I 2) ↔
      s.quietFor t < timeS2I 2 ∧ ¬ (t.input.motion = false ∧ s.lastActive = none) := by
  have hpos : 0 < timeS2I 2 := by decide
  unfold quietFor quietSince
  cases hmotion : t.input.motion with
  | true =>
    simp only [tick, hmotion, ↓reduceIte, Option.mem_some_iff, exists_eq_left', TickClock.map,
      reduceCtorEq, false_and, not_false_eq_true, and_true]
    omega
  | false =>
    cases hlast : s.lastActive with
    | none => simp [tick, hmotion, hlast]
    | some sample =>
      simp only [tick, hmotion, hlast, Bool.false_eq_true, ↓reduceIte, Option.mem_some_iff,
        exists_eq_left', Option.getD_some, reduceCtorEq, and_false, not_false_eq_true, and_true]
      omega

/-- **One tick** leaves the empty mode without motion exactly at an aliased age. -/
theorem filledByMotion_iff {s : BathroomRun} (h : MotionOk s) (e : BathroomEvent) :
    FilledByMotion s e ↔ NoAliasedAge s e := by
  cases e with
  | fastTick | configUpdate => exact Iff.rfl
  | tick t =>
    unfold FilledByMotion NoAliasedAge
    apply imp_congr_right
    intro hempty
    have hfilled : (s.tick t).node.occupancy.state ≠ .empty ↔
        s.quietFor t % systimeRange < timeS2I 2 := by
      simp only [occupancy_tick, next, h.motionAgo_eq t, hempty, nextMode]
      split <;> simp <;> omega
    rw [hfilled, exists_recent_iff, aliasedAge_iff]
    tauto

/-- **When the room is filled only by motion**: in the runs whose ages do not wrap to a small one,
and do not start as one. -/
theorem bathroom_filled_iff (cfg : BathroomConfig) (es : List BathroomEvent) :
    Machine.Meets step FilledByMotion (start cfg) es ↔
      Machine.Meets step NoAliasedAge (start cfg) es :=
  (motionOk_step.keepsIf NoAliasedAge).meets_congr (fun _ e h => filledByMotion_iff h e)
    (motionOk_start cfg) es

/-- One second after power-on the empty room is in use, without any motion. -/
theorem not_bathroom_filled :
    ¬ ∀ (cfg : BathroomConfig) (es : List BathroomEvent),
      Machine.Meets step FilledByMotion (start cfg) es := by
  intro h
  obtain ⟨hfilled, -⟩ := h ⟨70000, 600⟩ [.tick (secondTick false)]
  have hinUse : ((start ⟨70000, 600⟩).tick (secondTick false)).node.occupancy.state ≠ .empty := by
    decide +kernel
  obtain ⟨sample, hsample, -⟩ := hfilled rfl hinUse
  cases hsample

end BathroomRun

end HouseBus
