import HouseBus.Hallway.Motion

/-!
# New motion is announced

`app_tick` announces motion whose trigger time is above `last_trigger_time`, that of the last
announcement or the time of the first `app_tick`. Old motion is never announced again. New motion
is announced exactly where its reading is above this one: behind a wrap of the counter it is not,
until the counter comes to that value again. And where `last_trigger_time` shows 0, `app_tick`
initialises it again, behind the motion that it should announce (`hallway_announced_iff`).
-/

namespace HouseBus

namespace HallwayRun

/-- Motion since the last `app_tick`, later than the last announced one. -/
def NewMotion (s : HallwayRun) : Prop :=
  s.newMotion = true ∧ ∀ a ∈ s.announced, a < s.lastMotion.getD 0

instance (s : HallwayRun) : Decidable s.NewMotion := inferInstanceAs (Decidable (_ ∧ _))

/-- From the second one on, `app_tick` sends one message for new motion, and none otherwise. -/
def AnnouncesOnce (s : HallwayRun) : HallwayEvent → Prop
  | .fastTick _ _ _ => True
  | .tick delay =>
    0 < s.appTicks → (s.tick delay).node.motionMessages =
      s.node.motionMessages + if s.NewMotion then 1 else 0

/-- The motion at tick `m` counts as later than the reference at tick `r` in an `app_tick` at tick
`now`: without whole wraps, some time passed since the reference, less than up to its next wrap.
Where the reference shows 0, the counter wraps between the motion and `now`. -/
def CountsAsLater (r m now : ℕ) : Prop :=
  if systemTime r = 0 then systimeRange ≤ systemTime m + (now - m) % systimeRange
  else 0 < (m - r) % systimeRange ∧ systemTime r + (m - r) % systimeRange < systimeRange

/-- From the second `app_tick` on, new motion counts as later than the last announcement. -/
def MotionCounts (s : HallwayRun) : HallwayEvent → Prop
  | .fastTick _ _ _ => True
  | .tick delay =>
    0 < s.appTicks → s.NewMotion →
      CountsAsLater s.reference (s.lastMotion.getD 0) (s.now + delay)

/-! ## `last_trigger_time` -/

/-- `last_trigger_time` shows the reference, that of an announcement is not 0, and the last motion
is above it only if it is new. -/
structure ReferenceOk (s : HallwayRun) : Prop where
  motion : MotionOk s
  reference_le : s.reference ≤ s.now
  shown : s.node.lastTriggerTime = systemTime s.reference
  announced : ∀ a ∈ s.announced, s.reference = a ∧ 0 < systemTime a
  pending : s.newMotion = true → s.reference ≤ s.lastMotion.getD 0
  old : s.newMotion = false →
    s.node.hallwayMotionSensorTriggerTime ≤ s.node.lastTriggerTime

/-- `app_tick`, by the value that it compares with. -/
theorem appTick_eq (now : ℕ) (s : Hallway) :
    let compared := if s.lastTriggerTime = 0 then now else s.lastTriggerTime
    (s.appTick now).motionMessages = s.motionMessages +
        (if compared < s.hallwayMotionSensorTriggerTime then 1 else 0) ∧
      (s.appTick now).lastTriggerTime = max compared s.hallwayMotionSensorTriggerTime := by
  unfold Hallway.appTick Hallway.sendMotionMessage
  by_cases hinit : s.lastTriggerTime = 0
  · simp only [if_pos hinit]
    split
    · rename_i hlt
      exact ⟨rfl, (Nat.max_eq_right hlt.le).symm⟩
    · rename_i hle
      exact ⟨rfl, (Nat.max_eq_left (Nat.le_of_not_lt hle)).symm⟩
  · simp only [if_neg hinit]
    split
    · rename_i hlt
      exact ⟨rfl, (Nat.max_eq_right hlt.le).symm⟩
    · rename_i hle
      exact ⟨rfl, (Nat.max_eq_left (Nat.le_of_not_lt hle)).symm⟩

variable {s : HallwayRun}

/-- The reading that `app_tick` compares with is that of `compared`. -/
theorem ReferenceOk.compared_eq (h : ReferenceOk s) (delay : ℕ) :
    (if s.node.lastTriggerTime = 0 then systemTime (s.now + delay) else s.node.lastTriggerTime) =
      systemTime (s.compared delay) := by
  unfold compared
  split
  · rfl
  · exact h.shown

/-- **When `app_tick` sends a message.** -/
theorem ReferenceOk.motionMessages_tick (h : ReferenceOk s) (delay : ℕ) :
    (s.tick delay).node.motionMessages = s.node.motionMessages +
      if systemTime (s.compared delay) < systemTime (s.lastMotion.getD 0) then 1 else 0 := by
  have hmessages := (appTick_eq (systemTime (s.now + delay)) s.node).1
  rw [h.compared_eq, h.motion.shown] at hmessages
  exact hmessages

/-- The state after `app_tick`, with the message of that condition. -/
theorem ReferenceOk.tick_eq (h : ReferenceOk s) (delay : ℕ) :
    let sent := systemTime (s.compared delay) < systemTime (s.lastMotion.getD 0)
    (s.tick delay).reference = (if sent then s.lastMotion.getD 0 else s.compared delay) ∧
      (s.tick delay).announced = if sent then s.lastMotion else s.announced := by
  intro sent
  have hsent : (s.node.motionMessages < (s.tick delay).node.motionMessages) ↔ sent := by
    rw [h.motionMessages_tick]
    split
    · rename_i hlt
      exact iff_of_true (Nat.lt_succ_self _) hlt
    · rename_i hlt
      exact iff_of_false (Nat.lt_irrefl _) hlt
  unfold tick at hsent ⊢
  simp only [decide_eq_true_eq] at hsent ⊢
  simp only [hsent]
  exact ⟨trivial, trivial⟩

theorem ReferenceOk.lastMotion_le (h : ReferenceOk s) (delay : ℕ) :
    s.lastMotion.getD 0 ≤ s.now + delay :=
  h.motion.lastMotion_le.trans (Nat.le_add_right _ _)

/-- An announced reference is compared as it is. -/
theorem ReferenceOk.compared_announced (h : ReferenceOk s) (delay : ℕ) {a : ℕ}
    (ha : a ∈ s.announced) : s.compared delay = a := by
  obtain ⟨hreference, hpos⟩ := h.announced a ha
  unfold compared
  rw [if_neg (by rw [h.shown, hreference]; exact hpos.ne'), hreference]

/-- Motion that is not new is not announced again. -/
theorem ReferenceOk.not_later (h : ReferenceOk s) (delay : ℕ) (hnew : ¬ s.NewMotion) :
    ¬ systemTime (s.compared delay) < systemTime (s.lastMotion.getD 0) := by
  by_cases hflag : s.newMotion = true
  · -- the motion is the one that was announced
    have hsome : ∃ a ∈ s.announced, s.lastMotion.getD 0 ≤ a := by
      by_contra hno
      refine hnew ⟨hflag, fun a ha => ?_⟩
      by_contra hle
      exact hno ⟨a, ha, Nat.le_of_not_lt hle⟩
    obtain ⟨a, ha, hle⟩ := hsome
    have hpending := h.pending hflag
    rw [(h.announced a ha).1] at hpending
    rw [h.compared_announced delay ha, Nat.le_antisymm hle hpending]
    exact Nat.lt_irrefl _
  · have hold := h.old (Bool.eq_false_of_not_eq_true hflag)
    rw [h.motion.shown] at hold
    rw [← h.compared_eq]
    split
    · rename_i hzero
      omega
    · omega

/-- Whether new motion is announced. -/
theorem ReferenceOk.later_iff (h : ReferenceOk s) (delay : ℕ) (hnew : s.NewMotion) :
    systemTime (s.compared delay) < systemTime (s.lastMotion.getD 0) ↔
      CountsAsLater s.reference (s.lastMotion.getD 0) (s.now + delay) := by
  have hpos : 0 < systimeRange := by decide
  unfold compared CountsAsLater
  rw [h.shown]
  split
  · have hle := Ticks.clock_le_clock_iff hpos (h.lastMotion_le delay)
    exact Nat.not_le.symm.trans ((not_congr hle).trans Nat.not_lt)
  · exact Ticks.clock_lt_clock_iff_of_le hpos (h.pending hnew.1)

/-! ## Every event -/

theorem referenceOk_start : ReferenceOk start where
  motion := motionOk_start
  reference_le := Nat.le_refl 0
  shown := rfl
  announced := fun _ ha => absurd ha (Option.not_mem_none _)
  pending := fun _ => Nat.le_refl 0
  old := fun _ => Nat.le_refl 0

theorem ReferenceOk.fastTick (h : ReferenceOk s) (input : HallwayInput) (sample compare : ℕ) :
    ReferenceOk (s.fastTick input sample compare) := by
  obtain ⟨htrigger, hlast, -⟩ :=
    appFastTick_motion (s.fastTickInput input sample compare) s.node
  have hle := h.reference_le
  refine ⟨motionOk_step s (.fastTick input sample compare) h.motion, ?_, hlast.trans h.shown,
    h.announced, fun hflag => ?_, fun hflag => ?_⟩
  · show s.reference ≤ s.now + sample + compare
    omega
  · show s.reference ≤ (if samples input then some (s.now + sample) else s.lastMotion).getD 0
    cases hsamples : samples input with
    | true => exact hle.trans (Nat.le_add_right _ _)
    | false =>
      change (samples input || s.newMotion) = true at hflag
      rw [hsamples, Bool.false_or] at hflag
      exact h.pending hflag
  · change (samples input || s.newMotion) = false at hflag
    obtain ⟨hsamples, hold⟩ := Bool.or_eq_false_iff.mp hflag
    have hsame : samples (s.fastTickInput input sample compare) = false := hsamples
    rw [hsame] at htrigger
    exact (htrigger.le.trans (h.old hold)).trans_eq hlast.symm

theorem ReferenceOk.compared_le (h : ReferenceOk s) (delay : ℕ) :
    s.compared delay ≤ s.now + delay := by
  unfold compared
  split
  · exact Nat.le_refl _
  · exact h.reference_le.trans (Nat.le_add_right _ _)

/-- The reference behind an `app_tick` is the later of the two readings. -/
theorem ReferenceOk.reference_tick (h : ReferenceOk s) (delay : ℕ) :
    (s.tick delay).reference ≤ s.now + delay ∧
      systemTime (s.tick delay).reference =
        max (systemTime (s.compared delay)) (systemTime (s.lastMotion.getD 0)) ∧
      ∀ a ∈ (s.tick delay).announced, (s.tick delay).reference = a ∧ 0 < systemTime a := by
  obtain ⟨hreference, hannounced⟩ := h.tick_eq delay
  by_cases hsent : systemTime (s.compared delay) < systemTime (s.lastMotion.getD 0)
  · rw [if_pos hsent] at hreference hannounced
    rw [hreference, hannounced]
    refine ⟨h.lastMotion_le delay, (max_eq_right hsent.le).symm, fun a ha => ?_⟩
    have hlast : s.lastMotion.getD 0 = a := by rw [Option.mem_def.mp ha, Option.getD_some]
    rw [hlast] at hsent ⊢
    exact ⟨rfl, Nat.lt_of_le_of_lt (Nat.zero_le _) hsent⟩
  · rw [if_neg hsent] at hreference hannounced
    rw [hreference, hannounced]
    refine ⟨h.compared_le delay, (max_eq_left (Nat.le_of_not_lt hsent)).symm, fun a ha => ?_⟩
    exact ⟨h.compared_announced delay ha, (h.announced a ha).2⟩

theorem ReferenceOk.tick (h : ReferenceOk s) (delay : ℕ) : ReferenceOk (s.tick delay) := by
  have hlast : (s.tick delay).node.lastTriggerTime =
      max (systemTime (s.compared delay)) (systemTime (s.lastMotion.getD 0)) := by
    rw [← h.compared_eq, ← h.motion.shown]
    exact (appTick_eq (systemTime (s.now + delay)) s.node).2
  have htrigger : (s.tick delay).node.hallwayMotionSensorTriggerTime =
      systemTime (s.lastMotion.getD 0) := (appTick_trigger _ _).trans h.motion.shown
  obtain ⟨hle, hreference, hannounced⟩ := h.reference_tick delay
  refine ⟨motionOk_step s (.tick delay) h.motion, hle, hlast.trans hreference.symm, hannounced,
    fun hflag => Bool.noConfusion hflag, fun _ => ?_⟩
  rw [hlast, htrigger]
  exact le_max_right _ _

theorem referenceOk_step : Machine.Keeps step ReferenceOk := by
  intro s e h
  cases e with
  | fastTick input sample compare => exact h.fastTick input sample compare
  | tick delay => exact h.tick delay

/-- **One `app_tick`** announces right if and only if new motion counts as later. -/
theorem announcesOnce_iff (h : ReferenceOk s) (e : HallwayEvent) :
    AnnouncesOnce s e ↔ MotionCounts s e := by
  cases e with
  | fastTick input sample compare => exact Iff.rfl
  | tick delay =>
    unfold AnnouncesOnce MotionCounts
    apply imp_congr_right
    intro _
    rw [h.motionMessages_tick]
    by_cases hnew : s.NewMotion
    · rw [if_pos hnew, ← h.later_iff delay hnew]
      split
      · rename_i hlater
        exact iff_of_true rfl fun _ => hlater
      · rename_i hlater
        refine iff_of_false ?_ fun hcounts => hlater (hcounts hnew)
        omega
    · rw [if_neg hnew, if_neg (h.not_later delay hnew)]
      exact iff_of_true rfl fun hnew' => absurd hnew' hnew

/-- **When every new motion is announced once**: in the runs in which, from the second `app_tick`
on, it counts as later than the last announcement. -/
theorem hallway_announced_iff (es : List HallwayEvent) :
    Machine.Meets step AnnouncesOnce start es ↔ Machine.Meets step MotionCounts start es :=
  (referenceOk_step.keepsIf MotionCounts).meets_congr (fun _ e h => announcesOnce_iff h e)
    referenceOk_start es

/-- The first `app_tick` one second before the wrap, and motion two seconds behind it. -/
def motionBehindWrap : List HallwayEvent :=
  [.tick (systimeRange - timeS2I 1),
    .fastTick ⟨true, 0, 12, true, 0, 0, fun _ => 0, fun _ => 0⟩ (timeS2I 3) 0, .tick 0]

/-- The next `app_tick` does not announce it. -/
theorem not_hallway_announced :
    ¬ ∀ es : List HallwayEvent, Machine.Meets step AnnouncesOnce start es := by
  intro h
  obtain ⟨-, -, hsecond, -⟩ := h motionBehindWrap
  exact absurd (hsecond (by decide)) (by decide +kernel)

end HallwayRun

end HouseBus
