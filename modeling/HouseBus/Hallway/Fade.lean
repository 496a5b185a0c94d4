import HouseBus.Hallway
import Mathlib.Tactic.IntervalCases

/-!
# Where the fades end

A change of the wanted brightness during a fade reverses the fade, whatever the new brightness is.
So the fade ends at the brightness that it came from. This is the wanted one if and only if every
change during a fade goes back to the value the fade came from (`hallway_fades_iff`).

`Fading` says where a running fade is. Its last step, with counter 599, gives every light the target
(`fadeStores_last`), and no reversal leads behind it.
-/

namespace HouseBus

namespace Hallway

/-! ## Runs -/

/-- What happens to the node. -/
inductive Event
  | fastTick (input : HallwayInput)
  | tick (now : ℕ)

/-- The state after an event. -/
def step (s : Hallway) : Event → Hallway
  | .fastTick input => s.appFastTick input
  | .tick now => s.appTick now

/-- All lights were last set to `v`. -/
def AllSetTo (v : ℤ) (s : Hallway) : Prop :=
  ∀ i < hallwayLights, s.pwm (hallwayStart + i) = UInt16.ofInt v

/-- After the event a running fade goes to the brightness, and at the end of one the lights have
it. -/
def FadesRight (s : Hallway) (e : Event) : Prop :=
  ((step s e).hallwayAnimation = .fade →
    (step s e).animation.fadeTo = (step s e).hallwayBrightness) ∧
  (s.hallwayAnimation = .fade → (step s e).hallwayAnimation = .none →
    (step s e).AllSetTo (step s e).hallwayBrightness)

/-- A change of the wanted brightness during a fade goes back to the value that the fade came from.
-/
def ChangesBack (s : Hallway) : Event → Prop
  | .fastTick input =>
    input.hasLightControl = true → s.hallwayAnimation = .fade →
      s.nextHallwayBrightness input ≠ s.hallwayBrightness →
        s.nextHallwayBrightness input = s.animation.fadeFrom
  | .tick _ => True

/-! ## A running fade -/

/-- A fade of 600 steps with the next step at least `low`; behind the last step all lights have the
target. -/
structure Fading (low : ℤ) (s : Hallway) : Prop where
  hallway : s.hallwayAnimation = .fade
  animation : s.animation.animation = .fade
  length : s.animation.length = 600
  low_le : low ≤ s.animation.counter
  le_length : s.animation.counter ≤ 600
  order : ∀ i < hallwayLights, ∃ k, s.animation.lightsIndex k = i
  last : s.animation.counter = 600 → s.AllSetTo s.animation.fadeTo

/-- What stores leave at the index `i`: the value of the last store there, or what was there. -/
theorem foldl_update_at (stores : List (ℕ × UInt16)) (i : ℕ) :
    (∃ w ∈ stores, ∀ b : ℕ → UInt16,
        stores.foldl (fun b w => Function.update b w.1 w.2) b i = w.2) ∨
      (∀ w ∈ stores, w.1 ≠ i) ∧ ∀ b : ℕ → UInt16,
        stores.foldl (fun b w => Function.update b w.1 w.2) b i = b i := by
  induction stores with
  | nil => exact .inr ⟨fun w hw => absurd hw List.not_mem_nil, fun b => rfl⟩
  | cons w stores ih =>
    obtain ⟨w', hmem, hlast⟩ | ⟨hnone, hkept⟩ := ih
    · exact .inl ⟨w', List.mem_cons_of_mem w hmem, fun b => hlast _⟩
    · by_cases hwi : w.1 = i
      · refine .inl ⟨w, List.mem_cons_self, fun b => ?_⟩
        rw [List.foldl_cons, hkept, ← hwi, Function.update_self]
      · refine .inr ⟨List.forall_mem_cons.mpr ⟨hwi, hnone⟩, fun b => ?_⟩
        rw [List.foldl_cons, hkept, Function.update_of_ne fun h => hwi h.symm]

/-- Stores of one value, also to the index `i`. -/
theorem foldl_update_const {stores : List (ℕ × UInt16)} {v : UInt16} {i : ℕ} (b : ℕ → UInt16)
    (hv : ∀ w ∈ stores, w.2 = v) (hi : ∃ w ∈ stores, w.1 = i) :
    stores.foldl (fun b w => Function.update b w.1 w.2) b i = v := by
  obtain ⟨w, hw, hwi⟩ := hi
  obtain ⟨w', hmem, hlast⟩ | ⟨hnone, -⟩ := foldl_update_at stores i
  · rw [hlast, hv w' hmem]
  · exact absurd hwi (hnone w hw)

/-- In the last step of a fade every light gets the target. -/
theorem fadeStores_last {a : AnimationState} (hlength : a.length = 600)
    (hcounter : a.counter = 599) :
    ∀ w ∈ a.fadeStores, w.2 = UInt16.ofInt a.fadeTo := by
  intro w hw
  obtain ⟨i, -, rfl⟩ := List.mem_map.mp hw
  have hoffset : a.offset = 100 := by rw [AnimationState.offset, hlength]; rfl
  have hi : (i.val : ℤ) ≤ 4 := by
    have := i.isLt
    simp only [hallwayLights] at this
    omega
  simp only [hoffset, hlength, hcounter, hallwayLights, getFadeVal]
  rw [if_neg (by omega), if_pos (by omega)]

@[simp] theorem setLights_pwm (b : ℕ → UInt16) (s : Hallway) {i : ℕ} (hi : i < hallwayLights) :
    (s.setLights b).pwm (hallwayStart + i) = b i := by
  simp only [hallwayLights] at hi
  interval_cases i <;> rfl

/-- **A step of a running fade**: the next one, or the end with the lights as they are. -/
theorem Fading.step {s : Hallway} (h : Fading 0 s) (uninitialised : ℕ → UInt16) :
    (Fading 1 (s.stepAnimation uninitialised) ∧
        (s.stepAnimation uninitialised).animation.fadeTo = s.animation.fadeTo ∧
        (s.stepAnimation uninitialised).hallwayBrightness = s.hallwayBrightness) ∨
      s.animation.counter = 600 ∧
        s.stepAnimation uninitialised = { s with hallwayAnimation := .none } := by
  have hrunning : s.hallwayAnimation ≠ .none := by rw [h.hallway]; decide
  have hlength := h.length
  have hle := h.le_length
  unfold stepAnimation
  rw [if_pos hrunning, AnimationState.animate_fade h.animation]
  by_cases hend : s.animation.length ≤ s.animation.counter
  · right
    refine ⟨by omega, ?_⟩
    simp only [if_pos hend, Bool.false_eq_true, if_false]
  · left
    simp only [if_neg hend, if_true]
    refine ⟨⟨h.hallway, h.animation, h.length, ?_, ?_, h.order, ?_⟩, rfl, rfl⟩
    · have := h.low_le
      show 1 ≤ s.animation.counter + 1
      omega
    · show s.animation.counter + 1 ≤ 600
      omega
    · intro hlast i hi
      have hcounter : s.animation.counter = 599 := by
        change s.animation.counter + 1 = 600 at hlast
        omega
      rw [setLights_pwm _ _ hi]
      apply foldl_update_const _ (fadeStores_last h.length hcounter)
      obtain ⟨k, hk⟩ := h.order i hi
      exact ⟨_, List.mem_map.mpr ⟨k, List.mem_finRange k, rfl⟩, hk⟩

/-! ## A change of the brightness -/

/-- A fade that starts. -/
theorem fading_start (s : Hallway) (vdda : ℕ → ℕ) (fadeFrom fadeTo : ℤ)
    (hfade : s.hallwayAnimation = .fade)
    (hstart : s.animation = .startFade vdda fadeFrom fadeTo 600) : Fading 0 s := by
  refine ⟨hfade, ?_, ?_, ?_, ?_, ?_, ?_⟩ <;> rw [hstart]
  · rfl
  · rfl
  · exact Int.le_refl 0
  · show (0 : ℤ) ≤ 600
    decide
  · intro i hi
    obtain ⟨order, horder⟩ := shuffle_eq_comp vdda fun i : Fin hallwayLights => i.val
    refine ⟨order.symm ⟨i, hi⟩, ?_⟩
    show shuffle vdda (fun i : Fin hallwayLights => i.val) _ = i
    rw [horder, Function.comp_apply, Equiv.apply_symm_apply]
  · intro hlast
    change (0 : ℤ) = 600 at hlast
    omega

/-- A fade that is reversed. -/
theorem Fading.reverse {s s' : Hallway} (h : Fading 1 s) (hfade : s'.hallwayAnimation = .fade)
    (hreverse : s'.animation = s.animation.reverseFade) : Fading 0 s' := by
  have hlow := h.low_le
  have hle := h.le_length
  have hcounter : s.animation.reverseFade.counter = 600 - s.animation.counter := by
    rw [AnimationState.reverseFade, h.length]
  refine ⟨hfade, ?_, ?_, ?_, ?_, ?_, ?_⟩ <;> rw [hreverse]
  · exact h.animation
  · exact h.length
  · rw [hcounter]; omega
  · rw [hcounter]; omega
  · exact h.order
  · intro hlast
    rw [hcounter] at hlast
    omega

/-- The state with staircase and motion sensor set. -/
theorem appFastTick_eq (s : Hallway) {input : HallwayInput} (h : input.hasLightControl = true) :
    ∃ lit : Hallway, s.appFastTick input =
        (lit.acceptBrightness input.vdda (s.nextHallwayBrightness input)).stepAnimation
          input.uninitialised ∧
      lit.hallwayAnimation = s.hallwayAnimation ∧ lit.animation = s.animation ∧
      lit.hallwayBrightness = s.hallwayBrightness ∧
      ∀ i < hallwayLights, lit.pwm (hallwayStart + i) = s.pwm (hallwayStart + i) := by
  obtain ⟨pwm, motion, htick, hpwm⟩ := s.appFastTick_lit h
  exact ⟨_, htick, rfl, rfl, rfl, hpwm⟩

theorem Fading.mono {s : Hallway} (h : Fading 1 s) : Fading 0 s :=
  { h with low_le := by have := h.low_le; omega }

/-- With the same animation and the same lights. -/
theorem Fading.congr {low : ℤ} {s s' : Hallway} (h : Fading low s)
    (hhallway : s'.hallwayAnimation = s.hallwayAnimation) (hanimation : s'.animation = s.animation)
    (hpwm : ∀ i < hallwayLights, s'.pwm (hallwayStart + i) = s.pwm (hallwayStart + i)) :
    Fading low s' := by
  refine ⟨hhallway.trans h.hallway, ?_, ?_, ?_, ?_, ?_, ?_⟩ <;> rw [hanimation]
  · exact h.animation
  · exact h.length
  · exact h.low_le
  · exact h.le_length
  · exact h.order
  · intro hlast i hi
    rw [hpwm i hi]
    exact h.last hlast i hi

/-- A running fade, with the next step at least `low`, goes to the brightness. -/
def FadeOk (low : ℤ) (s : Hallway) : Prop :=
  s.hallwayAnimation = .fade → Fading low s ∧ s.animation.fadeTo = s.hallwayBrightness

/-- A change that goes back: the fade, started or reversed, goes to the brightness. -/
theorem FadeOk.acceptBrightness {s : Hallway} (h : FadeOk 1 s) (vdda : ℕ → ℕ) {next : ℤ}
    (hback : s.hallwayAnimation = .fade → next ≠ s.hallwayBrightness →
      next = s.animation.fadeFrom) :
    FadeOk 0 (s.acceptBrightness vdda next) := by
  unfold Hallway.acceptBrightness
  by_cases hnext : next ≠ s.hallwayBrightness
  · rw [if_pos hnext]
    by_cases hfade : s.hallwayAnimation = .fade
    · intro _
      rw [if_pos hfade]
      exact ⟨(h hfade).1.reverse hfade rfl, (hback hfade hnext).symm⟩
    · intro _
      rw [if_neg hfade]
      exact ⟨fading_start _ vdda s.hallwayBrightness next rfl rfl, rfl⟩
  · rw [if_neg hnext]
    intro hfade
    obtain ⟨hrunning, hto⟩ := h hfade
    exact ⟨hrunning.mono, hto⟩

/-- A change during a fade that is not a change back: the fade goes on, to where it came from. -/
theorem FadeOk.reversed {s : Hallway} (h : FadeOk 1 s) (hfade : s.hallwayAnimation = .fade)
    (vdda : ℕ → ℕ) {next : ℤ} (hnext : next ≠ s.hallwayBrightness) (uninitialised : ℕ → UInt16) :
    let s' := (s.acceptBrightness vdda next).stepAnimation uninitialised
    s'.hallwayAnimation = .fade ∧ s'.animation.fadeTo = s.animation.fadeFrom ∧
      s'.hallwayBrightness = next := by
  have hlow := (h hfade).1.low_le
  have hlength := (h hfade).1.length
  have haccept : s.acceptBrightness vdda next =
      { s with animation := s.animation.reverseFade, hallwayBrightness := next } := by
    rw [Hallway.acceptBrightness, if_pos hnext, if_pos hfade]
  have hrunning : Fading 0 (s.acceptBrightness vdda next) := by
    rw [haccept]
    exact (h hfade).1.reverse hfade rfl
  obtain ⟨hgoes, hto, hbrightness⟩ | ⟨hend, -⟩ := hrunning.step uninitialised
  · refine ⟨hgoes.hallway, ?_, ?_⟩
    · rw [hto, haccept]; rfl
    · rw [hbrightness, haccept]
  · -- behind a reversal at least one step is left
    rw [haccept] at hend
    change s.animation.length - s.animation.counter = 600 at hend
    omega

/-! ## Every event -/

/-- The lights play, and no fade starts in `stepAnimation`. -/
theorem stepAnimation_not_fade {s : Hallway} (h : s.hallwayAnimation ≠ .fade)
    (uninitialised : ℕ → UInt16) : (s.stepAnimation uninitialised).hallwayAnimation ≠ .fade := by
  intro hnew
  unfold Hallway.stepAnimation at hnew
  split at hnew
  · dsimp only at hnew
    split at hnew
    · exact h hnew
    · cases hnew
  · cases hnew

/-- The animation goes on to the brightness, and at the end the lights have it. -/
theorem FadeOk.stepAnimation {s : Hallway} (h : FadeOk 0 s) (uninitialised : ℕ → UInt16) :
    FadeOk 1 (s.stepAnimation uninitialised) ∧
      (s.hallwayAnimation = .fade → (s.stepAnimation uninitialised).hallwayAnimation = .none →
        (s.stepAnimation uninitialised).AllSetTo
          (s.stepAnimation uninitialised).hallwayBrightness) := by
  by_cases hfade : s.hallwayAnimation = .fade
  · obtain ⟨hrunning, hto⟩ := h hfade
    obtain ⟨hnext, hsame, hbrightness⟩ | ⟨hend, hnone⟩ := hrunning.step uninitialised
    · refine ⟨fun _ => ⟨hnext, by rw [hsame, hbrightness, hto]⟩, fun _ hnone => ?_⟩
      rw [hnext.hallway] at hnone
      cases hnone
    · rw [hnone]
      refine ⟨fun hfade => Animation.noConfusion hfade, fun _ _ => ?_⟩
      show s.AllSetTo s.hallwayBrightness
      rw [← hto]
      exact hrunning.last hend
  · exact ⟨fun hnew => absurd hnew (stepAnimation_not_fade hfade uninitialised),
      fun hold => absurd hold hfade⟩

/-- A change of the brightness keeps a running fade running. -/
theorem acceptBrightness_fade {s : Hallway} (h : s.hallwayAnimation = .fade) (vdda : ℕ → ℕ)
    (next : ℤ) : (s.acceptBrightness vdda next).hallwayAnimation = .fade := by
  unfold acceptBrightness
  by_cases hnext : next ≠ s.hallwayBrightness
  · rw [if_pos hnext, if_pos h]
    exact h
  · rw [if_neg hnext]
    exact h

/-- The state between the motion sensor and the animation. -/
theorem FadeOk.lit {s lit : Hallway} (h : FadeOk 1 s)
    (hhallway : lit.hallwayAnimation = s.hallwayAnimation)
    (hanimation : lit.animation = s.animation)
    (hbrightness : lit.hallwayBrightness = s.hallwayBrightness)
    (hpwm : ∀ i < hallwayLights, lit.pwm (hallwayStart + i) = s.pwm (hallwayStart + i)) :
    FadeOk 1 lit := by
  intro hfade
  obtain ⟨hrunning, hto⟩ := h (hhallway ▸ hfade)
  exact ⟨hrunning.congr hhallway hanimation hpwm, by rw [hanimation, hbrightness, hto]⟩

/-- An event that leaves the animation and the lights as they are. -/
theorem FadeOk.same {s : Hallway} {e : Event} (h : FadeOk 1 s)
    (hhallway : (s.step e).hallwayAnimation = s.hallwayAnimation)
    (hanimation : (s.step e).animation = s.animation)
    (hbrightness : (s.step e).hallwayBrightness = s.hallwayBrightness)
    (hpwm : ∀ i < hallwayLights, (s.step e).pwm (hallwayStart + i) = s.pwm (hallwayStart + i)) :
    FadeOk 1 (s.step e) ∧ FadesRight s e := by
  have hok := h.lit hhallway hanimation hbrightness hpwm
  refine ⟨hok, fun hfade => (hok hfade).2, fun hfade hnone => ?_⟩
  rw [hhallway, hfade] at hnone
  cases hnone

theorem appTick_same (now : ℕ) (s : Hallway) :
    (s.appTick now).hallwayAnimation = s.hallwayAnimation ∧
      (s.appTick now).animation = s.animation ∧
      (s.appTick now).hallwayBrightness = s.hallwayBrightness ∧ (s.appTick now).pwm = s.pwm := by
  unfold appTick sendMotionMessage
  by_cases hinit : s.lastTriggerTime = 0
  · simp only [if_pos hinit]
    split <;> exact ⟨rfl, rfl, rfl, rfl⟩
  · simp only [if_neg hinit]
    split <;> exact ⟨rfl, rfl, rfl, rfl⟩

/-- An event whose change goes back keeps the invariant, and its fade is right. -/
theorem FadeOk.step {s : Hallway} (h : FadeOk 1 s) (e : Event) (hback : ChangesBack s e) :
    FadeOk 1 (Hallway.step s e) ∧ FadesRight s e := by
  cases e with
  | tick now =>
    obtain ⟨hhallway, hanimation, hbrightness, hpwm⟩ := s.appTick_same now
    exact h.same hhallway hanimation hbrightness fun i _ => congrFun hpwm _
  | fastTick input =>
    by_cases hcontrol : input.hasLightControl = true
    · obtain ⟨lit, htick, hhallway, hanimation, hbrightness, hpwm⟩ := s.appFastTick_eq hcontrol
      have hlit := h.lit hhallway hanimation hbrightness hpwm
      have haccept : FadeOk 0
          (lit.acceptBrightness input.vdda (s.nextHallwayBrightness input)) := by
        apply hlit.acceptBrightness
        intro hfade hnext
        rw [hanimation]
        exact hback hcontrol (hhallway ▸ hfade) (hbrightness ▸ hnext)
      obtain ⟨hok, hend⟩ := haccept.stepAnimation input.uninitialised
      rw [← htick] at hok hend
      refine ⟨hok, fun hfade => (hok hfade).2, fun hfade hnone => hend ?_ hnone⟩
      exact acceptBrightness_fade (hhallway.trans hfade) _ _
    · have hoff : s.step (.fastTick input) = s := if_neg hcontrol
      apply h.same <;> rw [hoff]
      exact fun _ _ => rfl

/-- **One event** under the invariant: the fades are right if and only if a change goes back. -/
theorem fadesRight_iff (s : Hallway) (e : Event) (h : FadeOk 1 s) :
    FadesRight s e ↔ ChangesBack s e := by
  refine ⟨fun hright => ?_, fun hback => (h.step e hback).2⟩
  cases e with
  | tick now => trivial
  | fastTick input =>
    intro hcontrol hfade hnext
    obtain ⟨lit, htick, hhallway, hanimation, hbrightness, hpwm⟩ := s.appFastTick_eq hcontrol
    have hlit := h.lit hhallway hanimation hbrightness hpwm
    obtain ⟨hgoes, hto, hnew⟩ := hlit.reversed (hhallway.trans hfade) input.vdda
      (hbrightness ▸ hnext) input.uninitialised
    rw [← htick] at hgoes hto hnew
    rw [← hnew, ← hanimation, ← hto]
    exact (hright.1 hgoes).symm

theorem fadeOk_start : FadeOk 1 start := fun hfade => Animation.noConfusion hfade

/-- **When the fades end where they should**: in the runs in which every change of the brightness
during a fade goes back to the value that the fade came from. -/
theorem hallway_fades_iff (es : List Event) :
    Machine.Meets step FadesRight start es ↔ Machine.Meets step ChangesBack start es :=
  Machine.KeepsIf.meets_congr (fun _ e hback h => (h.step e hback).1) fadesRight_iff fadeOk_start es

instance (v : ℤ) (s : Hallway) : Decidable (s.AllSetTo v) :=
  inferInstanceAs (Decidable (∀ i < hallwayLights, s.pwm (hallwayStart + i) = UInt16.ofInt v))

instance (s : Hallway) (e : Event) : Decidable (s.FadesRight e) :=
  inferInstanceAs (Decidable (_ ∧ _))

/-- It gets dark, and 50 fast ticks later someone moves: the fade to 500 goes back to 0, and the
wanted brightness is 20000. -/
def motionDuringFade : List Event :=
  let input : HallwayInput := ⟨true, 0, 12, false, 500000, 500000, fun _ => 0, fun _ => 0⟩
  List.replicate 50 (.fastTick input) ++
    [.fastTick { input with motion := true, triggerClock := 502500, compareClock := 502500 }]

theorem not_hallway_fades : ¬ Machine.Meets step FadesRight start motionDuringFade := by
  decide +kernel

end Hallway

end HouseBus
