import HouseBus.Hallway.Fade
import Mathlib.Algebra.Order.Group.Unbundled.Int

/-!
# A reversed fade

A fade of 600 steps takes 100 steps for each light, and light `i` of the order starts 100 steps
behind the one before it. `reverse_animation_fade` mirrors the counter and swaps the ends, but the
delays stay: the lights go back in the order in which they came, not in the mirrored one. So from
one step to the next the first light jumps, by all that it has moved from the nearer end of the
fade, and in the middle of the fade the others do too. The reversal is seamless exactly where this
is at most one fade step (`reverse_seamless_iff`).
-/

namespace HouseBus

namespace AnimationState

/-- The value that `animate` computes for light `i` of the order in a fade. -/
def lightValue (a : AnimationState) (i : Fin hallwayLights) : ℤ :=
  getFadeVal (a.counter - a.offset * (i.val : ℤ)) a.fadeFrom a.fadeTo
    (a.length - hallwayLights * a.offset)

theorem fadeStores_eq (a : AnimationState) :
    a.fadeStores =
      (List.finRange hallwayLights).map fun i => (a.lightsIndex i, UInt16.ofInt (a.lightValue i)) :=
  rfl

/-- The values of a step and of the next one, with `|to - from|/100 + 1` between them at most. -/
def OneFadeStep (a a' : AnimationState) : Prop :=
  ∀ i, |a'.lightValue i - a.lightValue i| ≤ |a.fadeTo - a.fadeFrom| / 100 + 1

/-- The state before the next step, where the fade is reversed behind a step from `a`. -/
def reversedAfter (a : AnimationState) : AnimationState := a.animate.2.2.reverseFade

/-- The steps that the first light has moved from the nearer end of the fade, behind a step with
counter `c`. -/
def firstLightMoved (c : ℤ) : ℤ := min (min c (599 - c)) 100

/-! ## The value of a light -/

/-- The steps of one light that are done, of 100. -/
def stepsDone (step : ℤ) : ℤ := max 0 (min step 100)

theorem stepsDone_bounds (step : ℤ) : 0 ≤ stepsDone step ∧ stepsDone step ≤ 100 := by
  unfold stepsDone
  omega

theorem getFadeVal_eq (step fadeFrom fadeTo : ℤ) :
    getFadeVal step fadeFrom fadeTo 100 =
      fadeFrom + ((fadeTo - fadeFrom) * stepsDone step).tdiv 100 := by
  unfold getFadeVal stepsDone
  split
  · rw [max_eq_left (by omega), mul_zero, Int.zero_tdiv, add_zero]
  · split
    · rw [min_eq_right (by omega), max_eq_right (by omega), Int.mul_tdiv_cancel _ (by decide)]
      omega
    · rw [min_eq_left (by omega), max_eq_right (by omega)]

theorem lightValue_eq {a : AnimationState} (h : a.length = 600) (i : Fin hallwayLights) :
    a.lightValue i = a.fadeFrom +
      ((a.fadeTo - a.fadeFrom) * stepsDone (a.counter - 100 * (i.val : ℤ))).tdiv 100 := by
  have hoffset : a.offset = 100 := by rw [offset, h]; rfl
  unfold lightValue
  rw [hoffset, h, ← getFadeVal_eq]
  rfl

/-- A truncated quotient, by its magnitude. -/
theorem tdiv_eq_sign (d : ℤ) {p : ℤ} (hp : 0 ≤ p) :
    (d * p).tdiv 100 = if 0 ≤ d then |d| * p / 100 else -(|d| * p / 100) := by
  split
  · rename_i hd
    rw [abs_of_nonneg hd, Int.tdiv_eq_ediv_of_nonneg (Int.mul_nonneg hd hp)]
  · rename_i hd
    have hneg : d * p = -(|d| * p) := by rw [abs_of_neg (by omega)]; ring
    rw [hneg, Int.neg_tdiv, Int.tdiv_eq_ediv_of_nonneg (Int.mul_nonneg (abs_nonneg d) hp)]

/-- How far a light jumps that is `p` steps on its way, and `q` steps back on the reversed one. -/
theorem abs_jump (d : ℤ) {p q : ℤ} (hp : 0 ≤ p) (hq : 0 ≤ q) :
    |d + (-d * q).tdiv 100 - (d * p).tdiv 100| = |(|d| - |d| * q / 100 - |d| * p / 100)| := by
  rw [neg_mul, Int.neg_tdiv, tdiv_eq_sign d hp, tdiv_eq_sign d hq]
  split
  · rename_i hd
    rw [abs_of_nonneg hd]
    congr 1
  · rename_i hd
    have habs : |d| = -d := abs_of_neg (by omega)
    rw [← abs_neg, habs]
    congr 1
    omega

/-- A part of the way. -/
theorem part_bounds {A p : ℤ} (hA : 0 ≤ A) (hp : 0 ≤ p ∧ p ≤ 100) :
    0 ≤ A * p / 100 ∧ A * p / 100 ≤ A := by
  have hle : A * p ≤ A * 100 := Int.mul_le_mul_of_nonneg_left hp.2 hA
  have hpos := Int.mul_nonneg hA hp.1
  omega

/-! ## The reversal -/

/-- A step of a running fade. -/
structure Steps (a : AnimationState) : Prop where
  animation : a.animation = .fade
  length : a.length = 600
  counter_nonneg : 0 ≤ a.counter
  counter_lt : a.counter < 600

variable {a : AnimationState}

theorem Steps.animate_eq (h : Steps a) : a.animate.2.2 = { a with counter := a.counter + 1 } := by
  have hlength := h.length
  have hlt := h.counter_lt
  rw [animate_fade h.animation, if_neg (by omega)]

/-- The values of the reversed fade. -/
theorem Steps.reversed_lightValue (h : Steps a) (i : Fin hallwayLights) :
    a.reversedAfter.lightValue i = a.fadeTo +
      (-(a.fadeTo - a.fadeFrom) * stepsDone (599 - a.counter - 100 * (i.val : ℤ))).tdiv 100 := by
  have hcounter : 600 - (a.counter + 1) = 599 - a.counter := by omega
  have hreversed : a.reversedAfter.length = 600 := by
    rw [reversedAfter, h.animate_eq]
    exact h.length
  rw [lightValue_eq hreversed, reversedAfter, h.animate_eq]
  simp only [reverseFade, h.length, hcounter, neg_sub]

/-- How far a light jumps. -/
theorem Steps.jump_eq (h : Steps a) (i : Fin hallwayLights) :
    |a.reversedAfter.lightValue i - a.lightValue i| =
      |(|a.fadeTo - a.fadeFrom| -
        |a.fadeTo - a.fadeFrom| * stepsDone (599 - a.counter - 100 * (i.val : ℤ)) / 100 -
        |a.fadeTo - a.fadeFrom| * stepsDone (a.counter - 100 * (i.val : ℤ)) / 100)| := by
  rw [h.reversed_lightValue, lightValue_eq h.length,
    ← abs_jump _ (stepsDone_bounds _).1 (stepsDone_bounds _).1]
  congr 1
  ring

/-- No light jumps by more than the whole fade. -/
theorem Steps.jump_le (h : Steps a) (i : Fin hallwayLights) :
    |a.reversedAfter.lightValue i - a.lightValue i| ≤ |a.fadeTo - a.fadeFrom| := by
  have hA := abs_nonneg (a.fadeTo - a.fadeFrom)
  have hp := part_bounds hA (stepsDone_bounds (a.counter - 100 * (i.val : ℤ)))
  have hq := part_bounds hA (stepsDone_bounds (599 - a.counter - 100 * (i.val : ℤ)))
  rw [h.jump_eq, abs_le]
  omega

/-- The first light jumps back by what it has moved. -/
theorem Steps.jump_first (h : Steps a) {i : Fin hallwayLights} (hi : i.val = 0) :
    |a.reversedAfter.lightValue i - a.lightValue i| =
      |a.fadeTo - a.fadeFrom| * firstLightMoved a.counter / 100 := by
  have hlow := h.counter_nonneg
  have hlt := h.counter_lt
  have hA := abs_nonneg (a.fadeTo - a.fadeFrom)
  rw [h.jump_eq]
  generalize |a.fadeTo - a.fadeFrom| = A at hA ⊢
  have hmoved := part_bounds hA (p := firstLightMoved a.counter)
    (by unfold firstLightMoved; omega)
  rw [hi, Nat.cast_zero, mul_zero, sub_zero, sub_zero]
  -- one of the two fades has the first light at its end
  have hends : stepsDone (599 - a.counter) = 100 ∧ stepsDone a.counter = firstLightMoved a.counter ∨
      stepsDone a.counter = 100 ∧ stepsDone (599 - a.counter) = firstLightMoved a.counter := by
    unfold stepsDone firstLightMoved
    omega
  have hall : A * 100 / 100 = A := Int.mul_ediv_cancel _ (by decide)
  obtain ⟨hend, hother⟩ | ⟨hend, hother⟩ := hends
  · rw [hend, hother, hall, sub_self, zero_sub, abs_neg, abs_of_nonneg hmoved.1]
  · rw [hend, hother, hall, sub_right_comm, sub_self, zero_sub, abs_neg, abs_of_nonneg hmoved.1]

/-- Near the ends of the fade only the first light jumps. -/
theorem Steps.jump_rest (h : Steps a) (hends : a.counter < 100 ∨ 499 < a.counter)
    {i : Fin hallwayLights} (hi : i.val ≠ 0) : a.reversedAfter.lightValue i = a.lightValue i := by
  have hlow := h.counter_nonneg
  have hlt := h.counter_lt
  have hi' : (1 : ℤ) ≤ (i.val : ℤ) ∧ (i.val : ℤ) ≤ 4 := by
    have := i.isLt
    simp only [hallwayLights] at this
    omega
  have hjump := h.jump_eq i
  have hsides : stepsDone (599 - a.counter - 100 * (i.val : ℤ)) = 100 ∧
        stepsDone (a.counter - 100 * (i.val : ℤ)) = 0 ∨
      stepsDone (599 - a.counter - 100 * (i.val : ℤ)) = 0 ∧
        stepsDone (a.counter - 100 * (i.val : ℤ)) = 100 := by
    unfold stepsDone
    omega
  have hall : |a.fadeTo - a.fadeFrom| * 100 / 100 = |a.fadeTo - a.fadeFrom| :=
    Int.mul_ediv_cancel _ (by decide)
  rw [← sub_eq_zero, ← abs_eq_zero, hjump]
  obtain ⟨hq, hp⟩ | ⟨hq, hp⟩ := hsides <;>
    rw [hq, hp, hall, mul_zero, Int.zero_ediv] <;> simp

/-- **When a reversal is seamless**: where the first light has moved by at most one fade step from
the nearer end of the fade. -/
theorem reverse_seamless_iff (a : AnimationState) (h : Steps a) :
    OneFadeStep a a.reversedAfter ↔
      |a.fadeTo - a.fadeFrom| * firstLightMoved a.counter / 100 ≤
        |a.fadeTo - a.fadeFrom| / 100 + 1 := by
  have hlow := h.counter_nonneg
  have hlt := h.counter_lt
  have hA := abs_nonneg (a.fadeTo - a.fadeFrom)
  constructor
  · intro hstep
    rw [← h.jump_first (i := ⟨0, by decide⟩) rfl]
    exact hstep _
  · intro hmoved i
    by_cases hi : i.val = 0
    · rw [h.jump_first hi]
      exact hmoved
    by_cases hends : a.counter < 100 ∨ 499 < a.counter
    · rw [h.jump_rest hends hi, sub_self, abs_zero]
      omega
    · -- in the middle the first light has moved all the way
      have hmiddle : firstLightMoved a.counter = 100 := by
        unfold firstLightMoved
        omega
      rw [hmiddle, Int.mul_ediv_cancel _ (by decide)] at hmoved
      exact (h.jump_le i).trans hmoved

theorem reverse_seamless_iff_start :
    let a : AnimationState := .startFade (fun _ => 0) 0 20000 600
    OneFadeStep a a.reversedAfter ↔
      |a.fadeTo - a.fadeFrom| * firstLightMoved a.counter / 100 ≤
        |a.fadeTo - a.fadeFrom| / 100 + 1 :=
  reverse_seamless_iff (.startFade (fun _ => 0) 0 20000 600) ⟨rfl, rfl, by decide, by decide⟩

/-- From 0 to 20000, reversed behind the step with counter 49: the first light jumps from 9800 back
to 0. -/
theorem not_reverse_seamless :
    ¬ ∀ a : AnimationState, Steps a → OneFadeStep a a.reversedAfter := by
  intro h
  have hstep := h { AnimationState.startFade (fun _ => 0) 0 20000 600 with counter := 49 }
    ⟨rfl, rfl, by decide, by decide⟩ ⟨0, by decide⟩
  exact absurd hstep (by decide +kernel)

/-- Ordinary steps: no light moves by more than one fade step. -/
theorem animate_oneFadeStep (h : Steps a) : OneFadeStep a a.animate.2.2 := by
  intro i
  have hA := abs_nonneg (a.fadeTo - a.fadeFrom)
  have hp := stepsDone_bounds (a.counter - 100 * (i.val : ℤ))
  have hnext : stepsDone (a.counter + 1 - 100 * (i.val : ℤ)) =
        stepsDone (a.counter - 100 * (i.val : ℤ)) ∨
      stepsDone (a.counter + 1 - 100 * (i.val : ℤ)) =
        stepsDone (a.counter - 100 * (i.val : ℤ)) + 1 := by
    unfold stepsDone
    omega
  have hlength : a.animate.2.2.length = 600 := by
    rw [h.animate_eq]
    exact h.length
  rw [lightValue_eq h.length, lightValue_eq hlength, h.animate_eq, add_sub_add_left_eq_sub]
  dsimp only
  obtain hsame | hmore := hnext
  · rw [hsame, sub_self, abs_zero]
    omega
  · rw [hmore, tdiv_eq_sign _ hp.1, tdiv_eq_sign _ (by omega), mul_add, mul_one]
    split <;> rw [abs_le] <;> omega

end AnimationState

/-! ## The counters of the node -/

namespace Hallway

/-- The counter of a running fade: behind a reversal or a start, and in its steps. -/
theorem fading_acceptBrightness {s : Hallway} (h : s.hallwayAnimation = .fade → Fading 1 s)
    (vdda : ℕ → ℕ) (next : ℤ) (hfade : (s.acceptBrightness vdda next).hallwayAnimation = .fade) :
    Fading 0 (s.acceptBrightness vdda next) := by
  unfold acceptBrightness at hfade ⊢
  by_cases hnext : next ≠ s.hallwayBrightness
  · rw [if_pos hnext] at hfade ⊢
    by_cases hrunning : s.hallwayAnimation = .fade
    · rw [if_pos hrunning] at hfade ⊢
      exact (h hrunning).reverse hfade rfl
    · rw [if_neg hrunning] at hfade ⊢
      exact fading_start _ vdda s.hallwayBrightness next rfl rfl
  · rw [if_neg hnext] at hfade ⊢
    exact (h hfade).mono

theorem fading_stepAnimation {s : Hallway} (h : s.hallwayAnimation = .fade → Fading 0 s)
    (uninitialised : ℕ → UInt16)
    (hfade : (s.stepAnimation uninitialised).hallwayAnimation = .fade) :
    Fading 1 (s.stepAnimation uninitialised) := by
  by_cases hrunning : s.hallwayAnimation = .fade
  · obtain ⟨hnext, -⟩ | ⟨-, hend⟩ := (h hrunning).step uninitialised
    · exact hnext
    · rw [hend] at hfade
      cases hfade
  · exact absurd hfade (stepAnimation_not_fade hrunning uninitialised)

/-- A running fade has done a step, and at most 600: these are the counters at which
`reverse_animation_fade` is called. -/
theorem fading_keeps :
    Machine.Keeps step fun s => s.hallwayAnimation = .fade → Fading 1 s := by
  intro s e h hfade
  cases e with
  | tick now =>
    obtain ⟨hhallway, hanimation, -, hpwm⟩ := s.appTick_same now
    exact (h (hhallway ▸ hfade)).congr hhallway hanimation fun i _ => congrFun hpwm _
  | fastTick input =>
    by_cases hcontrol : input.hasLightControl = true
    · obtain ⟨lit, htick, hhallway, hanimation, -, hpwm⟩ := s.appFastTick_eq hcontrol
      have hlit : lit.hallwayAnimation = .fade → Fading 1 lit := fun hold =>
        (h (hhallway ▸ hold)).congr hhallway hanimation hpwm
      have hstep : step s (.fastTick input) = _ := htick
      rw [hstep] at hfade ⊢
      exact fading_stepAnimation (fading_acceptBrightness hlit _ _) _ hfade
    · have hoff : step s (.fastTick input) = s := if_neg hcontrol
      rw [hoff] at hfade ⊢
      exact h hfade

/-- **Reversals in a run**: behind every run the state that a reversal would find is that behind a
step of the fade. -/
theorem fading_run (es : List Event) :
    (Machine.run step start es).hallwayAnimation = .fade →
      ∃ a, AnimationState.Steps a ∧ (Machine.run step start es).animation = a.animate.2.2 := by
  intro hfade
  have hrunning := fading_keeps.run (fun hfade => Animation.noConfusion hfade) es hfade
  generalize Machine.run step start es = s at hrunning
  have hlow := hrunning.low_le
  have hle := hrunning.le_length
  have hsteps : AnimationState.Steps { s.animation with counter := s.animation.counter - 1 } :=
    ⟨hrunning.animation, hrunning.length, by dsimp only; omega, by dsimp only; omega⟩
  refine ⟨_, hsteps, ?_⟩
  rw [hsteps.animate_eq, sub_add_cancel]

end Hallway

end HouseBus
