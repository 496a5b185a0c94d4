import HouseBus.Hallway.Fade

/-!
# The order of the lights (`sw/nodes/hallway_light.c`)

`app_fast_tick` sets the lights from an array `brightness` that is not initialised, and `animate`
stores to it by `lights_index`. This is a permutation of the lights as soon as an animation was
started, and no later call changes that (`orderOk_step`). So a fade stores to each element once
(`hallway_lights_set`), and no light shows what was in the array (`lights_determined`).
-/

namespace HouseBus

/-- An `int` as a `size_t`. -/
def sizeT (x : ℤ) : ℕ := (x % 2 ^ 32).toNat

/-- The array behind a shuffle, as a list. -/
theorem shuffle_perm {α : Type*} {n : ℕ} (vdda : ℕ → ℕ) (array : Fin n → α) :
    (List.ofFn (shuffle vdda array)).Perm (List.ofFn array) := by
  obtain ⟨order, horder⟩ := shuffle_eq_comp vdda array
  rw [horder]
  exact order.ofFn_comp_perm array

namespace AnimationState

/-- `lights_index` has every light once. -/
def OrdersLights (a : AnimationState) : Prop :=
  (List.ofFn a.lightsIndex).Perm (List.range hallwayLights)

theorem ofFn_val (n : ℕ) : List.ofFn (fun i : Fin n => i.val) = List.range n := by
  rw [List.ofFn_eq_map]
  exact List.map_coe_finRange_eq_range

theorem ordersLights_startFade (vdda : ℕ → ℕ) (fadeFrom fadeTo length : ℤ) :
    (startFade vdda fadeFrom fadeTo length).OrdersLights := by
  have hperm := shuffle_perm vdda fun i : Fin hallwayLights => i.val
  rwa [ofFn_val] at hperm

theorem ordersLights_startPlay (fadeFrom length : ℤ) (a : AnimationState) :
    (a.startPlay fadeFrom length).OrdersLights :=
  List.Perm.of_eq (ofFn_val hallwayLights)

/-- A fade stores by the order of the lights. -/
theorem map_fst_fadeStores (a : AnimationState) :
    a.fadeStores.map Prod.fst = List.ofFn a.lightsIndex := by
  unfold fadeStores
  rw [List.map_map, List.ofFn_eq_map]
  rfl

/-- `animate` keeps the animation and the order. -/
theorem animate_frame (a : AnimationState) :
    a.animate.2.2.animation = a.animation ∧ a.animate.2.2.lightsIndex = a.lightsIndex := by
  unfold animate
  split
  · split <;> exact ⟨rfl, rfl⟩
  · exact ⟨rfl, rfl⟩
  · exact ⟨rfl, rfl⟩

/-- The call of `animate` in a fade stores to each light. -/
theorem OrdersLights.animate_perm {a : AnimationState} (h : a.OrdersLights)
    (hfade : a.animation = .fade) (hreturns : a.animate.1 = true) :
    (a.animate.2.1.map Prod.fst).Perm (List.range hallwayLights) := by
  rw [animate_fade hfade] at hreturns ⊢
  split at hreturns
  · cases hreturns
  · rename_i hrunning
    rw [if_neg hrunning]
    dsimp only
    rw [map_fst_fadeStores]
    exact h

/-- In both animations every light is stored to. -/
theorem OrdersLights.exists_store {a : AnimationState} (h : a.OrdersLights)
    (hanimation : a.animation ≠ .none) (hreturns : a.animate.1 = true) {i : ℕ}
    (hi : i < hallwayLights) : ∃ w ∈ a.animate.2.1, w.1 = i := by
  obtain ⟨k, hk⟩ := List.mem_ofFn.mp (h.mem_iff.mpr (List.mem_range.mpr hi))
  unfold animate at hreturns ⊢
  cases hkind : a.animation with
  | none => exact absurd hkind hanimation
  | fade =>
    rw [hkind] at hreturns
    dsimp only at hreturns ⊢
    split at hreturns
    · cases hreturns
    · rename_i hrunning
      rw [if_neg hrunning]
      exact ⟨_, List.mem_map.mpr ⟨k, List.mem_finRange k, rfl⟩, hk⟩
  | play =>
    dsimp only
    refine ⟨_, List.mem_append_left _ (List.mem_map.mpr ⟨k, List.mem_finRange k, rfl⟩), hk⟩

end AnimationState

/-- A store to the index `i` decides what is there. -/
theorem foldl_update_congr {stores : List (ℕ × UInt16)} {i : ℕ} (b b' : ℕ → UInt16)
    (h : ∃ w ∈ stores, w.1 = i) :
    stores.foldl (fun b w => Function.update b w.1 w.2) b i =
      stores.foldl (fun b w => Function.update b w.1 w.2) b' i := by
  obtain ⟨w, hw, hwi⟩ := h
  obtain ⟨w', -, hlast⟩ | ⟨hnone, -⟩ := Hallway.foldl_update_at stores i
  · rw [hlast, hlast]
  · exact absurd hwi (hnone w hw)

namespace Hallway

/-- The state that a fast tick gives to `animate`, if it calls it. -/
def animateCall (input : HallwayInput) (s : Hallway) : Option AnimationState :=
  let s' := s.acceptBrightness input.vdda (s.nextHallwayBrightness input)
  if input.hasLightControl = true ∧ s'.hallwayAnimation ≠ .none then some s'.animation else none

/-- A call of `animate` in a fade that returns 1 stores to each element of `brightness` once, and
to no other. -/
def SetsEachLight (s : Hallway) : Event → Prop
  | .fastTick input =>
    ∀ a ∈ s.animateCall input, a.animation = .fade → a.animate.1 = true →
      (a.animate.2.1.map Prod.fst).Perm (List.range hallwayLights)
  | .tick _ => True

/-! ## The call -/

theorem mem_animateCall {input : HallwayInput} {s : Hallway} {a : AnimationState} :
    a ∈ s.animateCall input ↔
      input.hasLightControl = true ∧
        (s.acceptBrightness input.vdda (s.nextHallwayBrightness input)).hallwayAnimation ≠ .none ∧
        (s.acceptBrightness input.vdda (s.nextHallwayBrightness input)).animation = a := by
  unfold animateCall
  dsimp only
  rw [Option.mem_ite_none_right, and_assoc, Option.mem_some_iff]

/-- A change of the brightness goes by the variables of the animation. -/
theorem acceptBrightness_congr {s s' : Hallway} (vdda : ℕ → ℕ) (next : ℤ)
    (hhallway : s'.hallwayAnimation = s.hallwayAnimation) (hanimation : s'.animation = s.animation)
    (hbrightness : s'.hallwayBrightness = s.hallwayBrightness) :
    (s'.acceptBrightness vdda next).hallwayAnimation =
        (s.acceptBrightness vdda next).hallwayAnimation ∧
      (s'.acceptBrightness vdda next).animation = (s.acceptBrightness vdda next).animation := by
  unfold acceptBrightness
  rw [hhallway, hanimation, hbrightness]
  split
  · dsimp only
    split
    · exact ⟨rfl, rfl⟩
    · exact ⟨rfl, rfl⟩
  · exact ⟨hhallway, hanimation⟩

/-- The lights leave the animation as it is. -/
theorem setLights_animation (b : ℕ → UInt16) (s : Hallway) :
    (s.setLights b).hallwayAnimation = s.hallwayAnimation ∧
      (s.setLights b).animation = s.animation := by
  obtain ⟨pwm, hlights⟩ := s.setLights_eq b
  rw [hlights]
  exact ⟨rfl, rfl⟩

/-- What a running animation does with the lights. -/
theorem stepAnimation_of_running {s : Hallway} (h : s.hallwayAnimation ≠ .none)
    (uninitialised : ℕ → UInt16) :
    (s.stepAnimation uninitialised).animation = s.animation.animate.2.2 ∧
      (s.animation.animate.1 = true → ∀ i < hallwayLights,
        (s.stepAnimation uninitialised).pwm (hallwayStart + i) =
          s.animation.animate.2.1.foldl (fun b w => Function.update b w.1 w.2)
            uninitialised i) := by
  unfold stepAnimation
  rw [if_pos h]
  dsimp only
  by_cases hreturns : s.animation.animate.1 = true
  · rw [if_pos hreturns, (setLights_animation _ _).2]
    exact ⟨rfl, fun _ i hi => setLights_pwm _ _ hi⟩
  · rw [if_neg hreturns]
    exact ⟨rfl, fun hreturn => absurd hreturn hreturns⟩

/-- What a fast tick does with its call of `animate`. -/
theorem appFastTick_of_call {input : HallwayInput} {s : Hallway} {a : AnimationState}
    (h : a ∈ s.animateCall input) :
    (s.appFastTick input).animation = a.animate.2.2 ∧
      (a.animate.1 = true → ∀ i < hallwayLights,
        (s.appFastTick input).pwm (hallwayStart + i) =
          a.animate.2.1.foldl (fun b w => Function.update b w.1 w.2) input.uninitialised i) := by
  obtain ⟨hcontrol, hrunning, rfl⟩ := mem_animateCall.mp h
  obtain ⟨lit, htick, hhallway, hanimation, hbrightness, -⟩ := s.appFastTick_eq hcontrol
  obtain ⟨hsame, hstate⟩ := acceptBrightness_congr input.vdda (s.nextHallwayBrightness input)
    hhallway hanimation hbrightness
  rw [htick, ← hstate]
  rw [← hsame] at hrunning
  exact stepAnimation_of_running hrunning input.uninitialised

/-! ## The order in every state -/

/-- An animation was started with every light in its order; a running one was started. -/
structure OrderOk (s : Hallway) : Prop where
  order : s.animation.animation ≠ .none → s.animation.OrdersLights
  running : s.hallwayAnimation ≠ .none → s.animation.animation ≠ .none

theorem orderOk_start : OrderOk start :=
  ⟨fun hanimation => absurd rfl hanimation, fun hrunning => absurd rfl hrunning⟩

theorem OrderOk.congr {s s' : Hallway} (h : OrderOk s)
    (hhallway : s'.hallwayAnimation = s.hallwayAnimation)
    (hanimation : s'.animation = s.animation) : OrderOk s' := by
  constructor
  · rw [hanimation]
    exact h.order
  · rw [hhallway, hanimation]
    exact h.running

/-- A fade that starts has a shuffled order, a reversed one keeps its own. -/
theorem OrderOk.acceptBrightness {s : Hallway} (h : OrderOk s) (vdda : ℕ → ℕ) (next : ℤ) :
    OrderOk (s.acceptBrightness vdda next) := by
  unfold Hallway.acceptBrightness
  split
  · dsimp only
    split
    · exact ⟨h.order, h.running⟩
    · exact ⟨fun _ => AnimationState.ordersLights_startFade _ _ _ _,
        fun _ hnone => Animation.noConfusion hnone⟩
  · exact h

theorem OrderOk.stepAnimation {s : Hallway} (h : OrderOk s) (uninitialised : ℕ → UInt16) :
    OrderOk (s.stepAnimation uninitialised) := by
  unfold Hallway.stepAnimation
  split
  · rename_i hrunning
    obtain ⟨hkind, hindex⟩ := s.animation.animate_frame
    have hnext : OrderOk { s with animation := s.animation.animate.2.2 } := by
      constructor
      · intro hanimation
        show List.Perm (List.ofFn s.animation.animate.2.2.lightsIndex) _
        rw [hindex]
        exact h.order (hkind ▸ hanimation)
      · intro hrunning
        show s.animation.animate.2.2.animation ≠ .none
        rw [hkind]
        exact h.running hrunning
    dsimp only
    split
    · obtain ⟨hhallway, hanimation⟩ := setLights_animation
        (s.animation.animate.2.1.foldl (fun b w => Function.update b w.1 w.2) uninitialised)
        { s with animation := s.animation.animate.2.2 }
      exact hnext.congr hhallway hanimation
    · exact ⟨hnext.order, fun hnone => absurd rfl hnone⟩
  · exact ⟨fun _ => AnimationState.ordersLights_startPlay _ _ _,
      fun _ hnone => Animation.noConfusion hnone⟩

/-- Every event keeps the order. -/
theorem orderOk_step : Machine.Keeps step OrderOk := by
  intro s e h
  cases e with
  | tick now =>
    obtain ⟨hhallway, hanimation, -⟩ := s.appTick_same now
    exact h.congr hhallway hanimation
  | fastTick input =>
    show OrderOk (s.appFastTick input)
    by_cases hcontrol : input.hasLightControl = true
    · obtain ⟨lit, htick, hhallway, hanimation, -⟩ := s.appFastTick_eq hcontrol
      rw [htick]
      exact ((h.congr hhallway hanimation).acceptBrightness _ _).stepAnimation _
    · have hoff : s.appFastTick input = s := if_neg hcontrol
      rw [hoff]
      exact h

/-- What `animate` gets, has an order. -/
theorem OrderOk.call {s : Hallway} (h : OrderOk s) {input : HallwayInput} {a : AnimationState}
    (ha : a ∈ s.animateCall input) : a.animation ≠ .none ∧ a.OrdersLights := by
  have haccept := h.acceptBrightness input.vdda (s.nextHallwayBrightness input)
  obtain ⟨-, hrunning, rfl⟩ := mem_animateCall.mp ha
  have hanimation := haccept.running hrunning
  exact ⟨hanimation, haccept.order hanimation⟩

theorem OrderOk.setsEachLight {s : Hallway} (h : OrderOk s) (e : Event) : SetsEachLight s e := by
  cases e with
  | tick now => trivial
  | fastTick input =>
    intro a ha hfade hreturns
    exact (h.call ha).2.animate_perm hfade hreturns

/-- **Every light in every fade step**: a shuffle leaves a permutation, whatever `analog_get_vdda`
returns, so the order of a fade that starts has every light; and in every run a call of `animate` in
a fade that returns 1 stores to each element of the array once, and to no other. -/
theorem hallway_lights_set :
    (∀ (α : Type) (n : ℕ) (array : Fin n → α) (vdda : ℕ → ℤ),
        (List.ofFn (shuffle (fun i => sizeT (vdda i)) array)).Perm (List.ofFn array)) ∧
      (∀ (vdda : ℕ → ℤ) (fadeFrom fadeTo length : ℤ),
        (List.ofFn (AnimationState.startFade (fun i => sizeT (vdda i)) fadeFrom fadeTo
          length).lightsIndex).Perm (List.range hallwayLights)) ∧
      ∀ es, Machine.Meets step SetsEachLight start es :=
  ⟨fun _ _ array _ => shuffle_perm _ array,
    fun _ _ _ _ => AnimationState.ordersLights_startFade _ _ _ _,
    fun es => orderOk_step.meets (fun _ e h => h.setsEachLight e) orderOk_start es⟩

/-- No light shows what was in the array before. -/
def LightsDetermined (s : Hallway) : Event → Prop
  | .fastTick input =>
    ∀ uninitialised, ∀ i < hallwayLights,
      (s.appFastTick { input with uninitialised := uninitialised }).pwm (hallwayStart + i) =
        (s.appFastTick input).pwm (hallwayStart + i)
  | .tick _ => True

theorem OrderOk.stepAnimation_pwm {s : Hallway} (h : OrderOk s)
    (uninitialised uninitialised' : ℕ → UInt16) {i : ℕ} (hi : i < hallwayLights) :
    (s.stepAnimation uninitialised).pwm (hallwayStart + i) =
      (s.stepAnimation uninitialised').pwm (hallwayStart + i) := by
  unfold Hallway.stepAnimation
  by_cases hrunning : s.hallwayAnimation ≠ .none
  · rw [if_pos hrunning, if_pos hrunning]
    dsimp only
    by_cases hreturns : s.animation.animate.1 = true
    · have hanimation := h.running hrunning
      rw [if_pos hreturns, if_pos hreturns, setLights_pwm _ _ hi, setLights_pwm _ _ hi]
      exact foldl_update_congr _ _ ((h.order hanimation).exists_store hanimation hreturns hi)
    · rw [if_neg hreturns, if_neg hreturns]
  · rw [if_neg hrunning, if_neg hrunning]

theorem OrderOk.lightsDetermined {s : Hallway} (h : OrderOk s) (e : Event) :
    LightsDetermined s e := by
  cases e with
  | tick now => trivial
  | fastTick input =>
    intro uninitialised i hi
    have htrigger : s.triggerTime { input with uninitialised := uninitialised } =
        s.triggerTime input := rfl
    have hnext : s.nextHallwayBrightness { input with uninitialised := uninitialised } =
        s.nextHallwayBrightness input := by
      unfold nextHallwayBrightness
      rw [htrigger]
    unfold appFastTick
    rw [htrigger, hnext]
    dsimp only
    by_cases hcontrol : input.hasLightControl = true
    · rw [if_pos hcontrol, if_pos hcontrol]
      refine OrderOk.stepAnimation_pwm ?_ _ _ hi
      apply OrderOk.acceptBrightness
      exact h.congr rfl rfl
    · rw [if_neg hcontrol, if_neg hcontrol]

/-- The array is never read where it was not stored to, in no run. -/
theorem lights_determined (es : List Event) : Machine.Meets step LightsDetermined start es :=
  orderOk_step.meets (fun _ e h => h.lightsDetermined e) orderOk_start es

end Hallway

end HouseBus
