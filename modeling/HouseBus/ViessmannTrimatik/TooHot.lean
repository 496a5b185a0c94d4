import HouseBus.ViessmannTrimatik

/-!
# Water that is too hot

In `KEY_MODE_DAY_NIGHT` a burner that is on stops when flow or burner are hotter than the target by
the hysteresis and by the cycle extension, which is at most twice the hysteresis (`ExtensionOk`).
A burner that is off starts by the flow temperature or by the deviation alone: then flow or burner
can be hotter (`burner_cool_iff`).
-/

namespace HouseBus

namespace Trimatik

variable {qfp : Qfp} {clock : TickClock} {input : TickInput} {s : Trimatik}

/-- Flow and burner are at most twice the hysteresis above the target. -/
def Cool (qfp : Qfp) (input : TickInput) (s : Trimatik) : Prop :=
  let limit := s.targetFlowTemp qfp input + 2 * s.config.flowHysteresisTurnOff
  input.flowTemperature ≤ limit ∧ input.burnerTemperature ≤ limit

/-- A tick in `KEY_MODE_DAY_NIGHT` that finds the burner off, its off time over and the conditions
to turn it on. -/
structure Starts (qfp : Qfp) (clock : TickClock) (input : TickInput) (s : Trimatik) : Prop where
  mode : input.key .mode = keyModeDayNight
  off : s.currentBurnerState = false
  enabled : s.config.minFlowTempToEnable < s.targetFlowTemp qfp input
  turnsOn : s.TurnsOn (s.targetFlowTemp qfp input) input.flowTemperature
    (s.integrateDeviation qfp input)
  offTime : ¬ s.InOffTime clock

/-- The cycle extension is at most twice the hysteresis. -/
def ExtensionOk (s : Trimatik) : Prop :=
  0 ≤ s.config.flowHysteresisTurnOff ∧
    s.extendThisCycleFlowTemp ≤ 2 * s.config.flowHysteresisTurnOff

theorem int16_le {x : ℤ} (h : 0 ≤ x) : int16 x ≤ x := by
  rw [int16, Int.bmod_def]
  split <;> omega

theorem cycleExtension_le (h : 0 ≤ s.config.flowHysteresisTurnOff) (targetFlowTemp flowTemp : ℤ) :
    s.cycleExtension targetFlowTemp flowTemp ≤ 2 * s.config.flowHysteresisTurnOff := by
  simp only [cycleExtension]
  split
  · exact int16_le (by omega)
  · omega

theorem ExtensionOk.appTick (h : ExtensionOk s) : ExtensionOk (s.appTick qfp clock input) := by
  obtain ⟨hnonneg, hle⟩ := h
  unfold ExtensionOk
  rw [config_appTick]
  obtain hextension | hextension := (@appTick_burner qfp clock input s).extension_cases
  · exact ⟨hnonneg, hextension.trans_le hle⟩
  · exact ⟨hnonneg, hextension.trans_le (cycleExtension_le hnonneg _ _)⟩

/-- The request in `KEY_MODE_DAY_NIGHT`. -/
theorem burnerRequest_dayNight (hmode : input.key .mode = keyModeDayNight) :
    (s.burnerRequest qfp clock input).burner = true ↔
      s.config.minFlowTempToEnable < s.targetFlowTemp qfp input ∧
        if s.currentBurnerState then
          ¬ s.TurnsOff clock (s.targetFlowTemp qfp input) input.flowTemperature
            input.burnerTemperature (s.integrateDeviation qfp input)
        else s.TurnsOn (s.targetFlowTemp qfp input) input.flowTemperature
          (s.integrateDeviation qfp input) := by
  have hdebug : keyModeDayNight ≠ keyModeDebug := by decide
  rw [burnerRequest, hmode, if_neg hdebug, if_pos rfl, dayNightRequest]
  simp only
  split
  · rename_i henabled
    cases s.currentBurnerState <;> simp [henabled]
  · rename_i hdisabled
    exact iff_of_false Bool.false_ne_true fun h => hdisabled h.1

/-- A burner that stays on is cool. -/
theorem ExtensionOk.cool (h : ExtensionOk s) {deviation : ℤ}
    (hon : ¬ s.TurnsOff clock (s.targetFlowTemp qfp input) input.flowTemperature
      input.burnerTemperature deviation) : s.Cool qfp input := by
  obtain ⟨hnonneg, hle⟩ := h
  obtain ⟨hhot, -⟩ := not_or.mp hon
  unfold Cool
  omega

/-- **What a tick does in hot water**: it leaves the burner on only in cool water, unless it is
a start. -/
theorem ExtensionOk.burnerOn_iff (h : ExtensionOk s) :
    (input.key .mode = keyModeDayNight → (s.appTick qfp clock input).burnerOn = true →
        s.Cool qfp input) ↔
      (s.Starts qfp clock input → s.Cool qfp input) := by
  have hstep : BurnerStep qfp clock input s (s.appTick qfp clock input) := appTick_burner
  constructor
  · rintro hcool ⟨hmode, hoff, henabled, hturnsOn, hofftime⟩
    have hrequest : (s.burnerRequest qfp clock input).burner = true := by
      rw [burnerRequest_dayNight hmode, hoff]
      exact ⟨henabled, hturnsOn⟩
    cases hon : (s.appTick qfp clock input).currentBurnerState with
    | true => exact hcool hmode hon
    | false => exact absurd ((hstep.staysOff_of hoff hon).2 hrequest) hofftime
  · intro hstart hmode hon
    have hrequest := hstep.requested_of hon
    rw [burnerRequest_dayNight hmode] at hrequest
    cases hbefore : s.currentBurnerState with
    | true =>
      rw [hbefore] at hrequest
      exact h.cool hrequest.2
    | false =>
      rw [hbefore] at hrequest
      exact hstart ⟨hmode, hbefore, hrequest.1, hrequest.2, hstep.starts_of hbefore hon⟩

end Trimatik

/-! ## Runs -/

/-- In `KEY_MODE_DAY_NIGHT` the tick leaves the burner on only in cool water. -/
def CoolWhenOn (qfp : Qfp) (s : Heating) (t : Tick) : Prop :=
  t.input.key .mode = keyModeDayNight → (t.step qfp s).heater.burnerOn = true →
    s.heater.Cool qfp t.input

/-- The burner does not start in hot water. -/
def NoHotStart (qfp : Qfp) (s : Heating) (t : Tick) : Prop :=
  s.heater.Starts qfp (t.clock s.now) t.input → s.heater.Cool qfp t.input

/-- **When the burner is never driven in hot water**: in every run of ticks after `app_init`, with
a hysteresis that is not negative, exactly if no tick starts it there. -/
theorem burner_cool_iff (qfp : Qfp) {cfg : TrimatikConfig}
    (hcfg : 0 ≤ cfg.read.flowHysteresisTurnOff) (now : ℕ) (ts : List Tick) :
    Machine.Meets (Tick.step qfp) (CoolWhenOn qfp) (.start cfg now) ts ↔
      Machine.Meets (Tick.step qfp) (NoHotStart qfp) (.start cfg now) ts := by
  have hkeeps : Machine.Keeps (Tick.step qfp) fun s => s.heater.ExtensionOk :=
    fun _ _ h => h.appTick
  have hstart : (Trimatik.start cfg).ExtensionOk := ⟨hcfg, Int.mul_nonneg (by decide) hcfg⟩
  exact (hkeeps.keepsIf _).meets_congr (fun _ _ h => h.burnerOn_iff) hstart ts

/-- Turn-on and turn-off hysteresis of 5 K, and control by the flow temperature. -/
def fiveKelvin : TrimatikConfig := ⟨500, 500, 3000, 2500, 60, 300, 60, 0, 0, 0, 0, 0⟩

/-- 0 degrees outside, the flow at 40 and the burner at 70 degrees, keys for 20 degrees and a slope
of 1.4: the target flow temperature is 50.65 degrees. -/
def hotBurner : Tick where
  input :=
    { outsideTemperature := 0
      burnerTemperature := 7000
      flowTemperature := 4000
      key := fun
        | .mode => keyModeDayNight
        | .day => 7
        | .slope => 10
        | .offset => 4
        | _ => 0
      timeHour := 0
      timeMinute := 0 }
  lid := 0
  running := 0
  switch := 0
  request := 0
  circulation := 0

theorem burner_cool_iff_hotBurner :
    Machine.Meets (Tick.step (.const 5065)) (CoolWhenOn (.const 5065)) (.start fiveKelvin 0)
        [hotBurner] ↔
      Machine.Meets (Tick.step (.const 5065)) (NoHotStart (.const 5065)) (.start fiveKelvin 0)
        [hotBurner] :=
  burner_cool_iff (.const 5065) (by decide : 0 ≤ fiveKelvin.read.flowHysteresisTurnOff) 0
    [hotBurner]

/-- This tick starts the burner. -/
theorem not_burner_cool :
    ¬ ∀ (qfp : Qfp) (cfg : TrimatikConfig), 0 ≤ cfg.read.flowHysteresisTurnOff →
      ∀ (now : ℕ) (ts : List Tick),
        Machine.Meets (Tick.step qfp) (CoolWhenOn qfp) (.start cfg now) ts := by
  intro h
  have hrun := h (.const 5065) fiveKelvin (by decide) 0 [hotBurner]
  have hcool : (7000 : ℤ) ≤ 5065 + 2 * 500 := (hrun.1 rfl (by decide)).2
  exact absurd hcool (by decide)

end HouseBus
