import HouseBus.Lib.Machine
import HouseBus.Qfp

/-!
# The heater node (`sw/nodes/viessmann_trimatik.c`)

Once per second `app_tick` decides whether the burner and the circulation pump run. Sensors, keys
and the time of day are its input (`TickInput`): other threads write them at any time, and the model
takes any values. `TickClock` has the system times that the tick reads, in their order.

The burner is requested by the mode (`burnerRequest`); a request to switch on is refused in the
minimum off time (`switchBurner`). `appTick_burner` says what a tick can do to the burner.
-/

namespace HouseBus

/-! ## Input and configuration -/

/-- The indices of `key`. -/
inductive Key
  | day | mode | night | slope | water | offset

/-- `KEY_MODE_DAY_OFF` -/
def keyModeDayOff : ℕ := 1

/-- `KEY_MODE_DAY_NIGHT` -/
def keyModeDayNight : ℕ := 2

/-- `KEY_MODE_DEBUG` -/
def keyModeDebug : ℕ := 6

/-- `BURNER_REQUEST_DELAY` -/
def burnerRequestDelay : ℕ := 50

/-- What a tick reads: `temperature`, `key`, and the time of day. -/
structure TickInput where
  outsideTemperature : ℤ
  burnerTemperature : ℤ
  flowTemperature : ℤ
  key : Key → ℕ
  timeHour : ℕ
  timeMinute : ℕ

/-- The values that the `config_get_*` calls of `read_config` return, and the static variables they
are stored to. -/
structure TrimatikConfig where
  flowHysteresisTurnOff : ℤ
  flowHysteresisTurnOn : ℤ
  minFlowTempToEnable : ℕ
  minTempToEnableCirculation : ℕ
  burnerStopTempRiseTime : ℕ
  burnerMinOffTime : ℕ
  circulationMinOnTimeForThreshold : ℕ
  time1Start : ℕ
  time1Stop : ℕ
  time1Temp : ℤ
  time2Temp : ℤ
  deviationHysteresis : ℤ

/-- `read_config` -/
def TrimatikConfig.read (cfg : TrimatikConfig) : TrimatikConfig where
  flowHysteresisTurnOff := int16 cfg.flowHysteresisTurnOff
  flowHysteresisTurnOn := int16 cfg.flowHysteresisTurnOn
  minFlowTempToEnable := cfg.minFlowTempToEnable % 2 ^ 16
  minTempToEnableCirculation := cfg.minTempToEnableCirculation % 2 ^ 16
  burnerStopTempRiseTime := cfg.burnerStopTempRiseTime % 2 ^ 16
  burnerMinOffTime := cfg.burnerMinOffTime % 2 ^ 16
  circulationMinOnTimeForThreshold := cfg.circulationMinOnTimeForThreshold % 2 ^ 16
  time1Start := cfg.time1Start % 2 ^ 32
  time1Stop := cfg.time1Stop % 2 ^ 32
  time1Temp := int16 cfg.time1Temp
  time2Temp := int16 cfg.time2Temp
  deviationHysteresis := int32 cfg.deviationHysteresis

/-! ## Target temperatures -/

/-- `getTargetTemperature` -/
def getTargetTemperature (key : Key → ℕ) (night : Bool) : ℤ :=
  if night then int16 ((7 + key .night) * 100) else int16 ((13 + key .day) * 100)

/-- `getCurveSlope`; the bits of 0.2, 0.4, 0.6, 0.7, .. 1.4, 1.6, 1.9, 2.2, 2.4 and 2.6. -/
def getCurveSlope (key : Key → ℕ) : FloatBits :=
  [0x3E4CCCCD, 0x3ECCCCCD, 0x3F19999A, 0x3F333333, 0x3F4CCCCD, 0x3F666666, 0x3F800000, 0x3F8CCCCD,
    0x3F99999A, 0x3FA66666, 0x3FB33333, 0x3FCCCCCD, 0x3FF33333, 0x400CCCCD, 0x4019999A,
    0x40266666].getD (key .slope % 16) 0

/-- `getCurveOffset` -/
def getCurveOffset (qfp : Qfp) (key : Key → ℕ) : FloatBits :=
  qfp.int2float ((key .offset : ℤ) * 3 - 12)

/-- `getTargetFlowTemperature`; the constants are 0.8281902 and 1.8317984. -/
def getTargetFlowTemperature (qfp : Qfp) (input : TickInput) (targetTemperature : ℤ) : ℤ :=
  let outside := qfp.fdiv (qfp.int2float input.outsideTemperature) (qfp.ofInt 100)
  let target := qfp.fdiv (qfp.int2float targetTemperature) (qfp.ofInt 100)
  let exp := qfp.fmul 0x3F540446 (qfp.fln (qfp.fsub target outside))
  let result := qfp.fadd
    (qfp.fadd
      (qfp.fmul (getCurveSlope input.key) (qfp.fmul 0x3FEA785F (qfp.fexp exp)))
      (getCurveOffset qfp input.key))
    target
  int16 (qfp.float2int (qfp.fmul result (qfp.ofInt 100)))

/-- `getWeightedFlowDeviation`; the radiator exponent is 1.3. -/
def getWeightedFlowDeviation (qfp : Qfp) (targetTemperature targetFlowTemperature
    actualFlowTemperature : ℤ) : ℤ :=
  if targetFlowTemperature ≤ targetTemperature then 0
  else
    let radiatorExponent : FloatBits := 0x3FA66666
    let target := qfp.fdiv (qfp.int2float targetTemperature) (qfp.ofInt 100)
    let targetFlow := qfp.fdiv (qfp.int2float targetFlowTemperature) (qfp.ofInt 100)
    let actualFlow := qfp.fdiv (qfp.int2float actualFlowTemperature) (qfp.ofInt 100)
    let targetProportionalPower :=
      qfp.fexp (qfp.fmul (qfp.fln (qfp.fsub targetFlow target)) radiatorExponent)
    if actualFlowTemperature ≤ targetTemperature then
      int32 (qfp.float2int (qfp.fmul targetProportionalPower (qfp.ofInt (-100))))
    else
      let actualProportionalPower :=
        qfp.fexp (qfp.fmul (qfp.fln (qfp.fsub actualFlow target)) radiatorExponent)
      int32 (qfp.float2int (qfp.fmul
        (qfp.fsub actualProportionalPower targetProportionalPower) (qfp.ofInt 100)))

/-- `inTimeRange`; the parameters have 16 bits. -/
def inTimeRange (input : TickInput) (start stop : ℕ) : Bool :=
  let startH := start % 2 ^ 16 / 256
  let startM := start % 256
  let stopH := stop % 2 ^ 16 / 256
  let stopM := stop % 256
  if startH < input.timeHour ∧ input.timeHour < stopH then true
  else if input.timeHour = startH ∧ startM ≤ input.timeMinute then true
  else if input.timeHour = stopH ∧ input.timeMinute < stopM then true
  else false

/-! ## The node -/

/-- The arguments of `broadcast_heater_status`. -/
structure HeaterStatus where
  tempOut : ℤ
  tempBurner : ℤ
  tempFlow : ℤ
  circulation : ℕ
  burner : Bool
  burnerActuallyFiring : Bool
  tempFlowTarget : ℤ

/-- The static variables of the configuration and of `app_tick`, the two relay outputs and the
status messages sent. `currentCirculationState` is 2 when `KEY_MODE_DEBUG` requests it. -/
structure Trimatik where
  config : TrimatikConfig
  currentBurnerState : Bool
  currentCirculationState : ℕ
  lastBurnerRequestStart : ℕ
  lastBurnerStop : ℕ
  lastCirculationStart : ℕ
  extendThisCycleFlowTemp : ℤ
  flowTempDeviation : ℤ
  burnerOn : Bool
  circulationOn : Bool
  sent : List HeaterStatus

/-- The initial values, after `app_init`. -/
def Trimatik.start (cfg : TrimatikConfig) : Trimatik where
  config := cfg.read
  currentBurnerState := false
  currentCirculationState := 0
  lastBurnerRequestStart := 0
  lastBurnerStop := 0x8FF00
  lastCirculationStart := 0
  extendThisCycleFlowTemp := 0
  flowTempDeviation := 0
  burnerOn := false
  circulationOn := false
  sent := []

/-- The system times that a tick reads: for `burnerLidFor`, for `circulationRunningFor`, at a stop
of the burner or before its start, at its start, and at that of the circulation. -/
structure TickClock where
  lid : ℕ
  running : ℕ
  switch : ℕ
  request : ℕ
  circulation : ℕ

/-- What a mode requests of burner and circulation, and the deviation. -/
structure BurnerRequest where
  burner : Bool
  circulation : ℕ
  flowTempDeviation : ℤ

namespace Trimatik

/-- `app_config_update` -/
def appConfigUpdate (cfg : TrimatikConfig) (s : Trimatik) : Trimatik :=
  { s with config := cfg.read }

/-- The target temperature of a tick. -/
def targetTemp (input : TickInput) (s : Trimatik) : ℤ :=
  if inTimeRange input s.config.time1Start s.config.time1Stop then
    int16 (getTargetTemperature input.key false + s.config.time1Temp)
  else int16 (getTargetTemperature input.key true + s.config.time2Temp)

/-- The target flow temperature of a tick. -/
def targetFlowTemp (qfp : Qfp) (input : TickInput) (s : Trimatik) : ℤ :=
  getTargetFlowTemperature qfp input (s.targetTemp input)

/-- `burnerLidFor` -/
def burnerLidFor (clock : TickClock) (s : Trimatik) : ℤ :=
  let lid : ℕ :=
    if s.currentBurnerState then timeI2S (timeElapsedSince clock.lid s.lastBurnerRequestStart)
    else 0
  int16 (lid - burnerRequestDelay)

/-- `circulationRunningFor` -/
def circulationRunningFor (clock : TickClock) (s : Trimatik) : ℤ :=
  let running : ℕ :=
    if s.currentCirculationState ≠ 0 then
      timeI2S (timeElapsedSince clock.running s.lastCirculationStart)
    else 0
  int32 running

/-- The limited deviation integral of a tick in `KEY_MODE_DAY_NIGHT`. -/
def integrateDeviation (qfp : Qfp) (input : TickInput) (s : Trimatik) : ℤ :=
  let deviation := int32 (s.flowTempDeviation + getWeightedFlowDeviation qfp (s.targetTemp input)
    (s.targetFlowTemp qfp input) input.flowTemperature)
  let limit := int32 (8 * s.config.deviationHysteresis)
  let lowerLimit := int32 (-8 * s.config.deviationHysteresis)
  if limit < deviation then limit else if deviation < lowerLimit then lowerLimit else deviation

/-- The conditions to request the burner while it is off. -/
def TurnsOn (targetFlowTemp flowTemp deviation : ℤ) (s : Trimatik) : Prop :=
  let hysteresis := s.config.deviationHysteresis
  (hysteresis = 0 ∧ flowTemp < targetFlowTemp - s.config.flowHysteresisTurnOn) ∨
    (hysteresis ≠ 0 ∧ deviation < 0 - hysteresis)

/-- The conditions to stop requesting it while it is on: too hot beyond the hysteresis and the cycle
extension, the deviation, or a burner that is hotter than the flow. -/
def TurnsOff (clock : TickClock) (targetFlowTemp flowTemp burnerTemp deviation : ℤ) (s : Trimatik) :
    Prop :=
  let turnOff := s.config.flowHysteresisTurnOff
  let hysteresis := s.config.deviationHysteresis
  ((targetFlowTemp + turnOff < flowTemp ∧
        targetFlowTemp + s.extendThisCycleFlowTemp < flowTemp) ∨
      (targetFlowTemp + turnOff < burnerTemp ∧
        targetFlowTemp + s.extendThisCycleFlowTemp < burnerTemp)) ∨
    (hysteresis ≠ 0 ∧ hysteresis < deviation) ∨
    (flowTemp < burnerTemp ∧ (s.config.burnerStopTempRiseTime : ℤ) < s.burnerLidFor clock ∧
      (s.config.circulationMinOnTimeForThreshold : ℤ) < s.circulationRunningFor clock)

instance (targetFlowTemp flowTemp deviation : ℤ) (s : Trimatik) :
    Decidable (TurnsOn targetFlowTemp flowTemp deviation s) :=
  inferInstanceAs (Decidable (_ ∨ _))

instance (clock : TickClock) (targetFlowTemp flowTemp burnerTemp deviation : ℤ) (s : Trimatik) :
    Decidable (TurnsOff clock targetFlowTemp flowTemp burnerTemp deviation s) :=
  inferInstanceAs (Decidable ((_ ∨ _) ∨ _ ∨ _))

/-- The branch for `KEY_MODE_DAY_NIGHT`. -/
def dayNightRequest (qfp : Qfp) (clock : TickClock) (input : TickInput) (s : Trimatik) :
    BurnerRequest :=
  let flowTemp := input.flowTemperature
  let burnerTemp := input.burnerTemperature
  let targetFlowTemp := s.targetFlowTemp qfp input
  let deviation := s.integrateDeviation qfp input
  let minTemp : ℤ := s.config.minTempToEnableCirculation
  let circulation :=
    if (s.currentCirculationState ≠ 0 ∧ minTemp - 100 < flowTemp) ∨ minTemp < flowTemp ∨
      minTemp < burnerTemp then 1 else 0
  if s.config.minFlowTempToEnable < targetFlowTemp then
    let burner :=
      if s.currentBurnerState then
        !decide (s.TurnsOff clock targetFlowTemp flowTemp burnerTemp deviation)
      else decide (s.TurnsOn targetFlowTemp flowTemp deviation)
    ⟨burner, circulation, deviation⟩
  else ⟨false, circulation, 0⟩

/-- The branches of `app_tick` by the mode key. -/
def burnerRequest (qfp : Qfp) (clock : TickClock) (input : TickInput) (s : Trimatik) :
    BurnerRequest :=
  if input.key .mode = keyModeDebug then
    ⟨decide (input.key .slope % 2 = 1), input.key .slope / 2 % 2 * 2, s.flowTempDeviation⟩
  else if input.key .mode = keyModeDayNight then s.dayNightRequest qfp clock input
  else if input.key .mode = keyModeDayOff then
    let minTemp : ℤ := s.config.minTempToEnableCirculation
    let circulation :=
      if minTemp < input.flowTemperature ∨ minTemp < input.burnerTemperature then 1 else 0
    ⟨false, circulation, 0⟩
  else ⟨false, 0, s.flowTempDeviation⟩

/-- The burner may not start yet. -/
def InOffTime (clock : TickClock) (s : Trimatik) : Prop :=
  timeI2S (timeElapsedSince clock.switch s.lastBurnerStop) < s.config.burnerMinOffTime

instance (clock : TickClock) (s : Trimatik) : Decidable (InOffTime clock s) :=
  inferInstanceAs (Decidable (_ < _))

/-- The cycle extension of a burner start. -/
def cycleExtension (targetFlowTemp flowTemp : ℤ) (s : Trimatik) : ℤ :=
  let extension := int16 (targetFlowTemp - flowTemp)
  if 2 * s.config.flowHysteresisTurnOff < extension then int16 (2 * s.config.flowHysteresisTurnOff)
  else extension

/-- The part of `app_tick` behind the modes that notes a stop and refuses or notes a start: the next
burner state, and the variables. -/
def switchBurner (clock : TickClock) (targetFlowTemp flowTemp : ℤ) (request : Bool) (s : Trimatik) :
    Bool × Trimatik :=
  let s :=
    if !request && s.currentBurnerState then { s with lastBurnerStop := clock.switch } else s
  if request && !s.currentBurnerState then
    if s.InOffTime clock then (false, s)
    else
      (true,
        { s with
          lastBurnerRequestStart := clock.request
          extendThisCycleFlowTemp := s.cycleExtension targetFlowTemp flowTemp })
  else (request, s)

/-- `app_tick`, without LEDs, pull-up and log messages. -/
def appTick (qfp : Qfp) (clock : TickClock) (input : TickInput) (s : Trimatik) : Trimatik :=
  let burnerLidFor := s.burnerLidFor clock
  let targetFlowTemp := s.targetFlowTemp qfp input
  let request := s.burnerRequest qfp clock input
  let switched := switchBurner clock targetFlowTemp input.flowTemperature request.burner
    { s with flowTempDeviation := request.flowTempDeviation }
  let next := switched.2
  { next with
    lastCirculationStart :=
      if request.circulation ≠ 0 ∧ next.currentCirculationState = 0 then clock.circulation
      else next.lastCirculationStart
    burnerOn := switched.1
    circulationOn := decide (request.circulation ≠ 0)
    sent := next.sent ++ [⟨input.outsideTemperature, input.burnerTemperature, input.flowTemperature,
      request.circulation, switched.1, decide (0 < burnerLidFor), targetFlowTemp⟩]
    currentBurnerState := switched.1
    currentCirculationState := request.circulation }

variable {qfp : Qfp} {clock : TickClock} {input : TickInput} {s : Trimatik}

section Switch

variable {targetFlowTemp flowTemp : ℤ}

theorem switchBurner_idle (h : s.currentBurnerState = false) :
    switchBurner clock targetFlowTemp flowTemp false s = (false, s) := by
  simp [switchBurner, h]

theorem switchBurner_stop (h : s.currentBurnerState = true) :
    switchBurner clock targetFlowTemp flowTemp false s =
      (false, { s with lastBurnerStop := clock.switch }) := by
  simp [switchBurner, h]

theorem switchBurner_keep (h : s.currentBurnerState = true) :
    switchBurner clock targetFlowTemp flowTemp true s = (true, s) := by
  simp [switchBurner, h]

theorem switchBurner_start (h : s.currentBurnerState = false) :
    switchBurner clock targetFlowTemp flowTemp true s =
      if s.InOffTime clock then (false, s)
      else
        (true,
          { s with
            lastBurnerRequestStart := clock.request
            extendThisCycleFlowTemp := s.cycleExtension targetFlowTemp flowTemp }) := by
  simp [switchBurner, h]

theorem config_switchBurner (request : Bool) :
    (switchBurner clock targetFlowTemp flowTemp request s).2.config = s.config := by
  cases request <;> cases hcurrent : s.currentBurnerState
  · rw [switchBurner_idle hcurrent]
  · rw [switchBurner_stop hcurrent]
  · rw [switchBurner_start hcurrent]
    split <;> rfl
  · rw [switchBurner_keep hcurrent]

end Switch

@[simp] theorem config_appTick : (s.appTick qfp clock input).config = s.config :=
  config_switchBurner _

/-- What a tick does to the burner: it stays off, it starts behind the off time, it stays on, or it
stops. -/
inductive BurnerStep (qfp : Qfp) (clock : TickClock) (input : TickInput) (s s' : Trimatik) : Prop
  | staysOff (before : s.currentBurnerState = false) (after : s'.currentBurnerState = false)
      (stop : s'.lastBurnerStop = s.lastBurnerStop)
      (extension : s'.extendThisCycleFlowTemp = s.extendThisCycleFlowTemp)
      (refused : (s.burnerRequest qfp clock input).burner = true → s.InOffTime clock)
  | starts (before : s.currentBurnerState = false) (after : s'.currentBurnerState = true)
      (stop : s'.lastBurnerStop = s.lastBurnerStop)
      (extension : s'.extendThisCycleFlowTemp =
        s.cycleExtension (s.targetFlowTemp qfp input) input.flowTemperature)
      (requested : (s.burnerRequest qfp clock input).burner = true)
      (offTime : ¬ s.InOffTime clock)
  | staysOn (before : s.currentBurnerState = true) (after : s'.currentBurnerState = true)
      (stop : s'.lastBurnerStop = s.lastBurnerStop)
      (extension : s'.extendThisCycleFlowTemp = s.extendThisCycleFlowTemp)
      (requested : (s.burnerRequest qfp clock input).burner = true)
  | stops (before : s.currentBurnerState = true) (after : s'.currentBurnerState = false)
      (stop : s'.lastBurnerStop = clock.switch)
      (extension : s'.extendThisCycleFlowTemp = s.extendThisCycleFlowTemp)
      (requested : (s.burnerRequest qfp clock input).burner = false)

namespace BurnerStep

variable {s' : Trimatik}

theorem extension_cases (h : BurnerStep qfp clock input s s') :
    s'.extendThisCycleFlowTemp = s.extendThisCycleFlowTemp ∨
      s'.extendThisCycleFlowTemp =
        s.cycleExtension (s.targetFlowTemp qfp input) input.flowTemperature := by
  cases h with
  | starts _ _ _ extension => exact .inr extension
  | staysOff _ _ _ extension | staysOn _ _ _ extension | stops _ _ _ extension =>
    exact .inl extension

theorem starts_of (h : BurnerStep qfp clock input s s') (hoff : s.currentBurnerState = false)
    (hon : s'.currentBurnerState = true) : ¬ s.InOffTime clock := by
  cases h with
  | starts _ _ _ _ _ offTime => exact offTime
  | staysOff _ after => exact absurd (after.symm.trans hon) Bool.false_ne_true
  | staysOn before | stops before => exact absurd (hoff.symm.trans before) Bool.false_ne_true

theorem stops_of (h : BurnerStep qfp clock input s s') (hon : s.currentBurnerState = true)
    (hoff : s'.currentBurnerState = false) : s'.lastBurnerStop = clock.switch := by
  cases h with
  | stops _ _ stop => exact stop
  | staysOn _ after => exact absurd (hoff.symm.trans after) Bool.false_ne_true
  | staysOff before | starts before => exact absurd (before.symm.trans hon) Bool.false_ne_true

theorem staysOff_of (h : BurnerStep qfp clock input s s') (hbefore : s.currentBurnerState = false)
    (hafter : s'.currentBurnerState = false) :
    s'.lastBurnerStop = s.lastBurnerStop ∧
      ((s.burnerRequest qfp clock input).burner = true → s.InOffTime clock) := by
  cases h with
  | staysOff _ _ stop _ refused => exact ⟨stop, refused⟩
  | starts _ after => exact absurd (hafter.symm.trans after) Bool.false_ne_true
  | staysOn before | stops before => exact absurd (hbefore.symm.trans before) Bool.false_ne_true

theorem requested_of (h : BurnerStep qfp clock input s s') (hon : s'.currentBurnerState = true) :
    (s.burnerRequest qfp clock input).burner = true := by
  cases h with
  | starts _ _ _ _ requested | staysOn _ _ _ _ requested => exact requested
  | staysOff _ after | stops _ after => exact absurd (after.symm.trans hon) Bool.false_ne_true

end BurnerStep

/-- The burner of `app_tick` is that of `switchBurner`. -/
theorem appTick_switch :
    let s' := s.appTick qfp clock input
    let request := s.burnerRequest qfp clock input
    let switched := switchBurner clock (s.targetFlowTemp qfp input) input.flowTemperature
      request.burner { s with flowTempDeviation := request.flowTempDeviation }
    s'.currentBurnerState = switched.1 ∧ s'.lastBurnerStop = switched.2.lastBurnerStop ∧
      s'.extendThisCycleFlowTemp = switched.2.extendThisCycleFlowTemp :=
  ⟨rfl, rfl, rfl⟩

/-- **`app_tick`**, as far as the burner goes. -/
theorem appTick_burner : BurnerStep qfp clock input s (s.appTick qfp clock input) := by
  obtain ⟨hstate, hstop, hextension⟩ := @appTick_switch qfp clock input s
  generalize hpre : ({ s with
    flowTempDeviation := (s.burnerRequest qfp clock input).flowTempDeviation } : Trimatik) = pre
    at hstate hstop hextension
  have hcurrent : pre.currentBurnerState = s.currentBurnerState := by rw [← hpre]
  have hstop' : pre.lastBurnerStop = s.lastBurnerStop := by rw [← hpre]
  have hextension' : pre.extendThisCycleFlowTemp = s.extendThisCycleFlowTemp := by rw [← hpre]
  cases hrequest : (s.burnerRequest qfp clock input).burner <;>
    cases hon : s.currentBurnerState <;> rw [hon] at hcurrent
  · rw [hrequest, switchBurner_idle hcurrent] at hstate hstop hextension
    refine .staysOff hon hstate (hstop.trans hstop') (hextension.trans hextension') fun h => ?_
    exact absurd (hrequest.symm.trans h) Bool.false_ne_true
  · rw [hrequest, switchBurner_stop hcurrent] at hstate hstop hextension
    exact .stops hon hstate hstop (hextension.trans hextension') hrequest
  · rw [hrequest, switchBurner_start hcurrent] at hstate hstop hextension
    have hoff : pre.InOffTime clock ↔ s.InOffTime clock := by rw [← hpre]; rfl
    by_cases hofftime : s.InOffTime clock
    · rw [if_pos (hoff.mpr hofftime)] at hstate hstop hextension
      exact .staysOff hon hstate (hstop.trans hstop') (hextension.trans hextension')
        fun _ => hofftime
    · rw [if_neg (hoff.not.mpr hofftime)] at hstate hstop hextension
      refine .starts hon hstate (hstop.trans hstop') (hextension.trans ?_) hrequest hofftime
      rw [← hpre]
      rfl
  · rw [hrequest, switchBurner_keep hcurrent] at hstate hstop hextension
    exact .staysOn hon hstate (hstop.trans hstop') (hextension.trans hextension') hrequest

end Trimatik

/-! ## Runs in real time -/

/-- A tick: its input, and the real ticks that pass before each of its clock readings. -/
structure Tick where
  input : TickInput
  lid : ℕ
  running : ℕ
  switch : ℕ
  request : ℕ
  circulation : ℕ

/-- The node and the real tick. -/
structure Heating where
  heater : Trimatik
  now : ℕ

/-- After `app_init` at tick `now`. -/
def Heating.start (cfg : TrimatikConfig) (now : ℕ) : Heating := ⟨.start cfg, now⟩

namespace Tick

/-- The real tick at which a tick reads the clock for a stop or before a start. -/
def switchAt (t : Tick) (now : ℕ) : ℕ := now + t.lid + t.running + t.switch

/-- The real tick of the last reading. -/
def endAt (t : Tick) (now : ℕ) : ℕ := t.switchAt now + t.request + t.circulation

/-- The readings of a tick that begins at `now`. -/
def clock (t : Tick) (now : ℕ) : TickClock where
  lid := systemTime (now + t.lid)
  running := systemTime (now + t.lid + t.running)
  switch := systemTime (t.switchAt now)
  request := systemTime (t.switchAt now + t.request)
  circulation := systemTime (t.endAt now)

/-- The state after a tick. -/
def step (qfp : Qfp) (s : Heating) (t : Tick) : Heating :=
  ⟨s.heater.appTick qfp (t.clock s.now) t.input, t.endAt s.now⟩

end Tick

/-- What happens to the node: a tick, or a new configuration. -/
inductive HeatEvent
  | tick (t : Tick)
  | configUpdate (cfg : TrimatikConfig)

/-- The state after an event. -/
def HeatEvent.step (qfp : Qfp) (s : Heating) : HeatEvent → Heating
  | .tick t => t.step qfp s
  | .configUpdate cfg => { s with heater := s.heater.appConfigUpdate cfg }

end HouseBus
