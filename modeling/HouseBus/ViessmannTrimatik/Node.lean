import HouseBus.TimeData
import HouseBus.ViessmannTrimatik.Filter
import HouseBus.ViessmannTrimatik.HeaterStatus
import HouseBus.ViessmannTrimatik.Keys

/-!
# The heater node as a whole (`sw/nodes/viessmann_trimatik.c`)

Fast ticks read the switches and, once per second, the filtered inputs; the tick decides on what they
left; messages bring the time of day. So between the switch on the panel and the relays there are the
scan of the keys and the modes of `app_tick`.

**The relays follow the mode switch** (`relays_follow_switch`): from the first tick on that comes
behind six fast ticks with the switch in one position, the relays are as this position wants them,
until the next tick.
-/

namespace HouseBus

/-- `pt500_adc_to_centicelsius`; the three entries of `pt500` are the same. -/
def pt500AdcToCenticelsius (qfp : Qfp) (rawAdc : ℕ) : ℤ :=
  let u := qfp.int2float rawAdc
  let t := qfp.fadd 0x479F496E
    (qfp.fadd (qfp.fmul 0xC0C08EB6 u) (qfp.fmul (qfp.fmul u u) 0x38E2DA87))
  int16 (qfp.float2int t)

/-- The node: the variables of the keys, of the inputs and of the time, and what `app_tick` has. -/
structure HeaterNode where
  keys : KeyScan
  inputs : HeaterInputs
  temperature : ℕ → ℤ
  time : TimeData
  heater : Trimatik
  debugSent : List HeaterStatusParams

/-- What happens to the node. -/
inductive HeaterEvent
  | sample (sample : AdcSample)
  | interrupt
  | fastTick (contacts : KeyContacts)
  | tick (clock : TickClock)
  | timeData (t : CanardRxTransfer)
  | configUpdate (cfg : TrimatikConfig)

namespace HeaterNode

/-- After `app_init`. -/
def start (cfg : TrimatikConfig) : HeaterNode :=
  ⟨.start, .start, fun _ => 0, .start, .start cfg, []⟩

/-- `circulationState`: the level of the pad, which is low for an enabled pump. -/
def circulationState (s : HeaterNode) : UInt8 := if s.heater.circulationOn then 0 else 1

/-- `burnerState` -/
def burnerState (s : HeaterNode) : UInt8 := if s.heater.burnerOn then 0 else 1

/-- What `app_fast_tick` does with the filtered inputs: the temperatures, or a debug message. -/
def useInputs (qfp : Qfp) (s : HeaterNode) : HeaterNode :=
  let filtered := s.inputs.adcDoubleFiltered
  if s.keys.keys .mode = keyModeDebug then
    { s with
      debugSent := s.debugSent ++
        [.debug (fun i => UInt32.ofNat (filtered i)) s.circulationState s.burnerState] }
  else
    { s with
      temperature := fun i => pt500AdcToCenticelsius qfp (filtered i / 65536) }

/-- `app_fast_tick`, with the contacts of the switches. -/
def appFastTick (qfp : Qfp) (contacts : KeyContacts) (s : HeaterNode) : HeaterNode :=
  let s' := { s with keys := s.keys.step contacts, inputs := s.inputs.appFastTick }
  if s.inputs.analogTick = analogFilterTicks - 1 then s'.useInputs qfp else s'

/-- What a tick reads. -/
def input (s : HeaterNode) : TickInput where
  outsideTemperature := s.temperature 0
  burnerTemperature := s.temperature 1
  flowTemperature := s.temperature 2
  key := s.keys.keys
  timeHour := s.time.timeHour
  timeMinute := s.time.timeMinute

/-- The state after an event. -/
def step (can : Canard) (qfp : Qfp) (s : HeaterNode) : HeaterEvent → HeaterNode
  | .sample sample => { s with inputs := s.inputs.sample sample }
  | .interrupt => { s with inputs := s.inputs.serveInterrupt }
  | .fastTick contacts => s.appFastTick qfp contacts
  | .tick clock =>
    { s with
      inputs := s.inputs.step .tick
      heater := s.heater.appTick qfp clock s.input }
  | .timeData t => { s with time := s.time.onTimeData can t }
  | .configUpdate cfg => { s with heater := s.heater.appConfigUpdate cfg }

/-! ## What a position of the mode switch wants -/

/-- The water is hot enough for the circulation. -/
def Hot (s : HeaterNode) : Prop :=
  (s.heater.config.minTempToEnableCirculation : ℤ) < s.temperature 2 ∨
    (s.heater.config.minTempToEnableCirculation : ℤ) < s.temperature 1

/-- The burner may be on. -/
def BurnerAllowed (qfp : Qfp) (mode : ℕ) (s : HeaterNode) : Prop :=
  (mode = keyModeDayNight ∧
      (s.heater.config.minFlowTempToEnable : ℤ) < s.heater.targetFlowTemp qfp s.input) ∨
    (mode = keyModeDebug ∧ s.keys.keys .slope % 2 = 1)

/-- The circulation pump is on. -/
def CirculationWanted (mode : ℕ) (s : HeaterNode) : Prop :=
  (mode = keyModeDebug ∧ s.keys.keys .slope / 2 % 2 = 1) ∨
    (mode = keyModeDayNight ∧ (s.Hot ∨ (s.heater.circulationOn = true ∧
      (s.heater.config.minTempToEnableCirculation : ℤ) - 100 < s.temperature 2))) ∨
    (mode = keyModeDayOff ∧ s.Hot)

instance (s : HeaterNode) : Decidable s.Hot := inferInstanceAs (Decidable (_ ∨ _))

instance (mode : ℕ) (s : HeaterNode) : Decidable (s.CirculationWanted mode) :=
  inferInstanceAs (Decidable (_ ∨ _ ∨ _))

/-! ## One event -/

def IsTick : HeaterEvent → Prop
  | .tick _ => True
  | _ => False

/-- The contacts in the fast ticks. -/
def contactsOf (es : List HeaterEvent) : List KeyContacts :=
  es.filterMap fun
    | .fastTick contacts => some contacts
    | _ => none

section

variable {can : Canard} {qfp : Qfp} {s : HeaterNode}

/-- A fast tick scans the keys, and leaves the tick's variables alone. -/
theorem appFastTick_parts (qfp : Qfp) (contacts : KeyContacts) (s : HeaterNode) :
    (s.appFastTick qfp contacts).keys = s.keys.step contacts ∧
      (s.appFastTick qfp contacts).heater = s.heater ∧
      (s.appFastTick qfp contacts).time = s.time := by
  rw [appFastTick]
  split
  · rw [useInputs]
    split <;> exact ⟨rfl, rfl, rfl⟩
  · exact ⟨rfl, rfl, rfl⟩

/-- `current_circulation_state` is that of the relay, and the time is right. -/
structure Consistent (s : HeaterNode) : Prop where
  circulation : s.heater.circulationOn = decide (s.heater.currentCirculationState ≠ 0)
  burner : s.heater.burnerOn = s.heater.currentBurnerState
  time : s.time.Shows

theorem consistent_start (cfg : TrimatikConfig) : Consistent (start cfg) :=
  ⟨rfl, rfl, TimeData.shows_start⟩

theorem consistent_step : Machine.Keeps (step can qfp) Consistent := by
  intro s e h
  cases e with
  | sample | interrupt | configUpdate => exact ⟨h.circulation, h.burner, h.time⟩
  | fastTick contacts =>
    obtain ⟨-, hheater, htime⟩ := appFastTick_parts qfp contacts s
    simp only [step]
    exact ⟨by rw [hheater]; exact h.circulation, by rw [hheater]; exact h.burner,
      by rw [htime]; exact h.time⟩
  | tick clock => exact ⟨rfl, rfl, h.time⟩
  | timeData t => exact ⟨h.circulation, h.burner, TimeData.shows_onTimeData can t h.time⟩

/-- The burner behind a tick. -/
theorem burnerOn_tick {mode : ℕ} (hmode : s.keys.keys .mode = mode) (clock : TickClock)
    (hon : (s.heater.appTick qfp clock s.input).burnerOn = true) : s.BurnerAllowed qfp mode := by
  have hrequested : (s.heater.burnerRequest qfp clock s.input).burner = true :=
    Trimatik.appTick_burner.requested_of hon
  have hkey : s.input.key .mode = mode := hmode
  unfold Trimatik.burnerRequest at hrequested
  rw [hkey] at hrequested
  split_ifs at hrequested with hdebug hdayNight hdayOff
  · exact .inr ⟨hdebug, of_decide_eq_true hrequested⟩
  · refine .inl ⟨hdayNight, ?_⟩
    by_contra hcold
    rw [Trimatik.dayNightRequest] at hrequested
    simp only [if_neg hcold] at hrequested
    cases hrequested

theorem one_if_ne_zero {p : Prop} [Decidable p] : (if p then 1 else 0) ≠ 0 ↔ p := by
  rw [ite_ne_right_iff, and_iff_left one_ne_zero]

/-- The circulation that `KEY_MODE_DAY_NIGHT` requests. -/
theorem circulation_dayNightRequest (qfp : Qfp) (clock : TickClock) (s : HeaterNode) :
    (s.heater.dayNightRequest qfp clock s.input).circulation ≠ 0 ↔
      s.Hot ∨ (s.heater.currentCirculationState ≠ 0 ∧
        (s.heater.config.minTempToEnableCirculation : ℤ) - 100 < s.temperature 2) := by
  have hor : ((s.heater.currentCirculationState ≠ 0 ∧
        (s.heater.config.minTempToEnableCirculation : ℤ) - 100 < s.temperature 2) ∨ s.Hot) ↔ _ :=
    or_comm
  rw [← hor, Trimatik.dayNightRequest]
  split
  · exact one_if_ne_zero
  · exact one_if_ne_zero

/-- The circulation pump behind a tick. -/
theorem circulationOn_tick (h : Consistent s) {mode : ℕ} (hmode : s.keys.keys .mode = mode)
    (clock : TickClock) :
    (s.heater.appTick qfp clock s.input).circulationOn = decide (s.CirculationWanted mode) := by
  have hkey : s.input.key .mode = mode := hmode
  have hon : s.heater.circulationOn = true ↔ s.heater.currentCirculationState ≠ 0 := by
    rw [h.circulation, decide_eq_true_iff]
  show decide ((s.heater.burnerRequest qfp clock s.input).circulation ≠ 0) = _
  rw [decide_eq_decide, Trimatik.burnerRequest, hkey, CirculationWanted, hon]
  have hne : keyModeDebug ≠ keyModeDayNight ∧ keyModeDebug ≠ keyModeDayOff ∧
      keyModeDayNight ≠ keyModeDayOff := by decide
  split_ifs with hdebug hdayNight hdayOff
  · subst hdebug
    simp only [hne, ne_eq, false_and, or_false, true_and]
    show ¬ s.keys.keys .slope / 2 % 2 * 2 = 0 ↔ _
    omega
  · subst hdayNight
    rw [circulation_dayNightRequest]
    simp only [hne.1.symm, hne.2.2, false_and, false_or, or_false, true_and]
  · subst hdayOff
    simp only [hne.2.1.symm, hne.2.2.symm, false_and, false_or, true_and]
    exact one_if_ne_zero
  · simp only [hdebug, hdayNight, hdayOff, false_and, or_false, ne_eq, not_true_eq_false]

/-- Without a tick the relays stay. -/
theorem relays_run {es : List HeaterEvent} (hes : ∀ e ∈ es, ¬ IsTick e) :
    (Machine.run (step can qfp) s es).heater.burnerOn = s.heater.burnerOn ∧
      (Machine.run (step can qfp) s es).heater.circulationOn = s.heater.circulationOn := by
  induction es generalizing s with
  | nil => exact ⟨rfl, rfl⟩
  | cons e es ih =>
    obtain ⟨he, hes⟩ := List.forall_mem_cons.mp hes
    obtain ⟨hburner, hcirculation⟩ := @ih (step can qfp s e) hes
    rw [Machine.run_cons, hburner, hcirculation]
    cases e with
    | sample | interrupt | timeData | configUpdate => exact ⟨rfl, rfl⟩
    | fastTick contacts =>
      obtain ⟨-, hheater, -⟩ := appFastTick_parts qfp contacts s
      exact ⟨congrArg Trimatik.burnerOn hheater, congrArg Trimatik.circulationOn hheater⟩
    | tick => exact absurd trivial he

/-- The fast ticks scan the keys. -/
theorem keys_run (es : List HeaterEvent) :
    (Machine.run (step can qfp) s es).keys = Machine.run KeyScan.step s.keys (contactsOf es) := by
  induction es generalizing s with
  | nil => rfl
  | cons e es ih =>
    rw [Machine.run_cons, ih]
    cases e with
    | sample | interrupt | timeData | configUpdate | tick => rfl
    | fastTick contacts =>
      obtain ⟨hkeys, -, -⟩ := appFastTick_parts qfp contacts s
      simp only [step, hkeys]
      rfl

end

/-- **The relays follow the mode switch.** In every run: when the switch has been in the position
`mode` for six fast ticks, then from the next tick on the burner is on only if this mode allows it,
and the circulation pump is on exactly if it wants it, until another tick. -/
theorem relays_follow_switch (can : Canard) (qfp : Qfp) (cfg : TrimatikConfig)
    (es : List HeaterEvent) {mode : ℕ} (hlength : 6 ≤ (contactsOf es).length)
    (hheld : ∀ contacts ∈ (contactsOf es).drop ((contactsOf es).length - 6),
      KeyScan.switchValue contacts Key.mode.index = mode)
    (clock : TickClock) {es' : List HeaterEvent} (hes' : ∀ e ∈ es', ¬ IsTick e) :
    let s := Machine.run (step can qfp) (start cfg) es
    let s' := Machine.run (step can qfp) (start cfg) (es ++ .tick clock :: es')
    (s'.heater.burnerOn = true → s.BurnerAllowed qfp mode) ∧
      s'.heater.circulationOn = decide (s.CirculationWanted mode) := by
  intro s s'
  have hconsistent : Consistent s := consistent_step.run (consistent_start cfg) es
  have hmode : s.keys.keys .mode = mode := by
    rw [keys_run]
    exact ((KeyScan.keys_follow (contactsOf es)).2 .mode).2 mode hlength hheld
  obtain ⟨hburner, hcirculation⟩ :=
    @relays_run can qfp (step can qfp s (.tick clock)) es' hes'
  have hs' : s' = Machine.run (step can qfp) (step can qfp s (.tick clock)) es' := by
    rw [← Machine.run_cons, ← Machine.run_append]
  rw [hs', hburner, hcirculation]
  exact ⟨burnerOn_tick hmode clock, circulationOn_tick hconsistent hmode clock⟩

/-- The mode switch at `KEY_MODE_DEBUG`, and the slope at 3. -/
def debugContacts : KeyContacts := fun i j => i = 1 && (j = 1 || j = 2) || i = 3 && (j = 2 || j = 3)

theorem relays_follow_switch_debug :
    let es : List HeaterEvent := List.replicate 6 (.fastTick debugContacts)
    let s := Machine.run (step .uavcan (Qfp.const 0))
      (start ⟨0, 0, 0, 0, 0, 0, 0, 0, 0, 0, 0, 0⟩) (es ++ [.tick ⟨0, 0, 0, 0, 0⟩])
    s.heater.circulationOn = true := by
  intro es s
  have hheld : ∀ contacts ∈ (contactsOf es).drop ((contactsOf es).length - 6),
      KeyScan.switchValue contacts Key.mode.index = keyModeDebug := by
    intro contacts hcontacts
    have hsix : (contactsOf es).drop ((contactsOf es).length - 6) =
        List.replicate 6 debugContacts := rfl
    rw [hsix] at hcontacts
    rw [List.eq_of_mem_replicate hcontacts]
    decide
  obtain ⟨-, hcirculation⟩ := relays_follow_switch .uavcan (Qfp.const 0)
    ⟨0, 0, 0, 0, 0, 0, 0, 0, 0, 0, 0, 0⟩ es (by decide) hheld ⟨0, 0, 0, 0, 0⟩
    (fun e he => absurd he List.not_mem_nil)
  exact hcirculation.trans (by decide +kernel)

end HeaterNode

end HouseBus
