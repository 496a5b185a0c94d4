import HouseBus.Boiler

/-!
# Who drives the heater of the boiler

`set_dc` is the one way to the dimmer that looks at the temperature. The dimmer follows it
(`Follows`) as long as no `reconfigure` takes a configured duty cycle over that stands for other
half-waves than `boiler_dc` (`ReconfigureFits`): `dimmer_read_config`, which `reconfigure` calls,
stores `CONFIG_DIMMER_DUTY_CYCLE` to `halfwaves_on`.
-/

namespace HouseBus

namespace Boiler

/-- What can happen to the node. -/
inductive Event
  | init (cfg : BoilerConfig)
  | configUpdate (cfg : BoilerConfig)
  | tick (adc now : ℕ)
  | fastTick
  | dimmerTick
  | obis (now timestamp : ℕ) (transfer : CanardRxTransfer)
  | boilerstatus (timestamp : ℕ) (transfer : CanardRxTransfer)

/-- The node after an event. -/
def step (can : Canard) (qfp : Qfp) (b : Boiler) : Event → Boiler
  | .init cfg => b.appInit cfg
  | .configUpdate cfg => b.appConfigUpdate cfg
  | .tick adc now => b.appTick qfp adc now
  | .fastTick => b.appFastTick
  | .dimmerTick => { b with dimmer := b.dimmer.tick }
  | .obis now timestamp transfer => b.onObisData can qfp now timestamp transfer
  | .boilerstatus timestamp transfer => b.onBoilerstatusData can timestamp transfer

/-- The duty last passed to `set_dc`, which sends it; 0 before the first. -/
def lastDuty (b : Boiler) : ℕ := (b.sent.getLast?.map BoilerStatus.dutyCycle).getD 0

/-- The dimmer follows `set_dc`. -/
def Follows (b : Boiler) : Prop :=
  b.boilerDc = b.lastDuty ∧
    b.dimmer.halfwavesOn = b.boilerDc * b.dimmer.halfwavesTotal / 100

/-- Where the event reads the configuration, the configured duty cycle stands for as many
half-waves of the configured period as `boiler_dc`. -/
def ReconfigureFits (b : Boiler) : Event → Prop
  | .init cfg | .configUpdate cfg =>
    let total := cfg.dimmerPeriod % 256
    cfg.dimmerDutyCycle % 256 * total / 100 % 256 = b.boilerDc * total / 100
  | _ => True

/-- What the steps keep. -/
structure HeaterOk (b : Boiler) : Prop where
  follows : Follows b
  boilerDc_le : b.boilerDc ≤ 100
  controllerDc_le : b.controllerDc ≤ 100
  total_lt : b.dimmer.halfwavesTotal < 256

variable {can : Canard} {qfp : Qfp} {b : Boiler}

/-! ## The functions -/

theorem lastDuty_sendStatusMessage (dc : ℕ) (b : Boiler) :
    (b.sendStatusMessage dc).lastDuty = dc := by
  simp [sendStatusMessage, lastDuty]

/-- **`set_dc`** keeps the two copies together. -/
theorem HeaterOk.setDc (h : HeaterOk b) {dc : ℕ} (hdc : dc ≤ 100) : HeaterOk (b.setDc dc) where
  follows := by
    have htotal := h.total_lt
    refine ⟨(lastDuty_sendStatusMessage dc _).symm, ?_⟩
    have hle : dc * b.dimmer.halfwavesTotal ≤ 100 * 255 := Nat.mul_le_mul hdc (by omega)
    exact Nat.mod_eq_of_lt (by omega)
  boilerDc_le := hdc
  controllerDc_le := h.controllerDc_le
  total_lt := h.total_lt

/-- A step that leaves the duty cycles and the dimmer's two variables. -/
theorem HeaterOk.congr (h : HeaterOk b) {b' : Boiler} (hdc : b'.boilerDc = b.boilerDc)
    (hsent : b'.sent = b.sent) (hcontroller : b'.controllerDc ≤ 100)
    (hon : b'.dimmer.halfwavesOn = b.dimmer.halfwavesOn)
    (htotal : b'.dimmer.halfwavesTotal = b.dimmer.halfwavesTotal) : HeaterOk b' where
  follows := by
    obtain ⟨hduty, hwaves⟩ := h.follows
    refine ⟨?_, by rw [hon, hdc, htotal, hwaves]⟩
    rw [hdc, hduty, lastDuty, lastDuty, hsent]
  boilerDc_le := by rw [hdc]; exact h.boilerDc_le
  controllerDc_le := hcontroller
  total_lt := by rw [htotal]; exact h.total_lt

theorem HeaterOk.regulate (qfp : Qfp) (h : HeaterOk b) (now : ℕ) (currentPower : ℤ)
    (timestamp : ℕ) : HeaterOk (b.regulate qfp now currentPower timestamp) := by
  refine h.congr rfl rfl ?_ rfl rfl
  simp only [Boiler.regulate]
  split
  · exact Nat.zero_le _
  · split <;> omega

theorem HeaterOk.onObis180 (h : HeaterOk b) (value timestamp : ℕ) :
    HeaterOk (b.onObis180 qfp value timestamp) := by
  unfold Boiler.onObis180
  simp only
  split <;> exact h.congr rfl rfl h.controllerDc_le rfl rfl

theorem HeaterOk.onObis280 (h : HeaterOk b) (now value timestamp : ℕ) :
    HeaterOk (b.onObis280 qfp now value timestamp) := by
  unfold Boiler.onObis280
  simp only
  split
  · have hreg := h.regulate qfp now
      (int32 (b.last180reading - meterPower qfp b.last280meter value timestamp)) timestamp
    exact hreg.congr rfl rfl hreg.controllerDc_le rfl rfl
  · exact h.congr rfl rfl h.controllerDc_le rfl rfl

theorem HeaterOk.onObisData (h : HeaterOk b) (now timestamp : ℕ) (transfer : CanardRxTransfer) :
    HeaterOk (b.onObisData can qfp now timestamp transfer) := by
  unfold Boiler.onObisData
  simp only
  have h180 : HeaterOk (if (decodeObis can transfer).code = [1, 8, 0] then
      b.onObis180 qfp (decodeObis can transfer).value timestamp else b) := by
    split
    · exact h.onObis180 _ _
    · exact h
  split
  · exact h180.onObis280 _ _ _
  · exact h180

theorem HeaterOk.appTick (h : HeaterOk b) (adc now : ℕ) : HeaterOk (b.appTick qfp adc now) := by
  have hread : HeaterOk { b with boilerTemperature := calculateThermistorTemperature qfp adc } :=
    h.congr rfl rfl h.controllerDc_le rfl rfl
  unfold Boiler.appTick
  simp only
  split
  · exact hread.setDc (Nat.zero_le _)
  · exact hread

theorem HeaterOk.appFastTick (h : HeaterOk b) : HeaterOk b.appFastTick := by
  unfold Boiler.appFastTick
  split
  · simp only [transformDc]
    have hdc := h.controllerDc_le
    have hle : (if b.maxBoilerTemperature < b.boilerTemperature then 0
        else if b.boilerTemperature < b.minBoilerTemperature ∨
            (b.boilerDc = 100 ∧ b.boilerTemperature < int32 (b.minBoilerTemperature + 300)) then 100
        else b.controllerDc) ≤ 100 := by
      split
      · exact Nat.zero_le _
      · split <;> omega
    have hset := h.setDc hle
    exact hset.congr rfl rfl hset.controllerDc_le rfl rfl
  · exact h

/-- **`reconfigure`** keeps the two copies together exactly when the configured duty cycle fits. -/
theorem follows_reconfigure (h : HeaterOk b) (cfg : BoilerConfig) :
    Follows (b.reconfigure cfg) ↔ ReconfigureFits b (.init cfg) := by
  have hduty : (b.reconfigure cfg).boilerDc = (b.reconfigure cfg).lastDuty := h.follows.1
  exact and_iff_right hduty

/-! ## Runs -/

/-- Every event that fits keeps the invariant. -/
theorem heaterOk_step : Machine.KeepsIf (step can qfp) ReconfigureFits HeaterOk := by
  intro b e hfits h
  cases e with
  | init cfg | configUpdate cfg =>
    exact ⟨(follows_reconfigure h cfg).mpr hfits, h.boilerDc_le, h.controllerDc_le,
      Nat.mod_lt _ (by decide)⟩
  | tick adc now => exact h.appTick adc now
  | fastTick => exact h.appFastTick
  | dimmerTick => exact h.congr rfl rfl h.controllerDc_le rfl rfl
  | obis now timestamp transfer => exact h.onObisData now timestamp transfer
  | boilerstatus timestamp transfer => exact h.congr rfl rfl h.controllerDc_le rfl rfl

theorem heaterOk_start (configPin : ℕ) : HeaterOk (start configPin) := by
  have hinit : ∀ pin, (Dimmer.init pin ⟨0, 0, 0, 0, false⟩).halfwavesOn = 0 ∧
      (Dimmer.init pin ⟨0, 0, 0, 0, false⟩).halfwavesTotal = 0 := by
    intro pin
    simp only [Dimmer.init]
    split <;> exact ⟨rfl, rfl⟩
  obtain ⟨hon, htotal⟩ := hinit configPin
  refine ⟨⟨rfl, ?_⟩, Nat.zero_le _, Nat.zero_le _, ?_⟩
  · rw [start, hon, htotal, Nat.mul_zero, Nat.zero_div]
  · rw [start, htotal]
    decide

/-- **When the heater follows `set_dc` only**: in every state of a run exactly if every
reconfiguration on the way fits. -/
theorem heater_follows_iff (can : Canard) (qfp : Qfp) (configPin : ℕ) (es : List Event) :
    Machine.Meets (step can qfp) (fun b e => Follows (step can qfp b e)) (start configPin) es ↔
      Machine.Meets (step can qfp) ReconfigureFits (start configPin) es := by
  refine heaterOk_step.meets_congr ?_ (heaterOk_start configPin) es
  intro b e h
  have hfits : ReconfigureFits b e → (Follows (step can qfp b e) ↔ ReconfigureFits b e) :=
    fun hfits => iff_of_true (heaterOk_step b e hfits h).follows hfits
  cases e with
  | init cfg | configUpdate cfg => exact follows_reconfigure h cfg
  | tick | fastTick | dimmerTick | obis | boilerstatus => exact hfits trivial

/-- The stored configuration of a boiler with a duty cycle of 50 for its dimmer. -/
def halfPower : BoilerConfig := ⟨9000, 2000, 6000, 0, 0, 0, 100, 100, 50⟩

/-- `app_init` with it drives the heater at half power. -/
theorem not_heater_follows :
    ¬ ∀ (can : Canard) (qfp : Qfp) (configPin : ℕ) (es : List Event),
      Machine.Meets (step can qfp) (fun b e => Follows (step can qfp b e)) (start configPin)
        es := by
  intro h
  have hrun := h .uavcan (Qfp.const 0) 2 [.init halfPower]
  have hwaves : 50 = 0 := hrun.1.2
  exact absurd hwaves (by decide)

end Boiler

end HouseBus
