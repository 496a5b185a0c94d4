import HouseBus.ViessmannTrimatik

/-!
# The minimum off time of the burner

Between a stop of the burner and its next start `burnerMinOffTime` seconds pass, up to the rounding
of `TIME_I2S` (`burner_minOffTime`): while the burner is off, `last_burner_stop` shows the real tick
of the stop (`OffSince`), and over wraps the elapsed system time is at most the real one.
-/

namespace HouseBus

variable {qfp : Qfp}

/-- The relay follows the burner state. -/
def RelayOk (s : Heating) : Prop := s.heater.burnerOn = s.heater.currentBurnerState

theorem relayOk_step : Machine.Keeps (HeatEvent.step qfp) RelayOk := by
  rintro s (t | cfg) h
  · rfl
  · exact h

/-- The burner is off since a stop at tick `stop`. -/
structure OffSince (stop : ℕ) (s : Heating) : Prop where
  off : s.heater.currentBurnerState = false
  lastBurnerStop : s.heater.lastBurnerStop = systemTime stop
  stop_le : stop ≤ s.now

theorem le_switchAt (t : Tick) (now : ℕ) : now ≤ t.switchAt now := by
  unfold Tick.switchAt
  omega

theorem switchAt_le_endAt (t : Tick) (now : ℕ) : t.switchAt now ≤ t.endAt now := by
  unfold Tick.endAt
  omega

/-- A tick that stops the burner. -/
theorem offSince_stop {s : Heating} {t : Tick} (hon : s.heater.currentBurnerState = true)
    (hoff : (t.step qfp s).heater.currentBurnerState = false) :
    OffSince (t.switchAt s.now) (t.step qfp s) :=
  ⟨hoff, Trimatik.appTick_burner.stops_of hon hoff, switchAt_le_endAt t s.now⟩

/-- While the burner stays off, the stop stays known. -/
theorem offSince_step (stop : ℕ) :
    Machine.KeepsIf (HeatEvent.step qfp)
      (fun s e => (e.step qfp s).heater.burnerOn = false) (OffSince stop) := by
  rintro s (t | cfg) hoff h
  · obtain ⟨hstop, -⟩ := Trimatik.appTick_burner.staysOff_of h.off hoff
    refine ⟨hoff, hstop.trans h.lastBurnerStop, h.stop_le.trans ?_⟩
    exact (le_switchAt t s.now).trans (switchAt_le_endAt t s.now)
  · exact ⟨h.off, h.lastBurnerStop, h.stop_le⟩

/-- A start behind a stop. -/
theorem OffSince.start {stop : ℕ} {s : Heating} (h : OffSince stop s) {t : Tick}
    (hon : (t.step qfp s).heater.currentBurnerState = true) :
    s.heater.config.burnerMinOffTime * stFrequency < t.switchAt s.now - stop + stFrequency := by
  have hofftime := Trimatik.appTick_burner.starts_of h.off hon
  have hle : stop ≤ t.switchAt s.now := h.stop_le.trans (le_switchAt t s.now)
  have hwait : s.heater.config.burnerMinOffTime ≤
      timeI2S (timeElapsedSince (systemTime (t.switchAt s.now)) (systemTime stop)) := by
    rw [← h.lastBurnerStop]
    exact Nat.not_lt.mp hofftime
  have hreal := Ticks.roundUp_mono (f := stFrequency) (timeElapsedSince_le hle)
  exact Ticks.lt_of_le_roundUp (by decide) (hwait.trans hreal)

/-- **Minimum off time**: in every run, from a tick `off` that switches the burner off to the next
tick `on` that switches it on, more than `burnerMinOffTime - 1` seconds pass. -/
theorem burner_minOffTime (qfp : Qfp) (cfg : TrimatikConfig) (now : ℕ) (es₁ es₂ : List HeatEvent)
    (off on : Tick) :
    let s₁ := Machine.run (HeatEvent.step qfp) (.start cfg now) es₁
    let s₂ := off.step qfp s₁
    let s₃ := Machine.run (HeatEvent.step qfp) s₂ es₂
    s₁.heater.burnerOn = true → s₂.heater.burnerOn = false →
    Machine.Meets (HeatEvent.step qfp) (fun s e => (e.step qfp s).heater.burnerOn = false) s₂ es₂ →
    (on.step qfp s₃).heater.burnerOn = true →
      ((s₃.heater.config.burnerMinOffTime : ℤ) - 1) * stFrequency <
        (on.switchAt s₃.now : ℤ) - off.switchAt s₁.now := by
  intro s₁ s₂ s₃ hon₁ hoff₂ hstay hon₄
  have hstart : RelayOk (.start cfg now) := rfl
  have hrelay₁ : RelayOk s₁ := relayOk_step.run hstart es₁
  have hoff : OffSince (off.switchAt s₁.now) s₂ := offSince_stop (hrelay₁.symm.trans hon₁) hoff₂
  have hoff₃ : OffSince (off.switchAt s₁.now) s₃ := (offSince_step _).run hoff hstay
  have hwait := hoff₃.start hon₄
  have hle := hoff₃.stop_le.trans (le_switchAt on s₃.now)
  rw [sub_mul, one_mul]
  omega

/-- A tick in `KEY_MODE_DEBUG`, `wait` ticks after the last one, that requests the burner for an odd
`KEY_SLOPE`. -/
def debugTick (wait slope : ℕ) : Tick where
  input :=
    { outsideTemperature := 0
      burnerTemperature := 2000
      flowTemperature := 2000
      key := fun
        | .mode => keyModeDebug
        | .slope => slope
        | _ => 0
      timeHour := 0
      timeMinute := 0 }
  lid := wait
  running := 0
  switch := 0
  request := 0
  circulation := 0

/-- A configuration with a minimum off time of a minute. -/
def minuteOff : TrimatikConfig := ⟨500, 500, 0, 2500, 60, 60, 60, 0, 0, 0, 0, 0⟩

theorem burner_minOffTime_debug :
    ((60 : ℤ) - 1) * stFrequency <
      ((debugTick 600000 1).switchAt 20000 : ℤ) - (debugTick 10000 0).switchAt 10000 :=
  burner_minOffTime (Qfp.const 0) minuteOff 0 [.tick (debugTick 10000 1)] [] (debugTick 10000 0)
    (debugTick 600000 1) rfl rfl trivial rfl

end HouseBus
