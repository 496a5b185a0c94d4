import HouseBus.Boiler.Heater

/-!
# A boiler without meter readings

`app_tick` stops the boiler when `regulate` last ran more than `CONTROLLER_TIMEOUT` ago, by the
32-bit system time. After a wrap the time since then looks short again; but the boiler is stopped
already, and only `app_fast_tick` after a new `regulate` starts it (`boiler_stops_iff`).
-/

namespace HouseBus

namespace Boiler

/-- The node at a real tick, and the real ticks of the last `app_tick` and of the last message for
which `regulate` ran. -/
structure TimedBoiler where
  boiler : Boiler
  now : ℕ
  lastTick : ℕ
  regulated : ℕ

/-- What happens after `delay` ticks. -/
inductive TimedEvent
  | configUpdate (delay : ℕ) (cfg : BoilerConfig)
  | tick (delay adc : ℕ)
  | fastTick (delay : ℕ)
  | dimmerTick (delay : ℕ)
  | obis (delay : ℕ) (transfer : CanardRxTransfer)
  | boilerstatus (delay : ℕ) (transfer : CanardRxTransfer)

/-- `on_obis_data` calls `regulate`. -/
def Regulates (can : Canard) (transfer : CanardRxTransfer) (b : Boiler) : Prop :=
  (decodeObis can transfer).code = [2, 8, 0] ∧ b.last280meter.reading ≠ 0 ∧ b.fresh180reading

instance (can : Canard) (transfer : CanardRxTransfer) (b : Boiler) :
    Decidable (Regulates can transfer b) := inferInstanceAs (Decidable (_ ∧ _ ∧ _))

/-- The node after an event. -/
def timedStep (can : Canard) (qfp : Qfp) (s : TimedBoiler) : TimedEvent → TimedBoiler
  | .configUpdate delay cfg =>
    { s with boiler := s.boiler.appConfigUpdate cfg, now := s.now + delay }
  | .tick delay adc =>
    let now := s.now + delay
    { s with boiler := s.boiler.appTick qfp adc (systemTime now), now := now, lastTick := now }
  | .fastTick delay => { s with boiler := s.boiler.appFastTick, now := s.now + delay }
  | .dimmerTick delay =>
    { s with boiler := { s.boiler with dimmer := s.boiler.dimmer.tick }, now := s.now + delay }
  | .obis delay transfer =>
    let now := s.now + delay
    { s with
      boiler := s.boiler.onObisData can qfp (systemTime now) (systemTime now) transfer
      now := now
      regulated := if Regulates can transfer s.boiler then now else s.regulated }
  | .boilerstatus delay transfer =>
    let now := s.now + delay
    { s with boiler := s.boiler.onBoilerstatusData can (systemTime now) transfer, now := now }

/-- When `app_init` has read the configuration at tick 0. -/
def TimedBoiler.start (configPin : ℕ) (cfg : BoilerConfig) : TimedBoiler :=
  ⟨(Boiler.start configPin).appInit cfg, 0, 0, 0⟩

/-- `app_tick` runs before the system time comes round to the last time-out, and later than the
time-out only when `app_fast_tick` has taken the last duty cycle. -/
def OnTime (s : TimedBoiler) : TimedEvent → Prop
  | .tick delay _ =>
    s.now + delay + timeS2I controllerTimeout < s.lastTick + systimeRange ∧
      (s.regulated + timeS2I controllerTimeout < s.now + delay → s.boiler.controllerUpdate = false)
  | _ => True

instance (s : TimedBoiler) : ∀ e : TimedEvent, Decidable (OnTime s e)
  | .tick _ _ => inferInstanceAs (Decidable (_ ∧ (_ → _)))
  | .configUpdate _ _ | .fastTick _ | .dimmerTick _ | .obis _ _ | .boilerstatus _ _ =>
    inferInstanceAs (Decidable True)

/-- The boiler was stopped by a tick later than the time-out, and is not started again. -/
structure StopsInTime (s : TimedBoiler) : Prop where
  update : s.boiler.controllerLastUpdate = systemTime s.regulated
  regulated_le : s.regulated ≤ s.now
  lastTick_le : s.lastTick ≤ s.now
  stopped : s.regulated + timeS2I controllerTimeout < s.lastTick →
    s.boiler.controllerUpdate = false ∧ s.boiler.boilerDc = 0

variable {can : Canard} {qfp : Qfp} {s : TimedBoiler}

/-- What a message leaves of the controller. -/
theorem onObisData_controller (now timestamp : ℕ) (transfer : CanardRxTransfer) (b : Boiler) :
    (b.onObisData can qfp now timestamp transfer).controllerLastUpdate =
        (if Regulates can transfer b then timestamp else b.controllerLastUpdate) ∧
      (b.onObisData can qfp now timestamp transfer).boilerDc = b.boilerDc ∧
      (¬ Regulates can transfer b →
        (b.onObisData can qfp now timestamp transfer).controllerUpdate = b.controllerUpdate) := by
  have h180 : (b.onObis180 qfp (decodeObis can transfer).value timestamp).controllerLastUpdate =
        b.controllerLastUpdate ∧
      (b.onObis180 qfp (decodeObis can transfer).value timestamp).boilerDc = b.boilerDc ∧
      (b.onObis180 qfp (decodeObis can transfer).value timestamp).controllerUpdate =
        b.controllerUpdate := by
    unfold onObis180
    dsimp only
    split <;> exact ⟨rfl, rfl, rfl⟩
  unfold onObisData
  dsimp only
  by_cases hcode : (decodeObis can transfer).code = [2, 8, 0]
  · have hother : (decodeObis can transfer).code ≠ [1, 8, 0] := by
      rw [hcode]
      decide
    rw [if_neg hother, if_pos hcode]
    unfold onObis280
    dsimp only
    by_cases hfresh : b.last280meter.reading ≠ 0 ∧ b.fresh180reading
    · have hreg : Regulates can transfer b := ⟨hcode, hfresh⟩
      rw [if_pos hfresh, if_pos hreg]
      exact ⟨rfl, rfl, fun hno => absurd hreg hno⟩
    · have hno : ¬ Regulates can transfer b := fun h => hfresh h.2
      rw [if_neg hfresh, if_neg hno]
      exact ⟨rfl, rfl, fun _ => rfl⟩
  · have hno : ¬ Regulates can transfer b := fun h => hcode h.1
    rw [if_neg hcode, if_neg hno]
    split
    · exact ⟨h180.1, h180.2.1, fun _ => h180.2.2⟩
    · exact ⟨rfl, rfl, fun _ => rfl⟩

/-- **`app_tick`** stops the boiler by the time that seems to have passed. -/
theorem boilerDc_appTick (adc now : ℕ) (b : Boiler) :
    (b.appTick qfp adc now).boilerDc =
      if timeS2I controllerTimeout < timeElapsedSince now b.controllerLastUpdate then 0
      else b.boilerDc := by
  unfold appTick
  dsimp only
  split <;> rfl

/-- The duty cycle behind a tick, by the real ticks. -/
theorem StopsInTime.boilerDc_tick (h : StopsInTime s) {delay adc : ℕ}
    (hontime : OnTime s (.tick delay adc)) :
    (timedStep can qfp s (.tick delay adc)).boiler.boilerDc =
      if s.regulated + timeS2I controllerTimeout < s.now + delay then 0
      else s.boiler.boilerDc := by
  obtain ⟨htick, -⟩ := hontime
  have hle := h.regulated_le
  have htimeout : timeS2I controllerTimeout < systimeRange := by decide
  show (s.boiler.appTick qfp adc (systemTime (s.now + delay))).boilerDc = _
  rw [boilerDc_appTick, h.update]
  by_cases hwrap : s.now + delay < s.regulated + systimeRange
  · rw [timeElapsedSince_of_lt (by omega) hwrap]
    by_cases hlate : s.regulated + timeS2I controllerTimeout < s.now + delay
    · rw [if_pos hlate, if_pos (by omega)]
    · rw [if_neg hlate, if_neg (by omega)]
  · -- The last tick came after the time-out, less than one wrap ago.
    have hstopped := (h.stopped (by omega)).2
    rw [if_pos (by omega : s.regulated + timeS2I controllerTimeout < s.now + delay)]
    split
    · rfl
    · exact hstopped

/-- Every event that is on time keeps the invariant. -/
theorem stopsInTime_step (can : Canard) (qfp : Qfp) :
    Machine.KeepsIf (timedStep can qfp) OnTime StopsInTime := by
  intro s e hontime h
  have hnow : ∀ delay, s.regulated ≤ s.now + delay ∧ s.lastTick ≤ s.now + delay := fun delay =>
    ⟨h.regulated_le.trans (Nat.le_add_right _ _), h.lastTick_le.trans (Nat.le_add_right _ _)⟩
  cases e with
  | configUpdate delay cfg => exact ⟨h.update, (hnow delay).1, (hnow delay).2, h.stopped⟩
  | dimmerTick delay => exact ⟨h.update, (hnow delay).1, (hnow delay).2, h.stopped⟩
  | boilerstatus delay transfer => exact ⟨h.update, (hnow delay).1, (hnow delay).2, h.stopped⟩
  | tick delay adc =>
    have hupdate : (s.boiler.appTick qfp adc (systemTime (s.now + delay))).controllerLastUpdate =
          s.boiler.controllerLastUpdate ∧
        (s.boiler.appTick qfp adc (systemTime (s.now + delay))).controllerUpdate =
          s.boiler.controllerUpdate := by
      unfold appTick
      dsimp only
      split <;> exact ⟨rfl, rfl⟩
    refine ⟨hupdate.1.trans h.update, (hnow delay).1, Nat.le_refl _, fun hlate => ⟨?_, ?_⟩⟩
    · exact hupdate.2.trans (hontime.2 hlate)
    · rw [h.boilerDc_tick hontime]
      exact if_pos hlate
  | fastTick delay =>
    have hupdate : s.boiler.appFastTick.controllerLastUpdate =
        s.boiler.controllerLastUpdate := by
      unfold appFastTick
      split <;> rfl
    refine ⟨hupdate.trans h.update, (hnow delay).1, (hnow delay).2, fun hlate => ?_⟩
    obtain ⟨hidle, hdc⟩ := h.stopped hlate
    have hsame : s.boiler.appFastTick = s.boiler := by
      rw [appFastTick, if_neg (by rw [hidle]; decide)]
    show s.boiler.appFastTick.controllerUpdate = false ∧ s.boiler.appFastTick.boilerDc = 0
    rw [hsame]
    exact ⟨hidle, hdc⟩
  | obis delay transfer =>
    obtain ⟨hupdate, hdc, hsame⟩ := @onObisData_controller can qfp
      (systemTime (s.now + delay)) (systemTime (s.now + delay)) transfer s.boiler
    by_cases hreg : Regulates can transfer s.boiler
    · have hregulated : (timedStep can qfp s (.obis delay transfer)).regulated = s.now + delay :=
        if_pos hreg
      rw [if_pos hreg] at hupdate
      refine ⟨by rw [hregulated]; exact hupdate, by rw [hregulated]; exact Nat.le_refl _,
        (hnow delay).2, fun hlate => ?_⟩
      rw [hregulated] at hlate
      have hlast : (timedStep can qfp s (.obis delay transfer)).lastTick = s.lastTick := rfl
      have := (hnow delay).2
      omega
    · have hregulated : (timedStep can qfp s (.obis delay transfer)).regulated = s.regulated :=
        if_neg hreg
      rw [if_neg hreg] at hupdate
      refine ⟨by rw [hregulated]; exact hupdate.trans h.update,
        by rw [hregulated]; exact (hnow delay).1, (hnow delay).2, fun hlate => ?_⟩
      rw [hregulated] at hlate
      obtain ⟨hidle, hzero⟩ := h.stopped hlate
      exact ⟨(hsame hreg).trans hidle, hdc.trans hzero⟩

theorem stopsInTime_start (configPin : ℕ) (cfg : BoilerConfig) :
    StopsInTime (.start configPin cfg) :=
  ⟨rfl, Nat.le_refl _, Nat.le_refl _, fun h => absurd h (Nat.not_lt_zero _)⟩

end Boiler

end HouseBus
