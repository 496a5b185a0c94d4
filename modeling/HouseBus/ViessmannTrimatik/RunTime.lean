import HouseBus.ViessmannTrimatik.OffTime
import HouseBus.ViessmannTrimatik.TooHot

/-!
# The run time of the burner

`app_tick` counts the seconds that the burner is on beyond `BURNER_REQUEST_DELAY` in an `int16_t`.
`Watched` knows the real ticks at which burner and circulation were switched on: the system times
that the tick stores are those (`WatchedOk`). So the count is right modulo 2^16, and the judgement
is right for the run times where this is enough (`burner_judged_iff`).
-/

namespace HouseBus

/-- The real tick at which a tick reads the clock for a start of the burner. -/
def Tick.requestAt (t : Tick) (now : ℕ) : ℕ := t.switchAt now + t.request

/-- The node, and the real ticks at which burner and circulation were last switched on. -/
structure Watched extends Heating where
  burnerSince : ℕ
  circulationSince : ℕ

namespace Trimatik

variable {qfp : Qfp} {clock : TickClock} {input : TickInput} {s : Trimatik}

theorem lastBurnerRequestStart_switchBurner {targetFlowTemp flowTemp : ℤ} (request : Bool) :
    let switched := switchBurner clock targetFlowTemp flowTemp request s
    switched.2.lastBurnerRequestStart =
      if !s.currentBurnerState && switched.1 then clock.request else s.lastBurnerRequestStart := by
  cases request <;> cases hcurrent : s.currentBurnerState
  · rw [switchBurner_idle hcurrent]
    rfl
  · rw [switchBurner_stop hcurrent]
    rfl
  · rw [switchBurner_start hcurrent]
    split <;> rfl
  · rw [switchBurner_keep hcurrent]
    rfl

/-- The circulation is not switched with the burner. -/
theorem circulation_switchBurner {targetFlowTemp flowTemp : ℤ} (request : Bool) :
    let switched := (switchBurner clock targetFlowTemp flowTemp request s).2
    switched.currentCirculationState = s.currentCirculationState ∧
      switched.lastCirculationStart = s.lastCirculationStart := by
  cases request <;> cases hcurrent : s.currentBurnerState
  · rw [switchBurner_idle hcurrent]
    exact ⟨rfl, rfl⟩
  · rw [switchBurner_stop hcurrent]
    exact ⟨rfl, rfl⟩
  · rw [switchBurner_start hcurrent]
    split <;> exact ⟨rfl, rfl⟩
  · rw [switchBurner_keep hcurrent]
    exact ⟨rfl, rfl⟩

/-- A tick notes when it starts the burner. -/
theorem lastBurnerRequestStart_appTick :
    (s.appTick qfp clock input).lastBurnerRequestStart =
      if !s.currentBurnerState && (s.appTick qfp clock input).currentBurnerState then clock.request
      else s.lastBurnerRequestStart :=
  lastBurnerRequestStart_switchBurner (s.burnerRequest qfp clock input).burner

/-- A tick notes when it starts the circulation. -/
theorem lastCirculationStart_appTick :
    (s.appTick qfp clock input).lastCirculationStart =
      if s.currentCirculationState = 0 ∧
          (s.appTick qfp clock input).currentCirculationState ≠ 0 then clock.circulation
      else s.lastCirculationStart := by
  let request := s.burnerRequest qfp clock input
  let switched := switchBurner clock (s.targetFlowTemp qfp input) input.flowTemperature
    request.burner { s with flowTempDeviation := request.flowTempDeviation }
  obtain ⟨hstate, hstart⟩ :
      switched.2.currentCirculationState = s.currentCirculationState ∧
        switched.2.lastCirculationStart = s.lastCirculationStart :=
    circulation_switchBurner request.burner
  have hnext : (s.appTick qfp clock input).currentCirculationState = request.circulation := rfl
  have hnoted : (s.appTick qfp clock input).lastCirculationStart =
      if request.circulation ≠ 0 ∧ switched.2.currentCirculationState = 0 then clock.circulation
      else switched.2.lastCirculationStart := rfl
  rw [hnoted, hnext, hstate, hstart]
  simp only [and_comm]

/-- A burner that is on follows the request. -/
theorem burnerOn_appTick (hon : s.currentBurnerState = true) :
    (s.appTick qfp clock input).burnerOn = (s.burnerRequest qfp clock input).burner := by
  show (s.appTick qfp clock input).currentBurnerState = _
  cases @appTick_burner qfp clock input s with
  | staysOn _ after _ _ requested | stops _ after _ _ requested =>
    exact after.trans requested.symm
  | staysOff before | starts before =>
    exact absurd (before.symm.trans hon) Bool.false_ne_true

/-- In warm water the circulation runs. -/
theorem circulationOn_appTick (hmode : input.key .mode = keyModeDayNight)
    (hwarm : s.config.minTempToEnableCirculation < input.flowTemperature) :
    (s.appTick qfp clock input).circulationOn = true := by
  have hdebug : keyModeDayNight ≠ keyModeDebug := by decide
  have hrequest : (s.burnerRequest qfp clock input).circulation = 1 := by
    rw [burnerRequest, hmode, if_neg hdebug, if_pos rfl, dayNightRequest]
    simp only [hwarm, true_or, or_true, if_true]
    split <;> rfl
  show decide ((s.burnerRequest qfp clock input).circulation ≠ 0) = true
  rw [hrequest]
  rfl

end Trimatik

/-- An `int16_t` of a count is positive below 2^15, modulo 2^16. -/
theorem int16_pos_iff (n : ℕ) : 0 < int16 n ↔ 0 < n % 2 ^ 16 ∧ n % 2 ^ 16 < 2 ^ 15 := by
  rw [int16, Int.bmod_def]
  split <;> omega

theorem int16_of_lt {n : ℕ} (h : n % 2 ^ 16 < 2 ^ 15) : int16 n = (n % 2 ^ 16 : ℕ) := by
  rw [int16, Int.bmod_def]
  split <;> omega

/-- An `int16_t` of a small negative number. -/
theorem int16_nonpos {x : ℤ} (hlo : -burnerRequestDelay ≤ x) (hhi : x ≤ 0) : int16 x ≤ 0 := by
  simp only [burnerRequestDelay] at hlo
  rw [int16, Int.bmod_def]
  split <;> omega

namespace Watched

/-- After `app_init` at tick `now`. -/
def start (cfg : TrimatikConfig) (now : ℕ) : Watched := ⟨.start cfg now, 0, 0⟩

/-- The state after an event. -/
def step (qfp : Qfp) (w : Watched) (e : HeatEvent) : Watched where
  toHeating := e.step qfp w.toHeating
  burnerSince :=
    match e with
    | .tick t =>
      if !w.heater.burnerOn && (t.step qfp w.toHeating).heater.burnerOn then t.requestAt w.now
      else w.burnerSince
    | .configUpdate _ => w.burnerSince
  circulationSince :=
    match e with
    | .tick t =>
      if !w.heater.circulationOn && (t.step qfp w.toHeating).heater.circulationOn then t.endAt w.now
      else w.circulationSince
    | .configUpdate _ => w.circulationSince

/-- The ticks for which the burner is on when a tick reads the clock for it. -/
def burnerOnFor (w : Watched) (t : Tick) : ℕ :=
  if w.heater.burnerOn then w.now + t.lid - w.burnerSince else 0

/-- The ticks for which the circulation is on when a tick reads the clock for it. -/
def circulationOnFor (w : Watched) (t : Tick) : ℕ :=
  if w.heater.circulationOn then w.now + t.lid + t.running - w.circulationSince else 0

/-- The burner is on for too long without being needed: beyond the delay longer than
`burnerStopTempRiseTime`, with the circulation on for more than `circulationMinOnTimeForThreshold`,
a burner hotter than the flow, and the heating enabled. -/
def LongRun (qfp : Qfp) (w : Watched) (t : Tick) : Prop :=
  (w.heater.config.burnerStopTempRiseTime + burnerRequestDelay) * stFrequency < w.burnerOnFor t ∧
    w.heater.config.circulationMinOnTimeForThreshold * stFrequency < w.circulationOnFor t ∧
    t.input.flowTemperature < t.input.burnerTemperature ∧
    (w.heater.config.minFlowTempToEnable : ℤ) < w.heater.targetFlowTemp qfp t.input

/-- In `KEY_MODE_DAY_NIGHT`, below 2^32 ticks, the tick broadcasts that the burner is actually
firing exactly when it is on for longer than the delay, and it ends a long run. -/
def Judged (qfp : Qfp) (w : Watched) : HeatEvent → Prop
  | .tick t =>
    let heater := (t.step qfp w.toHeating).heater
    t.input.key .mode = keyModeDayNight → w.burnerOnFor t < systimeRange →
    w.circulationOnFor t < systimeRange →
      (heater.sent.getLast?.map (·.burnerActuallyFiring) =
          some (decide (burnerRequestDelay * stFrequency < w.burnerOnFor t))) ∧
        (w.LongRun qfp t → heater.burnerOn = false)
  | .configUpdate _ => True

/-- The first two reasons to stop the burner: too hot, or the deviation. -/
def StopsAnyway (qfp : Qfp) (w : Watched) (input : TickInput) : Prop :=
  let s := w.heater
  let limit := s.targetFlowTemp qfp input + s.config.flowHysteresisTurnOff
  let extended := s.targetFlowTemp qfp input + s.extendThisCycleFlowTemp
  ((limit < input.flowTemperature ∧ extended < input.flowTemperature) ∨
      (limit < input.burnerTemperature ∧ extended < input.burnerTemperature)) ∨
    (s.config.deviationHysteresis ≠ 0 ∧
      s.config.deviationHysteresis < s.integrateDeviation qfp input)

/-- The seconds beyond the delay, of which the last counts when it has begun. -/
def overtime (ticks : ℕ) : ℕ := timeI2S ticks - burnerRequestDelay

/-- The seconds beyond the delay are no multiple of 2^16 and modulo 2^16 below 2^15; in a long run
they are modulo 2^16 more than `burnerStopTempRiseTime`, unless the burner stops anyway. -/
def RunTimeFits (qfp : Qfp) (w : Watched) : HeatEvent → Prop
  | .tick t =>
    t.input.key .mode = keyModeDayNight → w.burnerOnFor t < systimeRange →
    w.circulationOnFor t < systimeRange → burnerRequestDelay * stFrequency < w.burnerOnFor t →
      let seconds := overtime (w.burnerOnFor t) % 2 ^ 16
      0 < seconds ∧ seconds < 2 ^ 15 ∧
        (w.LongRun qfp t →
          w.heater.config.burnerStopTempRiseTime < seconds ∨ w.StopsAnyway qfp t.input)
  | .configUpdate _ => True

/-! ## The stored system times -/

/-- The relays follow the states, and the stored system times are those of the last starts. -/
structure Ok (w : Watched) : Prop where
  burner : w.heater.burnerOn = w.heater.currentBurnerState
  circulation : w.heater.circulationOn = decide (w.heater.currentCirculationState ≠ 0)
  burnerStart : w.heater.burnerOn = true →
    w.heater.lastBurnerRequestStart = systemTime w.burnerSince ∧ w.burnerSince ≤ w.now
  circulationStart : w.heater.circulationOn = true →
    w.heater.lastCirculationStart = systemTime w.circulationSince ∧ w.circulationSince ≤ w.now

theorem ok_start (cfg : TrimatikConfig) (now : ℕ) : (start cfg now).Ok where
  burner := rfl
  circulation := rfl
  burnerStart h := nomatch h
  circulationStart h := nomatch h

variable {qfp : Qfp} {w : Watched} {t : Tick}

theorem requestAt_le_endAt (t : Tick) (now : ℕ) : t.requestAt now ≤ t.endAt now := by
  unfold Tick.requestAt Tick.endAt
  omega

theorem le_endAt (t : Tick) (now : ℕ) : now ≤ t.endAt now :=
  (le_switchAt t now).trans (switchAt_le_endAt t now)

theorem Ok.burnerStart_tick (h : w.Ok) :
    (t.step qfp w.toHeating).heater.burnerOn = true →
      (t.step qfp w.toHeating).heater.lastBurnerRequestStart =
          systemTime (w.step qfp (.tick t)).burnerSince ∧
        (w.step qfp (.tick t)).burnerSince ≤ t.endAt w.now := by
  intro hon
  have hnoted := @Trimatik.lastBurnerRequestStart_appTick qfp (t.clock w.now) t.input w.heater
  have hsince : (w.step qfp (.tick t)).burnerSince =
      if !w.heater.burnerOn && (t.step qfp w.toHeating).heater.burnerOn then t.requestAt w.now
      else w.burnerSince := rfl
  have hnext : (w.heater.appTick qfp (t.clock w.now) t.input).currentBurnerState = true := hon
  rw [hsince, hon]
  rw [hnext, ← h.burner] at hnoted
  cases hbefore : w.heater.burnerOn with
  | false =>
    rw [hbefore] at hnoted
    exact ⟨hnoted, requestAt_le_endAt t w.now⟩
  | true =>
    rw [hbefore] at hnoted
    obtain ⟨hstart, hle⟩ := h.burnerStart hbefore
    exact ⟨hnoted.trans hstart, hle.trans (le_endAt t w.now)⟩

theorem Ok.circulationStart_tick (h : w.Ok) :
    (t.step qfp w.toHeating).heater.circulationOn = true →
      (t.step qfp w.toHeating).heater.lastCirculationStart =
          systemTime (w.step qfp (.tick t)).circulationSince ∧
        (w.step qfp (.tick t)).circulationSince ≤ t.endAt w.now := by
  intro hon
  have hnoted := @Trimatik.lastCirculationStart_appTick qfp (t.clock w.now) t.input w.heater
  have hsince : (w.step qfp (.tick t)).circulationSince =
      if !w.heater.circulationOn && (t.step qfp w.toHeating).heater.circulationOn then
        t.endAt w.now
      else w.circulationSince := rfl
  have hnext : (w.heater.appTick qfp (t.clock w.now) t.input).currentCirculationState ≠ 0 :=
    of_decide_eq_true hon
  rw [hsince, hon]
  cases hbefore : w.heater.circulationOn with
  | false =>
    have hzero := of_decide_eq_false (h.circulation.symm.trans hbefore)
    rw [if_pos ⟨not_not.mp hzero, hnext⟩] at hnoted
    exact ⟨hnoted, Nat.le_refl _⟩
  | true =>
    have hrunning := of_decide_eq_true (h.circulation.symm.trans hbefore)
    rw [if_neg fun hstart => hrunning hstart.1] at hnoted
    obtain ⟨hstart, hle⟩ := h.circulationStart hbefore
    exact ⟨hnoted.trans hstart, hle.trans (le_endAt t w.now)⟩

theorem ok_step : Machine.Keeps (step qfp) Ok := by
  rintro w (t | cfg) h
  · exact ⟨rfl, rfl, h.burnerStart_tick, h.circulationStart_tick⟩
  · exact ⟨h.burner, h.circulation, h.burnerStart, h.circulationStart⟩

/-! ## The counts of a tick -/

/-- The count of a tick is the run time beyond the delay, as an `int16_t`. -/
theorem Ok.burnerLidFor (h : w.Ok) (hlt : w.burnerOnFor t < systimeRange) :
    w.heater.burnerLidFor (t.clock w.now) =
      int16 ((timeI2S (w.burnerOnFor t) : ℤ) - burnerRequestDelay) := by
  simp only [Trimatik.burnerLidFor, burnerOnFor, ← h.burner] at hlt ⊢
  cases hon : w.heater.burnerOn with
  | false =>
    rw [if_neg Bool.false_ne_true, if_neg Bool.false_ne_true]
    rfl
  | true =>
    obtain ⟨hstart, hle⟩ := h.burnerStart hon
    rw [if_pos hon] at hlt
    have helapsed : timeElapsedSince (t.clock w.now).lid w.heater.lastBurnerRequestStart =
        w.now + t.lid - w.burnerSince := by
      rw [hstart]
      exact timeElapsedSince_of_lt (by omega) (by omega)
    rw [if_pos rfl, if_pos rfl, helapsed]

/-- The run time of the circulation fits in an `int32_t`. -/
theorem Ok.circulationRunningFor (h : w.Ok) (hlt : w.circulationOnFor t < systimeRange) :
    w.heater.circulationRunningFor (t.clock w.now) = timeI2S (w.circulationOnFor t) := by
  have hfits : ∀ ticks < systimeRange, int32 (timeI2S ticks : ℤ) = timeI2S ticks := by
    intro ticks hticks
    have hrange : ticks < 2 ^ 32 := hticks
    have hle : timeI2S ticks < 2 ^ 31 := by
      simp only [timeI2S, Ticks.roundUp, stFrequency]
      omega
    rw [int32, Int.bmod_eq_of_le] <;> omega
  simp only [Trimatik.circulationRunningFor, circulationOnFor, h.circulation] at hlt ⊢
  by_cases hon : w.heater.currentCirculationState ≠ 0
  · obtain ⟨hstart, hle⟩ := h.circulationStart (h.circulation.trans (decide_eq_true hon))
    rw [if_pos (decide_eq_true hon)] at hlt
    have helapsed : timeElapsedSince (t.clock w.now).running w.heater.lastCirculationStart =
        w.now + t.lid + t.running - w.circulationSince := by
      rw [hstart]
      exact timeElapsedSince_of_lt (by omega) (by omega)
    rw [if_pos hon, if_pos (decide_eq_true hon), helapsed]
    exact hfits _ hlt
  · rw [if_neg hon, if_neg (by simpa using hon)]
    rfl

/-! ## The judgement -/

/-- The broadcast flag is the sign of the count. -/
theorem flag_step :
    (t.step qfp w.toHeating).heater.sent.getLast?.map (·.burnerActuallyFiring) =
      some (decide (0 < w.heater.burnerLidFor (t.clock w.now))) := by
  show Option.map _ (List.getLast? (_ ++ [_])) = _
  rw [List.getLast?_concat]
  rfl

theorem LongRun.on (h : w.LongRun qfp t) : w.heater.burnerOn = true := by
  obtain ⟨hlong, -⟩ := h
  by_contra hoff
  rw [burnerOnFor, if_neg hoff] at hlong
  exact Nat.not_lt_zero _ hlong

/-- A long run ends by its count or for another reason. -/
theorem Ok.stops_iff (h : w.Ok) (hmode : t.input.key .mode = keyModeDayNight)
    (hlt : w.circulationOnFor t < systimeRange) (hlong : w.LongRun qfp t) :
    (t.step qfp w.toHeating).heater.burnerOn = false ↔
      (w.heater.config.burnerStopTempRiseTime : ℤ) < w.heater.burnerLidFor (t.clock w.now) ∨
        w.StopsAnyway qfp t.input := by
  have hon : w.heater.currentBurnerState = true := h.burner.symm.trans hlong.on
  obtain ⟨-, hcirculation, hhotter, henabled⟩ := hlong
  have hrunning : (w.heater.config.circulationMinOnTimeForThreshold : ℤ) <
      w.heater.circulationRunningFor (t.clock w.now) := by
    rw [h.circulationRunningFor hlt]
    exact Int.ofNat_lt.mpr ((Ticks.lt_roundUp_iff (by decide)).mpr hcirculation)
  have hrequest := @Trimatik.burnerRequest_dayNight qfp (t.clock w.now) t.input w.heater hmode
  rw [if_pos hon] at hrequest
  show (w.heater.appTick qfp (t.clock w.now) t.input).burnerOn = false ↔ _
  rw [Trimatik.burnerOn_appTick hon, ← Bool.not_eq_true, hrequest, and_iff_right henabled, not_not,
    Trimatik.TurnsOff, StopsAnyway, and_iff_right hhotter, and_iff_left hrunning, ← or_assoc]
  exact or_comm

/-- What a tick judges right. -/
theorem Ok.judged_iff (h : w.Ok) (e : HeatEvent) : w.Judged qfp e ↔ w.RunTimeFits qfp e := by
  cases e with
  | configUpdate cfg => exact Iff.rfl
  | tick t =>
    refine imp_congr_right fun hmode => imp_congr_right fun hburner =>
      imp_congr_right fun hcirculation => ?_
    have hlid := h.burnerLidFor hburner
    have hdelay : burnerRequestDelay < timeI2S (w.burnerOnFor t) ↔
        burnerRequestDelay * stFrequency < w.burnerOnFor t := Ticks.lt_roundUp_iff (by decide)
    simp only [flag_step, Option.some.injEq]
    by_cases hlate : burnerRequestDelay * stFrequency < w.burnerOnFor t
    · have hcount : (timeI2S (w.burnerOnFor t) : ℤ) - burnerRequestDelay =
          (overtime (w.burnerOnFor t) : ℕ) := by
        have := hdelay.mpr hlate
        rw [overtime]
        omega
      rw [hcount] at hlid
      simp only [hlate, true_imp_iff, decide_eq_decide, iff_true]
      rw [hlid, int16_pos_iff, and_assoc]
      refine and_congr_right fun hpos => and_congr_right fun hsmall =>
        imp_congr_right fun hlong => ?_
      rw [h.stops_iff hmode hcirculation hlong, hlid, int16_of_lt hsmall, Int.ofNat_lt]
    · have hnonpos : int16 ((timeI2S (w.burnerOnFor t) : ℤ) - burnerRequestDelay) ≤ 0 := by
        have := hdelay.not.mpr hlate
        exact int16_nonpos (by omega) (by omega)
      have hshort : ¬ w.LongRun qfp t := by
        rintro ⟨hlong, -⟩
        rw [Nat.add_mul] at hlong
        omega
      rw [hlid]
      simp [hlate, hshort, hnonpos]

end Watched

/-- **When the run time is judged right**: in every run after `app_init`, exactly if at every tick
in `KEY_MODE_DAY_NIGHT` the seconds beyond the delay, modulo 2^16, say as much as the seconds. -/
theorem burner_judged_iff (qfp : Qfp) (cfg : TrimatikConfig) (now : ℕ) (es : List HeatEvent) :
    Machine.Meets (Watched.step qfp) (Watched.Judged qfp) (.start cfg now) es ↔
      Machine.Meets (Watched.step qfp) (Watched.RunTimeFits qfp) (.start cfg now) es := by
  have hkeeps : Machine.Keeps (Watched.step qfp) Watched.Ok := Watched.ok_step
  have hiff : ∀ (w : Watched) (e : HeatEvent), w.Ok → (w.Judged qfp e ↔ w.RunTimeFits qfp e) :=
    fun _ e h => h.judged_iff e
  exact (hkeeps.keepsIf _).meets_congr hiff (Watched.ok_start cfg now) es

/-- One second after the last tick: 0 degrees outside, flow and burner at 40 degrees. -/
def coolTick : Tick := { hotBurner with
  input := { hotBurner.input with burnerTemperature := 4000 }
  lid := 10000 }

/-- After `n + 1` such ticks, of which the first starts burner and circulation. -/
structure Burning (n : ℕ) (w : Watched) : Prop where
  now : w.now = 10000 * (n + 1)
  burnerSince : w.burnerSince = 10000
  circulationSince : w.circulationSince = 10000
  burner : w.heater.burnerOn = true
  current : w.heater.currentBurnerState = true
  circulation : w.heater.circulationOn = true
  config : w.heater.config = fiveKelvin.read

/-- A burner that is on stays on. -/
theorem Burning.step {n : ℕ} {w : Watched} (h : Burning n w) :
    Burning (n + 1) (w.step (.const 5065) (.tick coolTick)) := by
  have htarget : w.heater.targetFlowTemp (.const 5065) coolTick.input = 5065 := rfl
  have hrequest : (w.heater.burnerRequest (.const 5065) (coolTick.clock w.now)
      coolTick.input).burner = true := by
    rw [Trimatik.burnerRequest_dayNight rfl, htarget, h.config, if_pos h.current,
      Trimatik.TurnsOff, h.config]
    refine ⟨by decide, ?_⟩
    rintro ((⟨hhot, -⟩ | ⟨hhot, -⟩) | ⟨hdeviation, -⟩ | ⟨hhotter, -⟩)
    · exact absurd hhot (by decide)
    · exact absurd hhot (by decide)
    · exact hdeviation rfl
    · exact absurd hhotter (by decide)
  have hburner : (coolTick.step (.const 5065) w.toHeating).heater.burnerOn = true :=
    (Trimatik.burnerOn_appTick h.current).trans hrequest
  refine ⟨?_, ?_, ?_, hburner, hburner, ?_, ?_⟩
  · show w.now + 10000 + 0 + 0 + 0 + 0 = _
    rw [h.now]
    omega
  · show (if !w.heater.burnerOn && _ then _ else w.burnerSince) = _
    rw [h.burner]
    exact h.burnerSince
  · show (if !w.heater.circulationOn && _ then _ else w.circulationSince) = _
    rw [h.circulation]
    exact h.circulationSince
  · have hwarm : (w.heater.config.minTempToEnableCirculation : ℤ) <
        coolTick.input.flowTemperature := by
      rw [h.config]
      decide
    exact Trimatik.circulationOn_appTick rfl hwarm
  · exact Trimatik.config_appTick.trans h.config

/-- The run of `n + 1` such ticks. -/
theorem burning_run (n : ℕ) :
    Burning n (Machine.run (Watched.step (.const 5065)) (.start fiveKelvin 0)
      (List.replicate (n + 1) (.tick coolTick))) := by
  induction n with
  | zero => exact ⟨rfl, rfl, rfl, rfl, rfl, rfl, rfl⟩
  | succ n ih =>
    rw [List.replicate_succ', Machine.run_snoc]
    exact ih.step

/-- After 32818 seconds the tick broadcasts that the burner is not firing. -/
theorem not_burner_judged :
    ¬ ∀ (qfp : Qfp) (cfg : TrimatikConfig) (now : ℕ) (es : List HeatEvent),
      Machine.Meets (Watched.step qfp) (Watched.Judged qfp) (.start cfg now) es := by
  intro h
  have hrun := h (.const 5065) fiveKelvin 0 (List.replicate (32817 + 1 + 1) (.tick coolTick))
  have hburning := burning_run 32817
  have hkeeps : Machine.Keeps (Watched.step (.const 5065)) Watched.Ok := Watched.ok_step
  have hok := hkeeps.run (Watched.ok_start fiveKelvin 0)
    (List.replicate (32817 + 1) (.tick coolTick))
  rw [List.replicate_succ', Machine.meets_append] at hrun
  generalize Machine.run (Watched.step (.const 5065)) (.start fiveKelvin 0)
    (List.replicate (32817 + 1) (.tick coolTick)) = w at hrun hburning hok
  have hburner : w.burnerOnFor coolTick = 328180000 := by
    rw [Watched.burnerOnFor, if_pos hburning.burner, hburning.now, hburning.burnerSince]
    rfl
  have hcirculation : w.circulationOnFor coolTick = 328180000 := by
    rw [Watched.circulationOnFor, if_pos hburning.circulation, hburning.now,
      hburning.circulationSince]
    rfl
  have hlt : w.burnerOnFor coolTick < systimeRange := by
    rw [hburner]
    decide
  have hflag := (hrun.2.1 rfl hlt (by rw [hcirculation]; decide)).1
  rw [Watched.flag_step, hok.burnerLidFor hlt, hburner] at hflag
  exact absurd hflag (by decide)

end HouseBus
