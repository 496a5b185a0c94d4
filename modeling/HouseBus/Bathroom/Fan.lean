import HouseBus.Bathroom.Outputs

/-!
# The run-out of the fan

The fan runs while humidity or wall temperature ask for it, and goes on for the run-out time of the
configuration. The time is counted from the first tick that does not ask for the fan any more, with a
32-bit clock that wraps: as long as the ticks come often enough, the fan is on exactly if no tick
since then came later than the run-out time that was configured for it (`fan_runs_out`).
-/

namespace HouseBus

open Bathroom (TickClock)

/-- What the ticks asked of the fan: never anything, its running at the last tick, or nothing any
more since the real tick `since`. For each tick from then on, `ages` has the real ticks since then
and the run-out time. -/
inductive FanHistory
  | never
  | triggered
  | ended (since : ℕ) (ages : List (ℕ × ℕ))
  deriving DecidableEq

/-- A run of the node, the real tick of the last reading for the fan, and the history of the fan. -/
structure FanRun where
  bathroom : BathroomRun
  checkedAt : ℕ
  history : FanHistory

namespace Bathroom

/-- `fanTrigger` -/
def FanTrigger (input : BathroomInput) (b : Bathroom) : Prop :=
  b.fan.onAboveRelativeHumidity < input.insideHumidity ∨
    ∃ difference ∈ input.wallTemperatureDifference, difference < 0

instance (input : BathroomInput) (b : Bathroom) : Decidable (b.FanTrigger input) :=
  inferInstanceAs (Decidable (_ ∨ _))

end Bathroom

namespace FanHistory

/-- The history behind a tick with its readings `store` and `check` and the run-out time. -/
def next (trigger : Bool) (store check runOut : ℕ) : FanHistory → FanHistory
  | .never => if trigger then .triggered else .never
  | .triggered => if trigger then .triggered else .ended store [(check - store, runOut)]
  | .ended since ages =>
    if trigger then .triggered else .ended since (ages ++ [(check - since, runOut)])

/-- The fan has to run: it is asked for, or every tick since it was came in time. -/
def Runs : FanHistory → Prop
  | .never => False
  | .triggered => True
  | .ended _ ages => ∀ p ∈ ages, p.1 ≤ p.2

instance : DecidablePred Runs
  | .never => instDecidableFalse
  | .triggered => instDecidableTrue
  | .ended _ ages => inferInstanceAs (Decidable (∀ p ∈ ages, p.1 ≤ p.2))

end FanHistory

namespace Fan

/-- The variables of the fan behind a tick. -/
def next (trigger : Prop) [Decidable trigger] (store check : ℕ) (f : Fan) : Fan :=
  if trigger then { f with fanRunning := 2 }
  else if f.fanRunning = 2 then
    { f with
      fanRunning := if f.runOutTime < timeElapsedSince check store then 0 else 1
      fanNotTriggeredAnymoreAt := store }
  else if f.fanRunning ≠ 0 ∧ f.runOutTime < timeElapsedSince check f.fanNotTriggeredAnymoreAt then
    { f with fanRunning := 0 }
  else f

theorem runOutTime_next (trigger : Prop) [Decidable trigger] (store check : ℕ) (f : Fan) :
    (f.next trigger store check).runOutTime = f.runOutTime := by
  unfold next
  split_ifs <;> rfl

/-- The variables as the history wants them after a tick at `checkedAt`. -/
structure Follows (longest checkedAt : ℕ) (history : FanHistory) (f : Fan) : Prop where
  running : f.fanRunning = if history = .triggered then 2 else if history.Runs then 1 else 0
  since : ∀ since ages, history = .ended since ages → history.Runs →
    since ≤ checkedAt ∧ checkedAt - since ≤ longest ∧
      f.fanNotTriggeredAnymoreAt = systemTime since

/-- **A tick** within one wrap goes on with the history. -/
theorem Follows.next {longest checkedAt store check : ℕ} {history : FanHistory} {f : Fan}
    (h : f.Follows longest checkedAt history) (trigger : Prop) [Decidable trigger]
    (hrunOut : f.runOutTime ≤ longest) (hchecked : checkedAt ≤ store) (horder : store ≤ check)
    (hwrap : check + longest < checkedAt + systimeRange) :
    (f.next trigger (systemTime store) (systemTime check)).Follows longest check
      (history.next (decide trigger) store check f.runOutTime) := by
  have hrunning := h.running
  by_cases htrigger : trigger
  · have hhistory : history.next (decide trigger) store check f.runOutTime = .triggered := by
      rw [decide_eq_true htrigger]
      cases history <;> rfl
    rw [hhistory, Fan.next, if_pos htrigger]
    exact ⟨rfl, nofun⟩
  · rw [decide_eq_false htrigger, Fan.next, if_neg htrigger]
    cases history with
    | never =>
      have hoff : f.fanRunning = 0 := hrunning
      rw [if_neg (by omega), if_neg (fun hrun => hrun.1 hoff)]
      exact ⟨hoff, nofun⟩
    | triggered =>
      -- the run-out time begins
      have htwo : f.fanRunning = 2 := hrunning
      rw [if_pos htwo, timeElapsedSince_of_lt horder (by omega)]
      change Follows longest check (.ended store [(check - store, f.runOutTime)]) _
      refine ⟨?_, fun since ages hended hruns => ?_⟩
      · have hne : FanHistory.ended store [(check - store, f.runOutTime)] ≠ .triggered := nofun
        simp only [if_neg hne, FanHistory.Runs, List.forall_mem_singleton, ← not_lt, ite_not]
      · obtain ⟨rfl, rfl⟩ := FanHistory.ended.inj hended
        simp only [FanHistory.Runs, List.forall_mem_singleton] at hruns
        exact ⟨horder, by omega, rfl⟩
    | ended since ages =>
      change Follows longest check (.ended since (ages ++ [(check - since, f.runOutTime)])) _
      have hforall : (FanHistory.ended since (ages ++ [(check - since, f.runOutTime)])).Runs ↔
          (FanHistory.ended since ages).Runs ∧ check - since ≤ f.runOutTime := by
        simp only [FanHistory.Runs, List.forall_mem_append, List.forall_mem_singleton]
      by_cases hruns : (FanHistory.ended since ages).Runs
      · obtain ⟨hsince, hage, hstamp⟩ := h.since since ages rfl hruns
        rw [if_neg nofun, if_pos hruns] at hrunning
        rw [if_neg (by omega), hstamp, timeElapsedSince_of_lt (by omega) (by omega)]
        by_cases hlate : f.runOutTime < check - since
        · rw [if_pos ⟨by omega, hlate⟩]
          refine ⟨?_, fun since' ages' hended hnew => absurd (hforall.mp hnew).2 (by omega)⟩
          rw [if_neg nofun, if_neg (fun hnew => absurd (hforall.mp hnew).2 (by omega))]
        · rw [if_neg (fun hrun => hlate hrun.2)]
          refine ⟨?_, fun since' ages' hended _ => ?_⟩
          · rw [if_neg nofun, if_pos (hforall.mpr ⟨hruns, by omega⟩), hrunning]
          · obtain ⟨rfl, -⟩ := FanHistory.ended.inj hended
            exact ⟨by omega, by omega, hstamp⟩
      · rw [if_neg nofun, if_neg hruns] at hrunning
        rw [if_neg (by omega), if_neg (fun hrun => hrun.1 hrunning)]
        refine ⟨?_, ?_⟩
        · rw [if_neg nofun, if_neg (fun hnew => hruns (hforall.mp hnew).1), hrunning]
        · intro since' ages' hended hnew
          exact absurd (hforall.mp hnew).1 hruns

end Fan

namespace Bathroom

variable {b : Bathroom}

theorem fan_fanControlTick (clock : TickClock) (input : BathroomInput) (b : Bathroom) :
    (b.fanControlTick clock input).fan =
      b.fan.next (b.FanTrigger input) clock.fanStore clock.fanCheck := by
  by_cases htrigger : b.FanTrigger input
  · rw [Fan.next, if_pos htrigger]
    unfold FanTrigger at htrigger
    unfold fanControlTick
    simp only [htrigger, if_true, not_true_eq_false, false_and, if_false]
  · rw [Fan.next, if_neg htrigger]
    unfold FanTrigger at htrigger
    unfold fanControlTick
    simp only [htrigger, if_false, not_false_eq_true, true_and]
    by_cases hended : b.fan.fanRunning = 2
    · simp only [if_pos hended, ne_eq, one_ne_zero, not_false_eq_true, true_and]
      split <;> rfl
    · simp only [if_neg hended]
      split <;> rfl

/-- **A tick** and the fan: the other parts of the tick leave it alone. -/
theorem fan_appTick (clock : TickClock) (input : BathroomInput) (h : b.FanShows) :
    let b' := b.appTick clock input
    b'.fan = b.fan.next (b.FanTrigger input) clock.fanStore clock.fanCheck ∧
      b'.pads.fan = decide (b'.fan.fanRunning ≠ 0) ∧
      b'.status.fanRunning = decide (b'.fan.fanRunning ≠ 0) := by
  intro b'
  obtain ⟨b₁, hb₁⟩ : ∃ b₁, b₁ = (b.readMotionSensor clock input.motion).readLdr clock input.adc :=
    ⟨_, rfl⟩
  have hsame₁ : b₁.fan = b.fan ∧ b₁.pads.fan = b.pads.fan := by
    rw [hb₁]
    unfold readLdr readMotionSensor
    dsimp only
    split <;> exact ⟨rfl, rfl⟩
  obtain ⟨b₂, hb₂⟩ : ∃ b₂, b₂ = b₁.occupancyIndicatorTick clock := ⟨_, rfl⟩
  have hsame₂ : b₂.fan = b₁.fan ∧ b₂.pads.fan = b₁.pads.fan := by
    obtain ⟨leds, blink, hshow⟩ := samePanel_showMode { b₁ with
      occupancy := b₁.occupancy.next b₁.doorClosed b₁.occupancySwitch.pressed
        (b₁.motionSensorActiveAgo clock) (b₁.doorOpenAgo clock) clock.press clock.check
      occupancySwitch := { b₁.occupancySwitch with pressed := false } }
    rw [hb₂]
    unfold occupancyIndicatorTick
    dsimp only
    rw [hshow]
    exact ⟨rfl, rfl⟩
  have hshows : b₂.FanShows := by
    unfold FanShows
    rw [hsame₂.1, hsame₂.2, hsame₁.1, hsame₁.2]
    exact h
  have hfan := fan_fanControlTick clock input b₂
  obtain ⟨fan, hcontrol⟩ := fanControlTick_eq clock input hshows
  have htrigger : b₂.FanTrigger input ↔ b.FanTrigger input := by
    unfold FanTrigger
    rw [hsame₂.1, hsame₁.1]
  have htick : b' = (b₂.fanControlTick clock input).lightTick.bathroomStatusBroadcast := by
    rw [hb₂, hb₁]
    rfl
  rw [htick, lightTick_eq]
  refine ⟨?_, ?_, ?_⟩
  · change (b₂.fanControlTick clock input).fan = _
    rw [hfan, hsame₂.1, hsame₁.1]
    simp only [htrigger]
  · rw [hcontrol]; rfl
  · rw [hcontrol]; rfl

/-- `app_fast_tick` leaves the fan alone. -/
theorem fan_appFastTick (now : ℕ) (door occupancy brightness : Bool) (b : Bathroom) :
    let b' := b.appFastTick now door occupancy brightness
    b'.fan = b.fan ∧ b'.pads.fan = b.pads.fan ∧ b'.status = b.status := by
  intro b'
  obtain ⟨⟨hpads, -, hfan⟩, hstatus, -⟩ := readButtons_same now door occupancy brightness b
  obtain ⟨leds, blink, hblink⟩ :=
    samePanel_blinkTick (b.readButtons now door occupancy brightness)
  have hb' : b' = (b.readButtons now door occupancy brightness).withPanel leds blink := hblink
  rw [hb']
  refine ⟨hfan, ?_, hstatus⟩
  change (b.readButtons now door occupancy brightness).pads.fan = b.pads.fan
  rw [hpads]

end Bathroom

namespace FanRun

/-- Power-on. -/
def start (cfg : BathroomConfig) : FanRun := ⟨.start cfg, 0, .never⟩

/-- The state after an event. -/
def step (s : FanRun) (e : BathroomEvent) : FanRun :=
  match e with
  | .tick t =>
    let node := s.bathroom.node
    { bathroom := s.bathroom.step e
      checkedAt := s.bathroom.now + t.delays.fanCheck
      history := s.history.next (decide (node.FanTrigger t.input))
        (s.bathroom.now + t.delays.fanStore) (s.bathroom.now + t.delays.fanCheck)
        node.fan.runOutTime }
  | _ => { s with bathroom := s.bathroom.step e }

/-- The ticks come often enough: a tick finds the fan within one wrap, if the fan was in its run-out
time at the tick before. -/
def OftenEnough (longest : ℕ) (s : FanRun) : BathroomEvent → Prop
  | .tick t => s.bathroom.now + t.delays.fanCheck + longest < s.checkedAt + systimeRange
  | .configUpdate cfg => timeS2I cfg.fanRunOutTimeS % 2 ^ 32 ≤ longest
  | .fastTick .. => True

instance (longest : ℕ) (s : FanRun) : ∀ e, Decidable (OftenEnough longest s e)
  | .tick _ => inferInstanceAs (Decidable (_ < _))
  | .configUpdate _ => inferInstanceAs (Decidable (_ ≤ _))
  | .fastTick .. => instDecidableTrue

/-- The fan as the history wants it. -/
structure FanOk (longest : ℕ) (s : FanRun) : Prop where
  shows : s.bathroom.node.FanShows
  checkedAt_le : s.checkedAt ≤ s.bathroom.now
  runOut_le : s.bathroom.node.fan.runOutTime ≤ longest
  follows : s.bathroom.node.fan.Follows longest s.checkedAt s.history
  status : s.bathroom.ticks ≠ [] →
    s.bathroom.node.status.fanRunning = decide (s.bathroom.node.fan.fanRunning ≠ 0)

variable {longest : ℕ} {s : FanRun}

theorem fanOk_start {cfg : BathroomConfig} (hcfg : timeS2I cfg.fanRunOutTimeS % 2 ^ 32 ≤ longest) :
    FanOk longest (start cfg) where
  shows := rfl
  checkedAt_le := Nat.le_refl 0
  runOut_le := hcfg
  follows := ⟨rfl, nofun⟩
  status := fun h => absurd rfl h

theorem delays_fanStore_le (t : BathroomTick) : t.delays.fanStore ≤ t.delays.fanCheck := by
  have hlast : List.Pairwise (· ≤ ·) [t.delays.fanStore, t.delays.fanCheck] :=
    @List.Pairwise.drop _ _ _ 8 t.ascending
  exact List.rel_of_pairwise_cons hlast (List.mem_singleton_self _)

theorem fanOk_tick (h : FanOk longest s) (t : BathroomTick)
    (hoften : OftenEnough longest s (.tick t)) : FanOk longest (step s (.tick t)) := by
  obtain ⟨hfan, hpad, hstatus⟩ := s.bathroom.node.fan_appTick
    ((t.delays.map (s.bathroom.now + ·)).map systemTime) t.input h.shows
  have hchecked := h.checkedAt_le
  have horder := delays_fanStore_le t
  have hstore : s.checkedAt ≤ s.bathroom.now + t.delays.fanStore := by omega
  have hcheck : s.bathroom.now + t.delays.fanStore ≤ s.bathroom.now + t.delays.fanCheck := by omega
  have hnext := h.follows.next (s.bathroom.node.FanTrigger t.input) h.runOut_le hstore hcheck hoften
  refine ⟨hpad, Nat.le_refl _, ?_, ?_, fun _ => hstatus⟩
  · exact (congrArg Fan.runOutTime hfan).trans_le
      ((Fan.runOutTime_next ..).trans_le h.runOut_le)
  · exact hfan ▸ hnext

theorem fanOk_step : Machine.KeepsIf step (OftenEnough longest) (FanOk longest) := by
  intro s e hguard h
  cases e with
  | tick t => exact fanOk_tick h t hguard
  | configUpdate cfg =>
    exact ⟨h.shows, h.checkedAt_le, hguard, ⟨h.follows.running, h.follows.since⟩, h.status⟩
  | fastTick delay door occupancy brightness =>
    obtain ⟨hfan, hpad, hstatus⟩ := s.bathroom.node.fan_appFastTick
      (systemTime (s.bathroom.now + delay)) door occupancy brightness
    refine ⟨?_, h.checkedAt_le.trans (Nat.le_add_right _ _), ?_, hfan ▸ h.follows, ?_⟩
    · exact hpad.trans (h.shows.trans (by rw [← hfan]; rfl))
    · exact (congrArg Fan.runOutTime hfan).trans_le h.runOut_le
    · intro hticks
      change (s.bathroom.node.appFastTick _ door occupancy brightness).status.fanRunning = decide
        ((s.bathroom.node.appFastTick _ door occupancy brightness).fan.fanRunning ≠ 0)
      rw [hfan, hstatus]
      exact h.status hticks

/-- **The run-out.** In every run whose ticks come often enough, the fan is on exactly while it is
asked for and as long as no tick since then came later than the run-out time; from the first tick on
the status says so. -/
theorem fan_runs_out (longest : ℕ) (cfg : BathroomConfig)
    (hcfg : timeS2I cfg.fanRunOutTimeS % 2 ^ 32 ≤ longest) (es : List BathroomEvent)
    (hes : Machine.Meets step (OftenEnough longest) (start cfg) es) :
    let s := Machine.run step (start cfg) es
    s.bathroom.node.pads.fan = decide s.history.Runs ∧
      (s.bathroom.ticks ≠ [] → s.bathroom.node.status.fanRunning = decide s.history.Runs) := by
  intro s
  have hok : FanOk longest s := fanOk_step.run (fanOk_start hcfg) hes
  have hrunning : decide (s.bathroom.node.fan.fanRunning ≠ 0) = decide s.history.Runs := by
    rw [hok.follows.running]
    cases s.history with
    | never => rfl
    | triggered => rfl
    | ended since ages =>
      rw [if_neg nofun]
      split <;> simp_all
  exact ⟨hok.shows.trans hrunning, fun hticks => (hok.status hticks).trans hrunning⟩

/-- A tick of one second with the humidity `humidity`. -/
def humidTick (humidity : ℕ) : BathroomTick :=
  { BathroomRun.secondTick false with input := ⟨false, 0, humidity, none⟩ }

/-- A shower: the fan is asked for at the first tick, and not at the `ticks` after it. -/
def shower (ticks : ℕ) : List BathroomEvent :=
  .tick (humidTick 600) :: List.replicate ticks (.tick (humidTick 400))

/-- With a run-out time of one second the fan stops two seconds after the first tick without it. -/
theorem fan_runs_out_shower :
    (Machine.run step (start ⟨500, 1⟩) (shower 2)).bathroom.node.pads.fan = true ∧
      (Machine.run step (start ⟨500, 1⟩) (shower 3)).bathroom.node.pads.fan = false := by
  have hcfg : timeS2I 1 % 2 ^ 32 ≤ 10000 := by decide
  have hruns := fan_runs_out 10000 ⟨500, 1⟩ hcfg (shower 2) (by decide +kernel)
  have hstops := fan_runs_out 10000 ⟨500, 1⟩ hcfg (shower 3) (by decide +kernel)
  refine ⟨?_, ?_⟩
  · rw [hruns.1]
    decide +kernel
  · rw [hstops.1]
    decide +kernel

end FanRun

end HouseBus
