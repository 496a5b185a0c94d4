import HouseBus.Bathroom

/-!
# What the bathroom shows

The LEDs outside show the mode, the light follows it, and the status that was sent last has all of
it: from the first tick on, after every event (`bathroom_outputs`). The yellow LED alone depends on
time, as long as the room is in use with an open door: it changes every 70 fast ticks
(`leds_blink`).
-/

namespace HouseBus

namespace Bathroom

variable {b : Bathroom}

/-! ## The LEDs -/

/-- The speed of the blinking LED, for a room in use with an open door. -/
def openInUseSpeed : ℕ := 70

/-- The yellow LED is the only one that blinks, with one speed, and shows `blinkState`. -/
structure BlinkOk (b : Bathroom) : Prop where
  ticks_lt : b.blink.ticks < openInUseSpeed
  speed : b.blink.speed ≠ 0 → b.blink.speed = openInUseSpeed ∧ b.blink.ledNr = ledYellow ∧
    b.pads.leds ledYellow = b.blink.state

/-- The LEDs show the mode. -/
structure PanelShows (b : Bathroom) : Prop where
  green : b.pads.leds ledGreen = decide (b.occupancy.state = .empty)
  red : b.pads.leds ledRed = decide (b.occupancy.state = .privateMode)
  steady : b.occupancy.state ≠ .openInUse →
    b.blink.speed = 0 ∧ b.pads.leds ledYellow = decide (b.occupancy.state = .inUse)
  blinks : b.occupancy.state = .openInUse → b.blink.speed = openInUseSpeed

/-- `setLed` writes one LED. -/
theorem leds_setLed {led : ℕ} (h : led < 3) (on : ℕ) (b : Bathroom) (other : ℕ) :
    (b.setLed led on).pads.leds other = if other = led then decide (1 ≤ on) else
      b.pads.leds other := by
  unfold setLed
  rw [if_pos h]
  exact Function.update_apply _ _ _ _

@[simp] theorem blink_setLed (led on : ℕ) (b : Bathroom) : (b.setLed led on).blink = b.blink := by
  unfold setLed
  split <;> rfl

@[simp] theorem occupancy_setLed (led on : ℕ) (b : Bathroom) :
    (b.setLed led on).occupancy = b.occupancy := by
  unfold setLed
  split <;> rfl

theorem blinkLed_zero (number : ℕ) (b : Bathroom) : b.blinkLed number 0 =
    { b with blink := { b.blink with ledNr := number, speed := 0 } } := by
  unfold blinkLed
  split
  · rfl
  · next h =>
    push Not at h
    rw [← h.1, ← h.2]

/-- A LED that starts to blink is switched on. -/
theorem blinkLed_start (h : b.BlinkOk) :
    let b' := b.blinkLed ledYellow openInUseSpeed
    b'.BlinkOk ∧ b'.blink.speed = openInUseSpeed ∧ b'.occupancy = b.occupancy ∧
      ∀ led ≠ ledYellow, b'.pads.leds led = b.pads.leds led := by
  intro b'
  by_cases hnew : b.blink.ledNr ≠ ledYellow ∨ b.blink.speed ≠ openInUseSpeed
  · have hb' : b' = { b with blink :=
        { b.blink with ledNr := ledYellow, speed := openInUseSpeed, state := true } }.setLed
          ledYellow openInUseSpeed := by
      unfold b' blinkLed
      rw [if_pos hnew]
      rfl
    rw [hb']
    refine ⟨⟨?_, fun _ => ⟨?_, ?_, ?_⟩⟩, ?_, ?_, ?_⟩
    · rw [blink_setLed]; exact h.ticks_lt
    · rw [blink_setLed]
    · rw [blink_setLed]
    · rw [leds_setLed (by decide), if_pos rfl, blink_setLed]; rfl
    · rw [blink_setLed]
    · rw [occupancy_setLed]
    · intro led hled
      rw [leds_setLed (by decide), if_neg hled]
  · have hb' : b' = b := if_neg hnew
    push Not at hnew
    rw [hb']
    exact ⟨h, hnew.2, rfl, fun _ _ => rfl⟩

/-- The LEDs behind `showMode`. -/
theorem showMode_spec (h : b.BlinkOk) : b.showMode.BlinkOk ∧ b.showMode.PanelShows := by
  have hlt := h.ticks_lt
  cases hmode : b.occupancy.state with
  | openInUse =>
    -- the LED goes on blinking, or starts to
    have hgreen : (b.setLed ledGreen 0).BlinkOk := by
      refine ⟨by rwa [blink_setLed], fun hspeed => ?_⟩
      rw [blink_setLed] at hspeed ⊢
      rw [leds_setLed (by decide), if_neg (by decide)]
      exact h.speed hspeed
    obtain ⟨hblink, hspeed, hoccupancy, hleds⟩ := blinkLed_start hgreen
    have hshow : b.showMode =
        ((b.setLed ledGreen 0).blinkLed ledYellow openInUseSpeed).setLed ledRed 0 := by
      unfold showMode
      rw [hmode]
      rfl
    have hstate : b.showMode.occupancy.state = .openInUse := by
      rw [hshow, occupancy_setLed, hoccupancy, occupancy_setLed, hmode]
    rw [hshow] at hstate ⊢
    refine ⟨⟨?_, fun _ => ?_⟩, ?_, ?_, fun hne => absurd hstate hne, fun _ => ?_⟩
    · rw [blink_setLed]; exact hblink.ticks_lt
    · rw [blink_setLed, leds_setLed (by decide), if_neg (by decide)]
      exact hblink.speed (by rw [hspeed]; decide)
    · rw [leds_setLed (by decide), if_neg (by decide), hleds _ (by decide),
        leds_setLed (by decide), if_pos rfl, hstate]
      rfl
    · rw [leds_setLed (by decide), if_pos rfl, hstate]
      rfl
    · rw [blink_setLed]
      exact hspeed
  | empty =>
    refine ⟨⟨?_, ?_⟩, ?_, ?_, ?_, ?_⟩ <;>
      simp [showMode, hmode, blinkLed_zero, leds_setLed, ledGreen, ledYellow, ledRed, hlt]
  | inUse =>
    refine ⟨⟨?_, ?_⟩, ?_, ?_, ?_, ?_⟩ <;>
      simp [showMode, hmode, blinkLed_zero, leds_setLed, ledGreen, ledYellow, ledRed, hlt]
  | privateMode =>
    refine ⟨⟨?_, ?_⟩, ?_, ?_, ?_, ?_⟩ <;>
      simp [showMode, hmode, blinkLed_zero, leds_setLed, ledGreen, ledYellow, ledRed, hlt]

/-- `b` with other LEDs. -/
def withPanel (leds : ℕ → Bool) (blink : Blink) (b : Bathroom) : Bathroom :=
  { b with pads := { b.pads with leds := leds }, blink := blink }

/-- `b'` differs from `b` in the LEDs alone. -/
def SamePanel (b b' : Bathroom) : Prop := ∃ leds blink, b' = b.withPanel leds blink

theorem SamePanel.trans {b' b'' : Bathroom} (h : b.SamePanel b') (h' : b'.SamePanel b'') :
    b.SamePanel b'' := by
  obtain ⟨leds, blink, rfl⟩ := h
  obtain ⟨leds', blink', rfl⟩ := h'
  exact ⟨leds', blink', rfl⟩

theorem samePanel_setLed (led on : ℕ) (b : Bathroom) : b.SamePanel (b.setLed led on) := by
  unfold setLed
  split
  · exact ⟨_, b.blink, rfl⟩
  · exact ⟨b.pads.leds, b.blink, rfl⟩

theorem samePanel_blinkLed (number speed : ℕ) (b : Bathroom) :
    b.SamePanel (b.blinkLed number speed) := by
  unfold blinkLed
  split
  · dsimp only
    split
    · refine SamePanel.trans ?_ (samePanel_setLed number speed _)
      exact ⟨b.pads.leds, _, rfl⟩
    · exact ⟨b.pads.leds, _, rfl⟩
  · exact ⟨b.pads.leds, b.blink, rfl⟩

theorem samePanel_showMode (b : Bathroom) : b.SamePanel b.showMode := by
  unfold showMode
  split
  · exact (((samePanel_setLed _ _ _).trans (samePanel_setLed _ _ _)).trans
      (samePanel_setLed _ _ _)).trans (samePanel_blinkLed _ _ _)
  · exact (((samePanel_setLed _ _ _).trans (samePanel_setLed _ _ _)).trans
      (samePanel_setLed _ _ _)).trans (samePanel_blinkLed _ _ _)
  · exact ((samePanel_setLed _ _ _).trans (samePanel_blinkLed _ _ _)).trans
      (samePanel_setLed _ _ _)
  · exact (((samePanel_setLed _ _ _).trans (samePanel_blinkLed _ _ _)).trans
      (samePanel_setLed _ _ _)).trans (samePanel_setLed _ _ _)

/-! ## The blinking -/

theorem blinkTick_steady (hspeed : b.blink.speed = 0) : b.blinkTick = b := if_neg (not_not.mpr hspeed)

/-- The blinking LED changes with every 70th fast tick. -/
theorem blinkTick_eq (h : b.BlinkOk) (hspeed : b.blink.speed ≠ 0) :
    b.blinkTick = if b.blink.ticks + 1 < openInUseSpeed then
        { b with blink := { b.blink with ticks := b.blink.ticks + 1 } }
      else { b with
        blink := { b.blink with ticks := 0, state := !b.blink.state }
        pads := { b.pads with leds := Function.update b.pads.leds ledYellow (!b.blink.state) } } := by
  obtain ⟨h70, hyellow, -⟩ := h.speed hspeed
  have hlt := h.ticks_lt
  have hbyte : (b.blink.ticks + 1) % 256 = b.blink.ticks + 1 :=
    Nat.mod_eq_of_lt (by unfold openInUseSpeed at hlt; omega)
  unfold blinkTick
  rw [if_pos hspeed]
  dsimp only
  rw [hbyte, h70]
  by_cases hnext : b.blink.ticks + 1 < openInUseSpeed
  · rw [if_neg (by omega), if_pos hnext]
  · rw [if_pos (by omega), if_neg hnext]
    simp only [setLed, hyellow]
    rw [if_pos (by decide)]
    cases b.blink.state <;> rfl

theorem blinkOk_blinkTick (h : b.BlinkOk) : b.blinkTick.BlinkOk := by
  by_cases hspeed : b.blink.speed = 0
  · rwa [blinkTick_steady hspeed]
  · have hsame := h.speed hspeed
    rw [blinkTick_eq h hspeed]
    split
    · next hnext => exact ⟨hnext, fun _ => hsame⟩
    · refine ⟨Nat.zero_lt_succ _, fun _ => ⟨hsame.1, hsame.2.1, ?_⟩⟩
      change Function.update b.pads.leds ledYellow (!b.blink.state) ledYellow = !b.blink.state
      rw [Function.update_self]

theorem panelShows_blinkTick (h : b.BlinkOk) (hshows : b.PanelShows) :
    b.blinkTick.PanelShows := by
  by_cases hspeed : b.blink.speed = 0
  · rwa [blinkTick_steady hspeed]
  · have hmode : b.occupancy.state = .openInUse := by
      by_contra hne
      exact hspeed (hshows.steady hne).1
    rw [blinkTick_eq h hspeed]
    split
    · exact ⟨hshows.green, hshows.red, hshows.steady, hshows.blinks⟩
    · have hother : ∀ led ≠ ledYellow,
          Function.update b.pads.leds ledYellow (!b.blink.state) led = b.pads.leds led :=
        fun led hled => Function.update_of_ne hled _ _
      refine ⟨?_, ?_, fun hne => absurd hmode hne, hshows.blinks⟩
      · exact (hother ledGreen (by decide)).trans hshows.green
      · exact (hother ledRed (by decide)).trans hshows.red

/-! ## Fan, light and status -/

/-- The pad of the fan is on while it runs. -/
def FanShows (b : Bathroom) : Prop := b.pads.fan = decide (b.fan.fanRunning ≠ 0)

theorem fanControlTick_eq (clock : TickClock) (input : BathroomInput) (h : b.FanShows) :
    ∃ fan : Fan, b.fanControlTick clock input =
      { b with
        fan := fan
        pads := { b.pads with fan := decide (fan.fanRunning ≠ 0) }
        status := { b.status with fanRunning := decide (fan.fanRunning ≠ 0) } } := by
  unfold FanShows at h
  refine ⟨(b.fanControlTick clock input).fan, ?_⟩
  obtain ⟨_, _, _, _, _, _, _, _, _, _, _, _, _, ⟨_, _, _, pad⟩, _, _⟩ := b
  unfold fanControlTick
  dsimp only
  split_ifs <;> simp_all

/-- The light is for a person inside: bright, or soft in the dark. -/
theorem lightTick_eq (b : Bathroom) :
    let bright := b.status.personInside && (b.bright ^^ b.brightnessSwitch.pressed)
    b.lightTick = { b with
      bright := bright
      brightnessSwitch := { b.brightnessSwitch with pressed := false }
      pads := { b.pads with
        brightLight := bright
        softLight := b.status.personInside && (bright || decide (b.status.brightness = 0)) } } := by
  obtain ⟨_, _, _, _, _, _, _, ⟨pressed, _⟩, bright, _, _, _, _, _, ⟨brightness, _, inside, _, _⟩,
    _⟩ := b
  by_cases hdark : brightness = 0 <;> cases pressed <;> cases inside <;> cases bright <;>
    simp [lightTick, setLight, hdark]

/-- The mode is shown, and the status has it. -/
theorem occupancyIndicatorTick_spec (clock : TickClock) (h : b.BlinkOk) :
    let b' := b.occupancyIndicatorTick clock
    (b'.BlinkOk ∧ b'.PanelShows) ∧ (b'.fan = b.fan ∧ b'.pads.fan = b.pads.fan) ∧
      b'.status.personInside = decide (b'.occupancy.state ≠ .empty) ∧
      b'.status.privateMode = decide (b'.occupancy.state = .privateMode) := by
  intro b'
  obtain ⟨b₂, hb₂⟩ : ∃ b₂, b₂ = { b with
      occupancy := b.occupancy.next b.doorClosed b.occupancySwitch.pressed
        (b.motionSensorActiveAgo clock) (b.doorOpenAgo clock) clock.press clock.check
      occupancySwitch := { b.occupancySwitch with pressed := false } } := ⟨_, rfl⟩
  have hb' : b' = { b₂.showMode with status := { b₂.showMode.status with
      privateMode := decide (b₂.occupancy.state = .privateMode)
      personInside := decide (b₂.occupancy.state ≠ .empty)
      doorOpen := !b₂.showMode.doorClosed } } := by
    rw [hb₂]
    rfl
  have hblink₂ : b₂.BlinkOk := by
    rw [hb₂]
    exact ⟨h.ticks_lt, h.speed⟩
  obtain ⟨hblink, hpanel⟩ := showMode_spec hblink₂
  obtain ⟨leds, blink, hshow⟩ := samePanel_showMode b₂
  have hoccupancy : b₂.showMode.occupancy = b₂.occupancy := by rw [hshow]; rfl
  have hfan : b₂.showMode.fan = b.fan ∧ b₂.showMode.pads.fan = b.pads.fan := by
    rw [hshow, hb₂]
    exact ⟨rfl, rfl⟩
  rw [hb']
  refine ⟨⟨⟨hblink.ticks_lt, hblink.speed⟩, ⟨hpanel.green, hpanel.red, hpanel.steady,
    hpanel.blinks⟩⟩, hfan, ?_, ?_⟩
  · change decide _ = decide (b₂.showMode.occupancy.state ≠ .empty)
    rw [hoccupancy]
  · change decide _ = decide (b₂.showMode.occupancy.state = .privateMode)
    rw [hoccupancy]

/-- What the node puts out belongs together: panel, light, fan, and the status that was sent. -/
structure OutputsShow (b : Bathroom) : Prop where
  panel : b.PanelShows
  fan : b.pads.fan = b.status.fanRunning
  brightLight : b.pads.brightLight = b.bright
  softLight : b.pads.softLight =
    (b.status.personInside && (b.bright || decide (b.status.brightness = 0)))
  bright : b.bright → b.status.personInside
  personInside : b.status.personInside = decide (b.occupancy.state ≠ .empty)
  privateMode : b.status.privateMode = decide (b.occupancy.state = .privateMode)
  sent : b.sent.getLast? = some b.status

/-- **A tick** makes the outputs show the mode. -/
theorem appTick_spec (clock : TickClock) (input : BathroomInput) (hblink : b.BlinkOk)
    (hfan : b.FanShows) :
    (b.appTick clock input).BlinkOk ∧ (b.appTick clock input).FanShows ∧
      (b.appTick clock input).OutputsShow := by
  obtain ⟨b₁, hb₁⟩ : ∃ b₁, b₁ = (b.readMotionSensor clock input.motion).readLdr clock input.adc :=
    ⟨_, rfl⟩
  have hsame : b₁.pads = b.pads ∧ b₁.blink = b.blink ∧ b₁.fan = b.fan := by
    rw [hb₁]
    unfold readLdr readMotionSensor
    dsimp only
    split <;> exact ⟨rfl, rfl, rfl⟩
  have hblink₁ : b₁.BlinkOk := by
    refine ⟨hsame.2.1 ▸ hblink.ticks_lt, fun hspeed => ?_⟩
    rw [hsame.1, hsame.2.1] at *
    exact hblink.speed hspeed
  obtain ⟨⟨hblink₂, hpanel₂⟩, hfan₂, hinside, hprivate⟩ := occupancyIndicatorTick_spec clock hblink₁
  obtain ⟨b₂, hb₂⟩ : ∃ b₂, b₂ = b₁.occupancyIndicatorTick clock := ⟨_, rfl⟩
  rw [← hb₂] at hblink₂ hpanel₂ hfan₂ hinside hprivate
  have hfanShows : b₂.FanShows := by
    unfold FanShows
    rw [hfan₂.1, hfan₂.2, hsame.1, hsame.2.2]
    exact hfan
  obtain ⟨fan, hb₃⟩ := fanControlTick_eq clock input hfanShows
  have htick : b.appTick clock input =
      (b₂.fanControlTick clock input).lightTick.bathroomStatusBroadcast := by
    rw [hb₂, hb₁]
    rfl
  rw [htick, hb₃, lightTick_eq]
  refine ⟨⟨hblink₂.ticks_lt, hblink₂.speed⟩, rfl, ?_⟩
  refine ⟨⟨hpanel₂.green, hpanel₂.red, hpanel₂.steady, hpanel₂.blinks⟩, rfl, rfl, rfl, ?_,
    hinside, hprivate, List.getLast?_concat⟩
  intro hbright
  exact (Bool.and_eq_true_iff.mp hbright).1

/-! ## A fast tick -/

theorem samePanel_blinkTick (b : Bathroom) : b.SamePanel b.blinkTick := by
  unfold blinkTick
  split
  · dsimp only
    split
    · obtain ⟨leds, blink, hset⟩ := samePanel_setLed b.blink.ledNr
        (if !b.blink.state then 1 else 0)
        { b with blink := { b.blink with
          ticks := (b.blink.ticks + 1) % 256, state := !b.blink.state } }
      rw [hset]
      exact ⟨leds, _, rfl⟩
    · exact ⟨b.pads.leds, _, rfl⟩
  · exact ⟨b.pads.leds, b.blink, rfl⟩

/-- `readButtons` leaves the outputs alone, and what they show. -/
theorem readButtons_same (now : ℕ) (door occupancy brightness : Bool) (b : Bathroom) :
    let b' := b.readButtons now door occupancy brightness
    (b'.pads = b.pads ∧ b'.blink = b.blink ∧ b'.fan = b.fan) ∧ b'.status = b.status ∧
      b'.bright = b.bright ∧ b'.occupancy = b.occupancy ∧ b'.sent = b.sent := by
  intro b'
  unfold b' readButtons sampleDoor
  simp only
  split
  · split <;> exact ⟨⟨rfl, rfl, rfl⟩, rfl, rfl, rfl, rfl⟩
  · exact ⟨⟨rfl, rfl, rfl⟩, rfl, rfl, rfl, rfl⟩

/-- A fast tick while the LED blinks: the 70th one changes it. -/
theorem blink_appFastTick (now : ℕ) (door occupancy brightness : Bool) (h : b.BlinkOk)
    (hspeed : b.blink.speed ≠ 0) :
    let b' := b.appFastTick now door occupancy brightness
    b'.blink.speed ≠ 0 ∧
      if b.blink.ticks + 1 < openInUseSpeed then
        b'.blink.ticks = b.blink.ticks + 1 ∧ b'.pads.leds ledYellow = b.pads.leds ledYellow
      else b'.blink.ticks = 0 ∧ b'.pads.leds ledYellow = !b.pads.leds ledYellow := by
  intro b'
  obtain ⟨⟨hpads, hblink, -⟩, -⟩ := readButtons_same now door occupancy brightness b
  obtain ⟨b₁, hb₁⟩ : ∃ b₁, b₁ = b.readButtons now door occupancy brightness := ⟨_, rfl⟩
  rw [← hb₁] at hpads hblink
  have hblink₁ : b₁.BlinkOk := by
    refine ⟨hblink ▸ h.ticks_lt, fun hspeed => ?_⟩
    rw [hpads, hblink] at *
    exact h.speed hspeed
  have htick : b' = b₁.blinkTick := by rw [hb₁]; rfl
  rw [htick, blinkTick_eq hblink₁ (hblink ▸ hspeed), hblink]
  split
  · exact ⟨hspeed, rfl, by rw [hpads]⟩
  · refine ⟨hspeed, rfl, ?_⟩
    rw [(h.speed hspeed).2.2]
    change Function.update b₁.pads.leds ledYellow (!b.blink.state) ledYellow = !b.blink.state
    rw [Function.update_self]

/-- A fast tick samples the switches, which no output depends on, and lets the LED blink. -/
theorem appFastTick_spec (now : ℕ) (door occupancy brightness : Bool) (hblink : b.BlinkOk)
    (hfan : b.FanShows) :
    (b.appFastTick now door occupancy brightness).BlinkOk ∧
      (b.appFastTick now door occupancy brightness).FanShows ∧
      (b.OutputsShow → (b.appFastTick now door occupancy brightness).OutputsShow) := by
  obtain ⟨⟨hpads, hblinkSame, hfanSame⟩, hstatus, hbright, hoccupancy, hsent⟩ :=
    readButtons_same now door occupancy brightness b
  obtain ⟨b₁, hb₁⟩ : ∃ b₁, b₁ = b.readButtons now door occupancy brightness := ⟨_, rfl⟩
  rw [← hb₁] at hpads hblinkSame hfanSame hstatus hbright hoccupancy hsent
  have hblink₁ : b₁.BlinkOk := by
    refine ⟨hblinkSame ▸ hblink.ticks_lt, fun hspeed => ?_⟩
    rw [hpads, hblinkSame] at *
    exact hblink.speed hspeed
  obtain ⟨leds, blink, hpanel⟩ := samePanel_blinkTick b₁
  have htick : b.appFastTick now door occupancy brightness = b₁.blinkTick := by rw [hb₁]; rfl
  rw [htick]
  refine ⟨blinkOk_blinkTick hblink₁, ?_, fun hshows => ?_⟩
  · rw [hpanel]
    change b₁.pads.fan = decide (b₁.fan.fanRunning ≠ 0)
    rw [hpads, hfanSame]
    exact hfan
  · have hpanel₁ : b₁.PanelShows := by
      have h := hshows.panel
      constructor
      · rw [hpads, hoccupancy]; exact h.green
      · rw [hpads, hoccupancy]; exact h.red
      · rw [hpads, hoccupancy, hblinkSame]; exact h.steady
      · rw [hoccupancy, hblinkSame]; exact h.blinks
    have hpanel₂ := panelShows_blinkTick hblink₁ hpanel₁
    rw [hpanel] at hpanel₂ ⊢
    refine ⟨hpanel₂, ?_, ?_, ?_, ?_, ?_, ?_, ?_⟩
    · change b₁.pads.fan = b₁.status.fanRunning
      rw [hpads, hstatus]; exact hshows.fan
    · change b₁.pads.brightLight = b₁.bright
      rw [hpads, hbright]; exact hshows.brightLight
    · change b₁.pads.softLight =
        (b₁.status.personInside && (b₁.bright || decide (b₁.status.brightness = 0)))
      rw [hpads, hbright, hstatus]; exact hshows.softLight
    · change b₁.bright → b₁.status.personInside
      rw [hbright, hstatus]; exact hshows.bright
    · change b₁.status.personInside = decide (b₁.occupancy.state ≠ .empty)
      rw [hstatus, hoccupancy]; exact hshows.personInside
    · change b₁.status.privateMode = decide (b₁.occupancy.state = .privateMode)
      rw [hstatus, hoccupancy]; exact hshows.privateMode
    · change b₁.sent.getLast? = some b₁.status
      rw [hsent, hstatus]; exact hshows.sent

end Bathroom

/-! ## Runs -/

namespace BathroomRun

/-- From the first tick on the outputs show the mode. -/
structure OutputsOk (s : BathroomRun) : Prop where
  blink : s.node.BlinkOk
  fan : s.node.FanShows
  shows : s.ticks ≠ [] → s.node.OutputsShow

theorem outputsOk_start (cfg : BathroomConfig) : OutputsOk (start cfg) where
  blink := ⟨Nat.zero_lt_succ _, fun h => absurd rfl h⟩
  fan := rfl
  shows := fun h => absurd rfl h

theorem outputsOk_step : Machine.Keeps step OutputsOk := by
  intro s e h
  cases e with
  | fastTick delay door occupancy brightness =>
    obtain ⟨hblink, hfan, hshows⟩ := Bathroom.appFastTick_spec (systemTime (s.now + delay)) door
      occupancy brightness h.blink h.fan
    exact ⟨hblink, hfan, fun hticks => hshows (h.shows hticks)⟩
  | tick t =>
    obtain ⟨hblink, hfan, hshows⟩ := Bathroom.appTick_spec
      ((t.delays.map (s.now + ·)).map systemTime) t.input h.blink h.fan
    exact ⟨hblink, hfan, fun _ => hshows⟩
  | configUpdate cfg =>
    refine ⟨⟨h.blink.ticks_lt, h.blink.speed⟩, h.fan, fun hticks => ?_⟩
    have hshows := h.shows hticks
    exact ⟨⟨hshows.panel.green, hshows.panel.red, hshows.panel.steady, hshows.panel.blinks⟩,
      hshows.fan, hshows.brightLight, hshows.softLight, hshows.bright, hshows.personInside,
      hshows.privateMode, hshows.sent⟩

/-- The event of a fast tick with its delay and the levels of the pads. -/
def fastTickEvent (f : ℕ × Bool × Bool × Bool) : BathroomEvent :=
  .fastTick f.1 f.2.1 f.2.2.1 f.2.2.2

/-- The yellow LED, after fast ticks. -/
theorem leds_blink {s : BathroomRun} (h : s.OutputsOk) (hspeed : s.node.blink.speed ≠ 0)
    (fs : List (ℕ × Bool × Bool × Bool)) :
    (Machine.run step s (fs.map fastTickEvent)).node.pads.leds ledYellow =
      (s.node.pads.leds ledYellow ^^
        decide ((s.node.blink.ticks + fs.length) / Bathroom.openInUseSpeed % 2 = 1)) := by
  induction fs generalizing s with
  | nil =>
    have hzero : s.node.blink.ticks / Bathroom.openInUseSpeed = 0 :=
      Nat.div_eq_of_lt h.blink.ticks_lt
    simp [hzero]
  | cons f fs ih =>
    obtain ⟨s', hs'⟩ : ∃ s', s' = step s (fastTickEvent f) := ⟨_, rfl⟩
    have hok : s'.OutputsOk := hs' ▸ outputsOk_step s _ h
    obtain ⟨hspeed', hstep⟩ : s'.node.blink.speed ≠ 0 ∧
        if s.node.blink.ticks + 1 < Bathroom.openInUseSpeed then
          s'.node.blink.ticks = s.node.blink.ticks + 1 ∧
            s'.node.pads.leds ledYellow = s.node.pads.leds ledYellow
        else s'.node.blink.ticks = 0 ∧
          s'.node.pads.leds ledYellow = !s.node.pads.leds ledYellow := by
      rw [hs']
      exact Bathroom.blink_appFastTick _ _ _ _ h.blink hspeed
    have hlt := h.blink.ticks_lt
    rw [List.map_cons, Machine.run_cons, ← hs', ih hok hspeed', List.length_cons]
    unfold Bathroom.openInUseSpeed at *
    split at hstep
    · rw [hstep.1, hstep.2, Nat.add_right_comm, Nat.add_assoc]
    · -- the half period ends
      have hlast : s.node.blink.ticks + (fs.length + 1) = fs.length + 70 := by omega
      rw [hstep.1, hstep.2, hlast, Nat.zero_add, Nat.add_div_right _ (by decide)]
      rcases Nat.mod_two_eq_zero_or_one (fs.length / 70) with hparity | hparity
      · have hnext : (fs.length / 70).succ % 2 = 1 := by omega
        simp [hparity, hnext]
      · have hnext : (fs.length / 70).succ % 2 = 0 := by omega
        simp [hparity, hnext]

/-- **The outputs.** In every run, from the first tick on: LEDs, light, fan and the last status show
the mode and each other. While the room is in use with an open door, the yellow LED changes every 70
fast ticks. -/
theorem bathroom_outputs (cfg : BathroomConfig) (es : List BathroomEvent)
    (hticks : (Machine.run step (start cfg) es).ticks ≠ []) :
    let s := Machine.run step (start cfg) es
    s.node.OutputsShow ∧ (s.node.occupancy.state = .openInUse →
      ∀ fs : List (ℕ × Bool × Bool × Bool),
        (Machine.run step s (fs.map fastTickEvent)).node.pads.leds ledYellow =
          (s.node.pads.leds ledYellow ^^ decide ((s.node.blink.ticks + fs.length) / 70 % 2 = 1))) := by
  intro s
  have hok : s.OutputsOk := outputsOk_step.run (outputsOk_start cfg) es
  have hshows := hok.shows hticks
  refine ⟨hshows, fun hmode fs => leds_blink hok ?_ fs⟩
  rw [hshows.panel.blinks hmode]
  decide

/-- A room that someone enters. -/
theorem bathroom_outputs_enter :
    let s := Machine.run step (start ⟨0, 0⟩) [.tick (secondTick true)]
    s.node.OutputsShow ∧ s.node.occupancy.state = .openInUse :=
  ⟨(bathroom_outputs ⟨0, 0⟩ [.tick (secondTick true)] (by decide)).1, by decide⟩

end BathroomRun

end HouseBus
