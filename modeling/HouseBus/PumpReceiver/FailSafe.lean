import HouseBus.PumpReceiver
import HouseBus.Lib.Machine

/-!
# The fail-safe of the pump receiver, in real time

A tick that runs 3 s or more after the last message, or when this reported an error or a full tank,
is to leave the node waiting, with both outputs off. The overrides do this, up to two defects:

- `pump_receiver_is_up_to_date` compares two readings of the 32-bit counter by their absolute
  values. Behind a wrap stale data pass for new ones (`isUpToDate_of_stale`).
- `CONFIG_PUMP_RECEIVER_PIN` may name the pad of the refill. Then the output of the pump is on in
  `STATE_REFILL_ONLY`.

The runs that keep the fail-safe are those in which no tick shows one of them
(`pump_failSafe_iff`).
-/

namespace HouseBus

namespace PumpReceiver

/-- The node waits, with both outputs off. -/
def Off (s : PumpReceiver) : Prop :=
  s.state = .wait ∧ s.pads s.pin = false ∧ s.pads refillPad = false

/-- The outputs are on in their states only. -/
def OutputsInState (s : PumpReceiver) : Prop :=
  (s.pads s.pin = true → s.state = .pump ∨ s.state = .refillPump) ∧
    (s.pads refillPad = true → s.state = .refillOnly ∨ s.state = .refillPump)

instance (s : PumpReceiver) : Decidable s.Off := inferInstanceAs (Decidable (_ ∧ _))

variable {level : UInt8} {clock : PumpClock} {s : PumpReceiver}

/-! ## The outputs -/

/-- What `setOutputs` does to the pads: the refill comes behind the pump. -/
theorem pads_setOutputs (clock : PumpClock) (s : PumpReceiver) :
    (setOutputs clock s).pads =
      Function.update (Function.update s.pads s.pin (s.state = .pump ∨ s.state = .refillPump))
        refillPad (s.state = .refillOnly ∨ s.state = .refillPump) := by
  unfold setOutputs
  split <;> rename_i hstate <;> rw [hstate] <;> rfl

theorem setOutputs_frame (clock : PumpClock) (s : PumpReceiver) :
    (setOutputs clock s).state = s.state ∧ (setOutputs clock s).pin = s.pin ∧
      (setOutputs clock s).targetHasError = s.targetHasError ∧
      (setOutputs clock s).targetIsFull = s.targetIsFull ∧
      (setOutputs clock s).targetDataUpdateTime = s.targetDataUpdateTime := by
  unfold setOutputs
  split <;> exact ⟨rfl, rfl, rfl, rfl, rfl⟩

/-- The state that a tick sets. -/
def nextState (level : UInt8) (clock : PumpClock) (s : PumpReceiver) : PumpState :=
  if s.overridden clock then .wait else ((s.filter level).transition clock).1

theorem tick_frame (level : UInt8) (clock : PumpClock) (s : PumpReceiver) :
    (s.tick level clock).state = s.nextState level clock ∧ (s.tick level clock).pin = s.pin ∧
      (s.tick level clock).targetHasError = s.targetHasError ∧
      (s.tick level clock).targetIsFull = s.targetIsFull ∧
      (s.tick level clock).targetDataUpdateTime = s.targetDataUpdateTime :=
  setOutputs_frame _ _

theorem pads_tick (level : UInt8) (clock : PumpClock) (s : PumpReceiver) :
    (s.tick level clock).pads =
      Function.update
        (Function.update s.pads s.pin
          (s.nextState level clock = .pump ∨ s.nextState level clock = .refillPump))
        refillPad
          (s.nextState level clock = .refillOnly ∨ s.nextState level clock = .refillPump) :=
  pads_setOutputs _ _

theorem off_tick_iff : (s.tick level clock).Off ↔ s.nextState level clock = .wait := by
  obtain ⟨hstate, hpin, -⟩ := tick_frame level clock s
  unfold Off
  rw [hstate, hpin, pads_tick]
  refine ⟨fun h => h.1, fun h => ⟨h, ?_, ?_⟩⟩
  · rw [h]
    by_cases hpad : s.pin = refillPad
    · rw [hpad, Function.update_self]
      rfl
    · rw [Function.update_of_ne hpad, Function.update_self]
      rfl
  · rw [h, Function.update_self]
    rfl

/-- Only a shared pad is on in a wrong state: as that of the pump, in `STATE_REFILL_ONLY`. -/
theorem outputsInState_tick_iff :
    (s.tick level clock).OutputsInState ↔
      (s.pin = refillPad → s.nextState level clock ≠ .refillOnly) := by
  obtain ⟨hstate, hpin, -⟩ := tick_frame level clock s
  unfold OutputsInState
  rw [hstate, hpin, pads_tick, Function.update_self]
  by_cases hpad : s.pin = refillPad
  · rw [hpad, Function.update_self]
    cases s.nextState level clock <;> decide
  · rw [Function.update_of_ne hpad, Function.update_self]
    refine iff_of_true ⟨of_decide_eq_true, of_decide_eq_true⟩ fun h => absurd h hpad

/-- `pump_receiver_init` turns nothing on. -/
theorem init_frame (configPin configTargetNode : ℕ) (s : PumpReceiver) :
    (s.init configPin configTargetNode).targetIsFull = s.targetIsFull ∧
      ∀ x, (s.init configPin configTargetNode).pads x = true → s.pads x = true := by
  unfold init
  dsimp only
  split_ifs
  · exact ⟨rfl, fun _ hon => hon⟩
  · exact ⟨rfl, fun _ hon => hon⟩
  · refine ⟨rfl, fun x hon => ?_⟩
    dsimp only at hon
    by_cases hx : x = UInt8.ofNat configPin - 1
    · rw [hx, Function.update_self] at hon
      cases hon
    · rwa [Function.update_of_ne hx] at hon

/-! ## What leads to a state -/

/-- The fill level behind the filter. -/
def nextFillLevel (level : UInt8) (s : PumpReceiver) : ℕ :=
  (3 * (if s.filteredFillLevel = 0 then level else s.filteredFillLevel).toNat + level.toNat) / 4

/-- The source counts as empty, by the hysteresis of the filtered level. -/
def SourceEmptyAt (level : UInt8) (s : PumpReceiver) : Prop :=
  if s.sourceIsEmpty then s.nextFillLevel level ≤ 210 else s.nextFillLevel level < 205

/-- The node waits behind the tick without an override: the target is not empty, or the source is
while the pump is on. -/
def WaitsAnyway (level : UInt8) (s : PumpReceiver) : Prop :=
  s.state = .wait ∧ s.targetIsEmpty = false ∨ s.state = .pump ∧ s.SourceEmptyAt level

/-- The difference of the level to the filtered one. -/
def variance (level : UInt8) (s : PumpReceiver) : ℕ :=
  let filled := (if s.filteredFillLevel = 0 then level else s.filteredFillLevel).toNat
  (filled - level.toNat) + (level.toNat - filled)

/-- The variance is more than 10 above its long-term value, both behind their filters. -/
def VarianceJumpsAt (level : UInt8) (s : PumpReceiver) : Prop :=
  (15 * s.longFilteredVariance.toNat + s.variance level) / 16 + 10 <
    (3 * s.filteredVariance.toNat + s.variance level) / 4

/-- The tick goes to `STATE_REFILL_ONLY`, or stays there: nothing overrides it, and the source does
not allow pumping. -/
def EntersRefillOnly (level : UInt8) (clock : PumpClock) (s : PumpReceiver) : Prop :=
  s.overridden clock = false ∧
    match s.state with
    | .wait =>
      s.targetIsEmpty = true ∧ (s.SourceEmptyAt level ∨ s.recentlyStopped clock.first = true)
    | .refillOnly =>
      s.refillOvertime clock.first = false ∧
        (s.SourceEmptyAt level ∨ s.recentlyStopped clock.second = true)
    | .refillPump =>
      s.refillOvertime clock.first = false ∧ (s.SourceEmptyAt level ∨ s.VarianceJumpsAt level)
    | .pump | .error => False

theorem sourceIsEmpty_filter :
    (s.filter level).sourceIsEmpty = true ↔ s.SourceEmptyAt level := by
  unfold filter SourceEmptyAt nextFillLevel iirLength
  dsimp only
  generalize (3 * (if s.filteredFillLevel = 0 then level else s.filteredFillLevel).toNat +
    level.toNat) / 4 = filled
  cases s.sourceIsEmpty with
  | true => simp
  | false => simp

theorem toNat_variance (level filled : UInt8) :
    (if level < filled then filled - level else level - filled).toNat =
      filled.toNat - level.toNat + (level.toNat - filled.toNat) := by
  split
  · rename_i hlt
    have := UInt8.lt_iff_toNat_lt.mp hlt
    rw [UInt8.toNat_sub_of_le _ _ (UInt8.le_of_lt hlt)]
    omega
  · rename_i hle
    have := UInt8.le_iff_toNat_le.mp (UInt8.not_lt.mp hle)
    rw [UInt8.toNat_sub_of_le _ _ (UInt8.not_lt.mp hle)]
    omega

/-- One of the two low pass filters of the variance. -/
theorem toNat_lowPass (n : ℕ) (x v : UInt8) :
    (UInt8.ofNat ((n * x.toNat + v.toNat) / (n + 1))).toNat =
      (n * x.toNat + v.toNat) / (n + 1) := by
  have hx := x.toNat_lt
  have hv := v.toNat_lt
  apply UInt8.toNat_ofNat_of_lt'
  rw [Nat.div_lt_iff_lt_mul n.succ_pos]
  show _ < 256 * (n + 1)
  have hmul : n * x.toNat ≤ n * 255 := Nat.mul_le_mul_left n (by omega)
  omega

theorem varianceJumps_filter :
    (s.filter level).varianceJumps = true ↔ s.VarianceJumpsAt level := by
  have hshort : (s.filter level).filteredVariance.toNat =
      (3 * s.filteredVariance.toNat + s.variance level) / 4 := by
    unfold variance
    dsimp only
    rw [← toNat_variance]
    exact toNat_lowPass 3 _ _
  have hlong : (s.filter level).longFilteredVariance.toNat =
      (15 * s.longFilteredVariance.toNat + s.variance level) / 16 := by
    unfold variance
    dsimp only
    rw [← toNat_variance]
    exact toNat_lowPass 15 _ _
  unfold varianceJumps VarianceJumpsAt
  rw [decide_eq_true_iff, UInt8.lt_iff_toNat_lt, hshort, hlong]
  omega

/-- The switch over the states waits behind an empty source, or with nothing to do. -/
theorem transition_eq_wait_iff :
    (s.transition clock).1 = .wait ↔
      s.state = .wait ∧ s.targetIsEmpty = false ∨
        s.state = .pump ∧ (s.sourceIsEmpty = true ∨ s.targetIsFull = true) := by
  unfold transition
  cases s.state with
  | wait =>
    dsimp only
    cases s.targetIsEmpty with
    | true => cases s.sourceIsEmpty <;> cases s.recentlyStopped clock.first <;> simp
    | false => simp
  | pump =>
    dsimp only
    cases s.sourceIsEmpty with
    | true => simp
    | false => cases s.targetIsFull <;> cases s.pumpOvertime clock.first <;> simp
  | refillOnly | refillPump =>
    dsimp only
    split_ifs <;> simp
  | error => simp

/-- Without an override, the node waits behind the tick in these cases only. -/
theorem transition_filter_eq_wait_iff (hfull : s.targetIsFull = false) :
    ((s.filter level).transition clock).1 = .wait ↔ s.WaitsAnyway level := by
  rw [transition_eq_wait_iff, sourceIsEmpty_filter]
  show _ ∨ _ ∧ (_ ∨ s.targetIsFull = true) ↔ _
  rw [hfull, or_iff_left Bool.false_ne_true]
  rfl

/-- The switch over the states refills without the pump while the source does not allow it. -/
theorem transition_eq_refillOnly_iff :
    (s.transition clock).1 = .refillOnly ↔
      match s.state with
      | .wait =>
        s.targetIsEmpty = true ∧ (s.sourceIsEmpty = true ∨ s.recentlyStopped clock.first = true)
      | .refillOnly =>
        s.refillOvertime clock.first = false ∧
          (s.sourceIsEmpty = true ∨ s.recentlyStopped clock.second = true)
      | .refillPump =>
        s.refillOvertime clock.first = false ∧ (s.sourceIsEmpty = true ∨ s.varianceJumps = true)
      | .pump | .error => False := by
  unfold transition
  cases s.state with
  | wait =>
    dsimp only
    cases s.targetIsEmpty with
    | true => cases s.sourceIsEmpty <;> cases s.recentlyStopped clock.first <;> simp
    | false => simp
  | pump =>
    dsimp only
    split_ifs <;> simp
  | refillOnly =>
    dsimp only
    cases s.refillOvertime clock.first with
    | true => simp
    | false => cases s.sourceIsEmpty <;> cases s.recentlyStopped clock.second <;> simp
  | refillPump =>
    dsimp only
    cases s.refillOvertime clock.first with
    | true => simp
    | false => cases s.sourceIsEmpty <;> cases s.varianceJumps <;> simp
  | error => simp

theorem transition_filter_eq_refillOnly_iff (hnot : s.overridden clock = false) :
    ((s.filter level).transition clock).1 = .refillOnly ↔ s.EntersRefillOnly level clock := by
  unfold EntersRefillOnly
  rw [transition_eq_refillOnly_iff, sourceIsEmpty_filter, varianceJumps_filter,
    and_iff_right hnot]
  rfl

end PumpReceiver

/-! ## Runs -/

/-- The time up to each reading of a tick, from the event or the reading before it. -/
structure PumpDelays where
  first : ℕ
  second : ℕ
  upToDate : ℕ
  pumpOn : ℕ
  refillOn : ℕ

/-- What happens to the node: a tick with its fill level, or a transfer. -/
inductive PumpEvent
  | tick (level : UInt8) (delays : PumpDelays)
  | transfer (transfer : CanardRxTransfer) (uninitialised : Bool) (delay : ℕ)

/-- A message of the target node, and when it came. -/
structure PumpMessage where
  time : ℕ
  hasError : Bool
  isFull : Bool

/-- The node at real tick `now`, with the last message that it accepted. -/
structure PumpRun where
  node : PumpReceiver
  now : ℕ
  lastMessage : Option PumpMessage

namespace PumpRun

/-- Power-on, with the configuration of pin and target node. -/
def start (configPin configTargetNode : ℕ) : PumpRun :=
  ⟨PumpReceiver.start.init configPin configTargetNode, 0, none⟩

/-- When `pump_receiver_is_up_to_date` reads the time. -/
def checkedAt (delays : PumpDelays) (s : PumpRun) : ℕ :=
  s.now + delays.first + delays.second + delays.upToDate

/-- The readings of a tick. -/
def clock (delays : PumpDelays) (s : PumpRun) : PumpClock where
  first := systemTime (s.now + delays.first)
  second := systemTime (s.now + delays.first + delays.second)
  upToDate := systemTime (s.checkedAt delays)
  pumpOn := systemTime (s.checkedAt delays + delays.pumpOn)
  refillOn := systemTime (s.checkedAt delays + delays.pumpOn + delays.refillOn)

/-- The state after a tick. -/
def tick (level : UInt8) (delays : PumpDelays) (s : PumpRun) : PumpRun :=
  { s with
    node := s.node.tick level (s.clock delays)
    now := s.checkedAt delays + delays.pumpOn + delays.refillOn }

/-- The node accepts the transfer. -/
def accepts (transfer : CanardRxTransfer) (s : PumpRun) : Bool :=
  decide (1 ≤ transfer.payloadLen ∧ transfer.sourceNodeId = s.node.targetNode)

/-- The state after a transfer. -/
def receive (can : Canard) (transfer : CanardRxTransfer) (uninitialised : Bool) (delay : ℕ)
    (s : PumpRun) : PumpRun where
  node :=
    s.node.onConductionSensorData can transfer uninitialised (systemTime (s.now + delay))
  now := s.now + delay
  lastMessage :=
    if s.accepts transfer then
      some
        { time := s.now + delay
          hasError := can.decodeBool transfer.payload 0 false
          isFull := can.decodeBool transfer.payload 7 false }
    else s.lastMessage

/-- The state after an event. -/
def step (can : Canard) (s : PumpRun) : PumpEvent → PumpRun
  | .tick level delays => s.tick level delays
  | .transfer transfer uninitialised delay => s.receive can transfer uninitialised delay

/-- At real tick `now` the node is to wait: the last message is 3 s old or more, or it reported an
error or a full tank, or there was none. -/
def MustWait (now : ℕ) (s : PumpRun) : Prop :=
  ∀ m ∈ s.lastMessage,
    m.hasError = true ∨ m.isFull = true ∨ m.time + timeS2I upToDateSeconds ≤ now

/-- A tick leaves the node waiting where it must, and each event the outputs in their states. -/
def FailSafe (can : Canard) (s : PumpRun) : PumpEvent → Prop
  | .tick level delays =>
    (s.MustWait (s.checkedAt delays) → (s.tick level delays).node.Off) ∧
      (s.tick level delays).node.OutputsInState
  | .transfer transfer uninitialised delay =>
    (s.receive can transfer uninitialised delay).node.OutputsInState

/-- The last message reported neither, and is 3 s old or more; but the time since then, without
whole wraps, does not end before the next wrap. -/
def StaleAsNew (now : ℕ) (s : PumpRun) : Prop :=
  ∃ m ∈ s.lastMessage, m.hasError = false ∧ m.isFull = false ∧
    m.time + timeS2I upToDateSeconds ≤ now ∧
      systimeRange ≤ systemTime (m.time + timeS2I upToDateSeconds) +
        (now - (m.time + timeS2I upToDateSeconds)) % systimeRange

/-- No tick shows a defect: on stale data that pass for new ones it waits anyway, and it does not
refill alone where the pump has the pad of the refill. -/
def NoDefect (s : PumpRun) : PumpEvent → Prop
  | .tick level delays =>
    (s.StaleAsNew (s.checkedAt delays) → s.node.WaitsAnyway level) ∧
      (s.node.pin = refillPad → ¬ s.node.EntersRefillOnly level (s.clock delays))
  | .transfer _ _ _ => True

/-- The variables of the target node show the last message. -/
structure ReportOk (s : PumpRun) : Prop where
  reported : ∀ m ∈ s.lastMessage, s.node.targetHasError = m.hasError ∧
    s.node.targetIsFull = m.isFull ∧ s.node.targetDataUpdateTime = systemTime m.time
  unreported : s.lastMessage = none → s.node.targetIsFull = true
  outputs : s.node.OutputsInState

variable {can : Canard} {s : PumpRun}

theorem reportOk_start (configPin configTargetNode : ℕ) :
    ReportOk (start configPin configTargetNode) := by
  obtain ⟨hfull, hpads⟩ := PumpReceiver.init_frame configPin configTargetNode PumpReceiver.start
  refine ⟨fun m hm => absurd hm (Option.not_mem_none m), fun _ => hfull, ?_, ?_⟩
  · exact fun hon => absurd (hpads _ hon) Bool.false_ne_true
  · exact fun hon => absurd (hpads _ hon) Bool.false_ne_true

/-- A bit of the payload does not depend on the variable it is decoded to. -/
theorem decodeBool_eq (can : Canard) {payload : List UInt8} {offset : ℕ}
    (h : offset + 1 ≤ 8 * payload.length) (out out' : Bool) :
    can.decodeBool payload offset out = can.decodeBool payload offset out' := by
  obtain ⟨v, hv⟩ := Option.isSome_iff_exists.mp (can.decode_within payload offset 1 Nat.one_pos h)
  unfold Canard.decodeBool
  rw [hv]

theorem ReportOk.receive (h : ReportOk s) (transfer : CanardRxTransfer) (uninitialised : Bool)
    (delay : ℕ) : ReportOk (s.receive can transfer uninitialised delay) := by
  unfold PumpRun.receive PumpReceiver.onConductionSensorData accepts
  by_cases hlen : transfer.payloadLen < 1
  · rw [if_pos hlen, decide_eq_false (fun hacc => absurd hacc.1 (Nat.not_le.mpr hlen))]
    exact ⟨h.reported, h.unreported, h.outputs⟩
  · rw [if_neg hlen]
    by_cases hsource : transfer.sourceNodeId = s.node.targetNode
    · rw [if_neg (not_not.mpr hsource), decide_eq_true ⟨Nat.not_lt.mp hlen, hsource⟩]
      have hbits : 1 ≤ transfer.payload.length := Nat.not_lt.mp hlen
      refine ⟨?_, fun hnone => absurd hnone (Option.some_ne_none _), h.outputs⟩
      rintro m ⟨⟩
      exact ⟨decodeBool_eq can (by omega) _ _, decodeBool_eq can (by omega) _ _, rfl⟩
    · rw [if_pos hsource, decide_eq_false (fun hacc => hsource hacc.2)]
      exact ⟨h.reported, h.unreported, h.outputs⟩

/-- **The comparison on stale data**: they pass for new ones exactly if the time since the end of
the 3 s, without whole wraps, does not end before the next wrap. -/
theorem isUpToDate_of_stale {node : PumpReceiver} {time : ℕ} (now : ℕ)
    (hshown : node.targetDataUpdateTime = systemTime time)
    (hstale : time + timeS2I upToDateSeconds ≤ now) :
    node.isUpToDate (systemTime now) = true ↔
      systimeRange ≤ systemTime (time + timeS2I upToDateSeconds) +
        (now - (time + timeS2I upToDateSeconds)) % systimeRange := by
  have hdeadline : (systemTime time + timeS2I upToDateSeconds) % systimeRange =
      systemTime (time + timeS2I upToDateSeconds) :=
    Nat.mod_add_mod _ _ _
  have hrange : 0 < systimeRange := by decide
  have horder := Ticks.clock_le_clock_iff hrange hstale
  unfold PumpReceiver.isUpToDate
  rw [hshown, hdeadline, decide_eq_true_iff, ← Nat.not_le]
  exact (not_congr horder).trans Nat.not_lt

/-- Where the node must wait, the overrides do it up to stale data that pass for new ones. -/
theorem ReportOk.overridden_iff (h : ReportOk s) (delays : PumpDelays)
    (hwait : s.MustWait (s.checkedAt delays)) :
    s.node.overridden (s.clock delays) = false ↔ s.StaleAsNew (s.checkedAt delays) := by
  unfold PumpReceiver.overridden StaleAsNew
  cases hlast : s.lastMessage with
  | none =>
    rw [h.unreported hlast]
    simp
  | some m =>
    obtain ⟨herror, hfull, hshown⟩ := h.reported m hlast
    have hcases := hwait m hlast
    have hstale := isUpToDate_of_stale (s.checkedAt delays) hshown
    rw [herror, hfull]
    simp only [Option.mem_def, Option.some.injEq, exists_eq_left']
    cases hbad : m.hasError with
    | true => simp
    | false =>
      cases hfilled : m.isFull with
      | true => simp
      | false =>
        rw [hbad, hfilled] at hcases
        have hold : m.time + timeS2I upToDateSeconds ≤ s.checkedAt delays := by simpa using hcases
        simp only [Bool.false_or, Bool.not_eq_false']
        rw [true_and, true_and, and_iff_right hold]
        exact hstale hold

/-- Where the node must wait, a tick does it up to the same data. -/
theorem ReportOk.off_iff (h : ReportOk s) (level : UInt8) (delays : PumpDelays) :
    (s.MustWait (s.checkedAt delays) → (s.tick level delays).node.Off) ↔
      (s.StaleAsNew (s.checkedAt delays) → s.node.WaitsAnyway level) := by
  show (_ → (s.node.tick level (s.clock delays)).Off) ↔ _
  rw [PumpReceiver.off_tick_iff]
  unfold PumpReceiver.nextState
  constructor
  · rintro hoff ⟨m, hm, hnoError, hnotFull, hstale, hpasses⟩
    have hwait : s.MustWait (s.checkedAt delays) := by
      intro m' hm'
      obtain rfl := Option.mem_unique hm hm'
      exact .inr (.inr hstale)
    have hnot := (h.overridden_iff delays hwait).mpr ⟨m, hm, hnoError, hnotFull, hstale, hpasses⟩
    have hnext := hoff hwait
    rw [hnot, if_neg Bool.false_ne_true] at hnext
    exact (PumpReceiver.transition_filter_eq_wait_iff
      ((h.reported m hm).2.1.trans hnotFull)).mp hnext
  · intro hanyway hwait
    cases hover : s.node.overridden (s.clock delays) with
    | true => rfl
    | false =>
      have hpasses := (h.overridden_iff delays hwait).mp hover
      have hwaits := hanyway hpasses
      obtain ⟨m, hm, -, hnotFull, -⟩ := hpasses
      rw [if_neg Bool.false_ne_true]
      exact (PumpReceiver.transition_filter_eq_wait_iff
        ((h.reported m hm).2.1.trans hnotFull)).mpr hwaits

/-- **One event** keeps the fail-safe exactly if it shows no defect. -/
theorem ReportOk.failSafe_iff (can : Canard) (h : ReportOk s) (e : PumpEvent) :
    FailSafe can s e ↔ NoDefect s e := by
  cases e with
  | transfer transfer uninitialised delay =>
    exact iff_of_true (h.receive transfer uninitialised delay).outputs trivial
  | tick level delays =>
    have hrefill : s.node.nextState level (s.clock delays) = .refillOnly ↔
        s.node.EntersRefillOnly level (s.clock delays) := by
      unfold PumpReceiver.nextState
      cases hover : s.node.overridden (s.clock delays) with
      | true =>
        refine iff_of_false (fun hnext => ?_) fun henters => ?_
        · cases hnext
        · rw [henters.1] at hover
          cases hover
      | false =>
        rw [if_neg Bool.false_ne_true]
        exact PumpReceiver.transition_filter_eq_refillOnly_iff hover
    refine and_congr (h.off_iff level delays) ?_
    rw [← hrefill]
    exact PumpReceiver.outputsInState_tick_iff

theorem reportOk_step : Machine.KeepsIf (step can) NoDefect ReportOk := by
  intro s e hno h
  cases e with
  | transfer transfer uninitialised delay => exact h.receive transfer uninitialised delay
  | tick level delays =>
    obtain ⟨-, houtputs⟩ := (h.failSafe_iff can (.tick level delays)).mpr hno
    obtain ⟨-, -, herror, hfull, hshown⟩ :=
      PumpReceiver.tick_frame level (s.clock delays) s.node
    refine ⟨fun m hm => ?_, fun hnone => hfull.trans (h.unreported hnone), houtputs⟩
    obtain ⟨hmError, hmFull, hmShown⟩ := h.reported m hm
    exact ⟨herror.trans hmError, hfull.trans hmFull, hshown.trans hmShown⟩

/-- **When the fail-safe holds**: in the runs in which no tick takes stale data for new ones, unless
it waits anyway, and none refills alone with the pump on the pad of the refill. -/
theorem pump_failSafe_iff (can : Canard) (configPin configTargetNode : ℕ) (es : List PumpEvent) :
    Machine.Meets (step can) (FailSafe can) (start configPin configTargetNode) es ↔
      Machine.Meets (step can) NoDefect (start configPin configTargetNode) es :=
  reportOk_step.meets_congr (fun _ e h => h.failSafe_iff can e)
    (reportOk_start configPin configTargetNode) es

/-- Five seconds before the first wrap, node 5 reports an empty tank without an error. One tick
starts the pump. -/
def pumpBeforeWrap : List PumpEvent :=
  [.transfer ⟨5, 0, 0, [0], by decide, fun _ => 0⟩ false (systimeRange - timeS2I 5),
    .tick 255 ⟨0, 0, 0, 0, 0⟩, .tick 255 ⟨timeS2I 5, 0, 0, 0, 0⟩]

/-- The tick at the wrap leaves it on. -/
theorem not_pump_failSafe :
    ¬ ∀ (can : Canard) (configPin configTargetNode : ℕ) (es : List PumpEvent),
      Machine.Meets (step can) (FailSafe can) (start configPin configTargetNode) es := by
  intro h
  obtain ⟨-, -, ⟨hwaits, -⟩, -⟩ := h .uavcan 2 5 pumpBeforeWrap
  have hoff := hwaits (by rintro m ⟨⟩; exact .inr (.inr (by decide +kernel)))
  exact absurd hoff (by decide +kernel)

end PumpRun

end HouseBus
