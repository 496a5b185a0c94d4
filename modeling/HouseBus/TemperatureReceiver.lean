import HouseBus.Canard
import HouseBus.Lib.Machine
import HouseBus.Qfp
import HouseBus.System

/-!
# The remote temperature (`sw/modules/temperature_receiver.c`)

A node follows the temperature that another node broadcasts. `getTargetTemperature` gives the age
of the last message by the 32-bit counter; behind `MAX_VALID_AGE` it takes the message as invalid,
for this poll and all later ones. So the age is never one that wrapped, if a poll comes before the
counter can come back to a small difference (`temperature_age_true`).
-/

namespace HouseBus

/-- `HOMEAUTOMATION_ENVIRONMENT_MESSAGE_SIZE` -/
def environmentMessageSize : ℕ := 7

/-- `MAX_VALID_AGE` -/
def maxValidAge : ℕ := timeS2I 86400

/-- An age of -1 in `sysinterval_t`. -/
def invalidAge : ℕ := systimeRange - 1

/-- The static variables of the module. -/
structure TemperatureReceiver where
  targetNodeId : UInt8
  temperature : ℤ
  temperatureReceivedAt : ℕ
  temperatureValid : Bool

namespace TemperatureReceiver

/-- `setReceiverTarget` -/
def setReceiverTarget (nodeId : UInt8) (s : TemperatureReceiver) : TemperatureReceiver :=
  { s with targetNodeId := nodeId }

/-- The message is accepted. -/
def Accepts (transfer : CanardRxTransfer) (s : TemperatureReceiver) : Prop :=
  environmentMessageSize ≤ transfer.payloadLen ∧ transfer.sourceNodeId = s.targetNodeId

instance (transfer : CanardRxTransfer) (s : TemperatureReceiver) :
    Decidable (s.Accepts transfer) := inferInstanceAs (Decidable (_ ∧ _))

/-- The temperature of a message: 19 bits, read as unsigned to the 32-bit `temp`, and stored with 16
bits. `uninitialised` is what is in `temp` before. -/
def decodeTemperature (can : Canard) (uninitialised : ℕ) (transfer : CanardRxTransfer) : ℤ :=
  int16 (int32 ((can.decodeScalar transfer.payload 2 19).getD uninitialised))

/-- `on_environment_data` -/
def onEnvironmentData (can : Canard) (timestamp uninitialised : ℕ) (transfer : CanardRxTransfer)
    (s : TemperatureReceiver) : TemperatureReceiver :=
  if s.Accepts transfer then
    { s with
      temperature := decodeTemperature can uninitialised transfer
      temperatureReceivedAt := timestamp
      temperatureValid := true }
  else s

theorem onEnvironmentData_temperature {can : Canard} {transfer : CanardRxTransfer}
    {s : TemperatureReceiver} (timestamp uninitialised : ℕ) (h : s.Accepts transfer) :
    (s.onEnvironmentData can timestamp uninitialised transfer).temperature =
      decodeTemperature can uninitialised transfer := by
  unfold onEnvironmentData
  rw [if_pos h]

/-- `getTargetTemperature` when the system time is `now`: the temperature and the age, and the
state. -/
def getTargetTemperature (now : ℕ) (s : TemperatureReceiver) :
    (ℤ × ℕ) × TemperatureReceiver :=
  let age := timeElapsedSince now s.temperatureReceivedAt
  if maxValidAge < age ∨ s.temperatureValid = false then
    ((s.temperature, invalidAge), { s with temperatureValid := false })
  else ((s.temperature, age), s)

/-- The static variables at power-on. -/
def start : TemperatureReceiver := ⟨0, 0, 0, false⟩

end TemperatureReceiver

/-! ## Runs -/

/-- What happens to the receiver. A message has its timestamp `arrival` ticks after the event before
it, and its handler runs `delay` ticks later; a poll reads the clock `delay` ticks after the event
before it. -/
inductive ReceiverEvent
  | setReceiverTarget (nodeId : UInt8)
  | message (arrival delay uninitialised : ℕ) (transfer : CanardRxTransfer)
  | poll (delay : ℕ)

/-- The last accepted message: the tick of its timestamp, and its temperature. -/
structure AcceptedMessage where
  time : ℕ
  temperature : ℤ

/-- The receiver at real tick `now`, the last accepted message, and the tick of the last poll, or of
the message that was accepted behind it. -/
structure ReceiverRun where
  receiver : TemperatureReceiver
  now : ℕ
  accepted : Option AcceptedMessage
  lastContact : Option ℕ

namespace ReceiverRun

open TemperatureReceiver

/-- Power-on. -/
def start : ReceiverRun := ⟨.start, 0, none, none⟩

/-- The state after a message. -/
def message (can : Canard) (arrival delay uninitialised : ℕ) (transfer : CanardRxTransfer)
    (s : ReceiverRun) : ReceiverRun :=
  let time := s.now + arrival
  let accepts := s.receiver.Accepts transfer
  { receiver := s.receiver.onEnvironmentData can (systemTime time) uninitialised transfer
    now := time + delay
    accepted :=
      if accepts then some ⟨time, decodeTemperature can uninitialised transfer⟩ else s.accepted
    lastContact := if accepts then some time else s.lastContact }

/-- The state after a poll. -/
def poll (delay : ℕ) (s : ReceiverRun) : ReceiverRun :=
  { s with
    receiver := (s.receiver.getTargetTemperature (systemTime (s.now + delay))).2
    now := s.now + delay
    lastContact := some (s.now + delay) }

/-- The state after an event. -/
def step (can : Canard) (s : ReceiverRun) : ReceiverEvent → ReceiverRun
  | .setReceiverTarget nodeId => { s with receiver := s.receiver.setReceiverTarget nodeId }
  | .message arrival delay uninitialised transfer =>
    s.message can arrival delay uninitialised transfer
  | .poll delay => s.poll delay

/-- A poll comes at most `2^32 - 1 - MAX_VALID_AGE` ticks behind the last one, or behind the message
that was accepted since then. -/
def GapOk (s : ReceiverRun) : ReceiverEvent → Prop
  | .poll delay => ∀ t ∈ s.lastContact, s.now + delay ≤ t + (systimeRange - 1 - maxValidAge)
  | _ => True

/-- The temperature of the last accepted message with its true age at tick `p`, if this is at most
`MAX_VALID_AGE`, and the invalid age otherwise. -/
def TrueReport (s : ReceiverRun) (p : ℕ) (report : ℤ × ℕ) : Prop :=
  match s.accepted with
  | none => report.2 = invalidAge
  | some m =>
    if p ≤ m.time + maxValidAge then report = (m.temperature, p - m.time)
    else report.2 = invalidAge

/-- A poll reports this. -/
def ReportsTrueAge (s : ReceiverRun) : ReceiverEvent → Prop
  | .poll delay =>
    s.TrueReport (s.now + delay)
      (s.receiver.getTargetTemperature (systemTime (s.now + delay))).1
  | _ => True

/-! ## The validity flag -/

/-- A valid message was young at the last contact, and an invalid one is old now. -/
structure ReceiverOk (s : ReceiverRun) : Prop where
  valid : s.receiver.temperatureValid = true → ∃ m ∈ s.accepted, ∃ t ∈ s.lastContact,
    s.receiver.temperatureReceivedAt = systemTime m.time ∧
      s.receiver.temperature = m.temperature ∧ m.time ≤ t ∧ t ≤ m.time + maxValidAge
  invalid : s.receiver.temperatureValid = false → ∀ m ∈ s.accepted, m.time + maxValidAge < s.now
  contact_le : ∀ t ∈ s.lastContact, t ≤ s.now

variable {can : Canard} {s : ReceiverRun}

theorem receiverOk_start : ReceiverOk start :=
  ⟨fun h => Bool.noConfusion h, fun _ _ hm => absurd hm (Option.not_mem_none _),
    fun _ ht => absurd ht (Option.not_mem_none _)⟩

theorem maxValidAge_lt : maxValidAge < systimeRange := by decide

/-- The age of a valid message, at a poll that comes in time, has not wrapped. -/
theorem age_eq {m t p : ℕ} (hm : m ≤ t) (ht : t ≤ m + maxValidAge) (htp : t ≤ p)
    (hgap : p ≤ t + (systimeRange - 1 - maxValidAge)) :
    timeElapsedSince (systemTime p) (systemTime m) = p - m := by
  have hmax := maxValidAge_lt
  exact timeElapsedSince_of_lt (hm.trans htp) (by omega)

/-! ## A poll -/

theorem trueReport_invalid {p : ℕ} (h : ∀ m ∈ s.accepted, m.time + maxValidAge < p)
    (temperature : ℤ) : s.TrueReport p (temperature, invalidAge) := by
  unfold TrueReport
  cases hm : s.accepted with
  | none => rfl
  | some m =>
    have hold := h m hm
    dsimp only
    rw [if_neg (by omega)]

theorem trueReport_fresh {p : ℕ} {m : AcceptedMessage} (hm : m ∈ s.accepted)
    (hfresh : p ≤ m.time + maxValidAge) : s.TrueReport p (m.temperature, p - m.time) := by
  unfold TrueReport
  rw [Option.mem_def.mp hm]
  dsimp only
  rw [if_pos hfresh]

/-- The state and the report of a poll, from those of `getTargetTemperature`. -/
theorem receiverOk_of_poll {delay : ℕ} {report : ℤ × ℕ} {r : TemperatureReceiver}
    (hpoll : s.receiver.getTargetTemperature (systemTime (s.now + delay)) = (report, r))
    (hvalid : r.temperatureValid = true → ∃ m ∈ s.accepted,
      r.temperatureReceivedAt = systemTime m.time ∧ r.temperature = m.temperature ∧
        m.time ≤ s.now + delay ∧ s.now + delay ≤ m.time + maxValidAge)
    (hinvalid : r.temperatureValid = false → ∀ m ∈ s.accepted,
      m.time + maxValidAge < s.now + delay)
    (hreport : s.TrueReport (s.now + delay) report) :
    ReceiverOk (s.poll delay) ∧ ReportsTrueAge s (.poll delay) := by
  unfold ReceiverRun.poll ReportsTrueAge
  dsimp only
  rw [hpoll]
  refine ⟨⟨fun hflag => ?_, hinvalid, ?_⟩, hreport⟩
  · obtain ⟨m, hm, hfields⟩ := hvalid hflag
    exact ⟨m, hm, s.now + delay, rfl, hfields⟩
  · rintro t ⟨⟩
    exact Nat.le_refl _

/-- A poll of a message that is invalid already. -/
theorem ReceiverOk.poll_invalid (h : ReceiverOk s) (hflag : s.receiver.temperatureValid = false)
    (delay : ℕ) : ReceiverOk (s.poll delay) ∧ ReportsTrueAge s (.poll delay) := by
  have hold : ∀ m ∈ s.accepted, m.time + maxValidAge < s.now + delay :=
    fun m hm => Nat.lt_of_lt_of_le (h.invalid hflag m hm) (Nat.le_add_right _ _)
  have hpoll : s.receiver.getTargetTemperature (systemTime (s.now + delay)) =
      ((s.receiver.temperature, invalidAge), s.receiver) := by
    rw [getTargetTemperature, if_pos (.inr hflag), ← hflag]
  refine receiverOk_of_poll hpoll (fun hvalid => ?_) (fun _ => hold) (trueReport_invalid hold _)
  rw [hflag] at hvalid
  cases hvalid

/-- A poll of a valid message, with its true age. -/
theorem ReceiverOk.poll_valid (h : ReceiverOk s) (hflag : s.receiver.temperatureValid = true)
    {delay : ℕ} (hgap : GapOk s (.poll delay)) :
    ReceiverOk (s.poll delay) ∧ ReportsTrueAge s (.poll delay) := by
  obtain ⟨m, hm, t, ht, hat, htemperature, hmt, hyoung⟩ := h.valid hflag
  have htnow := h.contact_le t ht
  have hage : timeElapsedSince (systemTime (s.now + delay)) s.receiver.temperatureReceivedAt =
      s.now + delay - m.time := by
    rw [hat]
    exact age_eq hmt hyoung (by omega) (hgap t ht)
  by_cases hfresh : s.now + delay ≤ m.time + maxValidAge
  · have hpoll : s.receiver.getTargetTemperature (systemTime (s.now + delay)) =
        ((m.temperature, s.now + delay - m.time), s.receiver) := by
      rw [getTargetTemperature, hage, hflag, htemperature, if_neg]
      rintro (hlt | hno)
      · omega
      · cases hno
    refine receiverOk_of_poll hpoll (fun _ => ⟨m, hm, hat, htemperature, by omega, hfresh⟩)
      (fun hinvalid => ?_) (trueReport_fresh hm hfresh)
    rw [hflag] at hinvalid
    cases hinvalid
  · -- the poll makes the message invalid
    have hpoll : s.receiver.getTargetTemperature (systemTime (s.now + delay)) =
        ((s.receiver.temperature, invalidAge),
          { s.receiver with temperatureValid := false }) := by
      rw [getTargetTemperature, hage, if_pos (.inl (by omega))]
    have hold : ∀ m' ∈ s.accepted, m'.time + maxValidAge < s.now + delay := by
      intro m' hm'
      rw [Option.mem_unique hm' hm]
      exact Nat.lt_of_not_le hfresh
    exact receiverOk_of_poll hpoll (fun hvalid => Bool.noConfusion hvalid) (fun _ => hold)
      (trueReport_invalid hold _)

/-- **A poll** that comes in time keeps the flag right, and reports the true age. -/
theorem ReceiverOk.poll (h : ReceiverOk s) {delay : ℕ} (hgap : GapOk s (.poll delay)) :
    ReceiverOk (s.poll delay) ∧ ReportsTrueAge s (.poll delay) := by
  cases hflag : s.receiver.temperatureValid with
  | false => exact h.poll_invalid hflag delay
  | true => exact h.poll_valid hflag hgap

theorem ReceiverOk.message (h : ReceiverOk s) (arrival delay uninitialised : ℕ)
    (transfer : CanardRxTransfer) :
    ReceiverOk (s.message can arrival delay uninitialised transfer) := by
  unfold ReceiverRun.message onEnvironmentData
  by_cases haccepts : s.receiver.Accepts transfer
  · simp only [if_pos haccepts]
    refine ⟨fun _ => ⟨_, rfl, s.now + arrival, rfl, rfl, rfl, Nat.le_refl _, Nat.le_add_right _ _⟩,
      fun hinvalid => Bool.noConfusion hinvalid, ?_⟩
    rintro t ⟨⟩
    exact Nat.le_add_right _ _
  · simp only [if_neg haccepts]
    refine ⟨h.valid, fun hinvalid m hm => ?_, fun t ht => ?_⟩
    · have := h.invalid hinvalid m hm
      show m.time + maxValidAge < s.now + arrival + delay
      omega
    · have := h.contact_le t ht
      show t ≤ s.now + arrival + delay
      omega

theorem receiverOk_step : Machine.KeepsIf (step can) GapOk ReceiverOk := by
  intro s e hgap h
  cases e with
  | setReceiverTarget nodeId => exact ⟨h.valid, h.invalid, h.contact_le⟩
  | message arrival delay uninitialised transfer =>
    exact h.message arrival delay uninitialised transfer
  | poll delay => exact (h.poll hgap).1

/-- **The age cannot alias**: where no gap before a poll is too long, every poll reports the last
accepted message with its true age of at most `MAX_VALID_AGE`, or the invalid age. -/
theorem temperature_age_true (can : Canard) (es : List ReceiverEvent)
    (h : Machine.Meets (step can) GapOk start es) :
    Machine.Meets (step can) ReportsTrueAge start es := by
  apply receiverOk_step.meets _ receiverOk_start h
  intro s e hok hgap
  cases e with
  | setReceiverTarget | message => trivial
  | poll delay => exact (hok.poll hgap).2

instance (s : ReceiverRun) : ∀ e, Decidable (GapOk s e)
  | .poll delay =>
    inferInstanceAs (Decidable
      (∀ t ∈ s.lastContact, s.now + delay ≤ t + (systimeRange - 1 - maxValidAge)))
  | .setReceiverTarget _ | .message _ _ _ _ => isTrue trivial

/-- A message of node 5. -/
def environmentMessage : CanardRxTransfer := ⟨5, 0, 0, List.replicate 7 0x10, by decide, fun _ => 0⟩

/-- It is polled 10 s later, and again behind a day. -/
def polledMessage : List ReceiverEvent :=
  [.setReceiverTarget 5, .message 0 0 0 environmentMessage, .poll (timeS2I 10),
    .poll (timeS2I 86400)]

theorem temperature_age_true_polled :
    Machine.Meets (step Canard.uavcan) ReportsTrueAge start polledMessage :=
  temperature_age_true Canard.uavcan polledMessage (by decide +kernel)

end ReceiverRun

end HouseBus
