import HouseBus.Boiler.Heater
import HouseBus.Boiler.Sharing
import HouseBus.Dsdl
import HouseBus.Lib.Bus
import Mathlib.Data.Fintype.Card
import Mathlib.Data.Finset.Max

/-!
# Several boilers on the bus

Boilers that broadcast their status to each other (`BoilerBus`), with any order of their own
events, of transmissions and receptions, and with losses. As long as a boiler that regulates has
heard all it ever heard from within the time-out, its table is what it heard last (`Tracks`).

- A boiler that regulates gives way exactly to a higher priority that it heard last
  (`getTargetPower_of_fresh`).
- Without losses, on a quiet bus whose boilers have sent their priorities, the boilers of the
  highest priority share the power, and no others (`highest_priority_regulates`).
-/

namespace HouseBus

open Slots Bytes

namespace Boiler

/-! ## The status on the wire -/

/-- A status message with the memory that its encoder finds in the buffer. -/
structure StatusFrame where
  status : BoilerStatus
  buf : Mem

/-- The fields of a status. -/
def statusFields (status : BoilerStatus) : List CanardField :=
  [⟨0, 8, status.dutyCycle⟩, ⟨8, 19, DsdlScalar.bits status.temperature⟩, ⟨27, 3, status.priority⟩]

/-- The `HOMEAUTOMATION_BOILERSTATUS_MAX_SIZE` bytes that `send_status_message` broadcasts. -/
def StatusFrame.payload (can : Canard) (frame : StatusFrame) : List UInt8 :=
  read (can.encodeFields frame.buf (statusFields frame.status)) 0 4

/-- The frame as it is received from the node `source`; the handler reads no other field. -/
def StatusFrame.transfer (can : Canard) (source : UInt8) (frame : StatusFrame) :
    CanardRxTransfer where
  sourceNodeId := source
  transferId := 0
  priority := 0
  payload := frame.payload can
  payload_len_lt := by
    rw [payload, length_read]
    decide
  beyond := fun _ => 0

/-- These are the bytes of `homeautomation_BoilerStatus_encode`. -/
theorem payload_boilerStatus (can : Canard) (source : DsdlRecord Homeautomation.boilerStatus)
    (frame : StatusFrame) (hduty : frame.status.dutyCycle < 256)
    (hpriority : frame.status.priority < 8)
    (h : source.fields.map DsdlField.saturated =
      [(frame.status.dutyCycle : ℤ), frame.status.temperature, (frame.status.priority : ℤ)]) :
    Homeautomation.boilerStatus.payload can source frame.buf = frame.payload can := by
  have hscalars := source.scalars_eq
  obtain ⟨duty, temperature, priority, hfields⟩ :
      ∃ duty temperature priority, source.fields = [duty, temperature, priority] := by
    have hlen := congrArg List.length h
    rw [List.length_map] at hlen
    exact List.length_eq_three.mp hlen
  have hbits : ∀ n : ℕ, n < 2 ^ 64 → DsdlScalar.bits n = n := by
    intro n hn
    rw [DsdlScalar.bits]
    omega
  rw [hfields] at h hscalars
  simp only [List.map_cons, List.map_nil, List.cons.injEq, and_true] at h
  simp only [Homeautomation.boilerStatus, List.map_cons, List.map_nil, List.cons.injEq,
    and_true] at hscalars
  rw [DsdlMessage.payload, DsdlMessage.encode_of_scalars rfl, encodeScalars_eq, hfields, layout,
    layout, layout, layout, h.1, h.2.1, h.2.2, hscalars.1, hscalars.2.1, hscalars.2.2,
    hbits _ (by omega), hbits _ (by omega)]
  rfl

/-- The priority arrives. -/
theorem decodePriority_transfer {can : Canard} (laws : can.FieldLaws) (source : UInt8)
    {frame : StatusFrame} (h : frame.status.priority < 8) :
    decodePriority can (frame.transfer can source) = frame.status.priority := by
  have hwithin : ∀ f ∈ statusFields frame.status, f.Within 4 := by
    simp [statusFields, CanardField.Within]
  have hapart : (statusFields frame.status).Pairwise CanardField.Apart := by
    simp [statusFields, CanardField.Apart]
  have hread := laws.decode_encodeFields frame.buf hwithin hapart ⟨27, 3, frame.status.priority⟩
    (by simp [statusFields])
  have hlen : (frame.transfer can source).payloadLen = 4 := length_read _ _ _
  rw [decodePriority, hlen, if_neg (by decide), if_neg (by decide)]
  show (can.decodeScalar (frame.payload can) 27 3).getD 0 = _
  rw [StatusFrame.payload, hread, Option.getD_some]
  exact Nat.mod_eq_of_lt h

/-! ## The bus -/

/-- Boilers with different node ids; the system time of a boiler is ahead of the bus by `bias`. -/
structure BoilerBus (ι : Type*) where
  id : ι → UInt8
  bias : ι → ℕ
  id_ne_zero : ∀ i, id i ≠ 0
  id_injective : Function.Injective id

/-- A boiler's own events. -/
inductive NodeEvent
  | init (cfg : BoilerConfig)
  | configUpdate (cfg : BoilerConfig)
  | tick (adc : ℕ)
  | fastTick
  | dimmerTick
  | obis (timestamp : ℕ) (transfer : CanardRxTransfer)

/-- The event at the system time `now`. -/
def NodeEvent.toEvent (now : ℕ) : NodeEvent → Event
  | .init cfg => .init cfg
  | .configUpdate cfg => .configUpdate cfg
  | .tick adc => .tick adc now
  | .fastTick => .fastTick
  | .dimmerTick => .dimmerTick
  | .obis timestamp transfer => .obis now timestamp transfer

namespace BoilerBus

variable {ι : Type*} (can : Canard) (qfp : Qfp) (net : BoilerBus ι)

/-- The system time of a boiler. -/
def clock (i : ι) (now : ℕ) : ℕ := systemTime (now + net.bias i)

/-- What a boiler does with an event and the memory for a message, and with a status. -/
def protocol : Bus.Protocol ι Boiler (NodeEvent × Mem) StatusFrame where
  act i now b e :=
    let b' := b.step can qfp (e.1.toEvent (net.clock i now))
    (b', (b'.sent.drop b.sent.length).map fun status => ⟨status, e.2⟩)
  receive i now b j frame :=
    b.onBoilerstatusData can (net.clock i now) (frame.transfer can (net.id j))

end BoilerBus

/-! ## What a boiler's own events leave -/

section Events

variable {can : Canard} {qfp : Qfp}

/-- The loop frees nothing while no entry is expired. -/
theorem pollEntries_of_fresh {now : ℕ} (ourPriority : ℕ) {entries : List OtherBoilerStatus}
    (h : ∀ e ∈ entries, e.nodeId ≠ 0 → ¬ Expired now e) :
    (pollEntries now ourPriority entries).2 = entries := by
  induction entries with
  | nil => rfl
  | cons e es ih =>
    obtain ⟨he, hes⟩ := List.forall_mem_cons.mp h
    rw [pollEntries]
    split
    · rename_i hid
      have hyoung : timeElapsedSince now e.lastUpdate < timeS2I otherNodeTimeout :=
        Nat.not_le.mp (he hid)
      rw [if_pos hyoung]
      split
      · rfl
      · exact congrArg (e :: ·) (ih hes)
    · exact congrArg (e :: ·) (ih hes)

theorem onObis180_table (value timestamp : ℕ) (b : Boiler) :
    (b.onObis180 qfp value timestamp).otherBoilerStatus = b.otherBoilerStatus := by
  unfold onObis180
  dsimp only
  split <;> rfl

theorem onObis280_table {now : ℕ} (value timestamp : ℕ) {b : Boiler}
    (h : ∀ e ∈ b.otherBoilerStatus, e.nodeId ≠ 0 → ¬ Expired now e) :
    (b.onObis280 qfp now value timestamp).otherBoilerStatus = b.otherBoilerStatus := by
  unfold onObis280
  dsimp only
  split
  · exact pollEntries_of_fresh _ h
  · rfl

/-- An OBIS message leaves a table without expired entries. -/
theorem onObisData_table {now : ℕ} (timestamp : ℕ) (transfer : CanardRxTransfer) {b : Boiler}
    (h : ∀ e ∈ b.otherBoilerStatus, e.nodeId ≠ 0 → ¬ Expired now e) :
    (b.onObisData can qfp now timestamp transfer).otherBoilerStatus = b.otherBoilerStatus := by
  unfold onObisData
  dsimp only
  generalize hb : (if (decodeObis can transfer).code = [1, 8, 0] then
    b.onObis180 qfp (decodeObis can transfer).value timestamp else b) = b'
  have htable : b'.otherBoilerStatus = b.otherBoilerStatus := by
    rw [← hb]
    split
    · exact onObis180_table _ _ b
    · rfl
  split
  · rw [onObis280_table _ _ (by rwa [htable]), htable]
  · exact htable

/-- The table changes by OBIS messages and by status messages only. -/
theorem step_table {now : ℕ} {e : NodeEvent} {b : Boiler}
    (h : ∀ timestamp transfer, e = .obis timestamp transfer →
      ∀ entry ∈ b.otherBoilerStatus, entry.nodeId ≠ 0 → ¬ Expired now entry) :
    (b.step can qfp (e.toEvent now)).otherBoilerStatus = b.otherBoilerStatus := by
  cases e with
  | init | configUpdate | dimmerTick => rfl
  | tick adc =>
    show (b.appTick qfp adc now).otherBoilerStatus = _
    unfold appTick
    dsimp only
    split <;> rfl
  | fastTick =>
    show b.appFastTick.otherBoilerStatus = _
    unfold appFastTick
    split <;> rfl
  | obis timestamp transfer => exact onObisData_table timestamp transfer (h _ _ rfl)

theorem onObisData_sent (now timestamp : ℕ) (transfer : CanardRxTransfer) (b : Boiler) :
    (b.onObisData can qfp now timestamp transfer).sent = b.sent := by
  unfold onObisData onObis280 onObis180
  dsimp only
  split_ifs <;> rfl

variable (can qfp) in
/-- What a step sends has a priority of 3 bits. -/
theorem step_sent (now : ℕ) (e : NodeEvent) (b : Boiler) :
    ∃ new, (b.step can qfp (e.toEvent now)).sent = b.sent ++ new ∧
      ∀ status ∈ new, status.priority < 8 := by
  have hnone : ∃ new, b.sent = b.sent ++ new ∧ ∀ status ∈ new, status.priority < 8 :=
    ⟨[], (List.append_nil _).symm, fun _ h => absurd h List.not_mem_nil⟩
  have hone : ∀ dc (b' : Boiler), b'.sent = b.sent → ∃ new, (b'.setDc dc).sent = b.sent ++ new ∧
      ∀ status ∈ new, status.priority < 8 := by
    intro dc b' hsent
    refine ⟨_, congrArg (· ++ _) hsent, fun status hstatus => ?_⟩
    obtain rfl := List.mem_singleton.mp hstatus
    exact Nat.lt_succ_of_le (Nat.min_le_right _ _)
  cases e with
  | init | configUpdate | dimmerTick => exact hnone
  | tick adc =>
    show ∃ new, (b.appTick qfp adc now).sent = _ ∧ _
    unfold appTick
    dsimp only
    split
    · exact hone _ _ rfl
    · exact hnone
  | fastTick =>
    show ∃ new, b.appFastTick.sent = _ ∧ _
    unfold appFastTick
    split
    · exact hone _ _ rfl
    · exact hnone
  | obis timestamp transfer =>
    show ∃ new, (b.onObisData can qfp now timestamp transfer).sent = _ ∧ _
    rw [onObisData_sent]
    exact hnone

end Events

/-! ## What a boiler knows of the others -/

namespace BoilerBus

variable {ι : Type*} [DecidableEq ι] (can : Canard) (qfp : Qfp) (net : BoilerBus ι)

/-- A boiler that gets an OBIS message, which may make it regulate, heard from all whom it ever
heard within the time-out. -/
def Fresh (now : ℕ) (heard : List (Bus.Heard ι StatusFrame)) : NodeEvent × Mem → Prop
  | (.obis _ _, _) => ∀ j x, Bus.latest heard j = some x → now < x.time + timeS2I otherNodeTimeout
  | _ => True

/-- The priority of a status has 3 bits. -/
def SentPriority (_ : ι) (frame : StatusFrame) : Prop := frame.status.priority < 8

/-- The table is what the boiler heard last. -/
structure Tracks (i : ι) (now : ℕ) (b : Boiler) (heard : List (Bus.Heard ι StatusFrame)) :
    Prop where
  length : b.otherBoilerStatus.length = maxOtherBoilerNodes
  distinct : DistinctNodes b.otherBoilerStatus
  packed : Packed OtherBoilerStatus.nodeId 0 b.otherBoilerStatus
  entry : ∀ e ∈ b.otherBoilerStatus, e.nodeId ≠ 0 → ∃ j x, Bus.latest heard j = some x ∧
    e = boilerEntry can (net.clock i x.time) (x.message.transfer can (net.id j))
  known : ∀ j x, Bus.latest heard j = some x → ∃ e ∈ b.otherBoilerStatus, e.nodeId = net.id j
  others : ∀ x ∈ heard, x.source ≠ i ∧ x.time ≤ now ∧ SentPriority x.source x.message

variable {can qfp net} {i : ι} {now : ℕ} {b : Boiler} {heard : List (Bus.Heard ι StatusFrame)}

theorem latest_mem {j : ι} {x : Bus.Heard ι StatusFrame} (h : Bus.latest heard j = some x) :
    x ∈ heard ∧ x.source = j :=
  ⟨List.mem_of_find?_eq_some h, by simpa using List.find?_some h⟩

theorem latest_cons (x : Bus.Heard ι StatusFrame) (j : ι) :
    Bus.latest (x :: heard) j = if x.source = j then some x else Bus.latest heard j := by
  rw [Bus.latest, List.find?_cons]
  by_cases h : x.source = j <;> simp [h, Bus.latest]

omit [DecidableEq ι] in
/-- The age of what was heard within the time-out, by the system time of the boiler. -/
theorem age (net : BoilerBus ι) (i : ι) {time : ℕ} (hle : time ≤ now)
    (hfresh : now < time + timeS2I otherNodeTimeout) :
    timeElapsedSince (net.clock i now) (net.clock i time) = now - time := by
  have htimeout : timeS2I otherNodeTimeout < systimeRange := by decide
  rw [clock, clock, timeElapsedSince_of_lt (by omega) (by omega)]
  omega

/-- No entry is expired while the latest messages are fresh. -/
theorem Tracks.not_expired (h : Tracks can net i now b heard)
    (hfresh : ∀ j x, Bus.latest heard j = some x → now < x.time + timeS2I otherNodeTimeout) :
    ∀ e ∈ b.otherBoilerStatus, e.nodeId ≠ 0 → ¬ Expired (net.clock i now) e := by
  intro e he hid
  obtain ⟨j, x, hx, rfl⟩ := h.entry e he hid
  have htime := (h.others x (latest_mem hx).1).2.1
  have hlt := hfresh j x hx
  rw [Expired, boilerEntry, age net i htime hlt]
  omega

/-- A node's own event leaves the table. -/
theorem Tracks.act (h : Tracks can net i now b heard) {e : NodeEvent × Mem}
    (hfresh : Fresh now heard e) :
    Tracks can net i now ((net.protocol can qfp).act i now b e).1 heard := by
  have htable : ((net.protocol can qfp).act i now b e).1.otherBoilerStatus =
      b.otherBoilerStatus := by
    refine step_table fun timestamp transfer he => ?_
    obtain ⟨event, buf⟩ := e
    subst he
    exact h.not_expired hfresh
  constructor
  · rw [htable]; exact h.length
  · rw [htable]; exact h.distinct
  · rw [htable]; exact h.packed
  · rw [htable]; exact h.entry
  · rw [htable]; exact h.known
  · exact h.others

/-- There is a place for the status of each other boiler. -/
theorem Tracks.exists_place [Fintype ι] (hcard : Fintype.card ι ≤ maxOtherBoilerNodes + 1)
    (h : Tracks can net i now b heard) {j : ι} (hne : j ≠ i) :
    ∃ e ∈ b.otherBoilerStatus, Place OtherBoilerStatus.nodeId 0 (net.id j) e := by
  have hids : ((Finset.univ.erase i).toList.map net.id).length ≤ b.otherBoilerStatus.length := by
    rw [List.length_map, Finset.length_toList, Finset.card_erase_of_mem (Finset.mem_univ i),
      Finset.card_univ, h.length]
    omega
  have hmem : ∀ k ≠ i, net.id k ∈ (Finset.univ.erase i).toList.map net.id := fun k hk =>
    List.mem_map.mpr ⟨k, by simpa using hk, rfl⟩
  refine Slots.exists_place h.distinct hids (fun e he hid => ?_) (hmem j hne)
  obtain ⟨k, x, hx, rfl⟩ := h.entry e he hid
  obtain ⟨hin, rfl⟩ := latest_mem hx
  exact hmem _ (h.others x hin).1

/-- A status takes the place of the last one from its node. -/
theorem Tracks.receive [Fintype ι] (hcard : Fintype.card ι ≤ maxOtherBoilerNodes + 1)
    (h : Tracks can net i now b heard) {j : ι} (hne : j ≠ i) {frame : StatusFrame}
    (hframe : SentPriority j frame) :
    Tracks can net i now ((net.protocol can qfp).receive i now b j frame)
      (⟨now, j, frame⟩ :: heard) := by
  have hplace := h.exists_place hcard hne
  have htable : ((net.protocol can qfp).receive i now b j frame).otherBoilerStatus =
      put OtherBoilerStatus.nodeId 0 (net.id j)
        (boilerEntry can (net.clock i now) (frame.transfer can (net.id j))) b.otherBoilerStatus :=
    put_status can (net.clock i now) (frame.transfer can (net.id j)) hplace
  generalize hnew : boilerEntry can (net.clock i now) (frame.transfer can (net.id j)) = new at htable
  have hid : new.nodeId = net.id j := by rw [← hnew]; rfl
  have hdistinct := (distinct_put_iff (a := new) h.distinct hid (net.id_ne_zero j)).mpr
    (h.packed.not_freeBefore (net.id_ne_zero j))
  have hself := mem_put_self (a := new) hplace
  constructor
  · rw [htable, length_put, h.length]
  · rw [htable]
    exact hdistinct
  · rw [htable]
    exact packed_put h.packed (by rw [hid]; exact net.id_ne_zero j)
  · rw [htable]
    intro e he hnz
    obtain rfl | hold := mem_put he
    · exact ⟨j, _, by rw [latest_cons, if_pos rfl], hnew.symm⟩
    · obtain ⟨k, x, hx, hentry⟩ := h.entry e hold hnz
      by_cases hk : j = k
      · -- The old entry of the sender is not in the table any more.
        subst hk
        have hkey : e.nodeId = new.nodeId := by rw [hid, hentry]; rfl
        obtain rfl := hdistinct.eq_of_key he hself hnz hkey
        exact ⟨j, _, by rw [latest_cons, if_pos rfl], hnew.symm⟩
      · exact ⟨k, x, by rw [latest_cons, if_neg hk]; exact hx, hentry⟩
  · rw [htable]
    intro k x hx
    rw [latest_cons] at hx
    by_cases hk : j = k
    · exact ⟨new, hself, by rw [hid, hk]⟩
    · rw [if_neg hk] at hx
      obtain ⟨e, he, hek⟩ := h.known k x hx
      refine ⟨e, mem_put_of_mem he ?_, hek⟩
      rw [Place, hek, not_or]
      exact ⟨fun heq => hk (net.id_injective heq).symm, net.id_ne_zero k⟩
  · intro x hx
    obtain rfl | hx := List.mem_cons.mp hx
    · exact ⟨hne, Nat.le_refl _, hframe⟩
    · exact h.others x hx

variable (can qfp net) in
/-- **What each boiler knows of the others** is an invariant of its own. -/
theorem tracks_local [Fintype ι] (hcard : Fintype.card ι ≤ maxOtherBoilerNodes + 1) :
    Bus.Local (net.protocol can qfp) (fun _ now _ heard e => Fresh now heard e) SentPriority
      (Tracks can net) where
  wait delay h := ⟨h.length, h.distinct, h.packed, h.entry, h.known, fun x hx =>
    ⟨(h.others x hx).1, (h.others x hx).2.1.trans (Nat.le_add_right _ _), (h.others x hx).2.2⟩⟩
  act hfresh h := h.act hfresh
  sends {i now b heard e} _ _ frame hframe := by
    obtain ⟨status, hstatus, rfl⟩ := List.mem_map.mp hframe
    obtain ⟨new, hsent, hnew⟩ := step_sent can qfp (net.clock i now) e.1 b
    rw [hsent, List.drop_left] at hstatus
    exact hnew status hstatus
  receive hne hframe h := h.receive hcard hne hframe

theorem tracks_start (can : Canard) (net : BoilerBus ι) (i : ι) (now configPin : ℕ) :
    Tracks can net i now (Boiler.start configPin) [] where
  length := rfl
  distinct := List.pairwise_replicate.mpr (.inr fun hne => absurd rfl hne)
  packed := List.pairwise_replicate.mpr (.inr fun h => h)
  entry e he hne := absurd (congrArg OtherBoilerStatus.nodeId (List.eq_of_mem_replicate he)) hne
  known j x hx := by cases hx
  others x hx := absurd hx List.not_mem_nil

/-! ## Runs -/

/-- The bus after the events `es`. -/
def after (can : Canard) (qfp : Qfp) (net : BoilerBus ι) (now : ℕ) (configPin : ι → ℕ)
    (es : List (Bus.Event ι (NodeEvent × Mem))) : Bus.State ι Boiler StatusFrame :=
  Machine.run (Bus.step (net.protocol can qfp)) (.start now fun i => .start (configPin i)) es

/-- In the run of `es` no boiler gets an OBIS message when what it heard last is too old. -/
def AllFresh (can : Canard) (qfp : Qfp) (net : BoilerBus ι) (now : ℕ) (configPin : ι → ℕ)
    (es : List (Bus.Event ι (NodeEvent × Mem))) : Prop :=
  Machine.Meets (Bus.step (net.protocol can qfp))
    (Bus.Guarded fun _ now _ heard e => Fresh now heard e)
    (.start now fun i => .start (configPin i)) es

/-- What `get_target_power` returns at boiler `i` at tick `now`. -/
def target (net : BoilerBus ι) (s : Bus.State ι Boiler StatusFrame) (i : ι) (now : ℕ) : ℤ :=
  ((s.station i).getTargetPower (net.clock i now)).1

/-- At boiler `i` the latest status from each other one that it heard is younger than the
time-out. -/
def FreshAt (s : Bus.State ι Boiler StatusFrame) (i : ι) (now : ℕ) : Prop :=
  ∀ j x, Bus.latest (s.heard i) j = some x → now < x.time + timeS2I otherNodeTimeout

/-- The latest status from some other boiler has a higher priority. -/
def GivesWay (s : Bus.State ι Boiler StatusFrame) (i : ι) : Prop :=
  ∃ j x, Bus.latest (s.heard i) j = some x ∧
    (s.station i).calculatePriority < x.message.status.priority

theorem everywhere_after [Fintype ι] (hcard : Fintype.card ι ≤ maxOtherBoilerNodes + 1)
    (can : Canard) (qfp : Qfp) (net : BoilerBus ι) {now : ℕ} {configPin : ι → ℕ}
    {es : List (Bus.Event ι (NodeEvent × Mem))} (hes : AllFresh can qfp net now configPin es) :
    Bus.Everywhere SentPriority (Tracks can net) (after can qfp net now configPin es) :=
  (tracks_local can qfp net hcard).keepsIf.run
    (Bus.everywhere_start fun i => tracks_start can net i now (configPin i)) hes

/-- An entry outvotes a boiler exactly if a latest status does. -/
theorem Tracks.target_eq (laws : can.FieldLaws) {s : Bus.State ι Boiler StatusFrame}
    (h : Tracks can net i now (s.station i) (s.heard i)) (hfresh : FreshAt s i now) :
    (GivesWay s i → net.target s i now = 0) ∧
      (¬ GivesWay s i → net.target s i now = (s.station i).targetPower) := by
  have hanswer : (pollEntries (net.clock i now) (s.station i).calculatePriority
      (s.station i).otherBoilerStatus).1 = true ↔ GivesWay s i := by
    rw [pollEntries_fst]
    constructor
    · rintro ⟨e, he, hid, -, hprio⟩
      obtain ⟨j, x, hx, rfl⟩ := h.entry e he hid
      refine ⟨j, x, hx, ?_⟩
      have hsent := (h.others x (latest_mem hx).1).2.2
      have heq : (boilerEntry can (net.clock i x.time) (x.message.transfer can (net.id j))).priority
          = x.message.status.priority := decodePriority_transfer laws _ hsent
      rwa [heq] at hprio
    · rintro ⟨j, x, hx, hprio⟩
      obtain ⟨e, he, hej⟩ := h.known j x hx
      have hid : e.nodeId ≠ 0 := by
        rw [hej]
        exact net.id_ne_zero j
      have hyoung := h.not_expired hfresh e he hid
      refine ⟨e, he, hid, Nat.not_le.mp hyoung, ?_⟩
      obtain ⟨k, y, hy, rfl⟩ := h.entry e he hid
      obtain rfl : k = j := net.id_injective hej
      obtain rfl : x = y := Option.some.inj (hx.symm.trans hy)
      have hsent := (h.others x (latest_mem hx).1).2.2
      have heq : (boilerEntry can (net.clock i x.time) (x.message.transfer can (net.id k))).priority
          = x.message.status.priority := decodePriority_transfer laws _ hsent
      rwa [heq]
  refine ⟨fun hway => if_pos (hanswer.mpr hway), fun hno => if_neg fun htrue => ?_⟩
  exact hno (hanswer.mp htrue)

/-- **Who gives way**: on a bus of at most four boilers, in any order of events and with any losses,
a boiler whose latest messages are young enough regulates to its own target power, or to 0 exactly
if the latest status from some other boiler had a higher priority. -/
theorem getTargetPower_of_fresh [Fintype ι] (hcard : Fintype.card ι ≤ maxOtherBoilerNodes + 1)
    {can : Canard} (laws : can.FieldLaws) (qfp : Qfp) (net : BoilerBus ι) {start : ℕ}
    {configPin : ι → ℕ} {es : List (Bus.Event ι (NodeEvent × Mem))}
    (hes : AllFresh can qfp net start configPin es) (i : ι) (delay : ℕ) :
    let s := after can qfp net start configPin es
    FreshAt s i (s.now + delay) →
      (GivesWay s i → net.target s i (s.now + delay) = 0) ∧
        (¬ GivesWay s i → net.target s i (s.now + delay) = (s.station i).targetPower) := by
  intro s hfresh
  have htracks := (everywhere_after hcard can qfp net hes).stations i
  exact ((tracks_local can qfp net hcard).wait delay htracks).target_eq laws hfresh

/-- Boilers 1 and 2. -/
def twoBoilers : BoilerBus (Fin 2) where
  id i := if i = 0 then 1 else 2
  bias _ := 0
  id_ne_zero := by decide
  id_injective := by decide

/-- The second boiler is colder than its target temperature. After the time-out of the controller
both send their status. -/
def bothAnnounce : List (Bus.Event (Fin 2) (NodeEvent × Mem)) :=
  [.act 0 1 (.init halfPower, fun _ => 0), .act 150001 1 (.tick 0, fun _ => 0),
    .act 0 0 (.tick 0, fun _ => 0), .transmit 0 1, .transmit 0 0, .deliver 0 0, .deliver 0 1]

theorem heard_bothAnnounce (i : Fin 2) :
    ∃ frame, (after .uavcan (Qfp.const 0) twoBoilers 0 (fun _ => 1) bothAnnounce).heard i =
      [⟨150001, 1 - i, frame⟩] := by
  match i with
  | 0 => exact ⟨_, rfl⟩
  | 1 => exact ⟨_, rfl⟩

theorem allFresh_bothAnnounce :
    AllFresh .uavcan (Qfp.const 0) twoBoilers 0 (fun _ => 1) bothAnnounce :=
  ⟨trivial, trivial, trivial, trivial, trivial, trivial, trivial, trivial⟩

theorem freshAt_bothAnnounce (i : Fin 2) :
    FreshAt (after .uavcan (Qfp.const 0) twoBoilers 0 (fun _ => 1) bothAnnounce) i 150001 := by
  intro j x hx
  obtain ⟨frame, hheard⟩ := heard_bothAnnounce i
  have hin := (latest_mem hx).1
  rw [hheard, List.mem_singleton] at hin
  rw [hin]
  show 150001 < 150001 + timeS2I otherNodeTimeout
  decide

theorem getTargetPower_of_fresh_bothAnnounce :
    twoBoilers.target (after .uavcan (Qfp.const 0) twoBoilers 0 (fun _ => 1) bothAnnounce) 0
      150001 = 0 :=
  (getTargetPower_of_fresh (by decide) Canard.uavcan_fieldLaws (Qfp.const 0) twoBoilers
    allFresh_bothAnnounce 0 0 (freshAt_bothAnnounce 0)).1 ⟨1, _, rfl, by decide⟩

/-- The last status that each boiler sent has its priority. -/
def Announced (s : Bus.State ι Boiler StatusFrame) : Prop :=
  ∀ j, (s.sent j).getLast?.map (fun frame => frame.status.priority) =
    some (s.station j).calculatePriority

/-- **Agreement**: on a bus of at most four boilers that lost no message and on which nothing is on
the way, where each boiler has announced its priority, exactly the boilers of the highest priority
regulate to their target power, and there is such a boiler. All others regulate to 0. -/
theorem highest_priority_regulates [Fintype ι] [Nonempty ι]
    (hcard : Fintype.card ι ≤ maxOtherBoilerNodes + 1) {can : Canard} (laws : can.FieldLaws)
    (qfp : Qfp) (net : BoilerBus ι) {start : ℕ} {configPin : ι → ℕ}
    {es : List (Bus.Event ι (NodeEvent × Mem))} (hes : AllFresh can qfp net start configPin es)
    (hlossless : ∀ e ∈ es, e.Lossless) (delay : ℕ) :
    let s := after can qfp net start configPin es
    Bus.Quiet s → Announced s → (∀ i, FreshAt s i (s.now + delay)) →
      (∃ i, ∀ j, (s.station j).calculatePriority ≤ (s.station i).calculatePriority) ∧
        ∀ i, net.target s i (s.now + delay) =
          if ∀ j, (s.station j).calculatePriority ≤ (s.station i).calculatePriority
          then (s.station i).targetPower else 0 := by
  intro s hquiet hannounced hfresh
  have hcomplete : Bus.Complete s := Bus.complete_step.run (Bus.complete_start start _)
    (Machine.meets_of_forall _ hlossless)
  -- What a boiler heard last from another one is that one's priority.
  have hheard : ∀ i j, j ≠ i → ∃ x, Bus.latest (s.heard i) j = some x ∧
      x.message.status.priority = (s.station j).calculatePriority := by
    intro i j hne
    have hlast := hannounced j
    rw [← Bus.latest_of_quiet hcomplete hquiet hne, Option.map_map, Option.map_eq_some_iff] at hlast
    exact hlast
  have hway : ∀ i, GivesWay s i ↔
      ¬ ∀ j, (s.station j).calculatePriority ≤ (s.station i).calculatePriority := by
    intro i
    rw [not_forall]
    constructor
    · rintro ⟨j, x, hx, hprio⟩
      have hne := ((everywhere_after hcard can qfp net hes).stations i).others x (latest_mem hx).1
      rw [(latest_mem hx).2] at hne
      obtain ⟨y, hy, hpriority⟩ := hheard i j hne.1
      obtain rfl : x = y := Option.some.inj (hx.symm.trans hy)
      exact ⟨j, by omega⟩
    · rintro ⟨j, hj⟩
      have hne : j ≠ i := by
        rintro rfl
        exact hj (Nat.le_refl _)
      obtain ⟨x, hx, hpriority⟩ := hheard i j hne
      exact ⟨j, x, hx, by omega⟩
  constructor
  · obtain ⟨i, -, hmax⟩ := Finset.univ.exists_max_image
      (fun i => (s.station i).calculatePriority) Finset.univ_nonempty
    exact ⟨i, fun j => hmax j (Finset.mem_univ j)⟩
  · intro i
    have htracks := (everywhere_after hcard can qfp net hes).stations i
    have hlater := (tracks_local can qfp net hcard).wait delay htracks
    have htarget := hlater.target_eq laws (hfresh i)
    split
    · rename_i hall
      exact htarget.2 fun h => (hway i).mp h hall
    · rename_i hsome
      exact htarget.1 ((hway i).mpr hsome)

theorem quiet_bothAnnounce :
    Bus.Quiet (after .uavcan (Qfp.const 0) twoBoilers 0 (fun _ => 1) bothAnnounce)
  | 0 | 1 => ⟨rfl, rfl⟩

theorem announced_bothAnnounce :
    Announced (after .uavcan (Qfp.const 0) twoBoilers 0 (fun _ => 1) bothAnnounce)
  | 0 | 1 => rfl

theorem highest_priority_regulates_bothAnnounce :
    let s := after .uavcan (Qfp.const 0) twoBoilers 0 (fun _ => 1) bothAnnounce
    twoBoilers.target s 0 150001 = 0 ∧ twoBoilers.target s 1 150001 = 100 :=
  have hshare := (highest_priority_regulates (by decide) Canard.uavcan_fieldLaws (Qfp.const 0)
    twoBoilers allFresh_bothAnnounce (by simp [bothAnnounce, Bus.Event.Lossless]) 0
    quiet_bothAnnounce announced_bothAnnounce freshAt_bothAnnounce).2
  ⟨(hshare 0).trans (if_neg (by decide)), (hshare 1).trans (if_pos (by decide))⟩

end BoilerBus

end Boiler

end HouseBus
