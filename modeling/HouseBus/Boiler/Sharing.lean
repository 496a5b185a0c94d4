import HouseBus.Boiler
import HouseBus.Lib.Slots

/-!
# The boilers share the power

A run of status messages and calls of `get_target_power` at real ticks, with the messages so far
(`Sharing`). The table is a slot table by node id: an entry is the latest message of its node, and
a node with a recent message has one (`SharingOk`). Then `get_target_power` answers by the latest
messages (`answersRight`).

`get_target_power` frees expired entries, so an entry can become free before that of another node,
and the next message of this node makes a second entry (`sharing_correct_iff`).
-/

namespace HouseBus

open Slots

namespace Boiler

/-! ## The table -/

/-- No two entries have one node id. -/
abbrev DistinctNodes (entries : List OtherBoilerStatus) : Prop :=
  Distinct OtherBoilerStatus.nodeId 0 entries

/-- `get_other_boiler_entry` and the stores behind it put a status to the place for its node. -/
theorem put_status (can : Canard) (timestamp : ℕ) (transfer : CanardRxTransfer) {b : Boiler}
    (h : ∃ e ∈ b.otherBoilerStatus,
      Place OtherBoilerStatus.nodeId 0 transfer.sourceNodeId e) :
    (b.onBoilerstatusData can timestamp transfer).otherBoilerStatus =
      put OtherBoilerStatus.nodeId 0 transfer.sourceNodeId (boilerEntry can timestamp transfer)
        b.otherBoilerStatus := by
  simp only [onBoilerstatusData, getOtherBoilerEntry]
  generalize b.otherBoilerStatus = entries at h
  generalize hid : transfer.sourceNodeId = nodeId at h
  induction entries with
  | nil =>
    obtain ⟨e, he, -⟩ := h
    cases he
  | cons e es ih =>
    rw [List.findIdx?_cons, put]
    by_cases hplace : e.nodeId = nodeId ∨ e.nodeId = 0
    · have hplace' : Place OtherBoilerStatus.nodeId 0 nodeId e := hplace
      rw [if_pos (decide_eq_true hplace), if_pos hplace', boilerEntry, hid]
      rfl
    · have hplace' : ¬ Place OtherBoilerStatus.nodeId 0 nodeId e := hplace
      rw [if_neg (by simpa using hplace), if_neg hplace']
      obtain ⟨c, hc, hck⟩ := h
      have hrest : ∃ c ∈ es, Place OtherBoilerStatus.nodeId 0 nodeId c := by
        obtain rfl | hc := List.mem_cons.mp hc
        · exact absurd hck hplace'
        · exact ⟨c, hc, hck⟩
      have hsome : (es.findIdx? fun e => e.nodeId = nodeId ∨ e.nodeId = 0).isSome := by
        rw [List.findIdx?_isSome, List.any_eq_true]
        obtain ⟨c, hc, hck⟩ := hrest
        exact ⟨c, hc, decide_eq_true hck⟩
      obtain ⟨id, hfound⟩ := Option.isSome_iff_exists.mp hsome
      rw [← ih hrest, hfound]
      rfl

/-- An entry that `get_target_power` takes for a boiler with a higher priority. -/
def Outvotes (now ourPriority : ℕ) (e : OtherBoilerStatus) : Prop :=
  e.nodeId ≠ 0 ∧ timeElapsedSince now e.lastUpdate < timeS2I otherNodeTimeout ∧
    ourPriority < e.priority

/-- The answer of the loop. -/
theorem pollEntries_fst (now ourPriority : ℕ) (entries : List OtherBoilerStatus) :
    (pollEntries now ourPriority entries).1 = true ↔
      ∃ e ∈ entries, Outvotes now ourPriority e := by
  induction entries with
  | nil => simp [pollEntries]
  | cons e es ih =>
    simp only [List.exists_mem_cons_iff]
    rw [pollEntries]
    by_cases hid : e.nodeId ≠ 0
    · rw [if_pos hid]
      by_cases hyoung : timeElapsedSince now e.lastUpdate < timeS2I otherNodeTimeout
      · rw [if_pos hyoung]
        by_cases hprio : ourPriority < e.priority
        · rw [if_pos hprio]
          exact iff_of_true rfl (.inl ⟨hid, hyoung, hprio⟩)
        · rw [if_neg hprio]
          exact ih.trans (or_iff_right fun h => hprio h.2.2).symm
      · rw [if_neg hyoung]
        exact ih.trans (or_iff_right fun h => hyoung h.2.1).symm
    · rw [if_neg hid]
      exact ih.trans (or_iff_right fun h => hid h.1).symm

/-- The time-out of an entry has passed. -/
def Expired (now : ℕ) (e : OtherBoilerStatus) : Prop :=
  timeS2I otherNodeTimeout ≤ timeElapsedSince now e.lastUpdate

/-- The loop frees expired entries. -/
theorem pollEntries_snd (now ourPriority : ℕ) (entries : List OtherBoilerStatus) :
    Frees OtherBoilerStatus.nodeId 0 (Expired now) entries
      (pollEntries now ourPriority entries).2 := by
  induction entries with
  | nil => exact List.Forall₂.nil
  | cons e es ih =>
    rw [pollEntries]
    split
    · split
      · split
        · exact frees_refl (e :: es)
        · exact List.Forall₂.cons (.inl rfl) ih
      · rename_i hold
        exact List.Forall₂.cons (.inr ⟨rfl, Nat.not_lt.mp hold⟩) ih
    · exact List.Forall₂.cons (.inl rfl) ih

/-! ## Runs -/

/-- A status message of another boiler that was received at tick `time`. -/
structure StatusMessage where
  time : ℕ
  source : UInt8
  priority : ℕ

/-- The node, the real tick, and the messages so far, the last one first. -/
structure Sharing where
  boiler : Boiler
  now : ℕ
  received : List StatusMessage

/-- What happens after `delay` ticks. Between the calls temperature and configuration may change. -/
inductive SharingEvent
  | status (delay : ℕ) (transfer : CanardRxTransfer)
  | poll (delay : ℕ)
  | adjust (temperature maxTemperature targetTemperature targetPower : ℤ)

namespace SharingEvent

def delay : SharingEvent → ℕ
  | .status delay _ | .poll delay => delay
  | .adjust _ _ _ _ => 0

/-- The source of a status message is one of `ids`. -/
def From (ids : List UInt8) : SharingEvent → Prop
  | .status _ transfer => transfer.sourceNodeId ∈ ids
  | _ => True

end SharingEvent

/-- The state after an event. -/
def shareStep (can : Canard) (s : Sharing) : SharingEvent → Sharing
  | .status delay transfer =>
    let now := s.now + delay
    { boiler := s.boiler.onBoilerstatusData can (systemTime now) transfer
      now := now
      received := ⟨now, transfer.sourceNodeId, decodePriority can transfer⟩ :: s.received }
  | .poll delay =>
    let now := s.now + delay
    { s with boiler := (s.boiler.getTargetPower (systemTime now)).2, now := now }
  | .adjust temperature maxTemperature targetTemperature targetPower =>
    { s with
      boiler := { s.boiler with
        boilerTemperature := temperature
        maxBoilerTemperature := maxTemperature
        targetBoilerTemperature := targetTemperature
        targetPower := targetPower } }

/-- Before the first message, at tick `now`. -/
def Sharing.start (configPin now : ℕ) : Sharing := ⟨Boiler.start configPin, now, []⟩

/-- The most recent message of a node. -/
def latest (received : List StatusMessage) (source : UInt8) : Option StatusMessage :=
  received.find? fun m => m.source = source

/-- At tick `now` the most recent message of some node is younger than the time-out and carried a
higher priority than ours. -/
def Outvoted (received : List StatusMessage) (now ourPriority : ℕ) : Prop :=
  ∃ source m, latest received source = some m ∧ now < m.time + timeS2I otherNodeTimeout ∧
    ourPriority < m.priority

/-- What the node owes at an event: no node has two entries afterwards, and `get_target_power`
answers by the latest messages. -/
def Correct (can : Canard) (s : Sharing) (e : SharingEvent) : Prop :=
  DistinctNodes (shareStep can s e).boiler.otherBoilerStatus ∧
    ∀ delay, e = .poll delay →
      let outvoted := Outvoted s.received (s.now + delay) s.boiler.calculatePriority
      let answer := (s.boiler.getTargetPower (systemTime (s.now + delay))).1
      (outvoted → answer = 0) ∧ (¬ outvoted → answer = s.boiler.targetPower)

/-- A status message comes while no free entry lies before the one of its node. -/
def NoGap (s : Sharing) : SharingEvent → Prop
  | .status _ transfer => ¬ FreeBefore OtherBoilerStatus.nodeId 0 transfer.sourceNodeId
      s.boiler.otherBoilerStatus
  | _ => True

/-! ## The invariant -/

/-- The table and the messages, when all come from `ids` and after tick `since`. -/
structure SharingOk (ids : List UInt8) (since : ℕ) (s : Sharing) : Prop where
  since_le : since ≤ s.now
  length : s.boiler.otherBoilerStatus.length = maxOtherBoilerNodes
  distinct : DistinctNodes s.boiler.otherBoilerStatus
  entry : ∀ e ∈ s.boiler.otherBoilerStatus, e.nodeId ≠ 0 →
    ∃ m, latest s.received e.nodeId = some m ∧ e.lastUpdate = systemTime m.time ∧
      e.priority = m.priority
  recent : ∀ source m, latest s.received source = some m →
    s.now < m.time + timeS2I otherNodeTimeout →
    ∃ e ∈ s.boiler.otherBoilerStatus, e.nodeId = source
  times : ∀ m ∈ s.received, since ≤ m.time ∧ m.time ≤ s.now
  sources : ∀ m ∈ s.received, m.source ∈ ids

/-- The event is one of a run over less than one wrap, with messages from `ids`. -/
def Within (ids : List UInt8) (since : ℕ) (s : Sharing) (e : SharingEvent) : Prop :=
  e.From ids ∧ s.now + e.delay < since + systimeRange

theorem latest_cons (m : StatusMessage) (received : List StatusMessage) (source : UInt8) :
    latest (m :: received) source =
      if m.source = source then some m else latest received source := by
  rw [latest, List.find?_cons]
  by_cases h : m.source = source <;> simp [h, latest]

theorem latest_mem {received : List StatusMessage} {source : UInt8} {m : StatusMessage}
    (h : latest received source = some m) : m ∈ received ∧ m.source = source :=
  ⟨List.mem_of_find?_eq_some h, by simpa using List.find?_some h⟩

variable {can : Canard} {ids : List UInt8} {since : ℕ} {s : Sharing}

/-- A message's age, by the system time. -/
theorem SharingOk.age (h : SharingOk ids since s) {source : UInt8} {m : StatusMessage}
    (hm : latest s.received source = some m) {now : ℕ} (hle : s.now ≤ now)
    (hlt : now < since + systimeRange) :
    timeElapsedSince (systemTime now) (systemTime m.time) = now - m.time := by
  obtain ⟨hsince, hnow⟩ := h.times m (latest_mem hm).1
  exact timeElapsedSince_of_lt (by omega) (by omega)

/-- **The answer**: an entry outvotes us if and only if a latest message does. -/
theorem SharingOk.outvoted_iff (h : SharingOk ids since s) (hnz : (0 : UInt8) ∉ ids) {now : ℕ}
    (hle : s.now ≤ now) (hlt : now < since + systimeRange) (ourPriority : ℕ) :
    (∃ e ∈ s.boiler.otherBoilerStatus, Outvotes (systemTime now) ourPriority e) ↔
      Outvoted s.received now ourPriority := by
  constructor
  · rintro ⟨e, he, hid, hyoung, hprio⟩
    obtain ⟨m, hm, hupdate, hpriority⟩ := h.entry e he hid
    have hold := (h.times m (latest_mem hm).1).2
    rw [hupdate, h.age hm hle hlt] at hyoung
    exact ⟨e.nodeId, m, hm, by omega, by rw [← hpriority]; exact hprio⟩
  · rintro ⟨source, m, hm, hyoung, hprio⟩
    obtain ⟨hmem, hsource⟩ := latest_mem hm
    obtain ⟨e, he, rfl⟩ := h.recent source m hm (by omega)
    have hid : e.nodeId ≠ 0 := by
      intro h0
      exact hnz (h0 ▸ hsource ▸ h.sources m hmem)
    obtain ⟨m', hm', hupdate, hpriority⟩ := h.entry e he hid
    obtain rfl : m = m' := Option.some.inj (hm.symm.trans hm')
    refine ⟨e, he, hid, ?_, by rw [hpriority]; exact hprio⟩
    have hold := (h.times m hmem).2
    rw [hupdate, h.age hm hle hlt]
    omega

/-- There is a place for each node. -/
theorem SharingOk.exists_place (h : SharingOk ids since s) (hids : ids.length ≤ maxOtherBoilerNodes)
    {source : UInt8} (hsource : source ∈ ids) :
    ∃ e ∈ s.boiler.otherBoilerStatus, Place OtherBoilerStatus.nodeId 0 source e := by
  refine Slots.exists_place h.distinct (by rw [h.length]; exact hids) ?_ hsource
  intro e he hid
  obtain ⟨m, hm, -⟩ := h.entry e he hid
  obtain ⟨hmem, hsource⟩ := latest_mem hm
  exact hsource ▸ h.sources m hmem

/-- A status message puts an entry to the table. -/
theorem SharingOk.status_table (can : Canard) (h : SharingOk ids since s)
    (hids : ids.length ≤ maxOtherBoilerNodes) {transfer : CanardRxTransfer}
    (hsource : transfer.sourceNodeId ∈ ids) (timestamp : ℕ) :
    (s.boiler.onBoilerstatusData can timestamp transfer).otherBoilerStatus =
      put OtherBoilerStatus.nodeId 0 transfer.sourceNodeId
        (boilerEntry can timestamp transfer) s.boiler.otherBoilerStatus :=
  put_status can timestamp transfer (h.exists_place hids hsource)

/-- The entry of another node is no place for the sender's. -/
theorem SharingOk.not_place (h : SharingOk ids since s) (hnz : (0 : UInt8) ∉ ids)
    {sender : UInt8} {e : OtherBoilerStatus} {m : StatusMessage}
    (hm : latest s.received e.nodeId = some m) (hne : sender ≠ e.nodeId) :
    ¬ Place OtherBoilerStatus.nodeId 0 sender e := by
  obtain ⟨hmem, hsource⟩ := latest_mem hm
  rintro (hid | hfree)
  · exact hne hid.symm
  · exact hnz (hfree ▸ hsource ▸ h.sources m hmem)

/-- The state after a status message, with distinct nodes. -/
theorem SharingOk.status (h : SharingOk ids since s) (hids : ids.length ≤ maxOtherBoilerNodes)
    (hnz : (0 : UInt8) ∉ ids) {delay : ℕ} {transfer : CanardRxTransfer}
    (hsource : transfer.sourceNodeId ∈ ids)
    (hdistinct :
      DistinctNodes (shareStep can s (.status delay transfer)).boiler.otherBoilerStatus) :
    SharingOk ids since (shareStep can s (.status delay transfer)) := by
  have htable := h.status_table can hids hsource (systemTime (s.now + delay))
  have hself := mem_put_self (a := boilerEntry can (systemTime (s.now + delay)) transfer)
    (h.exists_place hids hsource)
  have hstep : (shareStep can s (.status delay transfer)).boiler.otherBoilerStatus = _ := htable
  generalize hnew : boilerEntry can (systemTime (s.now + delay)) transfer = new
    at htable hself hstep
  have hnewId : new.nodeId = transfer.sourceNodeId := by rw [← hnew]; rfl
  refine ⟨h.since_le.trans (Nat.le_add_right _ _), ?_, hdistinct, ?_, ?_, ?_, ?_⟩
  · rw [hstep, length_put, h.length]
  · intro e he hid
    rw [hstep] at he hdistinct
    show ∃ m, latest (_ :: s.received) e.nodeId = some m ∧ _
    rw [latest_cons]
    by_cases hsame : transfer.sourceNodeId = e.nodeId
    · -- The entry of the sender is the new one.
      have heq := hdistinct.eq_of_key he hself hid (hsame.symm.trans hnewId.symm)
      rw [if_pos hsame, heq, ← hnew]
      exact ⟨_, rfl, rfl, rfl⟩
    · obtain rfl | hold := mem_put he
      · exact absurd hnewId.symm hsame
      · rw [if_neg hsame]
        exact h.entry e hold hid
  · intro source m hm hyoung
    rw [hstep]
    change latest (_ :: s.received) source = some m at hm
    change s.now + delay < _ at hyoung
    rw [latest_cons] at hm
    by_cases hsame : transfer.sourceNodeId = source
    · exact ⟨new, hself, hnewId.trans hsame⟩
    · rw [if_neg hsame] at hm
      obtain ⟨e, he, rfl⟩ := h.recent source m hm (by omega)
      exact ⟨e, mem_put_of_mem he (h.not_place hnz hm hsame), rfl⟩
  · intro m hm
    change m ∈ _ :: s.received at hm
    obtain rfl | hm := List.mem_cons.mp hm
    · exact ⟨h.since_le.trans (Nat.le_add_right _ _), Nat.le_refl _⟩
    · obtain ⟨h1, h2⟩ := h.times m hm
      exact ⟨h1, h2.trans (Nat.le_add_right _ _)⟩
  · intro m hm
    obtain rfl | hm := List.mem_cons.mp hm
    · exact hsource
    · exact h.sources m hm

/-- The state after a call of `get_target_power`. -/
theorem SharingOk.poll (can : Canard) (h : SharingOk ids since s) (hnz : (0 : UInt8) ∉ ids)
    {delay : ℕ} (hlt : s.now + delay < since + systimeRange) :
    SharingOk ids since (shareStep can s (.poll delay)) := by
  have hfrees : Frees OtherBoilerStatus.nodeId 0 (Expired (systemTime (s.now + delay)))
      s.boiler.otherBoilerStatus (shareStep can s (.poll delay)).boiler.otherBoilerStatus :=
    pollEntries_snd _ _ _
  refine ⟨h.since_le.trans (Nat.le_add_right _ _), ?_, hfrees.distinct h.distinct, ?_, ?_, ?_,
    h.sources⟩
  · rw [← hfrees.length_eq, h.length]
  · intro e he hid
    exact h.entry e (hfrees.mem he hid) hid
  · intro source m hm hyoung
    change s.now + delay < _ at hyoung
    obtain ⟨e, he, hek⟩ := h.recent source m hm (by omega)
    obtain ⟨hmem, hms⟩ := latest_mem hm
    have hid : e.nodeId ≠ 0 := fun h0 => hnz (h0 ▸ hek ▸ hms ▸ h.sources m hmem)
    refine ⟨e, hfrees.mem_of_not he ?_, hek⟩
    obtain ⟨m', hm', hupdate, -⟩ := h.entry e he hid
    rw [hek] at hm'
    obtain rfl : m = m' := Option.some.inj (hm.symm.trans hm')
    have hold := (h.times m hmem).2
    rw [Expired, hupdate, h.age hm (Nat.le_add_right _ _) hlt]
    omega
  · intro m hm
    obtain ⟨h1, h2⟩ := h.times m hm
    exact ⟨h1, h2.trans (Nat.le_add_right _ _)⟩

/-- **The invariant**: an event that meets the guard keeps it. -/
theorem sharingOk_step (can : Canard) (since : ℕ) (hids : ids.length ≤ maxOtherBoilerNodes)
    (hnz : (0 : UInt8) ∉ ids) :
    Machine.KeepsIf (shareStep can) (fun s e => NoGap s e ∧ Within ids since s e)
      (SharingOk ids since) := by
  rintro s e ⟨hgap, hfrom, hlt⟩ h
  cases e with
  | status delay transfer =>
    refine h.status hids hnz hfrom ?_
    have htable := h.status_table can hids hfrom (systemTime (s.now + delay))
    show DistinctNodes (s.boiler.onBoilerstatusData can _ transfer).otherBoilerStatus
    rw [htable]
    exact (distinct_put_iff (a := boilerEntry can (systemTime (s.now + delay)) transfer)
      h.distinct rfl fun h0 => hnz (h0 ▸ hfrom)).mpr hgap
  | poll delay => exact h.poll can hnz hlt
  | adjust => exact ⟨h.since_le, h.length, h.distinct, h.entry, h.recent, h.times, h.sources⟩

/-- **What an event owes** under the invariant: exactly that a message meets no gap. -/
theorem correct_iff (h : SharingOk ids since s) (hids : ids.length ≤ maxOtherBoilerNodes)
    (hnz : (0 : UInt8) ∉ ids) {e : SharingEvent} (hwithin : Within ids since s e) :
    Correct can s e ↔ NoGap s e := by
  obtain ⟨hfrom, hlt⟩ := hwithin
  cases e with
  | status delay transfer =>
    have htable := h.status_table can hids hfrom (systemTime (s.now + delay))
    have hiff := distinct_put_iff (a := boilerEntry can (systemTime (s.now + delay)) transfer)
      h.distinct rfl fun h0 => hnz (h0 ▸ hfrom)
    rw [boilerEntry_nodeId, ← htable] at hiff
    refine (and_iff_left ?_).trans hiff
    intro delay' heq
    cases heq
  | poll delay =>
    refine iff_of_true ⟨(h.poll can hnz hlt).distinct, ?_⟩ trivial
    rintro delay' ⟨⟩
    have hanswer := (pollEntries_fst (systemTime (s.now + delay)) s.boiler.calculatePriority
      s.boiler.otherBoilerStatus).trans
        (h.outvoted_iff hnz (Nat.le_add_right _ _) hlt s.boiler.calculatePriority)
    refine ⟨fun hout => if_pos (hanswer.mpr hout), fun hno => if_neg fun htrue => ?_⟩
    exact hno (hanswer.mp htrue)
  | adjust =>
    refine iff_of_true ⟨h.distinct, ?_⟩ trivial
    intro delay heq
    cases heq

/-! ## Runs -/

theorem shareStep_now (e : SharingEvent) : (shareStep can s e).now = s.now + e.delay := by
  cases e <;> rfl

/-- A run of messages from `ids` that spans less than one wrap. -/
theorem meets_within {es : List SharingEvent} (hfrom : ∀ e ∈ es, e.From ids)
    (htime : s.now + (es.map SharingEvent.delay).sum < since + systimeRange) :
    Machine.Meets (shareStep can) (Within ids since) s es := by
  induction es generalizing s with
  | nil => trivial
  | cons e es ih =>
    rw [List.map_cons, List.sum_cons] at htime
    refine ⟨⟨hfrom e List.mem_cons_self, by omega⟩, ih ?_ ?_⟩
    · exact fun e' he' => hfrom e' (List.mem_cons_of_mem e he')
    · rw [shareStep_now]
      omega

theorem sharingOk_start (ids : List UInt8) (configPin now : ℕ) :
    SharingOk ids now (.start configPin now) where
  since_le := Nat.le_refl now
  length := rfl
  distinct := List.pairwise_replicate.mpr (.inr fun hne => absurd rfl hne)
  entry := by
    intro e he hne
    exact absurd (congrArg OtherBoilerStatus.nodeId (List.eq_of_mem_replicate he)) hne
  recent := by
    intro source m hm
    cases hm
  times := by
    intro m hm
    cases hm
  sources := by
    intro m hm
    cases hm

/-- **When the boilers share by the latest messages**: in a run of messages from at most as many
nodes as the table has entries, within one wrap, exactly if each message comes while no free entry
lies before the one of its node. -/
theorem sharing_correct_iff (can : Canard) (configPin now : ℕ) {ids : List UInt8}
    (hids : ids.length ≤ maxOtherBoilerNodes) (hnz : (0 : UInt8) ∉ ids) {es : List SharingEvent}
    (hfrom : ∀ e ∈ es, e.From ids) (htime : (es.map SharingEvent.delay).sum < systimeRange) :
    Machine.Meets (shareStep can) (Correct can) (.start configPin now) es ↔
      Machine.Meets (shareStep can) NoGap (.start configPin now) es := by
  have hwithin : Machine.Meets (shareStep can) (Within ids now) (.start configPin now) es :=
    meets_within hfrom (Nat.add_lt_add_left htime now)
  have hcongr := (sharingOk_step can now hids hnz).meets_congr
    (P := fun s e => Correct can s e ∧ Within ids now s e)
    (fun s e h => and_congr_left fun hw => correct_iff h hids hnz hw)
    (sharingOk_start ids configPin now) es
  rw [Machine.meets_and, Machine.meets_and] at hcongr
  simpa only [and_iff_left hwithin] using hcongr

/-- A status message with an empty payload: the decoder leaves the priority at zero. -/
def emptyStatus (source : UInt8) : CanardRxTransfer := ⟨source, 0, 0, [], by decide, fun _ => 0⟩

/-- Node 1 at 0 s, node 2 at 10 s, a call of `get_target_power` at 16 s and again node 2. -/
def expiringFirst : List SharingEvent :=
  [.status 0 (emptyStatus 1), .status 100000 (emptyStatus 2), .poll 60000,
    .status 0 (emptyStatus 2)]

theorem sharing_correct_iff_expiringFirst :
    Machine.Meets (shareStep .uavcan) (Correct .uavcan) (.start 0 0) expiringFirst ↔
      Machine.Meets (shareStep .uavcan) NoGap (.start 0 0) expiringFirst :=
  @sharing_correct_iff .uavcan 0 0 [1, 2] (by decide) (by decide) expiringFirst
    (by simp [expiringFirst, SharingEvent.From, emptyStatus]) (by decide)

/-- In this run node 2 gets a second entry. -/
theorem not_sharing_correct :
    ¬ ∀ (can : Canard) (configPin now : ℕ) (ids : List UInt8), ids.length ≤ maxOtherBoilerNodes →
      (0 : UInt8) ∉ ids → ∀ es : List SharingEvent, (∀ e ∈ es, e.From ids) →
        (es.map SharingEvent.delay).sum < systimeRange →
          Machine.Meets (shareStep can) (Correct can) (.start configPin now) es := by
  intro h
  have hrun := h .uavcan 0 0 [1, 2] (by decide) (by decide) expiringFirst
    (by simp [expiringFirst, SharingEvent.From, emptyStatus]) (by decide)
  have htable : DistinctNodes [boilerEntry .uavcan 160000 (emptyStatus 2),
      boilerEntry .uavcan 100000 (emptyStatus 2), ⟨0, 0, 0, 0, 0⟩] := hrun.2.2.2.1.1
  have htwice := (distinct_cons.mp htable).1 _ List.mem_cons_self
  exact htwice (by decide) rfl

end Boiler

end HouseBus
