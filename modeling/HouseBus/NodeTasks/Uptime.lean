import HouseBus.NodeTasks

/-!
# The uptime that the node reports

Only a pass sees that the system time has wrapped: from the wrap to its comparison the uptime
starts again. Where every status is built with all wraps seen (`WrapsSeen`), it is `reportedUptime`
of its real tick: per wrap 0.7296 s are lost, and `TIME_I2S` rounds up, so that 429497 s before a
wrap are followed by 429496 s at the counter value 0.
-/

namespace HouseBus

/-- The seconds added for a wrap of the system time. -/
abbrev wrapSeconds : ℕ := 2 ^ 32 / stFrequency

/-- The uptime at tick `t` if every wrap up to `t` has been seen. -/
def reportedUptime (t : ℕ) : ℕ :=
  timeI2S (systemTime t) + wrapSeconds * Ticks.epoch systimeRange t

/-- The uptimes of the node statuses sent, the first one first. -/
def NodeRun.uptimes (s : NodeRun) : List ℕ := s.node.sent.map NodeStatus.uptimeSec

/-- From the store to `lastSystime` in one pass to the comparison in the next less than one wrap
passes. -/
def PassesApart (s : NodeRun) : NodeEvent → Prop
  | .pass p _ => (p.readings s.now).compare < s.lastStore + systimeRange
  | _ => True

/-- A status at tick `t` behind one at tick `last` is not at the counter value 0, right after a
wrap. -/
def NotAtZero (last t : ℕ) : Prop :=
  systemTime t = 0 → Ticks.epoch systimeRange last < Ticks.epoch systimeRange t →
    last + 7296 ≤ t

/-- The event builds its status with all wraps seen. -/
def WrapsSeen (s : NodeRun) : NodeEvent → Prop
  | .pass p _ =>
    Ticks.epoch systimeRange (p.readings s.now).compare =
        Ticks.epoch systimeRange (p.readings s.now).status ∧
      NotAtZero s.lastStatus (p.readings s.now).status
  | .getNodeInfo wait _ =>
    Ticks.epoch systimeRange s.lastStore = Ticks.epoch systimeRange (s.now + wait) ∧
      NotAtZero s.lastStatus (s.now + wait)
  | .requestRestart _ _ => True

instance (last t : ℕ) : Decidable (NotAtZero last t) :=
  inferInstanceAs (Decidable (_ → _ → _))

instance : ∀ (s : NodeRun) (e : NodeEvent), Decidable (PassesApart s e)
  | _, .pass _ _ => inferInstanceAs (Decidable (_ < _))
  | _, .getNodeInfo _ _ | _, .requestRestart _ _ => inferInstanceAs (Decidable True)

instance : ∀ (s : NodeRun) (e : NodeEvent), Decidable (WrapsSeen s e)
  | _, .pass _ _ | _, .getNodeInfo _ _ => inferInstanceAs (Decidable (_ ∧ _))
  | _, .requestRestart _ _ => inferInstanceAs (Decidable True)

/-! ## The reported uptime -/

theorem reportedUptime_eq (t : ℕ) :
    reportedUptime t =
      (Ticks.clock systimeRange t + 9999) / 10000 + 429496 * Ticks.epoch systimeRange t := rfl

/-- Ticks by the readings and the wraps. -/
theorem ticks_eq (t : ℕ) :
    4294967296 * Ticks.epoch systimeRange t + Ticks.clock systimeRange t = t :=
  Ticks.epoch_mul_add_clock t

theorem clock_lt_range (t : ℕ) : Ticks.clock systimeRange t < 4294967296 :=
  Ticks.clock_lt (by decide) t

theorem reportedUptime_mono {s t : ℕ} (hle : s ≤ t) (hzero : NotAtZero s t) :
    reportedUptime s ≤ reportedUptime t := by
  have hs := ticks_eq s
  have ht := ticks_eq t
  have hlt := clock_lt_range s
  rw [reportedUptime_eq, reportedUptime_eq]
  obtain hepoch | hepoch := (Ticks.epoch_mono (W := systimeRange) hle).eq_or_lt
  · omega
  · by_cases h0 : systemTime t = 0
    · have hsafe := hzero h0 hepoch
      omega
    · have hpos : 0 < Ticks.clock systimeRange t := Nat.pos_of_ne_zero h0
      omega

/-- Below 2^32 seconds the reported uptime does not overflow. -/
theorem reportedUptime_lt {t : ℕ} (h : t < 2 ^ 32 * stFrequency) : reportedUptime t < 2 ^ 32 := by
  have ht := ticks_eq t
  have hlt := clock_lt_range t
  have hticks : t < 42949672960000 := h
  rw [reportedUptime_eq]
  omega

/-! ## What a status keeps -/

/-- The statuses so far do not decrease, up to that of tick `last`. -/
structure Ascending (last : ℕ) (uptimes : List ℕ) : Prop where
  sorted : uptimes.Pairwise (· ≤ ·)
  le_last : ∀ u ∈ uptimes, u ≤ reportedUptime last

theorem Ascending.snoc {last t : ℕ} {uptimes : List ℕ} (h : Ascending last uptimes)
    (hle : last ≤ t) (hzero : NotAtZero last t) :
    Ascending t (uptimes ++ [reportedUptime t]) := by
  have hmono := reportedUptime_mono hle hzero
  refine ⟨List.pairwise_append.mpr ⟨h.sorted, List.pairwise_singleton _ _, ?_⟩, ?_⟩
  · intro u hu v hv
    rw [List.mem_singleton.mp hv]
    exact (h.le_last u hu).trans hmono
  · intro u hu
    obtain hu | hu := List.mem_append.mp hu
    · exact (h.le_last u hu).trans hmono
    · exact (List.mem_singleton.mp hu).le

/-- The node knows the wraps up to the last store to `lastSystime`. -/
structure UptimeOk (s : NodeRun) : Prop where
  lastStore_le : s.lastStore ≤ s.now
  lastStatus_le : s.lastStatus ≤ s.now
  lastSystime : s.node.lastSystime = systemTime s.lastStore
  extension : s.node.systimeExtensionS = wrapSeconds * Ticks.epoch systimeRange s.lastStore
  ascending : Ascending s.lastStatus s.uptimes

/-- The uptime of a status with all wraps seen. -/
theorem uptimeSec_eq {node : CanNode} {store t : ℕ}
    (hext : node.systimeExtensionS = wrapSeconds * Ticks.epoch systimeRange store)
    (hepoch : Ticks.epoch systimeRange store = Ticks.epoch systimeRange t)
    (ht : t < 2 ^ 32 * stFrequency) : node.uptimeSec (systemTime t) = reportedUptime t := by
  rw [CanNode.uptimeSec, hext, hepoch]
  exact Nat.mod_eq_of_lt (reportedUptime_lt ht)

/-- **The extension**: a comparison less than one wrap after the last store sees a wrap. -/
theorem UptimeOk.extendSystime {s : NodeRun} (h : UptimeOk s) (clock : PassClock)
    {compare store : ℕ} (hcompare : clock.compare = systemTime compare)
    (hle : s.now ≤ compare) (hlt : compare < s.lastStore + systimeRange)
    (hepoch : Ticks.epoch systimeRange compare = Ticks.epoch systimeRange store)
    (hstore : store < 2 ^ 32 * stFrequency) :
    (s.node.extendSystime clock).systimeExtensionS =
      wrapSeconds * Ticks.epoch systimeRange store := by
  have hfrom : s.lastStore ≤ compare := h.lastStore_le.trans hle
  have hwrap := Ticks.clock_lt_iff_epoch hfrom hlt
  simp only [CanNode.extendSystime, hcompare, h.lastSystime, h.extension]
  by_cases hlow : systemTime compare < systemTime s.lastStore
  · rw [if_pos hlow, ← hepoch, hwrap.mp hlow]
    have ht := ticks_eq store
    have hticks : store < 42949672960000 := hstore
    have he := hwrap.mp hlow
    refine (Nat.mod_eq_of_lt ?_).trans (Nat.mul_succ _ _).symm
    show 429496 * Ticks.epoch systimeRange s.lastStore + 429496 < 4294967296
    omega
  · rw [if_neg hlow, ← hepoch]
    obtain he | he := Ticks.epoch_of_lt hfrom hlt
    · rw [he]
    · exact absurd (hwrap.mpr he) hlow

theorem uptimes_send {node : CanNode} (now vdda : ℕ) :
    (node.sendNodeStatus now vdda).sent.map NodeStatus.uptimeSec =
      node.sent.map NodeStatus.uptimeSec ++ [node.uptimeSec now] := by
  rw [CanNode.sendNodeStatus, List.map_append]
  rfl

/-! ## Runs -/

/-- A run of less than 2^32 seconds, with passes apart, that builds every status with all wraps
seen. -/
def UptimeGuard (s : NodeRun) (e : NodeEvent) : Prop :=
  PassesApart s e ∧ (e.step s).now < 2 ^ 32 * stFrequency ∧ WrapsSeen s e

theorem UptimeOk.pass {s : NodeRun} (h : UptimeOk s) (hrunning : s.node.reset = false) {p : Pass}
    {vdda : ℕ} (hguard : UptimeGuard s (.pass p vdda)) :
    UptimeOk (NodeEvent.act s (.pass p vdda)) := by
  obtain ⟨hapart, hlong, hepoch, hzero⟩ := hguard
  rw [NodeEvent.step_of_running hrunning] at hlong
  obtain ⟨hsystime, hextension, hsent⟩ := @CanNode.uptime_pass (p.readings s.now).shown vdda s.node
  have hcompare : s.now ≤ (p.readings s.now).compare := by
    show s.now ≤ s.now + p.current + p.compare
    omega
  have hstore : (p.readings s.now).compare ≤ (p.readings s.now).store := Nat.le_add_right _ _
  have hstatus : (p.readings s.now).store ≤ (p.readings s.now).status := Nat.le_add_right _ _
  have hepoch' : Ticks.epoch systimeRange (p.readings s.now).compare =
      Ticks.epoch systimeRange (p.readings s.now).store :=
    (Ticks.epoch_mono hstore).antisymm ((Ticks.epoch_mono hstatus).trans hepoch.ge)
  have hseen := h.extendSystime (p.readings s.now).shown rfl hcompare hapart hepoch'
    (hstatus.trans_lt hlong)
  refine ⟨hstatus, Nat.le_refl _, hsystime, hextension.trans hseen, ?_⟩
  have huptime := uptimeSec_eq hseen (hepoch'.symm.trans hepoch) hlong
  have hsent' := (congrArg (List.map NodeStatus.uptimeSec) hsent).trans (uptimes_send _ vdda)
  have hlist : (NodeEvent.act s (.pass p vdda)).uptimes = s.uptimes ++ [reportedUptime _] :=
    hsent'.trans (congrArg (s.uptimes ++ [·]) huptime)
  have hlast : s.lastStatus ≤ (p.readings s.now).status :=
    h.lastStatus_le.trans (hcompare.trans (hstore.trans hstatus))
  rw [hlist]
  exact h.ascending.snoc hlast hzero

theorem uptimeOk_step : Machine.KeepsIf NodeEvent.step UptimeGuard UptimeOk := by
  intro s e hguard h
  obtain ⟨-, hstep⟩ | ⟨hrunning, hstep⟩ := NodeEvent.step_cases s e
  · rw [hstep]
    exact h
  · rw [hstep]
    cases e with
    | pass p vdda => exact h.pass hrunning hguard
    | getNodeInfo wait vdda =>
      obtain ⟨-, hlong, hepoch, hzero⟩ := hguard
      rw [hstep] at hlong
      refine ⟨h.lastStore_le.trans (Nat.le_add_right _ _), Nat.le_refl _, h.lastSystime,
        h.extension, ?_⟩
      have huptime := uptimeSec_eq h.extension hepoch hlong
      have hsent := @uptimes_send s.node (systemTime (s.now + wait)) vdda
      have hlist : (NodeEvent.act s (.getNodeInfo wait vdda)).uptimes =
          s.uptimes ++ [reportedUptime _] :=
        hsent.trans (congrArg (s.uptimes ++ [·]) huptime)
      have hlast : s.lastStatus ≤ s.now + wait := h.lastStatus_le.trans (Nat.le_add_right _ _)
      rw [hlist]
      exact h.ascending.snoc hlast hzero
    | requestRestart wait nodeId =>
      exact ⟨h.lastStore_le.trans (Nat.le_add_right _ _),
        h.lastStatus_le.trans (Nat.le_add_right _ _), h.lastSystime, h.extension, h.ascending⟩

theorem uptimeOk_start (boot : BootloaderInterface) : UptimeOk (.start boot) where
  lastStore_le := Nat.le_refl 0
  lastStatus_le := Nat.le_refl 0
  lastSystime := rfl
  extension := by
    show 0 = wrapSeconds * Ticks.epoch systimeRange 0
    rfl
  ascending := ⟨List.Pairwise.nil, by rintro u ⟨⟩⟩

theorem le_now_run (s : NodeRun) (es : List NodeEvent) :
    s.now ≤ (Machine.run NodeEvent.step s es).now := by
  induction es generalizing s with
  | nil => exact Nat.le_refl _
  | cons e es ih => exact (NodeEvent.le_now_step s e).trans (ih (e.step s))

/-- A run is at no step later than at its end. -/
theorem meets_now_lt {bound : ℕ} {s : NodeRun} {es : List NodeEvent}
    (h : (Machine.run NodeEvent.step s es).now < bound) :
    Machine.Meets NodeEvent.step (fun s e => (e.step s).now < bound) s es := by
  induction es generalizing s with
  | nil => trivial
  | cons e es ih => exact ⟨(le_now_run (e.step s) es).trans_lt h, ih h⟩

/-- **The uptime does not go backwards**: in a run from the boot with passes less than one wrap
apart and a true uptime below 2^32 seconds, if every status is built with all wraps seen. -/
theorem uptimes_ascending (boot : BootloaderInterface) (es : List NodeEvent)
    (hapart : Machine.Meets NodeEvent.step PassesApart (.start boot) es)
    (huptime : (Machine.run NodeEvent.step (.start boot) es).now < 2 ^ 32 * stFrequency)
    (hseen : Machine.Meets NodeEvent.step WrapsSeen (.start boot) es) :
    (Machine.run NodeEvent.step (.start boot) es).uptimes.Pairwise (· ≤ ·) := by
  have hguard : Machine.Meets NodeEvent.step UptimeGuard (.start boot) es :=
    Machine.meets_and.mpr ⟨hapart, Machine.meets_and.mpr ⟨meets_now_lt huptime, hseen⟩⟩
  exact (uptimeOk_step.run (uptimeOk_start boot) hguard).ascending.sorted

/-- Passes on both sides of a wrap, then a request. -/
def requestBehindWrap : List NodeEvent :=
  [.pass ⟨2 ^ 32 - 10000, 0, 0, 0⟩ 3300, .pass ⟨10500, 0, 0, 0⟩ 3300, .getNodeInfo 100 3300]

theorem uptimes_ascending_behindWrap :
    (Machine.run NodeEvent.step (.start ⟨fun _ => 0⟩) requestBehindWrap).uptimes.Pairwise
      (· ≤ ·) :=
  uptimes_ascending ⟨fun _ => 0⟩ requestBehindWrap (by decide) (by decide) (by decide)

/-- A request between the wrap and the next pass. -/
def requestAtWrap : List NodeEvent := [.pass ⟨2 ^ 32 - 5000, 0, 0, 0⟩ 3300, .getNodeInfo 5100 3300]

/-- The response reports an uptime of one second. -/
theorem not_uptimes_ascending :
    ¬ ∀ (boot : BootloaderInterface) (es : List NodeEvent),
      Machine.Meets NodeEvent.step PassesApart (.start boot) es →
      (Machine.run NodeEvent.step (.start boot) es).now < 2 ^ 32 * stFrequency →
        (Machine.run NodeEvent.step (.start boot) es).uptimes.Pairwise (· ≤ ·) := by
  intro h
  have hsorted := h ⟨fun _ => 0⟩ requestAtWrap (by decide) (by decide)
  have huptimes : [429497, 1].Pairwise (· ≤ ·) := hsorted
  exact absurd huptimes (by decide)

end HouseBus
