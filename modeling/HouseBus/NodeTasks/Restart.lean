import HouseBus.NodeTasks

/-!
# A requested restart

`requestNodeRestart` stores the system time one second later; a pass resets the node when its own
system time is greater. The two are in the order of the real ticks only while the counter has not
wrapped between them, and a deadline of 0 is none (`restart_inTime_iff`).
-/

namespace HouseBus

/-- The real tick that a restart requested at tick `r` waits for. -/
def restartAt (r : ℕ) : ℕ := r + timeS2I 1

/-- What the node owes after a request at tick `r`, up to the first pass later than `restartAt r`:
the restart stays requested, a pass does not reset the node before, and this one does if it is less
than 2^31 ticks after the request. -/
def RestartsInTime (r : ℕ) (s : NodeRun) (e : NodeEvent) : Prop :=
  s.lastPass ≤ restartAt r →
    ((e.step s).lastPass ≤ restartAt r → isNodeRestartRequested (e.step s).node.state = true) ∧
      ∀ c, e.passAt s.now = some c →
        (c ≤ restartAt r → (e.step s).node.reset = false) ∧
          (restartAt r < c → c < r + 2 ^ 31 → (e.step s).node.reset = true)

/-- Up to that pass, a pass less than 2^31 ticks after the request is in the epoch of the
deadline. -/
def PassesInEpoch (r : ℕ) (s : NodeRun) (e : NodeEvent) : Prop :=
  s.lastPass ≤ restartAt r → ∀ c, e.passAt s.now = some c → c < r + 2 ^ 31 →
    Ticks.epoch systimeRange (restartAt r) = Ticks.epoch systimeRange c

/-- The node waits for the deadline of a request at tick `r`. -/
structure Waiting (r : ℕ) (s : NodeRun) : Prop where
  nodeRestartAt : s.node.state.nodeRestartAt = systemTime (restartAt r)
  ne_zero : systemTime (restartAt r) ≠ 0
  le_now : r ≤ s.now
  lastPass_le : s.lastPass ≤ s.now
  running : s.lastPass ≤ restartAt r → s.node.reset = false

variable {r : ℕ} {s : NodeRun}

theorem Waiting.requested (h : Waiting r s) : isNodeRestartRequested s.node.state = true := by
  have hne : s.node.state.nodeRestartAt ≠ 0 := by
    rw [h.nodeRestartAt]
    exact h.ne_zero
  simpa [isNodeRestartRequested] using hne

/-- **A pass** while the node waits: it resets the node if its reading is greater. -/
theorem Waiting.reset_iff (h : Waiting r s) (hlast : s.lastPass ≤ restartAt r) (p : Pass)
    (vdda : ℕ) :
    (NodeEvent.step s (.pass p vdda)).node.reset = true ↔
      systemTime (restartAt r) < systemTime (p.readings s.now).current := by
  have hrunning := h.running hlast
  rw [NodeEvent.step_of_running hrunning]
  apply CanNode.reset_pass.trans
  rw [hrunning, or_iff_left Bool.false_ne_true, CanNode.RestartDue, h.nodeRestartAt]
  exact and_iff_right h.ne_zero

/-- The deadline and a pass in time, by their readings. -/
theorem Waiting.order_iff (h : Waiting r s) {p : Pass}
    (hc : (p.readings s.now).current < r + 2 ^ 31) :
    (systemTime (restartAt r) < systemTime (p.readings s.now).current ↔
        restartAt r < (p.readings s.now).current) ↔
      Ticks.epoch systimeRange (restartAt r) =
        Ticks.epoch systimeRange (p.readings s.now).current := by
  have hle : r ≤ (p.readings s.now).current := h.le_now.trans (Nat.le_add_right _ _)
  apply Ticks.clock_order_iff
  · exact hc.trans_le (Nat.add_le_add (Nat.le_add_right _ _) (by decide))
  · exact Nat.add_lt_add_of_le_of_lt hle (by decide)

theorem nodeRestartAt_act (e : NodeEvent) (h : s.node.state.nodeRestartAt ≠ 0) :
    (e.act s).node.state.nodeRestartAt = s.node.state.nodeRestartAt := by
  cases e with
  | pass p vdda => exact congrArg NodeState.nodeRestartAt CanNode.state_pass
  | getNodeInfo wait vdda => rfl
  | requestRestart wait nodeId => exact CanNode.nodeRestartAt_requestNodeRestart _ _ h

theorem Waiting.nodeRestartAt_step (h : Waiting r s) (e : NodeEvent) :
    (e.step s).node.state.nodeRestartAt = systemTime (restartAt r) := by
  have hne : s.node.state.nodeRestartAt ≠ 0 := by
    rw [h.nodeRestartAt]
    exact h.ne_zero
  obtain ⟨-, hstep⟩ | ⟨-, hstep⟩ := NodeEvent.step_cases s e <;> rw [hstep]
  · exact h.nodeRestartAt
  · rw [nodeRestartAt_act e hne, h.nodeRestartAt]

/-- **What a pass owes**: it resets the node exactly when it should if it is in the epoch of the
deadline. -/
theorem Waiting.reset_inTime_iff (h : Waiting r s) (hlast : s.lastPass ≤ restartAt r) {p : Pass}
    (hc : (p.readings s.now).current < r + 2 ^ 31) (vdda : ℕ) :
    ((NodeEvent.step s (.pass p vdda)).node.reset = true ↔
        restartAt r < (p.readings s.now).current) ↔
      Ticks.epoch systimeRange (restartAt r) =
        Ticks.epoch systimeRange (p.readings s.now).current := by
  rw [h.reset_iff hlast]
  exact h.order_iff hc

/-- Every event that meets the guard keeps the node waiting. -/
theorem waiting_step : Machine.KeepsIf NodeEvent.step (PassesInEpoch r) (Waiting r) := by
  rintro s e hepoch h
  refine ⟨h.nodeRestartAt_step e, h.ne_zero, h.le_now.trans (NodeEvent.le_now_step s e),
    NodeEvent.lastPass_le_step h.lastPass_le e, fun hlast => ?_⟩
  obtain ⟨-, hstep⟩ | ⟨hrunning, hstep⟩ := NodeEvent.step_cases s e
  · rw [hstep] at hlast ⊢
    exact h.running hlast
  · cases e with
    | pass p vdda =>
      rw [hstep] at hlast
      change (p.readings s.now).current ≤ restartAt r at hlast
      have hbefore : s.lastPass ≤ restartAt r :=
        (h.lastPass_le.trans (Nat.le_add_right _ _)).trans hlast
      have hc : (p.readings s.now).current < r + 2 ^ 31 :=
        hlast.trans_lt (Nat.add_lt_add_left (by decide) r)
      have hiff := (h.reset_inTime_iff hbefore hc vdda).mpr (hepoch hbefore _ rfl hc)
      exact Bool.eq_false_iff.mpr fun hdone => absurd (hiff.mp hdone) hlast.not_gt
    | getNodeInfo | requestRestart =>
      rw [hstep]
      exact hrunning

/-- **What an event owes** is what the epochs give. -/
theorem Waiting.inTime_iff (h : Waiting r s) (e : NodeEvent) :
    RestartsInTime r s e ↔ PassesInEpoch r s e := by
  constructor
  · intro howed hlast c hpass hc
    obtain ⟨-, hpasses⟩ := howed hlast
    obtain ⟨hearly, hlate⟩ := hpasses c hpass
    cases e with
    | pass p vdda =>
      obtain rfl := Option.some.inj hpass
      refine (h.reset_inTime_iff hlast hc vdda).mp ⟨fun hreset => ?_, fun hlt => hlate hlt hc⟩
      by_contra hle
      exact absurd (hreset.symm.trans (hearly (Nat.not_lt.mp hle))) (by decide)
    | getNodeInfo | requestRestart => cases hpass
  · intro hepoch hlast
    refine ⟨fun _ => (waiting_step s e hepoch h).requested, ?_⟩
    intro c hpass
    cases e with
    | pass p vdda =>
      obtain rfl := Option.some.inj hpass
      refine ⟨fun hle => ?_, fun hlt hc => ?_⟩
      · exact (waiting_step s _ hepoch h).running ((NodeEvent.step_of_running
          (h.running hlast) (.pass p vdda)).symm ▸ hle)
      · exact ((h.reset_inTime_iff hlast hc vdda).mpr (hepoch hlast _ hpass hc)).mpr hlt
    | getNodeInfo | requestRestart => cases hpass

/-! ## Runs -/

/-- What holds before a request: a node that was reset had one. -/
structure Unrequested (s : NodeRun) : Prop where
  lastPass_le : s.lastPass ≤ s.now
  reset : s.node.reset = true → s.node.state.nodeRestartAt ≠ 0

theorem unrequested_step : Machine.Keeps NodeEvent.step Unrequested := by
  intro s e h
  refine ⟨NodeEvent.lastPass_le_step h.lastPass_le e, ?_⟩
  obtain ⟨-, hstep⟩ | ⟨hrunning, hstep⟩ := NodeEvent.step_cases s e <;> rw [hstep]
  · exact h.reset
  · intro hdone
    cases e with
    | pass p vdda =>
      obtain ⟨hrequested, -⟩ | hdone := CanNode.reset_pass.mp hdone
      · have hstate := congrArg NodeState.nodeRestartAt
          (@CanNode.state_pass (p.readings s.now).shown vdda s.node)
        exact fun h0 => hrequested (hstate.symm.trans h0)
      · exact absurd (hrunning.symm.trans hdone) Bool.false_ne_true
    | getNodeInfo | requestRestart => exact absurd (hrunning.symm.trans hdone) Bool.false_ne_true

/-- The first request stores the system time of its deadline. -/
theorem nodeRestartAt_request {node : CanNode} (h : node.state.nodeRestartAt = 0) (r nodeId : ℕ) :
    (node.requestNodeRestart (systemTime r) nodeId).state.nodeRestartAt =
      systemTime (restartAt r) := by
  simp only [CanNode.requestNodeRestart, App.requestNodeRestart, scheduleRestart, h, if_true]
  exact Nat.mod_add_mod r systimeRange (timeS2I 1)

/-- **When a restart happens in time**: after the first request, at tick `r`, exactly if the
deadline does not show as 0 and every pass up to the first one later than it is in its epoch. -/
theorem restart_inTime_iff (boot : BootloaderInterface) (es₀ : List NodeEvent) (wait nodeId : ℕ)
    (es : List NodeEvent) :
    let s₀ := Machine.run NodeEvent.step (.start boot) es₀
    let r := s₀.now + wait
    let s := NodeEvent.step s₀ (.requestRestart wait nodeId)
    s₀.node.state.nodeRestartAt = 0 →
      ((isNodeRestartRequested s.node.state = true ∧
          Machine.Meets NodeEvent.step (RestartsInTime r) s es) ↔
        (systemTime (restartAt r) ≠ 0 ∧ Machine.Meets NodeEvent.step (PassesInEpoch r) s es)) := by
  intro s₀ r s hfirst
  have hbefore : Unrequested s₀ := by
    refine unrequested_step.run ⟨Nat.le_refl 0, fun hreset => ?_⟩ es₀
    exact absurd hreset Bool.false_ne_true
  have hrunning : s₀.node.reset = false := by
    by_contra hne
    exact hbefore.reset (by simpa using hne) hfirst
  have hstep : s = NodeEvent.act s₀ (.requestRestart wait nodeId) :=
    NodeEvent.step_of_running hrunning _
  have hrestart : s.node.state.nodeRestartAt = systemTime (restartAt r) := by
    rw [hstep]
    exact nodeRestartAt_request hfirst r nodeId
  by_cases hzero : systemTime (restartAt r) = 0
  · refine iff_of_false (fun h => ?_) fun h => h.1 hzero
    have hrequested := h.1
    simp [isNodeRestartRequested, hrestart, hzero] at hrequested
  · have hwaiting : Waiting r s := by
      refine ⟨hrestart, hzero, ?_, ?_, fun _ => ?_⟩
      · rw [hstep]
        exact Nat.le_refl _
      · rw [hstep]
        exact NodeEvent.lastPass_le_act hbefore.lastPass_le _
      · rw [hstep]
        exact hrunning
    rw [and_iff_right hwaiting.requested, and_iff_right hzero]
    exact waiting_step.meets_congr (fun s e h => h.inTime_iff e) hwaiting es

/-- A pass before the wrap. -/
def passBeforeWrap : List NodeEvent := [.pass ⟨2 ^ 32 - 15500, 0, 0, 0⟩ 3300]

/-- A restart requested 5499 ticks later, so that its deadline is the last tick before the wrap. -/
def requestBeforeWrap : NodeRun :=
  NodeEvent.step (Machine.run NodeEvent.step (.start ⟨fun _ => 0⟩) passBeforeWrap)
    (.requestRestart 5499 1)

/-- The next passes: half a second after the request, and behind the wrap. -/
def passesAtWrap : List NodeEvent := [.pass ⟨5001, 0, 0, 0⟩ 3300, .pass ⟨10500, 0, 0, 0⟩ 3300]

theorem restart_inTime_iff_atWrap :
    (isNodeRestartRequested requestBeforeWrap.node.state = true ∧
        Machine.Meets NodeEvent.step (RestartsInTime (2 ^ 32 - 10001)) requestBeforeWrap
          passesAtWrap) ↔
      (systemTime (restartAt (2 ^ 32 - 10001)) ≠ 0 ∧
        Machine.Meets NodeEvent.step (PassesInEpoch (2 ^ 32 - 10001)) requestBeforeWrap
          passesAtWrap) :=
  restart_inTime_iff ⟨fun _ => 0⟩ passBeforeWrap 5499 1 passesAtWrap rfl

/-- The second of these passes is 5501 ticks later than the deadline and does not reset the node. -/
theorem not_restart_inTime :
    ¬ ∀ (boot : BootloaderInterface) (es₀ : List NodeEvent) (wait nodeId : ℕ)
      (es : List NodeEvent),
      let s₀ := Machine.run NodeEvent.step (.start boot) es₀
      let s := NodeEvent.step s₀ (.requestRestart wait nodeId)
      s₀.node.state.nodeRestartAt = 0 →
        isNodeRestartRequested s.node.state = true ∧
          Machine.Meets NodeEvent.step (RestartsInTime (s₀.now + wait)) s es := by
  intro h
  obtain ⟨-, -, hsecond, -⟩ := h ⟨fun _ => 0⟩ passBeforeWrap 5499 1 passesAtWrap rfl
  obtain ⟨-, hpasses⟩ := hsecond (by decide)
  have hreset := (hpasses _ rfl).2 (by decide) (by decide)
  exact absurd hreset (by decide)

end HouseBus
