import HouseBus.BootloaderInterface
import HouseBus.Lib.Machine

/-!
# The 1 Hz tasks of the application node (`sw/node.c`)

`CanNodeThread` runs a pass about once per second: `process1HzTasks` extends the 32-bit system time,
broadcasts the node status and calls `app_tick`; then the pass resets the node if a requested
restart is due. `onGetNodeInfo` also builds a node status, in the receive thread between the passes.

`PassClock` has the system times that a pass reads, in their order. The runs (`NodeRun`) are in real
time from the boot on.
-/

namespace HouseBus

/-! ## The functions -/

/-- `UAVCAN_NODE_HEALTH_OK` -/
def nodeHealthOk : ℕ := 0

/-- `UAVCAN_NODE_MODE_OPERATIONAL` -/
def nodeModeOperational : ℕ := 0

/-- `UAVCAN_NODE_MODE_INITIALIZATION` -/
def nodeModeInitialization : ℕ := 1

/-- `NodeStatus`, as `makeNodeStatusMessage` encodes it. -/
structure NodeStatus where
  uptimeSec : ℕ
  health : ℕ
  mode : ℕ
  vdda : ℕ

/-- The static variables of `node.c`, `lastSystime` of `process1HzTasks` and `lastInvocation` of
`CanNodeThread`, with the node statuses sent, the calls of `app_tick`, and whether
`NVIC_SystemReset` was called. -/
structure CanNode where
  state : NodeState
  nodeHealth : ℕ
  nodeMode : ℕ
  systimeExtensionS : ℕ
  lastSystime : ℕ
  lastInvocation : ℕ
  sent : List NodeStatus
  appTicks : ℕ
  reset : Bool

/-- The system times that a pass reads: `currentTime`, for the comparison with `lastSystime`, for
the new `lastSystime`, and for the status. -/
structure PassClock where
  current : ℕ
  compare : ℕ
  store : ℕ
  status : ℕ

namespace CanNode

/-- After `main` has set the mode; `boot` is what the bootloader left in the shared struct. -/
def start (boot : BootloaderInterface) : CanNode where
  state := ⟨boot, 0, false⟩
  nodeHealth := nodeHealthOk
  nodeMode := nodeModeOperational
  systimeExtensionS := 0
  lastSystime := 0
  lastInvocation := 0
  sent := []
  appTicks := 0
  reset := false

/-- `uptime_sec` at the system time `now`. -/
def uptimeSec (now : ℕ) (s : CanNode) : ℕ := (timeI2S now + s.systimeExtensionS) % 2 ^ 32

/-- `makeNodeStatusMessage`, and the status is sent. -/
def sendNodeStatus (now vdda : ℕ) (s : CanNode) : CanNode :=
  let mode := if isNodeRestartRequested s.state then nodeModeInitialization else s.nodeMode
  { s with
    nodeMode := mode
    sent := s.sent ++ [⟨s.uptimeSec now, s.nodeHealth, mode, vdda % 2 ^ 16⟩] }

/-- The node status of `onGetNodeInfo`. -/
def onGetNodeInfo (now vdda : ℕ) (s : CanNode) : CanNode := s.sendNodeStatus now vdda

/-- `broadcast_node_status` -/
def broadcastNodeStatus (now vdda : ℕ) (s : CanNode) : CanNode := s.sendNodeStatus now vdda

/-- The extension of the system time in `process1HzTasks`. -/
def extendSystime (clock : PassClock) (s : CanNode) : CanNode :=
  let extension :=
    if clock.compare < s.lastSystime then (s.systimeExtensionS + 2 ^ 32 / stFrequency) % 2 ^ 32
    else s.systimeExtensionS
  { s with systimeExtensionS := extension, lastSystime := clock.store }

/-- `process1HzTasks` -/
def process1HzTasks (clock : PassClock) (vdda : ℕ) (s : CanNode) : CanNode :=
  let s := s.extendSystime clock
  let s := s.broadcastNodeStatus clock.status vdda
  if s.nodeMode = nodeModeOperational then { s with appTicks := s.appTicks + 1 } else s

/-- A requested restart is due at `currentTime`, by `CanNodeThread`. -/
def RestartDue (currentTime : ℕ) (s : CanNode) : Prop :=
  s.state.nodeRestartAt ≠ 0 ∧ s.state.nodeRestartAt < currentTime

instance (currentTime : ℕ) (s : CanNode) : Decidable (RestartDue currentTime s) :=
  inferInstanceAs (Decidable (_ ∧ _))

/-- A pass: the branch of the loop in `CanNodeThread` about once per second. -/
def pass (clock : PassClock) (vdda : ℕ) (s : CanNode) : CanNode :=
  let s := s.process1HzTasks clock vdda
  let s := { s with lastInvocation := clock.current }
  if s.RestartDue clock.current then { s with reset := true } else s

/-- The loop body of `CanNodeThread`, apart from the events of the bus; `check` is the system time
that it reads first. -/
def canNodeThread (check : ℕ) (clock : PassClock) (vdda : ℕ) (s : CanNode) : CanNode :=
  if timeS2I 1 < timeElapsedSince check s.lastInvocation then s.pass clock vdda else s

/-- `requestNodeRestart` -/
def requestNodeRestart (now nodeId : ℕ) (s : CanNode) : CanNode :=
  { s with state := App.requestNodeRestart now nodeId s.state }

/-! ## What they leave alone -/

variable {clock : PassClock} {now vdda : ℕ} {s : CanNode}

/-- What `process1HzTasks` does to the variables that the passes compare. -/
theorem process1HzTasks_eq :
    (s.process1HzTasks clock vdda).state = s.state ∧
      (s.process1HzTasks clock vdda).reset = s.reset ∧
      (s.process1HzTasks clock vdda).lastSystime = clock.store ∧
      (s.process1HzTasks clock vdda).systimeExtensionS =
        (s.extendSystime clock).systimeExtensionS ∧
      (s.process1HzTasks clock vdda).sent =
        ((s.extendSystime clock).sendNodeStatus clock.status vdda).sent := by
  simp only [process1HzTasks]
  split <;> exact ⟨rfl, rfl, rfl, rfl, rfl⟩

theorem state_pass : (s.pass clock vdda).state = s.state := by
  simp only [pass]
  split <;> exact process1HzTasks_eq.1

/-- What a pass does to the uptime. -/
theorem uptime_pass :
    (s.pass clock vdda).lastSystime = clock.store ∧
      (s.pass clock vdda).systimeExtensionS = (s.extendSystime clock).systimeExtensionS ∧
      (s.pass clock vdda).sent =
        ((s.extendSystime clock).sendNodeStatus clock.status vdda).sent := by
  simp only [pass]
  split <;> exact process1HzTasks_eq.2.2

/-- **A pass** resets the node exactly if a restart is due. -/
theorem reset_pass :
    (s.pass clock vdda).reset = true ↔ s.RestartDue clock.current ∨ s.reset = true := by
  obtain ⟨hstate, hreset, -⟩ := @process1HzTasks_eq clock vdda s
  have hdue : RestartDue clock.current
      { s.process1HzTasks clock vdda with lastInvocation := clock.current } ↔
        s.RestartDue clock.current := by
    simp only [RestartDue, hstate]
  simp only [pass, hdue]
  split
  · rename_i h
    exact iff_of_true rfl (.inl h)
  · rename_i h
    exact (Bool.coe_iff_coe.mpr hreset).trans (or_iff_right h).symm

/-- A requested restart stays as it is. -/
theorem nodeRestartAt_requestNodeRestart (now nodeId : ℕ) (h : s.state.nodeRestartAt ≠ 0) :
    (s.requestNodeRestart now nodeId).state.nodeRestartAt = s.state.nodeRestartAt := by
  simp [requestNodeRestart, App.requestNodeRestart, scheduleRestart, h]

end CanNode

/-! ## Runs in real time -/

/-- The node, the real tick since the boot, and the real ticks of the last pass (its
`currentTime`), of the last store to `lastSystime` and of the last status. -/
structure NodeRun where
  node : CanNode
  now : ℕ
  lastPass : ℕ
  lastStore : ℕ
  lastStatus : ℕ

/-- At the boot. -/
def NodeRun.start (boot : BootloaderInterface) : NodeRun := ⟨.start boot, 0, 0, 0, 0⟩

/-- The real ticks before each reading of a pass. -/
structure Pass where
  current : ℕ
  compare : ℕ
  store : ℕ
  status : ℕ

namespace Pass

/-- The real ticks of the readings of a pass that begins at `now`. -/
def readings (p : Pass) (now : ℕ) : PassClock where
  current := now + p.current
  compare := now + p.current + p.compare
  store := now + p.current + p.compare + p.store
  status := now + p.current + p.compare + p.store + p.status

end Pass

/-- What the readings show. -/
def PassClock.shown (r : PassClock) : PassClock where
  current := systemTime r.current
  compare := systemTime r.compare
  store := systemTime r.store
  status := systemTime r.status

/-- What happens to the node: a pass, or a request that is received `wait` ticks later. -/
inductive NodeEvent
  | pass (p : Pass) (vdda : ℕ)
  | getNodeInfo (wait vdda : ℕ)
  | requestRestart (wait nodeId : ℕ)

namespace NodeEvent

/-- The real `currentTime` of a pass. -/
def passAt (now : ℕ) : NodeEvent → Option ℕ
  | .pass p _ => some (p.readings now).current
  | _ => none

/-- What an event does to a node that runs. -/
def act (s : NodeRun) : NodeEvent → NodeRun
  | .pass p vdda =>
    let r := p.readings s.now
    ⟨s.node.pass r.shown vdda, r.status, r.current, r.store, r.status⟩
  | .getNodeInfo wait vdda =>
    let now := s.now + wait
    { s with node := s.node.onGetNodeInfo (systemTime now) vdda, now := now, lastStatus := now }
  | .requestRestart wait nodeId =>
    let now := s.now + wait
    { s with node := s.node.requestNodeRestart (systemTime now) nodeId, now := now }

/-- The state after an event; after a reset nothing happens any more. -/
def step (s : NodeRun) (e : NodeEvent) : NodeRun := if s.node.reset then s else e.act s

theorem step_of_running {s : NodeRun} (h : s.node.reset = false) (e : NodeEvent) :
    e.step s = e.act s := by
  rw [step, h]
  exact if_neg Bool.false_ne_true

theorem step_cases (s : NodeRun) (e : NodeEvent) :
    (s.node.reset = true ∧ e.step s = s) ∨ (s.node.reset = false ∧ e.step s = e.act s) := by
  cases hreset : s.node.reset with
  | true => exact .inl ⟨rfl, if_pos hreset⟩
  | false => exact .inr ⟨rfl, step_of_running hreset e⟩

theorem le_now_act (s : NodeRun) (e : NodeEvent) : s.now ≤ (e.act s).now := by
  cases e with
  | pass p vdda =>
    show s.now ≤ s.now + p.current + p.compare + p.store + p.status
    omega
  | getNodeInfo | requestRestart => exact Nat.le_add_right _ _

theorem lastPass_le_act {s : NodeRun} (h : s.lastPass ≤ s.now) (e : NodeEvent) :
    (e.act s).lastPass ≤ (e.act s).now := by
  cases e with
  | pass p vdda =>
    show s.now + p.current ≤ s.now + p.current + p.compare + p.store + p.status
    omega
  | getNodeInfo | requestRestart => exact h.trans (Nat.le_add_right _ _)

theorem le_now_step (s : NodeRun) (e : NodeEvent) : s.now ≤ (e.step s).now := by
  obtain ⟨-, hstep⟩ | ⟨-, hstep⟩ := step_cases s e <;> rw [hstep]
  exact le_now_act s e

theorem lastPass_le_step {s : NodeRun} (h : s.lastPass ≤ s.now) (e : NodeEvent) :
    (e.step s).lastPass ≤ (e.step s).now := by
  obtain ⟨-, hstep⟩ | ⟨-, hstep⟩ := step_cases s e <;> rw [hstep]
  · exact h
  · exact lastPass_le_act h e

end NodeEvent

end HouseBus
