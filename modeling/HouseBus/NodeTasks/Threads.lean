import HouseBus.NodeTasks
import Mathlib.Data.List.TakeWhile

/-!
# The threads of the application node (`sw/main.c`, `sw/node.c`)

`main` starts the threads, calls `app_init` and then sets the mode. `CanNodeThread` calls `app_tick`
and `FastTasksThread` calls `app_fast_tick`, both by the mode; `CanRxThread` handles what is
received. The threads run in any order (`ThreadEvent`): a pass of `CanNodeThread` has three parts,
an iteration of `FastTasksThread` has two. Their periods are left out, so that all schedules are
among the runs.

- **The application starts with `app_init`** (`appInit_first`): no tick is called before.
- **After a restart request** the next status ends the ticks, but for an iteration of
  `FastTasksThread` that has looked at the mode already (`no_tick_after_restart`).
-/

namespace HouseBus

/-- The functions of an application, with what they read from outside. -/
structure App (α : Type*) where
  Env : Type
  init : Env → α → α
  tick : Env → α → α
  fastTick : Env → α → α
  configUpdate : Env → α → α
  receive : Env → α → α

/-- A call of a function of the application. -/
inductive AppCall
  | init
  | tick
  | fastTick
  | configUpdate
  | receive
  deriving DecidableEq

/-- A call by one of the threads that wait for the mode. -/
def AppCall.IsTick (c : AppCall) : Prop := c = .tick ∨ c = .fastTick

/-- Where `main` is: before `app_init`, behind it, in its idle loop. -/
inductive MainThread
  | starting
  | initialized
  | idle
  deriving DecidableEq

/-- Where `CanNodeThread` is: between the passes, behind `broadcast_node_status`, behind
`process1HzTasks`. -/
inductive CanNodeThread
  | idle
  | status (clock : PassClock)
  | tasks (clock : PassClock)

/-- Where `FastTasksThread` is: in its first loop, behind a test of the mode, asleep, ended. -/
inductive FastTasksThread
  | waiting
  | entered
  | asleep
  | ended
  deriving DecidableEq

/-- The node with its threads, and the calls of the application, the last one at the end. -/
structure NodeThreads (α : Type*) where
  main : MainThread
  canNode : CanNodeThread
  fastTasks : FastTasksThread
  node : CanNode
  app : α
  calls : List AppCall

/-- The next part of a thread. -/
inductive ThreadEvent (Env : Type*)
  | mainInit (env : Env)
  | mainOperational
  | broadcastStatus (clock : PassClock) (vdda : ℕ)
  | appTick (env : Env)
  | passEnd
  | fastTest
  | fastTick (env : Env)
  | getNodeInfo (now vdda : ℕ)
  | requestRestart (now nodeId : ℕ)
  | configUpdate (env : Env)
  | receive (env : Env)

namespace NodeThreads

variable {α : Type*} (P : App α)

/-- A call of the application. -/
def call (c : AppCall) (f : α → α) (s : NodeThreads α) : NodeThreads α :=
  { s with app := f s.app, calls := s.calls ++ [c] }

/-- The test of the mode in `FastTasksThread`: in the first loop for its end, in the second one for
the next iteration. -/
def fastTest (mode : ℕ) : FastTasksThread → FastTasksThread
  | .waiting => if mode = nodeModeOperational then .entered else .waiting
  | .asleep => if mode = nodeModeOperational then .entered else .ended
  | t => t

/-- The part of a thread, if the thread is there. -/
def act (s : NodeThreads α) : ThreadEvent P.Env → NodeThreads α
  | .mainInit env =>
    if s.main = .starting then { s.call .init (P.init env) with main := .initialized } else s
  | .mainOperational =>
    if s.main = .initialized then
      { s with main := .idle, node := { s.node with nodeMode := nodeModeOperational } }
    else s
  | .broadcastStatus clock vdda =>
    match s.canNode with
    | .idle =>
      { s with
        canNode := .status clock
        node := (s.node.extendSystime clock).broadcastNodeStatus clock.status vdda }
    | _ => s
  | .appTick env =>
    match s.canNode with
    | .status clock =>
      if s.node.nodeMode = nodeModeOperational then
        { s.call .tick (P.tick env) with
          canNode := .tasks clock
          node := { s.node with appTicks := s.node.appTicks + 1 } }
      else { s with canNode := .tasks clock }
    | _ => s
  | .passEnd =>
    match s.canNode with
    | .tasks clock =>
      let node := { s.node with lastInvocation := clock.current }
      { s with
        canNode := .idle
        node := if node.RestartDue clock.current then { node with reset := true } else node }
    | _ => s
  | .fastTest => { s with fastTasks := fastTest s.node.nodeMode s.fastTasks }
  | .fastTick env =>
    if s.fastTasks = .entered then
      { s.call .fastTick (P.fastTick env) with fastTasks := .asleep }
    else s
  | .getNodeInfo now vdda => { s with node := s.node.onGetNodeInfo now vdda }
  | .requestRestart now nodeId => { s with node := s.node.requestNodeRestart now nodeId }
  | .configUpdate env => s.call .configUpdate (P.configUpdate env)
  | .receive env => s.call .receive (P.receive env)

/-- The state after an event; after a reset nothing happens any more. -/
def step (s : NodeThreads α) (e : ThreadEvent P.Env) : NodeThreads α :=
  if s.node.reset then s else s.act P e

/-- When `main` has started the threads. -/
def start (boot : BootloaderInterface) (app : α) : NodeThreads α where
  main := .starting
  canNode := .idle
  fastTasks := .waiting
  node := { CanNode.start boot with nodeMode := nodeModeInitialization }
  app := app
  calls := []

variable {P} {s : NodeThreads α}

/-- The three parts of a pass, one behind the other, are `CanNode.pass`. -/
theorem pass_eq (h : s.canNode = .idle) (clock : PassClock) (vdda : ℕ) (env : P.Env) :
    (((s.act P (.broadcastStatus clock vdda)).act P (.appTick env)).act P .passEnd).node =
      s.node.pass clock vdda := by
  by_cases hmode : ((s.node.extendSystime clock).broadcastNodeStatus clock.status vdda).nodeMode =
      nodeModeOperational
  · simp only [act, h, CanNode.pass, CanNode.process1HzTasks, if_pos hmode]
  · simp only [act, h, CanNode.pass, CanNode.process1HzTasks, if_neg hmode]

/-! ## `app_init` is the first call by the mode -/

/-- Before the first call of `app_init` no tick is called. -/
def InitFirst (calls : List AppCall) : Prop := ∀ c ∈ calls.takeWhile (· ≠ .init), ¬ c.IsTick

theorem initFirst_append {calls : List AppCall} (h : InitFirst calls) {c : AppCall}
    (hc : c.IsTick → .init ∈ calls) : InitFirst (calls ++ [c]) := by
  intro d hd
  by_cases hin : .init ∈ calls
  · have hsame : (calls ++ [c]).takeWhile (· ≠ .init) = calls.takeWhile (· ≠ .init) := by
      rw [List.takeWhile_append, if_neg]
      intro hlen
      rw [← (List.takeWhile_prefix _).eq_of_length hlen] at hin
      simpa using List.mem_takeWhile_imp hin
    rw [hsame] at hd
    exact h d hd
  · have hall : ∀ a ∈ calls, decide (a ≠ .init) = true := fun a ha =>
      decide_eq_true fun heq => hin (heq ▸ ha)
    rw [List.takeWhile_append_of_pos hall, List.mem_append] at hd
    obtain hd | hd := hd
    · exact h d (by rwa [List.takeWhile_eq_self_iff.mpr hall])
    · obtain rfl := List.mem_singleton.mp ((List.takeWhile_sublist _).subset hd)
      exact fun htick => hin (hc htick)

/-- Behind `app_init` only `main` sets the mode, and only then the other threads go on. -/
structure StartsInOrder (s : NodeThreads α) : Prop where
  main : s.main ≠ .starting → .init ∈ s.calls
  mode : s.node.nodeMode = nodeModeOperational → .init ∈ s.calls
  fastTasks : s.fastTasks ≠ .waiting → .init ∈ s.calls
  calls : InitFirst s.calls

theorem nodeMode_sendNodeStatus (now vdda : ℕ) {n : CanNode}
    (h : (n.sendNodeStatus now vdda).nodeMode = nodeModeOperational) :
    n.nodeMode = nodeModeOperational := by
  simp only [CanNode.sendNodeStatus] at h
  split at h
  · cases h
  · exact h

/-- A call behind `app_init`, or one that does not wait for it. -/
theorem StartsInOrder.call (h : StartsInOrder s) {c : AppCall} (f : α → α)
    (hc : c.IsTick → .init ∈ s.calls) : StartsInOrder (s.call c f) where
  main hmain := List.mem_append_left _ (h.main hmain)
  mode hmode := List.mem_append_left _ (h.mode hmode)
  fastTasks hfast := List.mem_append_left _ (h.fastTasks hfast)
  calls := initFirst_append h.calls hc

theorem startsInOrder_act (s : NodeThreads α) (e : ThreadEvent P.Env) (h : StartsInOrder s) :
    StartsInOrder (s.act P e) := by
  cases e with
  | mainInit env =>
    simp only [act]
    split
    · have hcall := h.call (c := .init) (P.init env) fun hc => by simp [AppCall.IsTick] at hc
      have hinit : .init ∈ (s.call .init (P.init env)).calls :=
        List.mem_append_right _ List.mem_cons_self
      exact ⟨fun _ => hinit, hcall.mode, hcall.fastTasks, hcall.calls⟩
    · exact h
  | mainOperational =>
    simp only [act]
    split
    · rename_i hmain
      have hinit := h.main (by rw [hmain]; nofun)
      exact ⟨fun _ => hinit, fun _ => hinit, h.fastTasks, h.calls⟩
    · exact h
  | broadcastStatus clock vdda =>
    simp only [act]
    split
    · exact ⟨h.main, fun hmode => h.mode (nodeMode_sendNodeStatus clock.status vdda hmode),
        h.fastTasks, h.calls⟩
    · exact h
  | appTick env =>
    simp only [act]
    split
    · split
      · rename_i hmode
        have hcall := h.call (c := .tick) (P.tick env) fun _ => h.mode hmode
        exact ⟨hcall.main, hcall.mode, hcall.fastTasks, hcall.calls⟩
      · exact ⟨h.main, h.mode, h.fastTasks, h.calls⟩
    · exact h
  | passEnd =>
    simp only [act]
    split
    · refine ⟨h.main, fun hmode => h.mode ?_, h.fastTasks, h.calls⟩
      split at hmode <;> exact hmode
    · exact h
  | fastTest =>
    refine ⟨h.main, h.mode, fun hfast => ?_, h.calls⟩
    by_cases hmode : s.node.nodeMode = nodeModeOperational
    · exact h.mode hmode
    · refine h.fastTasks fun hwaiting => hfast ?_
      simp only [act, hwaiting, fastTest, if_neg hmode]
  | fastTick env =>
    simp only [act]
    split
    · rename_i hentered
      have hinit := h.fastTasks (by rw [hentered]; nofun)
      have hcall := h.call (c := .fastTick) (P.fastTick env) fun _ => hinit
      exact ⟨hcall.main, hcall.mode, fun _ => List.mem_append_left _ hinit, hcall.calls⟩
    · exact h
  | getNodeInfo now vdda =>
    exact ⟨h.main, fun hmode => h.mode (nodeMode_sendNodeStatus _ _ hmode), h.fastTasks, h.calls⟩
  | requestRestart now nodeId => exact ⟨h.main, h.mode, h.fastTasks, h.calls⟩
  | configUpdate env => exact h.call _ fun hc => by simp [AppCall.IsTick] at hc
  | receive env => exact h.call _ fun hc => by simp [AppCall.IsTick] at hc

/-- **The application starts with `app_init`**: whatever the threads do, no tick is called
before it. -/
theorem appInit_first (P : App α) (boot : BootloaderInterface) (app : α)
    (es : List (ThreadEvent P.Env)) :
    InitFirst (Machine.run (step P) (start boot app) es).calls := by
  have hkeeps : Machine.Keeps (step P) StartsInOrder := by
    intro s e h
    rw [step]
    split
    · exact h
    · exact startsInOrder_act s e h
  have hstart : StartsInOrder (start boot app) :=
    ⟨fun h => absurd rfl h, nofun, fun h => absurd rfl h, nofun⟩
  exact (hkeeps.run hstart es).calls

/-! ## A requested restart ends the ticks -/

/-- A restart is requested, and a status was built since then; `main` is in its loop. -/
structure Stopping (s : NodeThreads α) : Prop where
  main : s.main = .idle
  requested : isNodeRestartRequested s.node.state = true
  mode : s.node.nodeMode = nodeModeInitialization

/-- The calls of `app_fast_tick` that are still to come. -/
def fastTicksLeft (s : NodeThreads α) : ℕ := if s.fastTasks = .entered then 1 else 0

theorem nodeMode_of_requested (now vdda : ℕ) {n : CanNode}
    (h : isNodeRestartRequested n.state = true) :
    (n.sendNodeStatus now vdda).nodeMode = nodeModeInitialization := by
  simp only [CanNode.sendNodeStatus, if_pos h]

theorem requested_requestNodeRestart (now nodeId : ℕ) {n : CanNode}
    (h : isNodeRestartRequested n.state = true) :
    isNodeRestartRequested (n.requestNodeRestart now nodeId).state = true := by
  have hne : n.state.nodeRestartAt ≠ 0 := by simpa [isNodeRestartRequested] using h
  rw [isNodeRestartRequested, CanNode.nodeRestartAt_requestNodeRestart now nodeId hne]
  exact h

/-- **A part of a thread** of a node that stops: no `app_tick`, and `app_fast_tick` only as an
iteration that has begun. -/
theorem Stopping.act (h : Stopping s) (e : ThreadEvent P.Env) :
    Stopping (s.act P e) ∧ ∃ new, (s.act P e).calls = s.calls ++ new ∧ .tick ∉ new ∧
      new.count .fastTick + (s.act P e).fastTicksLeft ≤ s.fastTicksLeft := by
  have hmode : s.node.nodeMode ≠ nodeModeOperational := by
    rw [h.mode]
    decide
  have hcalls : ∀ t : NodeThreads α, t.calls = s.calls → t.fastTicksLeft ≤ s.fastTicksLeft →
      ∃ new, t.calls = s.calls ++ new ∧ .tick ∉ new ∧
        new.count .fastTick + t.fastTicksLeft ≤ s.fastTicksLeft := by
    intro t ht hleft
    exact ⟨[], by rw [ht, List.append_nil], List.not_mem_nil, by simpa using hleft⟩
  cases e with
  | mainInit env =>
    simp only [NodeThreads.act]
    rw [if_neg (by rw [h.main]; nofun)]
    exact ⟨h, hcalls s rfl (Nat.le_refl _)⟩
  | mainOperational =>
    simp only [NodeThreads.act]
    rw [if_neg (by rw [h.main]; nofun)]
    exact ⟨h, hcalls s rfl (Nat.le_refl _)⟩
  | broadcastStatus clock vdda =>
    simp only [NodeThreads.act]
    split
    · exact ⟨⟨h.main, h.requested, nodeMode_of_requested _ _ h.requested⟩,
        hcalls _ rfl (Nat.le_refl _)⟩
    · exact ⟨h, hcalls s rfl (Nat.le_refl _)⟩
  | appTick env =>
    simp only [NodeThreads.act]
    split
    · rw [if_neg hmode]
      exact ⟨⟨h.main, h.requested, h.mode⟩, hcalls _ rfl (Nat.le_refl _)⟩
    · exact ⟨h, hcalls s rfl (Nat.le_refl _)⟩
  | passEnd =>
    simp only [NodeThreads.act]
    split
    · refine ⟨⟨h.main, ?_, ?_⟩, hcalls _ rfl (Nat.le_refl _)⟩
      · split <;> exact h.requested
      · split <;> exact h.mode
    · exact ⟨h, hcalls s rfl (Nat.le_refl _)⟩
  | fastTest =>
    refine ⟨⟨h.main, h.requested, h.mode⟩, hcalls _ rfl ?_⟩
    cases hfast : s.fastTasks <;>
      simp [NodeThreads.act, fastTicksLeft, NodeThreads.fastTest, hfast, hmode]
  | fastTick env =>
    simp only [NodeThreads.act]
    split
    · rename_i hentered
      refine ⟨⟨h.main, h.requested, h.mode⟩, [.fastTick], rfl, by decide, ?_⟩
      simp [fastTicksLeft, hentered]
    · exact ⟨h, hcalls s rfl (Nat.le_refl _)⟩
  | getNodeInfo now vdda =>
    exact ⟨⟨h.main, h.requested, nodeMode_of_requested _ _ h.requested⟩,
      hcalls _ rfl (Nat.le_refl _)⟩
  | requestRestart now nodeId =>
    exact ⟨⟨h.main, requested_requestNodeRestart _ _ h.requested, h.mode⟩,
      hcalls _ rfl (Nat.le_refl _)⟩
  | configUpdate env =>
    exact ⟨⟨h.main, h.requested, h.mode⟩, [.configUpdate], rfl, by decide,
      (Nat.zero_add _).le⟩
  | receive env =>
    exact ⟨⟨h.main, h.requested, h.mode⟩, [.receive], rfl, by decide, (Nat.zero_add _).le⟩

/-- The run of a node that stops. -/
theorem Stopping.run (h : Stopping s) (es : List (ThreadEvent P.Env)) :
    ∃ new, (Machine.run (step P) s es).calls = s.calls ++ new ∧ .tick ∉ new ∧
      new.count .fastTick ≤ s.fastTicksLeft := by
  induction es generalizing s with
  | nil => exact ⟨[], (List.append_nil _).symm, List.not_mem_nil, Nat.zero_le _⟩
  | cons e es ih =>
    rw [Machine.run_cons, step]
    split
    · exact ih h
    · obtain ⟨hstop, new, hcalls, htick, hleft⟩ := h.act e
      obtain ⟨rest, hrest, hrestTick, hrestLeft⟩ := ih hstop
      refine ⟨new ++ rest, by rw [hrest, hcalls, List.append_assoc], ?_, ?_⟩
      · exact fun hin => (List.mem_append.mp hin).elim htick hrestTick
      · rw [List.count_append]
        omega

/-- Without an iteration of `FastTasksThread` on the way, only the handlers reach the
application. -/
theorem Stopping.app_cases (h : Stopping s) (hfast : s.fastTasks ≠ .entered)
    (e : ThreadEvent P.Env) :
    (s.act P e).app = s.app ∨ (∃ env, (s.act P e).app = P.configUpdate env s.app) ∨
      ∃ env, (s.act P e).app = P.receive env s.app := by
  have hmode : s.node.nodeMode ≠ nodeModeOperational := by
    rw [h.mode]
    decide
  cases e with
  | mainInit env =>
    simp only [NodeThreads.act]
    rw [if_neg (by rw [h.main]; nofun)]
    exact .inl rfl
  | mainOperational =>
    simp only [NodeThreads.act]
    rw [if_neg (by rw [h.main]; nofun)]
    exact .inl rfl
  | broadcastStatus | passEnd =>
    simp only [NodeThreads.act]
    split <;> exact .inl rfl
  | appTick env =>
    simp only [NodeThreads.act, if_neg hmode]
    split <;> exact .inl rfl
  | fastTest | getNodeInfo | requestRestart => exact .inl rfl
  | fastTick env =>
    refine .inl ?_
    simp only [NodeThreads.act, if_neg hfast]
  | configUpdate env => exact .inr (.inl ⟨env, rfl⟩)
  | receive env => exact .inr (.inr ⟨env, rfl⟩)

/-- What the handlers keep of the application, stays. -/
theorem Stopping.keeps (h : Stopping s) (hfast : s.fastTasks ≠ .entered) {I : α → Prop}
    (hconfig : ∀ env a, I a → I (P.configUpdate env a))
    (hreceive : ∀ env a, I a → I (P.receive env a)) (hI : I s.app)
    (es : List (ThreadEvent P.Env)) : I (Machine.run (step P) s es).app := by
  induction es generalizing s with
  | nil => exact hI
  | cons e es ih =>
    rw [Machine.run_cons, step]
    split
    · exact ih h hfast hI
    · obtain ⟨hstop, new, -, -, hleft⟩ := h.act e
      have hfast' : (s.act P e).fastTasks ≠ .entered := by
        intro hentered
        rw [fastTicksLeft, fastTicksLeft, if_pos hentered, if_neg hfast] at hleft
        omega
      refine ih hstop hfast' ?_
      obtain heq | ⟨env, heq⟩ | ⟨env, heq⟩ := h.app_cases hfast e <;> rw [heq]
      · exact hI
      · exact hconfig env _ hI
      · exact hreceive env _ hI

/-- A run in which no event lets the node go on. -/
theorem run_of_reset (h : s.node.reset = true) (es : List (ThreadEvent P.Env)) :
    Machine.run (step P) s es = s := by
  induction es with
  | nil => rfl
  | cons e es ih =>
    rw [Machine.run_cons, step, if_pos h]
    exact ih

/-- The next status of a node whose restart is requested stops it. -/
theorem stopping_broadcastStatus (hmain : s.main = .idle) (hpass : s.canNode = .idle)
    (hrequested : isNodeRestartRequested s.node.state = true) (clock : PassClock) (vdda : ℕ) :
    Stopping (s.act P (.broadcastStatus clock vdda)) := by
  simp only [NodeThreads.act, hpass]
  exact ⟨hmain, hrequested, nodeMode_of_requested _ _ hrequested⟩

/-- **A requested restart ends the ticks**: when `main` is in its loop, then from the next pass on
`app_tick` is not called any more, and `app_fast_tick` at most once, whatever the threads do. -/
theorem no_tick_after_restart (P : App α) {s : NodeThreads α} (hmain : s.main = .idle)
    (hpass : s.canNode = .idle) (hrequested : isNodeRestartRequested s.node.state = true)
    (clock : PassClock) (vdda : ℕ) (es : List (ThreadEvent P.Env)) :
    ∃ new, (Machine.run (step P) s (.broadcastStatus clock vdda :: es)).calls = s.calls ++ new ∧
      .tick ∉ new ∧ new.count .fastTick ≤ 1 := by
  by_cases hreset : s.node.reset = true
  · rw [run_of_reset hreset]
    exact ⟨[], (List.append_nil _).symm, List.not_mem_nil, Nat.zero_le _⟩
  · have hstop := stopping_broadcastStatus (P := P) hmain hpass hrequested clock vdda
    obtain ⟨new, hcalls, htick, hleft⟩ := hstop.run es
    rw [Machine.run_cons, step, if_neg hreset]
    refine ⟨new, ?_, htick, hleft.trans ?_⟩
    · rw [hcalls]
      simp only [NodeThreads.act, hpass]
    · rw [fastTicksLeft]
      split <;> decide

/-- An application that counts its ticks. -/
def tickCounter : App ℕ where
  Env := Unit
  init _ _ := 0
  tick _ n := n + 1
  fastTick _ n := n
  configUpdate _ n := n
  receive _ n := n

/-- It runs, and a restart is requested. -/
def tickCounterRequested : NodeThreads ℕ :=
  Machine.run (step tickCounter) (start ⟨fun _ => 0⟩ 7)
    [.mainInit (), .mainOperational, .requestRestart 0 5]

theorem no_tick_after_restart_tickCounter :
    ∃ new, (Machine.run (step tickCounter) tickCounterRequested
      [.broadcastStatus ⟨10000, 10000, 10000, 10000⟩ 3300, .appTick ()]).calls = [.init] ++ new ∧
        .tick ∉ new ∧ new.count .fastTick ≤ 1 :=
  no_tick_after_restart tickCounter (s := tickCounterRequested) rfl rfl rfl
    ⟨10000, 10000, 10000, 10000⟩ 3300 [.appTick ()]

end NodeThreads

end HouseBus
