import HouseBus.BootloaderInterface
import HouseBus.Lib.Machine

/-!
# Bootloader and application across resets

A node runs one of two programs: a reset starts the bootloader, the bootloader boots the
application, at any time (its time-out is left out). The only thing that they share is
`bootloader_interface`, which a power-on leaves with arbitrary bytes. The application clears `magic`
at its start, and its `requestNodeRestart` makes it valid again: so a plain RestartNode request
brings what the power-on left in `request_from_node_id` and `request_file_name_length` to the
bootloader's `main` (`noUnsolicited_iff`).
-/

namespace HouseBus

/-- `DEFAULT_NODE_ID` -/
def defaultNodeId : UInt8 := 126

/-- `main` of the bootloader: the node id for `node_init`, and the program's state. Its static
variables are zero after a reset. -/
def Bootloader.main (b : BootloaderInterface) : UInt8 × NodeState :=
  if b.magic = bootloaderInterfaceValidMagic ∧ b.nodeId ≠ 0 then
    (b.nodeId, ⟨b, 0, b.requestFromNodeId ≠ 0 && b.requestFileNameLength ≠ 0⟩)
  else (defaultNodeId, ⟨b, 0, false⟩)

/-- `main` of the application. -/
def App.main (b : BootloaderInterface) : NodeState := ⟨b.setMagic 0, 0, false⟩

/-- The end of an update in `CanNodeThread` of the bootloader, successful or not. -/
def Bootloader.updateFinished (s : NodeState) : NodeState :=
  { s with
    bootloaderInterface := s.bootloaderInterface.setRequestFromNodeId 0
    firmwareUpdate := false }

namespace Lifecycle

/-- The program that runs; `off` is between power-on and the start of the bootloader. -/
inductive Program
  | off
  | bootloader
  | application
  deriving DecidableEq

/-- A node; `outstanding` says that an accepted BeginFirmwareUpdate request has not led to a
finished update yet. -/
structure Node where
  program : Program
  state : NodeState
  outstanding : Bool

/-- What may happen to a node, with the time and the configured node id where they matter. -/
inductive Event
  | reset
  | bootApplication
  | restartNode (now nodeId : ℕ) (t : CanardRxTransfer)
  | beginFirmwareUpdate (now nodeId : ℕ) (t : CanardRxTransfer)
  | updateFinished

/-- `onBeginFirmwareUpdate` of the running program. -/
def onBeginFirmwareUpdate (can : Canard) (now nodeId : ℕ) (t : CanardRxTransfer) (n : Node) :
    NodeState × CanardResponse :=
  match n.program with
  | .application => App.onBeginFirmwareUpdate can now nodeId t n.state
  | _ => Bootloader.onBeginFirmwareUpdate can t n.state

/-- One event. A program that does not run answers nothing. -/
def step (can : Canard) (n : Node) : Event → Node
  | .reset =>
    { n with program := .bootloader, state := (Bootloader.main n.state.bootloaderInterface).2 }
  | .bootApplication =>
    if n.program = .bootloader then
      { n with program := .application, state := App.main n.state.bootloaderInterface }
    else n
  | .restartNode now nodeId t =>
    match n.program with
    | .off => n
    | .bootloader =>
      { n with state := (onRestartNode (Bootloader.requestNodeRestart now) t n.state).1 }
    | .application =>
      { n with state := (onRestartNode (App.requestNodeRestart now nodeId) t n.state).1 }
  | .beginFirmwareUpdate now nodeId t =>
    if n.program = .off then n
    else
      let r := onBeginFirmwareUpdate can now nodeId t n
      { n with
        state := r.1
        outstanding := if r.2 = t.respond [0] then true else n.outstanding }
  | .updateFinished =>
    if n.program = .bootloader ∧ n.state.firmwareUpdate = true then
      { n with state := Bootloader.updateFinished n.state, outstanding := false }
    else n

/-- The node after a power-on that left `b` in the RAM. -/
def powerOn (b : BootloaderInterface) : Node := ⟨.off, ⟨b, 0, false⟩, false⟩

/-- When `main` of the bootloader sets `FirmwareUpdate`, a request is outstanding. -/
def NoUnsolicited (n : Node) : Event → Prop
  | .reset =>
    (Bootloader.main n.state.bootloaderInterface).2.firmwareUpdate = true → n.outstanding = true
  | _ => True

/-- `bootloader_interface` names no server or no path. -/
def NoRequest (b : BootloaderInterface) : Prop :=
  b.requestFromNodeId = 0 ∨ b.requestFileNameLength = 0

/-- Without an outstanding request the struct holds none. -/
def Inv (n : Node) : Prop := n.outstanding = false → NoRequest n.state.bootloaderInterface

section

variable {can : Canard} {n : Node} {b b' : BootloaderInterface}

theorem NoRequest.of_same (h : NoRequest b) (hs : b.SameRequest b') : NoRequest b' := by
  unfold NoRequest
  rw [hs.requestFromNodeId, hs.requestFileNameLength]
  exact h

@[simp] theorem main_bootloaderInterface (b : BootloaderInterface) :
    (Bootloader.main b).2.bootloaderInterface = b := by
  unfold Bootloader.main; split <;> rfl

/-- `main` sets `FirmwareUpdate` for a valid struct that holds a request. -/
theorem main_firmwareUpdate (b : BootloaderInterface) :
    (Bootloader.main b).2.firmwareUpdate = true ↔
      b.magic = bootloaderInterfaceValidMagic ∧ b.nodeId ≠ 0 ∧ ¬ NoRequest b := by
  unfold Bootloader.main NoRequest
  split
  · rename_i h; simp [h]
  · rename_i h
    simp only [Bool.false_eq_true, false_iff]
    exact fun hc => h ⟨hc.1, hc.2.1⟩

theorem onRestartNode_cases (f : NodeState → NodeState) (t : CanardRxTransfer)
    (s : NodeState) :
    (onRestartNode f t s).1 = f s ∨ (onRestartNode f t s).1 = s := by
  unfold onRestartNode
  split
  · exact .inl rfl
  · exact .inr rfl

/-- A request that is not accepted changes nothing. -/
theorem onBeginFirmwareUpdate_refused (now nodeId : ℕ) (t : CanardRxTransfer)
    (h : (onBeginFirmwareUpdate can now nodeId t n).2 ≠ t.respond [0]) :
    (onBeginFirmwareUpdate can now nodeId t n).1 = n.state := by
  have happ := App.onBeginFirmwareUpdate_cases can now nodeId t n.state
  have hboot := Bootloader.onBeginFirmwareUpdate_cases can t n.state
  unfold onBeginFirmwareUpdate at h ⊢
  cases hp : n.program with
  | application =>
    simp only [hp] at h ⊢
    obtain ⟨-, ha⟩ | ⟨-, ha⟩ := happ
    · rw [ha] at h; exact absurd rfl h
    · rw [ha]
  | bootloader | off =>
    simp only [hp] at h ⊢
    obtain ⟨-, -, hb⟩ | ⟨r, -, hb⟩ := hboot
    · rw [hb] at h; exact absurd rfl h
    · rw [hb]

theorem inv_restartNode (now nodeId : ℕ) (t : CanardRxTransfer) (h : Inv n) :
    Inv (step can n (.restartNode now nodeId t)) := by
  cases hp : n.program with
  | off => simp only [step, hp]; exact h
  | bootloader =>
    simp only [step, hp]
    intro ho
    obtain hr | hr := onRestartNode_cases (Bootloader.requestNodeRestart now) t n.state
    · rw [hr, Bootloader.requestNodeRestart, bootloaderInterface_scheduleRestart]
      exact h ho
    · rw [hr]
      exact h ho
  | application =>
    simp only [step, hp]
    intro ho
    obtain hr | hr := onRestartNode_cases (App.requestNodeRestart now nodeId) t n.state
    · rw [hr]
      exact (h ho).of_same (App.sameRequest_requestNodeRestart now nodeId n.state)
    · rw [hr]
      exact h ho

/-- Only an accepted request stores one. -/
theorem inv_beginFirmwareUpdate (now nodeId : ℕ) (t : CanardRxTransfer) (h : Inv n) :
    Inv (step can n (.beginFirmwareUpdate now nodeId t)) := by
  simp only [step]
  split
  · exact h
  · intro ho
    by_cases hr : (onBeginFirmwareUpdate can now nodeId t n).2 = t.respond [0]
    · simp only [hr, ↓reduceIte] at ho
      cases ho
    · simp only [hr, ↓reduceIte] at ho
      rw [onBeginFirmwareUpdate_refused now nodeId t hr]
      exact h ho

/-- Every event keeps the invariant. -/
theorem inv_step (can : Canard) : Machine.Keeps (step can) Inv := by
  intro n e h
  cases e with
  | reset =>
    intro ho
    simp only [step, main_bootloaderInterface]
    exact h ho
  | bootApplication =>
    simp only [step]
    split
    · intro ho
      exact (h ho).of_same (BootloaderInterface.sameRequest_setMagic _ 0)
    · exact h
  | restartNode now nodeId t => exact inv_restartNode now nodeId t h
  | beginFirmwareUpdate now nodeId t => exact inv_beginFirmwareUpdate now nodeId t h
  | updateFinished =>
    simp only [step]
    split
    · intro _
      exact .inl (BootloaderInterface.requestFromNodeId_setRequestFromNodeId 0)
    · exact h

theorem noUnsolicited_of_inv {e : Event} (h : Inv n) : NoUnsolicited n e := by
  cases e with
  | reset =>
    intro hfu
    obtain ⟨-, -, hreq⟩ := (main_firmwareUpdate _).mp hfu
    by_contra ho
    exact hreq (h (by simpa using ho))
  | bootApplication | restartNode | beginFirmwareUpdate | updateFinished => trivial

end

/-- A RestartNode request with the magic number. -/
def restartNodeRequest : CanardRxTransfer :=
  ⟨1, 0, 0, restartNodeMagicNumber, by decide, fun _ => 0⟩

/-- Bootloader, application, a plain restart request to node 5, bootloader. -/
def plainRestart : List Event :=
  [.reset, .bootApplication, .restartNode 0 5 restartNodeRequest, .reset]

/-- After a plain restart the bootloader takes what the power-on left for a request. -/
theorem noRequest_of_plainRestart {can : Canard} {b : BootloaderInterface}
    (h : Machine.Meets (step can) NoUnsolicited (powerOn b) plainRestart) : NoRequest b := by
  obtain ⟨-, -, -, hreset, -⟩ := h
  by_contra hreq
  have hfu := hreset ?_
  · cases hfu
  · have hrun : (step can (step can (step can (powerOn b) .reset) .bootApplication)
        (.restartNode 0 5 restartNodeRequest)).state.bootloaderInterface =
          ((b.setMagic 0).setNodeId 5).setMagic bootloaderInterfaceValidMagic := by
      have hreq : (List.range 5).map restartNodeRequest.payloadHead = restartNodeMagicNumber := by
        decide
      simp [step, powerOn, App.main, onRestartNode, hreq, App.requestNodeRestart]
    rw [main_firmwareUpdate, hrun]
    refine ⟨?_, ?_, ?_⟩
    · rw [BootloaderInterface.magic_setMagic]; decide
    · simp
    · simpa [NoRequest] using hreq

/-- **Unsolicited updates.** Whatever `magic` is after a power-on: no run makes the bootloader begin
an update that nobody asked for exactly if the RAM happens to name no server or no path. -/
theorem noUnsolicited_iff (can : Canard) (b : BootloaderInterface) :
    (∀ es, Machine.Meets (step can) NoUnsolicited (powerOn b) es) ↔
      b.requestFromNodeId = 0 ∨ b.requestFileNameLength = 0 := by
  constructor
  · intro h
    exact noRequest_of_plainRestart (h plainRestart)
  · intro h es
    have hinv : Inv (powerOn b) := fun _ => h
    exact (inv_step can).meets (fun n e => noUnsolicited_of_inv) hinv es

/-- A RAM of ones: server 1, a path of one byte, an invalid `magic`. -/
theorem not_noUnsolicited :
    ¬ ∀ b : BootloaderInterface, b.magic ≠ bootloaderInterfaceValidMagic →
      ∀ es, Machine.Meets (step .uavcan) NoUnsolicited (powerOn b) es := by
  intro h
  rcases noRequest_of_plainRestart (h ⟨fun _ => 1⟩ (by decide) plainRestart) with h | h
  · exact absurd h (by decide)
  · exact absurd h (by decide)

end Lifecycle

end HouseBus
