import HouseBus.Canard
import HouseBus.System

/-!
# The struct that bootloader and application share (`sw/bootloader_interface.h`)

`struct bootloader_interface` lives in a `NOLOAD` section: it survives a reset, and a power-on
leaves arbitrary bytes in it. The model keeps its bytes, so a store past the end of
`request_file_name` lands in the fields behind it: `magic` 0..3, `request_from_node_id` 4,
`request_file_name` 5..204, `request_file_name_length` 205, `node_id` 206.

Both programs write it: the application in `requestNodeRestart` and `onBeginFirmwareUpdate`
(`sw/node.c`), the bootloader in `onBeginFirmwareUpdate` and at the end of an update
(`sw/bootloader/node.c`).
-/

namespace HouseBus

open Bytes

/-- `BOOTLOADER_INTERFACE_VALID_MAGIC` -/
def bootloaderInterfaceValidMagic : ℕ := 0x6832F3E0

/-- `sizeof request_file_name` -/
def requestFileNameSize : ℕ := 200

/-- The bytes of `struct bootloader_interface`. -/
structure BootloaderInterface where
  bytes : Mem

namespace BootloaderInterface

/-- The offset of `request_from_node_id`. -/
def fromOffset : ℕ := 4

/-- The offset of `request_file_name`. -/
def fileNameOffset : ℕ := 5

/-- The offset of `request_file_name_length`. -/
def lengthOffset : ℕ := 205

/-- The offset of `node_id`. -/
def nodeIdOffset : ℕ := 206

variable (b : BootloaderInterface)

def magic : ℕ := leNat (read b.bytes 0 4)

def requestFromNodeId : UInt8 := b.bytes fromOffset

def requestFileNameLength : UInt8 := b.bytes lengthOffset

def nodeId : UInt8 := b.bytes nodeIdOffset

/-- `request_file_name[0..n)` -/
def requestFileName (n : ℕ) : List UInt8 := read b.bytes fileNameOffset n

def setMagic (v : ℕ) : BootloaderInterface := ⟨write b.bytes 0 (leBytes 4 v)⟩

def setRequestFromNodeId (v : UInt8) : BootloaderInterface := ⟨put b.bytes fromOffset v⟩

def setRequestFileNameLength (v : UInt8) : BootloaderInterface := ⟨put b.bytes lengthOffset v⟩

def setNodeId (v : UInt8) : BootloaderInterface := ⟨put b.bytes nodeIdOffset v⟩

variable {b}

@[simp] theorem magic_setMagic (v : ℕ) : (b.setMagic v).magic = v % 256 ^ 4 := by
  have := read_write b.bytes 0 (leBytes 4 v)
  rw [length_leBytes] at this
  rw [magic, setMagic, this, leNat_leBytes]

/-- The fields behind `magic` stay. -/
theorem setMagic_apply (v : ℕ) {x : ℕ} (h : 4 ≤ x) : (b.setMagic v).bytes x = b.bytes x := by
  show write b.bytes 0 (leBytes 4 v) x = b.bytes x
  exact write_of_le _ (by simpa using h)

@[simp] theorem requestFromNodeId_setMagic (v : ℕ) :
    (b.setMagic v).requestFromNodeId = b.requestFromNodeId := setMagic_apply v (by decide)

@[simp] theorem requestFileNameLength_setMagic (v : ℕ) :
    (b.setMagic v).requestFileNameLength = b.requestFileNameLength := setMagic_apply v (by decide)

@[simp] theorem nodeId_setMagic (v : ℕ) : (b.setMagic v).nodeId = b.nodeId :=
  setMagic_apply v (by decide)

@[simp] theorem nodeId_setNodeId (v : UInt8) : (b.setNodeId v).nodeId = v := by
  simp [nodeId, setNodeId, put]

@[simp] theorem requestFromNodeId_setNodeId (v : UInt8) :
    (b.setNodeId v).requestFromNodeId = b.requestFromNodeId := by
  simp [requestFromNodeId, setNodeId, put, fromOffset, nodeIdOffset]

@[simp] theorem requestFileNameLength_setNodeId (v : UInt8) :
    (b.setNodeId v).requestFileNameLength = b.requestFileNameLength := by
  simp [requestFileNameLength, setNodeId, put, lengthOffset, nodeIdOffset]

@[simp] theorem requestFromNodeId_setRequestFromNodeId (v : UInt8) :
    (b.setRequestFromNodeId v).requestFromNodeId = v := by
  simp [requestFromNodeId, setRequestFromNodeId, put]

end BootloaderInterface

/-! ## Restart and firmware update requests -/

/-- The state of a running program that these handlers use. `firmwareUpdate` is a variable of the
bootloader only. -/
structure NodeState where
  bootloaderInterface : BootloaderInterface
  nodeRestartAt : ℕ
  firmwareUpdate : Bool

/-- `isNodeRestartRequested` (the same in both programs). -/
def isNodeRestartRequested (s : NodeState) : Bool := s.nodeRestartAt ≠ 0

/-- The common end of both `requestNodeRestart`: `NodeRestartAt` is set if it is zero. -/
def scheduleRestart (now : ℕ) (s : NodeState) : NodeState :=
  if s.nodeRestartAt = 0 then { s with nodeRestartAt := (now + timeS2I 1) % 2 ^ 32 } else s

/-- The common body of both `onBeginFirmwareUpdate`: source node and path of the request are
copied. `filename_length` has 8 bits. -/
def storeRequest (can : Canard) (t : CanardRxTransfer) (b : BootloaderInterface) :
    BootloaderInterface :=
  let filenameLength := (t.payloadLen + 255) % 256
  let b := b.setRequestFromNodeId (t.payloadHead 0)
  let b := b.setRequestFileNameLength (UInt8.ofNat filenameLength)
  ⟨can.payloadExtractArray t.payload 1 filenameLength b.bytes BootloaderInterface.fileNameOffset⟩

/-- The indices of `request_file_name` that the copy stores to. -/
def storeRequestStores (can : Canard) (t : CanardRxTransfer) : List ℕ :=
  can.extractStores t.payload 1 ((t.payloadLen + 255) % 256) 0

namespace App

/-- `requestNodeRestart` of the application; `nodeId` is `config_get_uint(CONFIG_NODE_ID)`, which
the store narrows to 8 bits. -/
def requestNodeRestart (now nodeId : ℕ) (s : NodeState) : NodeState :=
  let b := s.bootloaderInterface.setNodeId (UInt8.ofNat nodeId)
  let b := b.setMagic bootloaderInterfaceValidMagic
  scheduleRestart now { s with bootloaderInterface := b }

/-- `onBeginFirmwareUpdate` of the application. -/
def onBeginFirmwareUpdate (can : Canard) (now nodeId : ℕ) (t : CanardRxTransfer) (s : NodeState) :
    NodeState × CanardResponse :=
  let response : UInt8 := if isNodeRestartRequested s then 1 else 0
  let s :=
    if response = 0 then
      requestNodeRestart now nodeId
        { s with bootloaderInterface := storeRequest can t s.bootloaderInterface }
    else s
  (s, t.respond [response])

end App

namespace Bootloader

/-- `requestNodeRestart` of the bootloader. -/
def requestNodeRestart (now : ℕ) (s : NodeState) : NodeState := scheduleRestart now s

/-- `onBeginFirmwareUpdate` of the bootloader. -/
def onBeginFirmwareUpdate (can : Canard) (t : CanardRxTransfer) (s : NodeState) :
    NodeState × CanardResponse :=
  let response : UInt8 := if isNodeRestartRequested s then 1 else 0
  let response : UInt8 := if s.firmwareUpdate then 2 else response
  let s :=
    if response = 0 then
      { s with
        bootloaderInterface := storeRequest can t s.bootloaderInterface
        firmwareUpdate := true }
    else s
  (s, t.respond [response])

end Bootloader

/-- `restartNodeMagicNumber` -/
def restartNodeMagicNumber : List UInt8 := [0x1E, 0x1B, 0x55, 0xCE, 0xAC]

/-- `onRestartNode`, the same in both programs up to their `requestNodeRestart`. -/
def onRestartNode (requestNodeRestart : NodeState → NodeState) (t : CanardRxTransfer)
    (s : NodeState) : NodeState × CanardResponse :=
  if (List.range 5).map t.payloadHead = restartNodeMagicNumber then
    (requestNodeRestart s, t.respond [1])
  else (s, t.respond [0])

/-! ## What the handlers do -/

@[simp] theorem bootloaderInterface_scheduleRestart (now : ℕ) (s : NodeState) :
    (scheduleRestart now s).bootloaderInterface = s.bootloaderInterface := by
  unfold scheduleRestart; split <;> rfl

/-- The application answers error 0 exactly when no restart is requested, and stores the request
then; otherwise nothing changes. -/
theorem App.onBeginFirmwareUpdate_cases (can : Canard) (now nodeId : ℕ) (t : CanardRxTransfer)
    (s : NodeState) :
    (s.nodeRestartAt = 0 ∧ onBeginFirmwareUpdate can now nodeId t s =
        (requestNodeRestart now nodeId
          { s with bootloaderInterface := storeRequest can t s.bootloaderInterface },
          t.respond [0])) ∨
      (s.nodeRestartAt ≠ 0 ∧ onBeginFirmwareUpdate can now nodeId t s = (s, t.respond [1])) := by
  by_cases h : s.nodeRestartAt = 0
  · exact .inl ⟨h, by simp [onBeginFirmwareUpdate, isNodeRestartRequested, h]⟩
  · exact .inr ⟨h, by simp [onBeginFirmwareUpdate, isNodeRestartRequested, h]⟩

/-- The bootloader also refuses while an update runs. -/
theorem Bootloader.onBeginFirmwareUpdate_cases (can : Canard) (t : CanardRxTransfer)
    (s : NodeState) :
    (s.nodeRestartAt = 0 ∧ s.firmwareUpdate = false ∧ onBeginFirmwareUpdate can t s =
        ({ s with
            bootloaderInterface := storeRequest can t s.bootloaderInterface
            firmwareUpdate := true }, t.respond [0])) ∨
      ∃ r : UInt8, r ≠ 0 ∧ onBeginFirmwareUpdate can t s = (s, t.respond [r]) := by
  cases hf : s.firmwareUpdate with
  | true => exact .inr ⟨2, by decide, by simp [onBeginFirmwareUpdate, hf]⟩
  | false =>
    by_cases h : s.nodeRestartAt = 0
    · exact .inl ⟨h, rfl, by simp [onBeginFirmwareUpdate, isNodeRestartRequested, h, hf]⟩
    · exact .inr ⟨1, by decide, by simp [onBeginFirmwareUpdate, isNodeRestartRequested, h, hf]⟩

/-- The request part of the struct is the same: `request_from_node_id` to
`request_file_name_length`. -/
def BootloaderInterface.SameRequest (b b' : BootloaderInterface) : Prop :=
  ∀ x, fromOffset ≤ x → x ≤ lengthOffset → b'.bytes x = b.bytes x

theorem BootloaderInterface.SameRequest.refl (b : BootloaderInterface) : b.SameRequest b :=
  fun _ _ _ => rfl

theorem BootloaderInterface.SameRequest.requestFromNodeId {b b' : BootloaderInterface}
    (h : b.SameRequest b') : b'.requestFromNodeId = b.requestFromNodeId :=
  h _ (by decide) (by decide)

theorem BootloaderInterface.SameRequest.requestFileNameLength {b b' : BootloaderInterface}
    (h : b.SameRequest b') : b'.requestFileNameLength = b.requestFileNameLength :=
  h _ (by decide) (by decide)

theorem BootloaderInterface.sameRequest_setMagic (b : BootloaderInterface) (v : ℕ) :
    b.SameRequest (b.setMagic v) :=
  fun _ h _ => setMagic_apply v h

/-- `requestNodeRestart` of the application leaves the request alone. -/
theorem App.sameRequest_requestNodeRestart (now nodeId : ℕ) (s : NodeState) :
    s.bootloaderInterface.SameRequest (requestNodeRestart now nodeId s).bootloaderInterface := by
  intro x h1 h2
  have hne : x ≠ BootloaderInterface.nodeIdOffset := by
    simp only [BootloaderInterface.lengthOffset, BootloaderInterface.nodeIdOffset] at *
    omega
  rw [requestNodeRestart, bootloaderInterface_scheduleRestart,
    BootloaderInterface.setMagic_apply _ h1]
  exact if_neg hne

/-- The copy as one write of the path bytes that exist. -/
theorem storeRequest_bytes (can : Canard) (t : CanardRxTransfer) (b : BootloaderInterface) :
    (storeRequest can t b).bytes =
      write (put (put b.bytes BootloaderInterface.fromOffset (t.payloadHead 0))
        BootloaderInterface.lengthOffset (UInt8.ofNat ((t.payloadLen + 255) % 256)))
        BootloaderInterface.fileNameOffset
        ((t.payload.drop 1).take ((t.payloadLen + 255) % 256)) := by
  rw [storeRequest, can.payloadExtractArray_eq]
  rfl

/-- The indices stored to are those of the path bytes that exist. -/
theorem storeRequestStores_eq (can : Canard) (t : CanardRxTransfer) :
    storeRequestStores can t =
      List.range (min ((t.payloadLen + 255) % 256) (t.payloadLen - 1)) := by
  rw [storeRequestStores, can.extractStores_eq, List.range_eq_range', CanardRxTransfer.payloadLen]

end HouseBus
