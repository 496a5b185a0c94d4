import HouseBus.Canard.Fields
import HouseBus.Config.Failures
import HouseBus.Config.Getters
import HouseBus.ConfigInit
import HouseBus.GetSet.Safety
import HouseBus.Lifecycle
import HouseBus.NodeTasks

/-!
# The services of the application node (`sw/node.c`)

`CanRxThread` hands the frames to libcanard, which asks `shouldAcceptTransfer` about each transfer
that begins and calls `onTransferReceived` with each one that is complete. Both go through the table
`receiveTransfers`: the broadcasts that the application is registered for
(`sw/transfer_registrations.h`), then the requests of the four services. The passes of
`CanNodeThread` come between the transfers.

- `ServiceNode`: the node with its parameter store, the state of the application and the responses.
- **Each request is answered once** (`answered_once`): whatever the I2C bus does, a request of one
  of the services has exactly one response, back to its sender, under its transfer id and with the
  data type that it was accepted with; a GetSet request with an invalid payload has none.
-/

namespace HouseBus

open Bytes

/-! ## The table -/

/-- `CanardTransferType` -/
inductive CanardTransferType
  | response
  | request
  | broadcast
  deriving DecidableEq

/-- `CANARD_BROADCAST_NODE_ID` -/
def canardBroadcastNodeId : ℕ := 0

/-- A complete transfer, with what its callback finds: system time and supply voltage, and the stack
at the variables that it does not initialise. -/
structure Received where
  transferType : CanardTransferType
  dataTypeId : ℕ
  transfer : CanardRxTransfer
  now : ℕ
  vdda : ℕ
  nameLen : UInt8
  nameMem : Mem
  strMem : Mem

/-- A row of `receiveTransfers`. -/
structure ReceiveTransfer (σ : Type*) where
  transferType : CanardTransferType
  dataTypeId : ℕ
  dataTypeSignature : ℕ
  cb : Received → σ → σ

namespace ReceiveTransfer

variable {σ : Type*}

/-- The test of the row, in both functions. -/
def Matches (r : ReceiveTransfer σ) (transferType : CanardTransferType) (dataTypeId : ℕ) : Prop :=
  transferType = r.transferType ∧ dataTypeId = r.dataTypeId

instance (r : ReceiveTransfer σ) (transferType : CanardTransferType) (dataTypeId : ℕ) :
    Decidable (r.Matches transferType dataTypeId) :=
  inferInstanceAs (Decidable (_ ∧ _))

/-- `onTransferReceived`: all rows that match are called. -/
def onTransferReceived (receiveTransfers : List (ReceiveTransfer σ)) (t : Received) (s : σ) : σ :=
  receiveTransfers.foldl
    (fun s r => if r.Matches t.transferType t.dataTypeId then r.cb t s else s) s

/-- `shouldAcceptTransfer`: the signature of the first row that matches. -/
def shouldAcceptTransfer (receiveTransfers : List (ReceiveTransfer σ)) (localNodeId : ℕ)
    (dataTypeId : ℕ) (transferType : CanardTransferType) : Option ℕ :=
  if localNodeId = canardBroadcastNodeId then none
  else (receiveTransfers.find? fun r => r.Matches transferType dataTypeId).map dataTypeSignature

/-- Rows of another type are not called. -/
theorem onTransferReceived_of_ne {rows : List (ReceiveTransfer σ)} {t : Received}
    (h : ∀ r ∈ rows, ¬ r.Matches t.transferType t.dataTypeId) (s : σ) :
    onTransferReceived rows t s = s := by
  unfold onTransferReceived
  induction rows with
  | nil => rfl
  | cons r rows ih =>
    obtain ⟨hr, hrows⟩ := List.forall_mem_cons.mp h
    rw [List.foldl_cons, if_neg hr, ih hrows]

theorem onTransferReceived_append (rows rows' : List (ReceiveTransfer σ)) (t : Received) (s : σ) :
    onTransferReceived (rows ++ rows') t s =
      onTransferReceived rows' t (onTransferReceived rows t s) :=
  List.foldl_append

/-- What every matching row keeps, the loop keeps. -/
theorem onTransferReceived_induction {rows : List (ReceiveTransfer σ)} {t : Received}
    {I : σ → Prop}
    (h : ∀ r ∈ rows, r.Matches t.transferType t.dataTypeId → ∀ s, I s → I (r.cb t s))
    {s : σ} (hs : I s) : I (onTransferReceived rows t s) := by
  unfold onTransferReceived
  induction rows generalizing s with
  | nil => exact hs
  | cons r rows ih =>
    obtain ⟨hr, hrows⟩ := List.forall_mem_cons.mp h
    rw [List.foldl_cons]
    refine ih hrows ?_
    split
    · rename_i hmatches
      exact hr hmatches s hs
    · exact hs

/-- The rows have different keys. -/
def Distinct (rows : List (ReceiveTransfer σ)) : Prop :=
  rows.Pairwise fun r r' => ¬ r.Matches r'.transferType r'.dataTypeId

/-- Of rows with different keys at most one is called, the one that `shouldAcceptTransfer`
finds. -/
theorem onTransferReceived_of_distinct {rows : List (ReceiveTransfer σ)} (h : Distinct rows)
    (t : Received) (s : σ) :
    onTransferReceived rows t s =
      ((rows.find? fun r => r.Matches t.transferType t.dataTypeId).elim s fun r => r.cb t s) := by
  induction rows with
  | nil => rfl
  | cons r rows ih =>
    obtain ⟨hr, hrows⟩ := List.pairwise_cons.mp h
    by_cases hmatches : r.Matches t.transferType t.dataTypeId
    · have hrest : ∀ r' ∈ rows, ¬ r'.Matches t.transferType t.dataTypeId := by
        intro r' hr' ⟨htype, hid⟩
        rw [htype, hid] at hmatches
        exact hr r' hr' hmatches
      rw [List.find?_cons_of_pos (by simpa using hmatches), Option.elim_some]
      show onTransferReceived rows t (if r.Matches t.transferType t.dataTypeId then r.cb t s
        else s) = _
      rw [if_pos hmatches, onTransferReceived_of_ne hrest]
    · rw [List.find?_cons_of_neg (by simpa using hmatches), ← ih hrows]
      show onTransferReceived rows t (if r.Matches t.transferType t.dataTypeId then r.cb t s
        else s) = _
      rw [if_neg hmatches]

end ReceiveTransfer

/-! ## The node -/

/-- `UNIQUE_ID_LENGTH_BYTES` -/
def uniqueIdLengthBytes : ℕ := 12

/-- What is fixed for a node: the unique id of the chip, the commit it was built from, and the
parameters that its `app_config_update` reads. -/
structure NodeBoard where
  uniqueId : List UInt8
  length_uniqueId : uniqueId.length = uniqueIdLengthBytes
  vcsCommit : ℕ
  reads : List ℕ

/-- A response handed to `canardLockRequestOrRespond`, with its data type. -/
structure ServiceResponse where
  dataTypeSignature : ℕ
  dataTypeId : ℕ
  response : CanardResponse

/-- The node, its parameter store, the application and the responses, the last one at the end. -/
structure ServiceNode (α : Type*) where
  node : CanNode
  i2c : I2c
  app : α
  responses : List ServiceResponse

/-- The status that `makeNodeStatusMessage` encodes. -/
def CanNode.makeNodeStatus (now vdda : ℕ) (s : CanNode) : NodeStatus where
  uptimeSec := s.uptimeSec now
  health := s.nodeHealth
  mode := if isNodeRestartRequested s.state then nodeModeInitialization else s.nodeMode
  vdda := vdda % 2 ^ 16

theorem CanNode.onGetNodeInfo_eq (now vdda : ℕ) (s : CanNode) :
    s.onGetNodeInfo now vdda =
      { s with
        nodeMode := (s.makeNodeStatus now vdda).mode
        sent := s.sent ++ [s.makeNodeStatus now vdda] } := rfl

/-- The fields of `makeNodeStatusMessage`, one behind the other. -/
def NodeStatus.fields (status : NodeStatus) : List CanardField :=
  [⟨0, 32, status.uptimeSec⟩, ⟨32, 2, status.health⟩, ⟨34, 3, status.mode⟩, ⟨40, 16, status.vdda⟩]

/-- `APP_VERSION_MAJOR`, by `sw/Makefile`. -/
def appVersionMajor : UInt8 := 0

/-- `APP_VERSION_MINOR` -/
def appVersionMinor : UInt8 := 1

/-- `UAVCAN_GET_NODE_INFO_RESPONSE_MAX_SIZE` -/
def uavcanGetNodeInfoResponseMaxSize : ℕ := (3015 + 7) / 8

namespace NodeBoard

variable (board : NodeBoard)

/-- `buffer` of `onGetNodeInfo` in front of the name. -/
def nodeInfoBuffer (can : Canard) (status : NodeStatus) : Mem :=
  let buffer := can.encodeFields (fun _ => 0) status.fields
  let buffer := put buffer 7 appVersionMajor
  let buffer := put buffer 8 appVersionMinor
  let buffer := put buffer 9 1
  let buffer := can.encodeScalar buffer 80 32 board.vcsCommit
  write buffer 24 board.uniqueId

/-- The payload of `onGetNodeInfo`, and the state of the I2C driver behind it. Without a length
from `config_get` the one on the stack counts. -/
def nodeInfo (can : Canard) (bus : Bus) (status : NodeStatus) (nameLen : UInt8) (s : I2c) :
    List UInt8 × I2c :=
  let g := configGet bus configNodeName 41 (board.nodeInfoBuffer can status) s
  let totalSize := 41 + g.valid.getD nameLen.toNat
  (read g.dst 0 totalSize, g.i2c)

end NodeBoard

namespace ServiceNode

variable {α : Type*} (can : Canard) (bus : Bus) (board : NodeBoard)

/-! ## The callbacks -/

/-- `UAVCAN_GET_NODE_INFO_DATA_TYPE_ID` -/
def getNodeInfoId : ℕ := 1

/-- `UAVCAN_GET_NODE_INFO_DATA_TYPE_SIGNATURE` -/
def getNodeInfoSignature : ℕ := 0xee468a8121c46a9e

/-- `UAVCAN_RESTART_NODE_DATA_TYPE_ID` -/
def restartNodeId : ℕ := 5

/-- `UAVCAN_RESTART_NODE_DATA_TYPE_SIGNATURE` -/
def restartNodeSignature : ℕ := 0x569e05394a3017f0

/-- `UAVCAN_PARAM_GETSET_DATA_TYPE_ID` -/
def paramGetSetId : ℕ := 11

/-- `UAVCAN_PARAM_GETSET_DATA_TYPE_SIGNATURE` -/
def paramGetSetSignature : ℕ := 0xa7b622f939d1a4d5

/-- `UAVCAN_BEGIN_FIRMWARE_UPDATE_DATA_TYPE_ID` -/
def beginFirmwareUpdateId : ℕ := 40

/-- `UAVCAN_BEGIN_FIRMWARE_UPDATE_DATA_TYPE_SIGNATURE` -/
def beginFirmwareUpdateSignature : ℕ := 0xb7d725df72724126

/-- `canardLockRequestOrRespond` with a response. -/
def respond (signature dataTypeId : ℕ) (response : CanardResponse) (s : ServiceNode α) :
    ServiceNode α :=
  { s with responses := s.responses ++ [⟨signature, dataTypeId, response⟩] }

/-- `onGetNodeInfo` -/
def onGetNodeInfo (t : Received) (s : ServiceNode α) : ServiceNode α :=
  let status := s.node.makeNodeStatus t.now t.vdda
  let info := board.nodeInfo can bus status t.nameLen s.i2c
  { s with node := s.node.onGetNodeInfo t.now t.vdda, i2c := info.2 }.respond
    getNodeInfoSignature getNodeInfoId (t.transfer.respond info.1)

/-- `onRestartNode`; `requestNodeRestart` reads the node id. -/
def onRestartNode (t : Received) (s : ServiceNode α) : ServiceNode α :=
  let nodeId := configGetUint bus configNodeId s.i2c
  let r := HouseBus.onRestartNode (App.requestNodeRestart t.now nodeId.1) t.transfer s.node.state
  let accepted := (List.range 5).map t.transfer.payloadHead = restartNodeMagicNumber
  { s with
    node := { s.node with state := r.1 }
    i2c := if accepted then nodeId.2 else s.i2c }.respond restartNodeSignature restartNodeId r.2

/-- `onParamGetSet`; there is no response to an invalid payload. -/
def onParamGetSet (t : Received) (s : ServiceNode α) : ServiceNode α :=
  let r := HouseBus.onParamGetSet can bus board.reads t.nameMem t.strMem t.transfer s.i2c
  let s := { s with i2c := r.i2c }
  match r.response with
  | some response => s.respond paramGetSetSignature paramGetSetId response
  | none => s

/-- `onBeginFirmwareUpdate`; `requestNodeRestart` reads the node id. -/
def onBeginFirmwareUpdate (t : Received) (s : ServiceNode α) : ServiceNode α :=
  let nodeId := configGetUint bus configNodeId s.i2c
  let r := App.onBeginFirmwareUpdate can t.now nodeId.1 t.transfer s.node.state
  { s with
    node := { s.node with state := r.1 }
    i2c := if isNodeRestartRequested s.node.state then s.i2c else nodeId.2 }.respond
      beginFirmwareUpdateSignature beginFirmwareUpdateId r.2

/-- The rows of the services. -/
def services : List (ReceiveTransfer (ServiceNode α)) := [
  ⟨.request, getNodeInfoId, getNodeInfoSignature, onGetNodeInfo can bus board⟩,
  ⟨.request, restartNodeId, restartNodeSignature, onRestartNode bus⟩,
  ⟨.request, paramGetSetId, paramGetSetSignature, onParamGetSet can bus board⟩,
  ⟨.request, beginFirmwareUpdateId, beginFirmwareUpdateSignature, onBeginFirmwareUpdate can bus⟩]

/-- A line of `transfer_registrations.h`: a broadcast for the application. -/
structure Registration (α : Type*) where
  dataTypeId : ℕ
  dataTypeSignature : ℕ
  cb : Received → α → α

/-- `REGISTER_TRANSFER` -/
def Registration.row (r : Registration α) : ReceiveTransfer (ServiceNode α) where
  transferType := .broadcast
  dataTypeId := r.dataTypeId
  dataTypeSignature := r.dataTypeSignature
  cb t s := { s with app := r.cb t s.app }

/-- `receiveTransfers` -/
def receiveTransfers (registrations : List (Registration α)) :
    List (ReceiveTransfer (ServiceNode α)) :=
  registrations.map Registration.row ++ services can bus board

variable (registrations : List (Registration α)) (localNodeId : ℕ)

/-- A transfer on the bus, addressed to the node or to all. -/
def receive (t : Received) (s : ServiceNode α) : ServiceNode α :=
  let rows := receiveTransfers can bus board registrations
  match ReceiveTransfer.shouldAcceptTransfer rows localNodeId t.dataTypeId t.transferType with
  | some _ => ReceiveTransfer.onTransferReceived rows t s
  | none => s

end ServiceNode

/-- What happens to a node: a transfer, or a pass of `CanNodeThread`. -/
inductive ServiceEvent
  | received (t : Received)
  | pass (clock : PassClock) (vdda : ℕ)

/-- The state after an event; after a reset nothing happens any more. -/
def ServiceNode.step {α : Type*} (can : Canard) (bus : Bus) (board : NodeBoard)
    (registrations : List (ServiceNode.Registration α)) (localNodeId : ℕ) (s : ServiceNode α) :
    ServiceEvent → ServiceNode α
  | .received t =>
    if s.node.reset then s else s.receive can bus board registrations localNodeId t
  | .pass clock vdda => if s.node.reset then s else { s with node := s.node.pass clock vdda }

/-! ## Each request is answered once -/

/-- `UAVCAN_RESTART_NODE_RESPONSE_MAX_SIZE`; also the one byte of the response to
BeginFirmwareUpdate. -/
def uavcanRestartNodeResponseMaxSize : ℕ := (1 + 7) / 8

/-- What a response says besides its payload. -/
structure ResponseHeader where
  dataTypeSignature : ℕ
  dataTypeId : ℕ
  destinationNodeId : UInt8
  transferId : UInt8
  priority : UInt8

def ServiceResponse.header (r : ServiceResponse) : ResponseHeader where
  dataTypeSignature := r.dataTypeSignature
  dataTypeId := r.dataTypeId
  destinationNodeId := r.response.destinationNodeId
  transferId := r.response.transferId
  priority := r.response.priority

/-- The payload of a GetSet request has a value that ends inside it. -/
def ValidGetSet (can : Canard) (t : CanardRxTransfer) : Prop :=
  2 ≤ t.payloadLen ∧ ∃ len ∈ GetSet.valueLen t (GetSet.unionTag can t), 2 + len ≤ t.payloadLen

instance (can : Canard) (t : CanardRxTransfer) : Decidable (ValidGetSet can t) :=
  inferInstanceAs (Decidable (_ ∧ ∃ len ∈ GetSet.valueLen t _, _))

namespace ServiceNode

variable {α : Type*}

/-- The size of the array that a response is taken from. -/
def responseMaxSize (dataTypeId : ℕ) : ℕ :=
  if dataTypeId = getNodeInfoId then uavcanGetNodeInfoResponseMaxSize
  else if dataTypeId = paramGetSetId then uavcanParamGetSetResponseMaxSize
  else uavcanRestartNodeResponseMaxSize

/-- One response to `t`, from the array of its data type. -/
def RespondsTo (t : Received) (signature dataTypeId : ℕ) (s s' : ServiceNode α) : Prop :=
  ∃ payload, s'.responses =
      s.responses ++ [⟨signature, dataTypeId, t.transfer.respond payload⟩] ∧
    payload.length ≤ responseMaxSize dataTypeId

section Callbacks

variable (can : Canard) (bus : Bus) (board : NodeBoard) (t : Received) (s : ServiceNode α)

/-- The name has 80 bytes at most, or the length that the stack says. -/
theorem length_nodeInfo_le (status : NodeStatus) (nameLen : UInt8) (i2c : I2c) :
    (board.nodeInfo can bus status nameLen i2c).1.length ≤ uavcanGetNodeInfoResponseMaxSize := by
  rw [NodeBoard.nodeInfo, length_read, uavcanGetNodeInfoResponseMaxSize]
  cases h : (configGet bus configNodeName 41 (board.nodeInfoBuffer can status) i2c).valid with
  | none =>
    have hstack := nameLen.toNat_lt
    rw [Option.getD_none]
    omega
  | some v =>
    have hvalid := configGet_valid (by decide) h
    have hsize := configGetParamSize_le configNodeName
    rw [validLength] at hvalid
    rw [Option.getD_some]
    omega

theorem respondsTo_onGetNodeInfo :
    RespondsTo t getNodeInfoSignature getNodeInfoId s (onGetNodeInfo can bus board t s) :=
  ⟨_, rfl, length_nodeInfo_le can bus board _ _ _⟩

theorem respondsTo_onRestartNode :
    RespondsTo t restartNodeSignature restartNodeId s (onRestartNode bus t s) := by
  have hcases : ∀ f : NodeState → NodeState, ∃ b : UInt8,
      (HouseBus.onRestartNode f t.transfer s.node.state).2 = t.transfer.respond [b] := by
    intro f
    rw [HouseBus.onRestartNode]
    split
    · exact ⟨1, rfl⟩
    · exact ⟨0, rfl⟩
  obtain ⟨b, hb⟩ := hcases (App.requestNodeRestart t.now (configGetUint bus configNodeId s.i2c).1)
  refine ⟨[b], ?_, Nat.le_refl _⟩
  rw [← hb]
  rfl

theorem respondsTo_onBeginFirmwareUpdate :
    RespondsTo t beginFirmwareUpdateSignature beginFirmwareUpdateId s
      (onBeginFirmwareUpdate can bus t s) :=
  ⟨[if isNodeRestartRequested s.node.state then 1 else 0], rfl, Nat.le_refl _⟩

/-- The value, the empty fields and the name of a parameter. -/
theorem length_paramResponse_le {param : ℕ} (h : param < configParamLast) (buffer : Mem)
    (i2c : I2c) :
    (GetSet.nameResponse param (GetSet.valueResponse bus param buffer i2c)).size ≤
      uavcanParamGetSetResponseMaxSize := by
  have hsize := (GetSet.valueResponse_bounds bus param buffer i2c).1
  have hname := (length_configParamName h).2
  rw [GetSet.nameResponse, uavcanParamGetSetResponseMaxSize]
  dsimp only
  omega

/-- A request whose value is there has a response. -/
theorem response_of_valid (hvalid : ValidGetSet can t.transfer) (i2c : I2c) :
    ∃ payload, (HouseBus.onParamGetSet can bus board.reads t.nameMem t.strMem t.transfer
        i2c).response = some (t.transfer.respond payload) ∧
      payload.length ≤ uavcanParamGetSetResponseMaxSize := by
  obtain ⟨-, len, hlen, hle⟩ := hvalid
  rw [GetSet.onParamGetSet_eq board.reads t.nameMem t.strMem i2c hlen hle]
  dsimp only
  split
  · rename_i hparam
    refine ⟨_, rfl, ?_⟩
    rw [length_read]
    exact length_paramResponse_le bus hparam _ _
  · exact ⟨[0, 0, 0, 0], rfl, by decide⟩

theorem respondsTo_onParamGetSet (hvalid : ValidGetSet can t.transfer) :
    RespondsTo t paramGetSetSignature paramGetSetId s (onParamGetSet can bus board t s) := by
  obtain ⟨payload, hresponse, hlength⟩ := response_of_valid can bus board t hvalid s.i2c
  refine ⟨payload, ?_, hlength⟩
  rw [onParamGetSet, hresponse]
  rfl

theorem onParamGetSet_of_invalid (hinvalid : ¬ ValidGetSet can t.transfer) :
    (onParamGetSet can bus board t s).responses = s.responses := by
  have hnone : (HouseBus.onParamGetSet can bus board.reads t.nameMem t.strMem t.transfer
      s.i2c).response = none := by
    rw [HouseBus.onParamGetSet]
    split
    · rfl
    rename_i h2
    split
    · rfl
    rename_i len hlen
    dsimp only
    have hneg : (t.transfer.payloadLen : ℤ) - 2 - len < 0 := by
      by_contra hge
      exact hinvalid ⟨by omega, len, hlen, by omega⟩
    rw [if_pos hneg]
  rw [onParamGetSet, hnone]

theorem services_distinct :
    ReceiveTransfer.Distinct (services (α := α) can bus board) := by
  unfold ReceiveTransfer.Distinct services
  simp [ReceiveTransfer.Matches, getNodeInfoId, restartNodeId, paramGetSetId,
    beginFirmwareUpdateId]

/-- Every service responds once, but for the invalid payloads of GetSet. -/
theorem services_respond {row : ReceiveTransfer (ServiceNode α)}
    (hrow : row ∈ services can bus board) :
    ((row.dataTypeId = paramGetSetId → ValidGetSet can t.transfer) →
      RespondsTo t row.dataTypeSignature row.dataTypeId s (row.cb t s)) ∧
    (¬ (row.dataTypeId = paramGetSetId → ValidGetSet can t.transfer) →
      (row.cb t s).responses = s.responses) := by
  simp only [services, List.mem_cons, List.not_mem_nil, or_false] at hrow
  obtain rfl | rfl | rfl | rfl := hrow
  · have hne : getNodeInfoId ≠ paramGetSetId := by decide
    exact ⟨fun _ => respondsTo_onGetNodeInfo can bus board t s, fun h => absurd (absurd · hne) h⟩
  · have hne : restartNodeId ≠ paramGetSetId := by decide
    exact ⟨fun _ => respondsTo_onRestartNode bus t s, fun h => absurd (absurd · hne) h⟩
  · refine ⟨fun h => respondsTo_onParamGetSet can bus board t s (h rfl), fun h => ?_⟩
    exact onParamGetSet_of_invalid can bus board t s fun hvalid => h fun _ => hvalid
  · have hne : beginFirmwareUpdateId ≠ paramGetSetId := by decide
    exact ⟨fun _ => respondsTo_onBeginFirmwareUpdate can bus t s,
      fun h => absurd (absurd · hne) h⟩

end Callbacks

section Receive

variable {can : Canard} {bus : Bus} {board : NodeBoard} {registrations : List (Registration α)}
  {t : Received}

/-- A request is only for the services. -/
theorem registration_not_matches (htype : t.transferType ≠ .broadcast) :
    ∀ r ∈ registrations.map Registration.row, ¬ r.Matches t.transferType t.dataTypeId := by
  intro r hr hmatches
  obtain ⟨g, -, rfl⟩ := List.mem_map.mp hr
  exact htype hmatches.1

/-- A broadcast is only for the application. -/
theorem service_not_matches (htype : t.transferType ≠ .request) :
    ∀ r ∈ services (α := α) can bus board, ¬ r.Matches t.transferType t.dataTypeId := by
  intro r hr hmatches
  simp only [services, List.mem_cons, List.not_mem_nil, or_false] at hr
  obtain rfl | rfl | rfl | rfl := hr <;> exact htype hmatches.1

/-- The row of the service for a request. -/
def serviceRow (can : Canard) (bus : Bus) (board : NodeBoard) (t : Received) :
    Option (ReceiveTransfer (ServiceNode α)) :=
  (services can bus board).find? fun r => r.Matches t.transferType t.dataTypeId

theorem onTransferReceived_request (htype : t.transferType = .request) (s : ServiceNode α) :
    ReceiveTransfer.onTransferReceived (receiveTransfers can bus board registrations) t s =
      (serviceRow can bus board t).elim s fun r => r.cb t s := by
  have hregistrations : ∀ r ∈ registrations.map Registration.row,
      ¬ r.Matches t.transferType t.dataTypeId :=
    registration_not_matches (by rw [htype]; decide)
  rw [receiveTransfers, ReceiveTransfer.onTransferReceived_append,
    ReceiveTransfer.onTransferReceived_of_ne hregistrations,
    ReceiveTransfer.onTransferReceived_of_distinct (services_distinct can bus board), serviceRow]

theorem shouldAcceptTransfer_request (htype : t.transferType = .request) {localNodeId : ℕ}
    (hlocal : localNodeId ≠ canardBroadcastNodeId) :
    ReceiveTransfer.shouldAcceptTransfer (receiveTransfers can bus board registrations) localNodeId
        t.dataTypeId t.transferType =
      (serviceRow (α := α) can bus board t).map ReceiveTransfer.dataTypeSignature := by
  have hregistrations : ∀ r ∈ registrations.map Registration.row,
      ¬ r.Matches t.transferType t.dataTypeId :=
    registration_not_matches (by rw [htype]; decide)
  have hnone : (registrations.map Registration.row).find?
      (fun r => r.Matches t.transferType t.dataTypeId) = none :=
    List.find?_eq_none.mpr fun r hr => by simpa using hregistrations r hr
  rw [ReceiveTransfer.shouldAcceptTransfer, if_neg hlocal, receiveTransfers, List.find?_append,
    hnone, Option.none_or, serviceRow]

/-- Another transfer is for the application alone. -/
theorem onTransferReceived_of_not_request (htype : t.transferType ≠ .request) (s : ServiceNode α) :
    ∃ app, ReceiveTransfer.onTransferReceived (receiveTransfers can bus board registrations) t s =
      { s with app := app } := by
  rw [receiveTransfers, ReceiveTransfer.onTransferReceived_append,
    ReceiveTransfer.onTransferReceived_of_ne (service_not_matches htype)]
  refine ReceiveTransfer.onTransferReceived_induction
    (I := fun s' : ServiceNode α => ∃ app, s' = { s with app := app }) ?_ ⟨s.app, rfl⟩
  rintro r hr _ s' ⟨app, rfl⟩
  obtain ⟨g, -, rfl⟩ := List.mem_map.mp hr
  exact ⟨g.cb t app, rfl⟩

theorem receive_of_not_request (htype : t.transferType ≠ .request) (localNodeId : ℕ)
    (s : ServiceNode α) :
    ∃ app, s.receive can bus board registrations localNodeId t = { s with app := app } := by
  rw [receive]
  split
  · exact onTransferReceived_of_not_request htype s
  · exact ⟨s.app, rfl⟩

/-- A request is handled by the service that has its row, if there is one. -/
theorem receive_request (htype : t.transferType = .request) {localNodeId : ℕ}
    (hlocal : localNodeId ≠ canardBroadcastNodeId) (s : ServiceNode α) :
    s.receive can bus board registrations localNodeId t =
      (serviceRow can bus board t).elim s fun r => r.cb t s := by
  rw [receive, shouldAcceptTransfer_request htype hlocal, onTransferReceived_request htype]
  cases serviceRow can bus board t with
  | none => rfl
  | some row => rfl

end Receive

end ServiceNode

/-- The header of the response that an event has: a transfer that is accepted as a request, unless
it is a GetSet request with an invalid payload. -/
def ServiceEvent.answer {σ : Type*} (can : Canard) (rows : List (ReceiveTransfer σ))
    (localNodeId : ℕ) : ServiceEvent → Option ResponseHeader
  | .received t =>
    if t.transferType = .request ∧
        (t.dataTypeId = ServiceNode.paramGetSetId → ValidGetSet can t.transfer) then
      (ReceiveTransfer.shouldAcceptTransfer rows localNodeId t.dataTypeId t.transferType).map
        fun signature => ⟨signature, t.dataTypeId, t.transfer.sourceNodeId, t.transfer.transferId,
          t.transfer.priority⟩
    else none
  | .pass _ _ => none

namespace ServiceNode

variable {α : Type*}

section Answers

variable (can : Canard) (bus : Bus) (board : NodeBoard) (registrations : List (Registration α))
  (localNodeId : ℕ)

/-- The responses that come to those of `s`: one for each answer, from an array that has room for
it. -/
def Answered (s s' : ServiceNode α) (answers : List ResponseHeader) : Prop :=
  ∃ new, s'.responses = s.responses ++ new ∧ new.map ServiceResponse.header = answers ∧
    ∀ r ∈ new, r.response.payload.length ≤ responseMaxSize r.dataTypeId

theorem Answered.refl (s : ServiceNode α) : Answered s s [] :=
  ⟨[], (List.append_nil _).symm, rfl, nofun⟩

theorem Answered.of_eq {s s' : ServiceNode α} (h : s'.responses = s.responses) :
    Answered s s' [] :=
  ⟨[], by rw [h, List.append_nil], rfl, nofun⟩

theorem Answered.trans {s s' s'' : ServiceNode α} {answers answers' : List ResponseHeader}
    (h : Answered s s' answers) (h' : Answered s' s'' answers') :
    Answered s s'' (answers ++ answers') := by
  obtain ⟨new, hnew, hheader, hlength⟩ := h
  obtain ⟨new', hnew', hheader', hlength'⟩ := h'
  refine ⟨new ++ new', ?_, ?_, ?_⟩
  · rw [hnew', hnew, List.append_assoc]
  · rw [List.map_append, hheader, hheader']
  · exact List.forall_mem_append.mpr ⟨hlength, hlength'⟩

theorem RespondsTo.answered {t : Received} {signature dataTypeId : ℕ} {s s' : ServiceNode α}
    (h : RespondsTo t signature dataTypeId s s') :
    Answered s s' [⟨signature, dataTypeId, t.transfer.sourceNodeId, t.transfer.transferId,
      t.transfer.priority⟩] := by
  obtain ⟨payload, hresponses, hlength⟩ := h
  refine ⟨_, hresponses, rfl, ?_⟩
  intro r hr
  rw [List.mem_singleton.mp hr]
  exact hlength

theorem answered_receive (t : Received) (s : ServiceNode α) :
    Answered s (s.receive can bus board registrations localNodeId t)
      (ServiceEvent.answer can (receiveTransfers can bus board registrations) localNodeId
        (.received t)).toList := by
  have hrefused : ReceiveTransfer.shouldAcceptTransfer (receiveTransfers can bus board
      registrations) localNodeId t.dataTypeId t.transferType = none →
      Answered s (s.receive can bus board registrations localNodeId t)
        (ServiceEvent.answer can (receiveTransfers can bus board registrations) localNodeId
          (.received t)).toList := by
    intro hnone
    rw [receive, ServiceEvent.answer, hnone, Option.map_none, ite_self]
    exact Answered.refl s
  by_cases hlocal : localNodeId = canardBroadcastNodeId
  · exact hrefused (if_pos hlocal)
  by_cases htype : t.transferType = .request
  · have haccept : ReceiveTransfer.shouldAcceptTransfer (receiveTransfers can bus board
        registrations) localNodeId t.dataTypeId t.transferType = _ :=
      shouldAcceptTransfer_request htype hlocal
    cases hrow : serviceRow (α := α) can bus board t with
    | none => exact hrefused (by rw [haccept, hrow, Option.map_none])
    | some row =>
      have hmem := List.mem_of_find?_eq_some hrow
      have hmatches : row.Matches t.transferType t.dataTypeId := by
        simpa using List.find?_some hrow
      obtain ⟨hvalid, hinvalid⟩ := services_respond can bus board t s hmem
      rw [← hmatches.2] at hvalid hinvalid
      rw [receive_request htype hlocal, ServiceEvent.answer, haccept, hrow]
      by_cases h : t.dataTypeId = paramGetSetId → ValidGetSet can t.transfer
      · rw [if_pos ⟨htype, h⟩]
        exact (hvalid h).answered
      · rw [if_neg fun hboth => h hboth.2]
        exact Answered.of_eq (hinvalid h)
  · obtain ⟨app, happ⟩ : ∃ app, s.receive can bus board registrations localNodeId t =
        { s with app := app } := receive_of_not_request htype localNodeId s
    rw [ServiceEvent.answer, if_neg fun hboth => htype hboth.1, happ]
    exact Answered.of_eq rfl

theorem answered_step {s : ServiceNode α} (hrun : s.node.reset = false) (e : ServiceEvent) :
    Answered s (step can bus board registrations localNodeId s e)
      (e.answer can (receiveTransfers can bus board registrations) localNodeId).toList := by
  cases e with
  | received t =>
    rw [step, if_neg (by rw [hrun]; decide)]
    exact answered_receive can bus board registrations localNodeId t s
  | pass clock vdda =>
    rw [step, if_neg (by rw [hrun]; decide)]
    exact Answered.of_eq rfl

/-- **Each request is answered once**: over any run before a reset and whatever the I2C bus does,
the responses are those to the accepted requests, in their order: each goes to the sender of its
request, under the same transfer id and with the signature that the request was accepted with, and
ends inside the array that it is taken from. -/
theorem answered_once {s : ServiceNode α} {es : List ServiceEvent}
    (hes : Machine.Meets (step can bus board registrations localNodeId)
      (fun s _ => s.node.reset = false) s es) :
    Answered s (Machine.run (step can bus board registrations localNodeId) s es)
      (es.filterMap
        (ServiceEvent.answer can (receiveTransfers can bus board registrations) localNodeId)) := by
  induction es generalizing s with
  | nil => exact Answered.refl s
  | cons e es ih =>
    rw [Machine.run_cons, List.filterMap_cons]
    have hstep := (answered_step can bus board registrations localNodeId hes.1 e).trans (ih hes.2)
    cases h : e.answer can (receiveTransfers can bus board registrations) localNodeId with
    | none =>
      rw [h] at hstep
      exact hstep
    | some header =>
      rw [h] at hstep
      exact hstep

end Answers

/-- The node as `main` starts it; `boot` is what the bootloader left in the shared struct. -/
def start (boot : BootloaderInterface) (i2c : I2c) (app : α) : ServiceNode α where
  node := CanNode.start (App.main boot).bootloaderInterface
  i2c := i2c
  app := app
  responses := []

/-- A request as it arrives, at time 0. -/
def request (dataTypeId : ℕ) (t : CanardRxTransfer) : Received :=
  ⟨.request, dataTypeId, t, 0, 0, 0, fun _ => 0, fun _ => 0⟩

/-- A chip with the unique id 0, and a program whose application reads no parameter. -/
def plainBoard : NodeBoard := ⟨List.replicate 12 0, List.length_replicate, 0, []⟩

/-- A request to restart, and one that is too short for GetSet. -/
theorem answered_once_restart :
    let es : List ServiceEvent := [.received (request restartNodeId Lifecycle.restartNodeRequest),
      .received (request paramGetSetId ⟨1, 1, 0, [2], by decide, fun _ => 0⟩)]
    let s : ServiceNode Unit := start ⟨fun _ => 0⟩ ⟨fun _ => 0, 0, []⟩ ()
    Answered s (Machine.run (step .uavcan .works plainBoard [] 5) s es)
      [⟨restartNodeSignature, restartNodeId, 1, 0, 0⟩] := by
  intro es s
  exact answered_once .uavcan .works plainBoard [] 5 ⟨rfl, rfl, trivial⟩

end ServiceNode

end HouseBus
