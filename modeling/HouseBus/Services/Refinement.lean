import HouseBus.GetSet.ParamMap
import HouseBus.Handover
import HouseBus.Lifecycle
import HouseBus.Services

/-!
# What the services are for

To the other nodes a node is a map of parameters, a restart that may be requested, and a firmware
update that may be accepted (`NodeServices`). The calls of the services (`ServiceCall`) read and
change that: GetNodeInfo shows mode and name, RestartNode requests a restart, GetSet is the map, and
BeginFirmwareUpdate is accepted unless a restart is requested.

On an I2C bus without failures the node follows it (`services_refine`): after any calls of the
services, broadcasts for the application and passes, each response shows what the abstract node
replies, and the bootloader finds after the reset what the accepted requests left: the node id that
the map held at the last one, and the server and the path of the update.
-/

namespace HouseBus

open Bytes

/-! ## The abstract node -/

/-- `CONFIG_NODE_ID` as a parameter. -/
def nodeIdParam : Param := ⟨configNodeId, by decide⟩

/-- `CONFIG_NODE_NAME` as a parameter. -/
def nodeNameParam : Param := ⟨configNodeName, by decide⟩

/-- The node id in a map, as the bootloader gets it: its low 8 bits, zero if none was set. -/
def ParamMap.nodeId (σ : ParamMap) : UInt8 := UInt8.ofNat (leNat (ParamValue.bytes? (σ nodeIdParam)))

/-- The name in a map, empty if none was set. -/
def ParamMap.nodeName (σ : ParamMap) : List UInt8 := ParamValue.bytes? (σ nodeNameParam)

/-- A firmware update: the node that has the file, and its path. -/
structure UpdateRequest where
  server : UInt8
  path : List UInt8

/-- The parameters, the node id for the bootloader if a restart is requested, and the update that
was accepted. -/
structure NodeServices where
  params : ParamMap
  restart : Option UInt8
  update : Option UpdateRequest

/-- A call of a service, or what comes in between: a broadcast or a pass. -/
inductive ServiceCall (can : Canard)
  | getNodeInfo (t : CanardRxTransfer) (now vdda : ℕ) (nameLen : UInt8)
  | restartNode (t : CanardRxTransfer) (now : ℕ)
  | getSet (c : GetSetCall can)
  | beginFirmwareUpdate (t : CanardRxTransfer) (now : ℕ)
  | broadcast (dataTypeId : ℕ) (t : CanardRxTransfer)
  | pass (clock : PassClock) (vdda : ℕ)

/-- What a response says. -/
inductive ServiceReply
  | nodeInfo (mode : ℕ) (name : List UInt8)
  | restart (ok : Bool)
  | param (payload : List UInt8)
  | update (accepted : Bool)

namespace NodeServices

variable {can : Canard}

/-- The request has the magic number. -/
def RestartMagic (t : CanardRxTransfer) : Prop :=
  (List.range 5).map t.payloadHead = restartNodeMagicNumber

instance (t : CanardRxTransfer) : Decidable (RestartMagic t) :=
  inferInstanceAs (Decidable (_ = _))

/-- The request of a BeginFirmwareUpdate transfer. -/
def updateOf (t : CanardRxTransfer) : UpdateRequest := ⟨t.payloadHead 0, t.payload.drop 1⟩

/-- The node after a call. -/
def step (a : NodeServices) : ServiceCall can → NodeServices
  | .restartNode t _ => if RestartMagic t then { a with restart := some a.params.nodeId } else a
  | .getSet c => { a with params := a.params.step c.request }
  | .beginFirmwareUpdate t _ =>
    if a.restart.isSome then a
    else { a with restart := some a.params.nodeId, update := some (updateOf t) }
  | .getNodeInfo .. | .broadcast .. | .pass .. => a

/-- The reply to a call. -/
def reply (a : NodeServices) : ServiceCall can → Option ServiceReply
  | .getNodeInfo .. =>
    some (.nodeInfo (if a.restart.isSome then nodeModeInitialization else nodeModeOperational)
      a.params.nodeName)
  | .restartNode t _ => some (.restart (decide (RestartMagic t)))
  | .getSet c =>
    some (.param (paramResponse c.request.param
      (a.params.step c.request c.request.param)))
  | .beginFirmwareUpdate .. => some (.update !a.restart.isSome)
  | .broadcast .. | .pass .. => none

/-- The replies to calls, one after another. -/
def replies (a : NodeServices) : List (ServiceCall can) → List ServiceReply
  | [] => []
  | c :: cs => (a.reply c).toList ++ replies (a.step c) cs

end NodeServices

/-! ## Calls on the bus, replies in responses -/

namespace ServiceCall

variable {can : Canard}

open ServiceNode (request)

/-- The event at the node. -/
def event : ServiceCall can → ServiceEvent
  | .getNodeInfo t now vdda nameLen =>
    .received { request ServiceNode.getNodeInfoId t with
      now := now, vdda := vdda, nameLen := nameLen }
  | .restartNode t now => .received { request ServiceNode.restartNodeId t with now := now }
  | .getSet c =>
    .received { request ServiceNode.paramGetSetId c.transfer with
      nameMem := c.nameMem, strMem := c.strMem }
  | .beginFirmwareUpdate t now =>
    .received { request ServiceNode.beginFirmwareUpdateId t with now := now }
  | .broadcast dataTypeId t => .received { request dataTypeId t with transferType := .broadcast }
  | .pass clock vdda => .pass clock vdda

/-- The time of the restart is not the value that says that none is requested, and the path of an
update fits. -/
def WellFormed : ServiceCall can → Prop
  | .restartNode _ now => (now + timeS2I 1) % 2 ^ 32 ≠ 0
  | .beginFirmwareUpdate t now =>
    (now + timeS2I 1) % 2 ^ 32 ≠ 0 ∧ 1 ≤ t.payloadLen ∧ t.payloadLen ≤ 201
  | _ => True

end ServiceCall

/-- What a client reads in a GetNodeInfo response. -/
structure ShowsNodeInfo (can : Canard) (board : NodeBoard) (mode : ℕ) (name payload : List UInt8) :
    Prop where
  health : can.decodeScalar payload 32 2 = some nodeHealthOk
  mode : can.decodeScalar payload 34 3 = some mode
  version : (payload.drop 7).take 7 =
    appVersionMajor :: appVersionMinor :: 1 :: leBytes 4 board.vcsCommit
  uniqueId : (payload.drop 24).take uniqueIdLengthBytes = board.uniqueId
  name : payload.drop 41 = name

/-- The payload says what the reply is. -/
def ServiceReply.Shows (can : Canard) (board : NodeBoard) : ServiceReply → List UInt8 → Prop
  | .nodeInfo mode name => ShowsNodeInfo can board mode name
  | .restart ok => (· = [if ok then 1 else 0])
  | .param payload => (· = payload)
  | .update accepted => (· = [if accepted then 0 else 1])

/-! ## The payload of GetNodeInfo -/

/-- A field in front of written bytes. -/
theorem Canard.FieldLaws.decode_write {can : Canard} (laws : can.FieldLaws) (m : Mem) {a : ℕ}
    (bs : List UInt8) {o n len : ℕ} (hn : 0 < n) (hlen : o + n ≤ 8 * len) (h : o + n ≤ 8 * a) :
    can.decodeScalar (read (write m a bs) 0 len) o n = can.decodeScalar (read m 0 len) o n := by
  induction bs generalizing m a with
  | nil => rw [write_nil]
  | cons b bs ih =>
    have hbyte : put m a b = can.encodeScalar m (8 * a) (8 * 1) b.toNat := by
      rw [can.encode_bytes m a 1 b.toNat (by decide), put_eq_write]
      congr 1
      simp [leBytes]
    rw [write_cons, ih (put m a b) (by omega), hbyte,
      laws.decode_other _ _ _ _ _ _ _ hn hlen (.inr h)]

theorem drop_read (m : Mem) (a k n : ℕ) : (read m a (k + n)).drop k = read m (a + k) n := by
  rw [read_add, List.drop_append_of_le_length (by rw [length_read]), List.drop_eq_nil_of_le
    (by rw [length_read]), List.nil_append]

/-- A part of a buffer. -/
theorem slice_read (m : Mem) {a n len : ℕ} (h : a + n ≤ len) :
    ((read m 0 len).drop a).take n = read m a n := by
  obtain ⟨k, rfl⟩ := Nat.exists_eq_add_of_le h
  rw [Nat.add_assoc, drop_read, Nat.zero_add, take_read _ _ _ _ (Nat.le_add_right n k)]

section NodeInfo

variable {can : Canard} (board : NodeBoard)

/-- The buffer as writes behind the status. -/
theorem nodeInfoBuffer_eq (status : NodeStatus) :
    board.nodeInfoBuffer can status =
      write (write (can.encodeFields (fun _ => 0) status.fields) 7
        (appVersionMajor :: appVersionMinor :: 1 :: leBytes 4 board.vcsCommit)) 24
        board.uniqueId := by
  have hcommit : ∀ m, can.encodeScalar m 80 32 board.vcsCommit =
      write m 10 (leBytes 4 board.vcsCommit) := fun m => can.encode_bytes m 10 4 _ (by decide)
  rw [NodeBoard.nodeInfoBuffer]
  simp only [hcommit, write_cons]

theorem read_nodeInfoBuffer (can : Canard) (status : NodeStatus) :
    read (board.nodeInfoBuffer can status) 7 7 =
        appVersionMajor :: appVersionMinor :: 1 :: leBytes 4 board.vcsCommit ∧
      read (board.nodeInfoBuffer can status) 24 uniqueIdLengthBytes = board.uniqueId := by
  have hlength : (appVersionMajor :: appVersionMinor :: 1 :: leBytes 4 board.vcsCommit).length =
      7 := congrArg (· + 3) (length_leBytes 4 _)
  rw [nodeInfoBuffer_eq]
  constructor
  · rw [read_write_of_disjoint _ _ _ _ _ (by omega), ← hlength, read_write]
  · rw [← board.length_uniqueId, read_write]

/-- A status has bit fields apart from each other in 7 bytes. -/
theorem decode_status (laws : can.FieldLaws) (status : NodeStatus) {len : ℕ} (hlen : 7 ≤ len) :
    ∀ f ∈ status.fields,
      can.decodeScalar (read (can.encodeFields (fun _ => 0) status.fields) 0 len) f.offset f.width =
        some (f.value % 2 ^ f.width) := by
  refine laws.decode_encodeFields _ ?_ ?_
  · simp only [NodeStatus.fields, CanardField.Within, List.forall_mem_cons]
    refine ⟨⟨by decide, by decide, by omega⟩, ⟨by decide, by decide, by omega⟩,
      ⟨by decide, by decide, by omega⟩, ⟨by decide, by decide, by omega⟩, ?_⟩
    exact fun f hf => absurd hf List.not_mem_nil
  · simp [NodeStatus.fields, CanardField.Apart]

/-- The buffer with the name behind it. -/
theorem showsNodeInfo_read (laws : can.FieldLaws) (status : NodeStatus)
    (hhealth : status.health = nodeHealthOk) (hmode : status.mode < 8) (name : List UInt8) :
    ShowsNodeInfo can board status.mode name
      (read (write (board.nodeInfoBuffer can status) 41 name) 0 (41 + name.length)) := by
  obtain ⟨hversion, huniqueId⟩ := read_nodeInfoBuffer board can status
  have hfield : ∀ o n v, ⟨o, n, v⟩ ∈ status.fields → 0 < n → o + n ≤ 56 →
      can.decodeScalar (read (write (board.nodeInfoBuffer can status) 41 name) 0
        (41 + name.length)) o n = some (v % 2 ^ n) := by
    intro o n v hf hpos hend
    have hlen : o + n ≤ 8 * (41 + name.length) := by omega
    rw [laws.decode_write _ _ hpos hlen (by omega), nodeInfoBuffer_eq,
      laws.decode_write _ _ hpos hlen (by omega), laws.decode_write _ _ hpos hlen (by omega)]
    exact decode_status laws status (by omega) _ hf
  refine ⟨?_, ?_, ?_, ?_, ?_⟩
  · have hread := hfield 32 2 status.health (by simp [NodeStatus.fields]) (by decide) (by decide)
    rw [hhealth] at hread
    exact hread
  · have hread := hfield 34 3 status.mode (by simp [NodeStatus.fields]) (by decide) (by decide)
    rw [Nat.mod_eq_of_lt (show status.mode < 2 ^ 3 from hmode)] at hread
    exact hread
  · rw [slice_read _ (by omega), read_write_of_disjoint _ _ _ _ _ (by omega), hversion]
  · have hlength := board.length_uniqueId
    rw [uniqueIdLengthBytes] at hlength huniqueId ⊢
    rw [slice_read _ (by omega), read_write_of_disjoint _ _ _ _ _ (by omega), huniqueId]
  · rw [drop_read, Nat.zero_add, read_write]

end NodeInfo

/-! ## What the node keeps for the abstract one -/

/-- The struct holds the update. -/
structure UpdateRequest.HeldBy (u : UpdateRequest) (b : BootloaderInterface) : Prop where
  server : b.requestFromNodeId = u.server
  length : b.requestFileNameLength.toNat = u.path.length
  path : b.requestFileName u.path.length = u.path
  fits : u.path.length ≤ requestFileNameSize

/-- The update that was accepted is in the struct; without one its request part is what the
bootloader left. -/
def HoldsUpdate (boot b : BootloaderInterface) : Option UpdateRequest → Prop
  | some u => u.HeldBy b
  | none => boot.SameRequest b

/-- A requested restart is scheduled, with the node id in a valid struct. -/
def HoldsRestart (n : NodeState) : Option UInt8 → Prop
  | some nodeId => n.nodeRestartAt ≠ 0 ∧
    n.bootloaderInterface.magic = bootloaderInterfaceValidMagic ∧
      n.bootloaderInterface.nodeId = nodeId
  | none => n.nodeRestartAt = 0 ∧ n.bootloaderInterface.magic = 0

/-- The node is in a state for the abstract one. -/
structure Follows {α : Type*} (boot : BootloaderInterface) (s : ServiceNode α) (a : NodeServices) :
    Prop where
  params : GetSet.Represents s.i2c.eeprom a.params
  restart : HoldsRestart s.node.state a.restart
  update : HoldsUpdate boot s.node.state.bootloaderInterface a.update
  health : s.node.nodeHealth = nodeHealthOk
  mode : a.restart = none → s.node.nodeMode = nodeModeOperational

section Holds

variable {boot b b' : BootloaderInterface} {n : NodeState}

theorem SameRequest.trans (h : boot.SameRequest b) (h' : b.SameRequest b') : boot.SameRequest b' :=
  fun x h1 h2 => (h' x h1 h2).trans (h x h1 h2)

theorem UpdateRequest.HeldBy.of_same {u : UpdateRequest} (h : u.HeldBy b) (hs : b.SameRequest b') :
    u.HeldBy b' where
  server := hs.requestFromNodeId.trans h.server
  length := by rw [hs.requestFileNameLength, h.length]
  path := by
    have hfits := h.fits
    refine (read_congr fun i hi => hs _ ?_ ?_).trans h.path <;>
      simp only [requestFileNameSize, BootloaderInterface.fromOffset,
        BootloaderInterface.fileNameOffset, BootloaderInterface.lengthOffset] at * <;> omega
  fits := h.fits

theorem HoldsUpdate.of_same {update : Option UpdateRequest} (h : HoldsUpdate boot b update)
    (hs : b.SameRequest b') : HoldsUpdate boot b' update := by
  cases update with
  | none => exact SameRequest.trans h hs
  | some u => exact UpdateRequest.HeldBy.of_same h hs

theorem isNodeRestartRequested_eq {restart : Option UInt8} (h : HoldsRestart n restart) :
    isNodeRestartRequested n = restart.isSome := by
  cases restart with
  | none => exact decide_eq_false (not_not.mpr h.1)
  | some nodeId => exact decide_eq_true h.1

/-- A restart that is requested at a time whose end is not 0. -/
theorem holdsRestart_requestNodeRestart {now : ℕ} (hnow : (now + timeS2I 1) % 2 ^ 32 ≠ 0)
    (nodeId : ℕ) :
    HoldsRestart (App.requestNodeRestart now nodeId n) (some (UInt8.ofNat nodeId)) := by
  have hmagic : bootloaderInterfaceValidMagic % 256 ^ 4 = bootloaderInterfaceValidMagic := by
    decide
  refine ⟨?_, ?_, ?_⟩
  · rw [App.requestNodeRestart, scheduleRestart]
    split
    · exact hnow
    · assumption
  · rw [App.requestNodeRestart, bootloaderInterface_scheduleRestart,
      BootloaderInterface.magic_setMagic, hmagic]
  · rw [App.requestNodeRestart, bootloaderInterface_scheduleRestart,
      BootloaderInterface.nodeId_setMagic, BootloaderInterface.nodeId_setNodeId]

/-- The update that a request stores, when its path fits. -/
theorem heldBy_storeRequest {can : Canard} {t : CanardRxTransfer} (h1 : 1 ≤ t.payloadLen)
    (h2 : t.payloadLen ≤ 201) (hs : (storeRequest can t b).SameRequest b') :
    (NodeServices.updateOf t).HeldBy b' := by
  obtain ⟨hfrom, hlength, hpath⟩ := request_of_sameRequest h1 h2 hs
  have hpathLength : (NodeServices.updateOf t).path.length = t.payloadLen - 1 := List.length_drop
  refine ⟨hfrom, ?_, ?_, ?_⟩
  · rw [hlength, hpathLength]
  · rw [hpathLength, hpath]
    rfl
  · rw [hpathLength, requestFileNameSize]
    omega

end Holds

/-! ## What the node reads of its parameters -/

theorem leNat_append_zeros (bs : List UInt8) (k : ℕ) :
    leNat (bs ++ List.replicate k 0) = leNat bs := by
  rw [← leBytes_zero, leNat_append, leNat_leBytes]
  simp

/-- The node id as `requestNodeRestart` reads it. -/
theorem configGetUint_nodeId {s : I2c} {σ : ParamMap} (h : GetSet.Represents s.eeprom σ) :
    UInt8.ofNat (configGetUint .works configNodeId s).1 = σ.nodeId ∧
      (configGetUint .works configNodeId s).2.eeprom = s.eeprom := by
  have hvalue : configValue s.eeprom configNodeId = ParamValue.bytes? (σ nodeIdParam) :=
    h nodeIdParam
  rw [configGetUint_works (by decide), storedBytes, leNat_append_zeros, hvalue]
  exact ⟨rfl, rfl⟩

/-- The payload of GetNodeInfo, with the name that the store has. -/
theorem nodeInfo_works (can : Canard) (board : NodeBoard) (status : NodeStatus) (nameLen : UInt8)
    {s : I2c} {σ : ParamMap} (h : GetSet.Represents s.eeprom σ) :
    (board.nodeInfo can .works status nameLen s).1 =
        read (write (board.nodeInfoBuffer can status) 41 σ.nodeName) 0 (41 + σ.nodeName.length) ∧
      (board.nodeInfo can .works status nameLen s).2.eeprom = s.eeprom := by
  have hvalue : configValue s.eeprom configNodeName = σ.nodeName := h nodeNameParam
  rw [NodeBoard.nodeInfo, configGet_works (by decide), hvalue]
  exact ⟨rfl, rfl⟩

/-! ## One call -/

/-- The responses that come to those of `s` say what the replies are. -/
def Shown {α : Type*} (can : Canard) (board : NodeBoard) (replies : List ServiceReply)
    (s s' : ServiceNode α) : Prop :=
  ∃ new, s'.responses = s.responses ++ new ∧
    List.Forall₂ (ServiceReply.Shows can board) replies (new.map fun r => r.response.payload)

section Step

variable {α : Type*} {can : Canard} {board : NodeBoard} {boot : BootloaderInterface}
  {s s' s'' : ServiceNode α} {a : NodeServices} {replies replies' : List ServiceReply}

theorem Shown.of_eq (h : s'.responses = s.responses) : Shown can board [] s s' :=
  ⟨[], by rw [h, List.append_nil], .nil⟩

theorem Shown.respond (h : s'.responses = s.responses) {reply : ServiceReply}
    {response : CanardResponse} (hshows : reply.Shows can board response.payload)
    (signature dataTypeId : ℕ) :
    Shown can board [reply] s (s'.respond signature dataTypeId response) :=
  ⟨_, congrArg (· ++ _) h, .cons hshows .nil⟩

theorem Shown.trans (h : Shown can board replies s s') (h' : Shown can board replies' s' s'') :
    Shown can board (replies ++ replies') s s'' := by
  obtain ⟨new, hnew, hshows⟩ := h
  obtain ⟨new', hnew', hshows'⟩ := h'
  refine ⟨new ++ new', by rw [hnew', hnew, List.append_assoc], ?_⟩
  rw [List.map_append]
  exact List.rel_append hshows hshows'

/-- The status that the node sends. -/
theorem mode_makeNodeStatus (h : Follows boot s a) (now vdda : ℕ) :
    (s.node.makeNodeStatus now vdda).mode =
      if a.restart.isSome then nodeModeInitialization else nodeModeOperational := by
  rw [CanNode.makeNodeStatus, isNodeRestartRequested_eq h.restart]
  cases hrestart : a.restart with
  | none => exact h.mode hrestart
  | some nodeId => rfl

theorem follows_getNodeInfo (laws : can.FieldLaws) (h : Follows boot s a) (t : Received) :
    Follows boot (s.onGetNodeInfo can .works board t) a ∧
      Shown can board [.nodeInfo (if a.restart.isSome then nodeModeInitialization
        else nodeModeOperational) a.params.nodeName] s (s.onGetNodeInfo can .works board t) := by
  have hmode := mode_makeNodeStatus h t.now t.vdda
  obtain ⟨hpayload, heeprom⟩ := nodeInfo_works can board (s.node.makeNodeStatus t.now t.vdda)
    t.nameLen h.params
  constructor
  · refine ⟨?_, h.restart, h.update, h.health, fun hnone => ?_⟩
    · show GetSet.Represents (board.nodeInfo can .works _ t.nameLen s.i2c).2.eeprom _
      rw [heeprom]
      exact h.params
    · show (s.node.makeNodeStatus t.now t.vdda).mode = _
      rw [hmode, hnone]
      rfl
  · refine Shown.respond rfl ?_ _ _
    show ShowsNodeInfo can board _ _ (board.nodeInfo can .works _ t.nameLen s.i2c).1
    rw [hpayload, ← hmode]
    refine showsNodeInfo_read board laws _ h.health ?_ _
    rw [hmode]
    split <;> decide

/-- A restart is requested. -/
theorem onRestartNode_of_magic {t : Received} (h : NodeServices.RestartMagic t.transfer)
    (s : ServiceNode α) :
    s.onRestartNode .works t =
      { s with
        node := { s.node with
          state := App.requestNodeRestart t.now (configGetUint .works configNodeId s.i2c).1
            s.node.state }
        i2c := (configGetUint .works configNodeId s.i2c).2 }.respond
          ServiceNode.restartNodeSignature ServiceNode.restartNodeId (t.transfer.respond [1]) := by
  rw [NodeServices.RestartMagic] at h
  rw [ServiceNode.onRestartNode]
  simp only [HouseBus.onRestartNode, if_pos h]

theorem onRestartNode_of_not_magic {t : Received} (h : ¬ NodeServices.RestartMagic t.transfer)
    (s : ServiceNode α) :
    s.onRestartNode .works t =
      s.respond ServiceNode.restartNodeSignature ServiceNode.restartNodeId
        (t.transfer.respond [0]) := by
  rw [NodeServices.RestartMagic] at h
  rw [ServiceNode.onRestartNode]
  simp only [HouseBus.onRestartNode, if_neg h]

theorem follows_restartNode (h : Follows boot s a) {t : Received}
    (hnow : (t.now + timeS2I 1) % 2 ^ 32 ≠ 0) :
    Follows boot (s.onRestartNode .works t)
        (if NodeServices.RestartMagic t.transfer then { a with restart := some a.params.nodeId }
          else a) ∧
      Shown can board [.restart (decide (NodeServices.RestartMagic t.transfer))] s
        (s.onRestartNode .works t) := by
  by_cases hmagic : NodeServices.RestartMagic t.transfer
  · obtain ⟨hid, heeprom⟩ := configGetUint_nodeId h.params
    rw [onRestartNode_of_magic hmagic, if_pos hmagic, decide_eq_true hmagic]
    refine ⟨⟨?_, ?_, ?_, h.health, fun hnone => by cases hnone⟩, Shown.respond rfl ?_ _ _⟩
    · show GetSet.Represents (configGetUint .works configNodeId s.i2c).2.eeprom _
      rw [heeprom]
      exact h.params
    · rw [← hid]
      exact holdsRestart_requestNodeRestart hnow _
    · exact h.update.of_same (App.sameRequest_requestNodeRestart _ _ _)
    · rfl
  · rw [onRestartNode_of_not_magic hmagic, if_neg hmagic, decide_eq_false hmagic]
    refine ⟨⟨h.params, h.restart, h.update, h.health, h.mode⟩, Shown.respond rfl ?_ _ _⟩
    rfl

theorem follows_getSet (h : Follows boot s a) (c : GetSetCall can) :
    let t : Received := { ServiceNode.request ServiceNode.paramGetSetId c.transfer with
      nameMem := c.nameMem, strMem := c.strMem }
    Follows boot (s.onParamGetSet can .works board t) { a with params := a.params.step c.request } ∧
      Shown can board [.param (paramResponse c.request.param
        (a.params.step c.request c.request.param))] s (s.onParamGetSet can .works board t) := by
  intro t
  obtain ⟨hresponse, hparams⟩ := GetSet.onParamGetSet_call c board.reads h.params
  have heq : s.onParamGetSet can .works board t =
      { s with
        i2c := (HouseBus.onParamGetSet can .works board.reads c.nameMem c.strMem c.transfer
          s.i2c).i2c }.respond ServiceNode.paramGetSetSignature ServiceNode.paramGetSetId
          (c.transfer.respond (paramResponse c.request.param
            (a.params.step c.request c.request.param))) := by
    rw [ServiceNode.onParamGetSet]
    simp only [t, ServiceNode.request, hresponse]
  rw [heq]
  refine ⟨⟨hparams, h.restart, h.update, h.health, h.mode⟩, Shown.respond rfl ?_ _ _⟩
  rfl

theorem follows_beginFirmwareUpdate (h : Follows boot s a) {t : Received}
    (hnow : (t.now + timeS2I 1) % 2 ^ 32 ≠ 0) (h1 : 1 ≤ t.transfer.payloadLen)
    (h2 : t.transfer.payloadLen ≤ 201) :
    Follows boot (s.onBeginFirmwareUpdate can .works t)
        (if a.restart.isSome then a
          else { a with
            restart := some a.params.nodeId
            update := some (NodeServices.updateOf t.transfer) }) ∧
      Shown can board [.update !a.restart.isSome] s (s.onBeginFirmwareUpdate can .works t) := by
  have hrequested := isNodeRestartRequested_eq h.restart
  rw [ServiceNode.onBeginFirmwareUpdate]
  simp only [App.onBeginFirmwareUpdate, hrequested]
  cases hrestart : a.restart with
  | some nodeId =>
    refine ⟨⟨h.params, h.restart, h.update, h.health, h.mode⟩, Shown.respond rfl ?_ _ _⟩
    rfl
  | none =>
    obtain ⟨hid, heeprom⟩ := configGetUint_nodeId h.params
    refine ⟨⟨?_, ?_, ?_, h.health, fun hnone => by cases hnone⟩, Shown.respond rfl ?_ _ _⟩
    · show GetSet.Represents (configGetUint .works configNodeId s.i2c).2.eeprom _
      rw [heeprom]
      exact h.params
    · rw [← hid]
      exact holdsRestart_requestNodeRestart hnow _
    · exact heldBy_storeRequest h1 h2 (App.sameRequest_requestNodeRestart _ _ _)
    · rfl

/-- What a pass does to mode and health. -/
theorem nodeMode_pass (n : CanNode) (clock : PassClock) (vdda : ℕ) :
    (n.pass clock vdda).nodeMode =
        (if isNodeRestartRequested n.state then nodeModeInitialization else n.nodeMode) ∧
      (n.pass clock vdda).nodeHealth = n.nodeHealth := by
  simp only [CanNode.pass, CanNode.process1HzTasks]
  split <;> split <;> exact ⟨rfl, rfl⟩

theorem follows_pass (h : Follows boot s a) (clock : PassClock) (vdda : ℕ) :
    Follows boot { s with node := s.node.pass clock vdda } a := by
  obtain ⟨hmode, hhealth⟩ := nodeMode_pass s.node clock vdda
  refine ⟨h.params, ?_, ?_, hhealth.trans h.health, fun hnone => ?_⟩
  · show HoldsRestart (s.node.pass clock vdda).state a.restart
    rw [CanNode.state_pass]
    exact h.restart
  · show HoldsUpdate boot (s.node.pass clock vdda).state.bootloaderInterface a.update
    rw [CanNode.state_pass]
    exact h.update
  · show (s.node.pass clock vdda).nodeMode = nodeModeOperational
    rw [hmode, isNodeRestartRequested_eq h.restart, hnone]
    exact h.mode hnone

variable {registrations : List (ServiceNode.Registration α)} {localNodeId : ℕ}

/-- **A call**: the node follows the abstract one, and the response says what the reply is. -/
theorem follows_step (laws : can.FieldLaws) (hlocal : localNodeId ≠ canardBroadcastNodeId)
    (h : Follows boot s a) (hrun : s.node.reset = false) {c : ServiceCall can}
    (hc : c.WellFormed) :
    let s' := s.step can .works board registrations localNodeId c.event
    Follows boot s' (a.step c) ∧ Shown can board (a.reply c).toList s s' := by
  have hreset : ¬ s.node.reset = true := by simp [hrun]
  have hrequest : ∀ t : Received, t.transferType = .request →
      s.step can .works board registrations localNodeId (.received t) =
        (ServiceNode.serviceRow can .works board t).elim s fun row => row.cb t s := by
    intro t htype
    rw [ServiceNode.step, if_neg hreset]
    exact ServiceNode.receive_request htype hlocal s
  intro s'
  cases c with
  | getNodeInfo t now vdda nameLen =>
    have heq : s' = s.onGetNodeInfo can .works board _ := hrequest _ rfl
    rw [heq]
    exact follows_getNodeInfo laws h _
  | restartNode t now =>
    have heq : s' = s.onRestartNode .works _ := hrequest _ rfl
    rw [heq]
    exact follows_restartNode h hc
  | getSet c =>
    have heq : s' = s.onParamGetSet can .works board _ := hrequest _ rfl
    rw [heq]
    exact follows_getSet h c
  | beginFirmwareUpdate t now =>
    have heq : s' = s.onBeginFirmwareUpdate can .works _ := hrequest _ rfl
    rw [heq]
    exact follows_beginFirmwareUpdate h hc.1 hc.2.1 hc.2.2
  | broadcast dataTypeId t =>
    have hother : ∃ app, s' = { s with app := app } := by
      show ∃ app, s.step can .works board registrations localNodeId (.received _) = _
      have hne : CanardTransferType.broadcast ≠ .request := by decide
      rw [ServiceNode.step, if_neg hreset]
      exact ServiceNode.receive_of_not_request hne localNodeId s
    obtain ⟨app, happ⟩ := hother
    rw [happ]
    exact ⟨⟨h.params, h.restart, h.update, h.health, h.mode⟩, Shown.of_eq rfl⟩
  | pass clock vdda =>
    have heq : s' = { s with node := s.node.pass clock vdda } := if_neg hreset
    rw [heq]
    exact ⟨follows_pass h clock vdda, Shown.of_eq rfl⟩

/-- **Calls one after another.** -/
theorem follows_run (laws : can.FieldLaws) (hlocal : localNodeId ≠ canardBroadcastNodeId)
    (h : Follows boot s a) {cs : List (ServiceCall can)} (hcs : ∀ c ∈ cs, c.WellFormed)
    (hrun : Machine.Meets (ServiceNode.step can .works board registrations localNodeId)
      (fun s _ => s.node.reset = false) s (cs.map ServiceCall.event)) :
    let s' := Machine.run (ServiceNode.step can .works board registrations localNodeId) s
      (cs.map ServiceCall.event)
    Follows boot s' (Machine.run NodeServices.step a cs) ∧ Shown can board (a.replies cs) s s' := by
  induction cs generalizing s a with
  | nil => exact ⟨h, Shown.of_eq rfl⟩
  | cons c cs ih =>
    obtain ⟨hc, hcs⟩ := List.forall_mem_cons.mp hcs
    obtain ⟨hfollows, hshown⟩ := follows_step laws hlocal h hrun.1 hc
    obtain ⟨hfinal, hshown'⟩ := ih hfollows hcs hrun.2
    exact ⟨hfinal, hshown.trans hshown'⟩

end Step

/-! ## What the bootloader finds -/

/-- The update that the bootloader begins, started as node `nodeId`. Without an accepted request it
has what was in the struct at the boot. -/
def FindsUpdate (boot b : BootloaderInterface) (nodeId : UInt8) : Option UpdateRequest → Prop
  | some u => u.HeldBy b ∧
    ((Bootloader.main b).2.firmwareUpdate = true ↔ nodeId ≠ 0 ∧ u.server ≠ 0 ∧ u.path ≠ [])
  | none => boot.SameRequest b

/-- The node id that the bootloader starts with, and its update. -/
def BootloaderFinds (boot b : BootloaderInterface) (update : Option UpdateRequest) :
    Option UInt8 → Prop
  | some nodeId => (Bootloader.main b).1 = (if nodeId = 0 then defaultNodeId else nodeId) ∧
    FindsUpdate boot b nodeId update
  | none => (Bootloader.main b).1 = defaultNodeId ∧ (Bootloader.main b).2.firmwareUpdate = false

section Bootloader

variable {boot b : BootloaderInterface} {n : NodeState}

theorem main_of_invalid (h : ¬ (b.magic = bootloaderInterfaceValidMagic ∧ b.nodeId ≠ 0)) :
    (Bootloader.main b).1 = defaultNodeId ∧ (Bootloader.main b).2.firmwareUpdate = false := by
  rw [Bootloader.main, if_neg h]
  exact ⟨rfl, rfl⟩

theorem main_of_valid (hmagic : b.magic = bootloaderInterfaceValidMagic) :
    (Bootloader.main b).1 = if b.nodeId = 0 then defaultNodeId else b.nodeId := by
  by_cases hid : b.nodeId = 0
  · rw [if_pos hid]
    exact (main_of_invalid fun h => h.2 hid).1
  · rw [if_neg hid, Bootloader.main, if_pos ⟨hmagic, hid⟩]

/-- The update in a valid struct. -/
theorem UpdateRequest.HeldBy.findsUpdate {u : UpdateRequest} (h : u.HeldBy b)
    (hmagic : b.magic = bootloaderInterfaceValidMagic) : FindsUpdate boot b b.nodeId (some u) := by
  have hpath : b.requestFileNameLength = 0 ↔ u.path = [] := by
    rw [← List.length_eq_zero_iff, ← h.length, ← UInt8.toNat_inj]
    rfl
  refine ⟨h, ?_⟩
  rw [Lifecycle.main_firmwareUpdate, Lifecycle.NoRequest, not_or, h.server, hpath,
    and_iff_right hmagic]

theorem bootloaderFinds_of_holds {restart : Option UInt8} {update : Option UpdateRequest}
    (hrestart : HoldsRestart n restart)
    (hupdate : HoldsUpdate boot n.bootloaderInterface update) :
    BootloaderFinds boot n.bootloaderInterface update restart := by
  cases restart with
  | none =>
    refine main_of_invalid fun h => ?_
    have hne : bootloaderInterfaceValidMagic ≠ 0 := by decide
    exact hne (h.1.symm.trans hrestart.2)
  | some nodeId =>
    obtain ⟨-, hmagic, rfl⟩ := hrestart
    refine ⟨main_of_valid hmagic, ?_⟩
    cases update with
    | none => exact hupdate
    | some u => exact UpdateRequest.HeldBy.findsUpdate hupdate hmagic

end Bootloader

/-! ## From the boot on -/

theorem follows_start {α : Type*} (boot : BootloaderInterface) {i2c : I2c} {σ : ParamMap}
    (hσ : GetSet.Represents i2c.eeprom σ) (app : α) :
    Follows boot (ServiceNode.start boot i2c app) ⟨σ, none, none⟩ where
  params := hσ
  restart := ⟨rfl, BootloaderInterface.magic_setMagic 0⟩
  update := boot.sameRequest_setMagic 0
  health := rfl
  mode _ := rfl

/-- **The services of a node**: over any calls, broadcasts and passes before its reset, each
response says what the abstract node replies, the store holds the parameters of that node, and the
bootloader finds what the accepted requests left. -/
theorem services_refine {α : Type*} {can : Canard} (laws : can.FieldLaws) (board : NodeBoard)
    (registrations : List (ServiceNode.Registration α)) {localNodeId : ℕ}
    (hlocal : localNodeId ≠ canardBroadcastNodeId) (boot : BootloaderInterface) {i2c : I2c}
    {σ : ParamMap} (hσ : GetSet.Represents i2c.eeprom σ) (app : α) {cs : List (ServiceCall can)}
    (hcs : ∀ c ∈ cs, c.WellFormed)
    (hrun : Machine.Meets (ServiceNode.step can .works board registrations localNodeId)
      (fun s _ => s.node.reset = false) (.start boot i2c app) (cs.map ServiceCall.event)) :
    let s := Machine.run (ServiceNode.step can .works board registrations localNodeId)
      (.start boot i2c app) (cs.map ServiceCall.event)
    let a := Machine.run NodeServices.step ⟨σ, none, none⟩ cs
    List.Forall₂ (ServiceReply.Shows can board) (NodeServices.replies ⟨σ, none, none⟩ cs)
        (s.responses.map fun r => r.response.payload) ∧
      GetSet.Represents s.i2c.eeprom a.params ∧
        BootloaderFinds boot s.node.state.bootloaderInterface a.update a.restart := by
  intro s a
  obtain ⟨hfollows, new, hnew, hshown⟩ :=
    follows_run laws hlocal (follows_start boot hσ app) hcs hrun
  refine ⟨?_, hfollows.params, bootloaderFinds_of_holds hfollows.restart hfollows.update⟩
  have hresponses : s.responses = new := hnew
  rw [hresponses]
  exact hshown

/-- An update to the file `a.bin` on a node without parameters, a second request, and a question for
the state. -/
def updateCalls : List (ServiceCall .uavcan) := [
  .beginFirmwareUpdate (beginFirmwareUpdate [97, 46, 98, 105, 110] (by decide)) 0,
  .restartNode Lifecycle.restartNodeRequest 1,
  .getNodeInfo Lifecycle.restartNodeRequest 2 3300 0]

theorem services_refine_update :
    let i2c := configClear .works ⟨fun _ => 0, 0, []⟩
    let s : ServiceNode Unit :=
      Machine.run (ServiceNode.step .uavcan .works ServiceNode.plainBoard [] 5)
        (.start ⟨fun _ => 0⟩ i2c ()) (updateCalls.map ServiceCall.event)
    List.Forall₂ (ServiceReply.Shows .uavcan ServiceNode.plainBoard)
        [.update true, .restart true, .nodeInfo nodeModeInitialization []]
        (s.responses.map fun r => r.response.payload) ∧
      GetSet.Represents s.i2c.eeprom (fun _ => none) ∧
        BootloaderFinds ⟨fun _ => 0⟩ s.node.state.bootloaderInterface
          (some ⟨5, [97, 46, 98, 105, 110]⟩) (some 0) := by
  intro i2c s
  have hσ : GetSet.Represents i2c.eeprom fun _ => none := fun p => configValue_configClear p.isLt _
  have hcs : ∀ c ∈ updateCalls, c.WellFormed := by
    simp only [updateCalls, List.forall_mem_cons]
    have hnow : (1 + timeS2I 1) % 2 ^ 32 ≠ 0 := by decide
    refine ⟨⟨by decide, by decide, by decide⟩, hnow, trivial, ?_⟩
    exact fun c hc => absurd hc List.not_mem_nil
  exact services_refine Canard.uavcan_fieldLaws ServiceNode.plainBoard [] (by decide)
    ⟨fun _ => 0⟩ hσ () hcs ⟨rfl, rfl, rfl, trivial⟩

end HouseBus
