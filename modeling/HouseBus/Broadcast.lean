import HouseBus.Lib.Mutex
import Mathlib.Data.List.Infix

/-!
# Broadcasts and their transfer ids

Eight functions of the firmware broadcast a message, each with a variable for the transfer id.
`canardBroadcast` sends the value of the variable and increments it modulo 32; it is called under
`canardMtx`, by `canardLockBroadcast`, by `node_debug`, or in a handler that runs under
`canardLock`.

- `Sender`: the functions; the arguments of each have its name.
- `BroadcastOp`: the two steps of `canardBroadcast`. Other threads can run between them.
- `transferIds_static`: behind one another, the broadcasts of a static variable count modulo 32.
-/

namespace HouseBus

/-- `CANARD_TRANSFER_PRIORITY_LOW`, `CANARD_TRANSFER_PRIORITY_LOWEST` -/
inductive TransferPriority
  | low
  | lowest
  deriving DecidableEq

/-- The storage of the variable for the transfer id: static, 0 at the start, or on the stack. -/
inductive StorageClass
  | static
  | automatic
  deriving DecidableEq

/-- The arguments of `canardBroadcast`, without the payload. -/
structure BroadcastArgs where
  dataTypeSignature : ℕ
  dataTypeId : ℕ
  inoutTransferId : StorageClass
  priority : TransferPriority

namespace BroadcastArgs

/-- `broadcast_node_status` -/
def broadcastNodeStatus : BroadcastArgs := ⟨0x0f0868d0c1a7c6f1, 341, .static, .low⟩

/-- `node_debug` -/
def nodeDebug : BroadcastArgs := ⟨0xd654a48e0c049d75, 16383, .static, .lowest⟩

/-- `bme280_broadcast` -/
def bme280Broadcast : BroadcastArgs := ⟨0x0d5aa9c5110d3749, 20000, .static, .low⟩

/-- `broadcast_heater_status` -/
def broadcastHeaterStatus : BroadcastArgs := ⟨0x62cd3c11cab620ca, 20008, .static, .low⟩

/-- `broadcast_meter` -/
def broadcastMeter : BroadcastArgs := ⟨0x27cc893032270a92, 20005, .static, .low⟩

/-- `bathroom_status_broadcast` -/
def bathroomStatusBroadcast : BroadcastArgs := ⟨0x9327636a236a511c, 20009, .static, .low⟩

/-- `send_motion_message` -/
def sendMotionMessage : BroadcastArgs := ⟨0x8177fc2ee54926e8, 20011, .static, .low⟩

/-- `send_status_message`: `transferStatus` is a local variable without an initial value. -/
def sendStatusMessage : BroadcastArgs := ⟨0x5089c50337849612, 20010, .automatic, .low⟩

end BroadcastArgs

/-- The functions that broadcast. -/
inductive Sender
  | broadcastNodeStatus
  | nodeDebug
  | bme280Broadcast
  | broadcastHeaterStatus
  | broadcastMeter
  | bathroomStatusBroadcast
  | sendMotionMessage
  | sendStatusMessage
  deriving DecidableEq

/-- What a function passes. -/
def Sender.args : Sender → BroadcastArgs
  | .broadcastNodeStatus => .broadcastNodeStatus
  | .nodeDebug => .nodeDebug
  | .bme280Broadcast => .bme280Broadcast
  | .broadcastHeaterStatus => .broadcastHeaterStatus
  | .broadcastMeter => .broadcastMeter
  | .bathroomStatusBroadcast => .bathroomStatusBroadcast
  | .sendMotionMessage => .sendMotionMessage
  | .sendStatusMessage => .sendStatusMessage

/-- Every message type has one function. -/
theorem Sender.dataTypeId_inj {k l : Sender} (h : k.args.dataTypeId = l.args.dataTypeId) :
    k = l := by
  cases k <;> cases l <;> first | rfl | exact absurd h (by decide)

/-- Only the variable of `send_status_message` is not static. -/
theorem Sender.automatic_iff (k : Sender) :
    k.args.inoutTransferId = .automatic ↔ k = .sendStatusMessage := by
  cases k <;> decide

/-- A call of one of the functions, with what is in its local variable, if it has one. -/
structure BroadcastCall where
  sender : Sender
  uninitialised : UInt8
  deriving DecidableEq

/-- The steps of `canardBroadcast`: the frames are queued, and the variable is incremented. -/
inductive BroadcastOp
  | send (call : BroadcastCall)
  | increment (call : BroadcastCall)

/-- `canardBroadcast` -/
def canardBroadcast (call : BroadcastCall) : List BroadcastOp := [.send call, .increment call]

/-- A message that was sent. -/
structure SentBroadcast where
  dataTypeSignature : ℕ
  dataTypeId : ℕ
  transferId : ℕ
  priority : TransferPriority

/-- The static variables, and the messages that were sent. -/
structure BroadcastState where
  transferId : Sender → ℕ
  sent : List SentBroadcast

namespace BroadcastState

/-- Before the first broadcast. -/
def start : BroadcastState := ⟨fun _ => 0, []⟩

/-- `*inout_transfer_id` -/
def inoutTransferId (s : BroadcastState) (call : BroadcastCall) : ℕ :=
  match call.sender.args.inoutTransferId with
  | .static => s.transferId call.sender
  | .automatic => call.uninitialised.toNat

/-- A step of `canardBroadcast`. The local variable is not read again. -/
def act (s : BroadcastState) : BroadcastOp → BroadcastState
  | .send call =>
    { s with
      sent := s.sent ++ [⟨call.sender.args.dataTypeSignature, call.sender.args.dataTypeId,
        s.inoutTransferId call, call.sender.args.priority⟩] }
  | .increment call =>
    match call.sender.args.inoutTransferId with
    | .static =>
      { s with
        transferId :=
          Function.update s.transferId call.sender ((s.transferId call.sender + 1) % 32) }
    | .automatic => s

/-- The transfer ids of the messages of a type, in order. -/
def transferIds (dataTypeId : ℕ) (s : BroadcastState) : List ℕ :=
  (s.sent.filter (·.dataTypeId = dataTypeId)).map (·.transferId)

/-- Broadcasts behind one another. -/
def broadcasts (calls : List BroadcastCall) : BroadcastState :=
  (calls.flatMap canardBroadcast).foldl act start

theorem broadcasts_snoc (calls : List BroadcastCall) (call : BroadcastCall) :
    broadcasts (calls ++ [call]) =
      ((broadcasts calls).act (.send call)).act (.increment call) := by
  rw [broadcasts, List.flatMap_append, List.foldl_append, List.flatMap_singleton]
  rfl

@[simp] theorem sent_increment (s : BroadcastState) (call : BroadcastCall) :
    (s.act (.increment call)).sent = s.sent := by
  unfold act
  dsimp only
  split <;> rfl

theorem transferIds_send (dataTypeId : ℕ) (s : BroadcastState) (call : BroadcastCall) :
    transferIds dataTypeId (s.act (.send call)) = transferIds dataTypeId s ++
      if call.sender.args.dataTypeId = dataTypeId then [s.inoutTransferId call] else [] := by
  unfold transferIds act
  rw [List.filter_append, List.map_append]
  by_cases h : call.sender.args.dataTypeId = dataTypeId
  · simp [h]
  · simp [h]

theorem transferIds_snoc (dataTypeId : ℕ) (calls : List BroadcastCall) (call : BroadcastCall) :
    transferIds dataTypeId (broadcasts (calls ++ [call])) =
      transferIds dataTypeId (broadcasts calls) ++
        if call.sender.args.dataTypeId = dataTypeId then [(broadcasts calls).inoutTransferId call]
        else [] := by
  rw [broadcasts_snoc, ← transferIds_send, transferIds, sent_increment]
  rfl

/-! ## Broadcasts behind one another -/

/-- A static variable counts the broadcasts modulo 32. -/
theorem transferId_broadcasts {k : Sender} (hk : k.args.inoutTransferId = .static)
    (calls : List BroadcastCall) :
    (broadcasts calls).transferId k = calls.countP (·.sender = k) % 32 := by
  induction calls using List.reverseRecOn with
  | nil => rfl
  | append_singleton calls call ih =>
    rw [broadcasts_snoc, List.countP_append, List.countP_singleton]
    by_cases hcall : call.sender = k
    · subst hcall
      simp only [act, hk, Function.update_self, decide_true, if_true]
      rw [ih]
      omega
    · have hother : (((broadcasts calls).act (.send call)).act (.increment call)).transferId k =
          (broadcasts calls).transferId k := by
        unfold act
        dsimp only
        split
        · exact Function.update_of_ne (fun h => hcall h.symm) _ _
        · rfl
      rw [hother, ih, decide_eq_false hcall]
      simp

/-- The `n`-th broadcast of a static variable has the transfer id `n` modulo 32. -/
theorem transferIds_static {k : Sender} (hk : k.args.inoutTransferId = .static)
    (calls : List BroadcastCall) :
    transferIds k.args.dataTypeId (broadcasts calls) =
      (List.range (calls.countP (·.sender = k))).map (· % 32) := by
  induction calls using List.reverseRecOn with
  | nil => rfl
  | append_singleton calls call ih =>
    rw [transferIds_snoc, ih, List.countP_append, List.countP_singleton]
    by_cases hcall : call.sender = k
    · subst hcall
      have hid : (broadcasts calls).inoutTransferId call =
          calls.countP (·.sender = call.sender) % 32 := by
        rw [inoutTransferId, hk]
        exact transferId_broadcasts hk calls
      rw [if_pos rfl, hid, if_pos (decide_eq_true rfl), List.range_succ, List.map_append]
      rfl
    · rw [if_neg fun h => hcall (Sender.dataTypeId_inj h), decide_eq_false hcall]
      simp

/-- `send_status_message` broadcasts what was in its variable. -/
theorem transferIds_status (calls : List BroadcastCall) :
    transferIds BroadcastArgs.sendStatusMessage.dataTypeId (broadcasts calls) =
      (calls.filter (·.sender = .sendStatusMessage)).map (·.uninitialised.toNat) := by
  induction calls using List.reverseRecOn with
  | nil => rfl
  | append_singleton calls call ih =>
    rw [transferIds_snoc, ih, List.filter_append, List.map_append]
    congr 1
    by_cases hcall : call.sender = .sendStatusMessage
    · have hid : (broadcasts calls).inoutTransferId call = call.uninitialised.toNat := by
        rw [inoutTransferId, hcall]
        rfl
      rw [if_pos (by rw [hcall]; rfl), hid]
      simp [hcall]
    · have hne : call.sender.args.dataTypeId ≠ BroadcastArgs.sendStatusMessage.dataTypeId :=
        fun h => hcall (Sender.dataTypeId_inj (l := .sendStatusMessage) h)
      rw [if_neg hne]
      simp [hcall]

/-- No message has another type. -/
theorem transferIds_other {dataTypeId : ℕ} (h : ∀ k : Sender, k.args.dataTypeId ≠ dataTypeId)
    (calls : List BroadcastCall) : transferIds dataTypeId (broadcasts calls) = [] := by
  induction calls using List.reverseRecOn with
  | nil => rfl
  | append_singleton calls call ih => rw [transferIds_snoc, ih, if_neg (h _), List.nil_append]

end BroadcastState

end HouseBus
