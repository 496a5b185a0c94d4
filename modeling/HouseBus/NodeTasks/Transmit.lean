import HouseBus.Lib.Machine
import Mathlib.Data.List.Perm.Subperm
import Mathlib.Tactic.Common

/-!
# Sending and receiving frames (`sw/node.c`)

The functions that send put the frames of a transfer into the queue of libcanard, and then wake
`CanNodeThread` by `txrequest_event`; `node_debug` does not. The thread takes frames out of the
queue into the mailboxes of the CAN controller until none is free (`processTx`); a mailbox that
becomes empty wakes it again by `txempty_event`. All of this happens in any order, but for the queue,
which `canardMtx` guards.

- **Each frame arrives once**, and those of a transfer arrive in their order
  (`frames_arrive_in_order`).
- **No wake-up is lost** (`frames_leave`): behind the last request all frames leave the node; only a
  debug message may wait for the next one.
-/

namespace HouseBus

/-- `CANARD_CAN_EXT_ID_MASK` -/
def canardCanExtIdMask : BitVec 32 := 0x1FFFFFFF

/-- `CANARD_CAN_FRAME_EFF` -/
def canardCanFrameEff : BitVec 32 := 0x80000000

/-- `CanardCANFrame`, with its first `data_len` bytes. -/
structure CanardCANFrame where
  id : BitVec 32
  data : List UInt8
  deriving DecidableEq

/-- The identifier of a frame on the bus: `EID` if `IDE` is set, else `SID`. -/
inductive CanId
  | extended (eid : BitVec 29)
  | standard (sid : BitVec 11)
  deriving DecidableEq

/-- `CANTxFrame` and `CANRxFrame`, with their first `DLC` bytes. -/
structure CanFrame where
  id : CanId
  rtr : Bool
  data : List UInt8
  deriving DecidableEq

/-- The frame that `processTx` transmits. -/
def txFrame (txf : CanardCANFrame) : CanFrame :=
  ⟨.extended ((txf.id &&& canardCanExtIdMask).setWidth 29), false, txf.data⟩

/-- The frame that `processRx` hands to `canardHandleRxFrame`. -/
def rxFrame (rxmsg : CanFrame) : CanardCANFrame where
  id :=
    match rxmsg.id with
    | .extended eid => canardCanFrameEff ||| eid.setWidth 32
    | .standard sid => sid.setWidth 32
  data := rxmsg.data

/-- The frames of a transfer: they have one identifier, which is an extended one. -/
structure TxTransfer where
  eid : BitVec 29
  payloads : List (List UInt8)

def TxTransfer.frames (t : TxTransfer) : List CanardCANFrame :=
  t.payloads.map fun data => ⟨canardCanFrameEff ||| t.eid.setWidth 32, data⟩

/-- The queue of libcanard: the frames of a transfer are put among those that wait, by priority. The
order of these stays, and that of the frames, as they have one identifier. -/
structure TxQueue where
  push : List CanardCANFrame → List CanardCANFrame → List CanardCANFrame
  perm : ∀ queue frames, (push queue frames).Perm (queue ++ frames)
  keeps : ∀ queue frames, List.Sublist queue (push queue frames)
  inOrder : ∀ queue (t : TxTransfer), t.frames.Sublist (push queue t.frames)

/-- Where `CanNodeThread` is: in `chEvtWaitAnyTimeout` or the tasks before it, or in `processTx`. -/
inductive TxThread
  | waiting
  | processTx
  deriving DecidableEq

/-- What the threads do by themselves: `node_tx_request` behind a transfer that was queued, the end
of `chEvtWaitAnyTimeout`, a frame in `processTx`, a mailbox that becomes empty. -/
inductive TxPart
  | nodeTxRequest
  | waitAny
  | processTx
  | mailboxEmpty
  deriving DecidableEq

/-- `canardLockBroadcast` or `canardLockRequestOrRespond` up to `node_tx_request`, `node_debug`, or
another part. -/
inductive TxEvent
  | canardLock (t : TxTransfer)
  | nodeDebug (t : TxTransfer)
  | part (p : TxPart)

/-- The node with its queue and its mailboxes. `requests` counts the functions that have queued a
transfer and are before `node_tx_request`; `silent` has the frames of `node_debug` behind the last
request, and `transfers` all transfers. -/
structure TxNode where
  queue : List CanardCANFrame
  mailboxes : List CanFrame
  bus : List CanFrame
  wdgResets : ℕ
  canNode : TxThread
  txempty : Bool
  txrequest : Bool
  requests : ℕ
  silent : List CanardCANFrame
  transfers : List TxTransfer

namespace TxNode

variable (can : TxQueue) (mailboxNum : ℕ)

/-- A transfer in the queue. -/
def enqueue (s : TxNode) (t : TxTransfer) : TxNode :=
  { s with queue := can.push s.queue t.frames, transfers := s.transfers ++ [t] }

/-- A part of a thread, if the thread is there. The queue is locked during `processTx`. -/
def step (s : TxNode) : TxEvent → TxNode
  | .canardLock t =>
    match s.canNode with
    | .processTx => s
    | .waiting => { s.enqueue can t with requests := s.requests + 1 }
  | .nodeDebug t =>
    match s.canNode with
    | .processTx => s
    | .waiting => { s.enqueue can t with silent := s.silent ++ t.frames }
  | .part .nodeTxRequest =>
    match s.requests with
    | 0 => s
    | n + 1 => { s with requests := n, txrequest := true, silent := [] }
  | .part .waitAny =>
    match s.canNode with
    | .processTx => s
    | .waiting =>
      if s.txempty || s.txrequest then
        { s with txempty := false, txrequest := false, canNode := .processTx }
      else s
  | .part .processTx =>
    match s.canNode, s.queue with
    | .waiting, _ => s
    | .processTx, [] => { s with canNode := .waiting }
    | .processTx, txf :: rest =>
      if s.mailboxes.length < mailboxNum then
        { s with
          queue := rest
          mailboxes := s.mailboxes ++ [txFrame txf]
          wdgResets := s.wdgResets + 1 }
      else { s with canNode := .waiting }
  | .part .mailboxEmpty =>
    match s.mailboxes with
    | [] => s
    | frame :: rest => { s with mailboxes := rest, bus := s.bus ++ [frame], txempty := true }

/-- Before the first transfer. -/
def idle : TxNode where
  queue := []
  mailboxes := []
  bus := []
  wdgResets := 0
  canNode := .waiting
  txempty := false
  txrequest := false
  requests := 0
  silent := []
  transfers := []

/-- When `CanNodeThread` begins to listen, with the transfers that were queued before. -/
def start (early : List TxTransfer) : TxNode :=
  { early.foldl (enqueue can) idle with silent := early.flatMap TxTransfer.frames }

/-! ## What arrives -/

theorem rxFrame_txFrame (eid : BitVec 29) (data : List UInt8) :
    rxFrame (txFrame ⟨canardCanFrameEff ||| eid.setWidth 32, data⟩) =
      ⟨canardCanFrameEff ||| eid.setWidth 32, data⟩ := by
  have heid : ((canardCanFrameEff ||| eid.setWidth 32) &&& canardCanExtIdMask).setWidth 29 =
      eid := by
    have hmask : ∀ i < 29, canardCanExtIdMask.getLsbD i = true := by decide
    have heff : ∀ i < 29, canardCanFrameEff.getLsbD i = false := by decide
    apply BitVec.eq_of_getLsbD_eq
    intro i hi
    have hlt : i < 32 := by omega
    rw [BitVec.getLsbD_setWidth, BitVec.getLsbD_and, BitVec.getLsbD_or, BitVec.getLsbD_setWidth,
      hmask i hi, heff i hi]
    simp [hi, hlt]
  unfold txFrame rxFrame
  rw [heid]

variable {can mailboxNum} {s : TxNode}

/-- The frames that other nodes hand to libcanard, now or later. -/
def arriving (s : TxNode) : List CanardCANFrame :=
  (s.bus ++ s.mailboxes).map rxFrame ++ s.queue

/-- Nothing is lost, repeated or out of order. -/
structure FramesOk (mailboxNum : ℕ) (s : TxNode) : Prop where
  extended : ∀ f ∈ s.queue, rxFrame (txFrame f) = f
  perm : s.arriving.Perm (s.transfers.flatMap TxTransfer.frames)
  inOrder : ∀ t ∈ s.transfers, t.frames.Sublist s.arriving
  wdgResets : s.wdgResets = s.bus.length + s.mailboxes.length
  room : s.mailboxes.length ≤ mailboxNum

/-- A step that keeps the frames on their way keeps their order. -/
theorem FramesOk.congr (h : FramesOk mailboxNum s) {s' : TxNode} (hqueue : s'.queue = s.queue)
    (hmailboxes : s'.mailboxes = s.mailboxes) (hbus : s'.bus = s.bus)
    (hwdg : s'.wdgResets = s.wdgResets) (htransfers : s'.transfers = s.transfers) :
    FramesOk mailboxNum s' := by
  have harriving : s'.arriving = s.arriving := by rw [arriving, arriving, hqueue, hmailboxes, hbus]
  constructor
  · rw [hqueue]; exact h.extended
  · rw [harriving, htransfers]; exact h.perm
  · rw [harriving, htransfers]; exact h.inOrder
  · rw [hwdg, hbus, hmailboxes]; exact h.wdgResets
  · rw [hmailboxes]; exact h.room

theorem FramesOk.enqueue (h : FramesOk mailboxNum s) (t : TxTransfer) :
    FramesOk mailboxNum (s.enqueue can t) where
  extended f hf := by
    rcases List.mem_append.mp ((can.perm s.queue t.frames).subset hf) with hold | hnew
    · exact h.extended f hold
    · obtain ⟨data, -, rfl⟩ := List.mem_map.mp hnew
      exact rxFrame_txFrame t.eid data
  perm := by
    have hpush : (s.enqueue can t).arriving.Perm (s.arriving ++ t.frames) := by
      rw [arriving, arriving, List.append_assoc]
      exact (can.perm s.queue t.frames).append_left _
    refine hpush.trans ?_
    show (s.arriving ++ t.frames).Perm ((s.transfers ++ [t]).flatMap TxTransfer.frames)
    rw [List.flatMap_append, List.flatMap_singleton]
    exact h.perm.append_right _
  inOrder u hu := by
    rcases List.mem_append.mp hu with hold | hnew
    · exact (h.inOrder u hold).trans ((can.keeps s.queue t.frames).append_left _)
    · rw [List.mem_singleton.mp hnew]
      exact (can.inOrder s.queue t).trans (List.sublist_append_right _ _)
  wdgResets := h.wdgResets
  room := h.room

theorem framesOk_start (early : List TxTransfer) : FramesOk mailboxNum (start can early) := by
  have hidle : FramesOk mailboxNum idle :=
    ⟨fun f hf => absurd hf List.not_mem_nil, List.Perm.refl _,
      fun t ht => absurd ht List.not_mem_nil, rfl, Nat.zero_le _⟩
  have hall : ∀ s, FramesOk mailboxNum s → FramesOk mailboxNum (early.foldl (enqueue can) s) := by
    induction early with
    | nil => exact fun s h => h
    | cons t early ih => exact fun s h => ih _ (h.enqueue t)
  exact (hall idle hidle).congr rfl rfl rfl rfl rfl

theorem framesOk_step : Machine.Keeps (step can mailboxNum) (FramesOk mailboxNum) := by
  intro s e h
  cases e with
  | canardLock t =>
    cases hnode : s.canNode with
    | processTx => simpa only [step, hnode] using h
    | waiting =>
      simp only [step, hnode]
      exact (h.enqueue t).congr rfl rfl rfl rfl rfl
  | nodeDebug t =>
    cases hnode : s.canNode with
    | processTx => simpa only [step, hnode] using h
    | waiting =>
      simp only [step, hnode]
      exact (h.enqueue t).congr rfl rfl rfl rfl rfl
  | part p =>
    cases p with
    | nodeTxRequest =>
      simp only [step]
      split
      · exact h
      · exact h.congr rfl rfl rfl rfl rfl
    | waitAny =>
      simp only [step]
      split
      · exact h
      · split
        · exact h.congr rfl rfl rfl rfl rfl
        · exact h
    | processTx =>
      simp only [step]
      split
      · exact h
      · exact h.congr rfl rfl rfl rfl rfl
      · next txf rest _ hqueue =>
        split
        · next hroom =>
          have hframe := h.extended txf (by rw [hqueue]; exact List.mem_cons_self)
          have harriving : ((s.bus ++ (s.mailboxes ++ [txFrame txf])).map rxFrame ++ rest) =
              s.arriving := by
            rw [arriving, hqueue]
            simp [hframe]
          refine ⟨fun f hf => h.extended f (by rw [hqueue]; exact List.mem_cons_of_mem _ hf),
            ?_, ?_, ?_, ?_⟩
          · exact (List.Perm.of_eq harriving).trans h.perm
          · exact fun t ht => (h.inOrder t ht).trans (by rw [← harriving]; exact List.Sublist.refl _)
          · simp only [h.wdgResets, List.length_append, List.length_singleton, Nat.add_assoc]
          · simp only [List.length_append, List.length_singleton]
            omega
        · exact h.congr rfl rfl rfl rfl rfl
    | mailboxEmpty =>
      simp only [step]
      split
      · exact h
      · next frame rest hmailboxes =>
        have harriving : ((s.bus ++ [frame] ++ rest).map rxFrame ++ s.queue) = s.arriving := by
          rw [arriving, hmailboxes, List.append_assoc]
          rfl
        have hwdg := h.wdgResets
        have hroom := h.room
        rw [hmailboxes, List.length_cons] at hwdg hroom
        refine ⟨h.extended, ?_, ?_, ?_, ?_⟩
        · exact (List.Perm.of_eq harriving).trans h.perm
        · exact fun t ht => (h.inOrder t ht).trans (by rw [← harriving]; exact List.Sublist.refl _)
        · simp only [hwdg, List.length_append, List.length_singleton]
          omega
        · exact Nat.le_of_succ_le hroom

/-- **Frames arrive once and in order**: whatever the threads and the bus do, the frames on their
way are those of all transfers, and the frames of each are in their order. The watchdog is reset
once for each frame that was handed to the controller. -/
theorem frames_arrive_in_order (can : TxQueue) (mailboxNum : ℕ) (early : List TxTransfer)
    (es : List TxEvent) :
    let s := Machine.run (step can mailboxNum) (start can early) es
    s.arriving.Perm (s.transfers.flatMap TxTransfer.frames) ∧
      (∀ t ∈ s.transfers, t.frames.Sublist s.arriving) ∧
      s.wdgResets = s.bus.length + s.mailboxes.length := by
  intro s
  have hok : FramesOk mailboxNum s := framesOk_step.run (framesOk_start early) es
  exact ⟨hok.perm, hok.inOrder, hok.wdgResets⟩

/-! ## All frames leave -/

/-- `CanNodeThread` is at the queue, or it will be: an event is pending, a function is before
`node_tx_request`, or no mailbox is free. -/
def Awake (mailboxNum : ℕ) (s : TxNode) : Prop :=
  s.canNode = .processTx ∨ (s.txempty || s.txrequest) = true ∨ s.requests ≠ 0 ∨
    mailboxNum ≤ s.mailboxes.length

/-- While the thread sleeps, only debug messages are in the queue. -/
def SleepsRightly (mailboxNum : ℕ) (s : TxNode) : Prop :=
  s.Awake mailboxNum ∨ s.queue.Subperm s.silent

theorem subperm_enqueue {frames : List CanardCANFrame} (h : s.queue.Subperm frames)
    (t : TxTransfer) : (s.enqueue can t).queue.Subperm (frames ++ t.frames) :=
  (can.perm s.queue t.frames).subperm.trans (h.append (List.Subperm.refl _))

theorem sleepsRightly_start (early : List TxTransfer) :
    SleepsRightly mailboxNum (start can early) := by
  have hall : ∀ (s : TxNode) (frames : List CanardCANFrame), s.queue.Subperm frames →
      (early.foldl (enqueue can) s).queue.Subperm
        (frames ++ early.flatMap TxTransfer.frames) := by
    induction early with
    | nil => exact fun s frames h => by simpa using h
    | cons t early ih =>
      intro s frames h
      rw [List.flatMap_cons, ← List.append_assoc]
      exact ih _ _ (subperm_enqueue h t)
  exact .inr (hall idle [] (List.Subperm.refl _))

theorem sleepsRightly_step : Machine.Keeps (step can mailboxNum) (SleepsRightly mailboxNum) := by
  intro s e h
  cases e with
  | canardLock t =>
    simp only [step]
    split
    · exact h
    · exact .inl (.inr (.inr (.inl (Nat.succ_ne_zero _))))
  | nodeDebug t =>
    simp only [step]
    split
    · exact h
    · exact h.imp id fun hsilent => subperm_enqueue hsilent t
  | part p =>
    cases p with
    | nodeTxRequest =>
      simp only [step]
      split
      · exact h
      · exact .inl (.inr (.inl (Bool.or_true _)))
    | waitAny =>
      simp only [step]
      split
      · exact h
      · split
        · exact .inl (.inl rfl)
        · exact h
    | processTx =>
      simp only [step]
      split
      · exact h
      · next hqueue =>
        rw [SleepsRightly, hqueue]
        exact .inr List.nil_subperm
      · next hnode _ =>
        split
        · exact .inl (.inl hnode)
        · next hfull => exact .inl (.inr (.inr (.inr (not_lt.mp hfull))))
    | mailboxEmpty =>
      simp only [step]
      split
      · exact h
      · exact .inl (.inr (.inl rfl))

/-- What is left to do until all mailboxes are empty and the thread sleeps. -/
def work (s : TxNode) : ℕ :=
  4 * s.queue.length + 3 * s.mailboxes.length + 3 * s.requests +
    2 * (s.txempty || s.txrequest).toNat + if s.canNode = .processTx then 1 else 0

/-- The part has something to do. -/
def Enabled (s : TxNode) : TxPart → Prop
  | .nodeTxRequest => s.requests ≠ 0
  | .waitAny => s.canNode = .waiting ∧ (s.txempty || s.txrequest) = true
  | .processTx => s.canNode = .processTx
  | .mailboxEmpty => s.mailboxes ≠ []

theorem step_of_not_enabled {p : TxPart} (h : ¬ s.Enabled p) :
    s.step can mailboxNum (.part p) = s := by
  cases p with
  | nodeTxRequest =>
    have hrequests : s.requests = 0 := not_not.mp h
    simp only [step, hrequests]
  | waitAny =>
    cases hnode : s.canNode with
    | processTx => simp only [step, hnode]
    | waiting =>
      have hnone : ¬ (s.txempty || s.txrequest) = true := fun hevents => h ⟨hnode, hevents⟩
      simp only [step, hnode, if_neg hnone]
  | processTx =>
    cases hnode : s.canNode with
    | processTx => exact absurd hnode h
    | waiting => simp only [step, hnode]
  | mailboxEmpty =>
    have hmailboxes : s.mailboxes = [] := not_not.mp h
    simp only [step, hmailboxes]

/-- A part that has something to do, does some of the work. -/
theorem work_part_lt {p : TxPart} (h : s.Enabled p) :
    (s.step can mailboxNum (.part p)).work < s.work := by
  cases p with
  | nodeTxRequest =>
    obtain ⟨n, hrequests⟩ := Nat.exists_eq_succ_of_ne_zero h
    have hevents := Bool.toNat_le (s.txempty || s.txrequest)
    simp only [step, work, hrequests, Bool.or_true, Bool.toNat_true]
    omega
  | waitAny =>
    obtain ⟨hnode, hevents⟩ := h
    simp [step, work, hnode, hevents]
  | processTx =>
    have hnode : s.canNode = .processTx := h
    cases hqueue : s.queue with
    | nil => simp [step, work, hnode, hqueue]
    | cons txf rest =>
      simp only [step, hnode, hqueue]
      split
      · simp only [work, hqueue, hnode, List.length_cons, List.length_append, List.length_nil]
        omega
      · simp [work, hnode, hqueue]
  | mailboxEmpty =>
    obtain ⟨frame, rest, hmailboxes⟩ := List.exists_cons_of_ne_nil h
    simp only [step, work, hmailboxes, List.length_cons, Bool.true_or, Bool.toNat_true]
    omega

/-- All frames that were announced are on the bus. -/
def Drained (silent : List CanardCANFrame) (s : TxNode) : Prop :=
  s.mailboxes = [] ∧ s.queue.Subperm silent

/-- Before that, some part has something to do. -/
theorem exists_enabled (hnum : 0 < mailboxNum) (h : SleepsRightly mailboxNum s)
    (hdrained : ¬ s.Drained s.silent) : ∃ p, s.Enabled p := by
  by_cases hmailboxes : s.mailboxes = []
  · obtain (hnode | hevents | hrequests | hfull) | hsilent := h
    · exact ⟨.processTx, hnode⟩
    · cases hnode : s.canNode with
      | processTx => exact ⟨.processTx, hnode⟩
      | waiting => exact ⟨.waitAny, hnode, hevents⟩
    · exact ⟨.nodeTxRequest, hrequests⟩
    · rw [hmailboxes, List.length_nil] at hfull
      omega
    · exact absurd ⟨hmailboxes, hsilent⟩ hdrained
  · exact ⟨.mailboxEmpty, hmailboxes⟩

/-- The parts neither queue a transfer nor a debug message. -/
theorem part_same (s : TxNode) (p : TxPart) :
    (s.step can mailboxNum (.part p)).transfers = s.transfers ∧
      (s.step can mailboxNum (.part p)).silent.Sublist s.silent := by
  cases p with
  | nodeTxRequest =>
    simp only [step]
    split
    · exact ⟨rfl, List.Sublist.refl _⟩
    · exact ⟨rfl, List.nil_sublist _⟩
  | waitAny =>
    simp only [step]
    split
    · exact ⟨rfl, List.Sublist.refl _⟩
    · split <;> exact ⟨rfl, List.Sublist.refl _⟩
  | processTx =>
    simp only [step]
    split
    · exact ⟨rfl, List.Sublist.refl _⟩
    · exact ⟨rfl, List.Sublist.refl _⟩
    · split <;> exact ⟨rfl, List.Sublist.refl _⟩
  | mailboxEmpty =>
    simp only [step]
    split <;> exact ⟨rfl, List.Sublist.refl _⟩

/-- What holds on the way from `s`. -/
structure Draining (mailboxNum : ℕ) (s t : TxNode) : Prop where
  sleeps : t.SleepsRightly mailboxNum
  frames : t.FramesOk mailboxNum
  transfers : t.transfers = s.transfers
  silent : t.silent.Sublist s.silent

theorem draining_step (t : TxNode) (p : TxPart) (h : Draining mailboxNum s t) :
    Draining mailboxNum s (t.step can mailboxNum (.part p)) where
  sleeps := sleepsRightly_step t _ h.sleeps
  frames := framesOk_step t _ h.frames
  transfers := (part_same t p).1.trans h.transfers
  silent := (part_same t p).2.trans h.silent

theorem draining_progress (can : TxQueue) (hnum : 0 < mailboxNum) (s : TxNode) :
    Machine.Progress (fun t p => t.step can mailboxNum (.part p)) id (Draining mailboxNum s) work
      (Drained s.silent) where
  keeps t p h _ := draining_step t p h
  idle t p _ _ := by
    by_cases henabled : t.Enabled p
    · exact .inr (work_part_lt henabled)
    · exact .inl (step_of_not_enabled henabled)
  helps t h hdrained := by
    have hsilent : ¬ t.Drained t.silent :=
      fun hd => hdrained ⟨hd.1, hd.2.trans h.silent.subperm⟩
    obtain ⟨p, hp⟩ := exists_enabled hnum h.sleeps hsilent
    exact ⟨p, fun q hq => (show q = p from hq) ▸ work_part_lt hp⟩

/-- **No wake-up is lost**: when no function sends any more and the parts of the threads come in any
fair order, all frames get to the bus, but for debug messages behind the last request. -/
theorem frames_leave (can : TxQueue) (mailboxNum : ℕ) (hnum : 0 < mailboxNum)
    (early : List TxTransfer) (es : List TxEvent) (f : ℕ → TxPart) (hfair : Machine.Fair id f) :
    let s := Machine.run (step can mailboxNum) (start can early) es
    ∃ n, let t := Machine.along (fun t p => t.step can mailboxNum (.part p)) s f n
      (t.bus.map rxFrame ++ t.queue).Perm (s.transfers.flatMap TxTransfer.frames) ∧
        t.queue.Subperm s.silent := by
  intro s
  have hs : Draining mailboxNum s s :=
    ⟨sleepsRightly_step.run (sleepsRightly_start early) es,
      framesOk_step.run (framesOk_start early) es, rfl, List.Sublist.refl _⟩
  have hprogress := draining_progress can hnum s
  obtain ⟨n, ⟨hmailboxes, hqueue⟩, hfirst⟩ := hprogress.first hs hfair
  have ht := hprogress.until hs f hfirst (Nat.le_refl n)
  refine ⟨n, ?_, hqueue⟩
  have hperm := ht.frames.perm
  rw [arriving, hmailboxes, List.append_nil, ht.transfers] at hperm
  exact hperm

end TxNode

/-- Frames go behind those of the same or a higher priority. -/
def TxQueue.byPriority : TxQueue where
  push queue frames :=
    let passes := fun f : CanardCANFrame => frames.head?.all (f.id ≤ ·.id)
    queue.takeWhile passes ++ frames ++ queue.dropWhile passes
  perm queue frames := by
    dsimp only
    nth_rewrite 3 [← List.takeWhile_append_dropWhile (p := fun f : CanardCANFrame =>
      frames.head?.all (f.id ≤ ·.id)) (l := queue)]
    rw [List.append_assoc, List.append_assoc]
    exact List.perm_append_comm.append_left _
  keeps queue frames := by
    dsimp only
    nth_rewrite 1 [← List.takeWhile_append_dropWhile (p := fun f : CanardCANFrame =>
      frames.head?.all (f.id ≤ ·.id)) (l := queue)]
    exact (List.sublist_append_left _ _).append (List.Sublist.refl _)
  inOrder queue t := (List.sublist_append_right _ _).trans (List.sublist_append_left _ _)

namespace TxNode

/-- The parts of the threads in turn. -/
def inTurn (n : ℕ) : TxPart :=
  if n % 4 = 0 then .nodeTxRequest
  else if n % 4 = 1 then .waitAny
  else if n % 4 = 2 then .processTx
  else .mailboxEmpty

theorem inTurn_fair : Machine.Fair id inTurn := by
  intro p n
  cases p with
  | nodeTxRequest => exact ⟨4 * n, by omega, by simp [inTurn]⟩
  | waitAny => exact ⟨4 * n + 1, by omega, by simp [inTurn, Nat.add_mod]⟩
  | processTx => exact ⟨4 * n + 2, by omega, by simp [inTurn, Nat.add_mod]⟩
  | mailboxEmpty => exact ⟨4 * n + 3, by omega, by simp [inTurn, Nat.add_mod]⟩

/-- Two transfers, the second one more urgent, and a debug message between them. -/
def threeTransfers : List TxEvent :=
  [.canardLock ⟨0x10, [[1], [2]]⟩, .nodeDebug ⟨0x1F, [[3]]⟩, .canardLock ⟨0x08, [[4]]⟩,
    .part .nodeTxRequest]

theorem frames_leave_threeTransfers :
    ∃ n, (Machine.along (fun t p => t.step .byPriority 3 (.part p))
      (Machine.run (step .byPriority 3) (start .byPriority []) threeTransfers) inTurn n).queue =
        [] := by
  obtain ⟨n, -, hqueue⟩ := frames_leave .byPriority 3 (by decide) [] threeTransfers inTurn
    inTurn_fair
  exact ⟨n, List.subperm_nil.mp hqueue⟩

end TxNode

end HouseBus
