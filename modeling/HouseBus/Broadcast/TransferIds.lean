import HouseBus.Broadcast

/-!
# Consecutive transfer ids

Threads broadcast under `canardMtx`, so the messages of a run are those of the calls that it sent,
one behind the other (`transferIds_run`). The transfer ids of a static variable count modulo 32,
whatever the schedule is. Those of `BoilerStatus` are what was on the stack
(`broadcast_ids_consecutive_iff`).
-/

namespace HouseBus

namespace BroadcastState

/-! ## Runs -/

/-- The threads of a node. -/
abbrev Threads (θ : Type*) := Mutex.State θ (List BroadcastCall) BroadcastOp BroadcastState

/-- What a thread does under `canardMtx`: one call, or those of a handler. -/
def locked (calls : List BroadcastCall) : List BroadcastOp := calls.flatMap canardBroadcast

/-- A run of the threads from the start of the firmware. -/
def run {θ : Type*} [DecidableEq θ] (es : List (Mutex.Event θ (List BroadcastCall))) : Threads θ :=
  Machine.run (Mutex.step locked act) (.start start) es

/-- The calls that sent their message. -/
def sentCalls (ops : List BroadcastOp) : List BroadcastCall :=
  ops.filterMap fun
    | .send call => some call
    | .increment _ => none

/-- The initial contents of the variable of `send_status_message`, in the order of the messages. -/
def statusContents (ops : List BroadcastOp) : List ℕ :=
  ((sentCalls ops).filter (·.sender = .sendStatusMessage)).map (·.uninitialised.toNat)

/-- Each one is its predecessor increased by one modulo 32. -/
def Consecutive (ids : List ℕ) : Prop := ids.IsChain fun a b => b % 32 = (a + 1) % 32

instance (ids : List ℕ) : Decidable (Consecutive ids) :=
  inferInstanceAs (Decidable (List.IsChain _ ids))

/-! ## The calls of a run -/

/-- The steps of a run: whole calls, and the first step of one more. -/
theorem prefix_calls {ops : List BroadcastOp} {calls : List BroadcastCall}
    (h : ops <+: calls.flatMap canardBroadcast) :
    ∃ sent : List BroadcastCall, ops = sent.flatMap canardBroadcast ∨
      ∃ call, ops = sent.flatMap canardBroadcast ++ [.send call] := by
  induction calls generalizing ops with
  | nil =>
    have hnil : ops = [] := List.prefix_nil.mp h
    exact ⟨[], .inl hnil⟩
  | cons call calls ih =>
    rw [List.flatMap_cons] at h
    match ops with
    | [] => exact ⟨[], .inl rfl⟩
    | [op] =>
      obtain ⟨rfl, -⟩ := List.cons_prefix_cons.mp h
      exact ⟨[], .inr ⟨call, rfl⟩⟩
    | op :: op' :: ops =>
      obtain ⟨rfl, h'⟩ := List.cons_prefix_cons.mp h
      obtain ⟨rfl, hrest⟩ := List.cons_prefix_cons.mp h'
      obtain ⟨sent, hall | ⟨last, hlast⟩⟩ := ih hrest
      · exact ⟨call :: sent, .inl (by rw [hall]; rfl)⟩
      · exact ⟨call :: sent, .inr ⟨last, by rw [hlast]; rfl⟩⟩

theorem sentCalls_flatMap (calls : List BroadcastCall) :
    sentCalls (calls.flatMap canardBroadcast) = calls := by
  induction calls with
  | nil => rfl
  | cons call calls ih =>
    rw [List.flatMap_cons]
    exact congrArg (call :: ·) ih

/-- **Order**: the transfer ids of a run are those of the calls that sent, one behind the other. -/
theorem transferIds_run {θ : Type*} [DecidableEq θ]
    (es : List (Mutex.Event θ (List BroadcastCall))) (dataTypeId : ℕ) :
    transferIds dataTypeId (run es).shared =
      transferIds dataTypeId (broadcasts (sentCalls (run es).done)) := by
  have hok : Mutex.Ok locked act start (run es) := Mutex.ok_run start es
  have hprefix : (run es).done <+: (run es).entered.flatten.flatMap canardBroadcast := by
    have hflat : (run es).entered.flatMap locked =
        (run es).entered.flatten.flatMap canardBroadcast := by
      rw [List.flatten_eq_flatMap, List.flatMap_assoc]
      rfl
    rw [← hflat]
    exact Mutex.done_prefix_run start es
  rw [hok.shared]
  obtain ⟨sent, hall | ⟨call, hlast⟩⟩ := prefix_calls hprefix
  · rw [hall, sentCalls_flatMap]
    rfl
  · -- the message of the last call is sent, and its variable not yet incremented
    have hsent : sentCalls (run es).done = sent ++ [call] := by
      rw [hlast, sentCalls, List.filterMap_append]
      congr 1
      exact sentCalls_flatMap sent
    rw [hsent, transferIds_snoc, hlast, List.foldl_append, ← transferIds_send]
    rfl

/-! ## Consecutive ids -/

/-- Counting modulo 32. -/
theorem consecutive_range (n : ℕ) : Consecutive ((List.range n).map (· % 32)) := by
  apply List.isChain_iff_getElem.mpr
  intro i hi
  simp only [List.getElem_map, List.getElem_range]
  omega

/-- **A static variable**: the ids are consecutive in every run. -/
theorem consecutive_static {θ : Type*} [DecidableEq θ]
    (es : List (Mutex.Event θ (List BroadcastCall))) {k : Sender}
    (hk : k.args.inoutTransferId = .static) :
    Consecutive (transferIds k.args.dataTypeId (run es).shared) := by
  rw [transferIds_run, transferIds_static hk]
  exact consecutive_range _

/-- **When the transfer ids are consecutive**: in the runs in which the contents of the
uninitialised variable of `send_status_message` are. -/
theorem broadcast_ids_consecutive_iff {θ : Type*} [DecidableEq θ]
    (es : List (Mutex.Event θ (List BroadcastCall))) :
    (∀ dataTypeId, Consecutive (transferIds dataTypeId (run es).shared)) ↔
      Consecutive (statusContents (run es).done) := by
  have hstatus : transferIds BroadcastArgs.sendStatusMessage.dataTypeId (run es).shared =
      statusContents (run es).done := by
    rw [transferIds_run, transferIds_status]
    rfl
  constructor
  · intro h
    rw [← hstatus]
    exact h _
  · intro h dataTypeId
    by_cases hsender : ∃ k : Sender, k.args.dataTypeId = dataTypeId
    · obtain ⟨k, rfl⟩ := hsender
      cases hstorage : k.args.inoutTransferId with
      | static => exact consecutive_static es hstorage
      | automatic =>
        obtain rfl := k.automatic_iff.mp hstorage
        rw [← hstatus] at h
        exact h
    · rw [transferIds_run, transferIds_other fun k hk => hsender ⟨k, hk⟩]
      exact .nil

/-- Two calls of `send_status_message` that find the same byte on the stack. -/
def sameStackByte : List (Mutex.Event ℕ (List BroadcastCall)) :=
  let setDc := [.arrive 0 [⟨.sendStatusMessage, 5⟩], .advance 0, .advance 0, .advance 0, .advance 0]
  setDc ++ setDc

theorem not_broadcast_ids_consecutive :
    ¬ ∀ dataTypeId, Consecutive (transferIds dataTypeId (run sameStackByte).shared) := by
  intro h
  exact absurd (h 20010) (by decide)

end BroadcastState

end HouseBus
