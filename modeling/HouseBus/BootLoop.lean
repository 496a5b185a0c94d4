import HouseBus.FirmwareUpdate.Honest
import HouseBus.Services.Refinement

/-!
# The bootloader around an update (`sw/bootloader/main.c`, `sw/bootloader/node.c`)

`main` boots the application at `boot_application_at`: 10 s after its start, and 2 s after the last
time it saw `FirmwareUpdate` set. The thread polls `processFirmwareUpdate` meanwhile, and a reset
(a restart request, the watchdog) starts both again, with what `bootloader_interface` holds and what
the flash holds by then. The server knows nothing of a reset: it still answers the requests from
before (`lateAnswer`), and `onFileRead` takes any response of the right size while a request is
pending (`lateAnswer_taken`).

A `BootNode` with an update to begin is `Updating` or `Updated` in every run in time (`Timely`),
whatever the order of what main, the thread, the server and resets do. So the application is never
booted in the middle of an update (`boots_updated`), and an update that the application accepted
ends with the file of its server in the flash (`accepted_update_delivers`).
-/

namespace HouseBus

open Bytes

/-- `UAVCAN_NODE_HEALTH_CRITICAL` -/
def nodeHealthCritical : ℕ := 3

/-- Where `main` is: in front of the test of its loop, in `chThdSleep`, or in `boot_application`. -/
inductive MainLoop
  | test
  | sleep
  | booted
  deriving DecidableEq

/-- The bootloader: its `main`, the node, and the update with the server that it asks. `checkedAt`
is when `main` last looked at `FirmwareUpdate`, `lateRequests` are the requests from before a reset
that the server has not answered. -/
structure BootNode where
  loop : MainLoop
  bootApplicationAt : ℕ
  checkedAt : ℕ
  node : NodeState
  nodeHealth : ℕ
  update : Honest.State
  lateRequests : List FileReadRequest

/-- What happens to the bootloader, with the system time where it reads it. -/
inductive BootEvent
  | test (now : ℕ)
  | wake (now : ℕ)
  | poll (bcRes : ℤ)
  | answer
  | lateAnswer (i : ℕ)
  | restartNode (now : ℕ) (t : CanardRxTransfer)
  | beginFirmwareUpdate (t : CanardRxTransfer)
  | reset (now : ℕ)

namespace BootNode

/-- `main` up to its loop. Static variables are zero; the requests `late` are still open at the
server. -/
def start (now : ℕ) (b : BootloaderInterface) (flash : Mem) (late : List FileReadRequest) :
    BootNode where
  loop := .test
  bootApplicationAt := (now + timeS2I 10) % systimeRange
  checkedAt := now
  node := (Bootloader.main b).2
  nodeHealth := nodeHealthOk
  update := Honest.start (fun _ => 0) flash
  lateRequests := late

/-- The condition of the loop of `main`. -/
def test (now : ℕ) (s : BootNode) : BootNode :=
  if s.loop = .test then
    { s with loop := if now < s.bootApplicationAt then .sleep else .booted }
  else s

/-- The body of the loop behind `chThdSleep`. -/
def wake (now : ℕ) (s : BootNode) : BootNode :=
  if s.loop = .sleep then
    { s with
      loop := .test
      checkedAt := now
      bootApplicationAt :=
        if s.node.firmwareUpdate then (now + timeS2I 2) % systimeRange else s.bootApplicationAt }
  else s

/-- The environment of the update: `bootloader_interface` as it is now. -/
def env (env : UpdateEnv) (s : BootNode) : UpdateEnv :=
  { env with bootloaderInterface := s.node.bootloaderInterface }

/-- `CanNodeThread` in front of its 1 Hz tasks. -/
def poll (env : UpdateEnv) (F : List UInt8) (bcRes : ℤ) (s : BootNode) : BootNode :=
  if s.node.firmwareUpdate then
    let session := s.update.session
    let res := (processFirmwareUpdate (s.env env) session.vars session.flash).ret
    { s with
      update := Honest.step (s.env env) F s.update (.poll bcRes)
      node := if res = .inProgress then s.node else Bootloader.updateFinished s.node
      nodeHealth := if res = .errFlashFailed then nodeHealthCritical else s.nodeHealth }
  else s

/-- The server answers the `i`th of the requests from before a reset. -/
def lateAnswer (env : UpdateEnv) (F : List UInt8) (i : ℕ) (s : BootNode) : BootNode :=
  match s.lateRequests[i]? with
  | none => s
  | some r =>
    let session := s.update.session.response (s.env env) (Honest.answerTo F r)
      (some (Honest.requestOffset r))
    { s with
      update := { s.update with session := session }
      lateRequests := s.lateRequests.eraseIdx i }

/-- One event. Behind `boot_application` the bootloader does not run. -/
def step (env : UpdateEnv) (F : List UInt8) (s : BootNode) (e : BootEvent) : BootNode :=
  if s.loop = .booted then s
  else
    match e with
    | .test now => s.test now
    | .wake now => s.wake now
    | .poll bcRes => s.poll env F bcRes
    | .answer => { s with update := Honest.step (s.env env) F s.update .answer }
    | .lateAnswer i => s.lateAnswer env F i
    | .restartNode now t =>
      { s with node := (onRestartNode (Bootloader.requestNodeRestart now) t s.node).1 }
    | .beginFirmwareUpdate t =>
      { s with node := (Bootloader.onBeginFirmwareUpdate env.can t s.node).1 }
    | .reset now =>
      start now s.node.bootloaderInterface s.update.session.flash
        (s.lateRequests ++ s.update.openRequests)

/-- `main` tests its condition within 2 s of its last look at `FirmwareUpdate`, the system time does
not wrap before the boot, no further request is accepted, and an answer to a request from before a
reset does not come while a request is pending. -/
def Timely (env : UpdateEnv) (s : BootNode) : BootEvent → Prop
  | .test now => now < s.checkedAt + timeS2I 2
  | .wake now => now + timeS2I 2 < systimeRange
  | .reset now => now + timeS2I 10 < systimeRange
  | .beginFirmwareUpdate t => (Bootloader.onBeginFirmwareUpdate env.can t s.node).2 ≠ t.respond [0]
  | .lateAnswer _ => s.update.session.vars.fileRequestPending = false
  | .poll _ | .answer | .restartNode .. => True

instance (env : UpdateEnv) (s : BootNode) : ∀ e, Decidable (Timely env s e)
  | .test _ | .wake _ | .reset _ => inferInstanceAs (Decidable (_ < _))
  | .beginFirmwareUpdate _ => inferInstanceAs (Decidable (_ ≠ _))
  | .lateAnswer _ => inferInstanceAs (Decidable (_ = _))
  | .poll _ | .answer | .restartNode .. => inferInstanceAs (Decidable True)

end BootNode

/-- The request asks for a piece of the file of `u`. -/
def UpdateRequest.Asks (u : UpdateRequest) (r : FileReadRequest) : Prop :=
  r.destinationNodeId = u.server ∧ r.payload = leBytes 5 r.offset ++ u.path

/-- The struct makes `main` begin the update. -/
structure UpdateRequest.BegunBy (u : UpdateRequest) (b : BootloaderInterface) : Prop where
  held : u.HeldBy b
  magic : b.magic = bootloaderInterfaceValidMagic
  nodeId : b.nodeId ≠ 0
  server : u.server ≠ 0
  path : u.path ≠ []

section

variable {u : UpdateRequest} {b : BootloaderInterface}

theorem UpdateRequest.HeldBy.asks (h : u.HeldBy b) (can : Canard) (stack : Mem) (offset : ℕ) :
    u.Asks (requestFileRead can b stack offset) := by
  refine ⟨h.server, ?_⟩
  rw [requestFileRead_payload, h.length, h.path]
  rfl

theorem UpdateRequest.BegunBy.firmwareUpdate (h : u.BegunBy b) :
    (Bootloader.main b).2.firmwareUpdate = true := by
  have hfinds : FindsUpdate b b b.nodeId (some u) := h.held.findsUpdate h.magic
  exact hfinds.2.mpr ⟨h.nodeId, h.server, h.path⟩

end

namespace BootNode

variable {u : UpdateRequest} {F : List UInt8} {flash : Mem} {env : UpdateEnv} {s : BootNode}

/-- The update is not over: `main` does not boot at its next test, and after a reset the update
begins again. -/
structure Updating (u : UpdateRequest) (F : List UInt8) (flash : Mem) (s : BootNode) : Prop where
  loop : s.loop ≠ .booted
  bootApplicationAt : s.loop = .test → s.checkedAt + timeS2I 2 ≤ s.bootApplicationAt
  firmwareUpdate : s.node.firmwareUpdate = true
  begun : u.BegunBy s.node.bootloaderInterface
  health : s.nodeHealth = nodeHealthOk
  running : ∃ flash', Honest.Running F flash' s.update ∧
    ∀ x, Honest.OffImage F.length x → flash' x = flash x
  requests : ∀ r ∈ s.update.session.requests, u.Asks r.1

/-- The update is over and does not begin again; the flash holds the file. -/
structure Updated (u : UpdateRequest) (F : List UInt8) (flash : Mem) (s : BootNode) : Prop where
  firmwareUpdate : s.node.firmwareUpdate = false
  answered : s.node.bootloaderInterface.requestFromNodeId = 0
  health : s.nodeHealth = nodeHealthOk
  stored : read s.update.session.flash applicationFlashBase F.length = F
  frame : ∀ x, Honest.OffImage F.length x → s.update.session.flash x = flash x
  openRequests : s.update.openRequests = []
  requests : ∀ r ∈ s.update.session.requests, u.Asks r.1

/-! ## Requests and results of a poll -/

/-- A poll asks for what the struct says. -/
theorem asks_poll (env : UpdateEnv) (h : u.HeldBy env.bootloaderInterface) {session : Session}
    (hreqs : ∀ r ∈ session.requests, u.Asks r.1) (bcRes : ℤ) :
    ∀ r ∈ (session.poll env bcRes).requests, u.Asks r.1 := by
  obtain hp | ha | hf := session.asks_or_flushes
  · rw [Session.poll_of_pending hp]
    exact hreqs
  · rw [Session.poll_of_asks ha, List.forall_mem_append, List.forall_mem_singleton]
    exact ⟨hreqs, h.asks _ _ _⟩
  · by_cases hend : (session.page env).ok = false ∨ session.vars.fileEof = true
    · rw [Session.poll_of_ends hf hend]
      exact hreqs
    · obtain ⟨hok, he⟩ := not_or.mp hend
      rw [Session.poll_of_continues hf (by simpa using hok) (by simpa using he)]
      exact hreqs

theorem requests_response (env : UpdateEnv) (session : Session) (t : CanardRxTransfer)
    (r : Option ℕ) : (session.response env t r).requests = session.requests := by
  by_cases h : Accepts session.vars t
  · rw [Session.response_of_accepts h]
  · rw [Session.response_of_refused h]

/-- The results that a poll adds. -/
theorem finished_poll (env : UpdateEnv) (session : Session) (bcRes : ℤ) :
    (session.poll env bcRes).finished.map Prod.fst = session.finished.map Prod.fst ++
      if (processFirmwareUpdate env session.vars session.flash).ret = .inProgress then []
      else [(processFirmwareUpdate env session.vars session.flash).ret] := by
  by_cases hret : (processFirmwareUpdate env session.vars session.flash).ret = .inProgress
  · simp only [Session.poll, if_pos hret, List.append_nil]
  · simp only [Session.poll, if_neg hret, List.map_append, List.map_cons, List.map_nil]

/-- A poll of a running update leaves it running or ends it with success. -/
theorem poll_cases (env : UpdateEnv) {flash' : Mem} {update : Honest.State}
    (h : Honest.Running F flash' update) (hF : Honest.Fits F) (hwork : env.hw.Works) (bcRes : ℤ) :
    let next := Honest.step env F update (.poll bcRes)
    let res := (processFirmwareUpdate env update.session.vars update.session.flash).ret
    (res = .inProgress ∧ Honest.Running F flash' next) ∨
      (res = .doneSuccess ∧ Honest.Done F flash' next) := by
  intro next res
  have hfinished : next.session.finished.map Prod.fst = [] ++ if res = .inProgress then []
      else [res] := by
    have := finished_poll env update.session bcRes
    rwa [h.unfinished] at this
  have hrunning (hnext : Honest.Running F flash' next) : res = .inProgress := by
    by_contra hres
    rw [if_neg hres, hnext.unfinished] at hfinished
    cases hfinished
  obtain ⟨-, hidle⟩ | ⟨-, hnext, -⟩ | ⟨-, hdone⟩ := Honest.running_poll h hF hwork bcRes
  · have hnext : Honest.Running F flash' next := by rwa [← hidle] at h
    exact .inl ⟨hrunning hnext, hnext⟩
  · exact .inl ⟨hrunning hnext, hnext⟩
  · refine .inr ⟨?_, hdone⟩
    rw [hdone.finished] at hfinished
    by_cases hres : res = .inProgress
    · rw [if_pos hres] at hfinished
      cases hfinished
    · rw [if_neg hres] at hfinished
      exact (List.singleton_inj.mp hfinished).symm

/-! ## One event -/

/-- A restart request schedules the restart only. -/
theorem restartNode_same (now : ℕ) (t : CanardRxTransfer) (n : NodeState) :
    let n' := (onRestartNode (Bootloader.requestNodeRestart now) t n).1
    n'.bootloaderInterface = n.bootloaderInterface ∧ n'.firmwareUpdate = n.firmwareUpdate := by
  obtain hr | hr := Lifecycle.onRestartNode_cases (Bootloader.requestNodeRestart now) t n
  · rw [hr, Bootloader.requestNodeRestart, scheduleRestart]
    split <;> exact ⟨rfl, rfl⟩
  · rw [hr]
    exact ⟨rfl, rfl⟩

/-- A request that is not accepted changes nothing. -/
theorem beginFirmwareUpdate_refused {can : Canard} {t : CanardRxTransfer} {n : NodeState}
    (h : (Bootloader.onBeginFirmwareUpdate can t n).2 ≠ t.respond [0]) :
    (Bootloader.onBeginFirmwareUpdate can t n).1 = n := by
  obtain ⟨-, -, ha⟩ | ⟨r, -, hr⟩ := Bootloader.onBeginFirmwareUpdate_cases can t n
  · rw [ha] at h
    exact absurd rfl h
  · rw [hr]

/-- The flash outside of the file, in the middle of the update. -/
theorem Updating.frame (h : Updating u F flash s) {x : ℕ} (hx : Honest.OffImage F.length x) :
    s.update.session.flash x = flash x := by
  obtain ⟨flash', hrunning, hframe⟩ := h.running
  have hle := hrunning.fill_le
  rw [hrunning.frame x fun j hj => hx j (by omega), hframe x hx]

theorem Updating.test (h : Updating u F flash s) {now : ℕ} (hnow : now < s.checkedAt + timeS2I 2) :
    Updating u F flash (s.test now) := by
  rw [BootNode.test]
  split
  · rename_i hloop
    have hearly : now < s.bootApplicationAt := Nat.lt_of_lt_of_le hnow (h.bootApplicationAt hloop)
    exact { h with
      loop := by simp [hearly]
      bootApplicationAt := fun hc => by simp [hearly] at hc }
  · exact h

theorem Updating.wake (h : Updating u F flash s) {now : ℕ}
    (hnow : now + timeS2I 2 < systimeRange) : Updating u F flash (s.wake now) := by
  rw [BootNode.wake]
  split
  · exact { h with
      loop := by simp
      bootApplicationAt := fun _ => by
        rw [if_pos h.firmwareUpdate, Nat.mod_eq_of_lt hnow] }
  · exact h

theorem Updating.poll (h : Updating u F flash s) (hF : Honest.Fits F) (hwork : env.hw.Works)
    (bcRes : ℤ) :
    Updating u F flash (s.poll env F bcRes) ∨ Updated u F flash (s.poll env F bcRes) := by
  obtain ⟨flash', hrunning, hframe⟩ := h.running
  have hrequests := asks_poll (s.env env) h.begun.held h.requests bcRes
  rw [BootNode.poll, if_pos h.firmwareUpdate]
  obtain ⟨hres, hnext⟩ | ⟨hres, hdone⟩ :=
    poll_cases (s.env env) hrunning hF hwork bcRes
  · left
    simp only [hres, reduceCtorEq, ↓reduceIte]
    exact { h with
      running := ⟨flash', hnext, hframe⟩
      requests := hrequests }
  · right
    simp only [hres, reduceCtorEq, ↓reduceIte]
    exact
      { firmwareUpdate := rfl
        answered := BootloaderInterface.requestFromNodeId_setRequestFromNodeId 0
        health := h.health
        stored := hdone.stored
        frame := fun x hx => (hdone.frame x hx).trans (hframe x hx)
        openRequests := hdone.openRequests
        requests := hrequests }

theorem requests_answer (env : UpdateEnv) (F : List UInt8) (update : Honest.State) :
    (Honest.step env F update .answer).session.requests = update.session.requests := by
  rw [Honest.step]
  split
  · rfl
  · exact requests_response _ _ _ _

theorem Updating.answer (h : Updating u F flash s) (env : UpdateEnv) :
    Updating u F flash { s with update := Honest.step (s.env env) F s.update .answer } := by
  obtain ⟨flash', hrunning, hframe⟩ := h.running
  refine { h with running := ⟨flash', ?_, hframe⟩, requests := ?_ }
  · obtain ⟨-, hidle⟩ | ⟨-, hnext, -⟩ := Honest.running_answer (s.env env) hrunning
    · rw [hidle]
      exact hrunning
    · exact hnext
  · rw [requests_answer]
    exact h.requests

/-- While no request is pending, a late answer is refused. -/
theorem lateAnswer_refused (env : UpdateEnv) (F : List UInt8)
    (hp : s.update.session.vars.fileRequestPending = false) (i : ℕ) :
    ∃ unanswered late, s.lateAnswer env F i =
      { s with
        update :=
          { s.update with session := { s.update.session with unanswered := unanswered } }
        lateRequests := late } := by
  rw [lateAnswer]
  split
  · exact ⟨_, _, rfl⟩
  · rename_i r hr
    have hrefused : ¬ Accepts s.update.session.vars (Honest.answerTo F r) := by simp [Accepts, hp]
    rw [Session.response_of_refused hrefused, answersWithError, hp, Bool.false_and, Bool.or_false]
    exact ⟨_, _, rfl⟩

/-- While one is pending, a late answer is taken as the next piece, whatever it answers. -/
theorem lateAnswer_taken (env : UpdateEnv) (F : List UInt8)
    (hp : s.update.session.vars.fileRequestPending = true) {i : ℕ} {r : FileReadRequest}
    (hr : s.lateRequests[i]? = some r) :
    (s.lateAnswer env F i).update.session.data =
      s.update.session.data ++ [(F.drop (Honest.requestOffset r)).take 256] := by
  have hlen := List.length_take_le 256 (F.drop (Honest.requestOffset r))
  have haccepts : Accepts s.update.session.vars (Honest.answerTo F r) := by
    refine ⟨hp, ?_, ?_⟩ <;>
      simp only [CanardRxTransfer.payloadLen, Honest.answerTo, Honest.fileReadResponse,
        List.length_cons] <;> omega
  simp only [lateAnswer, hr, Session.response_of_accepts haccepts, Session.data, List.map_append,
    List.map_cons, List.map_nil]
  rfl

theorem Updating.lateAnswer (h : Updating u F flash s) (env : UpdateEnv)
    (hp : s.update.session.vars.fileRequestPending = false) (i : ℕ) :
    Updating u F flash (s.lateAnswer env F i) := by
  obtain ⟨flash', hrunning, hframe⟩ := h.running
  obtain ⟨unanswered, late, hsame⟩ := lateAnswer_refused env F hp i
  rw [hsame]
  exact { h with running := ⟨flash', { hrunning with inv := { hrunning.inv with } }, hframe⟩ }

/-- A reset begins the update again. -/
theorem updating_start {b : BootloaderInterface} (hb : u.BegunBy b) {now : ℕ}
    (hnow : now + timeS2I 10 < systimeRange) {flash' : Mem}
    (hframe : ∀ x, Honest.OffImage F.length x → flash' x = flash x) (late : List FileReadRequest) :
    Updating u F flash (start now b flash' late) where
  loop := by simp [start]
  bootApplicationAt _ := by
    show now + timeS2I 2 ≤ (now + timeS2I 10) % systimeRange
    rw [Nat.mod_eq_of_lt hnow, timeS2I, timeS2I]
    omega
  firmwareUpdate := hb.firmwareUpdate
  begun := by rw [start, Lifecycle.main_bootloaderInterface]; exact hb
  health := rfl
  running := ⟨flash', Honest.running_start _ _, hframe⟩
  requests := by simp [start, Honest.start, Session.start]

/-- An event of an update that is not over. -/
theorem Updating.next (h : Updating u F flash s) (hF : Honest.Fits F) (hwork : env.hw.Works)
    {e : BootEvent} (he : Timely env s e) :
    Updating u F flash (step env F s e) ∨ Updated u F flash (step env F s e) := by
  unfold BootNode.step
  rw [if_neg h.loop]
  cases e with
  | test now => exact .inl (h.test he)
  | wake now => exact .inl (h.wake he)
  | poll bcRes => exact h.poll hF hwork bcRes
  | answer => exact .inl (h.answer env)
  | lateAnswer i => exact .inl (h.lateAnswer env he i)
  | restartNode now t =>
    obtain ⟨hinterface, hupdate⟩ := restartNode_same now t s.node
    exact .inl { h with
      firmwareUpdate := hupdate.trans h.firmwareUpdate
      begun := by simp only [hinterface]; exact h.begun }
  | beginFirmwareUpdate t =>
    simp only [beginFirmwareUpdate_refused he]
    exact .inl h
  | reset now => exact .inl (updating_start h.begun he (fun x hx => h.frame hx) _)

/-- An event of an update that is over. -/
theorem Updated.next (h : Updated u F flash s) {e : BootEvent} (he : Timely env s e) :
    Updated u F flash (step env F s e) := by
  unfold BootNode.step
  split
  · exact h
  · cases e with
    | test now =>
      simp only [BootNode.test]
      split
      · exact { h with }
      · exact h
    | wake now =>
      simp only [BootNode.wake]
      split
      · exact { h with }
      · exact h
    | poll bcRes =>
      have hover : ¬ s.node.firmwareUpdate = true := by simp [h.firmwareUpdate]
      simp only [BootNode.poll, if_neg hover]
      exact h
    | answer =>
      have hidle : Honest.step (s.env env) F s.update .answer = s.update := by
        rw [Honest.step, h.openRequests]
      simp only [hidle]
      exact h
    | lateAnswer i =>
      obtain ⟨unanswered, late, hsame⟩ := lateAnswer_refused env F he i
      simp only [hsame]
      exact { h with }
    | restartNode now t =>
      obtain ⟨hinterface, hupdate⟩ := restartNode_same now t s.node
      exact { h with
        firmwareUpdate := hupdate.trans h.firmwareUpdate
        answered := by simp only [hinterface]; exact h.answered }
    | beginFirmwareUpdate t =>
      simp only [beginFirmwareUpdate_refused he]
      exact h
    | reset now =>
      have hno : ¬ (Bootloader.main s.node.bootloaderInterface).2.firmwareUpdate = true := by
        rw [Lifecycle.main_firmwareUpdate]
        exact fun hc => hc.2.2 (.inl h.answered)
      exact
        { firmwareUpdate := by simpa [start] using hno
          answered := by
            have hsame := Lifecycle.main_bootloaderInterface s.node.bootloaderInterface
            exact (congrArg BootloaderInterface.requestFromNodeId hsame).trans h.answered
          health := rfl
          stored := h.stored
          frame := h.frame
          openRequests := rfl
          requests := by simp [start, Honest.start, Session.start] }

/-! ## Runs -/

/-- Every event in time keeps an update that is not over, or over. -/
theorem keeps_step (hF : Honest.Fits F) (hwork : env.hw.Works) :
    Machine.KeepsIf (step env F) (Timely env)
      fun s => Updating u F flash s ∨ Updated u F flash s := by
  intro s e he h
  obtain h | h := h
  · exact h.next hF hwork he
  · exact .inr (h.next he)

theorem updated_run : Machine.KeepsIf (step env F) (Timely env) (Updated u F flash) :=
  fun _ _ he h => h.next he

/-- The event that a running update waits for: an answer while a request is pending, else a
poll. -/
def Helps (s : BootNode) : BootEvent → Prop
  | .poll _ => s.update.session.vars.fileRequestPending = false
  | .answer => s.update.session.vars.fileRequestPending = true
  | _ => False

theorem helps_congr {s' : BootNode} (h : s'.update.session.vars = s.update.session.vars)
    (e : BootEvent) : Helps s' e ↔ Helps s e := by
  cases e <;> simp only [Helps, h]

def IsReset : BootEvent → Prop
  | .reset _ => True
  | _ => False

/-- Work that is left, and less of it after an event that helps. -/
def remaining (F : List UInt8) (s : BootNode) : ℕ := Honest.remaining F s.update

theorem remaining_le (F : List UInt8) (s : BootNode) :
    remaining F s ≤ 4 * (F.length / 256 + 1) + 2 := by
  rw [remaining, Honest.remaining]
  have := Bool.toNat_le (!s.update.session.vars.fileRequestPending)
  split <;> omega

/-- An event that helps lowers the work that is left or ends the update. -/
theorem Updating.step_helps (h : Updating u F flash s) (hF : Honest.Fits F)
    (hwork : env.hw.Works) {e : BootEvent} (he : Timely env s e) (hhelps : Helps s e) :
    Updated u F flash (step env F s e) ∨
      Updating u F flash (step env F s e) ∧ remaining F (step env F s e) < remaining F s := by
  obtain ⟨flash', hrunning, -⟩ := h.running
  have hworks : (s.env env).hw.Works := hwork
  have hnext := h.next hF hwork he
  cases e with
  | poll bcRes =>
    have hupdate : (step env F s (.poll bcRes)).update =
        Honest.step (s.env env) F s.update (.poll bcRes) := by
      simp only [BootNode.step, if_neg h.loop, BootNode.poll, if_pos h.firmwareUpdate]
    obtain hnext | hnext := hnext
    · refine .inr ⟨hnext, ?_⟩
      rw [remaining, hupdate]
      obtain ⟨hpending, -⟩ | ⟨-, -, hlt⟩ | ⟨-, hdone⟩ :=
        Honest.running_poll hrunning hF hworks bcRes
      · exact absurd (hhelps.symm.trans hpending) Bool.false_ne_true
      · exact hlt
      · -- Done, so it is not running any more.
        obtain ⟨flash'', hrunning', -⟩ := hnext.running
        rw [hupdate] at hrunning'
        have hfinished := hdone.finished
        rw [hrunning'.unfinished] at hfinished
        cases hfinished
    · exact .inl hnext
  | answer =>
    obtain hnext | hnext := hnext
    · refine .inr ⟨hnext, ?_⟩
      obtain ⟨hpending, -⟩ | ⟨-, -, hlt⟩ := Honest.running_answer (s.env env) hrunning
      · exact absurd (hpending.symm.trans hhelps) Bool.false_ne_true
      · simp only [BootNode.step, if_neg h.loop]
        exact hlt
    · exact .inl hnext
  | test | wake | lateAnswer | restartNode | beginFirmwareUpdate | reset => exact hhelps.elim

/-- Another event in time leaves the variables and the pieces taken as they are, unless it is a
reset. -/
theorem Updating.step_idle (h : Updating u F flash s) (hF : Honest.Fits F)
    (hwork : env.hw.Works) {e : BootEvent} (he : Timely env s e) (hreset : ¬ IsReset e)
    (hhelps : ¬ Helps s e) :
    (step env F s e).update.session.vars = s.update.session.vars ∧
      (step env F s e).update.session.chunks = s.update.session.chunks := by
  obtain ⟨flash', hrunning, -⟩ := h.running
  have hworks : (s.env env).hw.Works := hwork
  simp only [BootNode.step, if_neg h.loop]
  cases e with
  | test now => simp only [BootNode.test]; split <;> exact ⟨rfl, rfl⟩
  | wake now => simp only [BootNode.wake]; split <;> exact ⟨rfl, rfl⟩
  | poll bcRes =>
    simp only [BootNode.poll, if_pos h.firmwareUpdate]
    obtain ⟨-, hidle⟩ | ⟨hpending, -⟩ | ⟨hpending, -⟩ :=
      Honest.running_poll hrunning hF hworks bcRes
    · rw [hidle]
      exact ⟨rfl, rfl⟩
    · exact absurd hpending hhelps
    · exact absurd hpending hhelps
  | answer =>
    obtain ⟨-, hidle⟩ | ⟨hpending, -⟩ := Honest.running_answer (s.env env) hrunning
    · simp only [hidle, and_self]
    · exact absurd hpending hhelps
  | lateAnswer i =>
    obtain ⟨unanswered, late, hsame⟩ := lateAnswer_refused env F he i
    simp only [hsame, and_self]
  | restartNode | beginFirmwareUpdate => exact ⟨rfl, rfl⟩
  | reset => exact absurd trivial hreset

/-- So it leaves the work that is left as it is. -/
theorem Updating.remaining_idle (h : Updating u F flash s) (hF : Honest.Fits F)
    (hwork : env.hw.Works) {e : BootEvent} (he : Timely env s e) (hreset : ¬ IsReset e)
    (hhelps : ¬ Helps s e) : remaining F (step env F s e) = remaining F s := by
  obtain ⟨hvars, hchunks⟩ := h.step_idle hF hwork he hreset hhelps
  simp only [remaining, Honest.remaining, hvars, hchunks]

/-- The work that is left, over a run without resets. -/
theorem Updating.run_le (h : Updating u F flash s) (hF : Honest.Fits F) (hwork : env.hw.Works)
    {es : List BootEvent} (hreset : ∀ e ∈ es, ¬ IsReset e)
    (hes : Machine.Meets (step env F) (Timely env) s es) :
    Updated u F flash (Machine.run (step env F) s es) ∨
      Updating u F flash (Machine.run (step env F) s es) ∧
        remaining F (Machine.run (step env F) s es) ≤ remaining F s := by
  induction es generalizing s with
  | nil => exact .inr ⟨h, Nat.le_refl _⟩
  | cons e es ih =>
    obtain ⟨he, hreset⟩ := List.forall_mem_cons.mp hreset
    have hstep : Updated u F flash (step env F s e) ∨
        Updating u F flash (step env F s e) ∧ remaining F (step env F s e) ≤ remaining F s := by
      by_cases hhelps : Helps s e
      · exact (h.step_helps hF hwork hes.1 hhelps).imp_right (And.imp_right Nat.le_of_lt)
      · refine (h.next hF hwork hes.1).symm.imp_right fun hnext => ⟨hnext, ?_⟩
        exact Nat.le_of_eq (h.remaining_idle hF hwork hes.1 he hhelps)
    obtain hover | ⟨hnext, hle⟩ := hstep
    · exact .inl (updated_run.run hover hes.2)
    · exact (ih hnext hreset hes.2).imp_right (And.imp_right fun h => h.trans hle)

/-- A run without resets, in which an event comes that the update waits for. -/
theorem Updating.run_lt (h : Updating u F flash s) (hF : Honest.Fits F) (hwork : env.hw.Works)
    {es : List BootEvent} (hreset : ∀ e ∈ es, ¬ IsReset e) (hhelps : ∃ e ∈ es, Helps s e)
    (hes : Machine.Meets (step env F) (Timely env) s es) :
    Updated u F flash (Machine.run (step env F) s es) ∨
      Updating u F flash (Machine.run (step env F) s es) ∧
        remaining F (Machine.run (step env F) s es) < remaining F s := by
  induction es generalizing s with
  | nil =>
    obtain ⟨e, he, -⟩ := hhelps
    cases he
  | cons e es ih =>
    obtain ⟨he, hreset⟩ := List.forall_mem_cons.mp hreset
    by_cases hfirst : Helps s e
    · obtain hover | ⟨hnext, hlt⟩ := h.step_helps hF hwork hes.1 hfirst
      · exact .inl (updated_run.run hover hes.2)
      · refine (hnext.run_le hF hwork hreset hes.2).imp_right (And.imp_right fun hle => ?_)
        exact Nat.lt_of_le_of_lt hle hlt
    · obtain ⟨hvars, -⟩ := h.step_idle hF hwork hes.1 he hfirst
      have hlater : ∃ e' ∈ es, Helps (step env F s e) e' := by
        obtain ⟨e', he', hhelps⟩ := hhelps
        obtain rfl | he' := List.mem_cons.mp he'
        · exact absurd hhelps hfirst
        · exact ⟨e', he', (helps_congr hvars e').mpr hhelps⟩
      obtain hnext | hover := h.next hF hwork hes.1
      · rw [← h.remaining_idle hF hwork hes.1 he hfirst]
        exact ih hnext hreset hlater hes.2
      · exact .inl (updated_run.run hover hes.2)

/-- A part of a run without resets, with a poll and an answer. -/
structure Round (es : List BootEvent) : Prop where
  noReset : ∀ e ∈ es, ¬ IsReset e
  poll : ∃ bcRes, .poll bcRes ∈ es
  answer : .answer ∈ es

theorem Round.helps {es : List BootEvent} (h : Round es) (s : BootNode) : ∃ e ∈ es, Helps s e := by
  cases hpending : s.update.session.vars.fileRequestPending with
  | false =>
    obtain ⟨bcRes, hpoll⟩ := h.poll
    exact ⟨_, hpoll, hpending⟩
  | true => exact ⟨_, h.answer, hpending⟩

/-- Rounds end the update. -/
theorem Updating.rounds (h : Updating u F flash s) (hF : Honest.Fits F) (hwork : env.hw.Works)
    {rounds : List (List BootEvent)} (hrounds : ∀ es ∈ rounds, Round es)
    (hlength : remaining F s < rounds.length)
    (hes : Machine.Meets (step env F) (Timely env) s rounds.flatten) :
    Updated u F flash (Machine.run (step env F) s rounds.flatten) := by
  induction rounds generalizing s with
  | nil => exact absurd hlength (Nat.not_lt_zero _)
  | cons es rounds ih =>
    obtain ⟨hround, hrounds⟩ := List.forall_mem_cons.mp hrounds
    rw [List.flatten_cons] at hes ⊢
    rw [Machine.meets_append] at hes
    rw [Machine.run_append]
    obtain hover | ⟨hnext, hlt⟩ :=
      h.run_lt hF hwork hround.noReset (hround.helps s) hes.1
    · exact updated_run.run hover hes.2
    · rw [List.length_cons] at hlength
      exact ih hnext hrounds (by omega) hes.2

/-- What holds of a bootloader with an update to begin, whatever happens to it. -/
structure Delivers (env : UpdateEnv) (u : UpdateRequest) (F : List UInt8) (flash : Mem)
    (s : BootNode) : Prop where
  boots : s.loop = .booted → Updated u F flash s
  asks : ∀ r ∈ s.update.session.requests, u.Asks r.1
  health : s.nodeHealth = nodeHealthOk
  ends : ∀ rounds : List (List BootEvent), (∀ es ∈ rounds, Round es) →
    4 * (F.length / 256 + 1) + 2 < rounds.length →
      Machine.Meets (step env F) (Timely env) s rounds.flatten →
        Updated u F flash (Machine.run (step env F) s rounds.flatten)

/-- **The application is booted behind the update**: a bootloader that finds an update asks its
server for its file only, and boots the application with the file in the flash and nothing else
changed there, over any resets, polls and answers in between, whatever requests are open from
before. Rounds without a reset end the update. -/
theorem boots_updated (env : UpdateEnv) (hwork : env.hw.Works) {F : List UInt8}
    (hF : F.length ≤ applicationFlashSize) {b : BootloaderInterface} (hb : u.BegunBy b) {now : ℕ}
    (hnow : now + timeS2I 10 < systimeRange) (flash : Mem) (late : List FileReadRequest)
    {es : List BootEvent}
    (hes : Machine.Meets (step env F) (Timely env) (start now b flash late) es) :
    Delivers env u F flash (Machine.run (step env F) (start now b flash late) es) := by
  have hfits : Honest.Fits F := by
    simp only [Honest.Fits, applicationFlashBase, applicationFlashSize, flashPageSize] at *
    omega
  have hstart : Updating u F flash (start now b flash late) :=
    updating_start hb hnow (fun _ _ => rfl) late
  obtain h | h := (keeps_step hfits hwork).run (.inl hstart) hes
  · refine ⟨fun hbooted => absurd hbooted h.loop, h.requests, h.health, ?_⟩
    intro rounds hrounds hlength hmeets
    exact h.rounds hfits hwork hrounds (Nat.lt_of_le_of_lt (remaining_le F _) hlength) hmeets
  · exact ⟨fun _ => h, h.requests, h.health, fun _ _ _ hmeets => updated_run.run h hmeets⟩

/-- Node 7 asked for the file `a` of node 5. -/
def updateInterface : BootloaderInterface :=
  ⟨write (fun _ => 0) 0 (leBytes 4 bootloaderInterfaceValidMagic ++ [5, 97] ++
    List.replicate 199 0 ++ [1, 7])⟩

theorem begunBy_updateInterface : UpdateRequest.BegunBy ⟨5, [97]⟩ updateInterface where
  held := ⟨by decide, by decide, by decide, by decide⟩
  magic := by decide
  nodeId := by decide
  server := by decide
  path := by decide

/-- A reset while a request is open, its late answer, and the boot behind the update. -/
def interruptedUpdate : List BootEvent := [
  .test 0, .poll 1, .wake 5000, .reset 0, .lateAnswer 0,
  .test 1, .poll 1, .wake 5001, .answer, .test 5002, .poll 1, .wake 10002, .test 25001]

theorem boots_updated_interrupted :
    let env : UpdateEnv := ⟨.uavcan, .stm32f0, ⟨fun _ => 0⟩, fun _ => 0⟩
    let s := Machine.run (step env [1, 2, 3]) (start 0 updateInterface (fun _ => 0xFF) [])
      interruptedUpdate
    s.loop = .booted ∧ read s.update.session.flash applicationFlashBase 3 = [1, 2, 3] := by
  intro env s
  have hdelivers : Delivers env ⟨5, [97]⟩ [1, 2, 3] (fun _ => 0xFF) s :=
    boots_updated env FlashController.stm32f0_works (by decide) begunBy_updateInterface (by decide)
      _ _ (by decide)
  have hbooted : s.loop = .booted := by decide +kernel
  exact ⟨hbooted, (hdelivers.boots hbooted).stored⟩

/-- Why late answers have to come in time: a file of 257 bytes, a reset behind the request for its
last byte, and the late answer to it as the first piece. -/
example :
    let env : UpdateEnv := ⟨.uavcan, .stm32f0, ⟨fun _ => 0⟩, fun _ => 0⟩
    let s := Machine.run (step env (List.replicate 256 1 ++ [2]))
      (start 0 updateInterface (fun _ => 0xFF) [])
      [.poll 1, .answer, .poll 1, .reset 0, .poll 1, .lateAnswer 0, .poll 1, .test 100000]
    s.loop = .booted ∧ read s.update.session.flash applicationFlashBase 2 = [2, 0] := by
  decide +kernel

end BootNode

/-! ## From the request at the application to the boot -/

/-- A bootloader that finds an update with all that it needs begins it. -/
theorem BootloaderFinds.begunBy {boot b : BootloaderInterface} {u : UpdateRequest} {nodeId : UInt8}
    (h : BootloaderFinds boot b (some u) (some nodeId)) (hid : nodeId ≠ 0) (hserver : u.server ≠ 0)
    (hpath : u.path ≠ []) : u.BegunBy b := by
  obtain ⟨-, hheld, hbegins⟩ := h
  obtain ⟨hmagic, hnodeId, -⟩ :=
    (Lifecycle.main_firmwareUpdate b).mp (hbegins.mpr ⟨hid, hserver, hpath⟩)
  exact ⟨hheld, hmagic, hnodeId, hserver, hpath⟩

/-- **An accepted update is delivered**: after any calls of the services up to the reset, an update
that the application accepted as a node with an id is what the bootloader does, with the server and
the path of the request. -/
theorem accepted_update_delivers {α : Type*} {can : Canard} (laws : can.FieldLaws)
    (board : NodeBoard) (registrations : List (ServiceNode.Registration α)) {localNodeId : ℕ}
    (hlocal : localNodeId ≠ canardBroadcastNodeId) (boot : BootloaderInterface) {i2c : I2c}
    {σ : ParamMap} (hσ : GetSet.Represents i2c.eeprom σ) (app : α) {cs : List (ServiceCall can)}
    (hcs : ∀ c ∈ cs, c.WellFormed)
    (hrun : Machine.Meets (ServiceNode.step can .works board registrations localNodeId)
      (fun s _ => s.node.reset = false) (.start boot i2c app) (cs.map ServiceCall.event))
    {u : UpdateRequest} {nodeId : UInt8}
    (hupdate : (Machine.run NodeServices.step ⟨σ, none, none⟩ cs).update = some u)
    (hrestart : (Machine.run NodeServices.step ⟨σ, none, none⟩ cs).restart = some nodeId)
    (hid : nodeId ≠ 0) (hserver : u.server ≠ 0) (hpath : u.path ≠ [])
    (env : UpdateEnv) (hwork : env.hw.Works) {F : List UInt8}
    (hF : F.length ≤ applicationFlashSize) {now : ℕ} (hnow : now + timeS2I 10 < systimeRange)
    (flash : Mem) (late : List FileReadRequest) {es : List BootEvent} :
    let s := Machine.run (ServiceNode.step can .works board registrations localNodeId)
      (.start boot i2c app) (cs.map ServiceCall.event)
    let start := BootNode.start now s.node.state.bootloaderInterface flash late
    Machine.Meets (BootNode.step env F) (BootNode.Timely env) start es →
      BootNode.Delivers env u F flash (Machine.run (BootNode.step env F) start es) := by
  intro s start hes
  obtain ⟨-, -, hfinds⟩ := services_refine laws board registrations hlocal boot hσ app hcs hrun
  simp only [hupdate, hrestart] at hfinds
  exact BootNode.boots_updated env hwork hF (hfinds.begunBy hid hserver hpath) hnow flash late hes

/-- Node id 7, then an update to the file `a` of node 5. -/
def acceptedCalls : List (ServiceCall .uavcan) := [
  .getSet (GetSet.callOf 5 ⟨nodeIdParam, some (.int 7)⟩ true (fun _ => 0) fun _ => 0),
  .beginFirmwareUpdate (beginFirmwareUpdate [97] (by decide)) 0]

theorem accepted_update_delivers_file :
    let env : UpdateEnv := ⟨.uavcan, .stm32f0, ⟨fun _ => 0⟩, fun _ => 0⟩
    let i2c := configClear .works ⟨fun _ => 0, 0, []⟩
    let s : ServiceNode Unit :=
      Machine.run (ServiceNode.step .uavcan .works ServiceNode.plainBoard [] 5)
        (.start ⟨fun _ => 0⟩ i2c ()) (acceptedCalls.map ServiceCall.event)
    BootNode.Delivers env ⟨5, [97]⟩ [1, 2, 3] (fun _ => 0xFF)
      (BootNode.start 0 s.node.state.bootloaderInterface (fun _ => 0xFF) []) := by
  intro env i2c s
  have hσ : GetSet.Represents i2c.eeprom fun _ => none := fun p => configValue_configClear p.isLt _
  have hcs : ∀ c ∈ acceptedCalls, c.WellFormed := by
    simp only [acceptedCalls, List.forall_mem_cons]
    refine ⟨trivial, ⟨by decide, by decide, by decide⟩, ?_⟩
    exact fun c hc => absurd hc List.not_mem_nil
  have hrestart : (Machine.run NodeServices.step ⟨fun _ => none, none, none⟩
      acceptedCalls).restart = some 7 := rfl
  have hes : Machine.Meets (BootNode.step env [1, 2, 3]) (BootNode.Timely env)
      (BootNode.start 0 s.node.state.bootloaderInterface (fun _ => 0xFF) []) [] := trivial
  exact accepted_update_delivers Canard.uavcan_fieldLaws ServiceNode.plainBoard [] (by decide)
    ⟨fun _ => 0⟩ hσ () hcs ⟨rfl, rfl, trivial⟩ rfl hrestart (by decide) (by decide) (by decide)
    env FlashController.stm32f0_works (by decide) (by decide) _ _ hes

end HouseBus
