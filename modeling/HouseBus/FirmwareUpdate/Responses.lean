import HouseBus.FirmwareUpdate.Session

/-!
# Which responses an update may rely on

`onFileRead` takes every FileRead response of the right size while a request is pending. It reads
neither the error field nor the source, and `file_request_pending` is set whether or not
`canardRequestOrRespond` took the request. Each section states a property of all runs, the guard on
their steps that it is equivalent to, and a run that breaks both.

- **Errors** (`reportsErrors_iff`): a success after a response with an error.
- **Sources** (`onlyServer_iff`): responses of other nodes, and where the programmed bytes come
  from (`FromAnswer`).
- **Pending requests** (`pendingBacked_iff`): a pending flag with no open request behind it.
-/

namespace HouseBus

namespace Session

open Bytes Chunks

variable {env : UpdateEnv} {s : Session} {e : UpdateEvent}

/-! ## Errors -/

/-- The updates that an event ends. -/
def ended (env : UpdateEnv) (s : Session) : UpdateEvent → List (FirmwareUpdateResult × Bool)
  | .poll _ =>
    if s.Flushes ∧ ((s.page env).ok = false ∨ s.vars.fileEof = true) then
      [(if (s.page env).ok then .doneSuccess else .errFlashFailed, s.errorAnswered)]
    else []
  | .response _ _ => []

theorem finished_step (env : UpdateEnv) (s : Session) (e : UpdateEvent) :
    (step env s e).finished = s.finished ++ ended env s e := by
  cases e with
  | response t r => simp only [step, response, ended, List.append_nil]; split <;> rfl
  | poll bcRes =>
    simp only [step, ended]
    obtain hp | ha | hf := s.asks_or_flushes
    · simp [poll_of_pending hp, Flushes, hp]
    · simp [poll_of_asks ha, ha.not_flushes]
    · by_cases hend : (s.page env).ok = false ∨ s.vars.fileEof = true
      · simp [poll_of_ends hf hend, hf, hend]
      · obtain ⟨hok, he⟩ := not_or.mp hend
        simp [poll_of_continues hf (by simpa using hok) (by simpa using he), hok, he]

/-- No update with an error among its responses ended in success. -/
def ReportsErrors (s : Session) : Prop := ∀ u ∈ s.finished, u.1 = .doneSuccess → u.2 = false

/-- The poll that finds the end of the file in the buffer finds an update without an error. -/
def EndsWithoutError (s : Session) : UpdateEvent → Prop
  | .poll _ => s.Flushes → s.vars.fileEof = true → s.errorAnswered = false
  | .response _ _ => True

theorem ended_reportsErrors (h : EndsWithoutError s e) :
    ∀ u ∈ ended env s e, u.1 = .doneSuccess → u.2 = false := by
  cases e with
  | response t r => intro u hu; cases hu
  | poll bcRes =>
    intro u hu hsucc
    simp only [ended] at hu
    split at hu
    · rename_i hend
      obtain rfl := List.mem_singleton.mp hu
      cases hok : (s.page env).ok with
      | false => simp [hok] at hsucc
      | true => exact h hend.1 (hend.2.resolve_left (by simp [hok]))
    · cases hu

/-- With a working controller the last page always gets written, so the guard is exact. -/
theorem ended_reportsErrors_iff (hinv : s.Inv) (hwork : env.hw.Works) :
    (∀ u ∈ ended env s e, u.1 = .doneSuccess → u.2 = false) ↔ EndsWithoutError s e := by
  refine ⟨fun h => ?_, ended_reportsErrors⟩
  cases e with
  | response t r => trivial
  | poll bcRes =>
    intro hf he
    have hok := (hinv.page_works hwork).1
    refine h (.doneSuccess, s.errorAnswered) ?_ rfl
    simp [ended, hf, he, hok]

/-- **Success after a failed read.** Whatever the flash does, an update whose end is found without
an error before it is reported as it should be; with a working controller no other one is. -/
theorem reportsErrors_iff (env : UpdateEnv) (buffer flash : Mem) (es : List UpdateEvent) :
    (Machine.Meets (step env) EndsWithoutError (start buffer flash) es →
        ReportsErrors (run env buffer flash es)) ∧
      (env.hw.Works → ReportsErrors (run env buffer flash es) →
        Machine.Meets (step env) EndsWithoutError (start buffer flash) es) := by
  have hhist := Machine.forall_history (finished_step env)
    (fun u => u.1 = .doneSuccess → u.2 = false) (start buffer flash) es
  have hstart : ∀ u ∈ (start buffer flash).finished, u.1 = .doneSuccess → u.2 = false := by
    intro u hu; cases hu
  constructor
  · intro h
    exact hhist.mpr ⟨hstart, h.mono fun _ _ => ended_reportsErrors⟩
  · intro hwork h
    have hiff := ((inv_step env).keepsIf EndsWithoutError).meets_congr
      (P := fun s e => ∀ u ∈ ended env s e, u.1 = .doneSuccess → u.2 = false)
      (fun s e hinv => ended_reportsErrors_iff hinv hwork) (inv_start buffer flash) es
    exact hiff.mp (hhist.mp h).2

/-- A node whose update was requested by node 5, on a working controller. -/
def serverFive : UpdateEnv where
  can := .uavcan
  hw := .stm32f0
  bootloaderInterface := (⟨fun _ => 0⟩ : BootloaderInterface).setRequestFromNodeId 5
  stack := fun _ => 0

/-- A FileRead response of node `source`. -/
def fileRead (source : UInt8) (payload : List UInt8) (h : payload.length < 2 ^ 16) :
    CanardRxTransfer :=
  ⟨source, 0, 0, payload, h, fun _ => 0⟩

/-- A file of one byte without an error. -/
theorem reportsErrors_of_one_byte :
    let es : List UpdateEvent :=
      [.poll 1, .response (fileRead 5 [0, 0, 7] (by decide)) (some 0), .poll 1]
    let s := start (fun _ => 0) fun _ => 0xFF
    ReportsErrors (Machine.run (step serverFive) s es) ∧
      Machine.Meets (step serverFive) EndsWithoutError s es := by
  have h := reportsErrors_iff serverFive (fun _ => 0) (fun _ => 0xFF)
    [.poll 1, .response (fileRead 5 [0, 0, 7] (by decide)) (some 0), .poll 1]
  have hreports := h.1 ⟨fun _ _ => rfl, trivial, fun _ _ => rfl, trivial⟩
  exact ⟨hreports, h.2 FlashController.stm32f0_works hreports⟩

/-- A request, a response with error 1 and no data, a poll: success. -/
theorem not_reportsErrors :
    ¬ ∀ env buffer flash es, ReportsErrors (run env buffer flash es) := by
  intro h
  have := h serverFive (fun _ => 0) (fun _ => 0xFF)
    [.poll 1, .response (fileRead 5 [1, 0] (by decide)) (some 0), .poll 1]
    (.doneSuccess, true) (by decide) rfl
  cases this

/-! ## Sources -/

/-- A response of another node than the one that asked for the update changes nothing. -/
def IgnoresForeign (env : UpdateEnv) (s : Session) : UpdateEvent → Prop
  | .poll _ => True
  | .response t r =>
    t.sourceNodeId ≠ env.bootloaderInterface.requestFromNodeId →
      let v := (s.response env t r).vars
      v.firmwareBuffer = s.vars.firmwareBuffer ∧ v.firmwareBufferPtr = s.vars.firmwareBufferPtr ∧
        v.fileRequestPending = s.vars.fileRequestPending ∧ v.fileEof = s.vars.fileEof

/-- A response of FileRead size that meets a pending request comes from that node. -/
def FromServer (env : UpdateEnv) (s : Session) : UpdateEvent → Prop
  | .poll _ => True
  | .response t _ =>
    Accepts s.vars t → t.sourceNodeId = env.bootloaderInterface.requestFromNodeId

/-- It also replies to the request for the offset that was asked for. -/
def AnswersRequest (env : UpdateEnv) (s : Session) : UpdateEvent → Prop
  | .poll _ => True
  | .response t r =>
    Accepts s.vars t → t.sourceNodeId = env.bootloaderInterface.requestFromNodeId ∧
      r = some s.vars.requestedOffset

/-- The byte `b` at the image offset `o` is from that node's answer to the request for it. -/
def FromAnswer (env : UpdateEnv) (s : Session) (o : ℕ) (b : UInt8) : Prop :=
  ∃ c ∈ s.chunks, c.source = env.bootloaderInterface.requestFromNodeId ∧
    c.repliesTo = some (256 * (o / 256) % 2 ^ 32) ∧ c.data[o % 256]? = some b

/-- Every byte that an event programs is from such an answer, but the one that fills up the last
half-word of an image of odd length. -/
def ProgramsAnswers (env : UpdateEnv) (s : Session) (e : UpdateEvent) : Prop :=
  ∀ op ∈ newOps env s e, ∀ b ∈ op.stores, ∃ x, b.1 = flashWriteAddress s.vars + x ∧
    (FromAnswer env s (s.written + x) b.2 ∨
      s.written + x = s.received.length ∧ s.received.length % 2 = 1)

theorem ignoresForeign_iff : IgnoresForeign env s e ↔ FromServer env s e := by
  cases e with
  | poll bcRes => exact Iff.rfl
  | response t r =>
    constructor
    · intro h hacc
      by_contra hsrc
      obtain ⟨-, -, hpending, -⟩ := h hsrc
      rw [response_of_accepts hacc, hacc.1] at hpending
      cases hpending
    · intro h hsrc
      rw [response_of_refused fun hacc => hsrc (h hacc)]
      exact ⟨rfl, rfl, rfl, rfl⟩

/-- All responses of the current update answered the request of their time. -/
def AllAnswers (env : UpdateEnv) (s : Session) : Prop :=
  ∀ c ∈ s.chunks, c.source = env.bootloaderInterface.requestFromNodeId ∧
    c.repliesTo = some c.offset

theorem chunks_poll (env : UpdateEnv) (s : Session) (bcRes : ℤ) :
    (s.poll env bcRes).chunks = s.chunks ∨ (s.poll env bcRes).chunks = [] := by
  obtain hp | ha | hf := s.asks_or_flushes
  · rw [poll_of_pending hp]; exact .inl rfl
  · rw [poll_of_asks ha]; exact .inl rfl
  · by_cases hend : (s.page env).ok = false ∨ s.vars.fileEof = true
    · rw [poll_of_ends hf hend]; exact .inr rfl
    · obtain ⟨hok, he⟩ := not_or.mp hend
      rw [poll_of_continues hf (by simpa using hok) (by simpa using he)]; exact .inl rfl

theorem allAnswers_step :
    Machine.KeepsIf (step env) (AnswersRequest env) fun s => s.Inv ∧ AllAnswers env s := by
  rintro s e he ⟨hinv, hall⟩
  refine ⟨inv_step env s e hinv, ?_⟩
  cases e with
  | poll bcRes =>
    intro c hc
    rcases chunks_poll env s bcRes with h | h
    · rw [step, h] at hc; exact hall c hc
    · rw [step, h] at hc; cases hc
  | response t r =>
    by_cases hacc : Accepts s.vars t
    · obtain ⟨hsrc, hr⟩ := he hacc
      intro c hc
      rw [step, response_of_accepts hacc] at hc
      rcases List.mem_append.mp hc with hc | hc
      · exact hall c hc
      · obtain rfl := List.mem_singleton.mp hc
        exact ⟨hsrc, hr⟩
    · rw [step, response_of_refused hacc]; exact hall

/-- A byte of the buffer is the byte of the answer it came with. -/
theorem Inv.fromAnswer (h : s.Inv) (hall : AllAnswers env s) {x : ℕ}
    (hx : x < s.vars.firmwareBufferPtr) :
    FromAnswer env s (s.written + x) (s.vars.firmwareBuffer x) := by
  have hfill := h.fill
  have hbyte : s.received[s.written + x]? = some (s.vars.firmwareBuffer x) := by
    rw [← List.getElem?_drop, ← h.buffer, List.getElem?_eq_getElem (by simpa using hx),
      getElem_read, Nat.zero_add]
  obtain ⟨d, hd, -, hdata⟩ :=
    h.fullButLast.getElem?_flatten (i := s.written + x) (by rw [← received]; omega)
  obtain ⟨c, hc, rfl⟩ : ∃ c, s.chunks[(s.written + x) / 256]? = some c ∧ c.data = d := by
    simpa [data] using hd
  obtain ⟨hsrc, hr⟩ := hall c (List.mem_of_getElem? hc)
  exact ⟨c, List.mem_of_getElem? hc, hsrc, by rw [hr, h.offsets _ c hc],
    by rw [← hdata, ← received, hbyte]⟩

/-- A byte that an event programs is a byte of the buffer, or the one behind an odd number of
them. -/
theorem Inv.mem_stores (h : s.Inv) {op : FlashOp} (hop : op ∈ newOps env s e) {b : ℕ × UInt8}
    (hb : b ∈ op.stores) :
    ∃ x < 2 * ((s.vars.firmwareBufferPtr + 1) / 2),
      b = (flashWriteAddress s.vars + x, s.vars.firmwareBuffer x) := by
  rcases h.mem_newOps hop with rfl | ⟨j, hj, rfl⟩
  · cases hb
  · simp only [FlashOp.stores, halfWord, List.mem_cons, List.not_mem_nil, or_false] at hb
    obtain rfl | rfl := hb
    · exact ⟨2 * j, by omega, rfl⟩
    · exact ⟨2 * j + 1, by omega, rfl⟩

theorem Inv.programsAnswers (h : s.Inv) (hall : AllAnswers env s) (e : UpdateEvent) :
    ProgramsAnswers env s e := by
  intro op hop b hb
  obtain ⟨x, hx, rfl⟩ := h.mem_stores hop hb
  refine ⟨x, rfl, ?_⟩
  have hfill := h.fill
  obtain ⟨k, hk⟩ := h.aligned
  by_cases hlt : x < s.vars.firmwareBufferPtr
  · exact .inl (h.fromAnswer hall hlt)
  · right
    simp only [flashPageSize] at hk
    omega

/-- **The source of the image.** Responses of other nodes change nothing exactly in the runs in
which none of FileRead size meets a pending request; if moreover each response taken replies to
the pending request, what is programmed are the server's answers. -/
theorem onlyServer_iff (env : UpdateEnv) (buffer flash : Mem) (es : List UpdateEvent) :
    (Machine.Meets (step env) (IgnoresForeign env) (start buffer flash) es ↔
        Machine.Meets (step env) (FromServer env) (start buffer flash) es) ∧
      (Machine.Meets (step env) (AnswersRequest env) (start buffer flash) es →
        Machine.Meets (step env) (ProgramsAnswers env) (start buffer flash) es) := by
  constructor
  · exact ((inv_step env).keepsIf _).meets_congr (fun s e _ => ignoresForeign_iff)
      (inv_start buffer flash) es
  · intro h
    have hstart : AllAnswers env (start buffer flash) := by intro c hc; cases hc
    exact allAnswers_step.meets (fun s e hs _ => hs.1.programsAnswers hs.2 e)
      ⟨inv_start buffer flash, hstart⟩ h

/-- A response of node 99 while the request to node 5 is pending. -/
theorem not_ignoresForeign :
    ¬ ∀ env buffer flash es,
      Machine.Meets (step env) (IgnoresForeign env) (start buffer flash) es := by
  intro h
  obtain ⟨-, hforeign, -⟩ := h serverFive (fun _ => 0) (fun _ => 0xFF)
    [.poll 1, .response (fileRead 99 [0, 0, 7] (by decide)) none]
  obtain ⟨-, hptr, -, -⟩ := hforeign (by decide)
  exact absurd hptr (by decide)

/-! ## Pending requests -/

/-- Behind a pending flag is an accepted and unanswered request for the offset asked for. -/
def PendingBacked (s : Session) : Prop :=
  s.vars.fileRequestPending = true → s.unanswered = some s.vars.requestedOffset

/-- After a refused request the next poll asks for the same offset again. -/
def KeepsRefused (env : UpdateEnv) (s : Session) : UpdateEvent → Prop
  | .poll bcRes =>
    s.Asks → bcRes ≤ 0 →
      (s.poll env bcRes).vars.fileRequestPending = s.vars.fileRequestPending ∧
        (s.poll env bcRes).vars.fileRequestPtr = s.vars.fileRequestPtr
  | .response _ _ => True

/-- libcanard accepts every request, and every reply to a pending one has FileRead size. -/
def AcceptedAndAnswered (s : Session) : UpdateEvent → Prop
  | .poll bcRes => s.Asks → 0 < bcRes
  | .response t r =>
    s.vars.fileRequestPending = true → r = s.unanswered → 2 ≤ t.payloadLen ∧ t.payloadLen ≤ 258

theorem keepsRefused_iff {bcRes : ℤ} :
    KeepsRefused env s (.poll bcRes) ↔ AcceptedAndAnswered s (.poll bcRes) := by
  constructor
  · intro h ha
    by_contra hb
    obtain ⟨hpending, -⟩ := h ha (by omega)
    rw [poll_of_asks ha, ha.1] at hpending
    cases hpending
  · intro h ha hb
    have := h ha
    omega

theorem Inv.requestedOffset_of_asks (h : s.Inv) (bcRes : ℤ) (ha : s.Asks) :
    (s.poll env bcRes).vars.requestedOffset = s.vars.fileRequestPtr := by
  have hreq := h.requestPtr
  rw [poll_of_asks ha]
  simp only [FirmwareUpdate.requestedOffset]
  omega

theorem pendingBacked_poll (hinv : s.Inv) (h : PendingBacked s) {bcRes : ℤ}
    (hacc : s.Asks → 0 < bcRes) : PendingBacked (s.poll env bcRes) := by
  obtain hp | ha | hf := s.asks_or_flushes
  · rw [poll_of_pending hp]; exact h
  · intro _
    rw [hinv.requestedOffset_of_asks bcRes ha, poll_of_asks ha]
    simp [hacc ha]
  · intro hpending
    by_cases hend : (s.page env).ok = false ∨ s.vars.fileEof = true
    · rw [poll_of_ends hf hend] at hpending
      simp [initGlobals, hf.1] at hpending
    · obtain ⟨hok, he⟩ := not_or.mp hend
      rw [poll_of_continues hf (by simpa using hok) (by simpa using he)] at hpending
      simp [hf.1] at hpending

/-- A response keeps the flag backed unless it is a reply to the request that is not taken. -/
theorem pendingBacked_response (h : PendingBacked s) (t : CanardRxTransfer) (r : Option ℕ) :
    PendingBacked (s.response env t r) ↔ AcceptedAndAnswered s (.response t r) := by
  by_cases hacc : Accepts s.vars t
  · rw [response_of_accepts hacc]
    exact ⟨fun _ _ _ => hacc.2, fun _ hpending => by cases hpending⟩
  · rw [response_of_refused hacc]
    constructor
    · intro hb hp hr
      have := hb hp
      simp [hr] at this
    · intro hg hp
      have hr : r ≠ s.unanswered := fun hr => hacc ⟨hp, hg hp hr⟩
      simp only [hr, ↓reduceIte]
      exact h hp

theorem pendingBacked_step :
    Machine.KeepsIf (step env) AcceptedAndAnswered fun s => s.Inv ∧ PendingBacked s := by
  rintro s e he ⟨hinv, h⟩
  refine ⟨inv_step env s e hinv, ?_⟩
  cases e with
  | poll bcRes => exact pendingBacked_poll hinv h he
  | response t r => exact (pendingBacked_response h t r).mpr he

/-- **A pending flag has a request behind it** exactly in the runs in which libcanard accepts
every request and every reply to a pending one has FileRead size. -/
theorem pendingBacked_iff (env : UpdateEnv) (buffer flash : Mem) (es : List UpdateEvent) :
    Machine.Meets (step env) (fun s e => PendingBacked (step env s e) ∧ KeepsRefused env s e)
        (start buffer flash) es ↔
      Machine.Meets (step env) AcceptedAndAnswered (start buffer flash) es := by
  have hstart : PendingBacked (start buffer flash) := by intro h; cases h
  refine pendingBacked_step.meets_congr ?_ ⟨inv_start buffer flash, hstart⟩ es
  rintro s e ⟨hinv, h⟩
  cases e with
  | poll bcRes =>
    exact ⟨fun hP => keepsRefused_iff.mp hP.2,
      fun hG => ⟨pendingBacked_poll hinv h hG, keepsRefused_iff.mpr hG⟩⟩
  | response t r =>
    exact (and_iff_left trivial).trans (pendingBacked_response h t r)

/-- libcanard is out of memory at the first request. -/
theorem not_pendingBacked :
    ¬ ∀ env buffer flash es, Machine.Meets (step env)
      (fun s e => PendingBacked (step env s e) ∧ KeepsRefused env s e) (start buffer flash) es := by
  intro h
  obtain ⟨⟨hbacked, -⟩, -⟩ := h serverFive (fun _ => 0) (fun _ => 0xFF) [.poll (-1)]
  cases hbacked rfl

end Session

end HouseBus
