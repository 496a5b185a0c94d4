import HouseBus.FirmwareUpdate
import HouseBus.Lib.Chunks
import HouseBus.Lib.Machine

/-!
# Runs of the firmware update

The bootloader's thread polls `processFirmwareUpdate`; between two polls the bus delivers FileRead
responses. A `Session` is the code's state together with its history: what the code did, and the
responses it took since the update began.

`Session.Inv` ties the static variables to that history: the data taken so far is the part already
handed to the flash (`written` bytes) followed by the page buffer, all responses taken are full but
a last short one that sets `file_eof`, and `file_request_ptr` counts the requests. Every event
keeps it (`inv_step`), so it holds along every run (`inv_run`).
-/

namespace HouseBus

open Bytes Chunks

/-- A response that was taken: its source, the offset requested last, the request of this node it
replies to (`none`: it replies to none), its data. -/
structure Chunk where
  source : UInt8
  offset : ℕ
  repliesTo : Option ℕ
  data : List UInt8

/-- The state of the update and its history. `chunks`, `written`, `errorAnswered` are about the
current update; `finished` lists the ended ones, each with its `errorAnswered`. -/
structure Session where
  vars : FirmwareUpdate
  flash : Mem
  indices : List ℕ
  ops : List FlashOp
  requests : List (FileReadRequest × ℤ)
  chunks : List Chunk
  written : ℕ
  /-- The offset of the last request that `canardRequestOrRespond` accepted, until it is answered:
  by the response that is taken, or by a reply to it that is not. -/
  unanswered : Option ℕ
  /-- A response with an error arrived while a request was pending. -/
  errorAnswered : Bool
  finished : List (FirmwareUpdateResult × Bool)

/-- A poll with what `canardRequestOrRespond` returns if it is called, or a FileRead response with
the offset of the request that its source answers with it. -/
inductive UpdateEvent
  | poll (bcRes : ℤ)
  | response (t : CanardRxTransfer) (repliesTo : Option ℕ)

instance (v : FirmwareUpdate) (t : CanardRxTransfer) : Decidable (Accepts v t) :=
  inferInstanceAs (Decidable (_ ∧ _ ∧ _))

/-- The offset that was requested last. -/
def FirmwareUpdate.requestedOffset (v : FirmwareUpdate) : ℕ :=
  (v.fileRequestPtr + 2 ^ 32 - 256) % 2 ^ 32

/-- A response with a non-zero error field while a request is pending. -/
def answersWithError (can : Canard) (v : FirmwareUpdate) (t : CanardRxTransfer) : Bool :=
  v.fileRequestPending && decide (∃ e ∈ errorField can t, e ≠ 0)

namespace Session

/-- One call of `processFirmwareUpdate`. -/
def poll (env : UpdateEnv) (s : Session) (bcRes : ℤ) : Session :=
  let p := processFirmwareUpdate env s.vars s.flash
  let next : Session :=
    { s with
      vars := p.vars
      flash := p.flash
      indices := s.indices ++ p.effects.indices
      ops := s.ops ++ p.effects.ops
      requests := s.requests ++ p.effects.requests.map fun r => (r, bcRes)
      unanswered :=
        match p.effects.requests with
        | r :: _ => if 0 < bcRes then some r.offset else s.unanswered
        | [] => s.unanswered }
  if p.ret = .inProgress then
    { next with written := s.written + (s.vars.firmwareBufferPtr - p.vars.firmwareBufferPtr) }
  else
    { next with
      chunks := []
      written := 0
      errorAnswered := false
      finished := s.finished ++ [(p.ret, s.errorAnswered)] }

/-- One response delivered to `onFileRead`. -/
def response (env : UpdateEnv) (s : Session) (t : CanardRxTransfer) (repliesTo : Option ℕ) :
    Session :=
  let r := onFileRead env.can t s.vars
  let next : Session :=
    { s with
      vars := r.1
      indices := s.indices ++ r.2
      unanswered := if Accepts s.vars t ∨ repliesTo = s.unanswered then none else s.unanswered
      errorAnswered := s.errorAnswered || answersWithError env.can s.vars t }
  if Accepts s.vars t then
    { next with
      chunks := s.chunks ++ [⟨t.sourceNodeId, s.vars.requestedOffset, repliesTo, t.data⟩] }
  else next

def step (env : UpdateEnv) (s : Session) : UpdateEvent → Session
  | .poll bcRes => s.poll env bcRes
  | .response t repliesTo => s.response env t repliesTo

/-- The state in which an update begins: `initGlobals` has run and no request is pending. The
buffer and the flash hold anything. -/
def start (buffer flash : Mem) : Session where
  vars :=
    { fileRequestPtr := 0
      fileRequestPending := false
      fileEof := false
      firmwareBuffer := buffer
      firmwareBufferPtr := 0
      firmwareWriteOffset := 0 }
  flash := flash
  indices := []
  ops := []
  requests := []
  chunks := []
  written := 0
  unanswered := none
  errorAnswered := false
  finished := []

/-! ## What one poll does -/

section Poll

variable {env : UpdateEnv} {s : Session} {bcRes : ℤ}

/-- The page update that a poll of `s` makes. -/
def page (env : UpdateEnv) (s : Session) : PageUpdate :=
  updatePage env.hw s.flash (flashWriteAddress s.vars) s.vars.firmwareBuffer
    (s.vars.firmwareBufferPtr % 2 ^ 16)

/-- A poll of `s` brings a page up to date. -/
def Flushes (s : Session) : Prop :=
  s.vars.fileRequestPending = false ∧
    (s.vars.fileEof = true ∨ s.vars.firmwareBufferPtr = flashPageSize)

instance (s : Session) : Decidable s.Flushes := inferInstanceAs (Decidable (_ ∧ _))

/-- A poll of `s` asks for data. -/
def Asks (s : Session) : Prop :=
  s.vars.fileRequestPending = false ∧ s.vars.fileEof = false ∧
    s.vars.firmwareBufferPtr ≠ flashPageSize

theorem Asks.not_flushes (h : s.Asks) : ¬ s.Flushes :=
  fun hf => hf.2.elim (by simp [h.2.1]) h.2.2

theorem poll_of_pending (h : s.vars.fileRequestPending = true) : s.poll env bcRes = s := by
  simp [poll, processFirmwareUpdate, h]

theorem poll_of_asks (h : s.Asks) :
    s.poll env bcRes =
      { s with
        vars :=
          { s.vars with
            fileRequestPtr := (s.vars.fileRequestPtr + 256) % 2 ^ 32
            fileRequestPending := true }
        requests := s.requests ++
          [(requestFileRead env.can env.bootloaderInterface env.stack s.vars.fileRequestPtr, bcRes)]
        unanswered := if 0 < bcRes then some s.vars.fileRequestPtr else s.unanswered } := by
  obtain ⟨hp, he, hn⟩ := h
  simp [poll, processFirmwareUpdate, hp, he, hn, requestFileRead]

/-- The end of an update. -/
theorem poll_of_ends (h : s.Flushes) (hend : (s.page env).ok = false ∨ s.vars.fileEof = true) :
    s.poll env bcRes =
      { s with
        vars := initGlobals s.vars
        flash := (s.page env).flash
        indices := s.indices ++ (s.page env).indices
        ops := s.ops ++ (s.page env).ops
        chunks := []
        written := 0
        errorAnswered := false
        finished := s.finished ++
          [(if (s.page env).ok then .doneSuccess else .errFlashFailed, s.errorAnswered)] } := by
  obtain ⟨hp, hf⟩ := h
  unfold poll processFirmwareUpdate page at *
  generalize updatePage env.hw s.flash (flashWriteAddress s.vars) s.vars.firmwareBuffer
    (s.vars.firmwareBufferPtr % 2 ^ 16) = pg at *
  cases hok : pg.ok with
  | false => simp [hp, hf, hok]
  | true =>
    have he : s.vars.fileEof = true := by simpa [hok] using hend
    simp [hp, he, hok]

/-- A full page in the middle of an update. -/
theorem poll_of_continues (h : s.Flushes) (hok : (s.page env).ok = true)
    (he : s.vars.fileEof = false) :
    s.poll env bcRes =
      { s with
        vars :=
          { s.vars with
            firmwareWriteOffset :=
              (s.vars.firmwareWriteOffset + s.vars.firmwareBufferPtr) % 2 ^ 32
            firmwareBufferPtr := 0 }
        flash := (s.page env).flash
        indices := s.indices ++ (s.page env).indices
        ops := s.ops ++ (s.page env).ops
        written := s.written + s.vars.firmwareBufferPtr } := by
  obtain ⟨hp, hf⟩ := h
  have hn : s.vars.firmwareBufferPtr = flashPageSize := by simpa [he] using hf
  unfold poll processFirmwareUpdate page at *
  generalize updatePage env.hw s.flash (flashWriteAddress s.vars) s.vars.firmwareBuffer
    (s.vars.firmwareBufferPtr % 2 ^ 16) = pg at *
  simp [hp, he, hn, hok]

theorem asks_or_flushes (s : Session) :
    s.vars.fileRequestPending = true ∨ s.Asks ∨ s.Flushes := by
  unfold Asks Flushes
  cases s.vars.fileRequestPending <;> cases s.vars.fileEof <;>
    by_cases hn : s.vars.firmwareBufferPtr = flashPageSize <;> simp [hn]

end Poll

/-! ## What one response does -/

section Response

variable {env : UpdateEnv} {s : Session} {t : CanardRxTransfer} {r : Option ℕ}

theorem response_of_accepts (h : Accepts s.vars t) :
    s.response env t r =
      { s with
        vars :=
          { s.vars with
            firmwareBuffer := write s.vars.firmwareBuffer s.vars.firmwareBufferPtr t.data
            firmwareBufferPtr := (s.vars.firmwareBufferPtr + t.data.length) % 2 ^ 32
            fileRequestPending := false
            fileEof := if t.data.length ≠ 256 then true else s.vars.fileEof }
        indices := s.indices ++ List.range' s.vars.firmwareBufferPtr t.data.length
        chunks := s.chunks ++ [⟨t.sourceNodeId, s.vars.requestedOffset, r, t.data⟩]
        unanswered := none
        errorAnswered := s.errorAnswered || answersWithError env.can s.vars t } := by
  unfold response
  rw [if_pos h, if_pos (.inl h), onFileRead_accepted h]

theorem response_of_refused (h : ¬ Accepts s.vars t) :
    s.response env t r =
      { s with
        unanswered := if r = s.unanswered then none else s.unanswered
        errorAnswered := s.errorAnswered || answersWithError env.can s.vars t } := by
  unfold response
  simp only [h, ↓reduceIte, false_or, onFileRead_refused, not_false_eq_true, List.append_nil]

end Response

variable {env : UpdateEnv} {s : Session}

/-- The flash operations of an event. -/
def newOps (env : UpdateEnv) (s : Session) : UpdateEvent → List FlashOp
  | .poll _ => if s.Flushes then (s.page env).ops else []
  | .response _ _ => []

theorem ops_step (env : UpdateEnv) (s : Session) (e : UpdateEvent) :
    (step env s e).ops = s.ops ++ newOps env s e := by
  cases e with
  | response t r => simp only [step, response, newOps, List.append_nil]; split <;> rfl
  | poll bcRes =>
    simp only [step, newOps]
    obtain hp | ha | hf := s.asks_or_flushes
    · simp [poll_of_pending hp, Flushes, hp]
    · simp [poll_of_asks ha, ha.not_flushes]
    · rw [if_pos hf]
      by_cases hend : (s.page env).ok = false ∨ s.vars.fileEof = true
      · rw [poll_of_ends hf hend]
      · obtain ⟨hok, he⟩ := not_or.mp hend
        rw [poll_of_continues hf (by simpa using hok) (by simpa using he)]

/-- An event changes no flash that its operations do not touch. -/
theorem flash_step (hwork : env.hw.Works) {x : ℕ} {e : UpdateEvent}
    (hx : ∀ op ∈ newOps env s e, ¬ op.touches x) : (step env s e).flash x = s.flash x := by
  cases e with
  | response t r => simp only [step, response]; split <;> rfl
  | poll bcRes =>
    simp only [step]
    obtain hp | ha | hf := s.asks_or_flushes
    · rw [poll_of_pending hp]
    · rw [poll_of_asks ha]
    · have hpage : (s.page env).flash x = s.flash x :=
        updatePage_untouched hwork fun op hop => hx op (by rw [newOps, if_pos hf]; exact hop)
      by_cases hend : (s.page env).ok = false ∨ s.vars.fileEof = true
      · rw [poll_of_ends hf hend]; exact hpage
      · obtain ⟨hok, he⟩ := not_or.mp hend
        rw [poll_of_continues hf (by simpa using hok) (by simpa using he)]; exact hpage

/-! ## The invariant -/

/-- The data of the responses taken, piece by piece. -/
def data (s : Session) : List (List UInt8) := s.chunks.map (·.data)

/-- The data taken since the update began. -/
def received (s : Session) : List UInt8 := s.data.flatten

/-- The static variables against the history (module doc). -/
structure Inv (s : Session) : Prop where
  fullButLast : FullButLast 256 s.data
  full : s.vars.fileEof = false → ∀ x ∈ s.data, x.length = 256
  requestPtr : s.vars.fileRequestPtr =
    256 * (s.chunks.length + s.vars.fileRequestPending.toNat) % 2 ^ 32
  offsets : ∀ k c, s.chunks[k]? = some c → c.offset = 256 * k % 2 ^ 32
  aligned : flashPageSize ∣ s.written
  fill : s.written + s.vars.firmwareBufferPtr = s.received.length
  ptr_le : s.vars.firmwareBufferPtr ≤ flashPageSize
  writeOffset : s.vars.firmwareWriteOffset = s.written % 2 ^ 32
  buffer : read s.vars.firmwareBuffer 0 s.vars.firmwareBufferPtr = s.received.drop s.written
  pending : s.vars.fileRequestPending = true →
    s.vars.fileEof = false ∧ s.vars.firmwareBufferPtr ≠ flashPageSize
  indices : ∀ i ∈ s.indices, i < flashPageSize

theorem inv_start (buffer flash : Mem) : (start buffer flash).Inv where
  fullButLast := ⟨by simp [start, data], by simp [start, data]⟩
  full := by simp [start, data]
  requestPtr := rfl
  offsets := by simp [start]
  aligned := Nat.dvd_zero _
  fill := rfl
  ptr_le := Nat.zero_le _
  writeOffset := rfl
  buffer := rfl
  pending := by simp [start]
  indices := by simp [start]

section Keeps

variable {env : UpdateEnv} {s : Session}

/-- While a request is pending the buffer has room for a full response. -/
theorem Inv.room (h : s.Inv) (hp : s.vars.fileRequestPending = true) :
    s.vars.firmwareBufferPtr + 256 ≤ flashPageSize := by
  obtain ⟨he, hn⟩ := h.pending hp
  have hlen := length_flatten (h.full he)
  obtain ⟨w, hw⟩ := h.aligned
  have hfill := h.fill
  have hle := h.ptr_le
  rw [received, hlen] at hfill
  simp only [flashPageSize] at *
  omega

/-- The page update of a poll stays in the buffer. -/
theorem Inv.page_indices (h : s.Inv) {i : ℕ} (hi : i ∈ (s.page env).indices) :
    i < flashPageSize := by
  have hi := updatePage_indices hi
  have hle := h.ptr_le
  simp only [flashPageSize] at *
  omega

theorem Inv.ptr_mod (h : s.Inv) :
    s.vars.firmwareBufferPtr % 2 ^ 16 = s.vars.firmwareBufferPtr := by
  have hle := h.ptr_le
  simp only [flashPageSize] at hle
  omega

/-- A page update begins at a page. -/
theorem Inv.flashWriteAddress_dvd (h : s.Inv) : flashPageSize ∣ flashWriteAddress s.vars := by
  obtain ⟨k, hk⟩ := h.aligned
  have hoff := h.writeOffset
  simp only [flashWriteAddress, applicationFlashBase, flashPageSize] at *
  omega

/-- With a working controller a page update succeeds. -/
theorem Inv.page_works (h : s.Inv) (hwork : env.hw.Works) :
    (s.page env).ok = true ∧
      PageUpdated s.flash (s.page env).flash (flashWriteAddress s.vars) s.vars.firmwareBuffer
        s.vars.firmwareBufferPtr := by
  rw [page, h.ptr_mod]
  exact updatePage_works hwork _ h.flashWriteAddress_dvd _ h.ptr_le

/-- The flash operations of an event work on the page behind the written part. -/
theorem Inv.mem_newOps (h : s.Inv) {e : UpdateEvent} {op : FlashOp} (hop : op ∈ newOps env s e) :
    op = .erase (flashWriteAddress s.vars) ∨
      ∃ j < (s.vars.firmwareBufferPtr + 1) / 2,
        op = .program (flashWriteAddress s.vars + 2 * j)
          (halfWord s.vars.firmwareBuffer (2 * j)) := by
  cases e with
  | response t r => cases hop
  | poll bcRes =>
    simp only [newOps] at hop
    split at hop
    · rw [page, h.ptr_mod] at hop
      exact mem_updatePage_ops hop
    · cases hop

theorem inv_poll (env : UpdateEnv) (h : s.Inv) (bcRes : ℤ) : (s.poll env bcRes).Inv := by
  have hindices : ∀ i ∈ s.indices ++ (s.page env).indices, i < flashPageSize := by
    intro i hi
    rcases List.mem_append.mp hi with hi | hi
    · exact h.indices i hi
    · exact h.page_indices hi
  obtain hp | ha | hf := s.asks_or_flushes
  · rw [poll_of_pending hp]; exact h
  · rw [poll_of_asks ha]
    obtain ⟨hp, he, hn⟩ := ha
    have hreq := h.requestPtr
    refine { h with requestPtr := ?_, pending := fun _ => ⟨he, hn⟩ }
    simp only [hp, Bool.toNat_false, Bool.toNat_true] at hreq ⊢
    omega
  · by_cases hend : (s.page env).ok = false ∨ s.vars.fileEof = true
    · rw [poll_of_ends hf hend]
      have hp := hf.1
      exact { inv_start s.vars.firmwareBuffer s.flash with
        requestPtr := by simp [initGlobals, hp]
        pending := fun hc => by simp [initGlobals, hp] at hc
        indices := hindices }
    · obtain ⟨hok, he⟩ := not_or.mp hend
      simp only [Bool.not_eq_false, Bool.not_eq_true] at hok he
      rw [poll_of_continues hf hok he]
      have hptr : s.vars.firmwareBufferPtr = flashPageSize := by simpa [he] using hf.2
      have hoff := h.writeOffset
      have hfill := h.fill
      exact { h with
        aligned := by rw [hptr]; exact Nat.dvd_add h.aligned (Nat.dvd_refl _)
        fill := hfill
        ptr_le := Nat.zero_le _
        writeOffset := by show _ % _ = (_ + _) % _; omega
        buffer := by
          show [] = List.drop (s.written + s.vars.firmwareBufferPtr) s.received
          rw [hfill, List.drop_length]
        pending := fun hc => by rw [hf.1] at hc; cases hc
        indices := hindices }

section Accepted

variable {t : CanardRxTransfer} {r : Option ℕ}

theorem data_response (ha : Accepts s.vars t) : (s.response env t r).data = s.data ++ [t.data] := by
  rw [response_of_accepts ha, data, List.map_append]
  rfl

theorem received_response (ha : Accepts s.vars t) :
    (s.response env t r).received = s.received ++ t.data := by
  rw [received, data_response ha, List.flatten_append, List.flatten_singleton]
  rfl

theorem length_data_le (ha : Accepts s.vars t) : t.data.length ≤ 256 := by
  obtain ⟨-, h2, h258⟩ := ha
  simp only [CanardRxTransfer.payloadLen, CanardRxTransfer.data, List.length_drop] at *
  omega

/-- The piece of an accepted response was requested at its place. -/
theorem Inv.offsets_snoc (h : s.Inv) (hp : s.vars.fileRequestPending = true) {new : Chunk}
    {k : ℕ} {c : Chunk} (hc : (s.chunks ++ [new])[k]? = some c)
    (hnew : new.offset = s.vars.requestedOffset) : c.offset = 256 * k % 2 ^ 32 := by
  rw [List.getElem?_append] at hc
  split at hc
  · exact h.offsets k c hc
  · obtain ⟨rfl, rfl⟩ : k = s.chunks.length ∧ new = c := by
      cases hk : k - s.chunks.length with
      | zero => rw [hk] at hc; exact ⟨by omega, by simpa using hc⟩
      | succ j => rw [hk] at hc; cases hc
    have hreq := h.requestPtr
    simp only [hp, Bool.toNat_true] at hreq
    rw [hnew]
    simp only [FirmwareUpdate.requestedOffset]
    omega

/-- The buffer behind an accepted response. -/
theorem Inv.buffer_write (h : s.Inv) (piece : List UInt8) :
    read (write s.vars.firmwareBuffer s.vars.firmwareBufferPtr piece) 0
        (s.vars.firmwareBufferPtr + piece.length) =
      (s.received ++ piece).drop s.written := by
  have hfill := h.fill
  rw [List.drop_append_of_le_length (by omega), ← h.buffer, read_add, Nat.zero_add, read_write,
    read_write_of_disjoint _ _ _ _ _ (.inl (by omega))]

theorem inv_accepted (h : s.Inv) (ha : Accepts s.vars t) : (s.response env t r).Inv := by
  have hdata : (s.response env t r).data = s.data ++ [t.data] := data_response ha
  have hreceived : (s.response env t r).received = s.received ++ t.data := received_response ha
  have hle := length_data_le ha
  have hp := ha.1
  obtain ⟨he, -⟩ := h.pending hp
  have hroom := h.room hp
  have hptr : (s.vars.firmwareBufferPtr + t.data.length) % 2 ^ 32 =
      s.vars.firmwareBufferPtr + t.data.length := by
    simp only [flashPageSize] at hroom; omega
  rw [response_of_accepts ha, hptr] at hdata hreceived ⊢
  refine
    { h with
      fullButLast := ?_, full := ?_, requestPtr := ?_, offsets := ?_, fill := ?_, ptr_le := ?_,
      buffer := ?_, pending := fun hc => (by cases hc), indices := ?_ }
  · rw [hdata]
    exact FullButLast.snoc (h.full he) hle
  · intro hne x hx
    rw [hdata, List.mem_append, List.mem_singleton] at hx
    obtain hx | rfl := hx
    · exact h.full he x hx
    · by_contra hne'
      simp [hne'] at hne
  · have hreq := h.requestPtr
    simp only [hp, Bool.toNat_true] at hreq
    simp only [List.length_append, List.length_cons, List.length_nil, Bool.toNat_false]
    rw [hreq]
  · intro k c hc
    exact h.offsets_snoc hp hc rfl
  · show s.written + (s.vars.firmwareBufferPtr + t.data.length) = _
    rw [hreceived, List.length_append, ← Nat.add_assoc, h.fill]
  · show s.vars.firmwareBufferPtr + t.data.length ≤ flashPageSize
    omega
  · rw [hreceived]
    exact h.buffer_write t.data
  · intro i hi
    rcases List.mem_append.mp hi with hi | hi
    · exact h.indices i hi
    · have := List.mem_range'_1.mp hi
      omega

end Accepted

theorem inv_response (env : UpdateEnv) (h : s.Inv) (t : CanardRxTransfer) (r : Option ℕ) :
    (s.response env t r).Inv := by
  by_cases ha : Accepts s.vars t
  · exact inv_accepted h ha
  · rw [response_of_refused ha]
    exact { h with }

/-- Every event keeps the invariant. -/
theorem inv_step (env : UpdateEnv) : Machine.Keeps (step env) Inv := by
  intro s e h
  cases e with
  | poll bcRes => exact inv_poll env h bcRes
  | response t r => exact inv_response env h t r

end Keeps

/-- The run of the events `es` from the start of an update. -/
def run (env : UpdateEnv) (buffer flash : Mem) (es : List UpdateEvent) : Session :=
  Machine.run (step env) (start buffer flash) es

/-- A run changes no flash that its operations do not touch. -/
theorem flash_run (hwork : env.hw.Works) {x : ℕ} (s : Session) (es : List UpdateEvent)
    (hx : ∀ op ∈ (Machine.run (step env) s es).ops, ¬ op.touches x) :
    (Machine.run (step env) s es).flash x = s.flash x := by
  induction es generalizing s with
  | nil => rfl
  | cons e es ih =>
    have hnew := ((Machine.forall_history (ops_step env) (fun op => ¬ op.touches x) s
      (e :: es)).mp hx).2.1
    rw [Machine.run_cons, ih _ hx, flash_step hwork hnew]

/-- The invariant holds along every run. -/
theorem inv_run (env : UpdateEnv) (buffer flash : Mem) (es : List UpdateEvent) :
    (run env buffer flash es).Inv :=
  (inv_step env).run (inv_start buffer flash) es

end Session

end HouseBus
