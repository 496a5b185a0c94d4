import HouseBus.FirmwareUpdate.Session
import HouseBus.Handover

/-!
# The update against an honest file server

The server holds an image `F` and answers each FileRead request once: with the offset `o` that it
decodes from the request's payload, error 0 and the bytes `F[o .. min(o + 256, |F|))`. The schedule
of polls and answers is arbitrary: the node may be polled any number of times while a request is
pending.

- `Running` is the loop invariant of an unfinished update: the responses taken are the first pieces
  of `F`, at most one request is open and it is the pending one, and the flash holds the `written`
  first bytes of `F`.
- Each poll and each answer keeps it or ends the update in `Done` (`running_poll`,
  `running_answer`), and lowers `remaining` unless it changes nothing.
- So a fair schedule reaches `Done` (`exists_done`), for every image that the 32-bit address space
  holds.
-/

namespace HouseBus

open Bytes Chunks

namespace Honest

/-- The server's response to the request for offset `o`. -/
def fileReadResponse (server : UInt8) (F : List UInt8) (o : ℕ) : CanardRxTransfer where
  sourceNodeId := server
  transferId := 0
  priority := 0
  payload := 0 :: 0 :: (F.drop o).take 256
  payload_len_lt := by
    have := List.length_take_le 256 (F.drop o)
    simp only [List.length_cons]
    omega
  beyond := fun _ => 0

/-- The offset that the server decodes from a request: the first 40 bits of the payload. -/
def requestOffset (r : FileReadRequest) : ℕ := leNat (r.payload.take (40 / 8))

/-- The server's response to a request. -/
def answerTo (F : List UInt8) (r : FileReadRequest) : CanardRxTransfer :=
  fileReadResponse r.destinationNodeId F (requestOffset r)

/-- The update and the requests that the server has not answered. -/
structure State where
  session : Session
  openRequests : List FileReadRequest

inductive Event
  | poll (bcRes : ℤ)
  | answer

inductive Kind
  | poll
  | answer

def Event.kind : Event → Kind
  | .poll _ => .poll
  | .answer => .answer

variable (env : UpdateEnv) (F : List UInt8)

def step (s : State) : Event → State
  | .poll bcRes =>
    let session := s.session.poll env bcRes
    let new := session.requests.drop s.session.requests.length
    ⟨session, s.openRequests ++ new.map Prod.fst⟩
  | .answer =>
    match s.openRequests with
    | [] => s
    | r :: rest => ⟨s.session.response env (answerTo F r) (some (requestOffset r)), rest⟩

def start (buffer flash : Mem) : State := ⟨Session.start buffer flash, []⟩

/-- No byte of an image of length `n` lies on the page of `x`. -/
def OffImage (n x : ℕ) : Prop :=
  ∀ j < n, x / flashPageSize ≠ (applicationFlashBase + j) / flashPageSize

/-- An unfinished update (module doc); `flash` is the flash before it. -/
structure Running (flash : Mem) (s : State) : Prop where
  inv : s.session.Inv
  unfinished : s.session.finished = []
  data : s.session.data = (List.range s.session.chunks.length).map (chunk 256 F)
  eof : s.session.vars.fileEof = true ↔ F.length / 256 < s.session.chunks.length
  count : s.session.chunks.length ≤ F.length / 256 + 1
  openRequests : s.openRequests.map requestOffset =
    if s.session.vars.fileRequestPending then [256 * s.session.chunks.length] else []
  requests : s.session.requests.map (·.1.offset) =
    (List.range (s.session.chunks.length + s.session.vars.fileRequestPending.toNat)).map (256 * ·)
  stored : read s.session.flash applicationFlashBase s.session.written = F.take s.session.written
  frame : ∀ x, OffImage s.session.written x → s.session.flash x = flash x

/-- The update ended as it should. -/
structure Done (flash : Mem) (s : State) : Prop where
  finished : s.session.finished.map Prod.fst = [.doneSuccess]
  indices : ∀ i ∈ s.session.indices, i < flashPageSize
  requests : s.session.requests.map (·.1.offset) =
    (List.range (F.length / 256 + 1)).map (256 * ·)
  stored : read s.session.flash applicationFlashBase F.length = F
  frame : ∀ x, OffImage F.length x → s.session.flash x = flash x
  vars : ∃ buffer, s.session.vars = (Session.start buffer flash).vars
  openRequests : s.openRequests = []

/-- The image fits into the 32-bit address space behind the application's base. -/
def Fits : Prop := applicationFlashBase + F.length + flashPageSize ≤ 2 ^ 32

/-- A bound for the polls and answers that an unfinished update still needs. -/
def remaining (s : State) : ℕ :=
  4 * (F.length / 256 + 1 - s.session.chunks.length) +
    (!s.session.vars.fileRequestPending).toNat +
    if s.session.vars.firmwareBufferPtr = flashPageSize then 1 else 0

variable {env F} {flash : Mem} {s : State}

/-- The server decodes the offset that the node asks for. -/
theorem requestOffset_requestFileRead (can : Canard) (b : BootloaderInterface) (stack : Mem)
    {offset : ℕ} (h : offset < 2 ^ 32) :
    requestOffset (requestFileRead can b stack offset) = offset := by
  rw [requestOffset, requestFileRead_payload, List.take_left' (length_leBytes _ _), leNat_leBytes,
    Nat.mod_eq_of_lt (Nat.lt_trans h (by decide))]

theorem running_start (buffer flash : Mem) : Running F flash (start buffer flash) where
  inv := Session.inv_start buffer flash
  unfinished := rfl
  data := rfl
  eof := by simp [start, Session.start]
  count := Nat.zero_le _
  openRequests := rfl
  requests := rfl
  stored := rfl
  frame _ _ := rfl

namespace Running

variable (h : Running F flash s)
include h

/-- The data taken is the first part of the image. -/
theorem received_eq : s.session.received = F.take (256 * s.session.chunks.length) := by
  rw [Session.received, h.data, flatten_chunks]

theorem received_eq_take :
    s.session.received = F.take (s.session.written + s.session.vars.firmwareBufferPtr) := by
  rw [h.inv.fill, h.received_eq, List.length_take, List.take_eq_take_iff]
  omega

theorem fill_le : s.session.written + s.session.vars.firmwareBufferPtr ≤ F.length := by
  rw [h.inv.fill, h.received_eq, List.length_take]
  omega

theorem flashWriteAddress_eq (hF : Fits F) :
    flashWriteAddress s.session.vars = applicationFlashBase + s.session.written := by
  have hle := h.fill_le
  have hoff := h.inv.writeOffset
  simp only [Fits, flashPageSize, flashWriteAddress, applicationFlashBase] at *
  omega

/-- The page update of a poll succeeds and brings the buffer to the flash. -/
theorem page_works (hF : Fits F) (hwork : env.hw.Works) :
    (s.session.page env).ok = true ∧
      PageUpdated s.session.flash (s.session.page env).flash
        (applicationFlashBase + s.session.written) s.session.vars.firmwareBuffer
        s.session.vars.firmwareBufferPtr := by
  rw [← h.flashWriteAddress_eq hF]
  exact h.inv.page_works hwork

/-- After the page update the flash holds the image up to the end of the buffer. -/
theorem page_stored {flash' : Mem}
    (hp : PageUpdated s.session.flash flash' (applicationFlashBase + s.session.written)
      s.session.vars.firmwareBuffer s.session.vars.firmwareBufferPtr) :
    read flash' applicationFlashBase
        (s.session.written + s.session.vars.firmwareBufferPtr) =
      F.take (s.session.written + s.session.vars.firmwareBufferPtr) := by
  obtain ⟨k, hk⟩ := h.inv.aligned
  have hold : read flash' applicationFlashBase s.session.written =
      F.take s.session.written := by
    rw [← h.stored]
    refine read_congr fun i hi => hp.frame _ ?_
    simp only [flashPageSize, applicationFlashBase] at *
    omega
  have hnew : read flash' (applicationFlashBase + s.session.written)
      s.session.vars.firmwareBufferPtr = s.session.received.drop s.session.written := by
    rw [← h.inv.buffer]
    exact read_congr fun i hi => by rw [hp.stored i hi, Nat.zero_add]
  rw [read_add, hold, hnew, h.received_eq_take]
  rw [List.drop_take, Nat.add_sub_cancel_left, List.take_add]

theorem page_frame {flash' : Mem}
    (hp : PageUpdated s.session.flash flash' (applicationFlashBase + s.session.written)
      s.session.vars.firmwareBuffer s.session.vars.firmwareBufferPtr) {x : ℕ}
    (hx : OffImage (s.session.written + s.session.vars.firmwareBufferPtr) x) :
    flash' x = flash x := by
  have hold := h.frame x fun j hj => hx j (by omega)
  by_cases h0 : s.session.vars.firmwareBufferPtr = 0
  · rw [hp.empty h0, hold]
  · rw [hp.frame x (hx s.session.written (by omega)), hold]

/-- The offset of the next request, as long as the image goes on. -/
theorem requestPtr_eq (hF : Fits F) (hp : s.session.vars.fileRequestPending = false)
    (he : s.session.vars.fileEof = false) :
    s.session.vars.fileRequestPtr = 256 * s.session.chunks.length := by
  have hreq := h.inv.requestPtr
  have hk : ¬ F.length / 256 < s.session.chunks.length := by
    rw [← h.eof, he]; decide
  simp only [hp, Bool.toNat_false, Fits, applicationFlashBase, flashPageSize] at *
  omega

end Running

/-- Without a pending request none is open, and those so far were answered. -/
theorem Running.nothing_open (h : Running F flash s)
    (hp : s.session.vars.fileRequestPending = false) :
    s.openRequests = [] ∧ s.session.requests.map (·.1.offset) =
      (List.range s.session.chunks.length).map (256 * ·) := by
  have hopen := h.openRequests
  have hreqs := h.requests
  simp only [hp, Bool.toNat_false, Bool.false_eq_true, ↓reduceIte, Nat.add_zero] at hopen hreqs
  exact ⟨List.map_eq_nil_iff.mp hopen, hreqs⟩

/-- A pending request is the open one. -/
theorem Running.pending_open (h : Running F flash s)
    (hp : s.session.vars.fileRequestPending = true) :
    ∃ r, s.openRequests = [r] ∧ requestOffset r = 256 * s.session.chunks.length := by
  have hopen := h.openRequests
  rw [hp, if_pos rfl, List.map_eq_singleton_iff] at hopen
  exact hopen

/-- A poll that asks for the next piece. -/
theorem Running.poll_asks (h : Running F flash s) (hF : Fits F) (ha : s.session.Asks) (bcRes : ℤ) :
    Running F flash (step env F s (.poll bcRes)) ∧
      remaining F (step env F s (.poll bcRes)) < remaining F s := by
  have hinv := Session.inv_poll env h.inv bcRes
  have hsess : s.session.poll env bcRes = _ := Session.poll_of_asks ha
  obtain ⟨hp, he, hn⟩ := ha
  have hptr := h.requestPtr_eq hF hp he
  have hlt : 256 * s.session.chunks.length < 2 ^ 32 := by
    rw [← hptr, h.inv.requestPtr]
    exact Nat.mod_lt _ (by decide)
  have hoffset := requestOffset_requestFileRead env.can env.bootloaderInterface env.stack hlt
  obtain ⟨hopen, hreqs⟩ := h.nothing_open hp
  rw [hsess] at hinv
  simp only [step, hsess]
  refine ⟨{ h with inv := hinv, openRequests := ?_, requests := ?_ }, ?_⟩
  · simp only [hopen, List.drop_left, List.map_cons, List.map_nil, List.nil_append, hoffset, hptr,
      ↓reduceIte]
  · simp only [List.map_append, hreqs, List.map_cons, List.map_nil, requestFileRead, hptr,
      Bool.toNat_true, List.range_succ]
  · simp [remaining, hp, hn]

/-- A poll that brings the last page to the flash. -/
theorem Running.poll_ends (h : Running F flash s) (hF : Fits F) (hwork : env.hw.Works)
    (hf : s.session.Flushes) (he : s.session.vars.fileEof = true) (bcRes : ℤ) :
    Done F flash (step env F s (.poll bcRes)) := by
  have hinv := Session.inv_poll env h.inv bcRes
  have hsess : s.session.poll env bcRes = _ := Session.poll_of_ends hf (.inr he)
  obtain ⟨hok, hpage⟩ := h.page_works hF hwork
  obtain ⟨hopen, hreqs⟩ := h.nothing_open hf.1
  have hk : s.session.chunks.length = F.length / 256 + 1 := by
    have := h.eof.mp he
    have := h.count
    omega
  have hall : s.session.written + s.session.vars.firmwareBufferPtr = F.length := by
    rw [h.inv.fill, h.received_eq, List.length_take]
    omega
  have hstored := h.page_stored hpage
  rw [hall, List.take_length] at hstored
  rw [hsess] at hinv
  simp only [step, hsess]
  exact
    { finished := by simp [h.unfinished, hok]
      indices := hinv.indices
      requests := by rw [hreqs, hk]
      stored := hstored
      frame := fun x hx => h.page_frame hpage (by rw [hall]; exact hx)
      vars := ⟨s.session.vars.firmwareBuffer, by simp [initGlobals, Session.start, hf.1]⟩
      openRequests := by simp [hopen] }

/-- A poll that brings a full page to the flash. -/
theorem Running.poll_continues (h : Running F flash s) (hF : Fits F) (hwork : env.hw.Works)
    (hf : s.session.Flushes) (he : s.session.vars.fileEof = false) (bcRes : ℤ) :
    Running F flash (step env F s (.poll bcRes)) ∧
      remaining F (step env F s (.poll bcRes)) < remaining F s := by
  have hinv := Session.inv_poll env h.inv bcRes
  obtain ⟨hok, hpage⟩ := h.page_works hF hwork
  have hsess : s.session.poll env bcRes = _ := Session.poll_of_continues hf hok he
  have hp := hf.1
  obtain ⟨hopen, hreqs⟩ := h.nothing_open hp
  have hn : s.session.vars.firmwareBufferPtr = flashPageSize := by simpa [he] using hf.2
  rw [hsess] at hinv
  simp only [step, hsess]
  refine ⟨{ h with
    inv := hinv
    openRequests := by simp [hopen, hp]
    requests := by simp [hreqs, hp]
    stored := h.page_stored hpage
    frame := fun x hx => h.page_frame hpage hx }, ?_⟩
  simp [remaining, hn, flashPageSize]

/-- A poll of a running update: nothing while a request is pending; else a request or a full page,
or the end. -/
theorem running_poll (h : Running F flash s) (hF : Fits F) (hwork : env.hw.Works) (bcRes : ℤ) :
    (s.session.vars.fileRequestPending = true ∧ step env F s (.poll bcRes) = s) ∨
      (s.session.vars.fileRequestPending = false ∧
        Running F flash (step env F s (.poll bcRes)) ∧
        remaining F (step env F s (.poll bcRes)) < remaining F s) ∨
      (s.session.vars.fileRequestPending = false ∧
        Done F flash (step env F s (.poll bcRes))) := by
  obtain hp | ha | hf := s.session.asks_or_flushes
  · exact .inl ⟨hp, by simp [step, Session.poll_of_pending hp]⟩
  · exact .inr (.inl ⟨ha.1, h.poll_asks hF ha bcRes⟩)
  · cases he : s.session.vars.fileEof with
    | true => exact .inr (.inr ⟨hf.1, h.poll_ends hF hwork hf he bcRes⟩)
    | false => exact .inr (.inl ⟨hf.1, h.poll_continues hF hwork hf he bcRes⟩)

/-- The answer that a running update waits for is taken. -/
theorem Running.answer (env : UpdateEnv) (h : Running F flash s)
    (hp : s.session.vars.fileRequestPending = true) :
    let o := 256 * s.session.chunks.length
    ∃ server, Accepts s.session.vars (fileReadResponse server F o) ∧
      step env F s .answer =
        ⟨s.session.response env (fileReadResponse server F o) (some o), []⟩ := by
  intro o
  obtain ⟨r, hopen, hr⟩ := h.pending_open hp
  have hlen := List.length_take_le 256 (F.drop o)
  refine ⟨r.destinationNodeId, ⟨hp, ?_, ?_⟩, by simp only [step, hopen, answerTo, hr, o]⟩ <;>
    simp only [CanardRxTransfer.payloadLen, fileReadResponse, List.length_cons] <;> omega

/-- An answer to a running update: nothing if no request is open, else the next piece. -/
theorem running_answer (env : UpdateEnv) (h : Running F flash s) :
    (s.session.vars.fileRequestPending = false ∧ step env F s .answer = s) ∨
      (s.session.vars.fileRequestPending = true ∧ Running F flash (step env F s .answer) ∧
        remaining F (step env F s .answer) < remaining F s) := by
  cases hp : s.session.vars.fileRequestPending with
  | false =>
    left
    exact ⟨rfl, by simp only [step, (h.nothing_open hp).1]⟩
  | true =>
    right
    obtain ⟨server, hacc, hstep⟩ := h.answer env hp
    generalize hk : s.session.chunks.length = k at *
    generalize ht : fileReadResponse server F (256 * k) = t at hacc hstep
    have hdata : t.data = chunk 256 F k := by rw [← ht]; rfl
    have he := (h.inv.pending hp).1
    have hkF : ¬ F.length / 256 < k := by rw [← hk, ← h.eof, he]; decide
    have hinv := Session.inv_response env h.inv t (some (256 * k))
    have hreqs := h.requests
    simp only [hp, hk, Bool.toNat_true] at hreqs
    rw [hstep]
    rw [Session.response_of_accepts hacc] at hinv ⊢
    refine ⟨rfl, { h with
      inv := hinv
      data := ?_, eof := ?_, count := ?_, openRequests := rfl, requests := ?_ }, ?_⟩
    · have hd := h.data
      simp only [Session.data] at hd ⊢
      simp only [List.map_append, hd, List.map_cons, List.map_nil, List.length_append, hk,
        List.length_cons, List.length_nil, List.range_succ, hdata, Nat.zero_add]
    · have hlt := length_chunk_lt_iff (c := 256) (by decide) (l := F) (k := k)
      have hle := length_chunk_le 256 F k
      simp only [List.length_append, List.length_cons, List.length_nil, hk, hdata, he]
      split
      · simp only [true_iff]; omega
      · simp only [Bool.false_eq_true, false_iff]; omega
    · simp only [List.length_append, List.length_cons, List.length_nil, hk]; omega
    · simp only [List.length_append, List.length_cons, List.length_nil, hk, Bool.toNat_false]
      exact hreqs
    · simp only [remaining, List.length_append, List.length_cons, List.length_nil, hk, hp,
        Bool.not_false, Bool.not_true, Bool.toNat_false, Bool.toNat_true]
      split <;> omega

/-- The update runs through the states of a run with some polls and responses. -/
theorem exists_run (env : UpdateEnv) (F : List UInt8) (buffer flash : Mem) (f : ℕ → Event)
    (n : ℕ) :
    ∃ es, (Machine.along (step env F) (start buffer flash) f n).session =
      Session.run env buffer flash es := by
  induction n with
  | zero => exact ⟨[], rfl⟩
  | succ n ih =>
    obtain ⟨es, hes⟩ := ih
    have hsnoc : ∀ e, ∃ es', Session.step env (Session.run env buffer flash es) e =
        Session.run env buffer flash es' := fun e => ⟨es ++ [e], (Machine.run_snoc _ _ _ _).symm⟩
    rw [Machine.along]
    generalize Machine.along (step env F) (start buffer flash) f n = s at hes ⊢
    cases f n with
    | poll bcRes => rw [← hes] at hsnoc; exact hsnoc (.poll bcRes)
    | answer =>
      simp only [step]
      split
      · exact ⟨es, hes⟩
      · rw [← hes] at hsnoc; exact hsnoc (.response _ _)

/-! ## The whole update -/

/-- The measure that every effective event lowers. -/
def measure (F : List UInt8) (s : State) : ℕ :=
  if s.session.finished = [] then remaining F s + 1 else 0

theorem Running.measure_eq (h : Running F flash s) : measure F s = remaining F s + 1 :=
  if_pos h.unfinished

theorem Done.measure_eq (h : Done F flash s) : measure F s = 0 := by
  refine if_neg fun hnil => ?_
  have := h.finished
  rw [hnil] at this
  cases this

/-- Every event keeps the update running with a lower measure, ends it, or changes nothing. -/
theorem running_step (env : UpdateEnv) (h : Running F flash s) (hF : Fits F)
    (hwork : env.hw.Works) (e : Event) :
    step env F s e = s ∨
      (Running F flash (step env F s e) ∨ Done F flash (step env F s e)) ∧
        measure F (step env F s e) < measure F s := by
  rw [h.measure_eq]
  cases e with
  | poll bcRes =>
    rcases running_poll h hF hwork bcRes with ⟨-, he⟩ | ⟨-, hr, hlt⟩ | ⟨-, hd⟩
    · exact .inl he
    · exact .inr ⟨.inl hr, by rw [hr.measure_eq]; omega⟩
    · exact .inr ⟨.inr hd, by rw [hd.measure_eq]; omega⟩
  | answer =>
    rcases running_answer env h with ⟨-, he⟩ | ⟨-, hr, hlt⟩
    · exact .inl he
    · exact .inr ⟨.inl hr, by rw [hr.measure_eq]; omega⟩

/-- The event that a running update waits for: an answer while a request is pending, else a
poll. -/
theorem running_helps (h : Running F flash s) (hF : Fits F) (hwork : env.hw.Works) :
    ∃ k, ∀ e : Event, e.kind = k → measure F (step env F s e) < measure F s := by
  rw [h.measure_eq]
  cases hp : s.session.vars.fileRequestPending with
  | false =>
    refine ⟨.poll, fun e he => ?_⟩
    cases e with
    | answer => cases he
    | poll bcRes =>
      rcases running_poll h hF hwork bcRes with ⟨hc, -⟩ | ⟨-, hr, hlt⟩ | ⟨-, hd⟩
      · rw [hp] at hc; cases hc
      · rw [hr.measure_eq]; omega
      · rw [hd.measure_eq]; omega
  | true =>
    refine ⟨.answer, fun e he => ?_⟩
    cases e with
    | poll bcRes => cases he
    | answer =>
      rcases running_answer env h with ⟨hc, -⟩ | ⟨-, hr, hlt⟩
      · rw [hp] at hc; cases hc
      · rw [hr.measure_eq]; omega

theorem progress (env : UpdateEnv) (hF : Fits F) (hwork : env.hw.Works) (flash : Mem) :
    Machine.Progress (step env F) Event.kind (fun s => Running F flash s ∨ Done F flash s)
      (measure F) (Done F flash) where
  keeps s e h hd := by
    have hr := h.resolve_right hd
    rcases running_step env hr hF hwork e with he | ⟨hk, -⟩
    · rw [he]; exact h
    · exact hk
  idle s e h hd := by
    rcases running_step env (h.resolve_right hd) hF hwork e with he | ⟨-, hlt⟩
    · exact .inl he
    · exact .inr hlt
  helps s h hd := running_helps (h.resolve_right hd) hF hwork

/-- A fair schedule ends the update: it runs up to the first end and is done there. -/
theorem exists_done (env : UpdateEnv) (hF : Fits F) (hwork : env.hw.Works) (buffer flash : Mem)
    {f : ℕ → Event} (hf : Machine.Fair Event.kind f) :
    ∃ n, Done F flash (Machine.along (step env F) (start buffer flash) f n) ∧
      ∀ m < n, Running F flash (Machine.along (step env F) (start buffer flash) f m) := by
  have hprog := progress env hF hwork flash
  have hstart : Running F flash (start buffer flash) ∨ Done F flash (start buffer flash) :=
    .inl (running_start buffer flash)
  obtain ⟨n, hn, hmin⟩ := hprog.first hstart hf
  exact ⟨n, hn, fun m hm =>
    (hprog.until hstart f hmin (Nat.le_of_lt hm)).resolve_right (hmin m hm)⟩

/-- **An honest server's image is installed.** For every image of at most the application's size,
every content of flash and page buffer and every fair schedule of polls and answers there is a
first end of the update. Up to it the page buffer is indexed inside its 2048 bytes. At it the
offsets `0, 256, …, 256 * (|F| / 256)` have been requested, the result is
`FIRMWARE_UPDATE_DONE_SUCCESS`, the flash holds `F` at the application's base, every page without a
byte of `F` is as before, and the control variables have their initial values. -/
theorem honest_update (env : UpdateEnv) (hwork : env.hw.Works) (F : List UInt8)
    (hF : F.length ≤ applicationFlashSize) (buffer flash : Mem) (f : ℕ → Event)
    (hf : Machine.Fair Event.kind f) :
    ∃ n,
      let run := Machine.along (step env F) (start buffer flash) f
      (∀ m < n, (run m).session.finished = []) ∧
      (∀ m ≤ n, ∀ i ∈ (run m).session.indices, i < flashPageSize) ∧
      (run n).session.finished.map Prod.fst = [.doneSuccess] ∧
      (run n).session.requests.map (·.1.offset) = (List.range (F.length / 256 + 1)).map (256 * ·) ∧
      read (run n).session.flash applicationFlashBase F.length = F ∧
      (∀ x, OffImage F.length x → (run n).session.flash x = flash x) ∧
      (∃ buffer', (run n).session.vars = (start buffer' flash).session.vars) ∧
      (run n).openRequests = [] := by
  have hfits : Fits F := by
    simp only [Fits, applicationFlashBase, applicationFlashSize, flashPageSize] at *; omega
  obtain ⟨n, hd, hr⟩ := exists_done env hfits hwork buffer flash hf
  refine ⟨n, fun m hm => (hr m hm).unfinished, fun m hm i hi => ?_, hd.finished, hd.requests,
    hd.stored, hd.frame, hd.vars, hd.openRequests⟩
  rcases Nat.lt_or_ge m n with hlt | hge
  · exact (hr m hlt).inv.indices i hi
  · obtain rfl : m = n := by omega
    exact hd.indices i hi

/-- Polls and answers in turn. -/
def inTurn (n : ℕ) : Event := if n % 2 = 0 then .poll 1 else .answer

theorem inTurn_fair : Machine.Fair Event.kind inTurn := by
  intro k n
  cases k with
  | poll => exact ⟨2 * n, by omega, by simp [inTurn, Event.kind]⟩
  | answer => exact ⟨2 * n + 1, by omega, by simp [inTurn, Event.kind, Nat.add_mod]⟩

/-- An image of three bytes on erased flash. -/
theorem honest_update_three_bytes :
    let env : UpdateEnv := ⟨.uavcan, .stm32f0, ⟨fun _ => 0⟩, fun _ => 0⟩
    let run := Machine.along (step env [1, 2, 3]) (start (fun _ => 0) fun _ => 0xFF) inTurn
    ∃ n, (run n).session.finished.map Prod.fst = [.doneSuccess] ∧
      read (run n).session.flash applicationFlashBase 3 = [1, 2, 3] := by
  obtain ⟨n, -, -, hdone, -, hflash, -⟩ :=
    honest_update ⟨.uavcan, .stm32f0, ⟨fun _ => 0⟩, fun _ => 0⟩ FlashController.stm32f0_works
      [1, 2, 3] (by decide) (fun _ => 0) (fun _ => 0xFF) inTurn inTurn_fair
  exact ⟨n, hdone, hflash⟩

end Honest

end HouseBus
