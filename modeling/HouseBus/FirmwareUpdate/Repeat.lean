import HouseBus.FirmwareUpdate.Honest

/-!
# The same update twice

After a reset the page buffer is zero, and from there it depends on the image and the number of
responses taken alone (`bufferAfter`). For an image of odd length compare and write take one byte
more than the last part, and that byte of the buffer is the same in every update with this image.
So a first update leaves the flash as the second one compares it (`Installed`), and the second one
finds every page as it should be.
-/

namespace HouseBus

open Bytes Chunks

/-- The compare behind a page update that succeeded. -/
theorem updatePage_verifies {hw : FlashController} {flash : Mem} {adr : ℕ} {data : Mem} {len : ℕ}
    (h : (updatePage hw flash adr data len).ok = true) :
    ∀ i < 2 * ((len + 1) / 2), (updatePage hw flash adr data len).flash (adr + i) = data i := by
  rw [← flashVerifyBlock_iff]
  obtain ⟨hv, hpage⟩ | ⟨-, -, -, hok⟩ := updatePage_cases hw flash adr data len
  · rw [hpage]
    exact hv
  · exact hok.symm.trans h

namespace Honest

/-- The page buffer after the first `k` pieces of the image, from zeros. -/
def bufferAfter (F : List UInt8) : ℕ → Mem
  | 0 => fun _ => 0
  | k + 1 => write (bufferAfter F k) (256 * k % flashPageSize) (chunk 256 F k)

/-- The flash after an update: the image, and for an odd length the byte of the page buffer behind
the last part. -/
structure Installed (F : List UInt8) (flash : Mem) : Prop where
  stored : read flash applicationFlashBase F.length = F
  stale : F.length % 2 = 1 → flash (applicationFlashBase + F.length) =
    bufferAfter F (F.length / 256 + 1) (F.length % flashPageSize)

/-- An unfinished update whose page buffer was zero. -/
structure Tracked (F : List UInt8) (flash : Mem) (s : State) : Prop where
  running : Running F flash s
  buffer : s.session.vars.firmwareBuffer = bufferAfter F s.session.chunks.length

variable {env : UpdateEnv} {F : List UInt8} {flash : Mem} {s : State}

theorem tracked_start (F : List UInt8) (flash : Mem) : Tracked F flash (start (fun _ => 0) flash) :=
  ⟨running_start _ _, rfl⟩

/-- The place of the next piece in the buffer. -/
theorem Running.ptr_of_pending (h : Running F flash s)
    (hp : s.session.vars.fileRequestPending = true) :
    s.session.vars.firmwareBufferPtr = 256 * s.session.chunks.length % flashPageSize := by
  obtain ⟨he, hn⟩ := h.inv.pending hp
  have hfill := h.inv.fill
  have hle := h.inv.ptr_le
  obtain ⟨w, hw⟩ := h.inv.aligned
  have hgoes : ¬ F.length / 256 < s.session.chunks.length := by
    rw [← h.eof, he]
    decide
  rw [h.received_eq, List.length_take] at hfill
  simp only [flashPageSize] at *
  omega

/-- With `file_eof` the whole image has been taken. -/
theorem Running.received_of_eof (h : Running F flash s) (he : s.session.vars.fileEof = true) :
    s.session.written + s.session.vars.firmwareBufferPtr = F.length := by
  have hend := h.eof.mp he
  rw [h.inv.fill, h.received_eq, List.length_take]
  omega

/-- A part of odd length is the last one. -/
theorem Running.last_of_odd (h : Running F flash s) (hf : s.session.Flushes)
    (hodd : s.session.vars.firmwareBufferPtr % 2 = 1) :
    s.session.chunks.length = F.length / 256 + 1 ∧
      s.session.written + s.session.vars.firmwareBufferPtr = F.length ∧
      s.session.vars.firmwareBufferPtr = F.length % flashPageSize := by
  have hne : s.session.vars.firmwareBufferPtr ≠ flashPageSize := by
    intro heq
    rw [heq] at hodd
    exact absurd hodd (by decide)
  have he : s.session.vars.fileEof = true := hf.2.resolve_right hne
  have hend := h.eof.mp he
  have hall := h.received_of_eof he
  have hle := h.inv.ptr_le
  have hcount := h.count
  obtain ⟨w, hw⟩ := h.inv.aligned
  simp only [flashPageSize] at *
  omega

/-- While the update goes on, the buffer is that of the pieces taken. -/
theorem Tracked.step (h : Tracked F flash s) {e : Event} (hr : Running F flash (step env F s e)) :
    Tracked F flash (step env F s e) := by
  refine ⟨hr, ?_⟩
  cases e with
  | poll bcRes =>
    have hunfinished := hr.unfinished
    simp only [Honest.step] at hunfinished ⊢
    obtain hp | ha | hf := s.session.asks_or_flushes
    · rw [Session.poll_of_pending hp]
      exact h.buffer
    · rw [Session.poll_of_asks ha]
      exact h.buffer
    · by_cases hend : (s.session.page env).ok = false ∨ s.session.vars.fileEof = true
      · rw [Session.poll_of_ends hf hend] at hunfinished
        exact absurd hunfinished (List.append_ne_nil_of_right_ne_nil _ (List.cons_ne_nil _ _))
      · obtain ⟨hok, he⟩ := not_or.mp hend
        rw [Session.poll_of_continues hf (by simpa using hok) (by simpa using he)]
        exact h.buffer
  | answer =>
    cases hp : s.session.vars.fileRequestPending with
    | false =>
      simp only [Honest.step, (h.running.nothing_open hp).1]
      exact h.buffer
    | true =>
      obtain ⟨server, hacc, hstep⟩ := h.running.answer env hp
      rw [hstep, Session.response_of_accepts hacc]
      show write _ _ _ = bufferAfter F (s.session.chunks ++ [_]).length
      rw [List.length_append, h.buffer, h.running.ptr_of_pending hp]
      rfl

/-! ## The first update -/

/-- An update ends in a page update that succeeds. -/
theorem Running.ends (h : Running F flash s) {e : Event} (hd : Done F flash (step env F s e)) :
    s.session.Flushes ∧ s.session.vars.fileEof = true ∧ (s.session.page env).ok = true ∧
      (step env F s e).session.flash = (s.session.page env).flash := by
  have hfinished := hd.finished
  have hunfinished := h.unfinished
  cases e with
  | poll bcRes =>
    simp only [Honest.step] at hfinished ⊢
    obtain hp | ha | hf := s.session.asks_or_flushes
    · rw [Session.poll_of_pending hp, hunfinished] at hfinished
      cases hfinished
    · rw [Session.poll_of_asks ha] at hfinished
      simp only [hunfinished] at hfinished
      cases hfinished
    · by_cases hend : (s.session.page env).ok = false ∨ s.session.vars.fileEof = true
      · rw [Session.poll_of_ends hf hend] at hfinished ⊢
        cases hok : (s.session.page env).ok with
        | true => exact ⟨hf, hend.resolve_left (by simp [hok]), rfl, rfl⟩
        | false =>
          simp only [hunfinished, hok] at hfinished
          cases hfinished
      · obtain ⟨hok, he⟩ := not_or.mp hend
        rw [Session.poll_of_continues hf (by simpa using hok) (by simpa using he)] at hfinished
        simp only [hunfinished] at hfinished
        cases hfinished
  | answer =>
    obtain ⟨-, hidle⟩ | ⟨-, hr, -⟩ := running_answer env h
    · rw [hidle, hunfinished] at hfinished
      cases hfinished
    · rw [hr.unfinished] at hfinished
      cases hfinished

/-- What the first update leaves. -/
theorem Tracked.installed (h : Tracked F flash s) (hF : Fits F) {e : Event}
    (hd : Done F flash (Honest.step env F s e)) :
    Installed F (Honest.step env F s e).session.flash := by
  refine ⟨hd.stored, fun hodd => ?_⟩
  obtain ⟨hf, he, hok, hflash⟩ := h.running.ends hd
  have hall := h.running.received_of_eof he
  obtain ⟨w, hw⟩ := h.running.inv.aligned
  have hodd' : s.session.vars.firmwareBufferPtr % 2 = 1 := by
    simp only [flashPageSize] at hw
    omega
  obtain ⟨hlast, -, hptr⟩ := h.running.last_of_odd hf hodd'
  have hverifies := updatePage_verifies hok s.session.vars.firmwareBufferPtr
  rw [h.running.inv.ptr_mod, h.running.flashWriteAddress_eq hF, Nat.add_assoc, hall] at hverifies
  rw [hflash, ← hlast, ← hptr, ← h.buffer, Session.page, h.running.inv.ptr_mod,
    h.running.flashWriteAddress_eq hF]
  exact hverifies (by omega)

/-! ## The second update -/

/-- Nothing has been erased or programmed. -/
structure Untouched (flash : Mem) (s : State) : Prop where
  flash_eq : s.session.flash = flash
  ops : s.session.ops = []

/-- Every part is in the flash as the compare reads it. -/
theorem Tracked.verifies (h : Tracked F flash s) (hF : Fits F) (hi : Installed F flash)
    (hf : s.session.Flushes) :
    flashVerifyBlock flash (flashWriteAddress s.session.vars) s.session.vars.firmwareBuffer
      (s.session.vars.firmwareBufferPtr % 2 ^ 16) = true := by
  have hr := h.running
  rw [hr.inv.ptr_mod, hr.flashWriteAddress_eq hF, flashVerifyBlock_iff]
  intro i hi'
  by_cases hin : i < s.session.vars.firmwareBufferPtr
  · -- A byte of the image.
    have hstored : read flash applicationFlashBase
        (s.session.written + s.session.vars.firmwareBufferPtr) =
          F.take (s.session.written + s.session.vars.firmwareBufferPtr) := by
      rw [← take_read _ _ _ _ hr.fill_le, hi.stored]
    have hpart := congrArg (List.drop s.session.written) hstored
    rw [read_add, List.drop_left' (length_read _ _ _), ← hr.received_eq_take, ← hr.inv.buffer]
      at hpart
    have hbyte := eq_of_read_eq hpart hin
    rwa [Nat.zero_add] at hbyte
  · -- The byte of the buffer behind the last part.
    obtain ⟨hlast, hend, hptr⟩ := hr.last_of_odd hf (by omega)
    obtain rfl : i = s.session.vars.firmwareBufferPtr := by omega
    obtain ⟨w, hw⟩ := hr.inv.aligned
    have hodd : F.length % 2 = 1 := by
      simp only [flashPageSize] at hw
      omega
    rw [Nat.add_assoc, hend, hi.stale hodd, h.buffer, hlast, hptr]

theorem Untouched.step (hu : Untouched flash s) (h : Tracked F flash s) (hF : Fits F)
    (hi : Installed F flash) (e : Event) : Untouched flash (Honest.step env F s e) := by
  cases e with
  | poll bcRes =>
    simp only [Honest.step]
    obtain hp | ha | hf := s.session.asks_or_flushes
    · rw [Session.poll_of_pending hp]
      exact ⟨hu.flash_eq, hu.ops⟩
    · rw [Session.poll_of_asks ha]
      exact ⟨hu.flash_eq, hu.ops⟩
    · have hpage : s.session.page env = ⟨true, flash, [], verifyReads flash
          (flashWriteAddress s.session.vars) s.session.vars.firmwareBuffer
          (s.session.vars.firmwareBufferPtr % 2 ^ 16)⟩ := by
        rw [Session.page, updatePage, hu.flash_eq, if_pos (h.verifies hF hi hf)]
      by_cases hend : (s.session.page env).ok = false ∨ s.session.vars.fileEof = true
      · rw [Session.poll_of_ends hf hend, hpage]
        exact ⟨rfl, by simp only [hu.ops, List.append_nil]⟩
      · obtain ⟨hok, he⟩ := not_or.mp hend
        rw [Session.poll_of_continues hf (by simpa using hok) (by simpa using he), hpage]
        exact ⟨rfl, by simp only [hu.ops, List.append_nil]⟩
  | answer =>
    cases hp : s.session.vars.fileRequestPending with
    | false =>
      simp only [Honest.step, (h.running.nothing_open hp).1]
      exact hu
    | true =>
      obtain ⟨server, hacc, hstep⟩ := h.running.answer env hp
      rw [hstep, Session.response_of_accepts hacc]
      exact ⟨hu.flash_eq, hu.ops⟩

/-! ## Both -/

/-- Up to its end an update from zeros is tracked. -/
theorem tracked_along (env : UpdateEnv) (F : List UInt8) (flash : Mem) (f : ℕ → Event) {n : ℕ}
    (hr : ∀ m < n, Running F flash (Machine.along (step env F) (start (fun _ => 0) flash) f m))
    {m : ℕ} (hm : m < n) :
    Tracked F flash (Machine.along (step env F) (start (fun _ => 0) flash) f m) := by
  induction m with
  | zero => exact tracked_start F flash
  | succ m ih => exact (ih (Nat.lt_of_succ_lt hm)).step (hr (m + 1) hm)

/-- An update that is done has had a last step. -/
theorem Done.pos {f : ℕ → Event} {buffer : Mem} {n : ℕ}
    (hd : Done F flash (Machine.along (step env F) (start buffer flash) f n)) :
    ∃ m, n = m + 1 := by
  cases n with
  | zero =>
    have hfinished := hd.finished
    cases hfinished
  | succ m => exact ⟨m, rfl⟩

/-- **The same update twice**: for every image of at most the application's size, every flash and
all fair schedules of polls and answers, an update from reset ends with success, and so does a
second one with the same image from the next reset; at its end nothing has been erased or
programmed, and the flash is as the first one left it. -/
theorem repeated_update (env : UpdateEnv) (hwork : env.hw.Works) (F : List UInt8)
    (hF : F.length ≤ applicationFlashSize) (flash : Mem) (f g : ℕ → Event)
    (hf : Machine.Fair Event.kind f) (hg : Machine.Fair Event.kind g) :
    ∃ n m,
      let first := Machine.along (step env F) (start (fun _ => 0) flash) f
      let second := Machine.along (step env F) (start (fun _ => 0) (first n).session.flash) g
      (∀ k < n, (first k).session.finished = []) ∧
      (first n).session.finished.map Prod.fst = [.doneSuccess] ∧
      (∀ k < m, (second k).session.finished = []) ∧
      (second m).session.finished.map Prod.fst = [.doneSuccess] ∧
      (second m).session.ops = [] ∧
      (second m).session.flash = (first n).session.flash := by
  have hfits : Fits F := by
    simp only [Fits, applicationFlashBase, applicationFlashSize, flashPageSize] at *
    omega
  obtain ⟨n, hd, hr⟩ := exists_done env hfits hwork (fun _ => 0) flash hf
  obtain ⟨k, rfl⟩ := hd.pos
  have hinstalled : Installed F
      (Machine.along (step env F) (start (fun _ => 0) flash) f (k + 1)).session.flash :=
    (tracked_along env F flash f hr (Nat.lt_succ_self k)).installed hfits hd
  generalize hflash : (Machine.along (step env F) (start (fun _ => 0) flash) f
    (k + 1)).session.flash = flash₁ at hinstalled
  obtain ⟨m, hd', hr'⟩ := exists_done env hfits hwork (fun _ => 0) flash₁ hg
  have huntouched : ∀ j ≤ m, Untouched flash₁
      (Machine.along (step env F) (start (fun _ => 0) flash₁) g j) := by
    intro j hj
    induction j with
    | zero => exact ⟨rfl, rfl⟩
    | succ j ih =>
      exact (ih (Nat.le_of_succ_le hj)).step (tracked_along env F flash₁ g hr' hj) hfits hinstalled
        (g j)
  refine ⟨k + 1, m, fun j hj => (hr j hj).unfinished, hd.finished, ?_⟩
  simp only [hflash]
  exact ⟨fun j hj => (hr' j hj).unfinished, hd'.finished, (huntouched m (Nat.le_refl m)).ops,
    (huntouched m (Nat.le_refl m)).flash_eq⟩

/-- An image of three bytes on erased flash, twice. -/
theorem repeated_update_three_bytes :
    let env : UpdateEnv := ⟨.uavcan, .stm32f0, ⟨fun _ => 0⟩, fun _ => 0⟩
    ∃ n m,
      let first := Machine.along (step env [1, 2, 3]) (start (fun _ => 0) fun _ => 0xFF) inTurn
      let second := Machine.along (step env [1, 2, 3])
        (start (fun _ => 0) (first n).session.flash) inTurn
      (first n).session.finished.map Prod.fst = [.doneSuccess] ∧ (second m).session.ops = [] := by
  obtain ⟨n, m, -, hfirst, -, -, hops, -⟩ :=
    repeated_update ⟨.uavcan, .stm32f0, ⟨fun _ => 0⟩, fun _ => 0⟩ FlashController.stm32f0_works
      [1, 2, 3] (by decide) (fun _ => 0xFF) inTurn inTurn inTurn_fair inTurn_fair
  exact ⟨n, m, hfirst, hops⟩

end Honest

end HouseBus
