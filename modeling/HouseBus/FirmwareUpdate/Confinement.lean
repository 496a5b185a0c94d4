import HouseBus.FirmwareUpdate.Honest
import HouseBus.FirmwareUpdate.Responses

/-!
# Where the update erases and programs

`processFirmwareUpdate` brings page after page to the flash from the application's base on; nothing
compares `firmware_write_offset` with the size of the application's region. So the operations of a
run stay in the region exactly if no page behind it differs from the data received for it, as in
all updates of at most the region's size (`confined_iff`).
-/

namespace HouseBus

/-- The application's flash region, `flash0` of the linker script. -/
def InApplicationFlash (x : ℕ) : Prop :=
  applicationFlashBase ≤ x ∧ x < applicationFlashBase + applicationFlashSize

/-- All that the operation may change lies in the region. -/
def FlashOp.Confined (op : FlashOp) : Prop := ∀ x, op.touches x → InApplicationFlash x

namespace Session

open Bytes

variable {env : UpdateEnv} {s : Session} {e : UpdateEvent}

/-- A page that a poll finds different begins in the region. -/
def DiffersInside (s : Session) : UpdateEvent → Prop
  | .poll _ =>
    s.Flushes →
      flashVerifyBlock s.flash (flashWriteAddress s.vars) s.vars.firmwareBuffer
          s.vars.firmwareBufferPtr = false →
        s.vars.firmwareWriteOffset < applicationFlashSize
  | .response _ _ => True

/-- An operation on the page of the write offset stays in the region if the offset does. -/
theorem Inv.confined_of_lt (h : s.Inv)
    (hlt : s.vars.firmwareWriteOffset < applicationFlashSize) :
    ∀ op ∈ newOps env s e, op.Confined := by
  intro op hop x hx
  have hle := h.ptr_le
  obtain ⟨k, hk⟩ := h.flashWriteAddress_dvd
  simp only [flashWriteAddress, applicationFlashSize, applicationFlashBase, flashPageSize] at *
  rcases h.mem_newOps hop with rfl | ⟨j, hj, rfl⟩
  · simp only [FlashOp.touches, flashWriteAddress, flashPageSize, applicationFlashBase] at hx
    simp only [InApplicationFlash, applicationFlashSize, applicationFlashBase]
    omega
  · simp only [FlashOp.touches, flashWriteAddress, applicationFlashBase] at hx
    simp only [InApplicationFlash, applicationFlashSize, applicationFlashBase]
    omega

/-- A confined operation on the page of the write offset shows that the offset is inside. -/
theorem Inv.lt_of_confined (h : s.Inv) {op : FlashOp} (hop : op ∈ newOps env s e)
    (hc : op.Confined) : s.vars.firmwareWriteOffset < applicationFlashSize := by
  have hle := h.ptr_le
  have hoff := h.writeOffset
  obtain ⟨k, hk⟩ := h.flashWriteAddress_dvd
  obtain ⟨x, hx, htouch⟩ : ∃ x < flashPageSize, op.touches (flashWriteAddress s.vars + x) := by
    rcases h.mem_newOps hop with rfl | ⟨j, hj, rfl⟩
    · exact ⟨0, by decide, rfl⟩
    · exact ⟨2 * j, by simp only [flashPageSize] at *; omega, .inl rfl⟩
  have hin := hc _ htouch
  simp only [InApplicationFlash, flashWriteAddress, applicationFlashSize, applicationFlashBase,
    flashPageSize] at *
  omega

theorem Inv.confined_iff_differsInside (h : s.Inv) :
    (∀ op ∈ newOps env s e, op.Confined) ↔ DiffersInside s e := by
  cases e with
  | response t r => exact ⟨fun _ => trivial, fun _ op hop => by cases hop⟩
  | poll bcRes =>
    constructor
    · intro hall hf hdiff
      obtain ⟨op, hop⟩ := exists_updatePage_op env.hw hdiff
      have hnew : op ∈ newOps env s (.poll bcRes) := by
        simp only [newOps, hf, ↓reduceIte, page, h.ptr_mod]; exact hop
      exact h.lt_of_confined hnew (hall op hnew)
    · intro hg op hop
      have hf : s.Flushes := by
        by_contra hf
        simp [newOps, hf] at hop
      refine h.confined_of_lt (hg hf ?_) op hop
      rw [← Bool.not_eq_true]
      intro hsame
      rw [newOps, if_pos hf, page, h.ptr_mod, updatePage, if_pos hsame] at hop
      cases hop

/-- The data received is no longer than the region. -/
def ReceivesAtMost (s : Session) (_ : UpdateEvent) : Prop :=
  s.received.length ≤ applicationFlashSize

theorem Inv.differsInside_of_received_le (h : s.Inv)
    (hle : s.received.length ≤ applicationFlashSize) : DiffersInside s e := by
  cases e with
  | response t r => trivial
  | poll bcRes =>
    intro _ hdiff
    have hfill := h.fill
    have hoff := h.writeOffset
    have hpos : s.vars.firmwareBufferPtr ≠ 0 := by
      intro h0
      rw [h0] at hdiff
      cases hdiff
    simp only [applicationFlashSize] at *
    omega

/-- **Flash confinement** holds exactly in the runs in which no page that differs from the data
received for it lies behind the region, so in all runs whose updates receive at most 49152
bytes. -/
theorem confined_iff (env : UpdateEnv) (buffer flash : Mem) (es : List UpdateEvent) :
    ((∀ op ∈ (run env buffer flash es).ops, op.Confined) ↔
        Machine.Meets (step env) DiffersInside (start buffer flash) es) ∧
      (Machine.Meets (step env) ReceivesAtMost (start buffer flash) es →
        ∀ op ∈ (run env buffer flash es).ops, op.Confined) := by
  have hhist := Machine.forall_history (ops_step env) FlashOp.Confined (start buffer flash) es
  have hiff := ((inv_step env).keepsIf DiffersInside).meets_congr
    (P := fun s e => ∀ op ∈ newOps env s e, op.Confined)
    (fun s e hinv => hinv.confined_iff_differsInside) (inv_start buffer flash) es
  have hstart : ∀ op ∈ (start buffer flash).ops, op.Confined := by intro op hop; cases hop
  have hmain : (∀ op ∈ (run env buffer flash es).ops, op.Confined) ↔
      Machine.Meets (step env) DiffersInside (start buffer flash) es :=
    hhist.trans ((and_iff_right hstart).trans hiff)
  refine ⟨hmain, fun h => hmain.mpr ?_⟩
  exact ((inv_step env).keepsIf ReceivesAtMost).meets
    (fun s e hinv => hinv.differsInside_of_received_le) (inv_start buffer flash) h

/-- An honest server's file of 49153 zero bytes, on erased flash: its last byte goes behind the
region. -/
theorem not_confined :
    ¬ ∀ es, ∀ op ∈ (run serverFive (fun _ => 0) (fun _ => 0xFF) es).ops, op.Confined := by
  intro h
  let F : List UInt8 := List.replicate (applicationFlashSize + 1) 0
  have hlen : F.length = applicationFlashSize + 1 := List.length_replicate
  have hfits : Honest.Fits F := by rw [Honest.Fits, hlen]; decide
  obtain ⟨n, hdone, -⟩ := Honest.exists_done serverFive hfits
    FlashController.stm32f0_works (fun _ => 0) (fun _ => 0xFF) Honest.inTurn_fair
  obtain ⟨es, hes⟩ := Honest.exists_run serverFive F (fun _ => 0) (fun _ => 0xFF) Honest.inTurn n
  have hlast := read_eq_iff.mp hdone.stored applicationFlashSize (by omega)
  rw [hes, run, flash_run FlashController.stm32f0_works] at hlast
  · rw [List.getElem_replicate] at hlast
    cases hlast
  · intro op hop htouch
    obtain ⟨-, hlt⟩ := h es op hop _ htouch
    omega

end Session

end HouseBus
