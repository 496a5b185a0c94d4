import HouseBus.Flash
import HouseBus.BootloaderInterface

/-!
# The firmware update of the bootloader (`sw/bootloader/firmware_update.c`)

`FirmwareUpdate` holds the static variables of the file. `onFileRead` takes a response into the
page buffer, `processFirmwareUpdate` either waits, asks for the next 256 bytes, or compares and
writes a page. Next to the new variables the functions give what they did: the indices of
`firmware_buffer` they used, the erases and programs of the flash, the requests handed to
`canardRequestOrRespond`.
-/

namespace HouseBus

open Bytes

/-- The static variables of `firmware_update.c`. -/
structure FirmwareUpdate where
  fileRequestPtr : ℕ
  fileRequestPending : Bool
  fileEof : Bool
  firmwareBuffer : Mem
  firmwareBufferPtr : ℕ
  firmwareWriteOffset : ℕ

/-- The return values of `processFirmwareUpdate`. -/
inductive FirmwareUpdateResult
  | errFlashFailed
  | doneSuccess
  | inProgress
  deriving DecidableEq

/-- `UAVCAN_FILE_READ_REQUEST_MAX_SIZE` -/
def uavcanFileReadRequestMaxSize : ℕ := (1648 + 7) / 8

/-- A FileRead request: what `canardRequestOrRespond` gets, the offset it asks for, and the indices
of the buffer `request[]` that were stored to. -/
structure FileReadRequest where
  destinationNodeId : UInt8
  offset : ℕ
  payload : List UInt8
  stores : List ℕ

/-- What a function did next to its result. -/
structure Effects where
  indices : List ℕ
  ops : List FlashOp
  requests : List FileReadRequest

/-- The node that the update runs on: libcanard, the flash controller, the content of
`bootloader_interface` and what the stack held before. -/
structure UpdateEnv where
  can : Canard
  hw : FlashController
  bootloaderInterface : BootloaderInterface
  stack : Mem

/-! ## The functions -/

/-- The error field of a response; `onFileRead` decodes it to a variable that nothing reads. -/
def errorField (can : Canard) (t : CanardRxTransfer) : Option ℕ := can.decodeScalar t.payload 0 16

/-- `int16_t chunk_length = transfer->payload_len - 2` -/
def chunkLength (t : CanardRxTransfer) : ℤ := Int.bmod ((t.payloadLen : ℤ) - 2) (2 ^ 16)

/-- `onFileRead`, with the indices of `firmware_buffer` it stores to. -/
def onFileRead (can : Canard) (t : CanardRxTransfer) (v : FirmwareUpdate) :
    FirmwareUpdate × List ℕ :=
  if v.fileRequestPending = false then (v, [])
  else if chunkLength t < 0 ∨ 256 < chunkLength t then (v, [])
  else
    let n := (chunkLength t).toNat
    ({ v with
        firmwareBuffer :=
          can.payloadExtractArray t.payload 2 n v.firmwareBuffer v.firmwareBufferPtr
        firmwareBufferPtr := (v.firmwareBufferPtr + n) % 2 ^ 32
        fileRequestPending := false
        fileEof := if chunkLength t ≠ 256 then true else v.fileEof },
      can.extractStores t.payload 2 n v.firmwareBufferPtr)

/-- The request that `requestFileRead` builds: the 40-bit offset, then the path. -/
def requestFileRead (can : Canard) (b : BootloaderInterface) (stack : Mem) (offset : ℕ) :
    FileReadRequest :=
  let length := b.requestFileNameLength.toNat
  let size := 40 / 8 + length
  let request := can.encodeScalar stack 0 40 offset
  let request := write request (40 / 8) (b.requestFileName length)
  { destinationNodeId := b.requestFromNodeId
    offset := offset
    payload := read request 0 size
    stores := List.range (40 / 8) ++ List.range' (40 / 8) length }

/-- `initGlobals` -/
def initGlobals (v : FirmwareUpdate) : FirmwareUpdate :=
  { v with
    firmwareBufferPtr := 0
    fileEof := false
    fileRequestPtr := 0
    firmwareWriteOffset := 0 }

/-- A page brought to `data[0..len)`. -/
structure PageUpdate where
  ok : Bool
  flash : Mem
  ops : List FlashOp
  indices : List ℕ

/-- The middle of `processFirmwareUpdate`: compare the page, erase and write it on a mismatch,
compare again. -/
def updatePage (hw : FlashController) (flash : Mem) (adr : ℕ) (data : Mem) (len : ℕ) :
    PageUpdate :=
  if flashVerifyBlock flash adr data len then ⟨true, flash, [], verifyReads flash adr data len⟩
  else
    let erased := flashErasePage hw flash adr
    let written := flashWriteBlock hw erased.1 adr data len
    { ok := flashVerifyBlock written.1 adr data len
      flash := written.1
      ops := erased.2 ++ written.2
      indices := verifyReads flash adr data len ++ writeReads len ++
        verifyReads written.1 adr data len }

/-- `flash_write`: the address that the page buffer goes to. -/
def flashWriteAddress (v : FirmwareUpdate) : ℕ :=
  (applicationFlashBase + v.firmwareWriteOffset) % 2 ^ 32

/-- The result of one call. -/
structure Poll where
  ret : FirmwareUpdateResult
  vars : FirmwareUpdate
  flash : Mem
  effects : Effects

/-- `processFirmwareUpdate`. What `canardRequestOrRespond` returns goes to a log message only. -/
def processFirmwareUpdate (env : UpdateEnv) (v : FirmwareUpdate) (flash : Mem) : Poll :=
  if v.fileRequestPending = false then
    if v.fileEof ∨ v.firmwareBufferPtr = flashPageSize then
      let page := updatePage env.hw flash (flashWriteAddress v) v.firmwareBuffer
        (v.firmwareBufferPtr % 2 ^ 16)
      let effects : Effects := ⟨page.indices, page.ops, []⟩
      if page.ok = false then ⟨.errFlashFailed, initGlobals v, page.flash, effects⟩
      else if v.fileEof then ⟨.doneSuccess, initGlobals v, page.flash, effects⟩
      else
        { ret := .inProgress
          vars :=
            { v with
              firmwareWriteOffset := (v.firmwareWriteOffset + v.firmwareBufferPtr) % 2 ^ 32
              firmwareBufferPtr := 0 }
          flash := page.flash
          effects := effects }
    else
      { ret := .inProgress
        vars :=
          { v with
            fileRequestPtr := (v.fileRequestPtr + 256) % 2 ^ 32
            fileRequestPending := true }
        flash := flash
        effects :=
          ⟨[], [], [requestFileRead env.can env.bootloaderInterface env.stack v.fileRequestPtr]⟩ }
  else ⟨.inProgress, v, flash, ⟨[], [], []⟩⟩

/-! ## What they do -/

/-- A response that `onFileRead` takes: a request is pending and the size is that of a FileRead
response. -/
def Accepts (v : FirmwareUpdate) (t : CanardRxTransfer) : Prop :=
  v.fileRequestPending = true ∧ 2 ≤ t.payloadLen ∧ t.payloadLen ≤ 258

/-- The data of a response. -/
def CanardRxTransfer.data (t : CanardRxTransfer) : List UInt8 := t.payload.drop 2

theorem chunkLength_bounds (t : CanardRxTransfer) :
    (0 ≤ chunkLength t ∧ chunkLength t ≤ 256) ↔ 2 ≤ t.payloadLen ∧ t.payloadLen ≤ 258 := by
  have := t.payload_len_lt
  simp only [chunkLength, CanardRxTransfer.payloadLen, Int.bmod_def] at *
  omega

theorem chunkLength_eq {t : CanardRxTransfer} (h : 2 ≤ t.payloadLen) (h' : t.payloadLen ≤ 258) :
    chunkLength t = (t.data.length : ℤ) := by
  simp only [chunkLength, CanardRxTransfer.payloadLen, CanardRxTransfer.data, List.length_drop,
    Int.bmod_def] at *
  omega

/-- A response that is not taken changes nothing. -/
theorem onFileRead_refused {can : Canard} {t : CanardRxTransfer} {v : FirmwareUpdate}
    (h : ¬ Accepts v t) : onFileRead can t v = (v, []) := by
  unfold onFileRead
  split
  · rfl
  · rename_i hp
    have hb : chunkLength t < 0 ∨ 256 < chunkLength t := by
      by_contra hc
      have := (chunkLength_bounds t).mp (by omega)
      exact h ⟨by simpa using hp, this⟩
    rw [if_pos hb]

/-- A response that is taken: its data goes behind the buffer's, whatever its error field. -/
theorem onFileRead_accepted {can : Canard} {t : CanardRxTransfer} {v : FirmwareUpdate}
    (h : Accepts v t) :
    onFileRead can t v =
      ({ v with
          firmwareBuffer := write v.firmwareBuffer v.firmwareBufferPtr t.data
          firmwareBufferPtr := (v.firmwareBufferPtr + t.data.length) % 2 ^ 32
          fileRequestPending := false
          fileEof := if t.data.length ≠ 256 then true else v.fileEof },
        List.range' v.firmwareBufferPtr t.data.length) := by
  obtain ⟨hp, h2, h258⟩ := h
  have hc := chunkLength_eq h2 h258
  have hlen : t.data.length = t.payload.length - 2 := by simp [CanardRxTransfer.data]
  unfold onFileRead
  have hne : ((t.data.length : ℤ) ≠ 256) = (t.data.length ≠ 256) := by
    simp only [ne_eq, eq_iff_iff]; omega
  have hle : t.data.length ≤ 256 := by
    simp only [CanardRxTransfer.payloadLen] at h258; omega
  rw [hp, if_neg (by simp), hc, if_neg (by omega)]
  simp only [Int.toNat_natCast, hne, can.payloadExtractArray_eq, can.extractStores_eq,
    ← hlen, Nat.min_self]
  rw [← CanardRxTransfer.data, List.take_length]

/-- A page update either finds the page as it should be or erases and writes it. -/
theorem updatePage_cases (hw : FlashController) (flash : Mem) (adr : ℕ) (data : Mem) (len : ℕ) :
    (flashVerifyBlock flash adr data len = true ∧
        updatePage hw flash adr data len =
          ⟨true, flash, [], verifyReads flash adr data len⟩) ∨
      (flashVerifyBlock flash adr data len = false ∧
        (updatePage hw flash adr data len).flash =
          (flashWriteBlock hw (flashErasePage hw flash adr).1 adr data len).1 ∧
        (updatePage hw flash adr data len).ops =
          (flashErasePage hw flash adr).2 ++
            (flashWriteBlock hw (flashErasePage hw flash adr).1 adr data len).2 ∧
        (updatePage hw flash adr data len).ok =
          flashVerifyBlock (updatePage hw flash adr data len).flash adr data len) := by
  cases h : flashVerifyBlock flash adr data len with
  | true => exact .inl ⟨rfl, by simp [updatePage, h]⟩
  | false => exact .inr ⟨rfl, by simp [updatePage, h]⟩

/-- A page update erases the page and programs half-words of the data at their places. -/
theorem mem_updatePage_ops {hw : FlashController} {flash : Mem} {adr : ℕ} {data : Mem} {len : ℕ}
    {op : FlashOp} (h : op ∈ (updatePage hw flash adr data len).ops) :
    op = .erase adr ∨
      ∃ j < (len + 1) / 2, op = .program (adr + 2 * j) (halfWord data (2 * j)) := by
  rcases updatePage_cases hw flash adr data len with ⟨-, hpage⟩ | ⟨-, -, hops, -⟩
  · rw [hpage] at h; cases h
  · rw [hops] at h
    rcases List.mem_append.mp h with h | h
    · left
      rcases flashErasePage_ops hw flash adr with he | he <;> rw [he] at h
      · cases h
      · exact List.mem_singleton.mp h
    · right
      obtain ⟨j, hj, rfl⟩ := mem_writeHalfWords h
      exact ⟨j, hj, by rw [Nat.zero_add]⟩

/-- A page that does not match is erased or programmed. -/
theorem exists_updatePage_op (hw : FlashController) {flash : Mem} {adr : ℕ} {data : Mem} {len : ℕ}
    (h : flashVerifyBlock flash adr data len = false) :
    ∃ op, op ∈ (updatePage hw flash adr data len).ops := by
  apply List.exists_mem_of_ne_nil
  rcases updatePage_cases hw flash adr data len with ⟨hv, -⟩ | ⟨-, -, hops, -⟩
  · rw [h] at hv; cases hv
  · rw [hops]
    rcases flashErasePage_ops hw flash adr with he | he
    · -- The page is erased already, so the block still differs.
      obtain ⟨k, hk⟩ : ∃ k, firstMismatch flash adr data ((len + 1) / 2) 0 = some k := by
        rw [← Option.isSome_iff_exists, ← Option.not_isNone, ← flashVerifyBlock, h]
        rfl
      rw [he]
      exact writeHalfWords_ne_nil hk
    · rw [he]; exact List.cons_ne_nil _ _

/-- A page update changes nothing that its operations do not touch. -/
theorem updatePage_untouched {hw : FlashController} (hwork : hw.Works) {flash : Mem} {adr : ℕ}
    {data : Mem} {len x : ℕ} (hx : ∀ op ∈ (updatePage hw flash adr data len).ops, ¬ op.touches x) :
    (updatePage hw flash adr data len).flash x = flash x := by
  rcases updatePage_cases hw flash adr data len with ⟨-, hpage⟩ | ⟨-, hflash, hops, -⟩
  · rw [hpage]
  · rw [hops] at hx
    obtain ⟨herase, hwrite⟩ := List.forall_mem_append.mp hx
    rw [hflash, flashWriteBlock, writeHalfWords_untouched hwork hwrite,
      flashErasePage_untouched hwork herase]

theorem updatePage_indices {hw : FlashController} {flash : Mem} {adr : ℕ} {data : Mem} {len i : ℕ}
    (h : i ∈ (updatePage hw flash adr data len).indices) : i < 2 * ((len + 1) / 2) := by
  unfold updatePage at h
  split at h
  · exact verifyReads_lt h
  · simp only [List.mem_append] at h
    obtain (h | h) | h := h
    · exact verifyReads_lt h
    · exact List.mem_range.mp h
    · exact verifyReads_lt h

/-- What a page update does to an aligned page, if the controller works. -/
structure PageUpdated (flash flash' : Mem) (adr : ℕ) (data : Mem) (len : ℕ) : Prop where
  stored : ∀ i < len, flash' (adr + i) = data i
  frame : ∀ x, x / flashPageSize ≠ adr / flashPageSize → flash' x = flash x
  empty : len = 0 → flash' = flash

theorem updatePage_works {hw : FlashController} (hwork : hw.Works) (flash : Mem) {adr : ℕ}
    (hadr : flashPageSize ∣ adr) (data : Mem) {len : ℕ} (hlen : len ≤ flashPageSize) :
    (updatePage hw flash adr data len).ok = true ∧
      PageUpdated flash (updatePage hw flash adr data len).flash adr data len := by
  obtain ⟨k, rfl⟩ := hadr
  rcases updatePage_cases hw flash (flashPageSize * k) data len with
    ⟨hv, h⟩ | ⟨hv, hflash, -, hok⟩
  · rw [h]
    refine ⟨rfl, fun i hi => ?_, fun _ _ => rfl, fun _ => rfl⟩
    exact flashVerifyBlock_iff.mp hv i (by omega)
  · -- The page is erased, then written: the compare afterwards succeeds.
    have herased : ∀ x, 2 * 0 ≤ x → x < 2 * (0 + (len + 1) / 2) →
        (flashErasePage hw flash (flashPageSize * k)).1 (flashPageSize * k + x) = 0xFF := by
      intro x _ hx
      rw [flashErasePage_apply hwork, if_pos (by simp only [flashPageSize] at *; omega)]
    have hstored : ∀ x < 2 * ((len + 1) / 2),
        (updatePage hw flash (flashPageSize * k) data len).flash (flashPageSize * k + x) =
          data x := by
      intro x hx
      rw [hflash]
      exact writeHalfWords_apply hwork _ _ _ 0 _ herased (by omega) (by omega)
    refine ⟨by rw [hok]; exact flashVerifyBlock_iff.mpr hstored, ?_, ?_, ?_⟩
    · intro i hi
      exact hstored i (by omega)
    · intro x hx
      rw [hflash, flashWriteBlock, writeHalfWords_frame hwork, flashErasePage_apply hwork,
        if_neg hx]
      simp only [flashPageSize] at *
      omega
    · rintro rfl
      have : flashVerifyBlock flash (flashPageSize * k) data 0 = true :=
        flashVerifyBlock_iff.mpr fun x hx => absurd hx (by omega)
      rw [this] at hv
      cases hv

end HouseBus
