import HouseBus.Lib.Bytes

/-!
# The flash driver (`sw/drivers/flash.c`)

The flash is a byte memory; its controller is hardware and so a parameter (`FlashController`).
`FlashController.Works` is what the driver relies on: erasing sets one page to `0xFF`, programming
a half-word that reads `0xFFFF` stores it, and neither changes another address. A controller
without it stands for worn out or locked flash.

`flashErasePage`, `flashVerifyBlock` and `flashWriteBlock` are the driver's functions. Next to its
result each gives what it did: the erases and half-word programs it issued (`FlashOp`), and the
indices of `data` it read.
-/

namespace HouseBus

open Bytes

/-- `FLASH_PAGE_SIZE` -/
def flashPageSize : ℕ := 2048

/-- `FLASH_PAGE_MASK` -/
def flashPageMask : ℕ := 0x7FF

/-- `FLASH_TOT_SIZE` -/
def flashTotSize : ℕ := 0x10000

/-- `BOOTLOADER_SIZE` -/
def bootloaderSize : ℕ := 16384

/-- `__application_flash_base__`: the origin of `flash0` in `STM32F072xB_bl.ld`. -/
def applicationFlashBase : ℕ := 0x08004000

/-- The length of `flash0` in `STM32F072xB_bl.ld`. -/
def applicationFlashSize : ℕ := 49152

/-- The linker script and the driver's header agree on the size of the application region. -/
theorem applicationFlashSize_eq : applicationFlashSize = flashTotSize - bootloaderSize := rfl

/-- A half-word as its two bytes in memory order. -/
abbrev HalfWord := UInt8 × UInt8

def halfWord (m : Mem) (a : ℕ) : HalfWord := (m a, m (a + 1))

/-- The flash controller behind `FLASH->CR`, `FLASH->AR` and half-word stores to the flash. -/
structure FlashController where
  erasePage : Mem → ℕ → Mem
  program : Mem → ℕ → HalfWord → Mem

/-- The controller does what it is asked for. -/
structure FlashController.Works (hw : FlashController) : Prop where
  erasePage_apply : ∀ m a x,
    hw.erasePage m a x = if x / flashPageSize = a / flashPageSize then 0xFF else m x
  program_erased : ∀ m a v, halfWord m a = (0xFF, 0xFF) → hw.program m a v = write m a [v.1, v.2]
  program_frame : ∀ m a v x, x ≠ a → x ≠ a + 1 → hw.program m a v x = m x

/-- A controller that refuses to program a half-word that is not erased, unless with `0`. -/
def FlashController.stm32f0 : FlashController where
  erasePage m a := fun x => if x / flashPageSize = a / flashPageSize then 0xFF else m x
  program m a v := if halfWord m a = (0xFF, 0xFF) ∨ v = (0, 0) then write m a [v.1, v.2] else m

theorem FlashController.stm32f0_works : FlashController.stm32f0.Works where
  erasePage_apply _ _ _ := rfl
  program_erased m a v h := if_pos (.inl h)
  program_frame m a v x h h' := by
    unfold stm32f0
    simp only
    split
    · by_cases hx : x < a
      · exact write_of_lt _ _ hx
      · exact write_of_le _ (by simp only [List.length_cons, List.length_nil]; omega)
    · rfl

/-- What the driver asks of the controller. -/
inductive FlashOp
  | erase (adr : ℕ)
  | program (adr : ℕ) (v : HalfWord)

/-- The byte addresses that an operation may change. -/
def FlashOp.touches : FlashOp → ℕ → Prop
  | .erase adr, x => x / flashPageSize = adr / flashPageSize
  | .program adr _, x => x = adr ∨ x = adr + 1

/-- The bytes that an operation stores. -/
def FlashOp.stores : FlashOp → List (ℕ × UInt8)
  | .erase _ => []
  | .program adr v => [(adr, v.1), (adr + 1, v.2)]

/-! ## The functions -/

/-- The loop of `flash_erase_page` from word `i` on, `n` words left: the index at its end. -/
def eraseScan (flash : Mem) (p : ℕ) : (n i : ℕ) → ℕ
  | 0, i => i
  | n + 1, i =>
    if leNat (read flash (p + 4 * i) 4) ≠ 0xFFFFFFFF then i else eraseScan flash p n (i + 1)

/-- `flash_erase_page`: the loop counts to `FLASH_PAGE_SIZE` in words of four bytes. -/
def flashErasePage (hw : FlashController) (flash : Mem) (adr : ℕ) : Mem × List FlashOp :=
  -- `adr & ~FLASH_PAGE_MASK`
  let p := adr - adr % (flashPageMask + 1)
  let i := eraseScan flash p flashPageSize 0
  if i = flashPageSize then (flash, []) else (hw.erasePage flash adr, [.erase adr])

/-- The first of the `n` half-words from `i` on in which flash and data differ. -/
def firstMismatch (flash : Mem) (adr : ℕ) (data : Mem) : (n i : ℕ) → Option ℕ
  | 0, _ => none
  | n + 1, i =>
    if halfWord flash (adr + 2 * i) ≠ halfWord data (2 * i) then some i
    else firstMismatch flash adr data n (i + 1)

/-- `flash_verify_block`: 1 on match, 0 on mismatch. -/
def flashVerifyBlock (flash : Mem) (adr : ℕ) (data : Mem) (len : ℕ) : Bool :=
  (firstMismatch flash adr data ((len + 1) / 2) 0).isNone

/-- The indices of `data` that `flash_verify_block` reads: it stops at the first mismatch. -/
def verifyReads (flash : Mem) (adr : ℕ) (data : Mem) (len : ℕ) : List ℕ :=
  match firstMismatch flash adr data ((len + 1) / 2) 0 with
  | some i => List.range (2 * (i + 1))
  | none => List.range (2 * ((len + 1) / 2))

/-- The loop of `flash_write_block` from half-word `i` on, `n` half-words left. -/
def writeHalfWords (hw : FlashController) (adr : ℕ) (data : Mem) :
    (n i : ℕ) → Mem → Mem × List FlashOp
  | 0, _, flash => (flash, [])
  | n + 1, i, flash =>
    if halfWord flash (adr + 2 * i) ≠ halfWord data (2 * i) then
      let v := halfWord data (2 * i)
      let r := writeHalfWords hw adr data n (i + 1) (hw.program flash (adr + 2 * i) v)
      (r.1, .program (adr + 2 * i) v :: r.2)
    else writeHalfWords hw adr data n (i + 1) flash

/-- `flash_write_block` -/
def flashWriteBlock (hw : FlashController) (flash : Mem) (adr : ℕ) (data : Mem) (len : ℕ) :
    Mem × List FlashOp :=
  writeHalfWords hw adr data ((len + 1) / 2) 0 flash

/-- The indices of `data` that `flash_write_block` reads. -/
def writeReads (len : ℕ) : List ℕ := List.range (2 * ((len + 1) / 2))

/-! ## Verify -/

theorem firstMismatch_none {flash : Mem} {adr : ℕ} {data : Mem} {n i : ℕ} :
    firstMismatch flash adr data n i = none ↔
      ∀ j < n, halfWord flash (adr + 2 * (i + j)) = halfWord data (2 * (i + j)) := by
  induction n generalizing i with
  | zero => simp [firstMismatch]
  | succ n ih =>
    unfold firstMismatch
    split
    · rename_i hne
      refine ⟨fun h => (by cases h), fun h => absurd (h 0 (by omega)) hne⟩
    · rename_i heq
      rw [ih]
      constructor
      · intro h j hj
        cases j with
        | zero => exact not_not.mp heq
        | succ j => rw [show i + (j + 1) = i + 1 + j by omega]; exact h j (by omega)
      · intro h j hj
        rw [show i + 1 + j = i + (j + 1) by omega]
        exact h (j + 1) (by omega)

theorem firstMismatch_lt {flash : Mem} {adr : ℕ} {data : Mem} {n i k : ℕ}
    (h : firstMismatch flash adr data n i = some k) : k < i + n := by
  induction n generalizing i with
  | zero => cases h
  | succ n ih =>
    unfold firstMismatch at h
    split at h
    · cases h; omega
    · have := ih h; omega

/-- A range of half-words is equal when its bytes are. -/
theorem halfWords_eq_iff {m m' : Mem} {a n : ℕ} :
    (∀ j < n, halfWord m (a + 2 * j) = halfWord m' (2 * j)) ↔
      ∀ x < 2 * n, m (a + x) = m' x := by
  constructor
  · intro h x hx
    have hj := h (x / 2) (by omega)
    simp only [halfWord, Prod.mk.injEq] at hj
    rcases Nat.mod_two_eq_zero_or_one x with hp | hp
    · rw [show x = 2 * (x / 2) by omega]; exact hj.1
    · rw [show x = 2 * (x / 2) + 1 by omega]; exact hj.2
  · intro h j hj
    have h1 := h (2 * j) (by omega)
    have h2 := h (2 * j + 1) (by omega)
    rw [halfWord, halfWord, h1, ← h2]
    rfl

/-- `flash_verify_block` compares the bytes of `len` rounded up to half-words. -/
theorem flashVerifyBlock_iff {flash : Mem} {adr : ℕ} {data : Mem} {len : ℕ} :
    flashVerifyBlock flash adr data len = true ↔
      ∀ x < 2 * ((len + 1) / 2), flash (adr + x) = data x := by
  rw [flashVerifyBlock, Option.isNone_iff_eq_none, firstMismatch_none, ← halfWords_eq_iff]
  simp only [Nat.zero_add]

theorem verifyReads_lt {flash : Mem} {adr : ℕ} {data : Mem} {len i : ℕ}
    (h : i ∈ verifyReads flash adr data len) : i < 2 * ((len + 1) / 2) := by
  unfold verifyReads at h
  split at h
  · rename_i k hk
    have := firstMismatch_lt hk
    have := List.mem_range.mp h
    omega
  · exact List.mem_range.mp h

/-! ## Erase -/

theorem eraseScan_full {flash : Mem} {p n i : ℕ} (h : eraseScan flash p n i = i + n) {j : ℕ}
    (hj : j < n) : leNat (read flash (p + 4 * (i + j)) 4) = 0xFFFFFFFF := by
  induction n generalizing i j with
  | zero => omega
  | succ n ih =>
    unfold eraseScan at h
    split at h
    · omega
    · rename_i hw
      cases j with
      | zero => exact not_not.mp hw
      | succ j =>
        rw [show i + (j + 1) = i + 1 + j by omega]
        exact ih (by omega) (by omega)

/-- Four bytes that read `0xFFFFFFFF` are `0xFF`. -/
theorem erased_of_word {flash : Mem} {a : ℕ} (h : leNat (read flash a 4) = 0xFFFFFFFF) {k : ℕ}
    (hk : k < 4) : flash (a + k) = 0xFF := by
  have hbytes : read flash a 4 = [0xFF, 0xFF, 0xFF, 0xFF] := by
    have := leBytes_leNat (read flash a 4)
    rw [length_read, h] at this
    rw [← this]
    decide
  have hbyte := getElem_read flash a 4 k (by simpa using hk)
  simp only [hbytes] at hbyte
  rw [← hbyte]
  have hcases : k = 0 ∨ k = 1 ∨ k = 2 ∨ k = 3 := by omega
  rcases hcases with rfl | rfl | rfl | rfl <;> rfl

/-- `flash_erase_page` leaves the page all `0xFF` and every other page as it was. -/
theorem flashErasePage_apply {hw : FlashController} (hwork : hw.Works) (flash : Mem) (adr x : ℕ) :
    (flashErasePage hw flash adr).1 x =
      if x / flashPageSize = adr / flashPageSize then 0xFF else flash x := by
  unfold flashErasePage
  simp only
  split
  · rename_i hfull
    split
    · rename_i hpage
      simp only [flashPageSize] at hpage
      obtain ⟨j, k, hj, hk, rfl⟩ : ∃ j k, j < flashPageSize ∧ k < 4 ∧
          x = adr - adr % (flashPageMask + 1) + 4 * (0 + j) + k :=
        ⟨(x - adr / 2048 * 2048) / 4, (x - adr / 2048 * 2048) % 4,
          by simp only [flashPageSize]; omega, by omega, by simp only [flashPageMask]; omega⟩
      have hscan : eraseScan flash (adr - adr % (flashPageMask + 1)) flashPageSize 0 =
          0 + flashPageSize := by rw [Nat.zero_add]; exact hfull
      exact erased_of_word (eraseScan_full hscan hj) hk
    · rfl
  · exact hwork.erasePage_apply flash adr x

theorem flashErasePage_ops (hw : FlashController) (flash : Mem) (adr : ℕ) :
    flashErasePage hw flash adr = (flash, []) ∨
      flashErasePage hw flash adr = (hw.erasePage flash adr, [.erase adr]) := by
  unfold flashErasePage
  simp only
  split
  · exact .inl rfl
  · exact .inr rfl

theorem flashErasePage_untouched {hw : FlashController} (hwork : hw.Works) {flash : Mem}
    {adr x : ℕ} (hx : ∀ op ∈ (flashErasePage hw flash adr).2, ¬ op.touches x) :
    (flashErasePage hw flash adr).1 x = flash x := by
  rcases flashErasePage_ops hw flash adr with h | h <;> rw [h] at hx ⊢
  exact (hwork.erasePage_apply _ _ _).trans (if_neg (hx _ List.mem_cons_self))

/-! ## Write -/

/-- Every program of `flash_write_block` stores a half-word of `data` at its place. -/
theorem mem_writeHalfWords {hw : FlashController} {adr : ℕ} {data : Mem} {n i : ℕ} {flash : Mem}
    {op : FlashOp} (h : op ∈ (writeHalfWords hw adr data n i flash).2) :
    ∃ j < n, op = .program (adr + 2 * (i + j)) (halfWord data (2 * (i + j))) := by
  induction n generalizing i flash with
  | zero => cases h
  | succ n ih =>
    have hnext : ∀ {f : Mem}, op ∈ (writeHalfWords hw adr data n (i + 1) f).2 →
        ∃ j < n + 1, op = .program (adr + 2 * (i + j)) (halfWord data (2 * (i + j))) := by
      intro f hf
      obtain ⟨j, hj, rfl⟩ := ih hf
      exact ⟨j + 1, by omega, by rw [show i + 1 + j = i + (j + 1) by omega]⟩
    unfold writeHalfWords at h
    split at h
    · rcases List.mem_cons.mp h with rfl | h
      · exact ⟨0, by omega, rfl⟩
      · exact hnext h
    · exact hnext h

/-- A block that does not match gets a half-word programmed. -/
theorem writeHalfWords_ne_nil {hw : FlashController} {adr : ℕ} {data : Mem} {n i k : ℕ}
    {flash : Mem} (h : firstMismatch flash adr data n i = some k) :
    (writeHalfWords hw adr data n i flash).2 ≠ [] := by
  induction n generalizing i with
  | zero => cases h
  | succ n ih =>
    unfold firstMismatch at h
    unfold writeHalfWords
    split at h
    · rename_i hne
      simp only [if_pos hne]
      exact List.cons_ne_nil _ _
    · rename_i heq
      simp only [if_neg heq]
      exact ih h

/-- Outside its range `flash_write_block` changes nothing. -/
theorem writeHalfWords_frame {hw : FlashController} (hwork : hw.Works) (adr : ℕ) (data : Mem)
    (n i : ℕ) (flash : Mem) {x : ℕ} (hx : x < adr + 2 * i ∨ adr + 2 * (i + n) ≤ x) :
    (writeHalfWords hw adr data n i flash).1 x = flash x := by
  induction n generalizing i flash with
  | zero => rfl
  | succ n ih =>
    unfold writeHalfWords
    split
    · simp only
      rw [ih (i + 1) _ (by omega), hwork.program_frame _ _ _ _ (by omega) (by omega)]
    · exact ih (i + 1) _ (by omega)

/-- `flash_write_block` changes nothing that its programs do not touch. -/
theorem writeHalfWords_untouched {hw : FlashController} (hwork : hw.Works) {adr : ℕ} {data : Mem}
    {n i : ℕ} {flash : Mem} {x : ℕ}
    (hx : ∀ op ∈ (writeHalfWords hw adr data n i flash).2, ¬ op.touches x) :
    (writeHalfWords hw adr data n i flash).1 x = flash x := by
  induction n generalizing i flash with
  | zero => rfl
  | succ n ih =>
    unfold writeHalfWords at hx ⊢
    split at hx
    · rename_i hne
      rw [if_pos hne]
      obtain ⟨h0, h1⟩ := not_or.mp (hx _ List.mem_cons_self)
      rw [ih fun op hop => hx op (List.mem_cons_of_mem _ hop)]
      exact hwork.program_frame _ _ _ _ h0 h1
    · rename_i heq
      rw [if_neg heq]
      exact ih hx

/-- On erased flash `flash_write_block` stores the block. -/
theorem writeHalfWords_apply {hw : FlashController} (hwork : hw.Works) (adr : ℕ) (data : Mem)
    (n i : ℕ) (flash : Mem) (he : ∀ x, 2 * i ≤ x → x < 2 * (i + n) → flash (adr + x) = 0xFF)
    {x : ℕ} (h1 : 2 * i ≤ x) (h2 : x < 2 * (i + n)) :
    (writeHalfWords hw adr data n i flash).1 (adr + x) = data x := by
  induction n generalizing i flash with
  | zero => omega
  | succ n ih =>
    have hhalf : halfWord flash (adr + 2 * i) = (0xFF, 0xFF) := by
      rw [halfWord, he (2 * i) (by omega) (by omega), Nat.add_assoc,
        he (2 * i + 1) (by omega) (by omega)]
    unfold writeHalfWords
    split
    · simp only
      rw [hwork.program_erased _ _ _ hhalf]
      by_cases hx : x < 2 * (i + 1)
      · -- This half-word: the later ones leave it alone.
        rw [writeHalfWords_frame hwork adr data n (i + 1) _ (.inl (by omega)), halfWord]
        rcases by omega with rfl | rfl : x = 2 * i ∨ x = 2 * i + 1
        · exact write_head _ _ _ _
        · exact write_add _ _ 1 _ (by simp)
      · refine ih (i + 1) _ (fun y hy1 hy2 => ?_) (by omega) (by omega)
        rw [write_of_le _ (by simp only [List.length_cons, List.length_nil]; omega)]
        exact he y (by omega) (by omega)
    · rename_i heq
      by_cases hx : x < 2 * (i + 1)
      · rw [writeHalfWords_frame hwork adr data n (i + 1) _ (.inl (by omega))]
        have hsame := not_not.mp heq
        simp only [halfWord, Prod.mk.injEq] at hsame
        rcases by omega with rfl | rfl : x = 2 * i ∨ x = 2 * i + 1
        · exact hsame.1
        · exact hsame.2
      · exact ih (i + 1) flash (fun y hy1 hy2 => he y (by omega) (by omega)) (by omega) (by omega)

end HouseBus
