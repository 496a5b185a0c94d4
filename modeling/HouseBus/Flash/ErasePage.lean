import HouseBus.Flash

/-!
# The blank scan of `flash_erase_page`

The scan counts `FLASH_PAGE_SIZE`, a number of bytes, in words of four bytes. In a page that is not
blank it stops inside, and the page is erased. In a blank page it goes on into the three pages
behind it: it reads outside of the page, and erases the blank page if one of them is not blank
(`erasesAsNeeded_iff`).
-/

namespace HouseBus

open Bytes

/-- The addresses of the words that the scan reads. -/
def eraseScanReads (flash : Mem) (p : ℕ) : (n i : ℕ) → List ℕ
  | 0, _ => []
  | n + 1, i =>
    (p + 4 * i) ::
      if leNat (read flash (p + 4 * i) 4) ≠ 0xFFFFFFFF then []
      else eraseScanReads flash p n (i + 1)

/-- The addresses of the words that `flash_erase_page` reads. -/
def eraseReads (flash : Mem) (adr : ℕ) : List ℕ :=
  eraseScanReads flash (adr - adr % (flashPageMask + 1)) flashPageSize 0

/-- Address `x` is in the page of `adr`. -/
def InPage (adr x : ℕ) : Prop := x / flashPageSize = adr / flashPageSize

/-- The page of `adr` contains a byte other than `0xFF`. -/
def NeedsErase (flash : Mem) (adr : ℕ) : Prop := ∃ x, InPage adr x ∧ flash x ≠ 0xFF

/-- What `flash_erase_page` is for: it reads words of its page only, starts an erase exactly if the
page needs it, leaves the page blank and the other pages as they are. -/
structure ErasesAsNeeded (hw : FlashController) (flash : Mem) (adr : ℕ) : Prop where
  reads : ∀ a ∈ eraseReads flash adr, ∀ k < 4, InPage adr (a + k)
  erases : .erase adr ∈ (flashErasePage hw flash adr).2 ↔ NeedsErase flash adr
  blank : ∀ x, InPage adr x → (flashErasePage hw flash adr).1 x = 0xFF
  others : ∀ x, ¬ InPage adr x → (flashErasePage hw flash adr).1 x = flash x

variable {flash : Mem} {adr p : ℕ}

/-! ## The scan -/

theorem word_of_erased {a : ℕ} (h : ∀ k < 4, flash (a + k) = 0xFF) :
    leNat (read flash a 4) = 0xFFFFFFFF := by
  have hbytes : read flash a (List.replicate 4 (0xFF : UInt8)).length = List.replicate 4 0xFF := by
    apply read_eq_iff.mpr
    intro k hk
    rw [List.getElem_replicate]
    exact h k (by simpa using hk)
  rw [List.length_replicate] at hbytes
  rw [hbytes]
  rfl

/-- The scan does not get past a word that is not blank. -/
theorem eraseScanReads_le {n i j a : ℕ} (hij : i ≤ j)
    (hj : leNat (read flash (p + 4 * j) 4) ≠ 0xFFFFFFFF)
    (ha : a ∈ eraseScanReads flash p n i) : ∃ k, k ≤ j ∧ a = p + 4 * k := by
  induction n generalizing i with
  | zero => cases ha
  | succ n ih =>
    obtain rfl | hrest := List.mem_cons.mp ha
    · exact ⟨i, hij, rfl⟩
    · split at hrest
      · cases hrest
      · rename_i hblank
        apply ih _ hrest
        have hne : i ≠ j := by
          rintro rfl
          exact hblank hj
        omega

/-- Behind blank words the scan goes on. -/
theorem mem_eraseScanReads {n i k : ℕ} (hk : k < n)
    (hblank : ∀ j < k, leNat (read flash (p + 4 * (i + j)) 4) = 0xFFFFFFFF) :
    p + 4 * (i + k) ∈ eraseScanReads flash p n i := by
  induction n generalizing i k with
  | zero => cases hk
  | succ n ih =>
    cases k with
    | zero => exact List.mem_cons_self
    | succ k =>
      have hfirst := hblank 0 (Nat.succ_pos k)
      rw [Nat.add_zero] at hfirst
      have hnext : i + (k + 1) = i + 1 + k := by omega
      rw [eraseScanReads, if_neg (not_not.mpr hfirst), hnext]
      apply List.mem_cons_of_mem
      apply ih (Nat.lt_of_succ_lt_succ hk)
      intro j hj
      have hshift : i + 1 + j = i + (j + 1) := by omega
      rw [hshift]
      exact hblank (j + 1) (Nat.succ_lt_succ hj)

/-! ## The page -/

theorem inPage_word {k : ℕ} (hk : k < 2048) :
    InPage adr (adr - adr % (flashPageMask + 1) + k) := by
  simp only [InPage, flashPageSize, flashPageMask]
  omega

/-- A byte of the page, by word and place in the word. -/
theorem InPage.word {x : ℕ} (h : InPage adr x) :
    ∃ j k, j < 512 ∧ k < 4 ∧ x = adr - adr % (flashPageMask + 1) + 4 * j + k := by
  simp only [InPage, flashPageSize] at h
  refine ⟨(x - adr / 2048 * 2048) / 4, (x - adr / 2048 * 2048) % 4, by omega, by omega, ?_⟩
  simp only [flashPageMask]
  omega

/-- A page that needs an erase has a word that is not blank. -/
theorem NeedsErase.word (h : NeedsErase flash adr) :
    ∃ j < 512, leNat (read flash (adr - adr % (flashPageMask + 1) + 4 * j) 4) ≠ 0xFFFFFFFF := by
  obtain ⟨x, hpage, hx⟩ := h
  obtain ⟨j, k, hj, hk, rfl⟩ := hpage.word
  exact ⟨j, hj, fun hword => hx (erased_of_word hword hk)⟩

theorem NeedsErase.reads (h : NeedsErase flash adr) {a : ℕ} (ha : a ∈ eraseReads flash adr) {k : ℕ}
    (hk : k < 4) : InPage adr (a + k) := by
  obtain ⟨j, hj, hword⟩ := h.word
  obtain ⟨i, hi, rfl⟩ := eraseScanReads_le (Nat.zero_le j) hword ha
  rw [Nat.add_assoc]
  exact inPage_word (by omega)

theorem NeedsErase.erases (h : NeedsErase flash adr) (hw : FlashController) :
    .erase adr ∈ (flashErasePage hw flash adr).2 := by
  obtain ⟨j, hj, hword⟩ := h.word
  have hstops : eraseScan flash (adr - adr % (flashPageMask + 1)) flashPageSize 0 ≠
      flashPageSize := by
    intro hfull
    rw [← Nat.zero_add j] at hword
    apply hword
    apply eraseScan_full
    · rw [Nat.zero_add]
      exact hfull
    · simp only [flashPageSize]
      omega
  rw [flashErasePage]
  simp only [if_neg hstops, List.mem_singleton]

/-- In a blank page the scan reads the first word of the next page. -/
theorem reads_next_page (h : ¬ NeedsErase flash adr) :
    adr - adr % (flashPageMask + 1) + 4 * (0 + 512) ∈ eraseReads flash adr := by
  apply mem_eraseScanReads
  · decide
  · intro j hj
    apply word_of_erased
    intro k hk
    by_contra hbyte
    refine h ⟨_, ?_, hbyte⟩
    rw [Nat.add_assoc]
    exact inPage_word (by omega)

/-- **When `flash_erase_page` does what it is for**: exactly for a page that needs an erase. -/
theorem erasesAsNeeded_iff {hw : FlashController} (hwork : hw.Works) (flash : Mem) (adr : ℕ) :
    ErasesAsNeeded hw flash adr ↔ NeedsErase flash adr := by
  constructor
  · intro h
    by_contra hblank
    have hpage := h.reads _ (reads_next_page hblank) 0 (by decide)
    simp only [InPage, flashPageSize, flashPageMask] at hpage
    omega
  · intro h
    exact
      { reads := fun a ha k hk => h.reads ha hk
        erases := iff_of_true (h.erases hw) h
        blank := fun x hx => (flashErasePage_apply hwork flash adr x).trans (if_pos hx)
        others := fun x hx => (flashErasePage_apply hwork flash adr x).trans (if_neg hx) }

theorem erasesAsNeeded_iff_stm32f0 :
    ErasesAsNeeded .stm32f0 (fun _ => 0) applicationFlashBase ↔
      NeedsErase (fun _ => 0) applicationFlashBase :=
  erasesAsNeeded_iff FlashController.stm32f0_works (fun _ => 0) applicationFlashBase

/-- In an empty flash the scan of the first page reads the second one. -/
theorem not_erasesAsNeeded :
    ¬ ∀ (hw : FlashController) (flash : Mem) (adr : ℕ), hw.Works → applicationFlashBase ≤ adr →
      adr < applicationFlashBase + applicationFlashSize → ErasesAsNeeded hw flash adr := by
  intro h
  have hempty := h .stm32f0 (fun _ => 0xFF) applicationFlashBase FlashController.stm32f0_works
    (Nat.le_refl _) (by decide)
  have hblank : ¬ NeedsErase (fun _ => 0xFF) applicationFlashBase := by
    rintro ⟨x, -, hx⟩
    exact hx rfl
  have hpage := hempty.reads _ (reads_next_page hblank) 0 (by decide)
  exact absurd hpage (by unfold InPage; decide)

end HouseBus
