import HouseBus.Lib.Bytes

/-!
# The EEPROM driver (`sw/drivers/eeprom24c.c`)

The EEPROM is a byte memory behind an I2C bus. The bus is a parameter: `Bus` tells of each
transaction, by its number, whether it succeeds; one that fails may have moved any of its bytes.
The chip writes inside one page of 32 bytes: a write that reaches the end of its page goes on at the
page's first byte (`pageWrite`), so the driver splits what it writes at the page ends.

On a bus without failures `eepromRead` and `eepromWrite` are a read and a write of the memory
(`eepromRead_works`, `eepromWrite_works`).
-/

namespace HouseBus

open Bytes

/-- `EEPROM_CAPACITY` -/
def eepromCapacity : ℕ := 0x10000

/-- `EEPROM_PAGE_SIZE` -/
def eepromPageSize : ℕ := 32

/-- `EEPROM_RETRY_COUNT` -/
def eepromRetryCount : ℕ := 2

/-- The result of `i2cMasterTransmitTimeout`: `MSG_OK`, or another one after the bytes for which
`moved` holds were moved. (After a time-out the driver resets the bus, which moves no data.) -/
inductive Transfer
  | ok
  | failed (moved : ℕ → Bool)

/-- The result of each transaction. -/
abbrev Bus := ℕ → Transfer

/-- The bus without failures. -/
def Bus.works : Bus := fun _ => .ok

/-- The EEPROM, the number of transactions so far and the writes among them. -/
structure I2c where
  eeprom : Mem
  transactions : ℕ
  pageWrites : List (ℕ × List UInt8)

/-- The chip stores the bytes for which `moved` holds from `adr` on, inside the page of `adr`. -/
def pageWrite (m : Mem) (adr : ℕ) : List UInt8 → (ℕ → Bool) → Mem
  | [], _ => m
  | b :: bs, moved =>
    let m := if moved 0 then put m adr b else m
    let page := adr - adr % eepromPageSize
    pageWrite m (page + (adr + 1) % eepromPageSize) bs fun i => moved (i + 1)

namespace I2c

/-- One more transaction. -/
def next (s : I2c) : I2c := { s with transactions := s.transactions + 1 }

@[simp] theorem eeprom_next (s : I2c) : s.next.eeprom = s.eeprom := rfl

/-- A transaction that reads `size` bytes from `adr` on to `dst[base..]`. -/
def receive (bus : Bus) (adr size : ℕ) (base : ℕ) (dst : Mem) (s : I2c) : Bool × Mem × I2c :=
  match bus s.transactions with
  | .ok => (true, write dst base (read s.eeprom adr size), s.next)
  | .failed moved =>
    let got : Mem := fun x =>
      if base ≤ x ∧ x < base + size ∧ moved (x - base) = true then s.eeprom (adr + (x - base))
      else dst x
    (false, got, s.next)

/-- A transaction that writes `bytes` from `adr` on. -/
def transmit (bus : Bus) (adr : ℕ) (bytes : List UInt8) (s : I2c) : Bool × I2c :=
  let next := { s.next with pageWrites := s.pageWrites ++ [(adr, bytes)] }
  match bus s.transactions with
  | .ok => (true, { next with eeprom := pageWrite s.eeprom adr bytes fun _ => true })
  | .failed moved => (false, { next with eeprom := pageWrite s.eeprom adr bytes moved })

end I2c

/-! ## The functions -/

/-- What `eeprom_read` returns and leaves behind `out`. -/
structure EepromRead where
  ret : ℤ
  out : Mem
  i2c : I2c

/-- The loop of `eeprom_read` with `tries` tries left. -/
def eepromReadTries (bus : Bus) (adr size base : ℕ) : (tries : ℕ) → Mem → I2c → EepromRead
  | 0, out, s => ⟨-1, out, s⟩
  | tries + 1, out, s =>
    match s.receive bus adr size base out with
    | (true, out, s) => ⟨0, out, s⟩
    | (false, out, s) => eepromReadTries bus adr size base tries out s

/-- `eeprom_read` to `out[base..]`. -/
def eepromRead (bus : Bus) (adr size base : ℕ) (out : Mem) (s : I2c) : EepromRead :=
  if eepromCapacity < adr ∨ eepromCapacity < adr + size then ⟨-1, out, s⟩
  else eepromReadTries bus adr size base eepromRetryCount out s

/-- The loop of `eeprom_write_ack_poll`: 0 as soon as the chip answers. -/
def ackPollTries (bus : Bus) : (tries : ℕ) → I2c → ℤ × I2c
  | 0, s => (1, s)
  | tries + 1, s =>
    let r := eepromRead bus 0 1 0 (fun _ => 0) s
    if r.ret = 0 then (0, r.i2c) else ackPollTries bus tries r.i2c

/-- `eeprom_write_ack_poll` -/
def eepromWriteAckPoll (bus : Bus) (s : I2c) : ℤ × I2c := ackPollTries bus 5 s

/-- The tries of `eeprom_write` for one page: whether one was successful. -/
def writePageTries (bus : Bus) (adr : ℕ) (bytes : List UInt8) : (tries : ℕ) → I2c → Bool × I2c
  | 0, s => (false, s)
  | tries + 1, s =>
    match s.transmit bus adr bytes with
    | (true, s) =>
      let poll := eepromWriteAckPoll bus s
      if poll.1 = 0 then (true, poll.2) else writePageTries bus adr bytes tries poll.2
    | (false, s) => writePageTries bus adr bytes tries s

/-- The `while` of `eeprom_write`, with `in[base..]` to be written; `adr` has 16 bits. -/
def writePages (bus : Bus) (src : Mem) (adr base size writeSize : ℕ) (s : I2c) : ℤ × I2c :=
  if writeSize = 0 then (0, s)
  else
    let page := writePageTries bus adr (read src base writeSize) eepromRetryCount s
    if page.1 = false then (-1, page.2)
    else
      let size' := size - writeSize
      writePages bus src ((adr + writeSize) % 2 ^ 16) (base + writeSize) size'
        (if eepromPageSize < size' then eepromPageSize else size') page.2
termination_by (size, writeSize)
decreasing_by
  rcases Nat.eq_zero_or_pos size with rfl | hpos
  · rw [Nat.zero_sub]
    exact Prod.Lex.right _ (by split <;> omega)
  · exact Prod.Lex.left _ _ (by omega)

/-- The size of the first write of `eeprom_write`: up to the end of the page of `adr`. The page
address has 16 bits, the space 8. -/
def firstWriteSize (adr size : ℕ) : ℕ :=
  let nextPageAdr := (adr - adr % eepromPageSize + eepromPageSize) % 2 ^ 16
  let pageSpace := (nextPageAdr + 2 ^ 16 - adr) % 256
  if pageSpace < size then pageSpace else size

/-- `eeprom_write` of `in[0..size)`. -/
def eepromWrite (bus : Bus) (adr : ℕ) (src : Mem) (size : ℕ) (s : I2c) : ℤ × I2c :=
  if eepromCapacity < adr ∨ eepromCapacity < adr + size then (-1, s)
  else writePages bus src adr 0 size (firstWriteSize adr size) s

/-! ## Reads leave the memory -/

@[simp] theorem eeprom_eepromReadTries (bus : Bus) (adr size base tries : ℕ) (out : Mem) (s : I2c) :
    (eepromReadTries bus adr size base tries out s).i2c.eeprom = s.eeprom := by
  induction tries generalizing out s with
  | zero => rfl
  | succ tries ih =>
    rw [eepromReadTries, I2c.receive]
    cases bus s.transactions with
    | ok => rfl
    | failed moved => exact ih _ _

@[simp] theorem eeprom_eepromRead (bus : Bus) (adr size base : ℕ) (out : Mem) (s : I2c) :
    (eepromRead bus adr size base out s).i2c.eeprom = s.eeprom := by
  unfold eepromRead
  split
  · rfl
  · exact eeprom_eepromReadTries _ _ _ _ _ _ _

/-! ## Without failures -/

section Works

variable {adr size base : ℕ} {m src out : Mem} {s : I2c}

/-- Up to the end of its page a write is a plain one. -/
theorem pageWrite_eq_write (m : Mem) (bytes : List UInt8)
    (h : adr % eepromPageSize + bytes.length ≤ eepromPageSize) :
    (pageWrite m adr bytes fun _ => true) = write m adr bytes := by
  simp only [eepromPageSize] at h
  induction bytes generalizing m adr with
  | nil => rw [write_nil]; rfl
  | cons b bs ih =>
    rw [List.length_cons] at h
    rw [pageWrite, write_cons]
    simp only [↓reduceIte, eepromPageSize]
    cases bs with
    | nil => rw [write_nil]; rfl
    | cons c cs =>
      rw [List.length_cons] at h
      have hnext : adr - adr % 32 + (adr + 1) % 32 = adr + 1 := by omega
      rw [hnext]
      exact ih _ (by rw [List.length_cons]; omega)

theorem eepromRead_works (base : ℕ) (out : Mem) (s : I2c) (h : adr + size ≤ eepromCapacity) :
    eepromRead .works adr size base out s =
      ⟨0, write out base (read s.eeprom adr size), s.next⟩ := by
  rw [eepromRead, if_neg (by omega)]
  rfl

theorem eepromWriteAckPoll_works (s : I2c) : eepromWriteAckPoll .works s = (0, s.next) := by
  rw [eepromWriteAckPoll, ackPollTries, eepromRead_works _ _ _ (by decide)]
  rfl

/-- The state after a successful write of one page, with the poll behind it. -/
def I2c.stored (s : I2c) (w : ℕ × List UInt8) : I2c where
  eeprom := write s.eeprom w.1 w.2
  transactions := s.transactions + 2
  pageWrites := s.pageWrites ++ [w]

@[simp] theorem eeprom_stored (s : I2c) (w : ℕ × List UInt8) :
    (s.stored w).eeprom = write s.eeprom w.1 w.2 := rfl

theorem writePageTries_stored (bytes : List UInt8) (s : I2c)
    (h : adr % eepromPageSize + bytes.length ≤ eepromPageSize) :
    writePageTries .works adr bytes eepromRetryCount s = (true, s.stored (adr, bytes)) := by
  have htransmit : s.transmit .works adr bytes =
      (true, { s.next with
        eeprom := write s.eeprom adr bytes
        pageWrites := s.pageWrites ++ [(adr, bytes)] }) := by
    simp only [I2c.transmit, Bus.works, pageWrite_eq_write s.eeprom bytes h]
  simp only [eepromRetryCount, writePageTries, htransmit, eepromWriteAckPoll_works, ↓reduceIte]
  rfl

/-- One page of the loop. -/
theorem writePages_stored {writeSize : ℕ} (hpos : writeSize ≠ 0)
    (hpage : adr % eepromPageSize + writeSize ≤ eepromPageSize) :
    writePages .works src adr base size writeSize s =
      writePages .works src ((adr + writeSize) % 2 ^ 16) (base + writeSize) (size - writeSize)
        (if eepromPageSize < size - writeSize then eepromPageSize else size - writeSize)
        (s.stored (adr, read src base writeSize)) := by
  rw [writePages, if_neg hpos, writePageTries_stored _ _ (by rw [length_read]; exact hpage)]
  rfl

/-- The 16-bit page address and the 8-bit space give the rest of the page, also on the last page. -/
theorem firstWriteSize_eq (h : adr + size ≤ eepromCapacity) (hpos : 0 < size) :
    firstWriteSize adr size = min (eepromPageSize - adr % eepromPageSize) size := by
  have hspace : ((adr - adr % eepromPageSize + eepromPageSize) % 2 ^ 16 + 2 ^ 16 - adr) % 256 =
      eepromPageSize - adr % eepromPageSize := by
    simp only [eepromCapacity, eepromPageSize] at *
    omega
  simp only [firstWriteSize, hspace]
  split <;> omega

/-- The next write after one up to the end of its page: full pages, then the rest. -/
theorem next_writeSize {writeSize size' : ℕ} (adr : ℕ) (hend : size' ≠ 0 → eepromPageSize ∣ adr)
    (h : writeSize = if eepromPageSize < size' then eepromPageSize else size') :
    (size' ≠ 0 → writeSize ≠ 0) ∧ writeSize ≤ size' ∧
      adr % eepromPageSize + writeSize ≤ eepromPageSize ∧
      (writeSize < size' → eepromPageSize ∣ adr + writeSize) := by
  have hmin : writeSize = min eepromPageSize size' := by split at h <;> omega
  simp only [eepromPageSize] at *
  omega

/-- A loop whose writes stay inside their pages writes all data. -/
theorem writePages_works {writeSize : ℕ} (h : adr + size ≤ eepromCapacity)
    (hsize : size ≠ 0 → writeSize ≠ 0) (hle : writeSize ≤ size)
    (hpage : adr % eepromPageSize + writeSize ≤ eepromPageSize)
    (hend : writeSize < size → eepromPageSize ∣ adr + writeSize) :
    (writePages .works src adr base size writeSize s).1 = 0 ∧
      (writePages .works src adr base size writeSize s).2.eeprom =
        write s.eeprom adr (read src base size) := by
  induction hm : size using Nat.strongRecOn generalizing adr base size writeSize s with
  | _ n ih =>
    subst hm
    by_cases h0 : writeSize = 0
    · have : size = 0 := by omega
      rw [writePages]
      simp [h0, this]
    · rw [writePages_stored h0 hpage]
      obtain ⟨d, hd⟩ : ∃ d, size = writeSize + d := ⟨size - writeSize, by omega⟩
      have hrest : size - writeSize = d := by omega
      rw [hrest]
      rcases Nat.eq_zero_or_pos d with rfl | hpos
      · rw [writePages]
        simp [hd]
      · -- The address is still below the capacity, so it does not wrap.
        have hadr : (adr + writeSize) % 2 ^ 16 = adr + writeSize := by
          simp only [eepromCapacity] at h
          omega
        obtain ⟨h1, h2, h3, h4⟩ := next_writeSize (adr + writeSize)
          (fun _ : d ≠ 0 => hend (by omega)) rfl
        have hstored := eeprom_stored s (adr, read src base writeSize)
        rw [hadr, hd, read_add, write_append, length_read, ← hstored]
        exact ih d (by omega) (by omega) h1 h2 h3 h4 rfl

/-- **A paged write** on a bus without failures is a plain write of the memory. -/
theorem eepromWrite_works (src : Mem) (s : I2c) (h : adr + size ≤ eepromCapacity) :
    (eepromWrite .works adr src size s).1 = 0 ∧
      (eepromWrite .works adr src size s).2.eeprom = write s.eeprom adr (read src 0 size) := by
  rw [eepromWrite, if_neg (by omega)]
  rcases Nat.eq_zero_or_pos size with rfl | hpos
  · rw [writePages]
    simp [firstWriteSize]
  · have hfirst := firstWriteSize_eq h hpos
    simp only [eepromPageSize] at hfirst
    exact writePages_works h (by omega) (by omega) (by simp only [eepromPageSize]; omega)
      (by simp only [eepromPageSize]; omega)

end Works

/-! ## The page writes of a run without failures -/

/-- The memory after the writes `ws`. -/
def storeAll (m : Mem) (ws : List (ℕ × List UInt8)) : Mem :=
  ws.foldl (fun m w => write m w.1 w.2) m

theorem eeprom_foldl_stored (s : I2c) (ws : List (ℕ × List UInt8)) :
    (ws.foldl I2c.stored s).eeprom = storeAll s.eeprom ws := by
  induction ws generalizing s with
  | nil => rfl
  | cons w ws ih => exact ih (s.stored w)

theorem pageWrites_foldl_stored (s : I2c) (ws : List (ℕ × List UInt8)) :
    (ws.foldl I2c.stored s).pageWrites = s.pageWrites ++ ws := by
  induction ws generalizing s with
  | nil => exact (List.append_nil _).symm
  | cons w ws ih =>
    rw [List.foldl_cons, ih, I2c.stored, List.append_assoc]
    rfl

theorem storeAll_append (m : Mem) (ws vs : List (ℕ × List UInt8)) :
    storeAll m (ws ++ vs) = storeAll (storeAll m ws) vs := List.foldl_append

/-- An address that no write touches keeps its byte. -/
theorem storeAll_of_outside {m : Mem} {ws : List (ℕ × List UInt8)} {x : ℕ}
    (h : ∀ w ∈ ws, x < w.1 ∨ w.1 + w.2.length ≤ x) : storeAll m ws x = m x := by
  induction ws generalizing m with
  | nil => rfl
  | cons w ws ih =>
    rw [List.forall_mem_cons] at h
    have hrest : storeAll (write m w.1 w.2) ws x = write m w.1 w.2 x := ih h.2
    show storeAll (write m w.1 w.2) ws x = m x
    rw [hrest]
    obtain hlt | hle := h.1
    · exact write_of_lt _ _ hlt
    · exact write_of_le _ hle

section Stored

variable {adr size base : ℕ} {src : Mem} {s : I2c}

/-- A write inside one page. -/
theorem eepromWrite_page (hpos : 0 < size) (h : adr + size ≤ eepromCapacity)
    (hpage : adr % eepromPageSize + size ≤ eepromPageSize) :
    eepromWrite .works adr src size s = (0, s.stored (adr, read src 0 size)) := by
  have hfirst : firstWriteSize adr size = size := by
    rw [firstWriteSize_eq h hpos]
    omega
  rw [eepromWrite, if_neg (by omega), hfirst, writePages_stored (by omega) hpage, Nat.sub_self]
  rw [writePages, if_pos (by rfl)]

/-- A write of the rest of one page and a part of the next. -/
theorem eepromWrite_twoPages {a b : ℕ} (ha : adr % eepromPageSize + a = eepromPageSize)
    (hapos : 0 < a) (hbpos : 0 < b) (hb : b ≤ eepromPageSize)
    (h : adr + (a + b) ≤ eepromCapacity) :
    eepromWrite .works adr src (a + b) s =
      (0, (s.stored (adr, read src 0 a)).stored (adr + a, read src a b)) := by
  have hfirst : firstWriteSize adr (a + b) = a := by
    rw [firstWriteSize_eq h (by omega)]
    omega
  have hadr : (adr + a) % 2 ^ 16 = adr + a := by
    simp only [eepromCapacity] at h
    omega
  have hrest : a + b - a = b := by omega
  have hpage : (adr + a) % eepromPageSize + b ≤ eepromPageSize := by
    simp only [eepromPageSize] at *
    omega
  rw [eepromWrite, if_neg (by omega), hfirst, writePages_stored (by omega) (by omega), hadr, hrest,
    if_neg (by omega), writePages_stored (by omega) hpage, Nat.sub_self, Nat.zero_add]
  rw [writePages, if_pos (by rfl)]

end Stored

end HouseBus
