import HouseBus.Eeprom.Failures

/-!
# Writes on any bus

What `eeprom_write` leaves behind, whatever the bus does (`eepromWrite_exact`). Each try of a page
leaves it between the old and the new bytes, and the last one, if it succeeds, with the new ones
(`PageTried`). So a write that fails at a page has stored all bytes before it and none behind it
(`WrittenUpTo`).
-/

namespace HouseBus

open Bytes

/-! ## One page -/

/-- After `n` more transactions that store nothing. -/
def I2c.skip (s : I2c) (n : ℕ) : I2c := { s with transactions := s.transactions + n }

theorem eepromReadTries_skip (bus : Bus) (adr size base tries : ℕ) (out : Mem) (s : I2c) :
    ∃ n ≤ tries, (eepromReadTries bus adr size base tries out s).i2c = s.skip n := by
  induction tries generalizing out s with
  | zero => exact ⟨0, Nat.le_refl 0, rfl⟩
  | succ tries ih =>
    rw [eepromReadTries_succ]
    split
    · exact ⟨1, by omega, rfl⟩
    · obtain ⟨n, hn, heq⟩ := ih (s.receive bus adr size base out).2.1 s.next
      refine ⟨1 + n, by omega, heq.trans ?_⟩
      simp only [I2c.skip, I2c.next, Nat.add_assoc]

theorem ackPollTries_skip (bus : Bus) (tries : ℕ) (s : I2c) :
    ∃ n ≤ 2 * tries, (ackPollTries bus tries s).2 = s.skip n := by
  induction tries generalizing s with
  | zero => exact ⟨0, Nat.le_refl 0, rfl⟩
  | succ tries ih =>
    have hread : eepromRead bus 0 1 0 (fun _ => 0) s =
        eepromReadTries bus 0 1 0 eepromRetryCount (fun _ => 0) s := if_neg (by decide)
    obtain ⟨n, hn, heq⟩ :=
      eepromReadTries_skip bus 0 1 0 eepromRetryCount (fun _ => 0) s
    have htwo : n ≤ 2 := hn
    rw [ackPollTries, hread]
    split
    · exact ⟨n, by omega, heq⟩
    · obtain ⟨k, hk, hrest⟩ := ih (s.skip n)
      rw [heq]
      refine ⟨n + k, by omega, hrest.trans ?_⟩
      simp only [I2c.skip, Nat.add_assoc]

/-- A part of a write that stays inside its page. -/
theorem pageWrite_between (m : Mem) {adr : ℕ} (bytes : List UInt8) (moved : ℕ → Bool)
    (h : adr % eepromPageSize + bytes.length ≤ eepromPageSize) :
    Between m (write m adr bytes) (pageWrite m adr bytes moved) := by
  simp only [eepromPageSize] at h
  induction bytes generalizing m adr moved with
  | nil => exact fun x => .inl rfl
  | cons b bs ih =>
    rw [List.length_cons] at h
    -- the first byte may be stored, the others follow it
    have hrest : ∀ m', Between m' (write m' (adr + 1) bs)
        (pageWrite m' (adr - adr % eepromPageSize + (adr + 1) % eepromPageSize) bs
          fun i => moved (i + 1)) := by
      intro m'
      cases bs with
      | nil => exact fun x => .inl rfl
      | cons c cs =>
        rw [List.length_cons] at h
        have hnext : adr - adr % 32 + (adr + 1) % 32 = adr + 1 := by omega
        rw [eepromPageSize, hnext]
        apply ih
        rw [List.length_cons]
        omega
    rw [pageWrite, write_cons]
    intro x
    by_cases hfirst : moved 0 = true
    · rw [if_pos hfirst]
      obtain hold | hnew := hrest (put m adr b) x
      · rw [hold]
        by_cases hx : x = adr
        · right
          rw [write_of_lt _ _ (by omega)]
        · left
          exact if_neg hx
      · exact .inr hnew
    · rw [if_neg hfirst]
      obtain hold | hnew := hrest m x
      · exact .inl hold
      · obtain hkeep | hsame := write_cases (adr + 1) bs x
        · exact .inl (hnew.trans (hkeep m))
        · exact .inr (hnew.trans (hsame m _))

/-- `s'` is left by at most `tries` tries of the page write `w`, and its polls. -/
structure PageTried (s : I2c) (w : ℕ × List UInt8) (tries : ℕ) (ok : Bool) (s' : I2c) : Prop where
  issued : ∃ k ≤ tries, s'.pageWrites = s.pageWrites ++ List.replicate k w ∧
    (ok = false → k = tries)
  transactions : s'.transactions ≤ s.transactions + 11 * tries
  between : Between s.eeprom (write s.eeprom w.1 w.2) s'.eeprom
  stored : ok = true → s'.eeprom = write s.eeprom w.1 w.2

/-- One try before others. -/
theorem PageTried.after {s s' s'' : I2c} {w : ℕ × List UInt8} {tries : ℕ} {ok : Bool}
    (hissued : s'.pageWrites = s.pageWrites ++ [w])
    (htransactions : s'.transactions ≤ s.transactions + 11)
    (hbetween : Between s.eeprom (write s.eeprom w.1 w.2) s'.eeprom)
    (h : PageTried s' w tries ok s'') : PageTried s w (tries + 1) ok s'' where
  issued := by
    obtain ⟨k, hk, heq, hall⟩ := h.issued
    refine ⟨k + 1, by omega, ?_, fun hno => by rw [hall hno]⟩
    rw [heq, hissued, List.append_assoc, List.replicate_succ]
    rfl
  transactions := by
    have := h.transactions
    omega
  between := hbetween.trans h.between
  stored hok := (h.stored hok).trans (write_between hbetween)

theorem writePageTries_tried (bus : Bus) {adr : ℕ} {bytes : List UInt8}
    (hpage : adr % eepromPageSize + bytes.length ≤ eepromPageSize) (tries : ℕ) (s : I2c) :
    PageTried s (adr, bytes) tries (writePageTries bus adr bytes tries s).1
      (writePageTries bus adr bytes tries s).2 := by
  induction tries generalizing s with
  | zero =>
    refine ⟨⟨0, Nat.le_refl 0, (List.append_nil _).symm, fun _ => rfl⟩, Nat.le_refl _,
      fun x => .inl rfl, ?_⟩
    exact fun hok => absurd hok Bool.false_ne_true
  | succ tries ih =>
    -- the transaction itself
    have hsent : ∃ m, (s.transmit bus adr bytes).2 =
          ⟨m, s.transactions + 1, s.pageWrites ++ [(adr, bytes)]⟩ ∧
        Between s.eeprom (write s.eeprom adr bytes) m ∧
        ((s.transmit bus adr bytes).1 = true → m = write s.eeprom adr bytes) := by
      unfold I2c.transmit
      cases bus s.transactions with
      | ok =>
        refine ⟨_, rfl, pageWrite_between _ bytes _ hpage, fun _ => ?_⟩
        exact pageWrite_eq_write _ bytes hpage
      | failed moved =>
        refine ⟨_, rfl, pageWrite_between _ bytes _ hpage, ?_⟩
        exact fun hok => absurd hok Bool.false_ne_true
    obtain ⟨m, hstate, hbetween, hstored⟩ := hsent
    rw [writePageTries_succ]
    simp only
    rw [hstate]
    split
    · rename_i hok
      obtain ⟨n, hn, hpoll⟩ :=
        ackPollTries_skip bus 5 ⟨m, s.transactions + 1, s.pageWrites ++ [(adr, bytes)]⟩
      rw [eepromWriteAckPoll, hpoll]
      split
      · have hm := hstored hok
        refine ⟨⟨1, by omega, rfl, fun h => absurd h.symm Bool.false_ne_true⟩, ?_, hbetween,
          fun _ => hm⟩
        simp only [I2c.skip]
        omega
      · apply PageTried.after rfl _ hbetween (ih _)
        simp only [I2c.skip]
        omega
    · apply PageTried.after rfl _ hbetween (ih _)
      simp only
      omega

/-! ## All pages -/

/-- The bytes of a page write lie inside one page. -/
def OnePage (w : ℕ × List UInt8) : Prop :=
  w.2.length ≤ eepromPageSize ∧
    ∀ i < w.2.length, (w.1 + i) / eepromPageSize = w.1 / eepromPageSize

/-- `m'` is `m` with the first `k` bytes of `src` from `adr` on, and with any of the `n` bytes
behind them. -/
structure WrittenUpTo (m m' : Mem) (adr : ℕ) (src : Mem) (k n : ℕ) : Prop where
  before : ∀ i < k, m' (adr + i) = src i
  chunk : ∀ i, k ≤ i → i < k + n → m' (adr + i) = m (adr + i) ∨ m' (adr + i) = src i
  outside : ∀ x, x < adr ∨ adr + (k + n) ≤ x → m' x = m x

theorem write_read_in (m src : Mem) (adr : ℕ) {i n : ℕ} (h : i < n) :
    write m adr (read src 0 n) (adr + i) = src i := by
  rw [write_add m adr i _ (by rw [length_read]; exact h), getElem_read, Nat.zero_add]

theorem write_read_out (m src : Mem) {adr n x : ℕ} (h : x < adr ∨ adr + n ≤ x) :
    write m adr (read src 0 n) x = m x := by
  obtain hlt | hle := h
  · exact write_of_lt m _ hlt
  · exact write_of_le m (by rw [length_read]; exact hle)

theorem writtenUpTo_of_between {m m' src : Mem} {adr k n : ℕ}
    (h : Between (write m adr (read src 0 k)) (write m adr (read src 0 (k + n))) m') :
    WrittenUpTo m m' adr src k n where
  before i hi := by
    have hx := h (adr + i)
    rw [write_read_in m src adr hi, write_read_in m src adr (by omega), or_self] at hx
    exact hx
  chunk i hk hi := by
    have hx := h (adr + i)
    rw [write_read_out m src (by omega), write_read_in m src adr hi] at hx
    exact hx
  outside x hx := by
    have hout := h x
    rw [write_read_out m src (by omega), write_read_out m src hx, or_self] at hout
    exact hout

/-- The pages that a loop with a first write of `writeSize` bytes visits. -/
def pagesLeft (size writeSize : ℕ) : ℕ :=
  if writeSize = 0 then 0 else 1 + (size - writeSize + 31) / 32

/-- What a loop over the pages leaves: all bytes stored, or those before a page at which it failed.
-/
structure PagesWritten (src : Mem) (adr base size writeSize : ℕ) (s : I2c) (r : ℤ × I2c)
    (issued : List (ℕ × List UInt8)) : Prop where
  pageWrites : r.2.pageWrites = s.pageWrites ++ issued
  onePage : ∀ w ∈ issued, OnePage w
  transactions : r.2.transactions ≤ s.transactions + 22 * pagesLeft size writeSize
  stored : (r.1 = 0 ∧ r.2.eeprom = write s.eeprom adr (read src base size)) ∨
    (r.1 = -1 ∧ ∃ k n, k + n ≤ size ∧
      issued.getLast? = some (adr + k, read src (base + k) n) ∧
      Between (write s.eeprom adr (read src base k)) (write s.eeprom adr (read src base (k + n)))
        r.2.eeprom)

theorem onePage_read {adr n : ℕ} (src : Mem) (base : ℕ)
    (hpage : adr % eepromPageSize + n ≤ eepromPageSize) : OnePage (adr, read src base n) := by
  simp only [OnePage, length_read, eepromPageSize] at *
  exact ⟨by omega, fun i hi => by omega⟩

theorem pagesWritten_nil (src : Mem) (adr base : ℕ) (s : I2c) :
    PagesWritten src adr base 0 0 s (0, s) [] where
  pageWrites := (List.append_nil _).symm
  onePage w hw := absurd hw List.not_mem_nil
  transactions := Nat.le_add_right _ _
  stored := .inl ⟨rfl, by rw [read_zero, write_nil]⟩

/-- A page that is stored, before the others. -/
theorem PagesWritten.cons {src : Mem} {adr base d writeSize k : ℕ} {s s' : I2c} {r : ℤ × I2c}
    {issued : List (ℕ × List UInt8)} (h0 : writeSize ≠ 0)
    (hpage : adr % eepromPageSize + writeSize ≤ eepromPageSize)
    (hissued : s'.pageWrites = s.pageWrites ++ List.replicate k (adr, read src base writeSize))
    (hcount : s'.transactions ≤ s.transactions + 22)
    (hstored : s'.eeprom = write s.eeprom adr (read src base writeSize))
    (h : PagesWritten src (adr + writeSize) (base + writeSize) d
      (if eepromPageSize < d then eepromPageSize else d) s' r issued) :
    PagesWritten src adr base (writeSize + d) writeSize s r
      (List.replicate k (adr, read src base writeSize) ++ issued) where
  pageWrites := by rw [h.pageWrites, hissued, List.append_assoc]
  onePage := by
    rw [List.forall_mem_append]
    refine ⟨fun w hw => ?_, h.onePage⟩
    rw [List.eq_of_mem_replicate hw]
    exact onePage_read src base hpage
  transactions := by
    have hrest := h.transactions
    have hpages : pagesLeft (writeSize + d) writeSize = 1 + (d + 31) / 32 := by
      rw [pagesLeft, if_neg h0, Nat.add_sub_cancel_left]
    have hleft : pagesLeft d (if eepromPageSize < d then eepromPageSize else d) ≤
        (d + 31) / 32 := by
      have hmin : (if eepromPageSize < d then eepromPageSize else d) = min 32 d := by
        rw [eepromPageSize]
        split <;> omega
      rw [hmin, pagesLeft]
      split <;> omega
    rw [hpages]
    omega
  stored := by
    have hjoin : ∀ n, write s'.eeprom (adr + writeSize) (read src (base + writeSize) n) =
        write s.eeprom adr (read src base (writeSize + n)) := by
      intro n
      rw [hstored, read_add, write_append, length_read]
    obtain ⟨hret, hall⟩ | ⟨hret, k, n, hle, hlast, hbetween⟩ := h.stored
    · left
      exact ⟨hret, hall.trans (hjoin d)⟩
    · right
      refine ⟨hret, writeSize + k, n, by omega, ?_, ?_⟩
      · rw [List.getLast?_append, hlast, Option.some_or, ← Nat.add_assoc, ← Nat.add_assoc]
      · rw [hjoin, hjoin, ← Nat.add_assoc] at hbetween
        exact hbetween

/-- A page at which the write fails. -/
theorem PagesWritten.fail {src : Mem} {adr base size writeSize k : ℕ} {s s' : I2c}
    (h0 : writeSize ≠ 0) (hle : writeSize ≤ size)
    (hpage : adr % eepromPageSize + writeSize ≤ eepromPageSize) (hk : k ≠ 0)
    (hissued : s'.pageWrites = s.pageWrites ++ List.replicate k (adr, read src base writeSize))
    (hcount : s'.transactions ≤ s.transactions + 22)
    (hbetween : Between s.eeprom (write s.eeprom adr (read src base writeSize)) s'.eeprom) :
    PagesWritten src adr base size writeSize s (-1, s')
      (List.replicate k (adr, read src base writeSize)) where
  pageWrites := hissued
  onePage w hw := by
    rw [List.eq_of_mem_replicate hw]
    exact onePage_read src base hpage
  transactions := by
    rw [pagesLeft, if_neg h0]
    show s'.transactions ≤ _
    omega
  stored := by
    right
    refine ⟨rfl, 0, writeSize, by omega, ?_, ?_⟩
    · rw [List.getLast?_replicate, if_neg hk]
      rfl
    · rw [read_zero, write_nil, Nat.zero_add]
      exact hbetween

/-- **The loop over the pages**, on any bus. -/
theorem pagesWritten (bus : Bus) (src : Mem) {adr base size writeSize : ℕ} (s : I2c)
    (h : adr + size ≤ eepromCapacity) (hsize : size ≠ 0 → writeSize ≠ 0) (hle : writeSize ≤ size)
    (hpage : adr % eepromPageSize + writeSize ≤ eepromPageSize)
    (hend : writeSize < size → eepromPageSize ∣ adr + writeSize) :
    ∃ issued, PagesWritten src adr base size writeSize s
      (writePages bus src adr base size writeSize s) issued := by
  induction hm : size using Nat.strongRecOn generalizing adr base size writeSize s with
  | _ n ih =>
    subst hm
    rw [writePages]
    by_cases h0 : writeSize = 0
    · obtain rfl : size = 0 := by omega
      rw [if_pos h0, h0]
      exact ⟨[], pagesWritten_nil src adr base s⟩
    rw [if_neg h0]
    have hfits : adr % eepromPageSize + (read src base writeSize).length ≤ eepromPageSize := by
      rw [length_read]
      exact hpage
    have htried := writePageTries_tried bus hfits eepromRetryCount s
    generalize writePageTries bus adr (read src base writeSize) eepromRetryCount s = page at htried
    obtain ⟨ok, s'⟩ := page
    obtain ⟨k, hk, hissued, hall⟩ := htried.issued
    have hcount : s'.transactions ≤ s.transactions + 22 := htried.transactions
    cases ok with
    | false =>
      rw [if_pos rfl]
      have hk0 : k ≠ 0 := by
        rw [hall rfl]
        decide
      exact ⟨_, .fail h0 hle hpage hk0 hissued hcount htried.between⟩
    | true =>
      rw [if_neg (show ¬ true = false by decide)]
      obtain ⟨d, rfl⟩ : ∃ d, size = writeSize + d := ⟨size - writeSize, by omega⟩
      rw [Nat.add_sub_cancel_left]
      -- the rest of the loop; only behind the last page the address may wrap
      obtain ⟨issued, hpages⟩ : ∃ issued, PagesWritten src (adr + writeSize) (base + writeSize) d
          (if eepromPageSize < d then eepromPageSize else d) s'
          (writePages bus src ((adr + writeSize) % 2 ^ 16) (base + writeSize) d
            (if eepromPageSize < d then eepromPageSize else d) s') issued := by
        rcases Nat.eq_zero_or_pos d with rfl | hpos
        · rw [writePages]
          exact ⟨[], pagesWritten_nil src _ _ s'⟩
        · have hadr : (adr + writeSize) % 2 ^ 16 = adr + writeSize := by
            simp only [eepromCapacity] at h
            omega
          obtain ⟨h1, h2, h3, h4⟩ := next_writeSize (adr + writeSize)
            (fun _ : d ≠ 0 => hend (by omega)) rfl
          rw [hadr]
          exact ih d (by omega) s' (by omega) h1 h2 h3 h4 rfl
      exact ⟨_, hpages.cons h0 hpage hissued hcount (htried.stored rfl)⟩

/-! ## The whole write -/

/-- A write that fits is a loop over its pages. -/
theorem eepromWrite_pages (bus : Bus) (src : Mem) {adr size : ℕ} (s : I2c)
    (h : adr + size ≤ eepromCapacity) :
    ∃ issued, PagesWritten src adr 0 size (firstWriteSize adr size) s
      (eepromWrite bus adr src size s) issued := by
  have hwrite : eepromWrite bus adr src size s =
      writePages bus src adr 0 size (firstWriteSize adr size) s := by
    rw [eepromWrite, if_neg (by omega)]
  rw [hwrite]
  rcases Nat.eq_zero_or_pos size with rfl | hpos
  · have hnone : firstWriteSize adr 0 = 0 := by
      unfold firstWriteSize
      dsimp only
      rw [if_neg (Nat.not_lt_zero _)]
    rw [hnone, writePages, if_pos rfl]
    exact ⟨[], pagesWritten_nil src adr 0 s⟩
  · have hfirst := firstWriteSize_eq h hpos
    simp only [eepromPageSize] at hfirst
    exact pagesWritten bus src s h (by omega) (by omega)
      (by simp only [eepromPageSize]; omega) (by simp only [eepromPageSize]; omega)

/-- Behind the end of the chip nothing is written. -/
theorem eepromWrite_behind (bus : Bus) (src : Mem) {adr size : ℕ} (s : I2c)
    (h : eepromCapacity < adr + size) : eepromWrite bus adr src size s = (-1, s) := by
  rw [eepromWrite, if_pos (.inr h)]

/-- **A paged write is exact** on any bus: every page write lies in one page, their number has a
bound, and the memory has all bytes, or those before the page at which the write failed and a part
of that page. Behind the end of the chip nothing is written. -/
theorem eepromWrite_exact (bus : Bus) (adr : ℕ) (src : Mem) (size : ℕ) (s : I2c) :
    (adr + size ≤ eepromCapacity → ∃ issued,
      (eepromWrite bus adr src size s).2.pageWrites = s.pageWrites ++ issued ∧
      (∀ w ∈ issued, OnePage w) ∧
      (eepromWrite bus adr src size s).2.transactions ≤ s.transactions + 22 * (size / 32 + 2) ∧
      (((eepromWrite bus adr src size s).1 = 0 ∧
          (eepromWrite bus adr src size s).2.eeprom = write s.eeprom adr (read src 0 size)) ∨
        ((eepromWrite bus adr src size s).1 = -1 ∧ ∃ k n, k + n ≤ size ∧
          issued.getLast? = some (adr + k, read src k n) ∧
          WrittenUpTo s.eeprom (eepromWrite bus adr src size s).2.eeprom adr src k n))) ∧
    (eepromCapacity < adr + size → eepromWrite bus adr src size s = (-1, s)) := by
  constructor
  · intro h
    obtain ⟨issued, hpages⟩ := eepromWrite_pages bus src s h
    refine ⟨issued, hpages.pageWrites, hpages.onePage, ?_, ?_⟩
    · have hcount := hpages.transactions
      have hleft : pagesLeft size (firstWriteSize adr size) ≤ size / 32 + 2 := by
        rw [pagesLeft]
        split <;> omega
      omega
    · obtain hall | ⟨hret, k, n, hle, hlast, hbetween⟩ := hpages.stored
      · exact .inl hall
      · rw [Nat.zero_add] at hlast
        exact .inr ⟨hret, k, n, hle, hlast, writtenUpTo_of_between hbetween⟩
  · exact eepromWrite_behind bus src s

/-- On any bus a write leaves each byte as it was, or stores its own. -/
theorem eepromWrite_between (bus : Bus) (adr : ℕ) (src : Mem) (size : ℕ) (s : I2c) :
    Between s.eeprom (write s.eeprom adr (read src 0 size))
      (eepromWrite bus adr src size s).2.eeprom := by
  intro x
  by_cases hcap : adr + size ≤ eepromCapacity
  · obtain ⟨issued, hpages⟩ := eepromWrite_pages bus src s hcap
    obtain ⟨-, hall⟩ | ⟨-, k, n, hle, -, hbetween⟩ := hpages.stored
    · exact .inr (congrFun hall x)
    · have hpart := writtenUpTo_of_between hbetween
      by_cases hx : adr ≤ x ∧ x < adr + (k + n)
      · obtain ⟨i, rfl⟩ := Nat.exists_eq_add_of_le hx.1
        rw [write_read_in s.eeprom src adr (show i < size by omega)]
        by_cases hi : i < k
        · exact .inr (hpart.before i hi)
        · exact hpart.chunk i (by omega) (by omega)
      · exact .inl (hpart.outside x (by omega))
  · rw [eepromWrite_behind bus src s (by omega)]
    exact .inl rfl

end HouseBus
