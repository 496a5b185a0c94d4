import HouseBus.Eeprom

/-!
# The EEPROM driver on a failing bus

- **Reads** (`eepromRead_ret`, `eepromRead_out`): of the two tries one that succeeds is enough, and
  a byte arrives if one of the transactions moves it.
- **Writes** (`Oblivious`): a write looks at the bus only, from its first transaction on, and not at
  the memory. So it makes of every memory the same overlay, and it goes as on a bus that agrees from
  there on.
-/

namespace HouseBus

open Bytes

/-- Transaction `n` succeeds. -/
def Bus.succeeds (bus : Bus) (n : ℕ) : Bool :=
  match bus n with
  | .ok => true
  | .failed _ => false

/-- Transaction `n` moves the byte `i`. -/
def Bus.moves (bus : Bus) (n i : ℕ) : Bool :=
  match bus n with
  | .ok => true
  | .failed moved => moved i

theorem Bus.moves_of_succeeds {bus : Bus} {n : ℕ} (h : bus.succeeds n) (i : ℕ) :
    bus.moves n i = true := by
  unfold Bus.succeeds at h
  unfold Bus.moves
  cases hn : bus n with
  | ok => rfl
  | failed moved => rw [hn] at h; cases h

/-! ## Reads -/

section Read

/-- A byte of the target after one transaction. -/
theorem receive_out (bus : Bus) (adr base : ℕ) (out : Mem) (s : I2c) {size i : ℕ} (hi : i < size) :
    (s.receive bus adr size base out).2.1 (base + i) =
      if bus.moves s.transactions i then s.eeprom (adr + i) else out (base + i) := by
  unfold I2c.receive Bus.moves
  cases bus s.transactions with
  | ok =>
    rw [if_pos rfl]
    show write out base (Bytes.read s.eeprom adr size) (base + i) = s.eeprom (adr + i)
    rw [write_add _ _ _ _ (by rw [length_read]; exact hi), getElem_read]
  | failed moved =>
    simp only [Nat.le_add_right, Nat.add_lt_add_iff_left, hi, Nat.add_sub_cancel_left, true_and]

theorem receive_succeeds (bus : Bus) (adr size base : ℕ) (out : Mem) (s : I2c) :
    (s.receive bus adr size base out).1 = bus.succeeds s.transactions ∧
      (s.receive bus adr size base out).2.2 = s.next := by
  unfold I2c.receive Bus.succeeds
  cases bus s.transactions <;> exact ⟨rfl, rfl⟩

/-- One try of `eeprom_read`. -/
theorem eepromReadTries_succ (bus : Bus) (adr size base tries : ℕ) (out : Mem) (s : I2c) :
    eepromReadTries bus adr size base (tries + 1) out s =
      if bus.succeeds s.transactions then
        ⟨0, (s.receive bus adr size base out).2.1, s.next⟩
      else
        eepromReadTries bus adr size base tries (s.receive bus adr size base out).2.1 s.next := by
  obtain ⟨hret, hnext⟩ := receive_succeeds bus adr size base out s
  rw [eepromReadTries]
  generalize s.receive bus adr size base out = r at hret hnext
  obtain ⟨ok, out', s'⟩ := r
  simp only at hret hnext
  subst hret hnext
  cases bus.succeeds s.transactions <;> rfl

variable {bus : Bus} {adr size base : ℕ} {out : Mem} {s : I2c} (h : adr + size ≤ eepromCapacity)
include h

theorem eepromRead_eq :
    eepromRead bus adr size base out s =
      if bus.succeeds s.transactions then ⟨0, (s.receive bus adr size base out).2.1, s.next⟩
      else
        let out' := (s.receive bus adr size base out).2.1
        let second := (s.next.receive bus adr size base out').2.1
        ⟨if bus.succeeds (s.transactions + 1) then 0 else -1, second, s.next.next⟩ := by
  rw [eepromRead, if_neg (by omega), eepromRetryCount, eepromReadTries_succ, eepromReadTries_succ,
    eepromReadTries]
  by_cases h1 : bus.succeeds s.transactions = true
  · rw [if_pos h1, if_pos h1]
  · rw [if_neg h1, if_neg h1]
    have hnext : s.next.transactions = s.transactions + 1 := rfl
    rw [hnext]
    by_cases h2 : bus.succeeds (s.transactions + 1) = true
    · simp only [if_pos h2]
    · simp only [if_neg h2]

/-- `eeprom_read` fails if both tries do. -/
theorem eepromRead_ret :
    (eepromRead bus adr size base out s).ret < 0 ↔
      ¬ (bus.succeeds s.transactions ∨ bus.succeeds (s.transactions + 1)) := by
  rw [eepromRead_eq h]
  by_cases h1 : bus.succeeds s.transactions = true
  · simp [h1]
  · by_cases h2 : bus.succeeds (s.transactions + 1) = true <;> simp [h1, h2]

theorem eepromRead_transactions :
    (eepromRead bus adr size base out s).i2c.transactions =
      if bus.succeeds s.transactions then s.transactions + 1 else s.transactions + 2 := by
  rw [eepromRead_eq h]
  split <;> rfl

/-- A byte arrives if one of the two transactions moves it. -/
theorem eepromRead_out {i : ℕ} (hi : i < size) :
    (eepromRead bus adr size base out s).out (base + i) =
      if bus.moves s.transactions i ∨ bus.moves (s.transactions + 1) i then s.eeprom (adr + i)
      else out (base + i) := by
  have hfirst := receive_out bus adr base out s hi
  rw [eepromRead_eq h]
  by_cases h1 : bus.succeeds s.transactions = true
  · have hmoves := Bus.moves_of_succeeds h1 i
    rw [if_pos h1, if_pos (.inl hmoves)]
    exact hfirst.trans (if_pos hmoves)
  · have hnext : s.next.transactions = s.transactions + 1 := rfl
    simp only [if_neg h1]
    rw [receive_out _ _ _ _ _ hi, hfirst, hnext]
    by_cases h2 : bus.moves (s.transactions + 1) i = true
    · rw [if_pos h2, if_pos (.inr h2)]
      rfl
    · rw [if_neg h2]
      by_cases h3 : bus.moves s.transactions i = true
      · rw [if_pos h3, if_pos (.inl h3)]
      · rw [if_neg h3, if_neg (not_or.mpr ⟨h3, h2⟩)]

end Read

/-! ## Operations that do not look at the memory -/

/-- The buses agree from transaction `n` on. -/
def Bus.AgreeFrom (n : ℕ) (bus bus' : Bus) : Prop := ∀ k, n ≤ k → bus' k = bus k

theorem Bus.AgreeFrom.mono {n n' : ℕ} {bus bus' : Bus} (h : Bus.AgreeFrom n bus bus')
    (hle : n ≤ n') : Bus.AgreeFrom n' bus bus' := fun k hk => h k (hle.trans hk)

/-- Result, transactions and page writes of the operation depend on the bus from its first
transaction on, and on nothing else; of the memory it makes an overlay. -/
def Oblivious {α : Type} (f : Bus → I2c → α × I2c) : Prop :=
  ∀ bus n, ∃ (a : α) (n' : ℕ) (new : List (ℕ × List UInt8)) (v : ℕ → Option UInt8), n ≤ n' ∧
    ∀ bus' m ws, Bus.AgreeFrom n bus bus' →
      f bus' ⟨m, n, ws⟩ = (a, ⟨overlay v m, n', ws ++ new⟩)

namespace Oblivious

variable {α β : Type}

theorem pure (a : α) : Oblivious fun _ s => (a, s) := by
  intro bus n
  refine ⟨a, n, [], fun _ => none, Nat.le_refl n, fun bus' m ws _ => ?_⟩
  rw [overlay_none, List.append_nil]

/-- One operation after another. -/
theorem bind {f : Bus → I2c → α × I2c} {g : α → Bus → I2c → β × I2c} (hf : Oblivious f)
    (hg : ∀ a, Oblivious (g a)) : Oblivious fun bus s => g (f bus s).1 bus (f bus s).2 := by
  intro bus n
  obtain ⟨a, n', new, v, hle, h⟩ := hf bus n
  obtain ⟨b, n'', new', w, hle', h'⟩ := hg a bus n'
  refine ⟨b, n'', new ++ new', fun x => (w x).or (v x), hle.trans hle', fun bus' m ws hbus => ?_⟩
  simp only [h bus' m ws hbus, h' bus' _ _ (hbus.mono hle), overlay_overlay, List.append_assoc]

/-- What is done with the result. -/
theorem map {f : Bus → I2c → α × I2c} (hf : Oblivious f) (g : α → β) :
    Oblivious fun bus s => (g (f bus s).1, (f bus s).2) := hf.bind fun a => pure (g a)

/-- A choice. -/
theorem ite {p : Prop} [Decidable p] {f g : Bus → I2c → α × I2c} (hf : Oblivious f)
    (hg : Oblivious g) : Oblivious fun bus s => if p then f bus s else g bus s := by
  by_cases h : p
  · simpa only [if_pos h] using hf
  · simpa only [if_neg h] using hg

/-- A loop over a list. -/
theorem foldl {ι : Type} {f : ι → Bus → I2c → α × I2c} (hf : ∀ i, Oblivious (f i)) (l : List ι) :
    Oblivious fun bus s => ((), l.foldl (fun s i => (f i bus s).2) s) := by
  induction l with
  | nil => exact pure ()
  | cons i l ih => exact (hf i).bind fun _ => ih

/-- On buses that agree the operation does the same. -/
theorem congr {f : Bus → I2c → α × I2c} (hf : Oblivious f) {bus bus' : Bus} {s : I2c}
    (h : Bus.AgreeFrom s.transactions bus bus') : f bus' s = f bus s := by
  obtain ⟨a, n', new, v, -, heq⟩ := hf bus s.transactions
  exact (heq bus' s.eeprom s.pageWrites h).trans
    (heq bus s.eeprom s.pageWrites fun _ _ => rfl).symm

end Oblivious

/-- The byte that the operation leaves at address `x` on this bus, when it begins with transaction
`n`; `none` if no write reaches the address. (A byte that none reaches differs between a memory of
zeros and one of ones.) -/
def byteWritten {α : Type} (f : Bus → I2c → α × I2c) (bus : Bus) (n x : ℕ) : Option UInt8 :=
  let onZeros := (f bus ⟨fun _ => 0, n, []⟩).2.eeprom x
  let onOnes := (f bus ⟨fun _ => 1, n, []⟩).2.eeprom x
  if onZeros = onOnes then some onZeros else none

/-- The operation overlays any memory with these bytes. -/
theorem Oblivious.eeprom {α : Type} {f : Bus → I2c → α × I2c} (hf : Oblivious f) (bus : Bus)
    (s : I2c) : (f bus s).2.eeprom = overlay (byteWritten f bus s.transactions) s.eeprom := by
  obtain ⟨_, n', new, v, -, h⟩ := hf bus s.transactions
  have hrun : ∀ m ws, (f bus ⟨m, s.transactions, ws⟩).2.eeprom = overlay v m := by
    intro m ws
    exact congrArg (fun r => r.2.eeprom) (h bus m ws fun _ _ => rfl)
  have hv : byteWritten f bus s.transactions = v := by
    funext x
    simp only [byteWritten, hrun, overlay]
    cases v x with
    | none => exact if_neg (by decide)
    | some b => exact if_pos rfl
  rw [hv]
  exact hrun s.eeprom s.pageWrites

/-! ## The writes of the driver -/

/-- A page write, also a partial one, is an overlay. -/
theorem pageWrite_overlay (adr : ℕ) (bytes : List UInt8) (moved : ℕ → Bool) :
    ∃ v, ∀ m, pageWrite m adr bytes moved = overlay v m := by
  induction bytes generalizing adr moved with
  | nil => exact ⟨fun _ => none, fun m => rfl⟩
  | cons b bs ih =>
    obtain ⟨v, hv⟩ := ih (adr - adr % eepromPageSize + (adr + 1) % eepromPageSize)
      fun i => moved (i + 1)
    by_cases hb : moved 0 = true
    · refine ⟨fun x => (v x).or (if x = adr then some b else none), fun m => ?_⟩
      have hput : put m adr b = overlay (fun x => if x = adr then some b else none) m :=
        put_overlay (fun _ => none) m adr b
      rw [pageWrite, if_pos hb, hput]
      exact (hv _).trans (overlay_overlay _ _ _)
    · refine ⟨v, fun m => ?_⟩
      rw [pageWrite, if_neg hb]
      exact hv m

theorem oblivious_transmit (adr : ℕ) (bytes : List UInt8) :
    Oblivious fun bus s => s.transmit bus adr bytes := by
  intro bus n
  cases hn : bus n with
  | ok =>
    obtain ⟨v, hv⟩ := pageWrite_overlay adr bytes fun _ => true
    refine ⟨true, n + 1, [(adr, bytes)], v, Nat.le_succ n, fun bus' m ws hbus => ?_⟩
    simp only [I2c.transmit, hbus n (Nat.le_refl n), hn, hv]
    rfl
  | failed moved =>
    obtain ⟨v, hv⟩ := pageWrite_overlay adr bytes moved
    refine ⟨false, n + 1, [(adr, bytes)], v, Nat.le_succ n, fun bus' m ws hbus => ?_⟩
    simp only [I2c.transmit, hbus n (Nat.le_refl n), hn, hv]
    rfl

/-- Tries of a read end with the same result on every memory, which they leave. -/
theorem eepromReadTries_memory (bus : Bus) (adr size base tries n : ℕ) :
    ∃ ret n', n ≤ n' ∧ ∀ bus' out m ws, Bus.AgreeFrom n bus bus' →
      (eepromReadTries bus' adr size base tries out ⟨m, n, ws⟩).ret = ret ∧
        (eepromReadTries bus' adr size base tries out ⟨m, n, ws⟩).i2c = ⟨m, n', ws⟩ := by
  induction tries generalizing n with
  | zero => exact ⟨-1, n, Nat.le_refl n, fun _ out m ws _ => ⟨rfl, rfl⟩⟩
  | succ tries ih =>
    have hsucceeds : ∀ bus', Bus.AgreeFrom n bus bus' → bus'.succeeds n = bus.succeeds n := by
      intro bus' hbus
      simp only [Bus.succeeds, hbus n (Nat.le_refl n)]
    by_cases h : bus.succeeds n = true
    · refine ⟨0, n + 1, Nat.le_succ n, fun bus' out m ws hbus => ?_⟩
      rw [eepromReadTries_succ, hsucceeds bus' hbus, if_pos h]
      exact ⟨rfl, rfl⟩
    · obtain ⟨ret, n', hle, hrest⟩ := ih (n + 1)
      refine ⟨ret, n', (Nat.le_succ n).trans hle, fun bus' out m ws hbus => ?_⟩
      rw [eepromReadTries_succ, hsucceeds bus' hbus, if_neg h]
      exact hrest bus' _ m ws (hbus.mono (Nat.le_succ n))

/-- A read of which only the result counts. -/
theorem oblivious_eepromRead (adr size base : ℕ) (out : Mem) :
    Oblivious fun bus s =>
      ((eepromRead bus adr size base out s).ret, (eepromRead bus adr size base out s).i2c) := by
  intro bus n
  by_cases hcap : eepromCapacity < adr ∨ eepromCapacity < adr + size
  · refine ⟨-1, n, [], fun _ => none, Nat.le_refl n, fun bus' m ws _ => ?_⟩
    simp only [eepromRead, if_pos hcap, overlay_none, List.append_nil]
  · obtain ⟨ret, n', hle, h⟩ := eepromReadTries_memory bus adr size base eepromRetryCount n
    refine ⟨ret, n', [], fun _ => none, hle, fun bus' m ws hbus => ?_⟩
    simp only [eepromRead, if_neg hcap, h bus' out m ws hbus, overlay_none, List.append_nil]

theorem oblivious_ackPollTries (tries : ℕ) :
    Oblivious fun bus s => ackPollTries bus tries s := by
  induction tries with
  | zero => exact Oblivious.pure 1
  | succ tries ih =>
    exact (oblivious_eepromRead 0 1 0 fun _ => 0).bind (g := fun ret bus s =>
      if ret = 0 then (0, s) else ackPollTries bus tries s) fun ret => (Oblivious.pure 0).ite ih

theorem writePageTries_succ (bus : Bus) (adr : ℕ) (bytes : List UInt8) (tries : ℕ) (s : I2c) :
    writePageTries bus adr bytes (tries + 1) s =
      let sent := s.transmit bus adr bytes
      if sent.1 = true then
        let poll := eepromWriteAckPoll bus sent.2
        if poll.1 = 0 then (true, poll.2) else writePageTries bus adr bytes tries poll.2
      else writePageTries bus adr bytes tries sent.2 := by
  rw [writePageTries]
  obtain ⟨ok, s'⟩ := s.transmit bus adr bytes
  cases ok <;> rfl

theorem oblivious_writePageTries (adr : ℕ) (bytes : List UInt8) (tries : ℕ) :
    Oblivious fun bus s => writePageTries bus adr bytes tries s := by
  induction tries with
  | zero => exact Oblivious.pure false
  | succ tries ih =>
    have hpoll : Oblivious fun bus s =>
        let poll := eepromWriteAckPoll bus s
        if poll.1 = 0 then (true, poll.2) else writePageTries bus adr bytes tries poll.2 :=
      (oblivious_ackPollTries 5).bind (g := fun ret bus s =>
        if ret = 0 then (true, s) else writePageTries bus adr bytes tries s)
        fun ret => (Oblivious.pure true).ite ih
    simp only [writePageTries_succ]
    exact (oblivious_transmit adr bytes).bind (g := fun ok bus s =>
      if ok = true then
        let poll := eepromWriteAckPoll bus s
        if poll.1 = 0 then (true, poll.2) else writePageTries bus adr bytes tries poll.2
      else writePageTries bus adr bytes tries s) fun ok => hpoll.ite ih

theorem oblivious_writePages (src : Mem) (adr base size writeSize : ℕ) :
    Oblivious fun bus s => writePages bus src adr base size writeSize s := by
  induction hm : size + (if writeSize = 0 then 0 else 1) using Nat.strongRecOn
    generalizing adr base size writeSize with
  | _ n ih =>
    by_cases h0 : writeSize = 0
    · have heq : ∀ bus s, writePages bus src adr base size writeSize s = (0, s) := by
        intro bus s
        rw [writePages, if_pos h0]
      simp only [heq]
      exact Oblivious.pure 0
    · rw [if_neg h0] at hm
      -- The rest is smaller, or empty with nothing more to write.
      have hrest := ih (size - writeSize + if (if eepromPageSize < size - writeSize
          then eepromPageSize else size - writeSize) = 0 then 0 else 1)
        (by split <;> split at * <;> simp only [eepromPageSize] at * <;> omega)
        ((adr + writeSize) % 2 ^ 16) (base + writeSize) (size - writeSize) _ rfl
      have heq : ∀ bus s, writePages bus src adr base size writeSize s =
          let page := writePageTries bus adr (Bytes.read src base writeSize) eepromRetryCount s
          if page.1 = false then (-1, page.2)
          else writePages bus src ((adr + writeSize) % 2 ^ 16) (base + writeSize)
            (size - writeSize)
            (if eepromPageSize < size - writeSize then eepromPageSize else size - writeSize)
            page.2 := by
        intro bus s
        rw [writePages, if_neg h0]
      simp only [heq]
      exact (oblivious_writePageTries adr _ _).bind (g := fun ok bus s =>
        if ok = false then (-1, s)
        else writePages bus src ((adr + writeSize) % 2 ^ 16) (base + writeSize)
          (size - writeSize)
          (if eepromPageSize < size - writeSize then eepromPageSize else size - writeSize) s)
        fun ok => (Oblivious.pure (-1)).ite hrest

/-- Data inside one page take one page write. -/
theorem eepromWrite_eq_writePageTries (bus : Bus) {adr size : ℕ} (src : Mem) (s : I2c)
    (h : adr + size ≤ eepromCapacity) (hpos : 0 < size)
    (hpage : adr % eepromPageSize + size ≤ eepromPageSize) :
    eepromWrite bus adr src size s =
      let page := writePageTries bus adr (Bytes.read src 0 size) eepromRetryCount s
      (if page.1 = false then -1 else 0, page.2) := by
  have hfirst : firstWriteSize adr size = size := by
    rw [firstWriteSize_eq h hpos]
    omega
  rw [eepromWrite, if_neg (by omega), hfirst, writePages, if_neg (by omega)]
  simp only [Nat.sub_self]
  rw [writePages, if_neg (show ¬ eepromPageSize < 0 by omega), if_pos rfl]
  split <;> rfl

/-- **A write on any bus** is an overlay that does not depend on the memory. -/
theorem oblivious_eepromWrite (adr : ℕ) (src : Mem) (size : ℕ) :
    Oblivious fun bus s => eepromWrite bus adr src size s :=
  (Oblivious.pure (-1)).ite (oblivious_writePages _ _ _ _ _)

end HouseBus
