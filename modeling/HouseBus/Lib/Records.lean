import HouseBus.Lib.Bytes

/-!
# Length-prefixed records

A memory with one record after another: record `p` has `size p` bytes behind a length byte. `get` is
what the record holds, `set` writes a length and that many bytes.

- Records do not overlap (`offset_le`), so a `set` is an update of the map `get`
  (`get_set`) and changes no byte of another record (`set_of_outside`).
- So a history of sets leaves in each record what was set last (`foldl_update`).
- A length byte above the record's size counts as the size, so `get` never reads behind the record
  (`length_get_le`), whatever the memory holds.
-/

namespace Records

open Bytes

variable (size : ℕ → ℕ)

/-- Where record `p` begins. -/
def offset : ℕ → ℕ
  | 0 => 0
  | p + 1 => offset p + (size p + 1)

/-- The bytes that record `p` holds. -/
def get (m : Mem) (p : ℕ) : List UInt8 :=
  read m (offset size p + 1) (min (m (offset size p)).toNat (size p))

/-- `m` with the bytes `bs` in record `p`. -/
def set (m : Mem) (p : ℕ) (bs : List UInt8) : Mem :=
  write m (offset size p) (UInt8.ofNat bs.length :: bs)

variable {size} {m m' : Mem} {p q : ℕ} {bs : List UInt8}

/-- A record ends before each later one. -/
theorem offset_le (h : p < q) : offset size p + size p + 1 ≤ offset size q := by
  induction q with
  | zero => omega
  | succ q ih =>
    rw [offset]
    rcases Nat.lt_or_ge p q with hlt | hge
    · have := ih hlt
      omega
    · obtain rfl : p = q := by omega
      omega

theorem length_get_le (m : Mem) (p : ℕ) : (get size m p).length ≤ size p := by
  rw [get, length_read]; exact Nat.min_le_right _ _

/-- A record depends on its own bytes only. -/
theorem get_congr (h : ∀ x, offset size p ≤ x → x < offset size p + size p + 1 → m x = m' x) :
    get size m p = get size m' p := by
  rw [get, get, h _ (Nat.le_refl _) (by omega)]
  refine read_congr fun i hi => h _ (by omega) ?_
  have := Nat.min_le_right (m' (offset size p)).toNat (size p)
  omega

/-- Outside its record a `set` changes nothing. -/
theorem set_of_outside (h : bs.length ≤ size p) {x : ℕ}
    (hx : x < offset size p ∨ offset size p + size p + 1 ≤ x) : set size m p bs x = m x := by
  obtain hx | hx := hx
  · exact write_of_lt _ _ hx
  · exact write_of_le _ (by rw [List.length_cons]; omega)

theorem get_set_self (h : bs.length ≤ size p) (hb : bs.length < 256) :
    get size (set size m p bs) p = bs := by
  have hlen : (set size m p bs (offset size p)).toNat = bs.length := by
    rw [set, write_head, UInt8.toNat_ofNat', Nat.mod_eq_of_lt hb]
  rw [get, hlen, Nat.min_eq_left h, set, write_cons, read_write]

/-- The bytes of another record lie outside. -/
theorem outside_of_ne (hq : q ≠ p) {x : ℕ} (hlo : offset size q ≤ x)
    (hhi : x < offset size q + size q + 1) :
    x < offset size p ∨ offset size p + size p + 1 ≤ x := by
  rcases Nat.lt_or_gt_of_ne hq with hlt | hgt
  · have : offset size q + size q + 1 ≤ offset size p := offset_le hlt
    exact .inl (by omega)
  · have : offset size p + size p + 1 ≤ offset size q := offset_le hgt
    exact .inr (by omega)

theorem get_set_ne (h : bs.length ≤ size p) (hq : q ≠ p) :
    get size (set size m p bs) q = get size m q :=
  get_congr fun _ hlo hhi => set_of_outside h (outside_of_ne hq hlo hhi)

/-- A `set` updates the map of the records' contents. -/
theorem get_set (h : bs.length ≤ size p) (hb : bs.length < 256) :
    get size (set size m p bs) = Function.update (get size m) p bs := by
  funext q
  by_cases hq : q = p
  · subst hq
    rw [Function.update_self, get_set_self h hb]
  · rw [Function.update_of_ne hq, get_set_ne h hq]

/-- A `set` of what the record holds writes its length byte only. -/
theorem set_get_of_ne {x : ℕ} (hx : x ≠ offset size p) :
    set size m p (get size m p) x = m x := by
  rw [set, write_cons]
  rcases Nat.lt_or_gt_of_ne hx with hlt | hgt
  · rw [write_of_lt _ _ (by omega), put, if_neg hx]
  obtain ⟨i, rfl⟩ := Nat.exists_eq_add_of_le (Nat.succ_le_of_lt hgt)
  by_cases hi : i < (get size m p).length
  · rw [write_add _ _ _ _ hi]
    exact getElem_read _ _ _ _ _
  · rw [write_of_le _ (by omega), put, if_neg hx]

/-- Behind the first `n` records a `set` of one of them changes nothing. -/
theorem set_of_ge {n x : ℕ} (h : bs.length ≤ size p) (hp : p < n) (hx : offset size n ≤ x) :
    set size m p bs x = m x := by
  have : offset size p + size p + 1 ≤ offset size n := offset_le hp
  exact set_of_outside h (.inr (by omega))

/-- After a history of updates a key has the value of the last update to it. -/
theorem foldl_update {κ α ω : Type*} [DecidableEq κ] (key : ω → κ) (val : ω → α) (σ : κ → α)
    (ws : List ω) (k : κ) :
    ws.foldl (fun σ w => Function.update σ (key w) (val w)) σ k =
      ((ws.reverse.find? fun w => key w = k).map val).getD (σ k) := by
  induction ws generalizing σ with
  | nil => rfl
  | cons w ws ih =>
    rw [List.foldl_cons, ih, List.reverse_cons, List.find?_append]
    cases ws.reverse.find? fun w => key w = k with
    | some v => rfl
    | none =>
      by_cases hk : key w = k
      · subst hk
        simp [Function.update_self]
      · simp [hk, Function.update_of_ne (Ne.symm hk)]

/-- Records of zeros hold nothing. -/
theorem get_zeros (h : m (offset size p) = 0) : get size m p = [] := by
  rw [get, h]
  simp

end Records
