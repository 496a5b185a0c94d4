import Mathlib.Data.List.GetD
import Mathlib.Order.Basic
import Mathlib.Tactic.Ring

/-!
# Byte memories

A memory is the byte at each address (`Mem`). `read m a n` is the list of the `n` bytes from `a`
on, `write m a bs` the memory with `bs` from `a` on, `put m a b` with the one byte `b`.

The rules say how the operations compose: a read after a write of the same range gives the bytes
written (`read_write`), a read apart from it the old ones (`read_write_of_disjoint`), adjacent
writes join (`write_append`), and zeros behind a write to zeros change nothing (`write_padded`).

`overlay v m` is `m` under the bytes of a partial memory: what a sequence of writes makes of any
memory.

`leNat`/`leBytes` are the little-endian value of a byte list and the `k` little-endian bytes of a
number.
-/

namespace Bytes

/-- A byte memory: the byte at each address. -/
abbrev Mem := ℕ → UInt8

/-- The `n` bytes from `a` on. -/
def read (m : Mem) (a n : ℕ) : List UInt8 := (List.range n).map fun i => m (a + i)

/-- `m` with the bytes `bs` from `a` on. -/
def write (m : Mem) (a : ℕ) (bs : List UInt8) : Mem := fun x =>
  if a ≤ x then bs.getD (x - a) (m x) else m x

/-- `m` with the byte `b` at `a`. -/
def put (m : Mem) (a : ℕ) (b : UInt8) : Mem := fun x => if x = a then b else m x

/-! ## Reads -/

@[simp] theorem length_read (m : Mem) (a n : ℕ) : (read m a n).length = n := by simp [read]

@[simp] theorem read_zero (m : Mem) (a : ℕ) : read m a 0 = [] := rfl

@[simp] theorem getElem_read (m : Mem) (a n i : ℕ) (h : i < (read m a n).length) :
    (read m a n)[i] = m (a + i) := by simp [read]

theorem read_add (m : Mem) (a n k : ℕ) : read m a (n + k) = read m a n ++ read m (a + n) k := by
  simp [read, List.range_add, Function.comp_def, Nat.add_assoc]

theorem read_succ (m : Mem) (a n : ℕ) : read m a (n + 1) = m a :: read m (a + 1) n := by
  rw [Nat.add_comm, read_add]; simp [read]

theorem take_read (m : Mem) (a n k : ℕ) (h : k ≤ n) : (read m a n).take k = read m a k := by
  obtain ⟨d, rfl⟩ := Nat.exists_eq_add_of_le h
  rw [read_add, List.take_left' (length_read m a k)]

/-- Two reads agree when the memories do on the range. -/
theorem read_congr {m m' : Mem} {a b n : ℕ} (h : ∀ i < n, m (a + i) = m' (b + i)) :
    read m a n = read m' b n :=
  List.map_congr_left fun i hi => h i (List.mem_range.mp hi)

/-- The bytes of two reads that agree. -/
theorem eq_of_read_eq {m m' : Mem} {a b n : ℕ} (h : read m a n = read m' b n) {i : ℕ} (hi : i < n) :
    m (a + i) = m' (b + i) :=
  List.map_inj_left.mp h i (List.mem_range.mpr hi)

theorem read_eq_iff {m : Mem} {a : ℕ} {bs : List UInt8} :
    read m a bs.length = bs ↔ ∀ i (h : i < bs.length), m (a + i) = bs[i] := by
  constructor
  · intro h i hi
    have := List.getElem_of_eq h (by simpa using hi)
    simpa using this
  · intro h
    apply List.ext_getElem (by simp)
    intro i _ hi
    simpa using h i hi

/-! ## Writes -/

@[simp] theorem write_nil (m : Mem) (a : ℕ) : write m a [] = m := by
  funext x; simp [write]

theorem write_of_lt {a x : ℕ} (m : Mem) (bs : List UInt8) (h : x < a) : write m a bs x = m x := by
  simp [write, Nat.not_le.mpr h]

theorem write_of_le {a x : ℕ} {bs : List UInt8} (m : Mem) (h : a + bs.length ≤ x) :
    write m a bs x = m x := by
  unfold write
  split
  · rw [List.getD_eq_default _ _ (by omega)]
  · rfl

@[simp] theorem write_add (m : Mem) (a i : ℕ) (bs : List UInt8) (h : i < bs.length) :
    write m a bs (a + i) = bs[i] := by
  simp [write, h]

@[simp] theorem write_head (m : Mem) (a : ℕ) (b : UInt8) (bs : List UInt8) :
    write m a (b :: bs) a = b := by
  simp [write]

theorem write_cons (m : Mem) (a : ℕ) (b : UInt8) (bs : List UInt8) :
    write m a (b :: bs) = write (put m a b) (a + 1) bs := by
  funext x
  rcases Nat.lt_trichotomy x a with h | rfl | h
  · rw [write_of_lt _ _ h, write_of_lt _ _ (by omega), put, if_neg (by omega)]
  · rw [write_of_lt _ _ (Nat.lt_succ_self x), put, if_pos rfl, write_head]
  · obtain ⟨i, rfl⟩ := Nat.exists_eq_add_of_le (Nat.succ_le_of_lt h)
    simp only [write, put, Nat.succ_eq_add_one, show a ≤ a + 1 + i by omega,
      show a + 1 ≤ a + 1 + i by omega, ↓reduceIte, show a + 1 + i - a = i + 1 by omega,
      show a + 1 + i - (a + 1) = i by omega, show ¬ a + 1 + i = a by omega, List.getD_cons_succ]

theorem write_append (m : Mem) (a : ℕ) (bs cs : List UInt8) :
    write m a (bs ++ cs) = write (write m a bs) (a + bs.length) cs := by
  induction bs generalizing m a with
  | nil => simp
  | cons b bs ih =>
    rw [List.cons_append, write_cons, write_cons, ih, List.length_cons,
      show a + 1 + bs.length = a + (bs.length + 1) by omega]

theorem put_eq_write (m : Mem) (a : ℕ) (b : UInt8) : put m a b = write m a [b] := by
  rw [write_cons, write_nil]

/-- A byte in front of a write. -/
theorem put_write_of_lt {m : Mem} {x a : ℕ} (b : UInt8) (bs : List UInt8) (h : x < a) :
    put (write m a bs) x b = write (put m x b) a bs := by
  funext y
  by_cases hy : y = x
  · subst hy
    rw [write_of_lt _ _ h, put, put, if_pos rfl, if_pos rfl]
  · simp only [put, write, if_neg hy]

@[simp] theorem read_write (m : Mem) (a : ℕ) (bs : List UInt8) :
    read (write m a bs) a bs.length = bs :=
  read_eq_iff.mpr fun i hi => write_add m a i bs hi

theorem read_write_of_disjoint (m : Mem) (a b n : ℕ) (bs : List UInt8)
    (h : b + n ≤ a ∨ a + bs.length ≤ b) : read (write m a bs) b n = read m b n := by
  apply read_congr
  intro i hi
  obtain h | h := h
  · exact write_of_lt _ _ (by omega)
  · exact write_of_le _ (by omega)

/-- A memory that agrees with a write everywhere is that write. -/
theorem eq_write_iff {m m' : Mem} {a : ℕ} {bs : List UInt8} :
    m' = write m a bs ↔
      read m' a bs.length = bs ∧ ∀ x, x < a ∨ a + bs.length ≤ x → m' x = m x := by
  constructor
  · rintro rfl
    refine ⟨read_write m a bs, fun x hx => ?_⟩
    obtain hx | hx := hx
    · exact write_of_lt _ _ hx
    · exact write_of_le _ hx
  · rintro ⟨hin, hout⟩
    funext x
    by_cases h1 : x < a
    · rw [hout x (.inl h1), write_of_lt _ _ h1]
    by_cases h2 : a + bs.length ≤ x
    · rw [hout x (.inr h2), write_of_le _ h2]
    · obtain ⟨i, rfl⟩ := Nat.exists_eq_add_of_le (Nat.not_lt.mp h1)
      rw [write_add m a i bs (by omega)]
      exact read_eq_iff.mp hin i (by omega)

/-- Zeros on zeros. -/
theorem write_zeros {m : Mem} {a : ℕ} (k : ℕ) (h : ∀ x, a ≤ x → m x = 0) :
    write m a (List.replicate k 0) = m := by
  symm
  rw [eq_write_iff]
  refine ⟨read_eq_iff.mpr fun i _ => ?_, fun _ _ => rfl⟩
  rw [List.getElem_replicate, h _ (Nat.le_add_right a i)]

/-- What is written to zeros may as well have zeros behind it. -/
theorem write_padded (m : Mem) (a : ℕ) (bs : List UInt8) (k : ℕ)
    (h : ∀ x, a + bs.length ≤ x → m x = 0) :
    write m a (bs ++ List.replicate k 0) = write m a bs := by
  rw [write_append]
  refine write_zeros k fun x hx => ?_
  rw [write_of_le m hx, h x hx]

/-- The first bytes of a write. -/
theorem read_write_append (m : Mem) (a : ℕ) (bs cs : List UInt8) :
    read (write m a (bs ++ cs)) a bs.length = bs := by
  have h := read_write m a (bs ++ cs)
  rw [← take_read _ _ (bs ++ cs).length _ (by rw [List.length_append]; omega), h,
    List.take_left' rfl]

/-! ## Partial writes -/

/-- Every byte of `m` is that of `old` or that of `new`. -/
def Between (old new m : Mem) : Prop := ∀ x, m x = old x ∨ m x = new x

/-- At one address a write stores its own byte, or leaves that of the memory. -/
theorem write_cases (a : ℕ) (bs : List UInt8) (x : ℕ) :
    (∀ m, write m a bs x = m x) ∨ ∀ m m', write m a bs x = write m' a bs x := by
  by_cases hin : a ≤ x ∧ x < a + bs.length
  · obtain ⟨i, rfl⟩ : ∃ i, x = a + i := ⟨x - a, by omega⟩
    have hi : i < bs.length := by omega
    right
    intro m m'
    rw [write_add m a i bs hi, write_add m' a i bs hi]
  · left
    intro m
    obtain hlt | hle : x < a ∨ a + bs.length ≤ x := by omega
    · exact write_of_lt m bs hlt
    · exact write_of_le m hle

/-- A write over a part of the same write. -/
theorem write_between {m m' : Mem} {a : ℕ} {bs : List UInt8} (h : Between m (write m a bs) m') :
    write m' a bs = write m a bs := by
  funext x
  obtain hkeep | hsame := write_cases a bs x
  · have hx := h x
    rw [hkeep, or_self] at hx
    rw [hkeep, hkeep, hx]
  · exact hsame m' m

theorem Between.trans {m m' m'' : Mem} {a : ℕ} {bs : List UInt8}
    (h : Between m (write m a bs) m') (h' : Between m' (write m' a bs) m'') :
    Between m (write m a bs) m'' := by
  rw [write_between h] at h'
  intro x
  obtain hx | hx := h' x
  · rw [hx]
    exact h x
  · exact .inr hx

/-! ## Overlays -/

/-- `m` with the bytes of `v` where it has some. -/
def overlay (v : ℕ → Option UInt8) (m : Mem) : Mem := fun x => (v x).getD (m x)

/-- The overlay without bytes. -/
theorem overlay_none (m : Mem) : overlay (fun _ => none) m = m := rfl

/-- One byte on top. -/
theorem put_overlay (v : ℕ → Option UInt8) (m : Mem) (a : ℕ) (b : UInt8) :
    put (overlay v m) a b = overlay (fun x => if x = a then some b else v x) m := by
  funext x
  by_cases hx : x = a
  · simp only [put, overlay, if_pos hx, Option.getD_some]
  · simp only [put, overlay, if_neg hx]

/-- An overlay on top of another. -/
theorem overlay_overlay (v w : ℕ → Option UInt8) (m : Mem) :
    overlay w (overlay v m) = overlay (fun x => (w x).or (v x)) m := by
  funext x
  simp only [overlay]
  cases w x <;> rfl

/-- A memory is its own overlay if the bytes are those that it holds. -/
theorem overlay_eq_self_iff {v : ℕ → Option UInt8} {m : Mem} :
    overlay v m = m ↔ ∀ x, v x = none ∨ v x = some (m x) := by
  constructor
  · intro h x
    have hx := congrFun h x
    simp only [overlay] at hx
    cases hv : v x with
    | none => exact .inl rfl
    | some b =>
      rw [hv, Option.getD_some] at hx
      exact .inr (congrArg some hx)
  · intro h
    funext x
    rw [overlay]
    obtain hv | hv := h x <;> rw [hv] <;> rfl

/-! ## Little-endian numbers -/

/-- The little-endian value of a byte list. -/
def leNat : List UInt8 → ℕ
  | [] => 0
  | b :: bs => b.toNat + 256 * leNat bs

/-- The `k` little-endian bytes of a number. -/
def leBytes : ℕ → ℕ → List UInt8
  | 0, _ => []
  | k + 1, v => UInt8.ofNat v :: leBytes k (v / 256)

@[simp] theorem length_leBytes (k v : ℕ) : (leBytes k v).length = k := by
  induction k generalizing v with
  | zero => rfl
  | succ k ih => simp [leBytes, ih]

theorem leNat_leBytes (k v : ℕ) : leNat (leBytes k v) = v % 256 ^ k := by
  induction k generalizing v with
  | zero => simp [leBytes, leNat, Nat.mod_one]
  | succ k ih =>
    have hv : (UInt8.ofNat v).toNat = v % 256 := by simp
    rw [leBytes, leNat, ih, hv, Nat.pow_succ, Nat.mul_comm (256 ^ k) 256, Nat.mod_mul]

theorem leBytes_leNat (bs : List UInt8) : leBytes bs.length (leNat bs) = bs := by
  induction bs with
  | nil => rfl
  | cons b bs ih =>
    have hb : b.toNat < 256 := b.toNat_lt
    have h1 : UInt8.ofNat (b.toNat + 256 * leNat bs) = b := by
      apply UInt8.toNat_inj.mp
      simp
    have h2 : (b.toNat + 256 * leNat bs) / 256 = leNat bs := by omega
    rw [List.length_cons, leNat, leBytes, h1, h2, ih]

theorem leBytes_zero (k : ℕ) : leBytes k 0 = List.replicate k 0 := by
  induction k with
  | zero => rfl
  | succ k ih => rw [leBytes, Nat.zero_div, ih]; rfl

theorem leBytes_add (j k v : ℕ) : leBytes (j + k) v = leBytes j v ++ leBytes k (v / 256 ^ j) := by
  induction j generalizing v with
  | zero => rw [Nat.zero_add, Nat.pow_zero, Nat.div_one]; rfl
  | succ j ih =>
    have hpow : v / 256 ^ (j + 1) = v / 256 / 256 ^ j := by
      rw [Nat.div_div_eq_div_mul, Nat.pow_succ, Nat.mul_comm]
    rw [Nat.add_right_comm, leBytes, ih, leBytes, List.cons_append, hpow]

/-- The low `j` bytes of a value are its first bytes. -/
theorem take_leBytes (k j v : ℕ) (h : j ≤ k) : (leBytes k v).take j = leBytes j v := by
  obtain ⟨d, rfl⟩ := Nat.exists_eq_add_of_le h
  rw [leBytes_add, List.take_left' (length_leBytes j v)]

theorem leBytes_mod (k v : ℕ) : leBytes k (v % 256 ^ k) = leBytes k v := by
  have h := leBytes_leNat (leBytes k v)
  rwa [length_leBytes, leNat_leBytes] at h

/-- Zero-extension. -/
theorem leBytes_add_mod (j k v : ℕ) :
    leBytes (j + k) (v % 256 ^ j) = leBytes j v ++ List.replicate k 0 := by
  have hlt : v % 256 ^ j < 256 ^ j := Nat.mod_lt _ (Nat.pow_pos (by decide))
  rw [leBytes_add, leBytes_mod, Nat.div_eq_of_lt hlt, leBytes_zero]

/-! ## Big-endian numbers and sign extension -/

/-- The big-endian value of a byte list. -/
def beNat (bs : List UInt8) : ℕ := leNat bs.reverse

theorem leNat_append (bs cs : List UInt8) :
    leNat (bs ++ cs) = leNat bs + 256 ^ bs.length * leNat cs := by
  induction bs with
  | nil => simp [leNat]
  | cons b bs ih =>
    rw [List.cons_append, leNat, ih, leNat, List.length_cons, Nat.pow_succ]
    ring

theorem leNat_lt (bs : List UInt8) : leNat bs < 256 ^ bs.length := by
  have h := leNat_leBytes bs.length (leNat bs)
  rw [leBytes_leNat] at h
  rw [h]
  exact Nat.mod_lt _ (Nat.pow_pos (by decide))

theorem beNat_cons (b : UInt8) (bs : List UInt8) :
    beNat (b :: bs) = beNat bs + 256 ^ bs.length * b.toNat := by
  rw [beNat, List.reverse_cons, leNat_append, List.length_reverse]
  simp [leNat, beNat]

theorem beNat_lt (bs : List UInt8) : beNat bs < 256 ^ bs.length := by
  have h := leNat_lt bs.reverse
  rwa [List.length_reverse] at h

/-- The little-endian bytes of a big-endian number. -/
theorem leBytes_beNat (bs : List UInt8) : leBytes bs.length (beNat bs) = bs.reverse := by
  have h := leBytes_leNat bs.reverse
  rwa [List.length_reverse] at h

theorem leBytes_ones (k : ℕ) : leBytes k (256 ^ k - 1) = List.replicate k 0xFF := by
  induction k with
  | zero => rfl
  | succ k ih =>
    have hpos : 0 < 256 ^ k := Nat.pow_pos (by decide)
    have hlow : UInt8.ofNat (256 ^ (k + 1) - 1) = 0xFF := by
      apply UInt8.toNat_inj.mp
      rw [UInt8.toNat_ofNat', Nat.pow_succ]
      show (256 ^ k * 256 - 1) % 256 = 255
      omega
    have hhigh : (256 ^ (k + 1) - 1) / 256 = 256 ^ k - 1 := by
      rw [Nat.pow_succ]
      omega
    rw [leBytes, hlow, hhigh, ih]
    rfl

/-- Extension by ones. -/
theorem leBytes_add_ones (j k v : ℕ) (h : v < 256 ^ j) :
    leBytes (j + k) (v + (256 ^ (j + k) - 256 ^ j)) = leBytes j v ++ List.replicate k 0xFF := by
  have hj : 0 < 256 ^ j := Nat.pow_pos (by decide)
  have hk : 0 < 256 ^ k := Nat.pow_pos (by decide)
  have hsum : v + (256 ^ (j + k) - 256 ^ j) = v + 256 ^ j * (256 ^ k - 1) := by
    rw [Nat.pow_add, Nat.mul_sub, Nat.mul_one]
  have hlow : (v + 256 ^ j * (256 ^ k - 1)) % 256 ^ j = v := by
    rw [Nat.add_mul_mod_self_left, Nat.mod_eq_of_lt h]
  have hhigh : (v + 256 ^ j * (256 ^ k - 1)) / 256 ^ j = 256 ^ k - 1 := by
    rw [Nat.add_mul_div_left _ _ hj, Nat.div_eq_of_lt h, Nat.zero_add]
  rw [hsum, leBytes_add, hhigh, leBytes_ones, ← leBytes_mod j, hlow]

/-- The number of `bs.length` bytes as one of 64 bits, with the sign of its first bit or with
zeros. -/
def extend64 (signed : Bool) (bs : List UInt8) : BitVec 64 :=
  let v := BitVec.ofNat (8 * bs.length) (beNat bs)
  if signed then v.signExtend 64 else v.setWidth 64

/-- The first bit of a number. -/
theorem msb_beNat (b : UInt8) (bs : List UInt8) :
    (BitVec.ofNat (8 * (b :: bs).length) (beNat (b :: bs))).msb = decide (b &&& 0x80 ≠ 0) := by
  have hbit : ∀ n < 256, (UInt8.ofNat n &&& 0x80 ≠ 0) ↔ 128 ≤ n := by decide +kernel
  have hb := hbit b.toNat b.toNat_lt
  rw [UInt8.ofNat_toNat] at hb
  have hpow : 2 ^ (8 * (bs.length + 1)) = 256 ^ bs.length * 256 := by
    rw [Nat.pow_mul, Nat.pow_succ]
  have htop : 2 ^ (8 * (bs.length + 1) - 1) = 128 * 256 ^ bs.length := by
    have hexp : 8 * (bs.length + 1) - 1 = 7 + 8 * bs.length := by omega
    rw [hexp, Nat.pow_add, Nat.pow_mul]
  have hlt := beNat_lt (b :: bs)
  rw [List.length_cons, Nat.pow_succ] at hlt
  have hrest := beNat_lt bs
  rw [BitVec.msb_eq_decide, BitVec.toNat_ofNat, List.length_cons, hpow, Nat.mod_eq_of_lt hlt, htop,
    beNat_cons]
  refine decide_eq_decide.mpr (Iff.trans ?_ hb.symm)
  constructor
  · intro hge
    by_contra hno
    have : 256 ^ bs.length * b.toNat ≤ 256 ^ bs.length * 127 := Nat.mul_le_mul_left _ (by omega)
    omega
  · intro hge
    have : 256 ^ bs.length * 128 ≤ 256 ^ bs.length * b.toNat := Nat.mul_le_mul_left _ hge
    omega

/-- The eight bytes of an extended number: its bytes, and then one byte again and again. -/
theorem leBytes_extend64 (signed : Bool) (b : UInt8) (bs : List UInt8) (h : bs.length < 8) :
    leBytes 8 (extend64 signed (b :: bs)).toNat = (b :: bs).reverse ++
      List.replicate (7 - bs.length) (if b &&& 0x80 ≠ 0 ∧ signed = true then 0xFF else 0x00) := by
  have hmsb := msb_beNat b bs
  have hlt := beNat_lt (b :: bs)
  have hle := leBytes_beNat (b :: bs)
  rw [extend64]
  generalize hvalue : b :: bs = value at hmsb hlt hle ⊢
  have hlen : value.length = bs.length + 1 := by rw [← hvalue]; rfl
  have hpow : 2 ^ (8 * value.length) = 256 ^ value.length := by
    rw [Nat.pow_mul]
  obtain ⟨k, hk⟩ : ∃ k, value.length + k = 8 := ⟨7 - bs.length, by omega⟩
  have hk' : 7 - bs.length = k := by omega
  have h64 : beNat value < 2 ^ 64 := by
    have hmono : 256 ^ value.length ≤ 256 ^ 8 := Nat.pow_le_pow_right (by decide) (by omega)
    exact lt_of_lt_of_le hlt hmono
  have hwide : ((BitVec.ofNat (8 * value.length) (beNat value)).setWidth 64).toNat =
      beNat value := by
    rw [BitVec.toNat_setWidth, BitVec.toNat_ofNat, hpow, Nat.mod_eq_of_lt hlt,
      Nat.mod_eq_of_lt h64]
  have hzeros : leBytes 8 (beNat value) = value.reverse ++ List.replicate k 0x00 := by
    have := leBytes_add_mod value.length k (beNat value)
    rwa [Nat.mod_eq_of_lt hlt, hle, hk] at this
  have hones : leBytes 8 (beNat value + (2 ^ 64 - 2 ^ (8 * value.length))) =
      value.reverse ++ List.replicate k 0xFF := by
    have := leBytes_add_ones value.length k (beNat value) hlt
    rw [hle, hk] at this
    rw [hpow]
    exact this
  rw [hk']
  cases signed with
  | false =>
    rw [if_neg (by decide), if_neg (by simp), hwide]
    exact hzeros
  | true =>
    rw [if_pos rfl, BitVec.toNat_signExtend, hmsb, hwide]
    by_cases hsign : b &&& 0x80 ≠ 0
    · rw [if_pos (decide_eq_true hsign), if_pos ⟨hsign, rfl⟩]
      exact hones
    · rw [if_neg (by simpa using hsign), if_neg (fun h => hsign h.1), Nat.add_zero]
      exact hzeros

end Bytes
