import Mathlib.Logic.Function.Iterate
import Mathlib.Tactic.Ring

/-!
# Low-pass filters of integers

A filter keeps a value `y` in units of `1 / (c * m)` of its input `x`. One step takes `1 / c` of the
input and `(c - 1) / c` of the old value; both quotients round, with `h` added before the division.
Of the old value only its `level` counts, the rounded quotient.

- **Range** (`le_step`, `step_le`): the value stays between the bounds of its inputs, whatever `h <
  c` is.
- **Dead band** (`settles`, `reaches_iff`): under a constant input the level comes to rest at most
  `h` above or `c - 1 - h` below that of the input. It comes to rest at the level of the input only
  if it is there from the start.
-/

namespace LowPass

/-- What a step keeps of the old value. -/
def level (c h y : ℕ) : ℕ := (y + h) / c

/-- The value after the input `x`. -/
def step (c m h x y : ℕ) : ℕ := (x * (c * m) + h) / c + level c h y * (c - 1)

variable {c m h x y : ℕ}

theorem step_eq (hh : h < c) : step c m h x y = x * m + level c h y * (c - 1) := by
  have hc : 0 < c := by omega
  have hinput : x * (c * m) + h = h + x * m * c := by ring
  rw [step, hinput, Nat.add_mul_div_right _ _ hc, Nat.div_eq_of_lt hh, Nat.zero_add]

/-! ## Range -/

theorem le_level (hc : 0 < c) {lo : ℕ} (hlo : lo * (c * m) ≤ y) : lo * m ≤ level c h y := by
  have hlevel : lo * m * c = lo * (c * m) := by ring
  rw [level, Nat.le_div_iff_mul_le hc]
  omega

theorem level_le (hh : h < c) {hi : ℕ} (hhi : y ≤ hi * (c * m)) : level c h y ≤ hi * m := by
  have hlevel : (hi * m + 1) * c = hi * (c * m) + c := by ring
  apply Nat.le_of_lt_succ
  rw [level, Nat.succ_eq_add_one, Nat.div_lt_iff_lt_mul (by omega)]
  omega

/-- A level of `c` parts. -/
theorem parts (hc : 0 < c) (lo : ℕ) : lo * (c * m) = lo * m + lo * m * (c - 1) := by
  obtain ⟨k, rfl⟩ : ∃ k, c = k + 1 := ⟨c - 1, by omega⟩
  rw [Nat.add_sub_cancel]
  ring

theorem le_step (hh : h < c) {lo : ℕ} (hx : lo ≤ x) (hy : lo * (c * m) ≤ y) :
    lo * (c * m) ≤ step c m h x y := by
  have hc : 0 < c := by omega
  have hinput : lo * m ≤ x * m := Nat.mul_le_mul_right m hx
  have hkept : lo * m * (c - 1) ≤ level c h y * (c - 1) := Nat.mul_le_mul_right _ (le_level hc hy)
  rw [step_eq hh, parts hc]
  omega

theorem step_le (hh : h < c) {hi : ℕ} (hx : x ≤ hi) (hy : y ≤ hi * (c * m)) :
    step c m h x y ≤ hi * (c * m) := by
  have hc : 0 < c := by omega
  have hinput : x * m ≤ hi * m := Nat.mul_le_mul_right m hx
  have hkept : level c h y * (c - 1) ≤ hi * m * (c - 1) := Nat.mul_le_mul_right _ (level_le hh hy)
  rw [step_eq hh, parts hc]
  omega

/-! ## Dead band -/

/-- A level at which a constant input of level `t` leaves it. -/
def Rests (c h t q : ℕ) : Prop := t ≤ q + (c - 1 - h) ∧ q ≤ t + h

theorem level_step (hh : h < c) : level c h (step c m h x y) =
    (x * m + level c h y * (c - 1) + h) / c := by
  rw [step_eq hh, level]

/-- The next level, by its bounds. -/
theorem next_level_iff {t q q' : ℕ} (hc : 0 < c) :
    (t + q * (c - 1) + h) / c = q' ↔
      q' * (c - 1) + q' ≤ t + q * (c - 1) + h ∧ t + q * (c - 1) + h < q' * (c - 1) + q' + c := by
  have hmul : q' * (c - 1) + q' = q' * c := by
    rw [← Nat.mul_succ, Nat.succ_eq_add_one, Nat.sub_add_cancel hc]
  rw [hmul, Nat.div_eq_iff hc]
  omega

theorem Rests.next {t q : ℕ} (hh : h < c) (hq : Rests c h t q) :
    (t + q * (c - 1) + h) / c = q := by
  obtain ⟨hlo, hhi⟩ := hq
  rw [next_level_iff (by omega)]
  omega

/-- A level that does not rest comes closer, from its side. -/
theorem next_of_not_rests {t q : ℕ} (hh : h < c) (hq : ¬ Rests c h t q) :
    let next := (t + q * (c - 1) + h) / c
    (q < next ∧ next + (c - 1 - h) ≤ t) ∨ (next < q ∧ t + h ≤ next) := by
  intro next
  have hc : 0 < c := by omega
  obtain ⟨hle, hlt⟩ : next * (c - 1) + next ≤ t + q * (c - 1) + h ∧
      t + q * (c - 1) + h < next * (c - 1) + next + c := (next_level_iff hc).mp rfl
  have hmono : ∀ a b, a ≤ b → a * (c - 1) ≤ b * (c - 1) := fun a b => Nat.mul_le_mul_right _
  have hsucc : ∀ a, (a + 1) * (c - 1) = a * (c - 1) + (c - 1) := fun a => Nat.succ_mul a _
  obtain hlow | hhigh := not_and_or.mp hq
  · left
    constructor
    · by_contra hno
      have := hmono next q (by omega)
      omega
    · by_contra hno
      have := hmono (q + 1) next (by omega)
      rw [hsucc] at this
      omega
  · right
    constructor
    · by_contra hno
      have := hmono q next (by omega)
      omega
    · by_contra hno
      have := hmono (next + 1) q (by omega)
      rw [hsucc] at this
      omega

/-- The level reaches one where it rests. -/
theorem level_settles (hh : h < c) (x y : ℕ) :
    ∃ n, Rests c h (x * m) (level c h ((step c m h x)^[n] y)) := by
  -- The distance to the nearer bound of the band.
  induction hd : (level c h y - (x * m + h)) + (x * m - (level c h y + (c - 1 - h))) using
    Nat.strongRecOn generalizing y with
  | _ d ih =>
    by_cases hrests : Rests c h (x * m) (level c h y)
    · exact ⟨0, hrests⟩
    · have hnext := next_of_not_rests hh hrests
      rw [← level_step hh] at hnext
      obtain ⟨n, hn⟩ := ih _ (by omega) (step c m h x y) rfl
      exact ⟨n + 1, hn⟩

/-- **Where the filter comes to rest** under the constant input `x`. -/
theorem settles (hh : h < c) (x y : ℕ) :
    ∃ n q, Rests c h (x * m) q ∧ ∀ k, n < k → (step c m h x)^[k] y = x * m + q * (c - 1) := by
  obtain ⟨n, hrests⟩ := level_settles (m := m) hh x y
  generalize hq : level c h ((step c m h x)^[n] y) = q at hrests
  have hlevel : ∀ k, level c h ((step c m h x)^[n + k] y) = q := by
    intro k
    induction k with
    | zero => exact hq
    | succ k ih =>
      rw [← Nat.add_assoc, Function.iterate_succ_apply', level_step hh, ih]
      exact hrests.next hh
  refine ⟨n, q, hrests, fun k hk => ?_⟩
  obtain ⟨j, rfl⟩ : ∃ j, k = n + j + 1 := ⟨k - n - 1, by omega⟩
  rw [Function.iterate_succ_apply', step_eq hh, hlevel]

/-- The level of the input is reached only from itself. -/
theorem level_step_eq_iff (hpos : 0 < h) (hh : h + 1 < c) :
    level c h (step c m h x y) = x * m ↔ level c h y = x * m := by
  rw [level_step (by omega)]
  generalize level c h y = q
  generalize x * m = t
  have hnext : (t + t * (c - 1) + h) / c = t := Rests.next (by omega) ⟨by omega, by omega⟩
  have hmono : ∀ a b, a < b → a * (c - 1) + (c - 1) ≤ b * (c - 1) := by
    intro a b hab
    rw [← Nat.succ_mul]
    exact Nat.mul_le_mul_right _ hab
  constructor
  · intro ht
    obtain ⟨hle, hlt⟩ := (next_level_iff (by omega)).mp ht
    obtain hlow | heq | hhigh := Nat.lt_trichotomy q t
    · have := hmono q t hlow
      omega
    · exact heq
    · have := hmono t q hhigh
      omega
  · rintro rfl
    exact hnext

theorem level_iterate_eq_iff (hpos : 0 < h) (hh : h + 1 < c) (n : ℕ) :
    level c h ((step c m h x)^[n] y) = x * m ↔ level c h y = x * m := by
  induction n with
  | zero => exact Iff.rfl
  | succ n ih => rw [Function.iterate_succ_apply', level_step_eq_iff hpos hh, ih]

/-- **When the filter reaches its input**: only if the level is that of the input at the start. -/
theorem reaches_iff (hpos : 0 < h) (hh : h + 1 < c) :
    (∃ n, ∀ k, n ≤ k → (step c m h x)^[k] y = x * (c * m)) ↔ level c h y = x * m := by
  have hafter : ∀ k, (step c m h x)^[k + 1] y = x * (c * m) ↔ level c h y = x * m := by
    intro k
    have hpos' : 0 < c - 1 := by omega
    rw [Function.iterate_succ_apply', step_eq (by omega), parts (by omega), Nat.add_left_cancel_iff,
      Nat.mul_left_inj (by omega), level_iterate_eq_iff hpos hh]
  constructor
  · rintro ⟨n, hn⟩
    exact (hafter n).mp (hn (n + 1) (Nat.le_succ n))
  · intro h
    refine ⟨1, fun k hk => ?_⟩
    obtain ⟨j, rfl⟩ : ∃ j, k = j + 1 := ⟨k - 1, by omega⟩
    exact (hafter j).mpr h

end LowPass
