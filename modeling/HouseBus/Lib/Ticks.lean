import Mathlib.Data.Nat.ModEq
import Mathlib.Data.Int.ModEq
import Mathlib.Tactic.Ring

/-!
# Wrapping tick counters

A counter of `W` values that counts ticks: `clock W t` is what it shows at tick `t`, and
`elapsed W now last` the difference of two readings modulo `W`.

- The difference is that of the ticks, modulo `W` (`elapsed_clock`): it is exact below one wrap
  (`elapsed_clock_of_lt`) and never too large (`elapsed_clock_le`).
- `epoch W t` is the number of wraps up to `t`. In one epoch the counter orders the ticks
  (`clock_lt_clock_iff`), and less than one wrap apart only there (`clock_order_iff`); a reading
  below an earlier one, less than one wrap apart, shows that it wrapped (`clock_lt_iff_epoch`).
- Any number of wraps apart, the order of two readings is that of the time between them and the time
  to the next wrap (`clock_le_clock_iff`, `clock_lt_clock_iff_of_le`); so a deadline is tested by
  absolute comparison (`clock_lt_deadline_iff`).
- `roundUp f x` is `x` ticks in units of `f`, rounded up; whole units compare with it as with `x`
  (`lt_roundUp_iff`).
-/

namespace Ticks

variable (W : ℕ)

/-- The counter at tick `t`. -/
def clock (t : ℕ) : ℕ := t % W

/-- The number of wraps up to tick `t`. -/
def epoch (t : ℕ) : ℕ := t / W

/-- The difference of two readings. -/
def elapsed (now last : ℕ) : ℕ := (now + (W - last)) % W

/-- `x` ticks in units of `f` ticks, rounded up. -/
def roundUp (f x : ℕ) : ℕ := (x + (f - 1)) / f

variable {W}

theorem clock_lt (hW : 0 < W) (t : ℕ) : clock W t < W := Nat.mod_lt _ hW

theorem epoch_mul_add_clock (t : ℕ) : W * epoch W t + clock W t = t := Nat.div_add_mod t W

theorem epoch_mono {s t : ℕ} (h : s ≤ t) : epoch W s ≤ epoch W t := Nat.div_le_div_right h

/-- The difference of two readings is that of their ticks. -/
theorem elapsed_clock (hW : 0 < W) {now last : ℕ} (h : last ≤ now) :
    elapsed W (clock W now) (clock W last) = (now - last) % W := by
  have hlast := clock_lt hW last
  have hn := epoch_mul_add_clock (W := W) now
  have hl := epoch_mul_add_clock (W := W) last
  have hsum : clock W now + (W - clock W last) + W * epoch W now =
      now - last + W * (epoch W last + 1) := by
    rw [Nat.mul_add, Nat.mul_one]
    omega
  have hmod := congrArg (· % W) hsum
  simp only [Nat.add_mul_mod_self_left] at hmod
  exact hmod

theorem elapsed_clock_of_lt {now last : ℕ} (h : last ≤ now) (hlt : now < last + W) :
    elapsed W (clock W now) (clock W last) = now - last := by
  rw [elapsed_clock (by omega) h, Nat.mod_eq_of_lt (by omega)]

theorem elapsed_clock_le (hW : 0 < W) {now last : ℕ} (h : last ≤ now) :
    elapsed W (clock W now) (clock W last) ≤ now - last := by
  rw [elapsed_clock hW h]
  exact Nat.mod_le _ _

/-! ## Epochs -/

/-- In one epoch the counter orders the ticks. -/
theorem clock_lt_clock_iff {s t : ℕ} (h : epoch W s = epoch W t) :
    clock W s < clock W t ↔ s < t := by
  have hs := epoch_mul_add_clock (W := W) s
  have ht := epoch_mul_add_clock (W := W) t
  rw [← h] at ht
  omega

/-- Less than one wrap later the epoch is the same or the next. -/
theorem epoch_of_lt {s t : ℕ} (h : s ≤ t) (hlt : t < s + W) :
    epoch W t = epoch W s ∨ epoch W t = epoch W s + 1 := by
  have hle : epoch W s ≤ epoch W t := epoch_mono h
  have hnext : epoch W t ≤ epoch W s + 1 := by
    have hW : 0 < W := by omega
    rw [epoch, epoch, ← Nat.add_div_right s hW]
    exact Nat.div_le_div_right hlt.le
  omega

/-- **A wrap**: less than one wrap later the reading is smaller if and only if the counter
wrapped. -/
theorem clock_lt_iff_epoch {s t : ℕ} (h : s ≤ t) (hlt : t < s + W) :
    clock W t < clock W s ↔ epoch W t = epoch W s + 1 := by
  have hs := epoch_mul_add_clock (W := W) s
  have ht := epoch_mul_add_clock (W := W) t
  obtain he | he := epoch_of_lt h hlt
  · rw [he] at ht
    omega
  · rw [he, Nat.mul_add, Nat.mul_one] at ht
    omega

/-- **Absolute comparisons**: less than one wrap apart, the readings are in the order of the ticks
exactly in one epoch. -/
theorem clock_order_iff {s t : ℕ} (hst : t < s + W) (hts : s < t + W) :
    (clock W s < clock W t ↔ s < t) ↔ epoch W s = epoch W t := by
  constructor
  · intro horder
    by_contra hne
    obtain hle | hlt := Nat.lt_or_ge t s
    · obtain he | he := epoch_of_lt hle.le hts
      · exact hne he
      · have := horder.mp ((clock_lt_iff_epoch hle.le hts).mpr he)
        omega
    · obtain he | he := epoch_of_lt hlt hst
      · exact hne he.symm
      · have hwrap := (clock_lt_iff_epoch hlt hst).mpr he
        obtain rfl | hlt := hlt.eq_or_lt
        · exact hne rfl
        · have := horder.mpr hlt
          omega
  · exact clock_lt_clock_iff

/-- The counter at a later tick. -/
theorem clock_add (s d : ℕ) : clock W (s + d) = (clock W s + d % W) % W := Nat.add_mod s d W

/-- **Readings any number of wraps apart**: the later one is not below the earlier one exactly if
the time between them, without whole wraps, ends before the next wrap. -/
theorem clock_le_clock_iff (hW : 0 < W) {s t : ℕ} (h : s ≤ t) :
    clock W s ≤ clock W t ↔ clock W s + (t - s) % W < W := by
  obtain ⟨d, rfl⟩ := Nat.exists_eq_add_of_le h
  rw [Nat.add_sub_cancel_left, clock_add]
  have hs := clock_lt hW s
  have hd := Nat.mod_lt d hW
  constructor
  · intro hle
    by_contra hwraps
    rw [Nat.mod_eq_sub_mod (by omega), Nat.mod_eq_of_lt (by omega)] at hle
    omega
  · intro hlt
    rw [Nat.mod_eq_of_lt hlt]
    exact Nat.le_add_right _ _

/-- The same readings are whole wraps apart. -/
theorem clock_eq_clock_iff {s t : ℕ} (h : s ≤ t) : clock W s = clock W t ↔ (t - s) % W = 0 := by
  rw [← Nat.dvd_iff_mod_eq_zero]
  exact Nat.modEq_iff_dvd' h

/-- The later reading is above the earlier one. -/
theorem clock_lt_clock_iff_of_le (hW : 0 < W) {s t : ℕ} (h : s ≤ t) :
    clock W s < clock W t ↔ 0 < (t - s) % W ∧ clock W s + (t - s) % W < W := by
  rw [Nat.lt_iff_le_and_ne, clock_le_clock_iff hW h, ne_eq, clock_eq_clock_iff h,
    Nat.pos_iff_ne_zero, and_comm]

/-- **A deadline** `e`, tested by absolute comparison: the reading is below that of the deadline
before it exactly in its epoch, and not below it behind it exactly as a later reading. -/
theorem clock_lt_deadline_iff (hW : 0 < W) {n e : ℕ} (h : e < n + W) :
    (clock W n < clock W e ↔ n < e) ↔
      if n < e then epoch W n = epoch W e else clock W e + (n - e) % W < W := by
  split
  · rename_i hbefore
    exact clock_order_iff h (by omega)
  · rename_i hbehind
    rw [← clock_le_clock_iff hW (by omega), iff_false_right hbehind, Nat.not_lt]

/-! ## Units -/

variable {f : ℕ}

theorem roundUp_mono {x y : ℕ} (h : x ≤ y) : roundUp f x ≤ roundUp f y :=
  Nat.div_le_div_right (by omega)

/-- More than `n` units, rounded up, are more than `n` units of ticks. -/
theorem lt_roundUp_iff (hf : 0 < f) {n x : ℕ} : n < roundUp f x ↔ n * f < x := by
  rw [roundUp, ← Nat.succ_le_iff, Nat.le_div_iff_mul_le hf, Nat.succ_mul]
  omega

/-- At least `n` units are more than `n - 1` units of ticks. -/
theorem lt_of_le_roundUp (hf : 0 < f) {n x : ℕ} (h : n ≤ roundUp f x) : n * f < x + f := by
  have := (Nat.le_div_iff_mul_le hf).mp h
  omega

end Ticks
