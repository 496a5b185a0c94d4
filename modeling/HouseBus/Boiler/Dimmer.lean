import HouseBus.Boiler
import Mathlib.Data.Nat.Count

/-!
# The duty cycle of the dimmer

`dimmer_tick` switches whole half waves: it counts ticks of 5 ms in the 8-bit `cnt`, two for each
half wave, and the output is high while `cnt` is below the ticks of `halfwaves_on`. Behind the
ticks of `halfwaves_total` the counter starts again.

With more than 128 half waves in the period the 8-bit counter wraps first. So the duty cycle is
exact up to a period of 128 half waves, and above it only for the outputs that are always low or
always high (`dimmer_duty_iff`).
-/

namespace HouseBus

namespace Dimmer

theorem halfwavesToTick_eq (h : ℕ) : halfwavesToTick h = 2 * h := by
  unfold halfwavesToTick
  omega

/-- What happens to the dimmer. -/
inductive Event
  | init (configPin : ℕ)
  | readConfig (period dutyCycle : ℕ)
  | setDc (dc : UInt8)
  | tick

/-- The state after an event. -/
def step (s : Dimmer) : Event → Dimmer
  | .init configPin => s.init configPin
  | .readConfig period dutyCycle => s.readConfig period dutyCycle
  | .setDc dc => s.setDc dc.toNat
  | .tick => s.tick

/-- The static variables at power-on. -/
def start : Dimmer := ⟨0, 0, 0, 0, false⟩

/-- `n` ticks without a change of the settings. -/
def ticks (n : ℕ) (s : Dimmer) : Dimmer := tick^[n] s

/-- The number of ticks among the next `n` that drive the output high. -/
def highs (n : ℕ) (s : Dimmer) : ℕ := Nat.count (fun i => (s.ticks (i + 1)).pad = true) n

/-- The counter has wrapped in one of the first `n` ticks. -/
def Wrapped (n : ℕ) (s : Dimmer) : Prop := ∃ k < n, (s.ticks (k + 1)).cnt = 0

/-! ## The counter -/

/-- The number of ticks between two wraps of the counter. -/
def period (s : Dimmer) : ℕ := min (2 * s.halfwavesTotal) 256

@[simp] theorem tick_halfwavesOn (s : Dimmer) : s.tick.halfwavesOn = s.halfwavesOn := rfl

@[simp] theorem tick_halfwavesTotal (s : Dimmer) : s.tick.halfwavesTotal = s.halfwavesTotal := rfl

@[simp] theorem tick_period (s : Dimmer) : s.tick.period = s.period := rfl

theorem ticks_succ (n : ℕ) (s : Dimmer) : s.ticks (n + 1) = (s.ticks n).tick :=
  Function.iterate_succ_apply' tick n s

theorem ticks_add (m n : ℕ) (s : Dimmer) : s.ticks (m + n) = (s.ticks m).ticks n := by
  unfold ticks
  rw [Nat.add_comm, Function.iterate_add_apply]

@[simp] theorem ticks_halfwavesOn (n : ℕ) (s : Dimmer) :
    (s.ticks n).halfwavesOn = s.halfwavesOn := by
  induction n with
  | zero => rfl
  | succ n ih => rw [ticks_succ, tick_halfwavesOn, ih]

@[simp] theorem ticks_halfwavesTotal (n : ℕ) (s : Dimmer) :
    (s.ticks n).halfwavesTotal = s.halfwavesTotal := by
  induction n with
  | zero => rfl
  | succ n ih => rw [ticks_succ, tick_halfwavesTotal, ih]

@[simp] theorem ticks_period (n : ℕ) (s : Dimmer) : (s.ticks n).period = s.period := by
  simp only [period, ticks_halfwavesTotal]

/-- The level after a tick. -/
theorem tick_pad (s : Dimmer) : s.tick.pad = decide (s.cnt < 2 * s.halfwavesOn) := by
  rw [← halfwavesToTick_eq]
  rfl

/-- Below its period the counter counts modulo the period. -/
theorem tick_cnt {s : Dimmer} (h : s.cnt < s.period) : s.tick.cnt = (s.cnt + 1) % s.period := by
  have hperiod : s.period = min (2 * s.halfwavesTotal) 256 := rfl
  have hcnt : s.tick.cnt = if 2 * s.halfwavesTotal ≤ (s.cnt + 1) % 256 then 0
      else (s.cnt + 1) % 256 := by
    rw [← halfwavesToTick_eq]; rfl
  rw [hcnt]
  obtain hlt | heq := Nat.lt_or_eq_of_le (Nat.succ_le_of_lt h)
  · rw [Nat.mod_eq_of_lt hlt, Nat.mod_eq_of_lt (by omega), if_neg (by omega)]
  · -- the wrap: by the comparison, or by the 8 bits
    have hzero : (s.cnt + 1) % s.period = 0 := by
      rw [← Nat.succ_eq_add_one, heq, Nat.mod_self]
    rw [hzero]
    split <;> omega

theorem ticks_cnt {s : Dimmer} (h : s.cnt < s.period) (n : ℕ) :
    (s.ticks n).cnt = (s.cnt + n) % s.period := by
  induction n with
  | zero => exact (Nat.mod_eq_of_lt h).symm
  | succ n ih =>
    have hlt : (s.ticks n).cnt < (s.ticks n).period := by
      rw [ih, ticks_period]
      exact Nat.mod_lt _ (by omega)
    rw [ticks_succ, tick_cnt hlt, ih, ticks_period, Nat.mod_add_mod, Nat.add_assoc]

/-! ## Windows -/

/-- The high ticks of a window, by the counter. -/
theorem highs_eq {s : Dimmer} (h : s.cnt < s.period) (n : ℕ) :
    s.highs n = Nat.count (fun i => (s.cnt + i) % s.period < 2 * s.halfwavesOn) n := by
  unfold highs
  congr 1
  funext i
  rw [ticks_succ, tick_pad, ticks_cnt h, ticks_halfwavesOn, decide_eq_true_eq]

/-- From phase 0 the high ticks come first. -/
theorem count_first {k n p : ℕ} (h : n ≤ p) :
    Nat.count (fun i => (0 + i) % p < k) n = min k n := by
  induction n with
  | zero => rw [Nat.count_zero, Nat.min_zero]
  | succ n ih =>
    rw [Nat.count_succ, ih (by omega), Nat.zero_add, Nat.mod_eq_of_lt (by omega)]
    split <;> omega

/-- Over one period, from any phase: what leaves the window at its start comes in at its end. -/
theorem count_period (c k p : ℕ) : Nat.count (fun i => (c + i) % p < k) p = min k p := by
  induction c with
  | zero => exact count_first le_rfl
  | succ c ih =>
    have hlast := Nat.count_succ (fun i => (c + i) % p < k) p
    have hfirst := Nat.count_succ' (fun i => (c + i) % p < k) p
    have hshift : (fun i => (c + (i + 1)) % p < k) = fun i => (c + 1 + i) % p < k := by
      funext i
      rw [Nat.add_assoc, Nat.add_comm 1 i]
    simp only [hshift, Nat.add_zero, Nat.add_mod_right] at hlast hfirst
    omega

/-- A window of one period. -/
theorem highs_period {s : Dimmer} (h : s.cnt < s.period) :
    s.highs s.period = min (2 * s.halfwavesOn) s.period := by
  rw [highs_eq h, count_period]

/-- A window of less than one period, behind a wrap. -/
theorem highs_first {s : Dimmer} (hcnt : s.cnt = 0) {n : ℕ} (hpos : 0 < s.period)
    (hn : n ≤ s.period) : s.highs n = min (2 * s.halfwavesOn) n := by
  rw [highs_eq (hcnt ▸ hpos), hcnt, count_first hn]

theorem highs_add (s : Dimmer) (m n : ℕ) : s.highs (m + n) = s.highs m + (s.ticks m).highs n := by
  unfold highs
  rw [Nat.count_add]
  congr 2
  funext i
  rw [← ticks_add, Nat.add_assoc]

/-- Every tick is high, or none. -/
theorem highs_const {s : Dimmer} (h : s.cnt < s.period) (n : ℕ) :
    (s.halfwavesOn = 0 → s.highs n = 0) ∧ (s.period ≤ 2 * s.halfwavesOn → s.highs n = n) := by
  rw [highs_eq h]
  refine ⟨fun hoff => Nat.count_iff_forall_not.mpr fun i _ => ?_,
    fun hon => Nat.count_iff_forall.mpr fun i _ => ?_⟩
  · omega
  · have := Nat.mod_lt (s.cnt + i) (show 0 < s.period by omega)
    omega

/-! ## Wraps -/

/-- Until it wraps the counter goes up by one in each tick. -/
theorem ticks_cnt_of_not_wrapped {s : Dimmer} (hs : s.cnt < 256) {n : ℕ} (h : ¬ s.Wrapped n) :
    (s.ticks n).cnt = s.cnt + n ∧ s.cnt + n < 256 := by
  induction n with
  | zero => exact ⟨rfl, hs⟩
  | succ n ih =>
    obtain ⟨hcnt, hlt⟩ := ih fun ⟨k, hk, hzero⟩ => h ⟨k, by omega, hzero⟩
    have hne : (s.ticks (n + 1)).cnt ≠ 0 := fun hzero => h ⟨n, by omega, hzero⟩
    have hnext : (s.ticks (n + 1)).cnt =
        if halfwavesToTick s.halfwavesTotal ≤ (s.cnt + n + 1) % 256 then 0
        else (s.cnt + n + 1) % 256 := by
      rw [ticks_succ, ← hcnt, ← ticks_halfwavesTotal n s]
      rfl
    rw [hnext] at hne ⊢
    split at hne
    · exact absurd rfl hne
    · rename_i hbelow
      rw [if_neg hbelow]
      omega

/-- The counter wraps. -/
theorem exists_wrap {s : Dimmer} (hs : s.cnt < 256) : ∃ k, (s.ticks (k + 1)).cnt = 0 := by
  by_contra hno
  have := ticks_cnt_of_not_wrapped hs (n := 256) fun ⟨k, _, hzero⟩ => hno ⟨k, hzero⟩
  omega

/-- Behind a wrap the counter stays below its period. -/
theorem Wrapped.cnt_lt {s : Dimmer} {n : ℕ} (h : s.Wrapped n) (htotal : 0 < s.halfwavesTotal) :
    (s.ticks n).cnt < (s.ticks n).period := by
  obtain ⟨k, hk, hzero⟩ := h
  have hpos : 0 < s.period := by
    unfold period
    omega
  obtain ⟨m, rfl⟩ := Nat.exists_eq_add_of_le (Nat.succ_le_of_lt hk)
  rw [ticks_add, ticks_cnt (by rwa [Nat.succ_eq_add_one, hzero, ticks_period])]
  simp only [ticks_period]
  exact Nat.mod_lt _ hpos

/-! ## The settings -/

/-- The 8-bit variables. -/
structure Stored (s : Dimmer) : Prop where
  halfwavesTotal : s.halfwavesTotal < 256
  cnt : s.cnt < 256

theorem stored_keeps : Machine.Keeps step Stored := by
  intro s e h
  cases e with
  | init configPin =>
    unfold step init
    dsimp only
    split
    · exact ⟨h.halfwavesTotal, h.cnt⟩
    · exact ⟨h.halfwavesTotal, h.cnt⟩
  | readConfig period dutyCycle => exact ⟨Nat.mod_lt _ (by decide), h.cnt⟩
  | setDc dc => exact ⟨h.halfwavesTotal, h.cnt⟩
  | tick =>
    refine ⟨h.halfwavesTotal, ?_⟩
    show (if _ then 0 else (s.cnt + 1) % 256) < 256
    split
    · decide
    · exact Nat.mod_lt _ (by decide)

theorem stored_run (es : List Event) : Stored (Machine.run step start es) :=
  stored_keeps.run ⟨by decide, by decide⟩ es

/-- A duty cycle of at most 100 fits. -/
theorem setDc_halfwavesOn {s : Dimmer} (h : Stored s) {dc : ℕ} (hdc : dc ≤ 100) :
    (s.setDc dc).halfwavesOn = dc * s.halfwavesTotal / 100 := by
  have hle : dc * s.halfwavesTotal ≤ 100 * s.halfwavesTotal := Nat.mul_le_mul_right _ hdc
  have htotal := h.halfwavesTotal
  exact Nat.mod_eq_of_lt (by omega)

/-- The duty cycle by the half waves that are on. -/
theorem halfwavesOn_eq {dc total : ℕ} (hdc : dc ≤ 100) (htotal : 0 < total) :
    (dc * total / 100 = 0 ↔ dc * total < 100) ∧ (dc * total / 100 = total ↔ dc = 100) := by
  have hle : dc * total ≤ 100 * total := Nat.mul_le_mul_right _ hdc
  refine ⟨by omega, fun hall => ?_, fun hfull => by rw [hfull]; omega⟩
  by_contra hne
  have hbelow : dc * total ≤ 99 * total := Nat.mul_le_mul_right _ (by omega)
  omega

/-! ## The duty cycle -/

/-- Behind a wrap every window of `2 * halfwavesTotal` ticks has `2 * halfwavesOn` high ones. -/
def DutyExact (s : Dimmer) : Prop :=
  ∀ n, s.Wrapped n → (s.ticks n).highs (2 * s.halfwavesTotal) = 2 * s.halfwavesOn

/-- The period of the counter is the one that is set. -/
theorem dutyExact_of_le {s : Dimmer} (htotal : 0 < s.halfwavesTotal)
    (hon : s.halfwavesOn ≤ s.halfwavesTotal) (h : s.halfwavesTotal ≤ 128) : s.DutyExact := by
  intro n hwrapped
  have hwindow := highs_period (hwrapped.cnt_lt htotal)
  have hperiod : s.period = 2 * s.halfwavesTotal := by
    unfold period
    omega
  rw [ticks_period, hperiod, ticks_halfwavesOn] at hwindow
  omega

/-- The output never changes. -/
theorem dutyExact_of_const {s : Dimmer} (htotal : 0 < s.halfwavesTotal)
    (h : s.halfwavesOn = 0 ∨ s.halfwavesOn = s.halfwavesTotal) : s.DutyExact := by
  intro n hwrapped
  obtain ⟨hnone, hall⟩ := highs_const (hwrapped.cnt_lt htotal) (2 * s.halfwavesTotal)
  rw [ticks_halfwavesOn] at hnone hall
  rw [ticks_period] at hall
  obtain hoff | hfull := h
  · rw [hnone hoff, hoff]
  · rw [hall (by unfold period; omega), hfull]

/-- With a longer period the window that starts at a wrap has the first ticks of the period twice.
-/
theorem DutyExact.const {s : Dimmer} (h : s.DutyExact) (hs : Stored s)
    (hon : s.halfwavesOn ≤ s.halfwavesTotal) (hlong : 128 < s.halfwavesTotal) :
    s.halfwavesOn = 0 ∨ s.halfwavesOn = s.halfwavesTotal := by
  obtain ⟨k, hzero⟩ := exists_wrap hs.cnt
  have hwindow := h (k + 1) ⟨k, by omega, hzero⟩
  have hlt := hs.halfwavesTotal
  generalize hr : s.ticks (k + 1) = r at hzero hwindow
  have hperiod : r.period = 256 := by
    rw [← hr, ticks_period]
    unfold period
    omega
  have hron : r.halfwavesOn = s.halfwavesOn := by rw [← hr, ticks_halfwavesOn]
  have hcnt : r.cnt < r.period := by rw [hzero, hperiod]; decide
  have hagain : (r.ticks r.period).cnt = 0 := by
    rw [ticks_cnt hcnt, hzero, Nat.zero_add, Nat.mod_self]
  have hsplit : 2 * s.halfwavesTotal = r.period + (2 * s.halfwavesTotal - 256) := by omega
  rw [hsplit, highs_add, highs_period hcnt, highs_first hagain (by rw [ticks_period]; omega)
    (by rw [ticks_period]; omega), ticks_halfwavesOn, hron, hperiod] at hwindow
  omega

/-- **When the duty cycle is exact**: with a period of at most 128 half waves, and where no half
wave is on, or all are. -/
theorem dimmer_duty_iff (es : List Event) (dc : ℕ) (hdc : dc ≤ 100)
    (htotal : 0 < (Machine.run step start es).halfwavesTotal) :
    let s := (Machine.run step start es).setDc dc
    (∀ n, s.Wrapped n →
        (s.ticks n).highs (2 * s.halfwavesTotal) = 2 * (dc * s.halfwavesTotal / 100)) ↔
      s.halfwavesTotal ≤ 128 ∨ dc * s.halfwavesTotal < 100 ∨ dc = 100 := by
  intro s
  have hrun := stored_run es
  have hs : Stored s := ⟨hrun.halfwavesTotal, hrun.cnt⟩
  have hset : s.halfwavesOn = dc * s.halfwavesTotal / 100 := setDc_halfwavesOn hrun hdc
  have hle : dc * s.halfwavesTotal ≤ 100 * s.halfwavesTotal := Nat.mul_le_mul_right _ hdc
  have hon : s.halfwavesOn ≤ s.halfwavesTotal := by omega
  obtain ⟨hnone, hall⟩ := halfwavesOn_eq hdc (show 0 < s.halfwavesTotal from htotal)
  rw [← hset] at hnone hall
  rw [← hset, ← hnone, ← hall]
  constructor
  · intro hexact
    obtain hshort | hlong := le_or_gt s.halfwavesTotal 128
    · exact .inl hshort
    · exact .inr (DutyExact.const hexact hs hon hlong)
  · rintro (hshort | hconst)
    · exact dutyExact_of_le htotal hon hshort
    · exact dutyExact_of_const htotal hconst

theorem dimmer_duty_iff_five :
    let s := (Machine.run step start [.readConfig 10 0]).setDc 50
    (∀ n, s.Wrapped n →
        (s.ticks n).highs (2 * s.halfwavesTotal) = 2 * (50 * s.halfwavesTotal / 100)) ↔
      s.halfwavesTotal ≤ 128 ∨ 50 * s.halfwavesTotal < 100 ∨ 50 = 100 :=
  dimmer_duty_iff [.readConfig 10 0] 50 (by decide) (by decide)

/-- A period of 200 half waves at 50 %: the counter wraps after 256 ticks, and the window of 400
ticks behind a wrap has 344 high ones. -/
theorem not_dimmer_duty :
    let s := (Machine.run step start [.readConfig 200 0]).setDc 50
    ¬ ∀ n, s.Wrapped n →
        (s.ticks n).highs (2 * s.halfwavesTotal) = 2 * (50 * s.halfwavesTotal / 100) := by
  intro s h
  have hset : s.halfwavesOn = 50 * s.halfwavesTotal / 100 := by decide
  rw [← hset] at h
  have hconst : s.halfwavesOn = 0 ∨ s.halfwavesOn = s.halfwavesTotal :=
    DutyExact.const h ⟨by decide, by decide⟩ (by decide) (by decide)
  exact absurd hconst (by decide)

end Dimmer

end HouseBus
