import HouseBus.Bathroom
import HouseBus.Lib.RingBuffer
import Mathlib.Algebra.Order.BigOperators.Group.Finset
import Mathlib.Algebra.Order.Floor.Semifield
import Mathlib.Data.Rat.Floor

/-!
# The window of the brightness (`readLdr`)

`readLdr` keeps the sum of its window when it replaces a slot. The window has the last 128 values,
zeros before them, and its sum is at most 128 · 255, so 16 bits hold it (`WindowOk`): the brightness
is that of the average (`brightness_exact`). The light, the person and the clock are any before each
call.
-/

namespace HouseBus

open RingBuffer (recent)

/-! ## The calls -/

/-- A call of `readLdr`, and what it finds: the clock readings, the filtered ADC value, `bright` and
`person_inside`. -/
structure LdrCall where
  clock : Bathroom.TickClock
  adc : UInt16
  bright : Bool
  personInside : Bool

/-- The node, and the values that `readLdr` has taken so far. -/
structure BrightnessRun where
  node : Bathroom
  accepted : List UInt8

namespace BrightnessRun

/-- Power-on. -/
def start (cfg : BathroomConfig) : BrightnessRun := ⟨.start cfg, []⟩

/-- The node before a call. -/
def before (s : BrightnessRun) (call : LdrCall) : Bathroom :=
  { s.node with
    bright := call.bright
    status := { s.node.status with personInside := call.personInside } }

/-- The call takes a sample: the last one is `LDR_TICK_INTERVAL_S` old. -/
def Accepts (s : BrightnessRun) (call : LdrCall) : Prop :=
  timeS2I ldrTickIntervalS ≤ timeElapsedSince call.clock.ldr s.node.ldr.lastReadingAt

instance (s : BrightnessRun) (call : LdrCall) : Decidable (s.Accepts call) :=
  inferInstanceAs (Decidable (_ ≤ _))

/-- The state after a call. -/
def step (s : BrightnessRun) (call : LdrCall) : BrightnessRun where
  node := (s.before call).readLdr call.clock call.adc
  accepted :=
    if s.Accepts call then s.accepted ++ [(s.before call).ldrValue call.adc] else s.accepted

/-- The sum of the window. -/
def windowSum (ldr : Ldr) : ℕ := ∑ i ∈ Finset.range ldrWindowLength, (ldr.window i).toNat

/-- The sum of the last 128 values. -/
def recentSum (accepted : List UInt8) : ℕ :=
  ∑ i ∈ Finset.range ldrWindowLength, (recent 0 accepted i).toNat

/-- The average of the last 128 values. -/
def average (accepted : List UInt8) : ℚ := recentSum accepted / ldrWindowLength

/-- A call that takes a sample shows the average in steps of 32. -/
def ShowsAverage (s : BrightnessRun) (call : LdrCall) : Prop :=
  s.Accepts call →
    (s.step call).node.status.brightness = ⌊average (s.step call).accepted / 32⌋₊ ∧
      (s.step call).node.status.brightness ≤ 7

/-! ## The window -/

theorem recentSum_le (accepted : List UInt8) : recentSum accepted ≤ 128 * 255 := by
  have hvalue : ∀ i ∈ Finset.range ldrWindowLength, (recent 0 accepted i).toNat ≤ 255 :=
    fun i _ => Nat.le_of_lt_succ (UInt8.toNat_lt _)
  exact (Finset.sum_le_card_nsmul _ _ 255 hvalue).trans_eq (by rw [Finset.card_range]; rfl)

/-- The window holds the last values, and `sum` their sum. -/
structure WindowOk (ldr : Ldr) (accepted : List UInt8) : Prop where
  holds : RingBuffer.Holds 0 ldrWindowLength ldr.window ldr.windowPointer accepted
  window : windowSum ldr = recentSum accepted
  sum : ldr.sum.toNat = recentSum accepted

theorem windowOk_start : WindowOk ⟨fun _ => 0, 0, 0, 0⟩ [] := by
  have hzero : recentSum [] = 0 := Finset.sum_eq_zero fun _ _ => rfl
  refine ⟨RingBuffer.holds_nil _, ?_, ?_⟩
  · rw [hzero]
    exact Finset.sum_eq_zero fun _ _ => rfl
  · rw [hzero]
    rfl

/-- The sum in 16 bits, when the exact one fits. -/
theorem toNat_replace {sum v old : UInt16} {exact : ℕ}
    (hexact : exact + old.toNat = sum.toNat + v.toNat) (hfits : exact < 2 ^ 16) :
    (sum + v - old).toNat = exact := by
  rw [UInt16.toNat_sub, UInt16.toNat_add]
  have hold := old.toNat_lt
  omega

/-- The variables when a value replaces the oldest one. -/
def push (v : UInt8) (now : ℕ) (ldr : Ldr) : Ldr :=
  let windowPointer := (ldr.windowPointer + 1) % ldrWindowLength
  { window := Function.update ldr.window windowPointer v
    windowPointer := windowPointer
    sum := ldr.sum + v.toUInt16 - (ldr.window windowPointer).toUInt16
    lastReadingAt := now }

theorem WindowOk.push {ldr : Ldr} {accepted : List UInt8} (h : WindowOk ldr accepted) (v : UInt8)
    (now : ℕ) : WindowOk (push v now ldr) (accepted ++ [v]) := by
  have hnext : (ldr.windowPointer + 1) % ldrWindowLength < ldrWindowLength :=
    Nat.mod_lt _ (by decide)
  have holdest := h.holds.oldest (by decide)
  have hrecent : recentSum (accepted ++ [v]) + (recent 0 accepted (ldrWindowLength - 1)).toNat =
      recentSum accepted + v.toNat := RingBuffer.sum_recent_concat UInt8.toNat (by decide) v
  have hslots : windowSum (BrightnessRun.push v now ldr) +
      (recent 0 accepted (ldrWindowLength - 1)).toNat = windowSum ldr + v.toNat := by
    rw [← holdest]
    exact RingBuffer.sum_update UInt8.toNat hnext v
  refine ⟨h.holds.push v, ?_, ?_⟩
  · have hwindow := h.window
    omega
  · have hsum := h.sum
    refine toNat_replace ?_ (Nat.lt_of_le_of_lt (recentSum_le _) (by decide))
    rw [holdest, UInt8.toNat_toUInt16, UInt8.toNat_toUInt16]
    omega

/-! ## Every run -/

/-- A call that takes a sample. -/
theorem readLdr_of_due (b : Bathroom) {clock : Bathroom.TickClock} (adc : UInt16)
    (h : timeS2I ldrTickIntervalS ≤ timeElapsedSince clock.ldr b.ldr.lastReadingAt) :
    (b.readLdr clock adc).ldr = push (b.ldrValue adc) clock.ldrStore b.ldr ∧
      (b.readLdr clock adc).status.brightness =
        (push (b.ldrValue adc) clock.ldrStore b.ldr).sum.toNat / ldrWindowLength / 2 ^ 5 := by
  unfold Bathroom.readLdr
  rw [if_pos h]
  exact ⟨rfl, rfl⟩

theorem windowOk_step : Machine.Keeps step fun s => WindowOk s.node.ldr s.accepted := by
  intro s call h
  by_cases hdue : s.Accepts call
  · have hldr := (readLdr_of_due (s.before call) call.adc hdue).1
    show WindowOk ((s.before call).readLdr call.clock call.adc).ldr (ite _ _ _)
    rw [hldr, if_pos hdue]
    exact h.push _ _
  · have hnode : (s.before call).readLdr call.clock call.adc = s.before call := if_neg hdue
    show WindowOk ((s.before call).readLdr call.clock call.adc).ldr (ite _ _ _)
    rw [hnode, if_neg hdue]
    exact h

theorem average_floor (accepted : List UInt8) :
    ⌊average accepted / 32⌋₊ = recentSum accepted / ldrWindowLength / 2 ^ 5 := by
  unfold average
  rw [Nat.floor_div_ofNat, Nat.floor_div_eq_div]
  rfl

theorem showsAverage {s : BrightnessRun} (h : WindowOk s.node.ldr s.accepted) (call : LdrCall) :
    ShowsAverage s call := by
  intro hdue
  have hok := windowOk_step s call h
  have hshown : (s.step call).node.status.brightness =
      (s.step call).node.ldr.sum.toNat / ldrWindowLength / 2 ^ 5 := by
    obtain ⟨hldr, hbrightness⟩ := readLdr_of_due (s.before call) call.adc hdue
    exact hbrightness.trans (congrArg (·.sum.toNat / ldrWindowLength / 2 ^ 5) hldr).symm
  rw [hshown, hok.sum, average_floor]
  refine ⟨rfl, ?_⟩
  have haverage : recentSum (s.step call).accepted / ldrWindowLength ≤ 255 :=
    Nat.div_le_of_le_mul (recentSum_le _)
  exact Nat.div_le_div_right haverage

/-- **The brightness**: after any calls `sum` is the sum of the window, and each call that takes a
sample shows the average of the last 128, in 3 bits. -/
theorem brightness_exact (cfg : BathroomConfig) (calls : List LdrCall) :
    (Machine.run step (start cfg) calls).node.ldr.sum.toNat =
        windowSum (Machine.run step (start cfg) calls).node.ldr ∧
      Machine.Meets step ShowsAverage (start cfg) calls := by
  have hstart : WindowOk (start cfg).node.ldr (start cfg).accepted := windowOk_start
  have hok := windowOk_step.run hstart calls
  refine ⟨hok.sum.trans hok.window.symm, ?_⟩
  exact windowOk_step.meets (fun _ call h => showsAverage h call) hstart calls

end BrightnessRun

end HouseBus
