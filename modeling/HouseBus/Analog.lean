import HouseBus.Lib.LowPass

/-!
# The analog inputs (`sw/drivers/analog.c`)

The ADC samples 18 channels again and again; `adcFilterCallback` filters them, and
`analog_filter_reset` takes the raw samples of some channels for their filtered values. Both are
loops over the channels, and each channel goes its own way (`analogFilterReset_eq`,
`adcFilterCallback_eq`).

The filter is the low-pass of the library with 16 parts (`adcFilter_eq`), so it does not overflow,
and it has a dead band: a constant sample ends in one of 16 values (`adcSmpFiltered_settles`), and
the right one only if the filter was there before (`adcSmpFiltered_reaches_iff`).
-/

namespace HouseBus

/-- `ANALOG_CHANNELS` -/
def analogChannels : ℕ := 18

/-- `ANALOG_MAX` -/
def analogMax : ℕ := 16 * 4095

/-- A sample with `ADC_CFGR1_RES_12BIT`. -/
structure AdcSample where
  value : ℕ
  lt : value < 2 ^ 12

/-- The variables of the driver; `adcSmpRaw` is written by the DMA. -/
structure Analog where
  adcSmpRaw : ℕ → AdcSample
  adcSmpFiltered : ℕ → ℕ
  adcFilterInitialized : Bool

/-- The initial values. -/
def Analog.start : Analog where
  adcSmpRaw _ := ⟨0, by decide⟩
  adcSmpFiltered _ := 0
  adcFilterInitialized := false

/-- The assignment to `adc_smp_filtered[i]` in `adcFilterCallback`. -/
def adcFilter (sample filtered : ℕ) : ℕ :=
  let smp := (filtered + 8) / 16
  (sample + 15 * smp) % 2 ^ 16

namespace Analog

/-- `analog_filter_resetS` -/
def analogFilterResetS (channel : ℕ) (s : Analog) : Analog :=
  { s with
    adcSmpFiltered :=
      Function.update s.adcSmpFiltered channel ((s.adcSmpRaw channel).value * 16 % 2 ^ 16) }

/-- `analog_filter_reset` -/
def analogFilterReset (channels : ℕ) (s : Analog) : Analog :=
  (List.range 16).foldl
    (fun s i => if channels.testBit i then s.analogFilterResetS i else s) s

/-- `adcFilterCallback` -/
def adcFilterCallback (buffer : ℕ → AdcSample) (s : Analog) : Analog :=
  if !s.adcFilterInitialized then
    { (List.range analogChannels).foldl (fun s i => s.analogFilterResetS i) s with
      adcFilterInitialized := true }
  else
    (List.range analogChannels).foldl
      (fun s i => { s with
        adcSmpFiltered := Function.update s.adcSmpFiltered i
          (adcFilter (buffer i).value (s.adcSmpFiltered i)) }) s

/-! ## One channel -/

/-- A loop that sets each channel from the sample and the filtered value of this channel. -/
theorem foldl_channels {f : Analog → ℕ → Analog} {v : ℕ → AdcSample → ℕ → ℕ}
    (hf : ∀ s i, f s i =
      { s with
        adcSmpFiltered := Function.update s.adcSmpFiltered i
          (v i (s.adcSmpRaw i) (s.adcSmpFiltered i)) }) (n : ℕ) (s : Analog) :
    (List.range n).foldl f s =
      { s with
        adcSmpFiltered := fun i =>
          if i < n then v i (s.adcSmpRaw i) (s.adcSmpFiltered i) else s.adcSmpFiltered i } := by
  induction n with
  | zero => rfl
  | succ n ih =>
    rw [List.range_succ, List.foldl_append, ih, List.foldl_cons, List.foldl_nil, hf]
    simp only [Analog.mk.injEq, and_true, true_and]
    funext i
    obtain hlt | rfl | hgt := Nat.lt_trichotomy i n
    · rw [Function.update_of_ne (by omega), if_pos hlt, if_pos (by omega)]
    · rw [Function.update_self, if_neg (by omega), if_pos (by omega)]
    · rw [Function.update_of_ne (by omega), if_neg (by omega), if_neg (by omega)]

theorem analogFilterReset_eq (channels : ℕ) (s : Analog) :
    s.analogFilterReset channels =
      { s with
        adcSmpFiltered := fun i =>
          if i < 16 ∧ channels.testBit i then (s.adcSmpRaw i).value * 16 % 2 ^ 16
          else s.adcSmpFiltered i } := by
  rw [analogFilterReset, foldl_channels (v := fun i sample filtered =>
    if channels.testBit i then sample.value * 16 % 2 ^ 16 else filtered)]
  · simp only [Analog.mk.injEq, and_true, true_and]
    funext i
    split_ifs <;> simp_all
  · intro s i
    split_ifs
    · rfl
    · rw [Function.update_eq_self]

/-- The first call resets the channels, the others filter them. -/
theorem adcFilterCallback_eq (buffer : ℕ → AdcSample) (s : Analog) :
    s.adcFilterCallback buffer =
      { s with
        adcFilterInitialized := true
        adcSmpFiltered := fun i =>
          if i < analogChannels then
            if s.adcFilterInitialized then adcFilter (buffer i).value (s.adcSmpFiltered i)
            else (s.adcSmpRaw i).value * 16 % 2 ^ 16
          else s.adcSmpFiltered i } := by
  unfold adcFilterCallback
  cases hinit : s.adcFilterInitialized with
  | false =>
    have hloop := foldl_channels (f := fun s i => s.analogFilterResetS i)
      (v := fun _ sample _ => sample.value * 16 % 2 ^ 16) (fun s i => rfl) analogChannels s
    rw [Bool.not_false, if_pos rfl, hloop]
    rfl
  | true =>
    have hloop := foldl_channels (v := fun i _ filtered => adcFilter (buffer i).value filtered)
      (fun s i => rfl) analogChannels s
    rw [Bool.not_true, if_neg Bool.false_ne_true, hloop, hinit]
    rfl

end Analog

/-! ## The filter -/

section Filter

variable {sample : AdcSample} {filtered : ℕ}

/-- The filter does not overflow. -/
theorem adcFilter_eq (sample : AdcSample) (h : filtered ≤ analogMax) :
    adcFilter sample.value filtered = LowPass.step 16 1 8 sample.value filtered := by
  have hlt := sample.lt
  simp only [analogMax] at h
  rw [adcFilter, LowPass.step_eq (by decide), LowPass.level]
  omega

theorem adcFilter_le (h : filtered ≤ analogMax) : adcFilter sample.value filtered ≤ analogMax := by
  have hsample : sample.value ≤ 4095 := Nat.le_of_lt_succ sample.lt
  have hle : filtered ≤ 4095 * (16 * 1) := h
  rw [adcFilter_eq sample h]
  exact LowPass.step_le (by decide) hsample hle

end Filter

/-! ## Constant samples -/

section Constant

variable {s : Analog} {i : ℕ}

/-- The filtered value of a channel under constant samples. -/
theorem adcSmpFiltered_iterate (hinit : s.adcFilterInitialized = true) (hi : i < analogChannels)
    (hle : s.adcSmpFiltered i ≤ analogMax) (buffer : ℕ → AdcSample) (k : ℕ) :
    ((Analog.adcFilterCallback buffer)^[k] s).adcSmpFiltered i =
      (LowPass.step 16 1 8 (buffer i).value)^[k] (s.adcSmpFiltered i) := by
  induction k generalizing s with
  | zero => rfl
  | succ k ih =>
    have hnext : (s.adcFilterCallback buffer).adcSmpFiltered i =
        adcFilter (buffer i).value (s.adcSmpFiltered i) := by
      rw [Analog.adcFilterCallback_eq]
      simp only [if_pos hi, if_pos hinit]
    have hinit' : (s.adcFilterCallback buffer).adcFilterInitialized = true := by
      rw [Analog.adcFilterCallback_eq]
    have hle' : (s.adcFilterCallback buffer).adcSmpFiltered i ≤ analogMax := by
      rw [hnext]
      exact adcFilter_le hle
    rw [Function.iterate_succ_apply, Function.iterate_succ_apply, ih hinit' hle', hnext,
      adcFilter_eq _ hle]

/-- Under constant samples the filter comes to rest, at most 105 below or 120 above the value of
the sample. -/
theorem adcSmpFiltered_settles (hinit : s.adcFilterInitialized = true) (hi : i < analogChannels)
    (hle : s.adcSmpFiltered i ≤ analogMax) (buffer : ℕ → AdcSample) :
    ∃ n rest, 16 * (buffer i).value ≤ rest + 105 ∧ rest ≤ 16 * (buffer i).value + 120 ∧
      ∀ k, n < k → ((Analog.adcFilterCallback buffer)^[k] s).adcSmpFiltered i = rest := by
  obtain ⟨n, q, ⟨hlo, hhi⟩, hrest⟩ := LowPass.settles (c := 16) (m := 1) (h := 8) (by decide)
    (buffer i).value (s.adcSmpFiltered i)
  refine ⟨n, (buffer i).value * 1 + q * (16 - 1), by omega, by omega, fun k hk => ?_⟩
  rw [adcSmpFiltered_iterate hinit hi hle]
  exact hrest k hk

/-- **When the filter converges to its input**: under constant samples it reaches 16 times the
sample, and stays there, exactly if its value rounds to the sample from the start. -/
theorem adcSmpFiltered_reaches_iff (hinit : s.adcFilterInitialized = true)
    (hi : i < analogChannels) (hle : s.adcSmpFiltered i ≤ analogMax) (buffer : ℕ → AdcSample) :
    (∃ n, ∀ k, n ≤ k → ((Analog.adcFilterCallback buffer)^[k] s).adcSmpFiltered i =
        16 * (buffer i).value) ↔
      (s.adcSmpFiltered i + 8) / 16 = (buffer i).value := by
  have hreaches := LowPass.reaches_iff (c := 16) (m := 1) (h := 8) (x := (buffer i).value)
    (y := s.adcSmpFiltered i) (by decide) (by decide)
  simp only [Nat.mul_one] at hreaches
  simp only [adcSmpFiltered_iterate hinit hi hle, Nat.mul_comm 16 (buffer i).value]
  exact hreaches

/-- All channels sample 7. -/
def sevens : ℕ → AdcSample := fun _ => ⟨7, by decide⟩

/-- The filter at 7 everywhere. -/
def restingAtSeven : Analog := { Analog.start with
  adcSmpFiltered := fun _ => 7
  adcFilterInitialized := true }

theorem adcSmpFiltered_reaches_iff_sevens :
    (∃ n, ∀ k, n ≤ k → ((Analog.adcFilterCallback sevens)^[k] restingAtSeven).adcSmpFiltered 0 =
        16 * 7) ↔ (7 + 8) / 16 = 7 :=
  adcSmpFiltered_reaches_iff (s := restingAtSeven) (i := 0) rfl (by decide) (by decide) sevens

/-- The filter stays at 7, not at 112. -/
theorem not_adcSmpFiltered_reaches :
    ¬ ∀ (s : Analog) (i : ℕ) (buffer : ℕ → AdcSample), s.adcFilterInitialized = true →
      i < analogChannels → s.adcSmpFiltered i ≤ analogMax →
      ∃ n, ∀ k, n ≤ k → ((Analog.adcFilterCallback buffer)^[k] s).adcSmpFiltered i =
        16 * (buffer i).value := by
  intro h
  obtain ⟨n, hn⟩ := h restingAtSeven 0 sevens rfl (by decide) (by decide)
  have hfixed : restingAtSeven.adcFilterCallback sevens = restingAtSeven := by
    rw [Analog.adcFilterCallback_eq]
    simp only [restingAtSeven, Analog.mk.injEq, true_and]
    refine ⟨?_, trivial⟩
    funext i
    split <;> rfl
  have hreached := hn n (Nat.le_refl n)
  rw [Function.iterate_fixed hfixed] at hreached
  exact absurd hreached (by decide)

end Constant

end HouseBus
