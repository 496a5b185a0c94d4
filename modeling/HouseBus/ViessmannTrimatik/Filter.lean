import HouseBus.Analog
import HouseBus.Lib.Machine

/-!
# The temperature inputs of the heater (`app_fast_tick` in `sw/nodes/viessmann_trimatik.c`)

The ADC stores one sample after another; behind the last channel it raises the interrupt that runs
`adcFilterCallback`. In 14 fast ticks of each second `app_fast_tick` resets the driver's filter and
feeds its value to a second low-pass of 32 bits. `Inputs` records the samples of each channel and
what each second filter was fed.

Both filters are low-passes of the library, so they stay between the bounds of their inputs and
compute what the formulas give for unbounded integers (`filters_within_inputs`).
-/

namespace HouseBus

/-- `ANALOG_FILTER_TICKS` -/
def analogFilterTicks : ℕ := 14

/-- `ANALOG_FILTER_RESET` -/
def analogFilterResetTick : ℕ := 9

/-- The new value of a filter with `1 / c` of the input, in `uint32_t`. -/
def doubleFilter (c h input old : ℕ) : ℕ :=
  ((input * 65536 % 2 ^ 32 + h) % 2 ^ 32 / c + (old + h) % 2 ^ 32 / c * (c - 1) % 2 ^ 32) % 2 ^ 32

/-- The driver, the channel that is sampled next, the interrupt for a scan that is complete, and the
variables `analog_tick` and `adc_double_filtered`. -/
structure HeaterInputs where
  analog : Analog
  nextChannel : ℕ
  interrupt : Bool
  analogTick : ℕ
  adcDoubleFiltered : ℕ → ℕ

/-- The initial values. -/
def HeaterInputs.start : HeaterInputs := ⟨.start, 0, false, analogFilterTicks, fun _ => 0⟩

/-- What happens to the inputs: a sample of the next channel, the interrupt, a call of
`analog_filter_reset`, `app_fast_tick` and `app_tick`. -/
inductive InputEvent
  | sample (sample : AdcSample)
  | interrupt
  | filterReset (channels : ℕ)
  | fastTick
  | tick

namespace HeaterInputs

/-- A conversion of the ADC. -/
def sample (sample : AdcSample) (s : HeaterInputs) : HeaterInputs :=
  { s with
    analog := { s.analog with
      adcSmpRaw := Function.update s.analog.adcSmpRaw s.nextChannel sample }
    nextChannel := if s.nextChannel + 1 = analogChannels then 0 else s.nextChannel + 1
    interrupt := s.interrupt || decide (s.nextChannel + 1 = analogChannels) }

/-- The interrupt of the ADC, if it is raised. -/
def serveInterrupt (s : HeaterInputs) : HeaterInputs :=
  if s.interrupt then
    { s with analog := s.analog.adcFilterCallback s.analog.adcSmpRaw, interrupt := false }
  else s

/-- `analog_filter_reset` -/
def filterReset (channels : ℕ) (s : HeaterInputs) : HeaterInputs :=
  { s with analog := s.analog.analogFilterReset channels }

/-- The assignments to `adc_double_filtered`. -/
def updateDoubleFiltered (s : HeaterInputs) : HeaterInputs :=
  let filtered := s.analog.adcSmpFiltered
  let old := s.adcDoubleFiltered
  let assign (v₀ v₁ v₂ : ℕ) : ℕ → ℕ :=
    Function.update (Function.update (Function.update old 0 v₀) 1 v₁) 2 v₂
  { s with
    adcDoubleFiltered :=
      if old 0 = 0 then
        assign (filtered 1 * 65536 % 2 ^ 32) (filtered 2 * 65536 % 2 ^ 32)
          (filtered 3 * 65536 % 2 ^ 32)
      else
        assign (doubleFilter 512 256 (filtered 1) (old 0)) (doubleFilter 8 4 (filtered 2) (old 1))
          (doubleFilter 8 4 (filtered 3) (old 2)) }

/-- `app_fast_tick`, without the keys and what it does with the results. -/
def appFastTick (s : HeaterInputs) : HeaterInputs :=
  if s.analogTick < analogFilterTicks then
    let s := if s.analogTick = analogFilterResetTick then s.filterReset 0b1110 else s
    let s := if s.analogTick = analogFilterTicks - 1 then s.updateDoubleFiltered else s
    { s with analogTick := s.analogTick + 1 }
  else s

/-- The state after an event. -/
def step (s : HeaterInputs) : InputEvent → HeaterInputs
  | .sample sample => s.sample sample
  | .interrupt => s.serveInterrupt
  | .filterReset channels => s.filterReset channels
  | .fastTick => s.appFastTick
  | .tick => { s with analogTick := 0 }

theorem appFastTick_last {s : HeaterInputs} (h : s.analogTick = analogFilterTicks - 1) :
    s.appFastTick = { s.updateDoubleFiltered with analogTick := s.analogTick + 1 } := by
  have hactive : s.analogTick < analogFilterTicks := by
    rw [h]
    decide
  have hreset : s.analogTick ≠ analogFilterResetTick := by
    rw [h]
    decide
  simp only [appFastTick, if_pos hactive, if_neg hreset, if_pos h]
  rfl

/-- The other fast ticks at most reset the driver's filter. -/
theorem appFastTick_other {s : HeaterInputs} (h : s.analogTick ≠ analogFilterTicks - 1) :
    ∃ tick, s.appFastTick = { s with analogTick := tick } ∨
      s.appFastTick = { s.filterReset 0b1110 with analogTick := tick } := by
  unfold appFastTick
  split
  · by_cases hreset : s.analogTick = analogFilterResetTick
    · have hnext : (s.filterReset 0b1110).analogTick ≠ analogFilterTicks - 1 := h
      exact ⟨s.analogTick + 1, .inr (by simp only [if_pos hreset, if_neg hnext]; rfl)⟩
    · exact ⟨s.analogTick + 1, .inl (by simp only [if_neg hreset, if_neg h])⟩
  · exact ⟨s.analogTick, .inl rfl⟩

end HeaterInputs

/-! ## What the filters are fed -/

/-- The inputs, the samples of each channel so far, and what each second filter was fed. -/
structure RecordedInputs extends HeaterInputs where
  samples : ℕ → List ℕ
  fed : ℕ → List ℕ

namespace RecordedInputs

/-- The initial values. -/
def start : RecordedInputs := ⟨.start, fun _ => [], fun _ => []⟩

/-- The samples after an event. -/
def samplesAfter (s : RecordedInputs) : InputEvent → ℕ → List ℕ
  | .sample sample =>
    Function.update s.samples s.nextChannel (s.samples s.nextChannel ++ [sample.value])
  | _ => s.samples

/-- The second filters are fed in the last of the fast ticks. -/
def fedAfter (s : RecordedInputs) : InputEvent → ℕ → List ℕ
  | .fastTick => fun k =>
    if s.analogTick = analogFilterTicks - 1 then s.fed k ++ [s.analog.adcSmpFiltered (k + 1)]
    else s.fed k
  | _ => s.fed

/-- The state after an event. -/
def step (s : RecordedInputs) (e : InputEvent) : RecordedInputs :=
  ⟨s.toHeaterInputs.step e, s.samplesAfter e, s.fedAfter e⟩

end RecordedInputs

/-- `x` is between `unit` times the smallest and `unit` times the largest of the inputs. -/
def WithinInputs (unit : ℕ) (inputs : List ℕ) (x : ℕ) : Prop :=
  (∃ lo ∈ inputs, lo * unit ≤ x) ∧ ∃ hi ∈ inputs, x ≤ hi * unit

/-- The value of `adc_double_filtered[k]` after an update, in unbounded integers. -/
def unboundedUpdate (filtered old : ℕ → ℕ) (k : ℕ) : ℕ :=
  if old 0 = 0 then filtered (k + 1) * 65536
  else if k = 0 then LowPass.step 512 128 256 (filtered (k + 1)) (old k)
  else LowPass.step 8 8192 4 (filtered (k + 1)) (old k)

namespace RecordedInputs

/-- The filters are in the range of what they were fed, and those of the driver in that of
`ANALOG_MAX`. -/
structure Filtered (s : RecordedInputs) : Prop where
  driver : s.analog.adcFilterInitialized = true → ∀ i < analogChannels,
    WithinInputs 16 (s.samples i) (s.analog.adcSmpFiltered i)
  driver_le : ∀ i, s.analog.adcSmpFiltered i ≤ analogMax
  double : ∀ k < 3, s.fed k ≠ [] → WithinInputs 65536 (s.fed k) (s.adcDoubleFiltered k)

/-- The event computes what the formulas give in unbounded integers. -/
def Exact (s : RecordedInputs) : InputEvent → Prop
  | .interrupt => s.interrupt = true → s.analog.adcFilterInitialized = true →
    ∀ i < analogChannels, (s.step .interrupt).analog.adcSmpFiltered i =
      (s.analog.adcSmpRaw i).value + 15 * ((s.analog.adcSmpFiltered i + 8) / 16)
  | .fastTick => s.analogTick = analogFilterTicks - 1 → ∀ k < 3,
    (s.step .fastTick).adcDoubleFiltered k =
      unboundedUpdate s.analog.adcSmpFiltered s.adcDoubleFiltered k
  | _ => True

end RecordedInputs

/-! ## Bounds -/

namespace WithinInputs

variable {unit x y : ℕ} {inputs : List ℕ}

theorem append (h : WithinInputs unit inputs x) (new : List ℕ) :
    WithinInputs unit (inputs ++ new) x := by
  obtain ⟨⟨lo, hlo, hle⟩, hi, hhi, hge⟩ := h
  exact ⟨⟨lo, List.mem_append_left _ hlo, hle⟩, hi, List.mem_append_left _ hhi, hge⟩

/-- One of the inputs itself. -/
theorem of_mem (h : x ∈ inputs) : WithinInputs unit inputs (x * unit) :=
  ⟨⟨x, h, Nat.le_refl _⟩, x, h, Nat.le_refl _⟩

/-- A step of a low-pass with one of the inputs. -/
theorem lowPass {c m h : ℕ} (hh : h < c) (hx : x ∈ inputs) (hy : WithinInputs (c * m) inputs y) :
    WithinInputs (c * m) inputs (LowPass.step c m h x y) := by
  obtain ⟨⟨lo, hlo, hle⟩, hi, hhi, hge⟩ := hy
  constructor
  · obtain hxlo | hlox := Nat.le_total x lo
    · refine ⟨x, hx, LowPass.le_step hh (Nat.le_refl x) ?_⟩
      exact (Nat.mul_le_mul_right _ hxlo).trans hle
    · exact ⟨lo, hlo, LowPass.le_step hh hlox hle⟩
  · obtain hxhi | hhix := Nat.le_total x hi
    · exact ⟨hi, hhi, LowPass.step_le hh hxhi hge⟩
    · refine ⟨x, hx, LowPass.step_le hh (Nat.le_refl x) ?_⟩
      exact hge.trans (Nat.mul_le_mul_right _ hhix)

end WithinInputs

/-- A sum that does not reach the modulus, nor its parts, is computed without wrapping. -/
theorem sum_mod {W a b h c k : ℕ} (ha : a + h < W) (hb : b + h < W)
    (hsum : (a + h) / c + (b + h) / c * k < W) :
    ((a % W + h) % W / c + (b + h) % W / c * k % W) % W = (a + h) / c + (b + h) / c * k := by
  have hkept : (b + h) / c * k % W = (b + h) / c * k :=
    Nat.mod_eq_of_lt ((Nat.le_add_left _ _).trans_lt hsum)
  rw [Nat.mod_eq_of_lt (show a < W by omega), Nat.mod_eq_of_lt ha, Nat.mod_eq_of_lt hb, hkept,
    Nat.mod_eq_of_lt hsum]

/-- In the range of the driver's values a second filter does not overflow. -/
theorem doubleFilter_eq {c m h input old : ℕ} (hunit : c * m = 65536) (hh : h < c)
    (hround : h ≤ 256) (hinput : input ≤ analogMax) (hold : old ≤ analogMax * 65536) :
    doubleFilter c h input old = LowPass.step c m h input old := by
  have hle : LowPass.step c m h input old ≤ analogMax * 65536 := by
    rw [← hunit] at hold ⊢
    exact LowPass.step_le hh hinput hold
  have hscaled : input * 65536 ≤ analogMax * 65536 := Nat.mul_le_mul_right _ hinput
  have hmax : analogMax * 65536 + 256 < 2 ^ 32 := by decide
  have hfed : input * 65536 + h < 2 ^ 32 :=
    (Nat.add_le_add hscaled hround).trans_lt hmax
  have hkept : old + h < 2 ^ 32 := (Nat.add_le_add hold hround).trans_lt hmax
  simp only [LowPass.step, LowPass.level, hunit] at hle ⊢
  exact sum_mod hfed hkept (hle.trans_lt ((Nat.le_add_right _ _).trans_lt hmax))

namespace RecordedInputs

variable {s : RecordedInputs}

/-- What every run keeps. -/
structure Ok (s : RecordedInputs) : Prop where
  next_lt : s.nextChannel < analogChannels
  raw : ∀ i, s.samples i ≠ [] → (s.analog.adcSmpRaw i).value ∈ s.samples i
  sampled : ∀ i < s.nextChannel, s.samples i ≠ []
  scanned : s.interrupt = true ∨ s.analog.adcFilterInitialized = true →
    ∀ i < analogChannels, s.samples i ≠ []
  filtered : s.Filtered
  double_le : ∀ k < 3, s.adcDoubleFiltered k ≤ analogMax * 65536
  unfed : ∀ k, s.fed k = [] → s.adcDoubleFiltered 0 = 0

theorem ok_start : start.Ok where
  next_lt := by decide
  raw _ h := absurd rfl h
  sampled _ h := absurd h (Nat.not_lt_zero _)
  scanned h := by obtain h | h := h <;> cases h
  filtered :=
    { driver := fun h => nomatch h
      driver_le := fun _ => Nat.zero_le _
      double := fun _ _ h => absurd rfl h }
  double_le _ _ := Nat.zero_le _
  unfed _ _ := rfl

/-- More samples. -/
theorem samples_append (sample : AdcSample) (i : ℕ) :
    ∃ new, s.samplesAfter (.sample sample) i = s.samples i ++ new := by
  obtain rfl | hne := eq_or_ne i s.nextChannel
  · exact ⟨[sample.value], Function.update_self _ _ _⟩
  · refine ⟨[], ?_⟩
    rw [List.append_nil]
    exact Function.update_of_ne hne _ _

theorem Ok.sample (h : s.Ok) (sample : AdcSample) : (s.step (.sample sample)).Ok := by
  have hnonempty : ∀ i, s.samples i ≠ [] ∨ i = s.nextChannel →
      s.samplesAfter (.sample sample) i ≠ [] := by
    rintro i (hi | rfl)
    · obtain ⟨new, hnew⟩ := @samples_append s sample i
      rw [hnew]
      exact List.append_ne_nil_of_left_ne_nil hi new
    · simp [samplesAfter]
  refine ⟨?_, fun i hi => ?_, fun i hi => ?_, fun hscan i hi => ?_, ⟨fun hinit i hi => ?_,
    h.filtered.driver_le, h.filtered.double⟩, h.double_le, h.unfed⟩
  · show (if s.nextChannel + 1 = analogChannels then 0 else s.nextChannel + 1) < analogChannels
    have hnext := h.next_lt
    split <;> omega
  · obtain rfl | hne := eq_or_ne i s.nextChannel
    · simp [step, HeaterInputs.step, HeaterInputs.sample, samplesAfter]
    · simp only [step, samplesAfter, HeaterInputs.step, HeaterInputs.sample,
        Function.update_of_ne hne] at hi ⊢
      exact h.raw i hi
  · apply hnonempty
    have hi' : i < if s.nextChannel + 1 = analogChannels then 0 else s.nextChannel + 1 := hi
    split at hi'
    · cases hi'
    · obtain hlt | rfl := Nat.lt_succ_iff_lt_or_eq.mp hi'
      · exact .inl (h.sampled i hlt)
      · exact .inr rfl
  · apply hnonempty
    obtain hscan | hscan := hscan
    · have hscan' : (s.interrupt || decide (s.nextChannel + 1 = analogChannels)) = true := hscan
      obtain hraised | hlast := Bool.or_eq_true_iff.mp hscan'
      · exact .inl (h.scanned (.inl hraised) i hi)
      · have hlast := of_decide_eq_true hlast
        obtain hlt | heq : i < s.nextChannel ∨ i = s.nextChannel := by omega
        · exact .inl (h.sampled i hlt)
        · exact .inr heq
    · exact .inl (h.scanned (.inr hscan) i hi)
  · obtain ⟨new, hnew⟩ := @samples_append s sample i
    show WithinInputs 16 (s.samplesAfter (.sample sample) i) (s.analog.adcSmpFiltered i)
    rw [hnew]
    exact (h.filtered.driver hinit i hi).append new

/-- New filtered values of the driver, in the range of the samples. -/
theorem Ok.withFiltered (h : s.Ok) {analog : Analog} {interrupt : Bool} {tick : ℕ}
    (hraw : analog.adcSmpRaw = s.analog.adcSmpRaw)
    (hinterrupt : interrupt = true → s.interrupt = true)
    (hinit : analog.adcFilterInitialized = true → ∀ i < analogChannels, s.samples i ≠ [] ∧
      WithinInputs 16 (s.samples i) (analog.adcSmpFiltered i))
    (hle : ∀ i, analog.adcSmpFiltered i ≤ analogMax) :
    RecordedInputs.Ok { s with analog := analog, interrupt := interrupt, analogTick := tick } where
  next_lt := h.next_lt
  raw i hi := by
    show (analog.adcSmpRaw i).value ∈ s.samples i
    rw [hraw]
    exact h.raw i hi
  sampled := h.sampled
  scanned := by
    rintro (hraised | hdone) i hi
    · exact h.scanned (.inl (hinterrupt hraised)) i hi
    · exact (hinit hdone i hi).1
  filtered :=
    { driver := fun hdone i hi => (hinit hdone i hi).2
      driver_le := hle
      double := h.filtered.double }
  double_le := h.double_le
  unfed := h.unfed

/-- The last sample of a channel, as the driver's filter takes it over. -/
theorem Ok.withinReset (h : s.Ok) {i : ℕ} (hi : s.samples i ≠ []) :
    WithinInputs 16 (s.samples i) ((s.analog.adcSmpRaw i).value * 16 % 2 ^ 16) := by
  have hlt := (s.analog.adcSmpRaw i).lt
  rw [Nat.mod_eq_of_lt (by omega)]
  exact .of_mem (h.raw i hi)

theorem reset_le (sample : AdcSample) : sample.value * 16 % 2 ^ 16 ≤ analogMax := by
  have hlt := sample.lt
  simp only [analogMax]
  omega

theorem Ok.filterReset (h : s.Ok) (channels tick : ℕ) : RecordedInputs.Ok
    { s with analog := s.analog.analogFilterReset channels, analogTick := tick } := by
  rw [Analog.analogFilterReset_eq]
  refine h.withFiltered rfl id (fun hinit i hi => ?_) fun i => ?_
  · have hsampled := h.scanned (.inr hinit) i hi
    refine ⟨hsampled, ?_⟩
    show WithinInputs 16 _ (if _ then _ else _)
    split
    · exact h.withinReset hsampled
    · exact h.filtered.driver hinit i hi
  · show (if _ then _ else _) ≤ analogMax
    split
    · exact reset_le _
    · exact h.filtered.driver_le i

theorem Ok.interrupt (h : s.Ok) : (s.step .interrupt).Ok := by
  by_cases hraised : s.interrupt = true
  · have hstep : s.step .interrupt =
        { s with
          analog := s.analog.adcFilterCallback s.analog.adcSmpRaw
          interrupt := false } := by
      simp only [step, HeaterInputs.step, HeaterInputs.serveInterrupt, if_pos hraised]
      rfl
    rw [hstep, Analog.adcFilterCallback_eq]
    refine h.withFiltered rfl (fun hno => nomatch hno) (fun _ i hi => ?_) fun i => ?_
    · have hsampled := h.scanned (.inl hraised) i hi
      refine ⟨hsampled, ?_⟩
      simp only [if_pos hi]
      split
      · rename_i hinit
        rw [adcFilter_eq _ (h.filtered.driver_le i)]
        exact WithinInputs.lowPass (c := 16) (m := 1) (by decide) (h.raw i hsampled)
          (h.filtered.driver hinit i hi)
      · exact h.withinReset hsampled
    · simp only
      split_ifs
      · exact adcFilter_le (h.filtered.driver_le i)
      · exact reset_le _
      · exact h.filtered.driver_le i
  · have hstep : s.step .interrupt = s := by
      simp only [step, HeaterInputs.step, HeaterInputs.serveInterrupt, if_neg hraised]
      rfl
    rw [hstep]
    exact h

/-! ## The second filters -/

/-- The update computes what the formulas give in unbounded integers. -/
theorem Ok.updateDoubleFiltered (h : s.Ok) {k : ℕ} (hk : k < 3) :
    s.toHeaterInputs.updateDoubleFiltered.adcDoubleFiltered k =
      unboundedUpdate s.analog.adcSmpFiltered s.adcDoubleFiltered k := by
  have hle := h.filtered.driver_le
  have hscaled : ∀ i, s.analog.adcSmpFiltered i * 65536 % 2 ^ 32 =
      s.analog.adcSmpFiltered i * 65536 := by
    intro i
    have hmax : analogMax * 65536 < 2 ^ 32 := by decide
    exact Nat.mod_eq_of_lt ((Nat.mul_le_mul_right _ (hle i)).trans_lt hmax)
  have houtside := doubleFilter_eq (c := 512) (m := 128) (h := 256) (by decide) (by decide)
    (by decide) (hle 1) (h.double_le 0 (by decide))
  have hsystem := fun i k hk => doubleFilter_eq (c := 8) (m := 8192) (h := 4) (by decide)
    (by decide) (by decide) (hle i) (h.double_le k hk)
  simp only [HeaterInputs.updateDoubleFiltered, unboundedUpdate, hscaled, houtside,
    hsystem 2 1 (by decide), hsystem 3 2 (by decide)]
  obtain rfl | rfl | rfl : k = 0 ∨ k = 1 ∨ k = 2 := by omega
  all_goals split <;> rfl

/-- The new value is in the range of all that the filter was fed. -/
theorem Ok.withinUpdate (h : s.Ok) {k : ℕ} (hk : k < 3) :
    WithinInputs 65536 (s.fed k ++ [s.analog.adcSmpFiltered (k + 1)])
      (unboundedUpdate s.analog.adcSmpFiltered s.adcDoubleFiltered k) := by
  have hnew : s.analog.adcSmpFiltered (k + 1) ∈ s.fed k ++ [s.analog.adcSmpFiltered (k + 1)] :=
    List.mem_append_right _ (List.mem_singleton_self _)
  rw [unboundedUpdate]
  by_cases hzero : s.adcDoubleFiltered 0 = 0
  · rw [if_pos hzero]
    exact .of_mem hnew
  · have hold := (h.filtered.double k hk fun hno => hzero (h.unfed k hno)).append
      [s.analog.adcSmpFiltered (k + 1)]
    rw [if_neg hzero]
    split
    · exact WithinInputs.lowPass (c := 512) (m := 128) (by decide) hnew hold
    · exact WithinInputs.lowPass (c := 8) (m := 8192) (by decide) hnew hold

theorem unboundedUpdate_le {filtered old : ℕ → ℕ} (hfiltered : ∀ i, filtered i ≤ analogMax) {k : ℕ}
    (hold : old k ≤ analogMax * 65536) :
    unboundedUpdate filtered old k ≤ analogMax * 65536 := by
  rw [unboundedUpdate]
  split_ifs
  · exact Nat.mul_le_mul_right _ (hfiltered _)
  · exact LowPass.step_le (c := 512) (m := 128) (by decide) (hfiltered _) hold
  · exact LowPass.step_le (c := 8) (m := 8192) (by decide) (hfiltered _) hold

theorem Ok.fastTick (h : s.Ok) : (s.step .fastTick).Ok := by
  by_cases hlast : s.analogTick = analogFilterTicks - 1
  · have hstep : s.step .fastTick =
        { s with
          adcDoubleFiltered := s.toHeaterInputs.updateDoubleFiltered.adcDoubleFiltered
          analogTick := s.analogTick + 1
          fed := fun k => s.fed k ++ [s.analog.adcSmpFiltered (k + 1)] } := by
      simp only [step, HeaterInputs.step, HeaterInputs.appFastTick_last hlast, fedAfter,
        if_pos hlast]
      rfl
    rw [hstep]
    refine ⟨h.next_lt, h.raw, h.sampled, h.scanned,
      ⟨h.filtered.driver, h.filtered.driver_le, fun k hk _ => ?_⟩, fun k hk => ?_, fun k hk => ?_⟩
    · show WithinInputs 65536 _ (s.toHeaterInputs.updateDoubleFiltered.adcDoubleFiltered k)
      rw [h.updateDoubleFiltered hk]
      exact h.withinUpdate hk
    · show s.toHeaterInputs.updateDoubleFiltered.adcDoubleFiltered k ≤ _
      rw [h.updateDoubleFiltered hk]
      exact unboundedUpdate_le h.filtered.driver_le (h.double_le k hk)
    · exact absurd hk (List.append_ne_nil_of_right_ne_nil _ (List.cons_ne_nil _ _))
  · have hfed : s.fedAfter .fastTick = s.fed := by
      funext k
      exact if_neg hlast
    obtain ⟨tick, hstep | hstep⟩ := HeaterInputs.appFastTick_other hlast
    · rw [step, HeaterInputs.step, hstep, hfed]
      exact h.withFiltered rfl id (fun hinit i hi =>
        ⟨h.scanned (.inr hinit) i hi, h.filtered.driver hinit i hi⟩) h.filtered.driver_le
    · rw [step, HeaterInputs.step, hstep, hfed]
      exact h.filterReset 0b1110 tick

theorem ok_step : Machine.Keeps step Ok := by
  rintro s (sample | _ | channels | _ | _) h
  · exact h.sample sample
  · exact h.interrupt
  · exact h.filterReset channels s.analogTick
  · exact h.fastTick
  · exact h.withFiltered rfl id (fun hinit i hi =>
      ⟨h.scanned (.inr hinit) i hi, h.filtered.driver hinit i hi⟩) h.filtered.driver_le

/-- Below `ANALOG_MAX` the driver's filter does not wrap its `uint16_t`. -/
theorem Ok.exact (h : s.Ok) (e : InputEvent) : s.Exact e := by
  cases e with
  | sample _ | filterReset _ | tick => trivial
  | interrupt =>
    intro hraised hinit i hi
    have hlt := (s.analog.adcSmpRaw i).lt
    have hle := h.filtered.driver_le i
    simp only [step, HeaterInputs.step, HeaterInputs.serveInterrupt, if_pos hraised,
      Analog.adcFilterCallback_eq, if_pos hi, if_pos hinit, adcFilter]
    simp only [analogMax] at hle
    omega
  | fastTick =>
    intro hlast k hk
    rw [← h.updateDoubleFiltered hk]
    simp only [step, HeaterInputs.step, HeaterInputs.appFastTick_last hlast]

end RecordedInputs

/-- **The filters**: after every sequence of samples, interrupts, resets and ticks they are between
the bounds of what they were fed, and the next event computes what their formulas give in unbounded
integers. -/
theorem filters_within_inputs (es : List InputEvent) (e : InputEvent) :
    let s := Machine.run RecordedInputs.step .start es
    s.Filtered ∧ s.Exact e := by
  have hok := RecordedInputs.ok_step.run RecordedInputs.ok_start es
  exact ⟨hok.filtered, hok.exact e⟩

end HouseBus
