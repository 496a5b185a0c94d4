import HouseBus.Bme280.AppInit
import HouseBus.Qfp
import Mathlib.Algebra.Order.Group.MinMax
import Mathlib.Tactic.Linarith
import Mathlib.Tactic.FieldSimp
import Mathlib.Tactic.Positivity

/-!
# The compensation of the sensor values

`bme280_get_sensor_data` reads pressure, temperature and humidity in one transfer and compensates
them with the calibration of the sensor, in integers (`BME280_FLOAT_ENABLE` is not defined); where an
operation overflows, it wraps. The `double` variant in the same file is the exact formula for the
temperature: where no operation can overflow the integers follow it within 0.02 degrees
(`compensateTemperature_error`).

The temperature that the module stores of a sensor that was found is that of the sensor's own
calibration, however many transfers failed at the start (`reading_exact`).
-/

namespace HouseBus

open Fallible

/-- `struct bme280_uncomp_data` -/
structure BmeUncompData where
  pressure : ℕ
  temperature : ℕ
  humidity : ℕ

/-- `bme280_parse_sensor_data` -/
def bme280ParseSensorData (regData : BmeRegData) : BmeUncompData where
  pressure :=
    (regData 0).toNat <<< 12 ||| (regData 1).toNat <<< 4 ||| (regData 2).toNat >>> 4
  temperature :=
    (regData 3).toNat <<< 12 ||| (regData 4).toNat <<< 4 ||| (regData 5).toNat >>> 4
  humidity := (regData 7).toNat ||| (regData 6).toNat <<< 8

/-- An `int` stored to a `uint32_t`. -/
def uint32 (x : ℤ) : ℕ := (x % 2 ^ 32).toNat

namespace BmeCalibData

variable (c : BmeCalibData)

/-! ## The integer formulas -/

/-- `var1` of `compensate_temperature`. -/
def temperatureVar1 (temperature : ℕ) : ℤ :=
  let var1 := int32 (((temperature / 8 : ℕ) : ℤ) - c.digT1.toNat * 2)
  (int32 (var1 * c.digT2.toInt)).tdiv 2048

/-- `var2` of `compensate_temperature`. -/
def temperatureVar2 (temperature : ℕ) : ℤ :=
  let var2 := int32 (((temperature / 16 : ℕ) : ℤ) - c.digT1.toNat)
  (int32 ((int32 (var2 * var2)).tdiv 4096 * c.digT3.toInt)).tdiv 16384

/-- `t_fine` -/
def tFine (temperature : ℕ) : ℤ :=
  int32 (c.temperatureVar1 temperature + c.temperatureVar2 temperature)

/-- `compensate_temperature` -/
def compensateTemperature (temperature : ℕ) : ℤ :=
  let t := (int32 (int32 (c.tFine temperature * 5) + 128)).tdiv 256
  if t < -4000 then -4000 else if 8500 < t then 8500 else t

/-- The divisor in `compensate_pressure`. -/
def pressureVar1 (tFine : ℤ) : ℤ :=
  let var1 := tFine.tdiv 2 - 64000
  let var3 := (int32 (c.digP3.toInt * (int32 (var1.tdiv 4 * var1.tdiv 4)).tdiv 8192)).tdiv 8
  let var4 := (int32 (c.digP2.toInt * var1)).tdiv 2
  let var1 := (int32 (var3 + var4)).tdiv 262144
  (int32 ((32768 + var1) * c.digP1.toNat)).tdiv 32768

/-- `var2` of `compensate_pressure`. -/
def pressureVar2 (tFine : ℤ) : ℤ :=
  let var1 := tFine.tdiv 2 - 64000
  let var2 := int32 ((int32 (var1.tdiv 4 * var1.tdiv 4)).tdiv 2048 * c.digP6.toInt)
  let var2 := int32 (var2 + int32 (int32 (var1 * c.digP5.toInt) * 2))
  int32 (var2.tdiv 4 + int32 (c.digP4.toInt * 65536))

/-- `compensate_pressure` -/
def compensatePressure (tFine : ℤ) (uncompPressure : ℕ) : ℕ :=
  let var1 := c.pressureVar1 tFine
  if var1 ≠ 0 then
    let var5 := uint32 (1048576 - uncompPressure)
    let pressure := uint32 (uint32 (var5 - uint32 ((c.pressureVar2 tFine).tdiv 4096)) * 3125)
    let pressure :=
      if pressure < 0x80000000 then uint32 (pressure <<< 1) / uint32 var1
      else uint32 (pressure / uint32 var1 * 2)
    let square := uint32 (pressure / 8 * (pressure / 8)) / 8192
    let var1 := (int32 (c.digP9.toInt * int32 square)).tdiv 4096
    let var2 := (int32 (int32 (pressure / 4) * c.digP8.toInt)).tdiv 8192
    let pressure :=
      uint32 (int32 pressure + (int32 (int32 (var1 + var2) + c.digP7.toInt)).tdiv 16)
    if pressure < 30000 then 30000 else if 110000 < pressure then 110000 else pressure
  else 30000

/-- `compensate_humidity` -/
def compensateHumidity (tFine : ℤ) (uncompHumidity : ℕ) : ℕ :=
  let var1 := int32 (tFine - 76800)
  let var2 := int32 (uncompHumidity * 16384 : ℕ)
  let var3 := int32 (c.digH4.toInt * 1048576)
  let var4 := int32 (c.digH5.toInt * var1)
  let var5 := (int32 (int32 (int32 (var2 - var3) - var4) + 16384)).tdiv 32768
  let var2 := (int32 (var1 * c.digH6.toInt)).tdiv 1024
  let var3 := (int32 (var1 * c.digH3.toNat)).tdiv 2048
  let var4 := int32 ((int32 (var2 * int32 (var3 + 32768))).tdiv 1024 + 2097152)
  let var2 := (int32 (int32 (var4 * c.digH2.toInt) + 8192)).tdiv 16384
  let var3 := int32 (var5 * var2)
  let var4 := (int32 (var3.tdiv 32768 * var3.tdiv 32768)).tdiv 128
  let var5 := int32 (var3 - (int32 (var4 * c.digH1.toNat)).tdiv 16)
  let var5 := if var5 < 0 then 0 else var5
  let var5 := if 419430400 < var5 then 419430400 else var5
  let humidity := uint32 (var5.tdiv 4096)
  if 100000 < humidity then 100000 else humidity

/-- `bme280_compensate_data` for `BME280_ALL` -/
def compensateData (u : BmeUncompData) : BmeData where
  temperature := Int32.ofInt (c.compensateTemperature u.temperature)
  pressure := UInt32.ofNat (c.compensatePressure (c.tFine u.temperature) u.pressure)
  humidity := UInt32.ofNat (c.compensateHumidity (c.tFine u.temperature) u.humidity)

/-! ## The exact temperature -/

/-- `compensate_temperature` in degrees, of the `double` variant, in rational numbers. -/
def exactTemperature (temperature : ℕ) : ℚ :=
  let var1 : ℚ := (temperature / 16384 - c.digT1.toNat / 1024) * c.digT2.toInt
  let var2 : ℚ := (temperature / 131072 - c.digT1.toNat / 8192) ^ 2 * c.digT3.toInt
  max (-40) (min 85 ((var1 + var2) / 5120))

/-- No operation of `compensate_temperature` overflows, whatever the sensor measures. -/
structure TemperatureFits : Prop where
  t1_ge : 19195 ≤ c.digT1.toNat
  t1_le : c.digT1.toNat ≤ 46340
  var1 : max (2 * c.digT1.toNat : ℤ) (131071 - 2 * c.digT1.toNat) * |c.digT2.toInt| < 2 ^ 31
  t3 : |c.digT3.toInt| ≤ 4096

end BmeCalibData

/-! ## Rounding -/

theorem int32_of_abs_lt {x : ℤ} (hx : |x| < 2 ^ 31) : int32 x = x := by
  obtain ⟨hlo, hhi⟩ := abs_lt.mp hx
  exact Int.bmod_eq_of_le (by omega) (by omega)

/-- Division truncates. -/
theorem abs_tdiv_sub_lt (a : ℤ) {b : ℤ} (hb : 0 < b) : |((a.tdiv b : ℤ) : ℚ) - a / b| < 1 := by
  have hb' : (0 : ℚ) < b := by exact_mod_cast hb
  have hrem : |a.tmod b| < b := by
    rw [← Int.natCast_natAbs, Int.natAbs_tmod]
    have := Nat.mod_lt a.natAbs (Int.natAbs_pos.mpr hb.ne')
    omega
  have hsplit : ((a.tdiv b : ℤ) : ℚ) - a / b = -(a.tmod b : ℤ) / b := by
    have h := Int.mul_tdiv_add_tmod a b
    have h' : (b : ℚ) * (a.tdiv b : ℤ) + (a.tmod b : ℤ) = a := by exact_mod_cast h
    rw [← h']
    field_simp
    ring
  rw [hsplit, abs_div, abs_neg, abs_of_pos hb', div_lt_one hb']
  exact_mod_cast hrem

namespace BmeCalibData

variable {c : BmeCalibData} {t : ℕ}

/-! ## The two parts of `t_fine` -/

theorem abs_toInt_le (x : BitVec 16) : |x.toInt| ≤ 32768 := by
  have hle := BitVec.two_mul_toInt_lt (x := x)
  have hge := BitVec.le_two_mul_toInt (x := x)
  rw [abs_le]
  omega

/-- The linear part: the raw value is cut to a multiple of 8, and the product rounds. -/
theorem temperatureVar1_error (hvar1 : max (2 * c.digT1.toNat : ℤ) (131071 - 2 * c.digT1.toNat) *
    |c.digT2.toInt| < 2 ^ 31) (ht : t < 2 ^ 20) :
    |((c.temperatureVar1 t : ℤ) : ℚ) - (t / 16384 - c.digT1.toNat / 1024) * c.digT2.toInt| < 15 := by
  have ht1 : c.digT1.toNat < 65536 := c.digT1.isLt
  obtain ⟨a, ha⟩ : ∃ a : ℤ, a = ((t / 8 : ℕ) : ℤ) - c.digT1.toNat * 2 := ⟨_, rfl⟩
  have habs : |a| ≤ max (2 * c.digT1.toNat : ℤ) (131071 - 2 * c.digT1.toNat) := by
    rw [abs_le]; omega
  have hmul : |a * c.digT2.toInt| < 2 ^ 31 := by
    rw [abs_mul]
    exact (mul_le_mul_of_nonneg_right habs (abs_nonneg _)).trans_lt hvar1
  have hvar : c.temperatureVar1 t = (a * c.digT2.toInt).tdiv 2048 := by
    unfold temperatureVar1
    dsimp only
    rw [← ha, int32_of_abs_lt (x := a) (by rw [abs_lt]; omega), int32_of_abs_lt hmul]
  have htrunc := abs_tdiv_sub_lt (a * c.digT2.toInt) (b := 2048) (by decide)
  -- the raw value is cut to a multiple of 8
  obtain ⟨r, hr, hcut⟩ : ∃ r : ℕ, r ≤ 7 ∧ (t : ℤ) = 8 * a + r + 16 * c.digT1.toNat :=
    ⟨t % 8, by omega, by omega⟩
  have hcut' : (t : ℚ) = 8 * a + r + 16 * c.digT1.toNat := by exact_mod_cast hcut
  have hrem : |(r : ℚ) * c.digT2.toInt| ≤ 7 * 32768 := by
    rw [abs_mul, Nat.abs_cast]
    have hr' : (r : ℚ) ≤ 7 := by exact_mod_cast hr
    have h2 : |(c.digT2.toInt : ℚ)| ≤ 32768 := by exact_mod_cast abs_toInt_le c.digT2
    exact mul_le_mul hr' h2 (abs_nonneg _) (by norm_num)
  have hexact : ((t : ℚ) / 16384 - c.digT1.toNat / 1024) * c.digT2.toInt =
      ((a * c.digT2.toInt : ℤ) : ℚ) / (2048 : ℤ) + r * c.digT2.toInt / 16384 := by
    rw [hcut']
    push_cast
    ring
  rw [hvar, hexact]
  rw [abs_lt] at htrunc ⊢
  rw [abs_le] at hrem
  constructor <;> linarith

/-- The square part: the raw value is cut to a multiple of 16, and square and product round. -/
theorem temperatureVar2_error (hlo : 19195 ≤ c.digT1.toNat) (hhi : c.digT1.toNat ≤ 46340)
    (ht3 : |c.digT3.toInt| ≤ 4096) (ht : t < 2 ^ 20) :
    |((c.temperatureVar2 t : ℤ) : ℚ) -
      (t / 131072 - c.digT1.toNat / 8192) ^ 2 * c.digT3.toInt| < 7 := by
  obtain ⟨x, hx⟩ : ∃ x : ℤ, x = ((t / 16 : ℕ) : ℤ) - c.digT1.toNat := ⟨_, rfl⟩
  have habs : |x| ≤ 46340 := by rw [abs_le]; omega
  have hsquare : x * x ≤ 46340 * 46340 := by
    rw [← abs_mul_abs_self x]
    exact mul_le_mul habs habs (abs_nonneg x) (by decide)
  have hnonneg : 0 ≤ x * x := mul_self_nonneg x
  obtain ⟨q, hq⟩ : ∃ q : ℤ, q = (x * x).tdiv 4096 := ⟨_, rfl⟩
  have hqle : |q| ≤ 524266 := by
    rw [hq, Int.tdiv_eq_ediv_of_nonneg hnonneg, abs_le]
    omega
  have hmul : |q * c.digT3.toInt| < 2 ^ 31 := by
    rw [abs_mul]
    exact (mul_le_mul hqle ht3 (abs_nonneg _) (by decide)).trans_lt (by decide)
  have hvar : c.temperatureVar2 t = (q * c.digT3.toInt).tdiv 16384 := by
    unfold temperatureVar2
    dsimp only
    rw [← hx, int32_of_abs_lt (x := x) (by rw [abs_lt]; rw [abs_le] at habs; omega),
      int32_of_abs_lt (x := x * x) (by rw [abs_lt]; omega), ← hq, int32_of_abs_lt hmul]
  have htrunc := abs_tdiv_sub_lt (q * c.digT3.toInt) (b := 16384) (by decide)
  have htruncq := abs_tdiv_sub_lt (x * x) (b := 4096) (by decide)
  rw [← hq] at htruncq
  -- the raw value is cut to a multiple of 16
  obtain ⟨r, hr, hcut⟩ : ∃ r : ℕ, r ≤ 15 ∧ (t : ℤ) = 16 * x + r + 16 * c.digT1.toNat :=
    ⟨t % 16, by omega, by omega⟩
  have hcut' : (t : ℚ) = 16 * x + r + 16 * c.digT1.toNat := by exact_mod_cast hcut
  have ht3' : |(c.digT3.toInt : ℚ)| ≤ 4096 := by exact_mod_cast ht3
  have hx' : |(x : ℚ)| ≤ 46340 := by exact_mod_cast habs
  have hr' : |(r : ℚ)| ≤ 15 := by rw [Nat.abs_cast]; exact_mod_cast hr
  have hcross : |((r : ℚ) * (32 * x + r)) * c.digT3.toInt| ≤ 15 * (32 * 46340 + 15) * 4096 := by
    have hsum : |32 * (x : ℚ) + r| ≤ 32 * 46340 + 15 := by
      refine (abs_add_le _ _).trans ?_
      rw [abs_mul, abs_of_pos (by norm_num : (0 : ℚ) < 32)]
      linarith
    rw [abs_mul, abs_mul]
    exact mul_le_mul (mul_le_mul hr' hsum (abs_nonneg _) (by norm_num)) ht3' (abs_nonneg _)
      (by norm_num)
  have hquot : |((q : ℚ) - (x * x : ℤ) / (4096 : ℤ)) * c.digT3.toInt| ≤ 1 * 4096 := by
    rw [abs_mul]
    exact mul_le_mul htruncq.le ht3' (abs_nonneg _) (by norm_num)
  have hexact : ((t : ℚ) / 131072 - c.digT1.toNat / 8192) ^ 2 * c.digT3.toInt =
      ((q * c.digT3.toInt : ℤ) : ℚ) / (16384 : ℤ)
        - ((q : ℚ) - (x * x : ℤ) / (4096 : ℤ)) * c.digT3.toInt / 16384
        + (r * (32 * x + r)) * c.digT3.toInt / 2 ^ 34 := by
    rw [hcut']
    push_cast
    ring
  rw [hvar, hexact]
  rw [abs_lt] at htrunc ⊢
  rw [abs_le] at hcross hquot
  constructor <;> linarith

/-! ## The temperature -/

theorem abs_int32_tdiv_le (x : ℤ) {b : ℤ} (hb : 0 < b) : |(int32 x).tdiv b| ≤ 2 ^ 31 / b := by
  have hlo : -2 ^ 31 ≤ int32 x := Int.le_bmod (by decide)
  have hhi : int32 x < 2 ^ 31 := Int.bmod_lt (by decide)
  obtain ⟨n, rfl⟩ := Int.eq_ofNat_of_zero_le hb.le
  rw [← Int.natCast_natAbs, Int.natAbs_tdiv]
  have habs : (int32 x).natAbs ≤ 2 ^ 31 := by omega
  exact_mod_cast Nat.div_le_div_right habs

theorem tFine_eq : c.tFine t = c.temperatureVar1 t + c.temperatureVar2 t ∧
    |c.tFine t| ≤ 2 ^ 20 + 2 ^ 17 := by
  have h1 : |c.temperatureVar1 t| ≤ 2 ^ 31 / 2048 := abs_int32_tdiv_le _ (by decide)
  have h2 : |c.temperatureVar2 t| ≤ 2 ^ 31 / 16384 := abs_int32_tdiv_le _ (by decide)
  have hsum : |c.temperatureVar1 t + c.temperatureVar2 t| ≤ 2 ^ 20 + 2 ^ 17 :=
    (abs_add_le _ _).trans (add_le_add h1 h2)
  have heq : c.tFine t = c.temperatureVar1 t + c.temperatureVar2 t :=
    int32_of_abs_lt (hsum.trans_lt (by decide))
  exact ⟨heq, heq ▸ hsum⟩

/-- The clamp of `compensate_temperature`. -/
theorem compensateTemperature_eq : c.compensateTemperature t =
    max (-4000) (min 8500 ((c.tFine t * 5 + 128).tdiv 256)) := by
  have hfine := abs_le.mp (tFine_eq (c := c) (t := t)).2
  have hmul : int32 (c.tFine t * 5) = c.tFine t * 5 := int32_of_abs_lt (by rw [abs_lt]; omega)
  have hadd : int32 (c.tFine t * 5 + 128) = c.tFine t * 5 + 128 :=
    int32_of_abs_lt (by rw [abs_lt]; omega)
  unfold compensateTemperature
  dsimp only
  rw [hmul, hadd]
  split_ifs <;> omega

/-- **The integers follow the exact formula** within 0.02 degrees, if no operation overflows. -/
theorem compensateTemperature_error (h : c.TemperatureFits) (ht : t < 2 ^ 20) :
    |((c.compensateTemperature t : ℤ) : ℚ) / 100 - c.exactTemperature t| < 1 / 50 := by
  have h1 := temperatureVar1_error h.var1 ht
  have h2 := temperatureVar2_error h.t1_ge h.t1_le h.t3 ht
  have hround := abs_tdiv_sub_lt (c.tFine t * 5 + 128) (b := 256) (by decide)
  obtain ⟨exact1, he1⟩ : ∃ e : ℚ, e = (t / 16384 - c.digT1.toNat / 1024) * c.digT2.toInt := ⟨_, rfl⟩
  obtain ⟨exact2, he2⟩ : ∃ e : ℚ,
    e = (t / 131072 - c.digT1.toNat / 8192) ^ 2 * c.digT3.toInt := ⟨_, rfl⟩
  have hexact : c.exactTemperature t = max (-40) (min 85 ((exact1 + exact2) / 5120)) := by
    rw [he1, he2]; rfl
  have hinner : |(((c.tFine t * 5 + 128).tdiv 256 : ℤ) : ℚ) - 100 * ((exact1 + exact2) / 5120)| <
      2 := by
    rw [tFine_eq.1] at hround ⊢
    push_cast at hround ⊢
    rw [← he1, abs_lt] at h1
    rw [← he2, abs_lt] at h2
    rw [abs_lt] at hround ⊢
    constructor <;> linarith
  -- the clamps move both values alike
  have hclamp : ((c.compensateTemperature t : ℤ) : ℚ) / 100 =
      max (-40) (min 85 ((((c.tFine t * 5 + 128).tdiv 256 : ℤ) : ℚ) / 100)) := by
    rw [compensateTemperature_eq, Int.cast_max, Int.cast_min, ← max_div_div_right (by norm_num),
      ← min_div_div_right (by norm_num)]
    norm_num
  have hdist : |(((c.tFine t * 5 + 128).tdiv 256 : ℤ) : ℚ) / 100 - (exact1 + exact2) / 5120| <
      1 / 50 := by
    rw [abs_lt] at hinner ⊢
    constructor <;> linarith
  rw [hclamp, hexact]
  refine lt_of_le_of_lt ?_ hdist
  refine (abs_max_sub_max_le_max _ _ _ _).trans ?_
  rw [sub_self, abs_zero, max_eq_right (abs_nonneg _)]
  refine (abs_min_sub_min_le_max _ _ _ _).trans ?_
  rw [sub_self, abs_zero, max_eq_right (abs_nonneg _)]

end BmeCalibData

/-! ## A reading -/

namespace BmeDriver

variable {σ : Type} (chip : BmeChip σ)

/-- `bme280_get_sensor_data` for `BME280_ALL`: what it stores to `comp_data`, if it does not fail. -/
def bme280GetSensorData (bus : BmeBus) : BmeM σ BmeData := do
  let regData ← getRegs chip bus bme280DataAddr bme280PTHDataLen
  let s ← get
  let compData := s.dev.calibData.compensateData (bme280ParseSensorData regData)
  return compData.compensate s.dev.chipId

/-- The compensated registers that a call in the state `s` brings, if its transfer succeeds. -/
def sensorRead (bus : BmeBus) (s : BmeLink σ) : Option BmeData :=
  match bus s.transfers with
  | .ok => some (s.dev.calibData.compensateData (bme280ParseSensorData fun i =>
      chip.read (chip.idle s.chip) (bme280DataAddr + i)))
  | .failed _ => none

/-- The call is what the module takes it for. -/
theorem getSensorData_eq (bus : BmeBus) (s : BmeLink σ) (compData : BmeData) :
    HouseBus.bme280GetSensorData s.dev.chipId (sensorRead chip bus s) compData =
      match bme280GetSensorData chip bus s with
      | .ok d _ => (bme280Ok, d)
      | .error e _ => (e, compData) := by
  have hrun : bme280GetSensorData chip bus s = match getRegs chip bus bme280DataAddr
      bme280PTHDataLen s with
      | .ok regData s' => .ok ((s'.dev.calibData.compensateData
          (bme280ParseSensorData regData)).compensate s'.dev.chipId) s'
      | .error e s' => .error e s' := by
    unfold bme280GetSensorData
    change EStateM.bind _ _ s = _
    unfold EStateM.bind
    cases getRegs chip bus bme280DataAddr bme280PTHDataLen s <;> rfl
  rw [hrun]
  unfold sensorRead getRegs
  cases bus s.transfers with
  | ok => rfl
  | failed taken => rfl

end BmeDriver

theorem compensateTemperature_mem (c : BmeCalibData) (t : ℕ) :
    -4000 ≤ c.compensateTemperature t ∧ c.compensateTemperature t ≤ 8500 := by
  rw [BmeCalibData.compensateTemperature_eq]
  omega

/-- The variable of 16 bits holds the temperature. -/
theorem centiTemperature_compensateData (c : BmeCalibData) (chipId : UInt8) (u : BmeUncompData) :
    ((c.compensateData u).compensate chipId).reading.centiTemperature.toInt =
      c.compensateTemperature u.temperature := by
  obtain ⟨hlo, hhi⟩ := compensateTemperature_mem c u.temperature
  have hchip : ((c.compensateData u).compensate chipId).temperature =
      Int32.ofInt (c.compensateTemperature u.temperature) := by
    unfold BmeData.compensate
    split <;> rfl
  have h32 : (c.compensateTemperature u.temperature).bmod Int32.size =
      c.compensateTemperature u.temperature := int32_of_abs_lt (by rw [abs_lt]; omega)
  unfold BmeData.reading
  rw [hchip, Int32.toInt_toInt16, Int32.toInt_ofInt, h32]
  exact Int.bmod_eq_of_le (by omega) (by omega)

/-- The raw temperature has 20 bits. -/
theorem temperature_lt (regData : BmeRegData) :
    (bme280ParseSensorData regData).temperature < 2 ^ 20 := by
  have hmsb := (regData 3).isLt
  have hlsb := (regData 4).isLt
  have hxlsb := (regData 5).isLt
  refine Nat.or_lt_two_pow (Nat.or_lt_two_pow ?_ ?_) ?_
  · rw [Nat.shiftLeft_eq]; omega
  · rw [Nat.shiftLeft_eq]; omega
  · rw [Nat.shiftRight_eq_div_pow]; omega

open BmeDriver in
/-- Whatever transfers fail at the start: if the first sensor is present, a call that reads it leaves
a temperature within 0.02 degrees of the exact one, by the calibration that the maker has written to
this sensor. -/
theorem reading_exact {σ : Type} {chip : BmeChip σ} (h : chip.Lawful) (bus : BmeSensor → BmeBus)
    (link : BmeSensor → BmeLink σ) (s : BmeLink σ) (n : Bme280) (input : BmeInput)
    (hpresent : (bme280AppInit chip bus link).1.Present .primary)
    (hfits : (chip.calibData (link .primary).chip).TemperatureFits)
    (hdev : s.dev = ((bme280AppInit chip bus link).2 .primary).dev)
    (hinput : input.read .primary .primary = sensorRead chip (bus .primary) s)
    (hread : bus .primary s.transfers = .ok) :
    let raw := bme280ParseSensorData fun i => chip.read (chip.idle s.chip) (bme280DataAddr + i)
    |((((n.appRead input).bmeReading .primary).centiTemperature.toInt : ℤ) : ℚ) / 100 -
      (chip.calibData (link .primary).chip).exactTemperature raw.temperature| < 1 / 50 := by
  intro raw
  have hcalib : s.dev.calibData = chip.calibData (link .primary).chip :=
    (congrArg BmeDev.calibData hdev).trans (known_of_present h hpresent).calibData
  have hdata : n.dataFirst input =
      ((chip.calibData (link .primary).chip).compensateData
        (bme280ParseSensorData fun i => chip.read (chip.idle s.chip) (bme280DataAddr + i))).compensate
          (n.chipId .primary) := by
    unfold Bme280.dataFirst
    rw [hinput, sensorRead, hread, hcalib]
    rfl
  have hreading : (n.appRead input).bmeReading .primary = (n.dataFirst input).reading := by
    rw [Bme280.appRead_eq, Bme280.broadcastFirst_bmeReading]
    rfl
  rw [hreading, hdata, centiTemperature_compensateData]
  exact BmeCalibData.compensateTemperature_error hfits (temperature_lt _)

/-- A sensor with a calibration as the makers write it, which has measured. -/
def BmeRegisters.calibrated : BmeRegisters where
  reg r :=
    if r = bme280ChipIdAddr then 0x60
    else if r = 0x88 then 0x70 else if r = 0x89 then 0x6B
    else if r = 0x8A then 0x43 else if r = 0x8B then 0x67
    else if r = 0x8C then 0x18 else if r = 0x8D then 0xFC
    else if r = 0xFA then 0x7E else if r = 0xFB then 0xED
    else 0
  inUse := 0

open BmeDriver in
/-- The sensor shows 25.08 degrees. -/
theorem reading_exact_calibrated :
    let bus : BmeSensor → BmeBus := fun _ _ => .ok
    let r := bme280AppInit BmeRegisters.chip bus fun _ => ⟨.calibrated, 0, BmeDev.start⟩
    let input : BmeInput :=
      ⟨⟨0, 0, 0⟩, fun _ _ => sensorRead BmeRegisters.chip (bus .primary) (r.2 .primary)⟩
    let raw := bme280ParseSensorData fun i =>
      BmeRegisters.chip.read (BmeRegisters.chip.idle (r.2 .primary).chip) (bme280DataAddr + i)
    |((((r.1.appRead input).bmeReading .primary).centiTemperature.toInt : ℤ) : ℚ) / 100 -
      (BmeRegisters.chip.calibData .calibrated).exactTemperature raw.temperature| < 1 / 50 :=
  reading_exact BmeRegisters.lawful (fun _ _ => .ok) (fun _ => ⟨.calibrated, 0, BmeDev.start⟩) _ _
    ⟨⟨0, 0, 0⟩, _⟩ (works_of_ok BmeRegisters.lawful (fun _ => rfl) (by decide)).1
    ⟨by decide, by decide, by decide +kernel, by decide +kernel⟩ rfl rfl rfl

end HouseBus
