import HouseBus.Config.Getters
import HouseBus.GetSet.Requests

/-!
# Signed integers through the GetSet service

An integer parameter has the low 32 bits of the `int64` that was set. `config_get_int` reads them as
a signed number; a response has them in front of four zero bytes, as an `int64` that is never
negative. So a number of 32 bits comes back from `config_get_int` always (`toInt_bits`), from a
response if it is not negative (`int64_of_bits`).
-/

namespace HouseBus

open Bytes GetSet

/-! ## Numbers -/

/-- The 64 bits of a number in a request. -/
abbrev bits (v : ℤ) : ℕ := (BitVec.ofInt 64 v).toNat

variable {v : ℤ}

/-- The low 32 bits are those of the number. -/
theorem bits_mod (v : ℤ) : ((bits v % 2 ^ 32 : ℕ) : ℤ) = v % 2 ^ 32 := by
  have hnonneg : 0 ≤ v % ((2 ^ 64 : ℕ) : ℤ) := Int.emod_nonneg _ (by decide)
  have hdvd : (2 ^ 32 : ℤ) ∣ ((2 ^ 64 : ℕ) : ℤ) := by decide
  rw [bits, BitVec.toNat_ofInt, Int.natCast_emod, Int.toNat_of_nonneg hnonneg]
  exact Int.emod_emod_of_dvd v hdvd

/-- As a signed number of 32 bits they are the number itself. -/
theorem toInt_bits (hlo : -2 ^ 31 ≤ v) (hhi : v < 2 ^ 31) :
    (BitVec.ofNat 32 (bits v)).toInt = v := by
  have hmod := bits_mod v
  rw [BitVec.toInt_ofNat', Int.bmod_def]
  push_cast at hmod ⊢
  rw [hmod]
  split <;> omega

/-- Behind 32 zeros they are the number if it has no sign. -/
theorem int64_of_bits (hlo : -2 ^ 31 ≤ v) (hhi : v < 2 ^ 31) :
    (BitVec.ofNat 64 (bits v % 2 ^ 32)).toInt = v ↔ 0 ≤ v := by
  have hmod := bits_mod v
  have hlt : bits v % 2 ^ 32 < 2 ^ 32 := Nat.mod_lt _ (by decide)
  generalize bits v % 2 ^ 32 = n at hmod hlt
  rw [BitVec.toInt_ofNat', Int.bmod_eq_of_le (by omega) (by omega), hmod]
  omega

/-! ## Reading a parameter -/

/-- The `int64` of a response: eight bytes behind the tag. -/
def responseInt64 (c : CanardResponse) : Option ℤ :=
  if c.payload.head? = some 1 then
    some (BitVec.ofNat 64 (leNat ((c.payload.drop 1).take 8))).toInt
  else none

/-- `config_get_int` and the response give the number. -/
structure Shows (param : ℕ) (v : ℤ) (result : GetSetResult) : Prop where
  store : (configGetInt .works param result.i2c).1 = v
  response : result.response.bind responseInt64 = some v

section Parameter

variable {param : ℕ} (hparam : param < configParamLast) (hty : (configParam param).type = .int)
include hty

/-- The response for a parameter with four bytes. -/
theorem responseInt64_valuePayload (t : CanardRxTransfer) (n : ℕ) :
    responseInt64 (t.respond (valuePayload param (leBytes 4 n))) =
      some (BitVec.ofNat 64 (n % 2 ^ 32)).toInt := by
  have hpad : leBytes 4 n ++ List.replicate 4 0 = leBytes 8 (n % 2 ^ 32) :=
    (leBytes_add_mod 4 4 n).symm
  have hlt : n % 2 ^ 32 < 256 ^ 8 := (Nat.mod_lt _ (by decide)).trans (by decide)
  generalize n % 2 ^ 32 = low at hpad hlt
  have hfield : valuePayload param (leBytes 4 n) =
      1 :: (leBytes 8 low ++ ([0, 0, 0] ++ configParamName param)) := by
    rw [valuePayload, hty, valueField, length_leBytes, hpad]
    simp only [List.cons_append, List.append_assoc]
  have htake : (leBytes 8 low ++ ([0, 0, 0] ++ configParamName param)).take 8 = leBytes 8 low :=
    List.take_left' (length_leBytes 8 low)
  rw [responseInt64, CanardRxTransfer.respond, hfield, List.head?_cons, if_pos rfl,
    List.drop_succ_cons, List.drop_zero, htake, leNat_leBytes, Nat.mod_eq_of_lt hlt]

include hparam

theorem size_int : configGetParamSize param = 4 :=
  size_of_number hparam (by rw [hty]; exact nofun)

/-- `config_get_int` of a parameter whose four bytes are stored. -/
theorem configGetInt_of_value {n : ℕ} (s : I2c)
    (h : configValue s.eeprom param = leBytes 4 n) :
    (configGetInt .works param s).1 = (BitVec.ofNat 32 n).toInt := by
  have hstored : storedBytes s.eeprom param = leBytes 4 n := by
    unfold storedBytes
    rw [h, length_leBytes]
    exact List.append_nil _
  rw [configGetInt_works (size_int hparam hty), hstored, leNat_leBytes,
    show (256 : ℕ) ^ 4 = 2 ^ 32 by decide]
  rw [BitVec.toInt_ofNat', BitVec.toInt_ofNat', Int.natCast_emod, Int.emod_bmod]

/-- What a handled request for a parameter with the bits of `v` shows. -/
theorem shows_iff {can : Canard} {r : GetSetRequest can} (hwraps : ¬ r.value.Wraps)
    (haddr : r.Addresses param) (hlo : -2 ^ 31 ≤ v) (hhi : v < 2 ^ 31) (reads : List ℕ) (s : I2c)
    (h : configValue (r.value.store s.eeprom param) param = leBytes 4 (bits v)) :
    Shows param v (r.handle .works reads s) ↔ 0 ≤ v := by
  obtain ⟨hresponse, heeprom⟩ := GetSetRequest.onParamGetSet_known hwraps hparam haddr reads s
  rw [h] at hresponse
  rw [← heeprom] at h
  have hstore : (configGetInt .works param (r.handle .works reads s).i2c).1 = v := by
    rw [configGetInt_of_value hparam hty _ h, toInt_bits hlo hhi]
  have hint : (r.handle .works reads s).response.bind responseInt64 =
      some (BitVec.ofNat 64 (bits v % 2 ^ 32)).toInt := by
    rw [hresponse]
    exact responseInt64_valuePayload hty _ _
  rw [← int64_of_bits hlo hhi, ← Option.some_inj, ← hint]
  exact ⟨fun hs => hs.response, fun hr => ⟨hstore, hr⟩⟩

end Parameter

/-! ## The round trip -/

/-- Any transfer, and what the handler's stack holds when it arrives. -/
structure GetSetTransfer where
  transfer : CanardRxTransfer
  nameMem : Mem
  strMem : Mem

/-- The state after transfers that arrive one after another. -/
def afterTransfers (can : Canard) (reads : List ℕ) (s : I2c) (ts : List GetSetTransfer) : I2c :=
  Machine.run (fun s t => (onParamGetSet can .works reads t.nameMem t.strMem t.transfer s).i2c) s ts

/-- The number is there after the request that sets it, and at every request that gets the
parameter, as long as no other transfer sets it. -/
structure RoundTrip {can : Canard} (param : ℕ) (v : ℤ) (r : GetSetRequest can) (reads : List ℕ)
    (s : I2c) : Prop where
  set : Shows param v (r.handle .works reads s)
  get : ∀ (ts : List GetSetTransfer) (r' : GetSetRequest can),
    (∀ t ∈ ts, ¬ SetsParam can t.transfer param) → r'.value = .empty → r'.Addresses param →
      Shows param v
        (r'.handle .works reads (afterTransfers can reads (r.handle .works reads s).i2c ts))

variable {can : Canard}

/-- Transfers that do not set a parameter leave its value. -/
theorem configValue_afterTransfers {param : ℕ} {ts : List GetSetTransfer}
    (h : ∀ t ∈ ts, ¬ SetsParam can t.transfer param) (reads : List ℕ) (s : I2c) :
    configValue (afterTransfers can reads s ts).eeprom param = configValue s.eeprom param := by
  have hkeeps : Machine.KeepsIf
      (fun (s : I2c) (t : GetSetTransfer) =>
        (onParamGetSet can .works reads t.nameMem t.strMem t.transfer s).i2c)
      (fun _ t => ¬ SetsParam can t.transfer param)
      fun s' => configValue s'.eeprom param = configValue s.eeprom param := by
    intro s' t ht hs'
    rw [← hs']
    exact configValue_onParamGetSet ht reads _ _ _
  exact hkeeps.run rfl (Machine.meets_of_forall s h)

section Set

variable {r : GetSetRequest can} {param : ℕ} (hparam : param < configParamLast)
  (hty : (configParam param).type = .int) (hvalue : r.value = .int64 (BitVec.ofInt 64 v))
include hvalue

theorem not_wraps_int64 : ¬ r.value.Wraps := by
  rw [hvalue]
  exact id

include hparam hty

/-- The parameter takes the low four bytes of the number. -/
theorem configValue_store_int64 (m : Mem) :
    configValue (r.value.store m param) param = leBytes 4 (bits v) := by
  have hsent : r.value.sent = some (leBytes 8 (bits v)) := by
    rw [hvalue]
    rfl
  rw [RequestValue.configValue_store hsent, Function.update_self, size_int hparam hty]
  exact take_leBytes 8 4 _ (by decide)

end Set

/-- **When a signed integer survives.** A number of 32 bits that a request sets comes back from
`config_get_int` and in the responses, at once and until the next set, if and only if it is not
negative. -/
theorem roundTrip_iff (r : GetSetRequest can) (reads : List ℕ) (s : I2c) {param : ℕ}
    (hparam : param < configParamLast) (hty : (configParam param).type = .int)
    (haddr : r.Addresses param) (hlo : -2 ^ 31 ≤ v) (hhi : v < 2 ^ 31)
    (hvalue : r.value = .int64 (BitVec.ofInt 64 v)) : RoundTrip param v r reads s ↔ 0 ≤ v := by
  have hwraps := not_wraps_int64 hvalue
  have hset := configValue_store_int64 hparam hty hvalue s.eeprom
  have hshows := shows_iff hparam hty hwraps haddr hlo hhi reads s hset
  constructor
  · exact fun h => hshows.mp h.set
  · intro h0
    refine ⟨hshows.mpr h0, fun ts r' hts hget haddr' => ?_⟩
    -- The request without a value leaves the store as it found it.
    have hvalue' : configValue (r'.value.store
        (afterTransfers can reads (r.handle .works reads s).i2c ts).eeprom param) param =
          leBytes 4 (bits v) := by
      rw [hget]
      show configValue (afterTransfers can reads _ ts).eeprom param = _
      rw [configValue_afterTransfers hts,
        (GetSetRequest.onParamGetSet_known hwraps hparam haddr reads s).2, hset]
    have hwraps' : ¬ r'.value.Wraps := by
      rw [hget]
      exact id
    exact (shows_iff hparam hty hwraps' haddr' hlo hhi reads _ hvalue').mpr h0

/-- The node id 7. -/
theorem roundTrip_iff_seven :
    RoundTrip 2 7 (nodeIdRequest (.int64 (BitVec.ofInt 64 7))) [] ⟨fun _ => 0, 0, []⟩ ↔
      (0 : ℤ) ≤ 7 :=
  roundTrip_iff _ [] _ (by decide) (by decide) (.inr ⟨rfl, rfl⟩) (by decide) (by decide) rfl

/-- The node id -1. -/
def minusOneRequest : GetSetRequest .uavcan := nodeIdRequest (.int64 (BitVec.ofInt 64 (-1)))

/-- The response has 4294967295. -/
theorem not_roundTrip :
    ¬ ∀ (param : ℕ) (v : ℤ) (r : GetSetRequest .uavcan), param < configParamLast →
      (configParam param).type = .int → r.Addresses param → -2 ^ 31 ≤ v → v < 2 ^ 31 →
      r.value = .int64 (BitVec.ofInt 64 v) → RoundTrip param v r [] ⟨fun _ => 0, 0, []⟩ := by
  intro h
  have hparam : 2 < configParamLast := by decide
  have hty : (configParam 2).type = .int := by decide
  have haddr : minusOneRequest.Addresses 2 := .inr ⟨rfl, rfl⟩
  have hset := (h 2 (-1) minusOneRequest hparam hty haddr (by decide) (by decide) rfl).set
  have hvalue := configValue_store_int64 (r := minusOneRequest) hparam hty rfl fun _ => 0
  have hneg := (shows_iff hparam hty id haddr (by decide) (by decide) [] _ hvalue).mp hset
  exact absurd hneg (by decide)

end HouseBus
