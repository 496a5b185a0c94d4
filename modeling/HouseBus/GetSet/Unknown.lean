import HouseBus.GetSet.Requests
import HouseBus.GetSet.Safety

/-!
# Requests for parameters that do not exist

Only the low 8 bits of an index are compared with `CONFIG_PARAM_LAST`, and only the low 8 bits of a
name's length count in the look-up: index 256 is parameter 0, and a name of 256 bytes more than that
of a parameter, which it begins with, is that parameter's. A request that the handler takes for one
of a parameter gets a response of more than four bytes, whatever the bus does (`size_response_gt`).
-/

namespace HouseBus

open Bytes GetSet

/-! ## Names -/

theorem configGetIdByName_eq_none {name : List UInt8} :
    configGetIdByName name = none ↔ ∀ param < configParamLast, configParamName param ≠ name := by
  rw [configGetIdByName, List.find?_eq_none]
  constructor
  · intro h param hparam hname
    exact h param (List.mem_range.mpr hparam) (decide_eq_true hname)
  · intro h param hparam hname
    exact h param (List.mem_range.mp hparam) (of_decide_eq_true hname)

theorem configGetIdByName_lt {name : List UInt8} {param : ℕ}
    (h : configGetIdByName name = some param) : param < configParamLast :=
  List.mem_range.mp (List.mem_of_find?_eq_some h)

namespace GetSetRequest

variable {can : Canard}

/-- No parameter has the name or, if there is none, the index. -/
def Unknown (r : GetSetRequest can) : Prop := ∀ param < configParamLast, ¬ r.Addresses param

/-- The handler finds no parameter with the low 8 bits of the index, or of the name's length. -/
def Misses (r : GetSetRequest can) : Prop :=
  r.value.Wraps ∨
    if r.name = [] then configParamLast ≤ r.index % 2 ^ 8
    else ∀ param < configParamLast, configParamName param ≠ r.name.take (r.name.length % 2 ^ 8)

theorem misses_iff (r : GetSetRequest can) :
    r.Misses ↔ ¬ addressed can r.transfer r.len < configParamLast := by
  rw [Misses]
  by_cases hwraps : r.value.Wraps
  · rw [addressed_wraps hwraps]
    exact iff_of_true (.inl hwraps) (by decide)
  rw [addressed_request hwraps, or_iff_right hwraps]
  split
  · exact Nat.not_lt.symm
  · cases hid : configGetIdByName (r.name.take (r.name.length % 2 ^ 8)) with
    | none => exact iff_of_true (configGetIdByName_eq_none.mp hid) (by decide)
    | some param =>
      have hlt := configGetIdByName_lt hid
      rw [Option.getD_some,
        Nat.mod_eq_of_lt (show param < 2 ^ 8 by simp only [configParamLast] at hlt; omega),
        ← configGetIdByName_eq_none, hid]
      exact iff_of_false (Option.some_ne_none param) (not_not_intro hlt)

/-- Where 8 bits are enough for index and name, an unknown parameter is not found. -/
theorem Unknown.misses {r : GetSetRequest can} (h : r.Unknown) (hindex : r.index < 2 ^ 8)
    (hname : r.name.length < 2 ^ 8) : r.Misses := by
  refine .inr ?_
  split
  · rename_i hnil
    rw [Nat.mod_eq_of_lt hindex]
    exact Nat.not_lt.mp fun hlt => h _ hlt (.inr ⟨hnil, rfl⟩)
  · intro param hparam heq
    rw [Nat.mod_eq_of_lt hname, List.take_length] at heq
    exact h param hparam (.inl heq.symm)

/-- The bytes that the handler takes for the name, modulo 256. -/
theorem nameLen_mod (r : GetSetRequest can) :
    (r.transfer.payloadLen - 2 - r.len) % 2 ^ 8 = r.name.length % 2 ^ 8 := by
  have hlen := r.payloadLen_eq
  by_cases hwraps : r.value.Wraps
  · rw [len_of_wraps hwraps, hlen, RequestValue.wraps_iff.mp hwraps]
    omega
  · rw [len_of_not_wraps hwraps, hlen]
    congr 1
    omega

end GetSetRequest

/-! ## Responses -/

namespace GetSet

variable {bus : Bus}

/-- A value has one byte at least. -/
theorem size_valueResponse_gt {param : ℕ} (h : param < configParamLast) (buffer : Mem) (s : I2c) :
    4 < (valueResponse bus param buffer s).size := by
  have htype : configGetParamType param = some (configParam param).type := by
    rw [configGetParamType, if_neg (Nat.not_le.mpr h)]
  have hvoid := type_ne_void h
  unfold valueResponse
  rw [htype]
  cases hty : (configParam param).type with
  | void => exact absurd hty hvoid
  | string =>
    simp only
    omega
  | _ => exact Nat.le_of_ble_eq_true rfl

end GetSet

/-- The response is the one with four empty unions, the store is as it was, and the name has room
in the handler's array. -/
structure Refused {can : Canard} (r : GetSetRequest can) (s : I2c) (result : GetSetResult) :
    Prop where
  response : result.response = some (r.transfer.respond [0, 0, 0, 0])
  store : result.i2c.eeprom = s.eeprom
  name : ∀ i ∈ result.access.name, i < getSetNameSize

namespace GetSetRequest

variable {can : Canard} {bus : Bus}

/-- What the handler takes for a parameter it does not refuse. -/
theorem not_refused_of_known {r : GetSetRequest can}
    (h : addressed can r.transfer r.len < configParamLast) (reads : List ℕ) (s : I2c) :
    ¬ Refused r s (r.handle bus reads s) := by
  rintro ⟨hresponse, -, -⟩
  rw [handle, onParamGetSet_eq reads r.nameMem r.strMem s r.valueLen_request r.len_le] at hresponse
  simp only [h, ↓reduceIte, Option.some.injEq] at hresponse
  have hlen := congrArg (fun c : CanardResponse => c.payload.length) hresponse
  simp only [CanardRxTransfer.respond, length_read, List.length_cons, List.length_nil] at hlen
  generalize setParam can bus reads r.transfer (unionTag can r.transfer) _ r.strMem s = s' at hlen
  have hvalue : 4 < (valueResponse bus _ (fun _ => 0) s').size := size_valueResponse_gt h _ s'
  simp only [nameResponse] at hlen
  omega

theorem refused_of_misses {r : GetSetRequest can}
    (h : ¬ addressed can r.transfer r.len < configParamLast) (reads : List ℕ) (s : I2c) :
    Refused r s (r.handle bus reads s) ↔ r.name.length % 2 ^ 8 ≤ getSetNameSize := by
  have hname : (∀ i ∈ nameStores can r.transfer r.len (r.transfer.payloadLen - 2 - r.len),
      i < getSetNameSize) ↔ _ := nameStores_lt_iff r.len_le
  rw [nameLen_mod] at hname
  rw [← hname, handle, onParamGetSet_eq reads r.nameMem r.strMem s r.valueLen_request r.len_le]
  simp only [h, ↓reduceIte]
  exact ⟨fun hr => hr.name, fun hn => ⟨rfl, rfl, hn⟩⟩

/-- **When a parameter is refused.** A request, for a parameter that exists or not, gets the empty
response and changes nothing, within the handler's array, if and only if its name has room there
and the handler finds no parameter. -/
theorem refused_iff (r : GetSetRequest can) (bus : Bus) (reads : List ℕ) (s : I2c) :
    Refused r s (r.handle bus reads s) ↔
      r.name.length % 2 ^ 8 ≤ getSetNameSize ∧ r.Misses := by
  rw [misses_iff]
  by_cases h : addressed can r.transfer r.len < configParamLast
  · exact iff_of_false (not_refused_of_known h reads s) (fun hmiss => hmiss.2 h)
  · rw [refused_of_misses h, and_iff_left h]

/-- Index 256 with an integer and no name: no parameter has this index, parameter 0 is set. -/
theorem not_refused :
    ¬ ∀ r : GetSetRequest .uavcan, r.Unknown →
      Refused r ⟨fun _ => 0, 0, []⟩ (r.handle .works [] ⟨fun _ => 0, 0, []⟩) := by
  intro h
  have hunknown : (requestOf 256 (by decide) (.int64 5) [] (by decide)).Unknown := by
    rintro param hparam (hname | ⟨-, hindex⟩)
    · have := (length_configParamName hparam).1
      rw [← hname] at this
      exact Nat.lt_irrefl 0 this
    · rw [← hindex] at hparam
      exact absurd hparam (by decide)
  refine not_refused_of_known ?_ [] _ (h _ hunknown)
  rw [addressed_request id]
  decide

end GetSetRequest

end HouseBus
