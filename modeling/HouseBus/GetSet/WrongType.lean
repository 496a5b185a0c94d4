import HouseBus.GetSet.Requests

/-!
# Values of the wrong type

The handler stores by the tag of the value and responds by the type of the parameter; it never
compares the two. A value that it stores replaces the old one whatever its type is, so only a
boolean, for which the handler has no branch, and a value whose bytes are those that the parameter
has already leave the parameter as it is (`unchanged_iff`).
-/

namespace HouseBus

open Bytes GetSet

/-- The union tag of the values of a type. -/
def ConfigParamType.tag : ConfigParamType → ℕ
  | .void => 0
  | .int => 1
  | .float32 => 2
  | .string => 4

/-- A value, but not one of the parameter's type. -/
structure WrongType (v : RequestValue) (param : ℕ) : Prop where
  value : v.tag ≠ 0
  tag : v.tag ≠ (configParam param).type.tag

/-- A string has at most 128 bytes. -/
def RequestValue.WellFormed : RequestValue → Prop
  | .string bytes _ => bytes.length ≤ getSetStrSize
  | _ => True

/-- Nothing of the value is stored, or just what the parameter holds. -/
def RequestValue.Keeps (v : RequestValue) (m : Mem) (param : ℕ) : Prop :=
  ∀ bs, v.sent = some bs → bs.take (configGetParamSize param) = configValue m param

/-- The bytes of the parameter, its value with the valid length, and the response are those of the
memory `m`. -/
structure Unchanged {can : Canard} (r : GetSetRequest can) (param : ℕ) (m : Mem)
    (result : GetSetResult) : Prop where
  bytes : read result.i2c.eeprom (getParamOffset param + 1) (configGetParamSize param) =
    read m (getParamOffset param + 1) (configGetParamSize param)
  value : configValue result.i2c.eeprom param = configValue m param
  response : result.response = some (r.transfer.respond (valuePayload param (configValue m param)))

namespace GetSetRequest

variable {can : Canard} {r : GetSetRequest can} {param : ℕ}

theorem not_wraps_of_wellFormed (h : r.value.WellFormed) : ¬ r.value.Wraps := by
  cases hv : r.value with
  | string bytes hb =>
    rw [hv] at h
    simp only [RequestValue.WellFormed, getSetStrSize] at h
    show ¬ bytes.length = 255
    omega
  | _ => exact id

/-- Storing what the parameter holds changes none of its bytes. -/
theorem read_store {m : Mem} (h : r.value.Keeps m param) :
    read (r.value.store m param) (getParamOffset param + 1) (configGetParamSize param) =
      read m (getParamOffset param + 1) (configGetParamSize param) := by
  rw [RequestValue.store]
  cases hsent : r.value.sent with
  | none => rfl
  | some bs =>
    simp only [getParamOffset_eq, h bs hsent]
    exact read_congr fun i _ => Records.set_get_of_ne (by omega)

/-- What is stored replaces the value. -/
theorem keeps_iff (m : Mem) :
    r.value.Keeps m param ↔ configValue (r.value.store m param) param = configValue m param := by
  rw [RequestValue.Keeps]
  cases hsent : r.value.sent with
  | none => simp [RequestValue.store, hsent]
  | some bs =>
    rw [RequestValue.configValue_store hsent, Function.update_self]
    simp only [Option.some.injEq, forall_eq']

/-- **When a request leaves a parameter.** After a well-formed request, with a value of the
parameter's type or of another one, bytes and valid length of the parameter are as before and the
response shows the old value, if and only if nothing of the value is stored or its bytes are those
that the parameter holds. -/
theorem unchanged_iff (hparam : param < configParamLast) (haddr : r.Addresses param)
    (hwf : r.value.WellFormed) (reads : List ℕ) (s : I2c) :
    Unchanged r param s.eeprom (r.handle .works reads s) ↔ r.value.Keeps s.eeprom param := by
  obtain ⟨hresponse, heeprom⟩ :=
    onParamGetSet_known (not_wraps_of_wellFormed hwf) hparam haddr reads s
  constructor
  · intro h
    have hvalue := h.value
    rw [heeprom] at hvalue
    exact (keeps_iff _).mpr hvalue
  · intro h
    have hvalue := (keeps_iff _).mp h
    refine ⟨?_, ?_, ?_⟩
    · rw [heeprom]
      exact read_store h
    · rw [heeprom, hvalue]
    · rw [hresponse, hvalue]

/-- A boolean for the node id. -/
def booleanRequest : GetSetRequest .uavcan := nodeIdRequest (.boolean 1)

theorem unchanged_iff_boolean :
    Unchanged booleanRequest 2 (fun _ => 0) (booleanRequest.handle .works [] ⟨fun _ => 0, 0, []⟩) ↔
      booleanRequest.value.Keeps (fun _ => 0) 2 :=
  have hwf : booleanRequest.value.WellFormed := trivial
  unchanged_iff (by decide) (.inr ⟨rfl, rfl⟩) hwf [] ⟨fun _ => 0, 0, []⟩

/-- The string `a` for the node id. -/
def stringRequest : GetSetRequest .uavcan := nodeIdRequest (.string [97] (by decide))

/-- It becomes the number 97. -/
theorem not_unchanged :
    ¬ ∀ (r : GetSetRequest .uavcan) (param : ℕ), param < configParamLast → r.Addresses param →
      r.value.WellFormed → WrongType r.value param →
      Unchanged r param (fun _ => 0) (r.handle .works [] ⟨fun _ => 0, 0, []⟩) := by
  intro h
  have hparam : 2 < configParamLast := by decide
  have haddr : stringRequest.Addresses 2 := .inr ⟨rfl, rfl⟩
  have hwf : stringRequest.value.WellFormed := by
    show 1 ≤ getSetStrSize
    decide
  have hvalue := (h stringRequest 2 hparam haddr hwf ⟨by decide, by decide⟩).value
  rw [(onParamGetSet_known (not_wraps_of_wellFormed hwf) hparam haddr [] _).2] at hvalue
  have hkeeps := (keeps_iff _).mpr hvalue [97] rfl
  revert hkeeps
  decide

end GetSetRequest

end HouseBus
