import HouseBus.GetSet.Requests
import Mathlib.Data.List.Induction

/-!
# The GetSet service is a parameter map

A `ParamMap` holds for each parameter the value that was set last, or none. A `ParamRequest` gets
the value of a parameter or sets it; the response shows the value afterwards (`paramResponse`).

A `GetSetCall` is a transfer that carries such a request: two bytes with index and tag, the value
in its wire form, and the name of the parameter, or no name and its index (`callOf`). It is a
request whose value has the type of the parameter (`toRequest`). On a bus without failures the
handler simulates the map (`simulates`), so after any calls on a cleared store each response is
that of the map (`getSet_paramMap`).
-/

namespace HouseBus

open Bytes

/-! ## The map -/

/-- A parameter. -/
abbrev Param := Fin configParamLast

/-- The type of a parameter. -/
def Param.type (p : Param) : ConfigParamType := (configParam p).type

/-- The size of the parameters of a type. -/
def ConfigParamType.size : ConfigParamType → ℕ
  | .void => 0
  | .int => 4
  | .string => 80
  | .float32 => 4

theorem Param.size_eq (p : Param) : configGetParamSize p = p.type.size := by
  have hall : ∀ p : Param, configGetParamSize p = p.type.size := by decide +kernel
  exact hall p

/-- A value for the parameters of a type; numbers are given by their bits. -/
inductive ParamValue : ConfigParamType → Type
  | int (v : UInt64) : ParamValue .int
  | float32 (bits : UInt32) : ParamValue .float32
  | string (bytes : List UInt8) (h : bytes.length ≤ 80) : ParamValue .string

/-- The value of each parameter, if it was set. -/
abbrev ParamMap := (p : Param) → Option (ParamValue p.type)

/-- A request: to set a parameter, or to get it. -/
structure ParamRequest where
  param : Param
  value : Option (ParamValue param.type)

/-- The map after a request. -/
def ParamMap.step (σ : ParamMap) (r : ParamRequest) : ParamMap :=
  match r.value with
  | some v => Function.update σ r.param (some v)
  | none => σ

theorem ParamMap.step_of_ne (σ : ParamMap) {r : ParamRequest} {p : Param} (h : p ≠ r.param) :
    ParamMap.step σ r p = σ p := by
  rw [ParamMap.step]
  cases r.value with
  | none => rfl
  | some v => exact Function.update_of_ne h _ _

/-- The value that the requests set last for a parameter. -/
def lastSet (rs : List ParamRequest) : ParamMap := fun p =>
  rs.reverse.findSome? fun r => if h : r.param = p then h ▸ r.value else none

theorem lastSet_snoc (rs : List ParamRequest) (r : ParamRequest) :
    lastSet (rs ++ [r]) = ParamMap.step (lastSet rs) r := by
  obtain ⟨q, v⟩ := r
  funext p
  rw [lastSet, List.reverse_append, List.reverse_singleton, List.singleton_append,
    List.findSome?_cons]
  by_cases hp : q = p
  · subst hp
    cases v with
    | none => simp [ParamMap.step, lastSet]
    | some v => simp [ParamMap.step]
  · cases v with
    | none => simp [hp, ParamMap.step, lastSet]
    | some v => simp [hp, ParamMap.step, lastSet, Function.update_of_ne (Ne.symm hp)]

/-- The map after the requests `rs` holds what they set last. -/
theorem run_eq_lastSet (rs : List ParamRequest) :
    Machine.run ParamMap.step (fun _ => none) rs = lastSet rs := by
  induction rs using List.reverseRecOn with
  | nil => rfl
  | append_singleton rs r ih => rw [Machine.run_snoc, ih, lastSet_snoc]

namespace ParamValue

variable {ty : ConfigParamType}

/-! ## Values in requests, in the store and in responses -/

/-- The union tag of a request with a value. -/
def tag : ParamValue ty → ℕ
  | .int _ => 1
  | .float32 _ => 2
  | .string _ _ => 4

/-- The bytes of a value in a request. -/
def sent : ParamValue ty → List UInt8
  | .int v => leBytes 8 v.toNat
  | .float32 bits => leBytes 4 bits.toNat
  | .string bytes _ => bytes

/-- The value in a request: a string has its length in front. -/
def wire : ParamValue ty → List UInt8
  | .int v => (int v).sent
  | .float32 bits => (float32 bits).sent
  | .string bytes h => UInt8.ofNat bytes.length :: (string bytes h).sent

/-- The value in the store: an integer has 32 bits there. -/
def bytes : ParamValue ty → List UInt8
  | .int v => leBytes 4 v.toNat
  | .float32 bits => leBytes 4 bits.toNat
  | .string bytes _ => bytes

/-- Tag and value of a request that may have none. -/
def tag? (v : Option (ParamValue ty)) : ℕ := v.elim 0 tag

def wire? (v : Option (ParamValue ty)) : List UInt8 := v.elim [] wire

/-- The store's bytes for a parameter that may never have been set. -/
def bytes? (v : Option (ParamValue ty)) : List UInt8 := v.elim [] bytes

/-- The first field of a response: the low 32 bits of an integer as an `int64`, the bits of a
float, a string with its length. -/
def field : (ty : ConfigParamType) → Option (ParamValue ty) → List UInt8
  | .int, some (.int v) => 1 :: leBytes 8 (v.toNat % 2 ^ 32)
  | .int, none => 1 :: leBytes 8 0
  | .float32, some (.float32 bits) => 2 :: leBytes 4 bits.toNat
  | .float32, none => 2 :: leBytes 4 0
  | .string, some (.string bytes _) => 4 :: UInt8.ofNat bytes.length :: bytes
  | .string, none => [4, 0]
  | .void, none => []

end ParamValue

open ParamValue

/-- The response for a parameter: its value, three empty unions and its name. -/
def paramResponse (p : Param) (v : Option (ParamValue p.type)) : List UInt8 :=
  field p.type v ++ [0, 0, 0] ++ configParamName p

/-! ## Calls -/

/-- A well-formed transfer, with what the handler's stack holds when it arrives. -/
structure GetSetCall (can : Canard) where
  request : ParamRequest
  transfer : CanardRxTransfer
  nameMem : Mem
  strMem : Mem
  head : List UInt8
  name : List UInt8
  length_head : head.length = 2
  payload_eq : transfer.payload = head ++ wire? request.value ++ name
  tag_eq : can.decodeScalar transfer.payload 13 3 = some (tag? request.value)
  addresses : name = configParamName request.param ∨
    name = [] ∧ can.decodeScalar transfer.payload 0 13 = some (request.param : ℕ)

namespace GetSet

section Request

variable {can : Canard} {ty : ConfigParamType}

theorem tag?_lt (v : Option (ParamValue ty)) : tag? v < 8 := by
  cases v with
  | none => simp [tag?]
  | some v => cases v <;> simp [tag?, tag]

/-- What a parameter takes from the bytes sent for it. -/
theorem take_sent (v : ParamValue ty) : v.sent.take ty.size = v.bytes := by
  cases v with
  | int v => exact take_leBytes 8 4 _ (by decide)
  | float32 bits => exact List.take_of_length_le (Nat.le_of_eq (length_leBytes 4 _))
  | string bytes h => exact List.take_of_length_le h

/-! ## Transfers on the bus -/

theorem length_wire?_le (v : Option (ParamValue ty)) : (wire? v).length ≤ 81 := by
  match v with
  | none => exact Nat.zero_le _
  | some (.int v) => exact (length_leBytes 8 _).trans_le (by decide)
  | some (.float32 bits) => exact (length_leBytes 4 _).trans_le (by decide)
  | some (.string bytes h) => exact Nat.succ_le_succ h

/-- A request as a transfer of node `source`: with the parameter's name and any index, or with its
index and no name. -/
def transferOf (source : UInt8) (r : ParamRequest) (byName : Bool) : CanardRxTransfer where
  sourceNodeId := source
  transferId := 0
  priority := 16
  payload := requestHead r.param (tag? r.value) ++ wire? r.value ++
    if byName then configParamName r.param else []
  payload_len_lt := by
    have hwire := length_wire?_le r.value
    have hname := (length_configParamName r.param.isLt).2
    rw [List.length_append, List.length_append]
    split
    · show 2 + _ + _ < _
      omega
    · show 2 + _ + 0 < _
      omega
  beyond := fun _ => 0

theorem decode_transferOf (source : UInt8) (r : ParamRequest) (byName : Bool) :
    Canard.uavcan.decodeScalar (transferOf source r byName).payload 0 13 =
        some (r.param : ℕ) ∧
      Canard.uavcan.decodeScalar (transferOf source r byName).payload 13 3 =
        some (tag? r.value) := by
  have hp := r.param.isLt
  simp only [configParamLast] at hp
  have h := decode_requestHead (show (r.param : ℕ) < 2 ^ 13 by omega) (tag?_lt r.value)
    (wire? r.value ++ if byName then configParamName r.param else [])
  rw [← List.append_assoc] at h
  exact h

/-- Every request is a call, by name and by index. -/
def callOf (source : UInt8) (r : ParamRequest) (byName : Bool) (nameMem strMem : Mem) :
    GetSetCall .uavcan where
  request := r
  transfer := transferOf source r byName
  nameMem := nameMem
  strMem := strMem
  head := requestHead r.param (tag? r.value)
  name := if byName then configParamName r.param else []
  length_head := rfl
  payload_eq := rfl
  tag_eq := (decode_transferOf source r byName).2
  addresses := by
    cases byName with
    | true => exact .inl rfl
    | false => exact .inr ⟨rfl, (decode_transferOf source r false).1⟩

/-! ## Calls as requests -/

/-- The value of a request for a parameter of the type. -/
def requestValue : Option (ParamValue ty) → RequestValue
  | none => .empty
  | some (.int v) => .int64 v.toBitVec
  | some (.float32 bits) => .float32 bits.toBitVec
  | some (.string bytes h) => .string bytes (by omega)

theorem wire_requestValue (v : Option (ParamValue ty)) : (requestValue v).wire = wire? v := by
  match v with
  | none => rfl
  | some (.int v) => rfl
  | some (.float32 bits) => rfl
  | some (.string bytes h) => rfl

theorem tag_requestValue (v : Option (ParamValue ty)) : (requestValue v).tag = tag? v := by
  match v with
  | none => rfl
  | some (.int v) => rfl
  | some (.float32 bits) => rfl
  | some (.string bytes h) => rfl

theorem sent_requestValue (v : ParamValue ty) : (requestValue (some v)).sent = some v.sent := by
  cases v <;> rfl

theorem not_wraps_requestValue (v : Option (ParamValue ty)) : ¬ (requestValue v).Wraps := by
  have := length_wire?_le v
  rw [RequestValue.wraps_iff, wire_requestValue]
  omega

/-- A call is a request. -/
def toRequest (c : GetSetCall can) : GetSetRequest can where
  transfer := c.transfer
  nameMem := c.nameMem
  strMem := c.strMem
  head := c.head
  index := (can.decodeScalar c.transfer.payload 0 13).getD 0
  value := requestValue c.request.value
  name := c.name
  length_head := c.length_head
  payload_eq := by rw [wire_requestValue, c.payload_eq]
  index_eq := by
    have hlen : 2 ≤ c.transfer.payload.length := by
      rw [c.payload_eq, List.length_append, List.length_append, c.length_head]
      omega
    have hsome := can.decode_within c.transfer.payload 0 13 (by decide) (by omega)
    obtain ⟨index, hindex⟩ := Option.isSome_iff_exists.mp hsome
    rw [hindex, Option.getD_some]
  tag_eq := by rw [tag_requestValue, c.tag_eq]

theorem toRequest_addresses (c : GetSetCall can) : (toRequest c).Addresses c.request.param := by
  obtain hname | ⟨hname, hindex⟩ := c.addresses
  · exact .inl hname
  · refine .inr ⟨hname, ?_⟩
    show (can.decodeScalar c.transfer.payload 0 13).getD 0 = _
    rw [hindex, Option.getD_some]

/-- The first field of the map's response shows the bytes of the store. -/
theorem field_eq (v : Option (ParamValue ty)) : field ty v = valueField ty (bytes? v) := by
  match ty, v with
  | .int, none => rfl
  | .int, some (.int v) =>
    have hlen : (bytes? (some (.int v))).length = 4 := length_leBytes 4 _
    rw [valueField, hlen]
    exact congrArg (List.cons 1) (leBytes_add_mod 4 4 v.toNat)
  | .float32, none => rfl
  | .float32, some (.float32 bits) =>
    have hlen : (bytes? (some (.float32 bits))).length = 4 := length_leBytes 4 _
    rw [valueField, hlen, Nat.sub_self, List.replicate_zero, List.append_nil]
    rfl
  | .string, none => rfl
  | .string, some (.string bytes h) => rfl
  | .void, none => rfl

end Request

/-! ## Calls on the store -/

/-- The store holds the values of the map. -/
def Represents (m : Mem) (σ : ParamMap) : Prop := ∀ p : Param, configValue m p = bytes? (σ p)

variable {can : Canard} {s : I2c} {σ : ParamMap}

/-- The value of a request is stored in both. -/
theorem represents_store {m : Mem} (r : ParamRequest) (h : Represents m σ) :
    Represents ((requestValue r.value).store m r.param) (ParamMap.step σ r) := by
  obtain ⟨p, v⟩ := r
  cases v with
  | none => exact h
  | some v =>
    intro q
    rw [RequestValue.configValue_store (sent_requestValue v), Param.size_eq, take_sent]
    by_cases hq : q = p
    · subst hq
      simp only [ParamMap.step, Function.update_self]
      rfl
    · simp only [ParamMap.step]
      rw [Function.update_of_ne hq, Function.update_of_ne (Fin.val_ne_of_ne hq)]
      exact h q

/-- A call on a store that holds the map's values: the response is that of the map, and the store
holds the map's values afterwards. -/
theorem onParamGetSet_call (c : GetSetCall can) (reads : List ℕ) (h : Represents s.eeprom σ) :
    (onParamGetSet can .works reads c.nameMem c.strMem c.transfer s).response =
        some (c.transfer.respond (paramResponse c.request.param
          (ParamMap.step σ c.request c.request.param))) ∧
      Represents (onParamGetSet can .works reads c.nameMem c.strMem c.transfer s).i2c.eeprom
        (ParamMap.step σ c.request) := by
  have hstore := represents_store c.request h
  obtain ⟨hresponse, heeprom⟩ := GetSetRequest.onParamGetSet_known (r := toRequest c)
    (not_wraps_requestValue c.request.value) c.request.param.isLt (toRequest_addresses c) reads s
  refine ⟨hresponse.trans ?_, ?_⟩
  · show some (c.transfer.respond (valuePayload _ (configValue
      ((requestValue c.request.value).store s.eeprom c.request.param) _))) = _
    rw [hstore, valuePayload, paramResponse, field_eq]
    rfl
  · show Represents ((toRequest c).handle .works reads s).i2c.eeprom _
    rw [heeprom]
    exact hstore

/-- The handler of the calls that arrive one after another. -/
def handle (can : Canard) (reads : List ℕ) (s : I2c) (c : GetSetCall can) : GetSetResult :=
  onParamGetSet can .works reads c.nameMem c.strMem c.transfer s

/-- The handler simulates the map. -/
theorem simulates (can : Canard) (reads : List ℕ) :
    Machine.Simulates (fun s c => (handle can reads s c).i2c)
      (fun s c => (handle can reads s c).response)
      (fun σ c => ParamMap.step σ c.request)
      (fun σ c => some (c.transfer.respond (paramResponse c.request.param
        (ParamMap.step σ c.request c.request.param))))
      fun s σ => Represents s.eeprom σ where
  step h c := (onParamGetSet_call c reads h).2
  out h c := (onParamGetSet_call c reads h).1

/-- The state after calls on a cleared store. -/
def afterCalls (can : Canard) (reads : List ℕ) (s : I2c) (calls : List (GetSetCall can)) : I2c :=
  Machine.run (fun s c => (handle can reads s c).i2c) (configClear .works s) calls

/-- After calls on a cleared store it holds what they set last. -/
theorem represents_afterCalls (can : Canard) (reads : List ℕ) (s : I2c)
    (calls : List (GetSetCall can)) :
    Represents (afterCalls can reads s calls).eeprom (lastSet (calls.map (·.request))) := by
  have hclear : Represents (configClear .works s).eeprom fun _ => none :=
    fun p => configValue_configClear p.isLt s
  have hrun := (simulates can reads).run hclear calls
  rw [← run_eq_lastSet, Machine.run_map]
  exact hrun

end GetSet

open GetSet

/-- **The service is a parameter map.** After any calls on a cleared store, the next one is answered
with the value set last for its parameter, three empty unions and the name, and the store holds for
each parameter what was set last; that of another parameter stays, and it is all the same whether
the call names its parameter or gives its index. -/
theorem getSet_paramMap (can : Canard) (reads : List ℕ) (s : I2c) (calls : List (GetSetCall can))
    (call : GetSetCall can) :
    let before := afterCalls can reads s calls
    let result := handle can reads before call
    let last := lastSet ((calls ++ [call]).map (·.request))
    result.response =
        some (call.transfer.respond (paramResponse call.request.param (last call.request.param))) ∧
      (∀ p : Param, configValue result.i2c.eeprom p = bytes? (last p)) ∧
      (∀ p ≠ call.request.param,
        configValue result.i2c.eeprom p = configValue before.eeprom p) ∧
      ∀ other : GetSetCall can, other.request = call.request →
        (handle can reads before other).response.map (·.payload) =
            result.response.map (·.payload) ∧
          ∀ p : Param, configValue (handle can reads before other).i2c.eeprom p =
            configValue result.i2c.eeprom p := by
  intro before result last
  have hbefore := represents_afterCalls can reads s calls
  have hlast : last = ParamMap.step (lastSet (calls.map (·.request))) call.request := by
    show lastSet ((calls ++ [call]).map (·.request)) = _
    rw [List.map_append, List.map_singleton, lastSet_snoc]
  obtain ⟨hresponse, hstore⟩ := onParamGetSet_call call reads hbefore
  rw [hlast]
  refine ⟨hresponse, hstore, fun p hp => ?_, fun other hother => ?_⟩
  · exact (hstore p).trans ((congrArg bytes? (ParamMap.step_of_ne _ hp)).trans (hbefore p).symm)
  · obtain ⟨hresponse', hstore'⟩ := onParamGetSet_call other reads hbefore
    rw [hother] at hresponse' hstore'
    refine ⟨?_, fun p => (hstore' p).trans (hstore p).symm⟩
    show Option.map _ (handle can reads before other).response = Option.map _ result.response
    rw [show (handle can reads before other).response = _ from hresponse',
      show result.response = _ from hresponse]
    rfl

end HouseBus
