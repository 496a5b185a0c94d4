import HouseBus.GetSet

/-!
# Requests of the GetSet service

A `GetSetRequest` is a transfer with any value (`RequestValue`) and any name: two bytes with index
and tag, the value in its wire form and the name. Nothing ties the tag to the parameter's type.

- `addressed_request`: the parameter the handler takes, from the low 8 bits of the index, or from
  the first bytes of the name; a string of 255 bytes, whose length byte makes `value_len` 0, never
  has one.
- `onParamGetSet_known`: on a bus without failures the request leaves its bytes in the parameter,
  cut to the parameter's size, and the response shows what the parameter holds (`valueField`).
- `configValue_onParamGetSet`: another transfer leaves the parameter as it is.
-/

namespace HouseBus

open Bytes

/-! ## Values -/

/-- The value of a request. -/
inductive RequestValue
  | empty
  | int64 (v : BitVec 64)
  | float32 (bits : BitVec 32)
  | boolean (b : UInt8)
  | string (bytes : List UInt8) (h : bytes.length < 2 ^ 8)

namespace RequestValue

/-- The union tag. -/
def tag : RequestValue → ℕ
  | empty => 0
  | int64 _ => 1
  | float32 _ => 2
  | boolean _ => 3
  | string _ _ => 4

/-- The value in the transfer: a string has its length in front. -/
def wire : RequestValue → List UInt8
  | empty => []
  | int64 v => leBytes 8 v.toNat
  | float32 bits => leBytes 4 bits.toNat
  | boolean b => [b]
  | string bytes _ => UInt8.ofNat bytes.length :: bytes

/-- The bytes that the handler passes to `config_set`; it has no branch for a boolean. -/
def sent : RequestValue → Option (List UInt8)
  | empty => none
  | int64 v => some (leBytes 8 v.toNat)
  | float32 bits => some (leBytes 4 bits.toNat)
  | boolean _ => none
  | string bytes _ => some bytes

/-- A string whose length byte makes `value_len` 0. -/
def Wraps : RequestValue → Prop
  | string bytes _ => bytes.length = 255
  | _ => False

theorem tag_lt (v : RequestValue) : v.tag < 8 := by
  cases v <;> simp [tag]

theorem length_wire_le (v : RequestValue) : v.wire.length ≤ 256 := by
  cases v with
  | string bytes h =>
    rw [wire, List.length_cons]
    omega
  | int64 v => rw [wire, length_leBytes]; decide
  | float32 bits => rw [wire, length_leBytes]; decide
  | _ => exact Nat.le_of_ble_eq_true rfl

theorem wraps_iff {v : RequestValue} : v.Wraps ↔ v.wire.length = 256 := by
  cases v with
  | string bytes h =>
    rw [wire, Wraps, List.length_cons]
    omega
  | int64 v => simp [wire, Wraps]
  | float32 bits => simp [wire, Wraps]
  | _ => simp [wire, Wraps]

/-- The EEPROM after a `config_set` of the value, if there is one. -/
def store (v : RequestValue) (m : Mem) (param : ℕ) : Mem :=
  match v.sent with
  | some bs => Records.set configGetParamSize m param (bs.take (configGetParamSize param))
  | none => m

/-- A `config_set` of a value updates the map of the parameters' values. -/
theorem configValue_store {v : RequestValue} {m : Mem} {param : ℕ} {bs : List UInt8}
    (hbs : v.sent = some bs) :
    configValue (v.store m param) =
      Function.update (configValue m) param (bs.take (configGetParamSize param)) := by
  have hle : (bs.take (configGetParamSize param)).length ≤ configGetParamSize param :=
    List.length_take_le _ _
  have hsize := configGetParamSize_le param
  rw [store, hbs]
  exact Records.get_set hle (by omega)

end RequestValue

/-- A transfer with a value and a name, and what the handler's stack holds when it arrives. -/
structure GetSetRequest (can : Canard) where
  transfer : CanardRxTransfer
  nameMem : Mem
  strMem : Mem
  head : List UInt8
  index : ℕ
  value : RequestValue
  name : List UInt8
  length_head : head.length = 2
  payload_eq : transfer.payload = head ++ value.wire ++ name
  index_eq : can.decodeScalar transfer.payload 0 13 = some index
  tag_eq : can.decodeScalar transfer.payload 13 3 = some value.tag

namespace GetSetRequest

open GetSet

variable {can : Canard}

/-- The request names the parameter, or gives its index and no name. -/
def Addresses (r : GetSetRequest can) (param : ℕ) : Prop :=
  r.name = configParamName param ∨ r.name = [] ∧ r.index = param

/-- `value_len` -/
def len (r : GetSetRequest can) : ℕ := r.value.wire.length % 2 ^ 8

/-- The handler with this request. -/
def handle (r : GetSetRequest can) (bus : Bus) (reads : List ℕ) (s : I2c) : GetSetResult :=
  onParamGetSet can bus reads r.nameMem r.strMem r.transfer s

variable (r : GetSetRequest can)

/-! ## What the handler decodes -/

theorem unionTag_request : unionTag can r.transfer = r.value.tag := by
  have := r.value.tag_lt
  rw [unionTag, r.tag_eq, Option.getD_some, Nat.mod_eq_of_lt (by omega)]

theorem payloadLen_eq :
    r.transfer.payloadLen = 2 + r.value.wire.length + r.name.length := by
  rw [CanardRxTransfer.payloadLen, r.payload_eq, List.length_append, List.length_append,
    r.length_head]

theorem drop_payload (n : ℕ) :
    r.transfer.payload.drop (2 + n) = (r.value.wire ++ r.name).drop n := by
  rw [r.payload_eq, List.append_assoc, ← r.length_head, ← List.drop_drop, List.drop_left' rfl]

/-- The length byte of a string. -/
theorem payloadHead_string {bytes : List UInt8} {h : bytes.length < 2 ^ 8}
    (hv : r.value = .string bytes h) : (r.transfer.payloadHead 2).toNat = bytes.length := by
  have hbyte : r.transfer.payloadHead 2 = UInt8.ofNat bytes.length := by
    rw [CanardRxTransfer.payloadHead, r.payload_eq, List.append_assoc, ← r.length_head,
      List.getD_append_right _ _ _ _ (Nat.le_refl _), Nat.sub_self, hv]
    rfl
  rw [hbyte, UInt8.toNat_ofNat', Nat.mod_eq_of_lt h]

theorem valueLen_request : valueLen r.transfer (unionTag can r.transfer) = some r.len := by
  rw [unionTag_request, len]
  cases hv : r.value with
  | int64 v =>
    rw [RequestValue.wire, length_leBytes]
    rfl
  | float32 bits =>
    rw [RequestValue.wire, length_leBytes]
    rfl
  | string bytes h =>
    show some (((r.transfer.payloadHead 2).toNat + 1) % 2 ^ 8) = some ((bytes.length + 1) % 2 ^ 8)
    rw [payloadHead_string r hv]
  | _ => rfl

theorem len_le : 2 + r.len ≤ r.transfer.payloadLen := by
  have := r.payloadLen_eq
  have : r.len ≤ r.value.wire.length := Nat.mod_le _ _
  omega

theorem len_of_not_wraps {r : GetSetRequest can} (h : ¬ r.value.Wraps) :
    r.len = r.value.wire.length := by
  have hle := r.value.length_wire_le
  rw [RequestValue.wraps_iff] at h
  exact Nat.mod_eq_of_lt (by omega)

theorem len_of_wraps {r : GetSetRequest can} (h : r.value.Wraps) : r.len = 0 := by
  rw [len, RequestValue.wraps_iff.mp h]
  rfl

/-! ## The parameter of a request -/

/-- A string that wraps is part of the name that is looked up, with its length byte in front. -/
theorem addressed_wraps {r : GetSetRequest can} (h : r.value.Wraps) :
    addressed can r.transfer r.len = 255 := by
  have hlen := r.payloadLen_eq
  rw [RequestValue.wraps_iff.mp h] at hlen
  obtain ⟨rest, hdrop⟩ : ∃ rest, r.transfer.payload.drop 2 = 255 :: rest := by
    have hpayload := r.drop_payload 0
    cases hv : r.value with
    | string bytes hb =>
      rw [hv] at h
      rw [hv, List.drop_zero, RequestValue.wire, show bytes.length = 255 from h] at hpayload
      exact ⟨_, hpayload⟩
    | _ => rw [hv] at h; exact h.elim
  have hhead : (List.take ((r.transfer.payloadLen - 2) % 2 ^ 8)
      (r.transfer.payload.drop 2)).head? ≠ some 67 := by
    rw [hdrop, List.head?_take]
    split
    · exact nofun
    · simp
  rw [len_of_wraps h, addressed]
  simp only [Nat.sub_zero, Nat.add_zero, configGetIdByName_of_head hhead,
    show r.transfer.payloadLen - 2 ≠ 0 by omega, ↓reduceIte, Option.getD_none]
  rfl

/-- The low 8 bits of the index, or the parameter with the first bytes of the name: as many as the
low 8 bits of its length say. -/
theorem addressed_request {r : GetSetRequest can} (h : ¬ r.value.Wraps) :
    addressed can r.transfer r.len =
      if r.name = [] then r.index % 2 ^ 8
      else (configGetIdByName (r.name.take (r.name.length % 2 ^ 8))).getD 65535 % 2 ^ 8 := by
  have hlen : r.transfer.payloadLen - 2 - r.len = r.name.length := by
    rw [r.payloadLen_eq, len_of_not_wraps h]
    omega
  have hdrop : r.transfer.payload.drop (2 + r.len) = r.name := by
    rw [r.drop_payload, len_of_not_wraps h, List.drop_left' rfl]
  have hindex : GetSet.index can r.transfer % 2 ^ 8 = r.index % 2 ^ 8 := by
    rw [GetSet.index, r.index_eq, Option.getD_some]
    exact Nat.mod_mod_of_dvd _ (by decide)
  unfold addressed
  simp only [hlen, hdrop, hindex, List.length_eq_zero_iff]

theorem addressed_of_addresses {r : GetSetRequest can} (h : ¬ r.value.Wraps) {param : ℕ}
    (hparam : param < configParamLast) (ha : r.Addresses param) :
    addressed can r.transfer r.len = param := by
  have hmod : param % 2 ^ 8 = param :=
    Nat.mod_eq_of_lt (by simp only [configParamLast] at hparam; omega)
  rw [addressed_request h]
  obtain hname | ⟨hname, hindex⟩ := ha
  · obtain ⟨hpos, hle⟩ := length_configParamName hparam
    rw [← hname] at hpos hle
    have hshort : r.name.length % 2 ^ 8 = r.name.length := Nat.mod_eq_of_lt (by omega)
    rw [if_neg (List.ne_nil_of_length_pos hpos), hshort, List.take_length, hname,
      configGetIdByName_configParamName hparam, Option.getD_some, hmod]
  · rw [if_pos hname, hindex, hmod]

/-! ## Set -/

theorem setSource_none {r : GetSetRequest can} (h : r.value.sent = none) :
    setSource can r.transfer r.strMem r.value.tag = none := by
  cases hv : r.value with
  | empty => rfl
  | boolean b => rfl
  | _ => rw [hv] at h; cases h

/-- The bytes of a value lie in front of the name. -/
theorem drop_valueOffset {r : GetSetRequest can} {bs : List UInt8} (hbs : r.value.sent = some bs) :
    r.transfer.payload.drop (valueOffset r.value.tag) = bs ++ r.name := by
  cases hv : r.value with
  | int64 v =>
    rw [hv] at hbs
    cases hbs
    exact (r.drop_payload 0).trans (by rw [hv]; rfl)
  | float32 bits =>
    rw [hv] at hbs
    cases hbs
    exact (r.drop_payload 0).trans (by rw [hv]; rfl)
  | string bytes _ =>
    rw [hv] at hbs
    cases hbs
    exact (r.drop_payload 1).trans (by rw [hv]; rfl)
  | _ => rw [hv] at hbs; cases hbs

/-- The size that `config_set` gets is the number of these bytes. -/
theorem setSource_size {r : GetSetRequest can} {bs : List UInt8} (hbs : r.value.sent = some bs) :
    ∃ src, setSource can r.transfer r.strMem r.value.tag = some (src, bs.length) := by
  cases hv : r.value with
  | int64 v =>
    rw [hv] at hbs
    cases hbs
    exact ⟨_, by rw [length_leBytes]; rfl⟩
  | float32 bits =>
    rw [hv] at hbs
    cases hbs
    exact ⟨_, by rw [length_leBytes]; rfl⟩
  | string bytes _ =>
    rw [hv] at hbs
    cases hbs
    exact ⟨_, by rw [← payloadHead_string r hv]; rfl⟩
  | _ => rw [hv] at hbs; cases hbs

/-- What `config_set` takes from a request with a value. -/
theorem setSource_some {r : GetSetRequest can} {bs : List UInt8} (hbs : r.value.sent = some bs) :
    ∃ m, setSource can r.transfer r.strMem r.value.tag = some (write m 0 bs, bs.length) := by
  have hlen := r.valueLen_request
  rw [unionTag_request] at hlen
  obtain ⟨src, hsrc⟩ := setSource_size hbs
  obtain ⟨m, hm, -⟩ := setSource_eq hlen r.len_le hsrc
  rw [drop_valueOffset hbs, List.take_left' rfl] at hm
  exact ⟨m, by rw [hsrc, hm]⟩

/-- What the set part leaves in the EEPROM. -/
theorem eeprom_setParam (reads : List ℕ) {param : ℕ} (hparam : param < configParamLast) (s : I2c) :
    (setParam can .works reads r.transfer r.value.tag param r.strMem s).eeprom =
      r.value.store s.eeprom param := by
  cases hsent : r.value.sent with
  | none =>
    rw [setParam, setSource_none hsent, RequestValue.store, hsent]
    split
    · rfl
    · exact eeprom_appConfigUpdate _ _ _
  | some bs =>
    obtain ⟨m, hsrc⟩ := setSource_some hsent
    have htag : r.value.tag ≠ 0 := by
      intro h0
      rw [h0] at hsrc
      cases hsrc
    rw [setParam_eq reads param s htag hsrc, eeprom_appConfigUpdate,
      (configSet_works hparam _ _ s).2, configSetBytes_write, RequestValue.store, hsent]

end GetSetRequest

namespace GetSet

/-! ## Requests on the bus -/

/-- The two bytes in front of a request in the UAVCAN wire format: the index has 13 bits, the tag
the 3 low bits of the second byte. -/
def requestHead (index tag : ℕ) : List UInt8 :=
  [UInt8.ofNat index, UInt8.ofNat (8 * (index / 256) + tag)]

theorem decode_requestHead {index tag : ℕ} (hindex : index < 2 ^ 13) (htag : tag < 8)
    (p : List UInt8) :
    Canard.uavcan.decodeScalar (requestHead index tag ++ p) 0 13 = some index ∧
      Canard.uavcan.decodeScalar (requestHead index tag ++ p) 13 3 = some tag := by
  have hlow : (UInt8.ofNat index).toNat = index % 256 := UInt8.toNat_ofNat'
  have hhigh : (UInt8.ofNat (8 * (index / 256) + tag)).toNat = 8 * (index / 256) + tag := by
    rw [UInt8.toNat_ofNat']
    omega
  constructor
  · show Canard.uavcan.decodeScalar (_ :: _ :: p) 0 13 = _
    rw [uavcan_decode_13, hlow, hhigh]
    congr 1
    omega
  · show Canard.uavcan.decodeScalar (_ :: _ :: p) 13 3 = _
    rw [uavcan_decode_3, hhigh]
    congr 1
    omega

/-- A request in the UAVCAN wire format. -/
def requestOf (index : ℕ) (hindex : index < 2 ^ 13) (value : RequestValue) (name : List UInt8)
    (hname : name.length ≤ 256) : GetSetRequest .uavcan where
  transfer :=
    { sourceNodeId := 5
      transferId := 0
      priority := 16
      payload := requestHead index value.tag ++ (value.wire ++ name)
      payload_len_lt := by
        have hhead : (requestHead index value.tag).length = 2 := rfl
        have := value.length_wire_le
        rw [List.length_append, List.length_append, hhead]
        omega
      beyond := fun _ => 0 }
  nameMem := fun _ => 0
  strMem := fun _ => 0
  head := requestHead index value.tag
  index := index
  value := value
  name := name
  length_head := rfl
  payload_eq := (List.append_assoc _ _ _).symm
  index_eq := (decode_requestHead hindex value.tag_lt _).1
  tag_eq := (decode_requestHead hindex value.tag_lt _).2

/-- One for the node id, by its index. -/
def nodeIdRequest (value : RequestValue) : GetSetRequest .uavcan :=
  requestOf 2 (by decide) value [] (by decide)

/-! ## Responses -/

/-- The first field of a response for a parameter that holds `bs`: zeros behind a number. -/
def valueField : ConfigParamType → List UInt8 → List UInt8
  | .int, bs => 1 :: (bs ++ List.replicate (8 - bs.length) 0)
  | .float32, bs => 2 :: (bs ++ List.replicate (4 - bs.length) 0)
  | .string, bs => 4 :: UInt8.ofNat bs.length :: bs
  | .void, _ => []

/-- The response for a parameter that holds `bs`: its value, three empty unions and its name. -/
def valuePayload (param : ℕ) (bs : List UInt8) : List UInt8 :=
  valueField (configParam param).type bs ++ [0, 0, 0] ++ configParamName param

theorem type_ne_void {param : ℕ} (h : param < configParamLast) :
    (configParam param).type ≠ .void := by
  have hall : ∀ p < configParamLast, (configParam p).type ≠ .void := by decide
  exact hall param h

/-- A number has 4 bytes. -/
theorem size_of_number {param : ℕ} (h : param < configParamLast)
    (hty : (configParam param).type ≠ .string) : configGetParamSize param = 4 := by
  have hall : ∀ p < configParamLast, (configParam p).type ≠ .string → configGetParamSize p = 4 := by
    decide
  exact hall param h hty

/-- A number of at most `k` bytes in a field of `k`, behind its tag. -/
theorem write_number (b : UInt8) {k : ℕ} {bs : List UInt8} (hk : bs.length ≤ k) :
    write (put (fun _ => 0) 0 b) 1 bs =
        write (fun _ => 0) 0 (b :: (bs ++ List.replicate (k - bs.length) 0)) ∧
      (b :: (bs ++ List.replicate (k - bs.length) 0)).length = 1 + k := by
  constructor
  · rw [← List.cons_append, write_padded _ _ _ _ fun _ _ => rfl, write_cons]
  · rw [List.length_cons, List.length_append, List.length_replicate]
    omega

/-- The value of a parameter in the response buffer. -/
theorem valueResponse_works {param : ℕ} (h : param < configParamLast) (s : I2c) :
    let field := valueField (configParam param).type (configValue s.eeprom param)
    let r := valueResponse .works param (fun _ => 0) s
    r.buffer = write (fun _ => 0) 0 field ∧ r.size = field.length + 3 ∧
      r.i2c.eeprom = s.eeprom := by
  have htype : configGetParamType param = some (configParam param).type := by
    rw [configGetParamType, if_neg (Nat.not_le.mpr h)]
  have hget := fun base dst => configGet_works h base dst s
  have hle : (configValue s.eeprom param).length ≤ configGetParamSize param :=
    Records.length_get_le _ _
  generalize configValue s.eeprom param = bs at hget hle ⊢
  intro field r
  simp only [r, field]
  unfold valueResponse
  rw [htype]
  cases hty : (configParam param).type with
  | void => exact absurd hty (type_ne_void h)
  | int =>
    rw [size_of_number h (by rw [hty]; exact nofun)] at hle
    obtain ⟨hbuffer, hlen⟩ := write_number 1 (show bs.length ≤ 8 by omega)
    simp only [hget, valueField, hlen, hbuffer, I2c.eeprom_next, and_self]
  | float32 =>
    rw [size_of_number h (by rw [hty]; exact nofun)] at hle
    obtain ⟨hbuffer, hlen⟩ := write_number 2 hle
    simp only [hget, valueField, hlen, hbuffer, I2c.eeprom_next, and_self]
  | string =>
    have hsize := configGetParamSize_le param
    have hbyte : (UInt8.ofNat bs.length).toNat = bs.length :=
      UInt8.toNat_ofNat'.trans (Nat.mod_eq_of_lt (by omega))
    simp only [hget, valueField, I2c.eeprom_next, and_true]
    rw [put_write_of_lt _ _ (by decide), ← write_cons, ← write_cons]
    refine ⟨rfl, ?_⟩
    rw [show (1 : ℕ) = 0 + 1 from rfl, write_add _ _ _ _ (by simp)]
    simp only [List.getElem_cons_succ, List.getElem_cons_zero, hbyte, List.length_cons]
    omega

/-- Three empty fields and the name behind a value. -/
theorem nameResponse_works {r : Response} {field : List UInt8} (p : ℕ)
    (hbuffer : r.buffer = write (fun _ => 0) 0 field) (hsize : r.size = field.length + 3) :
    read (nameResponse p r).buffer 0 (nameResponse p r).size =
      field ++ [0, 0, 0] ++ configParamName p := by
  have hlen : (field ++ [0, 0, 0]).length = r.size := by rw [hsize, List.length_append]; rfl
  have hpad : write (fun _ => 0) 0 field = write (fun _ => 0) 0 (field ++ [0, 0, 0]) :=
    (write_padded _ 0 field 3 fun _ _ => rfl).symm
  have hjoin : (nameResponse p r).buffer =
      write (fun _ => 0) 0 (field ++ [0, 0, 0] ++ configParamName p ++ [0]) := by
    show write r.buffer r.size (configParamName p ++ [0]) = _
    have happend := write_append (fun _ => 0) 0 (field ++ [0, 0, 0]) (configParamName p ++ [0])
    rw [hlen, Nat.zero_add] at happend
    rw [hbuffer, hpad, ← happend, List.append_assoc (field ++ [0, 0, 0])]
  have hread := read_write_append (fun _ => 0) 0 (field ++ [0, 0, 0] ++ configParamName p) [0]
  rw [List.length_append, hlen] at hread
  rw [hjoin]
  exact hread

end GetSet

open GetSet

variable {can : Canard}

/-- A request for a parameter: its value goes into the store, and the response shows what the
parameter then holds. -/
theorem GetSetRequest.onParamGetSet_known {r : GetSetRequest can} (h : ¬ r.value.Wraps) {param : ℕ}
    (hparam : param < configParamLast) (ha : r.Addresses param) (reads : List ℕ) (s : I2c) :
    (r.handle .works reads s).response =
        some (r.transfer.respond
          (valuePayload param (configValue (r.value.store s.eeprom param) param))) ∧
      (r.handle .works reads s).i2c.eeprom = r.value.store s.eeprom param := by
  have hset := r.eeprom_setParam reads hparam s
  rw [GetSetRequest.handle, onParamGetSet_eq reads r.nameMem r.strMem s r.valueLen_request r.len_le]
  simp only [addressed_of_addresses h hparam ha, hparam, ↓reduceIte, unionTag_request]
  generalize setParam can .works reads r.transfer r.value.tag param r.strMem s = s' at hset ⊢
  obtain ⟨hbuffer, hsize, heeprom⟩ := valueResponse_works hparam s'
  rw [← hset]
  refine ⟨?_, heeprom⟩
  rw [nameResponse_works _ hbuffer hsize]
  rfl

/-- The transfer hands bytes for the parameter to `config_set`. -/
def SetsParam (can : Canard) (t : CanardRxTransfer) (param : ℕ) : Prop :=
  ∃ len, valueLen t (unionTag can t) = some len ∧ 2 + len ≤ t.payloadLen ∧
    addressed can t len = param ∧ unionTag can t ∈ [1, 2, 4]

/-- The set part touches the addressed parameter only, and that only with one of three tags. -/
theorem configValue_setParam {t : CanardRxTransfer} {tag q param : ℕ} (hq : q < configParamLast)
    (h : q = param → tag ∉ [1, 2, 4]) (reads : List ℕ) (strMem : Mem) (s : I2c) :
    configValue (setParam can .works reads t tag q strMem s).eeprom param =
      configValue s.eeprom param := by
  by_cases h0 : tag = 0
  · rw [setParam, if_pos h0]
  cases hsrc : setSource can t strMem tag with
  | none =>
    rw [setParam, if_neg h0, eeprom_appConfigUpdate]
    simp only [hsrc]
  | some source =>
    obtain ⟨src, size⟩ := source
    have htag : tag ∈ [1, 2, 4] := by
      unfold setSource at hsrc
      split at hsrc
      · decide
      · decide
      · decide
      · cases hsrc
    have hne : param ≠ q := fun heq => h heq.symm htag
    rw [setParam_eq reads q s h0 hsrc, eeprom_appConfigUpdate, configValue_configSet hq,
      Function.update_of_ne hne]

/-- Another transfer, whatever its payload is, leaves the value of the parameter. -/
theorem configValue_onParamGetSet {t : CanardRxTransfer} {param : ℕ}
    (h : ¬ SetsParam can t param) (reads : List ℕ) (nameMem strMem : Mem) (s : I2c) :
    configValue (onParamGetSet can .works reads nameMem strMem t s).i2c.eeprom param =
      configValue s.eeprom param := by
  by_cases h2 : t.payloadLen < 2
  · rw [onParamGetSet]
    simp only [h2, ↓reduceIte]
  cases hlen : valueLen t (unionTag can t) with
  | none =>
    rw [onParamGetSet]
    simp only [h2, hlen, ↓reduceIte]
  | some len =>
    by_cases hfit : 2 + len ≤ t.payloadLen
    · rw [onParamGetSet_eq reads nameMem strMem s hlen hfit]
      by_cases hknown : addressed can t len < configParamLast
      · simp only [hknown, ↓reduceIte]
        show configValue (valueResponse .works _ _ _).i2c.eeprom param = _
        rw [(valueResponse_works hknown _).2.2]
        exact configValue_setParam hknown (fun heq htag => h ⟨len, hlen, hfit, heq, htag⟩) _ _ _
      · simp only [hknown, ↓reduceIte]
    · rw [onParamGetSet]
      simp only [h2, hlen, ↓reduceIte, show (t.payloadLen : ℤ) - 2 - len < 0 by omega]

end HouseBus
