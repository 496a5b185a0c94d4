import HouseBus.Canard
import HouseBus.Config

/-!
# The GetSet service (`onParamGetSet` in `sw/node.c`)

A request is a 13-bit index, a 3-bit union tag, the value that the tag announces and, in the rest of
the payload, a name. The handler looks the parameter up, sets it if there is a value, and responds
with the value it then has, three empty unions and the name.

Next to its response the handler gives what it accessed (`GetSetAccess`): the indices it stored to
in its arrays `name[92]`, `str[128]` and `buffer`, the payload bytes it used, and the values it
handed to the store.
-/

namespace HouseBus

open Bytes

/-- `UAVCAN_PARAM_GETSET_RESPONSE_MAX_SIZE` -/
def uavcanParamGetSetResponseMaxSize : ℕ := (2967 + 7) / 8

/-- `sizeof name` -/
def getSetNameSize : ℕ := 92

/-- `sizeof str` -/
def getSetStrSize : ℕ := 128

/-- What the handler accessed. -/
structure GetSetAccess where
  name : List ℕ
  str : List ℕ
  buffer : List ℕ
  payload : List ℕ
  stored : List (List UInt8)

/-- The result of one request; there is no response to an invalid payload. -/
structure GetSetResult where
  response : Option CanardResponse
  i2c : I2c
  access : GetSetAccess

namespace GetSet

variable (can : Canard) (bus : Bus)

/-! ## The request -/

/-- `config_id` as it is decoded. The two bytes are there, so the variable is always set. -/
def index (t : CanardRxTransfer) : ℕ := (can.decodeScalar t.payload 0 13).getD 0 % 2 ^ 16

/-- `unionTag` -/
def unionTag (t : CanardRxTransfer) : ℕ := (can.decodeScalar t.payload 13 3).getD 0 % 2 ^ 8

/-- `value_len`, which has 8 bits; `none` for an invalid tag. -/
def valueLen (t : CanardRxTransfer) : (unionTag : ℕ) → Option ℕ
  | 0 => some 0
  | 1 => some 8
  | 2 => some 4
  | 3 => some 1
  | 4 => some (((t.payloadHead 2).toNat + 1) % 2 ^ 8)
  | _ => none

/-- The payload bytes that `value_len` is taken from. -/
def valueLenReads (unionTag : ℕ) : List ℕ := if unionTag = 4 then [2] else []

/-- `config_id` after the name, if there is one, was looked up; `nameMem` is what `name` held. The
parameter `len` of `payloadExtractArray` has 8 bits, and so has that of the look-up. -/
def configId (t : CanardRxTransfer) (valueLen nameLen : ℕ) (nameMem : Mem) : ℕ :=
  if nameLen = 0 then index can t
  else
    let name := can.payloadExtractArray t.payload (2 + valueLen) (nameLen % 2 ^ 8) nameMem 0
    (configGetIdByName (read name 0 (nameLen % 2 ^ 8))).getD 65535

/-- The indices of `name` that are stored to. -/
def nameStores (t : CanardRxTransfer) (valueLen nameLen : ℕ) : List ℕ :=
  can.extractStores t.payload (2 + valueLen) (nameLen % 2 ^ 8) 0

/-! ## Set -/

/-- The source of the `config_set` for a tag, with its size; `none` for tags without one. `strMem`
is what `str` held. -/
def setSource (t : CanardRxTransfer) (strMem : Mem) : (unionTag : ℕ) → Option (Mem × ℕ)
  | 1 =>
    let value := (can.decodeScalar t.payload 16 64).getD 0
    some (write (fun _ => 0) 0 (leBytes 8 value), 8)
  | 2 =>
    let value := (can.decodeScalar t.payload 16 32).getD 0
    some (write (fun _ => 0) 0 (leBytes 4 value), 4)
  | 4 =>
    let length := (t.payloadHead 2).toNat
    some (can.payloadExtractArray t.payload 3 length strMem 0, length)
  | _ => none

/-- The payload bytes of the value. -/
def setReads (t : CanardRxTransfer) : (unionTag : ℕ) → List ℕ
  | 1 => List.range' 2 8
  | 2 => List.range' 2 4
  | 4 => 2 :: List.range' 3 (t.payloadHead 2).toNat
  | _ => []

/-- The indices of `str` that are stored to. -/
def strStores (t : CanardRxTransfer) : (unionTag : ℕ) → List ℕ
  | 4 => can.extractStores t.payload 3 (t.payloadHead 2).toNat 0
  | _ => []

/-- `app_config_update` reads some parameters, which ones depends on the node. -/
def appConfigUpdate (reads : List ℕ) (s : I2c) : I2c :=
  reads.foldl (fun s param => (configGet bus param 0 (fun _ => 0) s).i2c) s

/-- The set part of the handler. -/
def setParam (reads : List ℕ) (t : CanardRxTransfer) (unionTag param : ℕ) (strMem : Mem)
    (s : I2c) : I2c :=
  if unionTag = 0 then s
  else
    let s :=
      match setSource can t strMem unionTag with
      | some (src, size) => (configSet bus param src size s).2
      | none => s
    appConfigUpdate bus reads s

/-- The values that are handed to the store. -/
def stored (t : CanardRxTransfer) (unionTag param : ℕ) (strMem : Mem) : List (List UInt8) :=
  match setSource can t strMem unionTag with
  | some (src, size) => [configSetBytes param src size]
  | none => []

/-! ## Response -/

/-- `buffer` with the value of the parameter, `response_size` and what was stored to. -/
structure Response where
  buffer : Mem
  size : ℕ
  stores : List ℕ
  i2c : I2c

/-- The first field of the response and the sizes of the empty ones. -/
def valueResponse (param : ℕ) (buffer : Mem) (s : I2c) : Response :=
  match configGetParamType param with
  | some .string =>
    let g := configGet bus param 2 (put buffer 0 4) s
    let buffer :=
      match g.valid with
      | some valid => put g.dst 1 (UInt8.ofNat valid)
      | none => g.dst
    ⟨buffer, 1 + 1 + (buffer 1).toNat + 3, 0 :: 1 :: g.stores, g.i2c⟩
  | some .int =>
    let g := configGet bus param 1 (put buffer 0 1) s
    ⟨g.dst, 1 + 8 + 3, 0 :: g.stores, g.i2c⟩
  | some .float32 =>
    let g := configGet bus param 1 (put buffer 0 2) s
    ⟨g.dst, 1 + 4 + 3, 0 :: g.stores, g.i2c⟩
  -- `util_assert(0)`, an empty macro: no parameter has this type.
  | _ => ⟨buffer, 0, [], s⟩

/-- `config_get_name` behind the value, with the terminating zero; no name has another zero. -/
def nameResponse (param : ℕ) (r : Response) : Response :=
  let name := configParamName param
  { r with
    buffer := write r.buffer r.size (name ++ [0])
    size := r.size + name.length
    stores := r.stores ++ List.range' r.size (name.length + 1) }

end GetSet

open GetSet

/-- `onParamGetSet`; `nameMem` and `strMem` are what the stack held at `name` and `str`. -/
def onParamGetSet (can : Canard) (bus : Bus) (reads : List ℕ) (nameMem strMem : Mem)
    (t : CanardRxTransfer) (s : I2c) : GetSetResult :=
  let memset := List.range uavcanParamGetSetResponseMaxSize
  let tag := unionTag can t
  if t.payloadLen < 2 then ⟨none, s, ⟨[], [], memset, [], []⟩⟩
  else
    match valueLen t tag with
    | none => ⟨none, s, ⟨[], [], memset, [0, 1], []⟩⟩
    | some valueLen =>
      let headReads := 0 :: 1 :: valueLenReads tag
      let nameLen : ℤ := t.payloadLen - 2 - valueLen
      if nameLen < 0 then ⟨none, s, ⟨[], [], memset, headReads, []⟩⟩
      else
        let nameLen := nameLen.toNat
        let names := nameStores can t valueLen nameLen
        let headReads := headReads ++ List.range' (2 + valueLen) (nameLen % 2 ^ 8)
        -- The 16-bit id is passed on as a `config_param_t`.
        let param := configId can t valueLen nameLen nameMem % 2 ^ 8
        if configGetParamSize param ≠ 0 then
          let s := setParam can bus reads t tag param strMem s
          let r := nameResponse param (valueResponse bus param (fun _ => 0) s)
          { response := some (t.respond (read r.buffer 0 r.size))
            i2c := r.i2c
            access :=
              ⟨names, strStores can t tag, memset ++ r.stores, headReads ++ setReads t tag,
                stored can t tag param strMem⟩ }
        else ⟨some (t.respond [0, 0, 0, 0]), s, ⟨names, [], memset, headReads, []⟩⟩

namespace GetSet

variable {can : Canard} {bus : Bus} {t : CanardRxTransfer}

/-! ## What a request says -/

/-- The parameter that a request names: by its index, or by the `nameLen % 256` first bytes behind
its value. -/
def addressed (can : Canard) (t : CanardRxTransfer) (valueLen : ℕ) : ℕ :=
  let nameLen := t.payloadLen - 2 - valueLen
  if nameLen = 0 then index can t % 2 ^ 8
  else
    (configGetIdByName ((t.payload.drop (2 + valueLen)).take (nameLen % 2 ^ 8))).getD 65535 % 2 ^ 8

/-- The name that is looked up is the part of the payload behind the value. -/
theorem configId_eq (len : ℕ) (nameMem : Mem) :
    configId can t len (t.payloadLen - 2 - len) nameMem % 2 ^ 8 = addressed can t len := by
  unfold configId addressed
  generalize hn : t.payloadLen - 2 - len = n
  have hlen : ((t.payload.drop (2 + len)).take (n % 2 ^ 8)).length = n % 2 ^ 8 := by
    simp only [CanardRxTransfer.payloadLen] at hn
    rw [List.length_take, List.length_drop]
    omega
  by_cases h0 : n = 0
  · simp [h0]
  · simp only [h0, ↓reduceIte, can.payloadExtractArray_eq]
    have hread := read_write nameMem 0 ((t.payload.drop (2 + len)).take (n % 2 ^ 8))
    rw [hlen] at hread
    rw [hread]

/-- Where the bytes of a value begin: a string has its length in front. -/
def valueOffset (unionTag : ℕ) : ℕ := if unionTag = 4 then 3 else 2

/-- The source of a `config_set` is a part of the payload. -/
theorem setSource_eq {len : ℕ} {strMem src : Mem} {tag size : ℕ}
    (hlen : valueLen t tag = some len) (h : 2 + len ≤ t.payloadLen)
    (hsrc : setSource can t strMem tag = some (src, size)) :
    ∃ m, src = write m 0 ((t.payload.drop (valueOffset tag)).take size) ∧
      (tag ≠ 4 → 2 + size ≤ t.payloadLen) ∧ (tag = 4 → size = (t.payloadHead 2).toNat) := by
  -- A scalar of `k` bytes at byte 2.
  have hscalar : ∀ k, 0 < k → k ≤ 8 → 2 + k ≤ t.payloadLen →
      leBytes k ((can.decodeScalar t.payload (8 * 2) (8 * k)).getD 0) =
        (t.payload.drop 2).take k := by
    intro k h0 h8 hk
    have hbytes : ((t.payload.drop 2).take k).length = k := by
      rw [List.length_take, List.length_drop]
      simp only [CanardRxTransfer.payloadLen] at hk
      omega
    have hle := leBytes_leNat ((t.payload.drop 2).take k)
    rw [hbytes] at hle
    rw [can.decode_bytes t.payload 2 k h0 h8 hk, Option.getD_some, hle]
  unfold setSource at hsrc
  split at hsrc
  · cases hsrc
    obtain rfl : 8 = len := by simpa [valueLen] using hlen
    refine ⟨fun _ => 0, ?_, fun _ => h, fun h4 => by cases h4⟩
    exact congrArg (write _ 0) (hscalar 8 (by decide) (by decide) h)
  · cases hsrc
    obtain rfl : 4 = len := by simpa [valueLen] using hlen
    refine ⟨fun _ => 0, ?_, fun _ => h, fun h4 => by cases h4⟩
    exact congrArg (write _ 0) (hscalar 4 (by decide) (by decide) h)
  · cases hsrc
    exact ⟨strMem, can.payloadExtractArray_eq _ _ _ _ _, fun h4 => absurd rfl h4, fun _ => rfl⟩
  · cases hsrc

theorem eeprom_appConfigUpdate (bus : Bus) (reads : List ℕ) (s : I2c) :
    (appConfigUpdate bus reads s).eeprom = s.eeprom := by
  unfold appConfigUpdate
  induction reads generalizing s with
  | nil => rfl
  | cons param reads ih => rw [List.foldl_cons, ih, eeprom_configGet]

theorem setParam_eq {tag size : ℕ} {strMem src : Mem} (reads : List ℕ) (param : ℕ) (s : I2c)
    (htag : tag ≠ 0) (hsrc : setSource can t strMem tag = some (src, size)) :
    setParam can bus reads t tag param strMem s =
      appConfigUpdate bus reads (configSet bus param src size s).2 := by
  rw [setParam, if_neg htag]
  simp only [hsrc]

/-- What the handler does with a request whose value is there. -/
theorem onParamGetSet_eq {len : ℕ} (reads : List ℕ) (nameMem strMem : Mem) (s : I2c)
    (hlen : valueLen t (unionTag can t) = some len) (h : 2 + len ≤ t.payloadLen) :
    onParamGetSet can bus reads nameMem strMem t s =
      let tag := unionTag can t
      let param := addressed can t len
      let nameLen := t.payloadLen - 2 - len
      let names := nameStores can t len nameLen
      let memset := List.range uavcanParamGetSetResponseMaxSize
      let headReads := (0 :: 1 :: valueLenReads tag) ++ List.range' (2 + len) (nameLen % 2 ^ 8)
      if param < configParamLast then
        let s := setParam can bus reads t tag param strMem s
        let r := nameResponse param (valueResponse bus param (fun _ => 0) s)
        { response := some (t.respond (read r.buffer 0 r.size))
          i2c := r.i2c
          access :=
            ⟨names, strStores can t tag, memset ++ r.stores, headReads ++ setReads t tag,
              stored can t tag param strMem⟩ }
      else ⟨some (t.respond [0, 0, 0, 0]), s, ⟨names, [], memset, headReads, []⟩⟩ := by
  have hneg : ¬ (t.payloadLen : ℤ) - 2 - len < 0 := by omega
  have hn : ((t.payloadLen : ℤ) - 2 - len).toNat = t.payloadLen - 2 - len := by omega
  unfold onParamGetSet
  simp only [show ¬ t.payloadLen < 2 by omega, hlen, hneg, hn, configId_eq,
    configGetParamSize_ne_zero, ↓reduceIte]

end GetSet

end HouseBus
