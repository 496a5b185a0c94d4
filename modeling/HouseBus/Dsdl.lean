import HouseBus.Canard.Fields

/-!
# The generated message codecs (`sw/dsdl/homeautomation`)

The twelve codecs are generated from one pattern: a message has scalars one behind the other and may
end with a dynamic array. A codec is this pattern (`encodeInternal`, `decodeInternal`, `decode`) for
the scalars and the array of its message.

- **Scalars read back saturated** (`decodeScalars_encodeScalars`), and a payload is accepted exactly
  if it has their bits (`decodeScalars_isSome_iff`).
- A dynamic array is sent without its length, and `decode` first reads a length: see
  `HouseBus.Dsdl.Arrays`.
-/

namespace HouseBus

open Bytes

/-! ## Scalars -/

/-- A scalar of a message: `width` bits on the wire, `cBits` bits in the record. -/
structure DsdlScalar where
  width : ℕ
  cBits : ℕ
  signed : Bool
  width_pos : 0 < width
  width_le : width ≤ cBits
  cBits_le : cBits ≤ 64

namespace DsdlScalar

/-- `uint8`, `uint16`, `uint32` and `uint64` -/
def uint8 : DsdlScalar := ⟨8, 8, false, by decide, by decide, by decide⟩
def uint16 : DsdlScalar := ⟨16, 16, false, by decide, by decide, by decide⟩
def uint32 : DsdlScalar := ⟨32, 32, false, by decide, by decide, by decide⟩
def uint64 : DsdlScalar := ⟨64, 64, false, by decide, by decide, by decide⟩

/-- `int64` -/
def int64 : DsdlScalar := ⟨64, 64, true, by decide, by decide, by decide⟩

/-- `bool`: 0 or 1 in the record, so that the saturation to 1 changes nothing. -/
def bool : DsdlScalar := ⟨1, 1, false, by decide, by decide, by decide⟩

/-- `uint3` and `uint56` -/
def uint3 : DsdlScalar := ⟨3, 8, false, by decide, by decide, by decide⟩
def uint56 : DsdlScalar := ⟨56, 64, false, by decide, by decide, by decide⟩

/-- `uint17` and `uint18` in 32 bits -/
def uint17 : DsdlScalar := ⟨17, 32, false, by decide, by decide, by decide⟩
def uint18 : DsdlScalar := ⟨18, 32, false, by decide, by decide, by decide⟩

/-- `int15` in 16 bits, `int19` in 32 bits -/
def int15 : DsdlScalar := ⟨15, 16, true, by decide, by decide, by decide⟩
def int19 : DsdlScalar := ⟨19, 32, true, by decide, by decide, by decide⟩

variable (f : DsdlScalar)

/-- The number is one of the C type in the record. -/
def InType (v : ℤ) : Prop :=
  if f.signed then -2 ^ (f.cBits - 1) ≤ v ∧ v < 2 ^ (f.cBits - 1) else 0 ≤ v ∧ v < 2 ^ f.cBits

instance (v : ℤ) : Decidable (f.InType v) := by
  unfold InType
  infer_instance

/-- The saturation before `canardEncodeScalar`; a scalar as wide as its C type has none. The macro
negates with 32 bits, so that C does not define it for -2^31; here it is -max as next to it. -/
def saturate (v : ℤ) : ℤ :=
  if f.width < f.cBits then
    if f.signed then canardInternalSaturate v (2 ^ (f.width - 1) - 1)
    else canardInternalSaturateUnsigned v.toNat (2 ^ f.width - 1)
  else v

/-- The bits of a number, as `canardEncodeScalar` reads them. -/
def bits (v : ℤ) : ℕ := (v % 2 ^ 64).toNat

/-- The number that `canardDecodeScalar` makes of the bits. -/
def ofBits (n : ℕ) : ℤ := if f.signed then Int.bmod n (2 ^ f.width) else n

end DsdlScalar

/-- A scalar with its value in the record. -/
structure DsdlField where
  scalar : DsdlScalar
  value : ℤ
  inType : scalar.InType value

namespace DsdlField

/-- The value that the encoder leaves in the record. -/
def saturated (f : DsdlField) : ℤ := f.scalar.saturate f.value

end DsdlField

namespace DsdlScalar

variable {f : DsdlScalar} {v : ℤ}

theorem width_le_64 (f : DsdlScalar) : f.width ≤ 64 := f.width_le.trans f.cBits_le

/-- The number has `width` bits. -/
def HasWidth (f : DsdlScalar) (v : ℤ) : Prop :=
  if f.signed then -2 ^ (f.width - 1) ≤ v ∧ v < 2 ^ (f.width - 1) else 0 ≤ v ∧ v < 2 ^ f.width

/-- A saturated number. -/
theorem hasWidth_saturate (h : f.InType v) : f.HasWidth (f.saturate v) := by
  have hpow : (0 : ℤ) < 2 ^ (f.width - 1) := pow_pos (by decide) _
  have hpow' : (0 : ℤ) < 2 ^ f.width := pow_pos (by decide) _
  unfold InType at h
  unfold HasWidth saturate
  by_cases hnarrow : f.width < f.cBits
  · rw [if_pos hnarrow]
    split
    · unfold canardInternalSaturate
      split_ifs <;> omega
    · rename_i hunsigned
      rw [if_neg hunsigned] at h
      have hnat : (2 : ℤ) ^ f.width = ((2 ^ f.width : ℕ) : ℤ) := by push_cast; rfl
      unfold canardInternalSaturateUnsigned
      rw [hnat] at hpow' ⊢
      split_ifs <;> omega
  · have hwidth : f.cBits = f.width := by
      have := f.width_le
      omega
    rw [if_neg hnarrow, ← hwidth]
    exact h

/-- The low bits of a number. -/
theorem bits_mod_width (f : DsdlScalar) (v : ℤ) :
    ((bits v % 2 ^ f.width : ℕ) : ℤ) = v % 2 ^ f.width := by
  have hnonneg : 0 ≤ v % 2 ^ 64 := Int.emod_nonneg _ (by decide)
  have hdvd : (2 : ℤ) ^ f.width ∣ 2 ^ 64 := pow_dvd_pow 2 f.width_le_64
  rw [bits, Int.natCast_emod, Int.toNat_of_nonneg hnonneg]
  push_cast
  exact Int.emod_emod_of_dvd v hdvd

/-- The bits of a number that has `width` bits are its own. -/
theorem ofBits_bits (h : f.HasWidth v) : f.ofBits (bits v % 2 ^ f.width) = v := by
  have hdouble : (2 : ℤ) ^ f.width = 2 * 2 ^ (f.width - 1) := by
    rw [← pow_succ', Nat.sub_add_cancel f.width_pos]
  unfold HasWidth at h
  unfold ofBits
  rw [bits_mod_width]
  split
  · rename_i hsigned
    rw [if_pos hsigned] at h
    have hcast : (2 : ℤ) ^ f.width = ((2 ^ f.width : ℕ) : ℤ) := by push_cast; rfl
    rw [hcast, Int.emod_bmod]
    rw [hcast] at hdouble
    exact Int.bmod_eq_of_le (by omega) (by omega)
  · rename_i hunsigned
    rw [if_neg hunsigned] at h
    exact Int.emod_eq_of_lt h.1 h.2

end DsdlScalar

/-! ## The codec -/

/-- The part of an encoder for scalars: the buffer and the offset behind them. -/
def encodeScalars (can : Canard) (msgBuf : Mem) (offset : ℕ) : List DsdlField → Mem × ℕ
  | [] => (msgBuf, offset)
  | f :: fields =>
    encodeScalars can
      (can.encodeScalar msgBuf offset f.scalar.width (DsdlScalar.bits f.saturated))
      (offset + f.scalar.width) fields

/-- The part of a decoder for scalars: the values and the offset behind them, or `none` where a
scalar is not in the payload. -/
def decodeScalars (can : Canard) (payload : List UInt8) :
    ℕ → List DsdlScalar → Option (List ℤ × ℕ)
  | offset, [] => some ([], offset)
  | offset, f :: scalars =>
    if decodedBits payload offset f.width = f.width then
      (decodeScalars can payload (offset + f.width) scalars).map fun rest =>
        (f.ofBits ((can.decodeScalar payload offset f.width).getD 0) :: rest.1, rest.2)
    else none

/-! ## Scalars read back -/

/-- The fields of the scalars in the buffer. -/
def layout (offset : ℕ) : List DsdlField → List CanardField
  | [] => []
  | f :: fields =>
    ⟨offset, f.scalar.width, DsdlScalar.bits f.saturated⟩ :: layout (offset + f.scalar.width) fields

/-- The bits of the scalars. -/
def wireLength (scalars : List DsdlScalar) : ℕ := (scalars.map DsdlScalar.width).sum

theorem encodeScalars_eq (can : Canard) (msgBuf : Mem) (offset : ℕ) (fields : List DsdlField) :
    encodeScalars can msgBuf offset fields =
      (can.encodeFields msgBuf (layout offset fields),
        offset + wireLength (fields.map DsdlField.scalar)) := by
  induction fields generalizing msgBuf offset with
  | nil => rfl
  | cons f fields ih =>
    rw [encodeScalars, ih, List.map_cons, wireLength, wireLength, List.map_cons, List.sum_cons,
      ← Nat.add_assoc]
    rfl

theorem le_offset_of_mem_layout {offset : ℕ} {fields : List DsdlField} {g : CanardField}
    (h : g ∈ layout offset fields) :
    offset ≤ g.offset ∧
      g.offset + g.width ≤ offset + wireLength (fields.map DsdlField.scalar) := by
  induction fields generalizing offset with
  | nil => cases h
  | cons f fields ih =>
    rw [List.map_cons, wireLength, List.map_cons, List.sum_cons]
    obtain rfl | h := List.mem_cons.mp h
    · exact ⟨Nat.le_refl _, by dsimp only; omega⟩
    · obtain ⟨hlow, hhigh⟩ := ih h
      rw [wireLength] at hhigh
      omega

theorem layout_apart (offset : ℕ) (fields : List DsdlField) :
    (layout offset fields).Pairwise CanardField.Apart := by
  induction fields generalizing offset with
  | nil => exact List.Pairwise.nil
  | cons f fields ih =>
    refine List.pairwise_cons.mpr ⟨fun g hg => .inl ?_, ih _⟩
    exact (le_offset_of_mem_layout hg).1

theorem layout_within {offset len : ℕ} {fields : List DsdlField}
    (h : offset + wireLength (fields.map DsdlField.scalar) ≤ 8 * len) :
    ∀ g ∈ layout offset fields, g.Within len := by
  intro g hg
  have hhigh := (le_offset_of_mem_layout hg).2
  have hwidth : 0 < g.width ∧ g.width ≤ 64 := by
    clear h hhigh
    induction fields generalizing offset with
    | nil => cases hg
    | cons f fields ih =>
      obtain rfl | hg := List.mem_cons.mp hg
      · exact ⟨f.scalar.width_pos, f.scalar.width_le_64⟩
      · exact ih hg
  exact ⟨hwidth.1, hwidth.2, by omega⟩

/-- The decoder, where the payload has the fields. -/
theorem decodeScalars_of_fields {can : Canard} {payload : List UInt8} {offset : ℕ}
    {fields : List DsdlField}
    (hlen : offset + wireLength (fields.map DsdlField.scalar) ≤ 8 * payload.length)
    (h : ∀ g ∈ layout offset fields,
      can.decodeScalar payload g.offset g.width = some (g.value % 2 ^ g.width)) :
    decodeScalars can payload offset (fields.map DsdlField.scalar) =
      some (fields.map DsdlField.saturated,
        offset + wireLength (fields.map DsdlField.scalar)) := by
  induction fields generalizing offset with
  | nil => rfl
  | cons f fields ih =>
    rw [List.map_cons, wireLength, List.map_cons, List.sum_cons] at hlen
    obtain ⟨hf, hfields⟩ := List.forall_mem_cons.mp h
    have hall : decodedBits payload offset f.scalar.width = f.scalar.width := by
      rw [decodedBits]
      omega
    have hvalue := DsdlScalar.ofBits_bits (DsdlScalar.hasWidth_saturate f.inType)
    have hrest := @ih (offset + f.scalar.width) (by rw [wireLength]; omega) hfields
    rw [List.map_cons, decodeScalars, if_pos hall, hrest, hf, Option.getD_some]
    dsimp only [Option.map_some]
    rw [DsdlField.saturated, hvalue, List.map_cons, wireLength, wireLength, List.map_cons,
      List.sum_cons, Nat.add_assoc]
    rfl

/-- **Scalars read back** as their saturated values. -/
theorem decodeScalars_encodeScalars {can : Canard} (laws : can.FieldLaws) (msgBuf : Mem)
    {offset len : ℕ} {fields : List DsdlField}
    (h : offset + wireLength (fields.map DsdlField.scalar) ≤ 8 * len) :
    decodeScalars can (read (encodeScalars can msgBuf offset fields).1 0 len) offset
        (fields.map DsdlField.scalar) =
      some (fields.map DsdlField.saturated,
        offset + wireLength (fields.map DsdlField.scalar)) := by
  apply decodeScalars_of_fields
  · rwa [length_read]
  · rw [encodeScalars_eq]
    exact laws.decode_encodeFields msgBuf (layout_within h) (layout_apart offset fields)

/-- **What is accepted**: the payloads that have all bits. -/
theorem decodeScalars_isSome_iff (can : Canard) {payload : List UInt8} {offset : ℕ}
    (h : offset ≤ 8 * payload.length) (scalars : List DsdlScalar) :
    (decodeScalars can payload offset scalars).isSome ↔
      offset + wireLength scalars ≤ 8 * payload.length := by
  induction scalars generalizing offset with
  | nil => simpa [decodeScalars, wireLength] using h
  | cons f scalars ih =>
    rw [decodeScalars, wireLength, List.map_cons, List.sum_cons]
    split
    · rename_i hall
      rw [decodedBits] at hall
      rw [Option.isSome_map, ih (by omega), wireLength, Nat.add_assoc]
    · rename_i hpart
      rw [decodedBits] at hpart
      exact iff_of_false Bool.false_ne_true (by omega)

/-! ## Messages -/

/-- A dynamic array: its items, and the bits of its length. -/
structure DsdlArray where
  item : DsdlScalar
  lengthWidth : ℕ

/-- A message type: scalars, and a dynamic array behind them. -/
structure DsdlMessage where
  scalars : List DsdlScalar
  array : Option DsdlArray

/-- A record of the type; the number of items has 8 bits. -/
structure DsdlRecord (m : DsdlMessage) where
  fields : List DsdlField
  items : List DsdlField
  scalars_eq : fields.map DsdlField.scalar = m.scalars
  items_eq : ∀ f ∈ items, some f.scalar = m.array.map DsdlArray.item
  items_lt : items.length < 256

/-- What the decoder leaves in a record: the scalars, the length of the array and its items. -/
structure DsdlDecoded where
  scalars : List ℤ
  len : ℕ
  items : List ℤ
  deriving DecidableEq

/-- What a record holds behind the saturation. -/
def DsdlRecord.saturated {m : DsdlMessage} (r : DsdlRecord m) : DsdlDecoded :=
  ⟨r.fields.map DsdlField.saturated, r.items.length, r.items.map DsdlField.saturated⟩

namespace DsdlMessage

variable (can : Canard) (m : DsdlMessage)

/-- `_encode_internal`: the buffer and the offset behind the message. The length of an array is left
out in the root item. -/
def encodeInternal (source : DsdlRecord m) (msgBuf : Mem) (offset : ℕ) (rootItem : Bool) :
    Mem × ℕ :=
  let scalars := encodeScalars can msgBuf offset source.fields
  match m.array with
  | none => scalars
  | some a =>
    let length :=
      if rootItem then scalars
      else
        (can.encodeScalar scalars.1 scalars.2 a.lengthWidth source.items.length,
          scalars.2 + a.lengthWidth)
    encodeScalars can length.1 length.2 source.items

/-- `_encode`: the buffer, and the message length in bytes. -/
def encode (source : DsdlRecord m) (msgBuf : Mem) : Mem × ℕ :=
  let encoded := m.encodeInternal can source msgBuf 0 true
  (encoded.1, (encoded.2 + 7) / 8)

/-- The bytes of the message. -/
def payload (source : DsdlRecord m) (msgBuf : Mem) : List UInt8 :=
  read (m.encode can source msgBuf).1 0 (m.encode can source msgBuf).2

/-- The part of a decoder for the items of an array; without a buffer for them (`dynArrBuf`) they
are skipped. -/
def decodeItems (payload : List UInt8) (dynArrBuf : Bool) (a : DsdlArray) (scalars : List ℤ)
    (len offset : ℕ) : Option DsdlDecoded :=
  if dynArrBuf then
    (decodeScalars can payload offset (List.replicate len a.item)).map fun items =>
      ⟨scalars, len, items.1⟩
  else some ⟨scalars, len, []⟩

/-- `_decode_internal`, with `none` for a negative result. With `tao` the length of the array is
that of the payload, if the caller passes it. -/
def decodeInternal (payload : List UInt8) (payloadLen : ℕ) (dynArrBuf tao : Bool) :
    Option DsdlDecoded :=
  match decodeScalars can payload 0 m.scalars with
  | none => none
  | some (scalars, offset) =>
    match m.array with
    | none => some ⟨scalars, 0, []⟩
    | some a =>
      if payloadLen ≠ 0 ∧ tao then
        let len := (((payloadLen * 8 : ℕ) - offset : ℤ).tdiv a.item.width % 256).toNat
        decodeItems can payload dynArrBuf a scalars len offset
      else if decodedBits payload offset a.lengthWidth = a.lengthWidth then
        decodeItems can payload dynArrBuf a scalars
          ((can.decodeScalar payload offset a.lengthWidth).getD 0) (offset + a.lengthWidth)
      else none

/-- `_decode`: first without, then with tail array optimisation. -/
def decode (payload : List UInt8) (payloadLen : ℕ) (dynArrBuf : Bool) : Option DsdlDecoded :=
  match m.decodeInternal can payload payloadLen dynArrBuf false with
  | some decoded => some decoded
  | none => m.decodeInternal can payload payloadLen dynArrBuf true

end DsdlMessage

/-! ## The message types -/

namespace Homeautomation

open DsdlScalar

/-- `humidity_valid`, `pressure_valid`, `temperature`, `humidity`, `pressure` -/
def environment : DsdlMessage := ⟨[bool, bool, int19, uint17, uint18], none⟩

/-- `error`, `status[7]`; `quality` -/
def conductionSensor : DsdlMessage :=
  ⟨bool :: List.replicate 7 bool, some ⟨uint8, 3⟩⟩

/-- `state`, `stopped_for`, `running_for` -/
def waterRefillStatus : DsdlMessage := ⟨[uint8, uint32, uint16], none⟩

/-- `events` -/
def eventCount : DsdlMessage := ⟨[], some ⟨uint32, 3⟩⟩

/-- `count` -/
def meter : DsdlMessage := ⟨[uint64], none⟩

/-- `code[3]`, `unit`, `value` -/
def obis : DsdlMessage := ⟨List.replicate 3 uint8 ++ [uint8, int64], none⟩

/-- `usec`, `daylight` -/
def time : DsdlMessage := ⟨[uint56, bool], none⟩

/-- `state` -/
def greywaterPumpStatus : DsdlMessage := ⟨[uint8], none⟩

/-- `temperature_outside`, `temperature_burner`, `temperature_flow`, `temperature_flow_target`,
`circulation`, `burner`, `burner_actually_firing` -/
def heaterStatus : DsdlMessage := ⟨List.replicate 4 int15 ++ [bool, bool, bool], none⟩

/-- `brightness`, `door_open`, `person_inside`, `private_mode`, `fan_running` -/
def bathroomStatus : DsdlMessage := ⟨[uint3, bool, bool, bool, bool], none⟩

/-- `duty_cycle`, `temperature`, `priority` -/
def boilerStatus : DsdlMessage := ⟨[uint8, int19, uint3], none⟩

/-- `triggered` -/
def motion : DsdlMessage := ⟨[bool], none⟩

end Homeautomation

/-! ## Messages without an array -/

namespace DsdlMessage

variable {can : Canard} {m : DsdlMessage}

theorem encode_of_scalars (h : m.array = none) (source : DsdlRecord m) (msgBuf : Mem) :
    m.encode can source msgBuf =
      ((encodeScalars can msgBuf 0 source.fields).1, (wireLength m.scalars + 7) / 8) := by
  have hlength : (encodeScalars can msgBuf 0 source.fields).2 = wireLength m.scalars := by
    rw [encodeScalars_eq, source.scalars_eq, Nat.zero_add]
  rw [encode, encodeInternal]
  simp only [h]
  rw [hlength]

theorem decode_of_scalars (h : m.array = none) (payload : List UInt8) (payloadLen : ℕ)
    (dynArrBuf : Bool) :
    m.decode can payload payloadLen dynArrBuf =
      (decodeScalars can payload 0 m.scalars).map fun scalars => ⟨scalars.1, 0, []⟩ := by
  have hattempt : ∀ tao, m.decodeInternal can payload payloadLen dynArrBuf tao =
      (decodeScalars can payload 0 m.scalars).map fun scalars => ⟨scalars.1, 0, []⟩ := by
    intro tao
    rw [decodeInternal]
    cases decodeScalars can payload 0 m.scalars with
    | none => rfl
    | some scalars => simp only [h, Option.map_some]
  rw [decode, hattempt, hattempt]
  cases decodeScalars can payload 0 m.scalars <;> rfl

/-- **Messages without an array** come back saturated, whatever the other arguments of the decoder
are, and the decoder accepts the payloads that are long enough. -/
theorem decode_payload (laws : can.FieldLaws) (h : m.array = none) (payloadLen : ℕ)
    (dynArrBuf : Bool) :
    (∀ (source : DsdlRecord m) (msgBuf : Mem),
      m.decode can (m.payload can source msgBuf) payloadLen dynArrBuf = some source.saturated) ∧
      ∀ payload, (m.decode can payload payloadLen dynArrBuf).isSome ↔
        (wireLength m.scalars + 7) / 8 ≤ payload.length := by
  constructor
  · intro source msgBuf
    have hitems : source.items = [] := by
      rw [List.eq_nil_iff_forall_not_mem]
      intro f hf
      have hitem := source.items_eq f hf
      rw [h] at hitem
      cases hitem
    have hfits : 0 + wireLength (source.fields.map DsdlField.scalar) ≤
        8 * ((wireLength m.scalars + 7) / 8) := by
      rw [source.scalars_eq]
      omega
    have hfields := decodeScalars_encodeScalars laws msgBuf hfits
    rw [source.scalars_eq] at hfields
    rw [decode_of_scalars h, payload, encode_of_scalars h, hfields, DsdlRecord.saturated, hitems]
    rfl
  · intro payload
    rw [decode_of_scalars h, Option.isSome_map, decodeScalars_isSome_iff can (Nat.zero_le _)]
    omega

end DsdlMessage

end HouseBus
