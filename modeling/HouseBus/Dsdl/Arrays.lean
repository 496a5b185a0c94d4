import HouseBus.Dsdl

/-!
# Dynamic arrays at the end of a message

The encoder leaves the length of the array in a root item out, and the decoder first reads one: the
leading bits of the first item. If there are that many items behind them, it takes the shifted bits
for the array. So a message with items comes back exactly if its leading bits promise at least as
many items as there are, and one without items exactly if the caller's length is not zero
(`dsdl_roundTrip_iff`).
-/

namespace HouseBus

open Bytes

/-- The most significant bits of a byte come first. -/
structure Canard.MsbFirst (can : Canard) : Prop where
  leading : ∀ (p : List UInt8) (i n : ℕ) (h : i < p.length), 0 < n → n ≤ 8 →
    can.decodeScalar p (8 * i) n = some (p[i].toNat / 2 ^ (8 - n))

theorem packByte_leading : ∀ n ≤ 8, ∀ v < 256,
    packByte (fun b => decide (8 - n ≤ b) && v.testBit (7 - (b - (8 - n)))) =
      UInt8.ofNat (v / 2 ^ (8 - n)) := by
  decide +kernel

theorem Canard.uavcan_msbFirst : Canard.uavcan.MsbFirst where
  leading p i n h hpos hn := by
    have hbyte : wireByte p (8 * i) n 0 = UInt8.ofNat (p[i].toNat / 2 ^ (8 - n)) := by
      refine (packByte_congr fun b hb => ?_).trans (packByte_leading n hn _ p[i].toNat_lt)
      have hpad : 8 - min 8 (n - 8 * 0) = 8 - n := by omega
      dsimp only
      rw [hpad, Nat.mul_zero, Nat.add_zero, wireBit_aligned p i _ (by omega) h]
    have hlt : p[i].toNat / 2 ^ (8 - n) < 256 := (Nat.div_le_self _ _).trans_lt p[i].toNat_lt
    have hone : (n + 7) / 8 = 1 := by omega
    rw [uavcan_decodeScalar hpos (by omega), wireValue, hone]
    show some (leNat [wireByte p (8 * i) n 0]) = _
    rw [hbyte, leNat, leNat, Nat.mul_zero, Nat.add_zero, UInt8.toNat_ofNat', Nat.mod_eq_of_lt hlt]

/-! ## Scalars behind each other -/

theorem wireLength_append (xs ys : List DsdlScalar) :
    wireLength (xs ++ ys) = wireLength xs + wireLength ys := by
  rw [wireLength, List.map_append, List.sum_append]; rfl

theorem wireLength_replicate (n : ℕ) (f : DsdlScalar) :
    wireLength (List.replicate n f) = n * f.width := by
  rw [wireLength, List.map_replicate]
  exact List.sum_replicate_nat

theorem encodeScalars_append (can : Canard) (msgBuf : Mem) (offset : ℕ) (xs ys : List DsdlField) :
    encodeScalars can msgBuf offset (xs ++ ys) =
      encodeScalars can (encodeScalars can msgBuf offset xs).1
        (encodeScalars can msgBuf offset xs).2 ys := by
  induction xs generalizing msgBuf offset with
  | nil => rfl
  | cons f xs ih => exact ih _ _

theorem layout_append (offset : ℕ) (xs ys : List DsdlField) :
    layout offset (xs ++ ys) =
      layout offset xs ++ layout (offset + wireLength (xs.map DsdlField.scalar)) ys := by
  induction xs generalizing offset with
  | nil => rfl
  | cons f xs ih =>
    rw [List.cons_append, layout, ih, layout, List.map_cons, wireLength, wireLength, List.map_cons,
      List.sum_cons, Nat.add_assoc]
    rfl

/-! ## Messages with an array -/

/-- The scalars fill whole bytes, and so does an item, an unsigned one. -/
structure DsdlArray.Aligned (a : DsdlArray) (scalarBytes itemBytes : ℕ)
    (scalars : List DsdlScalar) : Prop where
  scalars_eq : wireLength scalars = 8 * scalarBytes
  width_eq : a.item.width = 8 * itemBytes
  cBits_eq : a.item.cBits = a.item.width
  length_pos : 0 < a.lengthWidth
  length_le : a.lengthWidth ≤ 8

/-- The length that the leading bits of the first item promise. -/
def DsdlArray.promised (a : DsdlArray) (items : List DsdlField) : ℕ :=
  ((items.head?.map DsdlField.value).map DsdlScalar.bits).getD 0 % 256 / 2 ^ (8 - a.lengthWidth)

namespace DsdlMessage

variable {can : Canard} {m : DsdlMessage} {a : DsdlArray} {scalarBytes itemBytes : ℕ}

/-- What the decoder finds in the bytes of a message. -/
structure ArrayPayload (can : Canard) (m : DsdlMessage) (a : DsdlArray)
    (scalarBytes itemBytes : ℕ) (source : DsdlRecord m) (p : List UInt8) : Prop where
  length : p.length = scalarBytes + itemBytes * source.items.length
  scalars : decodeScalars can p 0 m.scalars =
    some (source.fields.map DsdlField.saturated, 8 * scalarBytes)
  items : decodeScalars can p (8 * scalarBytes) (List.replicate source.items.length a.item) =
    some (source.items.map DsdlField.saturated, 8 * p.length)
  leading : source.items ≠ [] →
    can.decodeScalar p (8 * scalarBytes) a.lengthWidth = some (a.promised source.items)

theorem map_scalar_items (h : m.array = some a) (source : DsdlRecord m) :
    source.items.map DsdlField.scalar = List.replicate source.items.length a.item := by
  refine List.eq_replicate_iff.mpr ⟨List.length_map _, fun f hf => ?_⟩
  obtain ⟨g, hg, rfl⟩ := List.mem_map.mp hf
  have hitem := source.items_eq g hg
  rw [h] at hitem
  exact Option.some.inj hitem

theorem encode_of_array (h : m.array = some a)
    (haligned : a.Aligned scalarBytes itemBytes m.scalars) (source : DsdlRecord m) (msgBuf : Mem) :
    m.encode can source msgBuf =
      ((encodeScalars can msgBuf 0 (source.fields ++ source.items)).1,
        scalarBytes + itemBytes * source.items.length) := by
  have hend : (encodeScalars can msgBuf 0 (source.fields ++ source.items)).2 =
      8 * (scalarBytes + itemBytes * source.items.length) := by
    rw [encodeScalars_eq, List.map_append, wireLength_append, map_scalar_items h, source.scalars_eq,
      wireLength_replicate, haligned.scalars_eq, haligned.width_eq]
    ring
  rw [encode, encodeInternal]
  simp only [h, if_true]
  rw [← encodeScalars_append, hend]
  congr 1
  omega

theorem arrayPayload (laws : can.FieldLaws) (msb : can.MsbFirst) (h : m.array = some a)
    (haligned : a.Aligned scalarBytes itemBytes m.scalars) (source : DsdlRecord m) (msgBuf : Mem) :
    ArrayPayload can m a scalarBytes itemBytes source (m.payload can source msgBuf) := by
  have hlength : (m.payload can source msgBuf).length =
      scalarBytes + itemBytes * source.items.length := by
    rw [payload, length_read, encode_of_array h haligned]
  have hscalars : wireLength (source.fields.map DsdlField.scalar) = 8 * scalarBytes := by
    rw [source.scalars_eq, haligned.scalars_eq]
  have hitems : wireLength (source.items.map DsdlField.scalar) =
      8 * (itemBytes * source.items.length) := by
    rw [map_scalar_items h, wireLength_replicate, haligned.width_eq]
    ring
  -- All fields, the scalars and the items, read back.
  have hread : ∀ g ∈ layout 0 source.fields ++ layout (8 * scalarBytes) source.items,
      can.decodeScalar (m.payload can source msgBuf) g.offset g.width =
        some (g.value % 2 ^ g.width) := by
    have happend := layout_append 0 source.fields source.items
    rw [hscalars, Nat.zero_add] at happend
    rw [← happend, payload, encode_of_array h haligned, encodeScalars_eq]
    refine laws.decode_encodeFields msgBuf (layout_within ?_) (layout_apart 0 _)
    rw [List.map_append, wireLength_append, hscalars, hitems]
    omega
  refine ⟨hlength, ?_, ?_, fun hne => ?_⟩
  · rw [← source.scalars_eq, decodeScalars_of_fields (by rw [hscalars, hlength]; omega)
      fun g hg => hread g (List.mem_append_left _ hg), hscalars, Nat.zero_add]
  · rw [← map_scalar_items h, decodeScalars_of_fields (by rw [hitems, hlength]; omega)
      fun g hg => hread g (List.mem_append_right _ hg), hitems, hlength, Nat.mul_add]
  · obtain ⟨v, rest, hcons⟩ := List.exists_cons_of_ne_nil hne
    have hv : v.scalar = a.item := by
      have := map_scalar_items h source
      rw [hcons, List.map_cons, List.length_cons, List.replicate_succ] at this
      exact (List.cons.inj this).1
    have hwidth := haligned.width_eq
    have hpos := a.item.width_pos
    have hle := a.item.width_le_64
    have hinside : scalarBytes + itemBytes ≤ (m.payload can source msgBuf).length := by
      rw [hlength, hcons, List.length_cons, Nat.mul_succ]
      omega
    have hfirst := hread ⟨8 * scalarBytes, v.scalar.width, DsdlScalar.bits v.saturated⟩
      (List.mem_append_right _ (by rw [hcons]; exact List.mem_cons_self))
    have hsaturated : v.saturated = v.value := by
      rw [DsdlField.saturated, hv, DsdlScalar.saturate, if_neg]
      rw [haligned.cBits_eq]
      exact Nat.lt_irrefl _
    dsimp only at hfirst
    rw [hsaturated, hv, hwidth, can.decode_bytes _ _ _ (by omega) (by omega) hinside] at hfirst
    have hlt : scalarBytes < (m.payload can source msgBuf).length := by omega
    have hbyte : (m.payload can source msgBuf)[scalarBytes].toNat =
        DsdlScalar.bits v.value % 256 := by
      have hvalue := Option.some.inj hfirst
      obtain ⟨k, rfl⟩ : ∃ k, itemBytes = k + 1 := ⟨itemBytes - 1, by omega⟩
      rw [List.drop_eq_getElem_cons hlt, List.take_succ_cons, leNat] at hvalue
      have hmod : DsdlScalar.bits v.value % 2 ^ (8 * (k + 1)) % 256 =
          DsdlScalar.bits v.value % 256 :=
        Nat.mod_mod_of_dvd _ ⟨2 ^ (8 * k), by rw [Nat.mul_succ, pow_add]; ring⟩
      rw [← hmod, ← hvalue, Nat.add_mul_mod_self_left, Nat.mod_eq_of_lt (UInt8.toNat_lt _)]
    rw [msb.leading _ _ _ hlt haligned.length_pos haligned.length_le, hbyte, DsdlArray.promised,
      hcons]
    rfl

/-- Items that the decoder finds from `offset` on. -/
theorem decodeItems_eq_none_iff (can : Canard) {p : List UInt8} {offset : ℕ}
    (h : offset ≤ 8 * p.length) (a : DsdlArray) (scalars : List ℤ) (len : ℕ) :
    decodeItems can p true a scalars len offset = none ↔
      8 * p.length < offset + len * a.item.width := by
  rw [← not_iff_not, decodeItems, if_pos rfl, Option.map_eq_none_iff, ← Ne.eq_1,
    ← Option.isSome_iff_ne_none, decodeScalars_isSome_iff can h, wireLength_replicate, Nat.not_lt]

theorem decodeItems_len {p : List UInt8} {offset len : ℕ} {scalars : List ℤ} {d : DsdlDecoded}
    (h : decodeItems can p true a scalars len offset = some d) : d.len = len := by
  obtain ⟨items, -, rfl⟩ := Option.map_eq_some_iff.mp h
  rfl

/-- The first attempt takes the leading bits of the first item for the length of the array. It
fails if there are less items than they promise, and else it finds less than there are. -/
theorem ArrayPayload.without_tao {source : DsdlRecord m} {p : List UInt8}
    (hp : ArrayPayload can m a scalarBytes itemBytes source p) (h : m.array = some a)
    (haligned : a.Aligned scalarBytes itemBytes m.scalars) (payloadLen : ℕ) :
    m.decodeInternal can p payloadLen true false = none ∧
        source.items.length ≤ a.promised source.items ∨
      m.decodeInternal can p payloadLen true false = none ∧ source.items = [] ∨
      (∃ d, m.decodeInternal can p payloadLen true false = some d ∧ d ≠ source.saturated) ∧
        a.promised source.items < source.items.length := by
  have hlength := hp.length
  have hlow := haligned.length_pos
  have hhigh := haligned.length_le
  have hitem : 8 ≤ 8 * itemBytes := by
    have := a.item.width_pos
    rw [haligned.width_eq] at this
    omega
  rw [decodeInternal]
  simp only [hp.scalars, h, Bool.false_eq_true, and_false, if_false]
  by_cases hempty : source.items = []
  · refine .inr (.inl ⟨if_neg ?_, hempty⟩)
    rw [hempty, List.length_nil, Nat.mul_zero] at hlength
    rw [decodedBits]
    omega
  · obtain ⟨n, hn⟩ : ∃ n, source.items.length = n + 1 :=
      Nat.exists_eq_succ_of_ne_zero (by rwa [Ne, List.length_eq_zero_iff])
    have hbits : decodedBits p (8 * scalarBytes) a.lengthWidth = a.lengthWidth := by
      rw [hn, Nat.mul_succ] at hlength
      rw [decodedBits]
      omega
    rw [if_pos hbits, hp.leading hempty, Option.getD_some]
    have hfront : 8 * scalarBytes + a.lengthWidth ≤ 8 * p.length := by
      rw [hlength, hn, Nat.mul_succ]
      omega
    have hnone := decodeItems_eq_none_iff can hfront a (source.fields.map DsdlField.saturated)
      (a.promised source.items)
    -- The length in front leaves no room for as many items as there are.
    have hroom : 8 * p.length < 8 * scalarBytes + a.lengthWidth +
        a.promised source.items * a.item.width ↔
          source.items.length ≤ a.promised source.items := by
      rw [haligned.width_eq, hlength]
      constructor
      · intro hlt
        by_contra hless
        have hmul := Nat.mul_le_mul_right (8 * itemBytes) (Nat.succ_le_of_lt (Nat.not_le.mp hless))
        rw [Nat.succ_mul] at hmul
        have hcomm : source.items.length * (8 * itemBytes) =
            8 * (itemBytes * source.items.length) := by ring
        omega
      · intro hle
        have hmul := Nat.mul_le_mul_right (8 * itemBytes) hle
        have hcomm : source.items.length * (8 * itemBytes) =
            8 * (itemBytes * source.items.length) := by ring
        omega
    rw [hroom] at hnone
    by_cases hless : source.items.length ≤ a.promised source.items
    · exact .inl ⟨hnone.mpr hless, hless⟩
    · obtain ⟨d, hd⟩ := Option.ne_none_iff_exists'.mp fun hnone' => hless (hnone.mp hnone')
      refine .inr (.inr ⟨⟨d, hd, ?_⟩, Nat.not_le.mp hless⟩)
      rintro rfl
      have hlen : source.items.length = a.promised source.items := decodeItems_len hd
      omega

/-- The second attempt takes the rest of the message for the items. -/
theorem ArrayPayload.with_tao {source : DsdlRecord m} {p : List UInt8}
    (hp : ArrayPayload can m a scalarBytes itemBytes source p) (h : m.array = some a)
    (haligned : a.Aligned scalarBytes itemBytes m.scalars) (hne : p.length ≠ 0) :
    m.decodeInternal can p p.length true true = some source.saturated := by
  have hpos : (0 : ℤ) < a.item.width := by exact_mod_cast a.item.width_pos
  have hrest : ((p.length * 8 : ℕ) - (8 * scalarBytes : ℕ) : ℤ) =
      (source.items.length : ℤ) * a.item.width := by
    rw [haligned.width_eq, hp.length]
    push_cast
    ring
  have hlen : (((p.length * 8 : ℕ) - (8 * scalarBytes : ℕ) : ℤ).tdiv a.item.width % 256).toNat =
      source.items.length := by
    have := source.items_lt
    rw [hrest, Int.mul_tdiv_cancel _ hpos.ne']
    omega
  rw [decodeInternal]
  simp only [hp.scalars, h, and_true]
  rw [if_pos hne, hlen, decodeItems, if_pos rfl, hp.items]
  rfl

/-- **Messages with an array** come back exactly if the leading bits of the first item promise at
least as many items as there are, and without items if there are other scalars. -/
theorem decode_payload_array (laws : can.FieldLaws) (msb : can.MsbFirst) (h : m.array = some a)
    (haligned : a.Aligned scalarBytes itemBytes m.scalars) (source : DsdlRecord m) (msgBuf : Mem) :
    m.decode can (m.payload can source msgBuf) (m.payload can source msgBuf).length true =
        some source.saturated ↔
      if source.items = [] then scalarBytes ≠ 0
      else source.items.length ≤ a.promised source.items := by
  have hp := arrayPayload laws msb h haligned source msgBuf
  have hlength := hp.length
  have hitem : 0 < itemBytes := by
    have := a.item.width_pos
    rw [haligned.width_eq] at this
    omega
  rw [decode]
  by_cases hempty : source.items = []
  · have hnone : m.decodeInternal can (m.payload can source msgBuf)
        (m.payload can source msgBuf).length true false = none := by
      obtain ⟨hnone, -⟩ | ⟨hnone, -⟩ | ⟨-, hless⟩ := hp.without_tao h haligned _
      · exact hnone
      · exact hnone
      · rw [hempty] at hless
        exact absurd hless (Nat.not_lt_zero _)
    rw [if_pos hempty, hnone]
    dsimp only
    rw [hempty, List.length_nil, Nat.mul_zero, Nat.add_zero] at hlength
    by_cases hbytes : scalarBytes = 0
    · -- An empty payload has no length, so that the second attempt repeats the first one.
      have hagain : m.decodeInternal can (m.payload can source msgBuf)
          (m.payload can source msgBuf).length true true =
            m.decodeInternal can (m.payload can source msgBuf)
              (m.payload can source msgBuf).length true false := by
        rw [decodeInternal, decodeInternal, hlength, hbytes]
        simp only [ne_eq, not_true_eq_false, false_and]
      rw [hagain, hnone]
      exact iff_of_false (by simp) (not_not_intro hbytes)
    · exact iff_of_true (hp.with_tao h haligned (by omega)) hbytes
  · rw [if_neg hempty]
    have hne : (m.payload can source msgBuf).length ≠ 0 := by
      have hpos : 0 < source.items.length := List.length_pos_iff.mpr hempty
      have := Nat.mul_pos hitem hpos
      omega
    obtain ⟨hnone, hle⟩ | ⟨-, habsurd⟩ | ⟨⟨d, hd, hother⟩, hless⟩ := hp.without_tao h haligned
      (m.payload can source msgBuf).length
    · rw [hnone]
      exact iff_of_true (hp.with_tao h haligned hne) hle
    · exact absurd habsurd hempty
    · rw [hd]
      exact iff_of_false (fun heq => hother (Option.some.inj heq)) (by omega)

end DsdlMessage

/-! ## The twelve message types -/

namespace Homeautomation

/-- The message types of `sw/dsdl/homeautomation`. -/
def messages : List DsdlMessage :=
  [environment, conductionSensor, waterRefillStatus, eventCount, meter, obis, time,
    greywaterPumpStatus, heaterStatus, bathroomStatus, boilerStatus, motion]

theorem conductionSensor_aligned :
    (DsdlArray.mk .uint8 3).Aligned 1 1 conductionSensor.scalars :=
  ⟨by decide, rfl, rfl, by decide, by decide⟩

theorem eventCount_aligned : (DsdlArray.mk .uint32 3).Aligned 0 4 eventCount.scalars :=
  ⟨rfl, rfl, rfl, by decide, by decide⟩

/-- A message type has no array, or an aligned one of 3 length bits behind its scalars. -/
theorem array_cases {m : DsdlMessage} (h : m ∈ messages) :
    m.array = none ∨ ∃ a scalarBytes itemBytes, m.array = some a ∧ a.lengthWidth = 3 ∧
      a.Aligned scalarBytes itemBytes m.scalars ∧ (scalarBytes ≠ 0 ↔ m.scalars ≠ []) := by
  simp only [messages, List.mem_cons, List.not_mem_nil, or_false] at h
  obtain rfl | rfl | rfl | rfl | rfl | rfl | rfl | rfl | rfl | rfl | rfl | rfl := h
  case inr.inl =>
    exact .inr ⟨_, _, _, rfl, rfl, conductionSensor_aligned, by simp [conductionSensor]⟩
  case inr.inr.inr.inl =>
    exact .inr ⟨_, _, _, rfl, rfl, eventCount_aligned, by simp [eventCount]⟩
  all_goals exact .inl rfl

/-- **What a message brings to its receivers.** A record of any of the twelve types is decoded as
its saturated values exactly if the type has no array, the array is empty behind other scalars, or
the three leading bits of its first item are a number at least as large as that of the items. -/
theorem dsdl_roundTrip_iff {can : Canard} (laws : can.FieldLaws) (msb : can.MsbFirst)
    {m : DsdlMessage} (h : m ∈ messages) (source : DsdlRecord m) (msgBuf : Mem) :
    m.decode can (m.payload can source msgBuf) (m.payload can source msgBuf).length true =
        some source.saturated ↔
      m.array = none ∨ (source.items = [] ∧ m.scalars ≠ []) ∨
        ∃ first rest, source.items = first :: rest ∧
          source.items.length ≤ DsdlScalar.bits first.value % 256 / 32 := by
  obtain hnone | ⟨a, scalarBytes, itemBytes, harray, hwidth, haligned, hbytes⟩ := array_cases h
  · exact iff_of_true ((m.decode_payload laws hnone _ _).1 source msgBuf) (.inl hnone)
  · rw [DsdlMessage.decode_payload_array laws msb harray haligned]
    have hsome : m.array ≠ none := by
      rw [harray]
      nofun
    simp only [hsome, false_or]
    cases hitems : source.items with
    | nil => simpa using hbytes
    | cons first rest =>
      rw [if_neg (List.cons_ne_nil _ _), DsdlArray.promised, hwidth]
      simp

theorem dsdl_roundTrip_iff_count :
    ∃ source : DsdlRecord eventCount, source.items.length = 1 ∧ ∀ msgBuf,
      eventCount.decode Canard.uavcan (eventCount.payload Canard.uavcan source msgBuf)
        (eventCount.payload Canard.uavcan source msgBuf).length true = some source.saturated :=
  let source : DsdlRecord eventCount :=
    ⟨[], [⟨.uint32, 33, by decide⟩], rfl, by simp [eventCount], by decide⟩
  ⟨source, rfl, fun msgBuf =>
    (dsdl_roundTrip_iff Canard.uavcan_fieldLaws Canard.uavcan_msbFirst (by simp [messages]) source
      msgBuf).mpr (.inr (.inr ⟨_, _, rfl, by decide⟩))⟩

end Homeautomation

end HouseBus
