import HouseBus.Canard
import Mathlib.Tactic.IntervalCases

/-!
# Bit fields of libcanard

Messages pack fields of any width at any bit. `Canard.FieldLaws` is what the documentation of
libcanard says about them, beyond the byte aligned fields: `canardEncodeScalar` stores the low bits
of the value, `canardDecodeScalar` of the same bits returns them, and fields at other bits stay as
they are. The UAVCAN bit order has these laws (`uavcan_fieldLaws`).
-/

namespace HouseBus

open Bytes

/-- Fields of up to 64 bits in a buffer of `len` bytes. -/
structure Canard.FieldLaws (can : Canard) : Prop where
  encode_low : ∀ m o n v, 0 < n → n ≤ 64 →
    can.encodeScalar m o n (v % 2 ^ n) = can.encodeScalar m o n v
  decode_encode : ∀ m o n v len, 0 < n → n ≤ 64 → o + n ≤ 8 * len →
    can.decodeScalar (read (can.encodeScalar m o n v) 0 len) o n = some (v % 2 ^ n)
  decode_other : ∀ m o n v o' n' len, 0 < n' → o' + n' ≤ 8 * len →
    (o + n ≤ o' ∨ o' + n' ≤ o) →
      can.decodeScalar (read (can.encodeScalar m o n v) 0 len) o' n' =
        can.decodeScalar (read m 0 len) o' n'

/-! ## Saturation in the generated encoders -/

/-- `CANARD_INTERNAL_SATURATE` -/
def canardInternalSaturate (x max : ℤ) : ℤ :=
  if max < x then max else if max < -x then -max else x

/-- `CANARD_INTERNAL_SATURATE_UNSIGNED` -/
def canardInternalSaturateUnsigned (x max : ℕ) : ℕ := if max < x then max else x

/-- What `canardDecodeScalar` returns for a field of `length` bits: the bits there are. -/
def decodedBits (payload : List UInt8) (offset length : ℕ) : ℕ :=
  min length (8 * payload.length - offset)

/-! ## Messages of several fields -/

/-- A field of a message: the low `width` bits of `value` from bit `offset` on. -/
structure CanardField where
  offset : ℕ
  width : ℕ
  value : ℕ

/-- The field ends before the other one, or starts behind it. -/
def CanardField.Apart (f g : CanardField) : Prop :=
  f.offset + f.width ≤ g.offset ∨ g.offset + g.width ≤ f.offset

instance (f g : CanardField) : Decidable (f.Apart g) := inferInstanceAs (Decidable (_ ∨ _))

/-- The field, without the high bits of its value. -/
def CanardField.low (f : CanardField) : CanardField := { f with value := f.value % 2 ^ f.width }

/-- The field is in a buffer of `len` bytes. -/
def CanardField.Within (len : ℕ) (f : CanardField) : Prop :=
  0 < f.width ∧ f.width ≤ 64 ∧ f.offset + f.width ≤ 8 * len

instance (len : ℕ) (f : CanardField) : Decidable (f.Within len) :=
  inferInstanceAs (Decidable (_ ∧ _))

namespace Canard

variable {can : Canard}

/-- The fields one behind the other. -/
def encodeFields (can : Canard) (m : Mem) (fields : List CanardField) : Mem :=
  fields.foldl (fun m f => can.encodeScalar m f.offset f.width f.value) m

/-- A field apart from all of them stays. -/
theorem FieldLaws.decode_encodeFields_other (laws : can.FieldLaws) {len : ℕ} {g : CanardField}
    (hg : g.Within len) (m : Mem) {fields : List CanardField} (h : ∀ f ∈ fields, g.Apart f) :
    can.decodeScalar (read (can.encodeFields m fields) 0 len) g.offset g.width =
      can.decodeScalar (read m 0 len) g.offset g.width := by
  unfold encodeFields
  induction fields generalizing m with
  | nil => rfl
  | cons f fields ih =>
    obtain ⟨hf, hfields⟩ := List.forall_mem_cons.mp h
    rw [List.foldl_cons, ih _ hfields,
      laws.decode_other _ _ _ _ _ _ _ hg.1 hg.2.2 (Or.symm hf)]

/-- **Fields apart from each other read back** as their low bits. -/
theorem FieldLaws.decode_encodeFields (laws : can.FieldLaws) {len : ℕ} (m : Mem)
    {fields : List CanardField} (hwithin : ∀ f ∈ fields, f.Within len)
    (hapart : fields.Pairwise CanardField.Apart) :
    ∀ f ∈ fields, can.decodeScalar (read (can.encodeFields m fields) 0 len) f.offset f.width =
      some (f.value % 2 ^ f.width) := by
  induction fields generalizing m with
  | nil => exact fun f hf => absurd hf List.not_mem_nil
  | cons f fields ih =>
    obtain ⟨hf, hfields⟩ := List.forall_mem_cons.mp hwithin
    obtain ⟨hfapart, hrest⟩ := List.pairwise_cons.mp hapart
    intro g hg
    obtain rfl | hg := List.mem_cons.mp hg
    · have hother := laws.decode_encodeFields_other hf
        (can.encodeScalar m g.offset g.width g.value) hfapart
      exact hother.trans (laws.decode_encode _ _ _ _ _ hf.1 hf.2.1 hf.2.2)
    · exact ih _ hfields hrest g hg

/-- Only the low bits of the values count. -/
theorem FieldLaws.encodeFields_low (laws : can.FieldLaws) {len : ℕ} (m : Mem)
    {fields : List CanardField} (hwithin : ∀ f ∈ fields, f.Within len) :
    can.encodeFields m (fields.map CanardField.low) = can.encodeFields m fields := by
  unfold encodeFields
  induction fields generalizing m with
  | nil => rfl
  | cons f fields ih =>
    obtain ⟨hf, hfields⟩ := List.forall_mem_cons.mp hwithin
    rw [List.map_cons, List.foldl_cons, List.foldl_cons, ih _ hfields, CanardField.low,
      laws.encode_low _ _ _ _ hf.1 hf.2.1]

end Canard

/-! ## The UAVCAN bit order -/

theorem testBit_packByte_list : ∀ b0 b1 b2 b3 b4 b5 b6 b7 : Bool, ∀ b < 8,
    (packByte fun i => [b0, b1, b2, b3, b4, b5, b6, b7].getD i false).toNat.testBit (7 - b) =
      [b0, b1, b2, b3, b4, b5, b6, b7].getD b false := by
  decide +kernel

/-- The bits of a packed byte. -/
theorem testBit_packByte (f : ℕ → Bool) {b : ℕ} (hb : b < 8) :
    (packByte f).toNat.testBit (7 - b) = f b := by
  have hlist : ∀ i < 8, [f 0, f 1, f 2, f 3, f 4, f 5, f 6, f 7].getD i false = f i := by
    intro i hi
    interval_cases i <;> rfl
  rw [← packByte_congr hlist, testBit_packByte_list _ _ _ _ _ _ _ _ b hb, hlist b hb]

/-- A bit of the first `len` bytes. -/
theorem wireBit_read (m : Mem) {len j : ℕ} (h : j < 8 * len) :
    wireBit (read m 0 len) j = (m (j / 8)).toNat.testBit (7 - j % 8) := by
  have hlt : j / 8 < (read m 0 len).length := by
    rw [length_read]
    omega
  rw [wireBit, List.getD_eq_getElem _ _ hlt, getElem_read, Nat.zero_add]

/-- The bits behind a store: those of the field, and the others as they were. -/
theorem wireBit_wireStore (m : Mem) (o n v : ℕ) {len j : ℕ} (h : j < 8 * len) :
    wireBit (read (wireStore m o n v) 0 len) j =
      if o ≤ j ∧ j < o + n then fieldBit v n (j - o) else wireBit (read m 0 len) j := by
  have hj : 8 * (j / 8) + j % 8 = j := Nat.div_add_mod j 8
  rw [wireBit_read _ h, wireStore, testBit_packByte _ (Nat.mod_lt _ (by decide)), hj,
    wireBit_read m h]

/-- The value of a field depends on its bits only. -/
theorem wireValue_congr {p p' : List UInt8} {o n : ℕ}
    (h : ∀ j, o ≤ j → j < o + n → wireBit p j = wireBit p' j) :
    wireValue p o n = wireValue p' o n := by
  unfold wireValue
  congr 1
  apply List.map_congr_left
  intro g hg
  rw [List.mem_range] at hg
  refine packByte_congr fun b hb => ?_
  by_cases hpad : 8 - min 8 (n - 8 * g) ≤ b
  · dsimp only
    rw [h _ (by omega) (by omega)]
  · simp only [hpad, decide_false, Bool.false_and]

/-- The bits of a field, by those of its value. -/
theorem fieldBit_eq (v : ℕ) {n g b : ℕ} (hg : 8 * g < n) (hb : b < 8)
    (hpad : 8 - min 8 (n - 8 * g) ≤ b) :
    fieldBit v n (8 * g + (b - (8 - min 8 (n - 8 * g)))) = v.testBit (8 * g + (7 - b)) := by
  have hdiv : (8 * g + (b - (8 - min 8 (n - 8 * g)))) / 8 = g := by omega
  have hmod : (8 * g + (b - (8 - min 8 (n - 8 * g)))) % 8 = b - (8 - min 8 (n - 8 * g)) := by omega
  rw [fieldBit, hdiv, hmod]
  congr 1
  omega

/-- Byte `g` of a number of `n` bits, by its bits. -/
theorem byte_eq_packByte (v n g : ℕ) :
    UInt8.ofNat (v % 2 ^ n / 256 ^ g) =
      packByte fun b => decide (8 * g + (7 - b) < n) && v.testBit (8 * g + (7 - b)) := by
  have h256 : (256 : ℕ) ^ g = 2 ^ (8 * g) := by rw [Nat.pow_mul]
  have hmod : UInt8.ofNat (v % 2 ^ n / 256 ^ g) = UInt8.ofNat (v % 2 ^ n / 256 ^ g % 256) := by
    apply UInt8.toNat_inj.mp
    simp
  rw [hmod, ← packByte_testBit _ (Nat.mod_lt _ (by decide))]
  refine packByte_congr fun b hb => ?_
  have hlt : 7 - b < 8 := by omega
  rw [show (256 : ℕ) = 2 ^ 8 from rfl, Nat.testBit_mod_two_pow, ← show (256 : ℕ) = 2 ^ 8 from rfl,
    h256, Nat.testBit_div_two_pow, Nat.testBit_mod_two_pow, Nat.add_comm (7 - b)]
  simp only [hlt, decide_true, Bool.true_and]

/-- **A field reads back** as its low bits. -/
theorem wireValue_wireStore (m : Mem) (o v : ℕ) {n len : ℕ} (h : o + n ≤ 8 * len) :
    wireValue (read (wireStore m o n v) 0 len) o n = v % 2 ^ n := by
  have hbytes : (List.range ((n + 7) / 8)).map (wireByte (read (wireStore m o n v) 0 len) o n) =
      leBytes ((n + 7) / 8) (v % 2 ^ n) := by
    apply List.ext_getElem (by simp)
    intro g h1 h2
    have hg : 8 * g < n := by
      simp only [List.length_map, List.length_range] at h1
      omega
    rw [getElem_leBytes, List.getElem_map, List.getElem_range, byte_eq_packByte]
    refine packByte_congr fun b hb => ?_
    by_cases hpad : 8 - min 8 (n - 8 * g) ≤ b
    · have hbit : o + 8 * g + (b - (8 - min 8 (n - 8 * g))) - o =
          8 * g + (b - (8 - min 8 (n - 8 * g))) := by omega
      have hin : 8 * g + (7 - b) < n := by omega
      dsimp only
      rw [wireBit_wireStore _ _ _ _ (by omega), if_pos (by omega), hbit, fieldBit_eq v hg hb hpad]
      simp only [hpad, hin]
    · have hout : ¬ 8 * g + (7 - b) < n := by omega
      simp only [hpad, hout, decide_false, Bool.false_and]
  have hlt : v % 2 ^ n < 256 ^ ((n + 7) / 8) := by
    refine (Nat.mod_lt _ (Nat.two_pow_pos n)).trans_le ?_
    rw [show (256 : ℕ) = 2 ^ 8 from rfl, ← Nat.pow_mul]
    exact Nat.pow_le_pow_right (by decide) (by omega)
  rw [wireValue, hbytes, leNat_leBytes, Nat.mod_eq_of_lt hlt]

/-- The field has the low bits of the value only. -/
theorem wireStore_low (m : Mem) (o n v : ℕ) : wireStore m o n (v % 2 ^ n) = wireStore m o n v := by
  funext x
  refine packByte_congr fun b _ => ?_
  by_cases hin : o ≤ 8 * x + b ∧ 8 * x + b < o + n
  · have hlt : 8 * ((8 * x + b - o) / 8) + (min 8 (n - 8 * ((8 * x + b - o) / 8)) - 1 -
        (8 * x + b - o) % 8) < n := by omega
    rw [if_pos hin, if_pos hin, fieldBit, fieldBit, Nat.testBit_mod_two_pow]
    simp only [hlt, decide_true, Bool.true_and]
  · rw [if_neg hin, if_neg hin]

theorem Canard.uavcan_fieldLaws : Canard.uavcan.FieldLaws where
  encode_low m o n v _ _ := wireStore_low m o n v
  decode_encode m o n v len hn _ h := by
    rw [uavcan_decodeScalar hn (by rwa [length_read])]
    exact congrArg some (wireValue_wireStore m o v h)
  decode_other m o n v o' n' len hn h hother := by
    rw [uavcan_decodeScalar hn (by rwa [length_read]),
      uavcan_decodeScalar hn (by rwa [length_read])]
    refine congrArg some (wireValue_congr fun j hlow hlt => ?_)
    show wireBit (read (wireStore m o n v) 0 len) j = _
    rw [wireBit_wireStore _ _ _ _ (by omega), if_neg (by omega)]

end HouseBus
