import HouseBus.Lib.Bytes

/-!
# libcanard as the firmware uses it

libcanard is a submodule. The model takes its scalar codec as a parameter (`Canard`) whose fields
are what its documentation says and the firmware relies on: byte aligned fields are little endian,
and a field past the end of the payload decodes to nothing, so the output variable keeps its value.

- `CanardRxTransfer`: a received transfer. `beyond` is the memory behind the payload, which a read
  through `payload_head` can reach.
- `payloadExtractArray`: the byte loop that four handlers share.
- `uavcan`: a codec with these laws (bit order of the UAVCAN wire format).
-/

namespace HouseBus

open Bytes

/-- `CanardRxTransfer`; `payload_len` has 16 bits. -/
structure CanardRxTransfer where
  sourceNodeId : UInt8
  transferId : UInt8
  priority : UInt8
  payload : List UInt8
  payload_len_lt : payload.length < 2 ^ 16
  beyond : ℕ → UInt8

namespace CanardRxTransfer

/-- `transfer->payload_len`. -/
def payloadLen (t : CanardRxTransfer) : ℕ := t.payload.length

/-- `transfer->payload_head[i]`. -/
def payloadHead (t : CanardRxTransfer) (i : ℕ) : UInt8 := t.payload.getD i (t.beyond i)

end CanardRxTransfer

/-- A response handed to `canardLockRequestOrRespond`: it goes back to the source of the transfer
with its transfer id and priority. -/
structure CanardResponse where
  destinationNodeId : UInt8
  transferId : UInt8
  priority : UInt8
  payload : List UInt8
  deriving DecidableEq

/-- The response `payload` to `t`. -/
def CanardRxTransfer.respond (t : CanardRxTransfer) (payload : List UInt8) : CanardResponse :=
  ⟨t.sourceNodeId, t.transferId, t.priority, payload⟩

/-- The scalar codec of libcanard. `decodeScalar p o n` is the value of the `n` bits of the payload
`p` from bit `o` on (`none`: no bit decoded, the output stays), `encodeScalar m o n v` the buffer
`m` with the low `n` bits of `v` from bit `o` on. -/
structure Canard where
  decodeScalar : List UInt8 → ℕ → ℕ → Option ℕ
  encodeScalar : Mem → ℕ → ℕ → ℕ → Mem
  decode_past : ∀ p o n, 8 * p.length ≤ o → decodeScalar p o n = none
  decode_within : ∀ p o n, 0 < n → o + n ≤ 8 * p.length → (decodeScalar p o n).isSome
  decode_bytes : ∀ p i k, 0 < k → k ≤ 8 → i + k ≤ p.length →
    decodeScalar p (8 * i) (8 * k) = some (leNat ((p.drop i).take k))
  encode_bytes : ∀ m i k v, k ≤ 8 → encodeScalar m (8 * i) (8 * k) v = write m i (leBytes k v)

namespace Canard

variable (can : Canard)

/-- One byte of the payload. -/
theorem decode_byte (p : List UInt8) (i : ℕ) (h : i < p.length) :
    can.decodeScalar p (8 * i) 8 = some p[i].toNat := by
  have h1 := can.decode_bytes p i 1 (by decide) (by decide) (by omega)
  rw [Nat.mul_one] at h1
  rw [h1, List.drop_eq_getElem_cons h, List.take_succ_cons, List.take_zero]
  simp [leNat]

/-- `canardDecodeScalar(transfer, 8 * offset, 8, 0, &dst[base])`: one byte, if there is one. -/
def decodeByte (p : List UInt8) (offset : ℕ) (dst : Mem) (base : ℕ) : Mem :=
  match can.decodeScalar p (8 * offset) 8 with
  | some v => put dst base (UInt8.ofNat v)
  | none => dst

/-- `payloadExtractArray`: `len` payload bytes from `offset` on, decoded one by one to
`dst[base..]`. `onFileRead` and both `onBeginFirmwareUpdate` have the same loop inline. -/
def payloadExtractArray (p : List UInt8) : (offset len : ℕ) → (dst : Mem) → (base : ℕ) → Mem
  | _, 0, dst, _ => dst
  | offset, len + 1, dst, base =>
    payloadExtractArray p (offset + 1) len (can.decodeByte p offset dst base) (base + 1)

/-- The indices that `payloadExtractArray` stores to: a byte past the payload stores nothing. -/
def extractStores (p : List UInt8) : (offset len base : ℕ) → List ℕ
  | _, 0, _ => []
  | offset, len + 1, base =>
    match can.decodeScalar p (8 * offset) 8 with
    | some _ => base :: extractStores p (offset + 1) len (base + 1)
    | none => extractStores p (offset + 1) len (base + 1)

/-- `payloadExtractArray` writes the payload bytes that exist. -/
theorem payloadExtractArray_eq (p : List UInt8) (offset len : ℕ) (dst : Mem) (base : ℕ) :
    can.payloadExtractArray p offset len dst base =
      write dst base ((p.drop offset).take len) := by
  induction len generalizing offset dst base with
  | zero => simp [payloadExtractArray]
  | succ len ih =>
    rw [payloadExtractArray, ih]
    by_cases h : offset < p.length
    · have hb : can.decodeByte p offset dst base = put dst base p[offset] := by
        simp [decodeByte, can.decode_byte p offset h]
      rw [hb, List.drop_eq_getElem_cons h, List.take_succ_cons, write_cons]
    · have hb : can.decodeByte p offset dst base = dst := by
        simp [decodeByte, can.decode_past p (8 * offset) 8 (by omega)]
      rw [hb, List.drop_eq_nil_of_le (by omega), List.drop_eq_nil_of_le (by omega)]
      simp

/-- The stored indices are those of the bytes that exist. -/
theorem extractStores_eq (p : List UInt8) (offset len base : ℕ) :
    can.extractStores p offset len base = List.range' base (min len (p.length - offset)) := by
  induction len generalizing offset base with
  | zero => simp [extractStores]
  | succ len ih =>
    rw [extractStores]
    by_cases h : offset < p.length
    · have hm : min (len + 1) (p.length - offset) = min len (p.length - (offset + 1)) + 1 := by
        omega
      rw [can.decode_byte p offset h, hm, List.range'_succ, ← ih]
    · have hm : min (len + 1) (p.length - offset) = min len (p.length - (offset + 1)) := by omega
      have hnone : min len (p.length - (offset + 1)) = 0 := by omega
      rw [can.decode_past p (8 * offset) 8 (by omega), hm]
      simp only [ih, hnone, List.range'_zero]

end Canard

/-! ## The UAVCAN bit order -/

/-- The byte with the bits `f 0, …, f 7`, the first one the most significant. -/
def packByte (f : ℕ → Bool) : UInt8 :=
  UInt8.ofNat ((List.range 8).foldl (fun a b => 2 * a + (f b).toNat) 0)

theorem packByte_testBit : ∀ n < 256, packByte (fun b => n.testBit (7 - b)) = UInt8.ofNat n := by
  decide +kernel

/-- Bit `j` of the field of `n` bits with value `v`: whole bytes from the low one on, the bits of
each byte from its most significant one on, the rest of `n` in the last byte. -/
def fieldBit (v n j : ℕ) : Bool := v.testBit (8 * (j / 8) + (min 8 (n - 8 * (j / 8)) - 1 - j % 8))

/-- Bit `j` of a byte list, the most significant bit of each byte first. -/
def wireBit (p : List UInt8) (j : ℕ) : Bool := (p.getD (j / 8) 0).toNat.testBit (7 - j % 8)

/-- Byte `g` of the value of the `n` wire bits from `o` on: the last one has the rest of `n`. -/
def wireByte (p : List UInt8) (o n g : ℕ) : UInt8 :=
  packByte fun b =>
    let pad := 8 - min 8 (n - 8 * g)
    decide (pad ≤ b) && wireBit p (o + 8 * g + (b - pad))

/-- The value of the `n` wire bits from `o` on. -/
def wireValue (p : List UInt8) (o n : ℕ) : ℕ :=
  leNat ((List.range ((n + 7) / 8)).map (wireByte p o n))

theorem wireBit_aligned (p : List UInt8) (i b : ℕ) (hb : b < 8) (h : i < p.length) :
    wireBit p (8 * i + b) = p[i].toNat.testBit (7 - b) := by
  have h1 : (8 * i + b) / 8 = i := by omega
  have h2 : (8 * i + b) % 8 = b := by omega
  rw [wireBit, h1, h2, List.getD_eq_getElem _ _ h]

theorem packByte_congr {f g : ℕ → Bool} (h : ∀ b < 8, f b = g b) : packByte f = packByte g := by
  simp only [packByte, List.range, List.range.loop, List.foldl]
  simp only [h 0 (by decide), h 1 (by decide), h 2 (by decide), h 3 (by decide), h 4 (by decide),
    h 5 (by decide), h 6 (by decide), h 7 (by decide)]

theorem packByte_toNat (b : UInt8) : packByte (fun j => b.toNat.testBit (7 - j)) = b := by
  rw [packByte_testBit b.toNat b.toNat_lt, UInt8.ofNat_toNat]

theorem wireValue_aligned (p : List UInt8) (i k : ℕ) (h : i + k ≤ p.length) :
    wireValue p (8 * i) (8 * k) = leNat ((p.drop i).take k) := by
  have hk : (8 * k + 7) / 8 = k := by omega
  rw [wireValue, hk]
  congr 1
  apply List.ext_getElem (by simp; omega)
  intro g h1 h2
  have hg : g < k := by simpa using h1
  have hp : i + g < p.length := by omega
  simp only [List.getElem_map, List.getElem_range, List.getElem_take, List.getElem_drop, wireByte]
  rw [← packByte_toNat p[i + g]]
  refine packByte_congr fun b hb => ?_
  have hpad : 8 - min 8 (8 * k - 8 * g) = 0 := by omega
  have ho : 8 * i + 8 * g + b = 8 * (i + g) + b := by omega
  simp only [hpad, Nat.zero_le, decide_true, Bool.true_and, Nat.sub_zero, ho,
    wireBit_aligned p (i + g) b hb hp]

/-- `m` with the `n` bits of the field `v` from bit `o` on. -/
def wireStore (m : Mem) (o n v : ℕ) : Mem := fun x =>
  packByte fun b =>
    if o ≤ 8 * x + b ∧ 8 * x + b < o + n then fieldBit v n (8 * x + b - o)
    else (m x).toNat.testBit (7 - b)

theorem fieldBit_aligned (v k g b : ℕ) (hg : g < k) (hb : b < 8) :
    fieldBit v (8 * k) (8 * g + b) = (v / 256 ^ g % 256).testBit (7 - b) := by
  have h1 : (8 * g + b) / 8 = g := by omega
  have h2 : (8 * g + b) % 8 = b := by omega
  have h3 : 8 * g + (min 8 (8 * k - 8 * g) - 1 - b) = 7 - b + 8 * g := by omega
  have h256 : (256 : ℕ) ^ g = 2 ^ (8 * g) := by rw [Nat.pow_mul]
  rw [fieldBit, h1, h2, h3, h256, show (256 : ℕ) = 2 ^ 8 from rfl, Nat.testBit_mod_two_pow,
    Nat.testBit_div_two_pow]
  simp only [show 7 - b < 8 by omega, decide_true, Bool.true_and]

theorem getElem_leBytes (k v g : ℕ) (h : g < (leBytes k v).length) :
    (leBytes k v)[g] = UInt8.ofNat (v / 256 ^ g) := by
  induction k generalizing v g with
  | zero => simp at h
  | succ k ih =>
    cases g with
    | zero => simp [leBytes]
    | succ g =>
      simp only [leBytes, List.getElem_cons_succ]
      rw [ih _ _ (by simpa [leBytes] using h), Nat.div_div_eq_div_mul, Nat.pow_succ,
        Nat.mul_comm 256]

theorem wireStore_aligned (m : Mem) (i k v : ℕ) :
    wireStore m (8 * i) (8 * k) v = write m i (leBytes k v) := by
  rw [eq_write_iff, length_leBytes]
  constructor
  · apply List.ext_getElem (by simp)
    intro g h1 h2
    have hg : g < k := by simpa using h1
    rw [getElem_read, getElem_leBytes]
    have hbyte : UInt8.ofNat (v / 256 ^ g) = UInt8.ofNat (v / 256 ^ g % 256) := by
      apply UInt8.toNat_inj.mp
      simp
    rw [hbyte, ← packByte_testBit _ (Nat.mod_lt _ (by decide)), wireStore]
    refine packByte_congr fun b hb => ?_
    have ho : 8 * (i + g) + b - 8 * i = 8 * g + b := by omega
    rw [if_pos (by omega), ho, fieldBit_aligned v k g b hg hb]
  · intro x hx
    rw [wireStore, ← packByte_toNat (m x)]
    refine packByte_congr fun b hb => ?_
    rw [if_neg (by omega), packByte_toNat]

/-- The codec of the UAVCAN wire format. -/
def Canard.uavcan : Canard where
  decodeScalar p o n :=
    if 8 * p.length ≤ o then none else some (wireValue p o (min n (8 * p.length - o)))
  encodeScalar := wireStore
  decode_past p o n h := if_pos h
  decode_within p o n hn h := by rw [if_neg (by omega)]; rfl
  decode_bytes p i k hk _ h := by
    have hmin : min (8 * k) (8 * p.length - 8 * i) = 8 * k := by omega
    rw [if_neg (by omega), hmin, wireValue_aligned p i k h]
  encode_bytes m i k v _ := wireStore_aligned m i k v

/-! ## A field of 13 bits and one of 3 -/

theorem uavcan_decodeScalar {p : List UInt8} {o n : ℕ} (hn : 0 < n) (h : o + n ≤ 8 * p.length) :
    Canard.uavcan.decodeScalar p o n = some (wireValue p o n) := by
  show (if 8 * p.length ≤ o then none else some (wireValue p o (min n (8 * p.length - o)))) = _
  rw [if_neg (by omega), Nat.min_eq_left (by omega)]

theorem packByte_high : ∀ n < 256,
    packByte (fun b => decide (3 ≤ b) && n.testBit (7 - (b - 3))) = UInt8.ofNat (n / 8) := by
  decide +kernel

theorem packByte_low : ∀ n < 256,
    packByte (fun b => decide (5 ≤ b) && n.testBit (7 - (5 + (b - 5)))) = UInt8.ofNat (n % 8) := by
  decide +kernel

theorem wireBit_cons (x : UInt8) (p : List UInt8) (j : ℕ) :
    wireBit (x :: p) (8 + j) = wireBit p j := by
  rw [wireBit, wireBit, show (8 + j) / 8 = j / 8 + 1 by omega, show (8 + j) % 8 = j % 8 by omega,
    List.getD_cons_succ]

theorem wireBit_head (x : UInt8) (p : List UInt8) {j : ℕ} (h : j < 8) :
    wireBit (x :: p) j = x.toNat.testBit (7 - j) := by
  rw [wireBit, Nat.div_eq_of_lt h, Nat.mod_eq_of_lt h, List.getD_cons_zero]

/-- The low 8 bits of a field of 13 are the first byte, the others lead the second one. -/
theorem uavcan_decode_13 (x y : UInt8) (p : List UInt8) :
    Canard.uavcan.decodeScalar (x :: y :: p) 0 13 = some (x.toNat + 256 * (y.toNat / 8)) := by
  have hfirst : wireByte (x :: y :: p) 0 13 0 = x := by
    refine (packByte_congr fun b hb => ?_).trans (packByte_toNat x)
    simp only [Nat.mul_zero, Nat.sub_zero, Nat.zero_add, show 8 - min 8 13 = 0 from rfl,
      Nat.zero_le, decide_true, Bool.true_and, wireBit_head x _ hb]
  have hsecond : wireByte (x :: y :: p) 0 13 1 = UInt8.ofNat (y.toNat / 8) := by
    refine (packByte_congr fun b hb => ?_).trans (packByte_high y.toNat y.toNat_lt)
    simp only [Nat.zero_add, Nat.mul_one, show 8 - min 8 (13 - 8) = 3 from rfl, wireBit_cons,
      wireBit_head y _ (show b - 3 < 8 by omega)]
  have hbyte : (UInt8.ofNat (y.toNat / 8)).toNat = y.toNat / 8 := by
    have := y.toNat_lt
    rw [UInt8.toNat_ofNat']
    omega
  rw [uavcan_decodeScalar (by decide) (by simp only [List.length_cons]; omega)]
  show some (leNat [wireByte _ _ _ 0, wireByte _ _ _ 1]) = _
  rw [hfirst, hsecond, leNat, leNat, leNat, hbyte, Nat.mul_zero, Nat.add_zero]

/-- A field of 3 bits behind it: the rest of the second byte. -/
theorem uavcan_decode_3 (x y : UInt8) (p : List UInt8) :
    Canard.uavcan.decodeScalar (x :: y :: p) 13 3 = some (y.toNat % 8) := by
  have hfield : wireByte (x :: y :: p) 13 3 0 = UInt8.ofNat (y.toNat % 8) := by
    refine (packByte_congr fun b hb => ?_).trans (packByte_low y.toNat y.toNat_lt)
    have hpad : 8 - min 8 (3 - 8 * 0) = 5 := rfl
    have hbit : 13 + 8 * 0 + (b - 5) = 8 + (5 + (b - 5)) := by omega
    -- A byte with 3 bits of the field has them in its low bits.
    by_cases hb5 : 5 ≤ b
    · simp only [hpad, hbit, wireBit_cons, wireBit_head y _ (show 5 + (b - 5) < 8 by omega)]
    · simp only [hpad, hb5, decide_false, Bool.false_and]
  have hbyte : (UInt8.ofNat (y.toNat % 8)).toNat = y.toNat % 8 := by
    rw [UInt8.toNat_ofNat']
    omega
  rw [uavcan_decodeScalar (by decide) (by simp only [List.length_cons]; omega)]
  show some (leNat [wireByte _ _ _ 0]) = _
  rw [hfield, leNat, leNat, hbyte, Nat.mul_zero, Nat.add_zero]

end HouseBus
