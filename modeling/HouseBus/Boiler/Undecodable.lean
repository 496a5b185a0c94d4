import HouseBus.Boiler

/-!
# Messages that cannot be decoded

`on_obis_data` and `on_boilerstatus_data` ignore the result of the decoder. With a payload that is
too short they go on with the fields decoded so far, and zero in the others.

- `decodeFields` is the result of a generated decoder; it is negative for the payloads that end
  before the last field (`decodeFields_eq_none_iff`).
- The state stays if and only if the half-decoded message has nothing to store
  (`undecodable_ignored_iff`): codes other than 1.8.0 and 2.8.0, and values that are stored already.
-/

namespace HouseBus

namespace Boiler

variable (can : Canard) (qfp : Qfp)

/-! ## The decoders -/

/-- A generated decoder, for the lengths of the fields: the offset behind them, or `none` for a
negative result. -/
def decodeFields (transfer : CanardRxTransfer) : ℕ → List ℕ → Option ℕ
  | offset, [] => some offset
  | offset, length :: fields =>
    if decodedBits transfer.payload offset length = length then
      decodeFields transfer (offset + length) fields
    else none

/-- The fields of `homeautomation_Obis`: `code`, `unit` and `value`. -/
def obisFields : List ℕ := [8, 8, 8, 8, 64]

/-- The fields of `homeautomation_BoilerStatus`: `duty_cycle`, `temperature` and `priority`. -/
def boilerStatusFields : List ℕ := [8, 19, 3]

/-- The decoders fail on the payloads that are too short. -/
theorem decodeFields_eq_none_iff (transfer : CanardRxTransfer) {offset : ℕ}
    (h : offset ≤ 8 * transfer.payloadLen) (fields : List ℕ) :
    decodeFields transfer offset fields = none ↔
      8 * transfer.payloadLen < offset + fields.sum := by
  induction fields generalizing offset with
  | nil => simp only [decodeFields, List.sum_nil, reduceCtorEq, false_iff]; omega
  | cons length fields ih =>
    rw [decodeFields, List.sum_cons]
    split
    · rename_i hall
      rw [decodedBits, ← CanardRxTransfer.payloadLen] at hall
      rw [ih (by omega), Nat.add_assoc]
    · rename_i hpart
      rw [decodedBits, ← CanardRxTransfer.payloadLen] at hpart
      exact iff_of_true rfl (by omega)

theorem decode_byte_getD (payload : List UInt8) (i : ℕ) :
    (can.decodeScalar payload (8 * i) 8).getD 0 = (payload.getD i 0).toNat := by
  by_cases h : i < payload.length
  · rw [can.decode_byte payload i h, List.getD_eq_getElem payload 0 h, Option.getD_some]
  · rw [can.decode_past payload (8 * i) 8 (by omega), List.getD_eq_default payload 0 (by omega)]
    rfl

/-- The OBIS code is that of the payload, with zero behind its end. -/
theorem decodeObis_code (transfer : CanardRxTransfer) :
    (decodeObis can transfer).code = (List.range 3).map fun i => transfer.payload.getD i 0 := by
  apply List.map_congr_left
  intro i _
  rw [decode_byte_getD, UInt8.ofNat_toNat]

theorem decodePriority_of_short {transfer : CanardRxTransfer}
    (h : 8 * transfer.payloadLen < boilerStatusFields.sum) : decodePriority can transfer = 0 := by
  change 8 * transfer.payloadLen < 30 at h
  have hlen : 8 * transfer.payloadLen < 8 + 19 := by omega
  rw [decodePriority, if_pos hlen, ite_self]

/-! ## The messages -/

/-- A message for the node, with the time at which it is received. -/
inductive Received
  | obis (timestamp : ℕ) (transfer : CanardRxTransfer)
  | boilerstatus (timestamp : ℕ) (transfer : CanardRxTransfer)

/-- Its handler; `now` is the system time that `on_obis_data` reads. -/
def receive (now : ℕ) (b : Boiler) : Received → Boiler
  | .obis timestamp transfer => b.onObisData can qfp now timestamp transfer
  | .boilerstatus timestamp transfer => b.onBoilerstatusData can timestamp transfer

/-- The result of the decoder is negative. -/
def Received.Undecodable : Received → Prop
  | .obis _ transfer => decodeFields transfer 0 obisFields = none
  | .boilerstatus _ transfer => decodeFields transfer 0 boilerStatusFields = none

instance : ∀ m : Received, Decidable m.Undecodable
  | .obis _ transfer => inferInstanceAs (Decidable (decodeFields transfer 0 obisFields = none))
  | .boilerstatus _ transfer =>
    inferInstanceAs (Decidable (decodeFields transfer 0 boilerStatusFields = none))

/-- The power of a reading that is received again, at the same time. -/
def repeatedPower (timestamp : ℕ) : ℤ := meterPower qfp ⟨0, timestamp⟩ 0 timestamp

/-- There is nothing to store of an undecodable message. -/
def NothingNew (b : Boiler) : Received → Prop
  | .obis timestamp transfer =>
    let code := (List.range 3).map fun i => transfer.payload.getD i 0
    let value := (decodeObis can transfer).value
    (code = [1, 8, 0] → b.last180meter = ⟨value, timestamp⟩ ∧
      (value ≠ 0 → b.fresh180reading = true ∧ b.last180reading = repeatedPower qfp timestamp)) ∧
    (code = [2, 8, 0] → b.last280meter = ⟨value, timestamp⟩ ∧
      (value ≠ 0 → b.fresh180reading = false))
  | .boilerstatus timestamp transfer =>
    ∀ e, b.otherBoilerStatus[(getOtherBoilerEntry transfer.sourceNodeId b.otherBoilerStatus).1]? =
        some e →
      e = ⟨timestamp, transfer.sourceNodeId, 0, (transfer.payload.getD 0 0).toNat,
        decodeTemperature can transfer⟩

/-! ## What the handlers store -/

theorem meterPower_repeated (value timestamp : ℕ) :
    meterPower qfp ⟨value, timestamp⟩ value timestamp = repeatedPower qfp timestamp := by
  simp only [meterPower, repeatedPower, sub_self]

theorem onObis180_eq_self_iff (b : Boiler) (value timestamp : ℕ) :
    b.onObis180 qfp value timestamp = b ↔ b.last180meter = ⟨value, timestamp⟩ ∧
      (value ≠ 0 → b.fresh180reading = true ∧ b.last180reading = repeatedPower qfp timestamp) := by
  constructor
  · intro h
    have hmeter : b.last180meter = ⟨value, timestamp⟩ := (congrArg Boiler.last180meter h).symm
    refine ⟨hmeter, fun hne => ?_⟩
    rw [onObis180, hmeter, if_pos hne, meterPower_repeated] at h
    exact ⟨(congrArg Boiler.fresh180reading h).symm, (congrArg Boiler.last180reading h).symm⟩
  · rintro ⟨hmeter, hpower⟩
    rw [onObis180, hmeter, meterPower_repeated]
    simp only
    split
    · rename_i hne
      obtain ⟨hfresh, hreading⟩ := hpower hne
      rw [← hmeter, ← hfresh, ← hreading]
    · rw [← hmeter]

theorem onObis280_eq_self_iff (b : Boiler) (now value timestamp : ℕ) :
    b.onObis280 qfp now value timestamp = b ↔
      b.last280meter = ⟨value, timestamp⟩ ∧ (value ≠ 0 → b.fresh180reading = false) := by
  constructor
  · intro h
    have hmeter : b.last280meter = ⟨value, timestamp⟩ := (congrArg Boiler.last280meter h).symm
    refine ⟨hmeter, fun hne => ?_⟩
    by_contra hfresh
    rw [Bool.not_eq_false] at hfresh
    rw [onObis280, hmeter, if_pos ⟨hne, hfresh⟩] at h
    have hused : b.fresh180reading = false := (congrArg Boiler.fresh180reading h).symm
    exact Bool.noConfusion (hused.symm.trans hfresh)
  · rintro ⟨hmeter, hfresh⟩
    have hidle : ¬ (value ≠ 0 ∧ b.fresh180reading = true) := by
      rintro ⟨hne, htrue⟩
      rw [hfresh hne] at htrue
      cases htrue
    rw [onObis280, hmeter, if_neg hidle, ← hmeter]

theorem modify_eq_self_iff {α : Type*} (l : List α) (i : ℕ) (f : α → α) :
    l.modify i f = l ↔ ∀ a, l[i]? = some a → f a = a := by
  induction l generalizing i with
  | nil => simp
  | cons b l ih =>
    cases i with
    | zero => simp
    | succ i => simp [ih]

theorem onBoilerstatusData_eq_self_iff (b : Boiler) (timestamp : ℕ) (transfer : CanardRxTransfer) :
    b.onBoilerstatusData can timestamp transfer = b ↔
      ∀ e, b.otherBoilerStatus[
          (getOtherBoilerEntry transfer.sourceNodeId b.otherBoilerStatus).1]? = some e →
        e = boilerEntry can timestamp transfer := by
  have htable : b.onBoilerstatusData can timestamp transfer = b ↔
      (b.onBoilerstatusData can timestamp transfer).otherBoilerStatus = b.otherBoilerStatus := by
    constructor
    · exact fun h => congrArg Boiler.otherBoilerStatus h
    · intro h
      show { b with
        otherBoilerStatus := (b.onBoilerstatusData can timestamp transfer).otherBoilerStatus } = b
      rw [h]
  rw [htable]
  simp only [onBoilerstatusData, getOtherBoilerEntry]
  rw [List.modify_modify_eq, modify_eq_self_iff]
  apply forall_congr'
  intro e
  rw [eq_comm (a := e)]
  rfl

/-! ## Ignored messages -/

/-- **When an undecodable message is ignored**: when the fields that are decoded, and zero for the
others, leave nothing to store. -/
theorem undecodable_ignored_iff (now : ℕ) (b : Boiler) {m : Received} (h : m.Undecodable) :
    b.receive can qfp now m = b ↔ b.NothingNew can qfp m := by
  cases m with
  | obis timestamp transfer =>
    simp only [receive, NothingNew, onObisData, decodeObis_code]
    generalize (List.range 3).map (fun i => transfer.payload.getD i 0) = code
    by_cases h180 : code = [1, 8, 0]
    · subst h180
      simp only [if_true, true_imp_iff]
      rw [if_neg (by decide), onObis180_eq_self_iff]
      exact (and_iff_left fun h280 => absurd h280 (by decide)).symm
    · rw [if_neg h180]
      by_cases h280 : code = [2, 8, 0]
      · rw [if_pos h280, onObis280_eq_self_iff]
        exact ⟨fun h => ⟨fun h180' => absurd h180' h180, fun _ => h⟩, fun h => h.2 h280⟩
      · rw [if_neg h280]
        simp only [h180, h280, false_imp_iff, and_self]
  | boilerstatus timestamp transfer =>
    have hshort := (decodeFields_eq_none_iff transfer (Nat.zero_le _) boilerStatusFields).mp h
    rw [Nat.zero_add] at hshort
    have hduty : decodeDutyCycle can transfer = (transfer.payload.getD 0 0).toNat :=
      decode_byte_getD can transfer.payload 0
    rw [receive, onBoilerstatusData_eq_self_iff, boilerEntry, decodePriority_of_short can hshort,
      hduty]
    rfl

/-- A message for 16.7.0 without a value. -/
def obis1670 : Received := .obis 50000 ⟨9, 0, 16, [16, 7, 0], by decide, fun _ => 0⟩

theorem undecodable_ignored_iff_obis1670 :
    (start 0).receive .uavcan (Qfp.const 0) 50000 obis1670 = start 0 ↔
      (start 0).NothingNew .uavcan (Qfp.const 0) obis1670 :=
  undecodable_ignored_iff .uavcan (Qfp.const 0) 50000 (start 0) (by decide)

/-- Two bytes are stored as a meter reading of zero, and a status without payload as one of
priority 0. -/
theorem not_undecodable_ignored :
    let obis : Received := .obis 50000 ⟨9, 0, 16, [1, 8], by decide, fun _ => 0⟩
    let status : Received := .boilerstatus 50000 ⟨5, 0, 16, [], by decide, fun _ => 0⟩
    (obis.Undecodable ∧ (start 0).receive .uavcan (Qfp.const 0) 50000 obis ≠ start 0) ∧
      status.Undecodable ∧ (start 0).receive .uavcan (Qfp.const 0) 50000 status ≠ start 0 := by
  refine ⟨⟨by decide, fun h => ?_⟩, by decide, fun h => ?_⟩
  · have hstored : 50000 = 0 := congrArg (·.last180meter.timestamp) h
    exact absurd hstored (by decide)
  · have hstored : some 50000 = some 0 :=
      congrArg (fun b => b.otherBoilerStatus.head?.map OtherBoilerStatus.lastUpdate) h
    exact absurd hstored (by decide)

end Boiler

end HouseBus
