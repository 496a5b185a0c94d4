import HouseBus.Canard.Fields
import HouseBus.ViessmannTrimatik

/-!
# The HeaterStatus message (`sw/nodes/viessmann_trimatik.c`, `sw/dsdl/homeautomation`)

`broadcast_heater_status` packs the message by hand: four temperatures of 15 bits and three flags.
The generated encoder saturates the temperatures to the 15 bits and the flags to one; the
hand-written one drops the high bits. So both produce the same message exactly for temperatures from
-16383 to 16383 and flags that are 0 or odd (`heaterStatus_agrees_iff`). The raw ADC words that
`KEY_MODE_DEBUG` sends are outside, and so is the circulation state 2 that this mode requests.
-/

namespace HouseBus

open Bytes

/-- The parameters of `broadcast_heater_status`. -/
structure HeaterStatusParams where
  tempOut : Int16
  tempBurner : Int16
  tempFlow : Int16
  circulation : UInt8
  burner : UInt8
  burnerActuallyFiring : UInt8
  tempFlowTarget : Int16

/-- The arguments of a call in `app_tick`, converted to the types of the parameters. -/
def HeaterStatus.params (a : HeaterStatus) : HeaterStatusParams where
  tempOut := Int16.ofInt a.tempOut
  tempBurner := Int16.ofInt a.tempBurner
  tempFlow := Int16.ofInt a.tempFlow
  circulation := UInt8.ofNat a.circulation
  burner := UInt8.ofNat a.burner.toNat
  burnerActuallyFiring := UInt8.ofNat a.burnerActuallyFiring.toNat
  tempFlowTarget := Int16.ofInt a.tempFlowTarget

/-- The parameters in `KEY_MODE_DEBUG`: `adc_double_filtered`, and the states of the outputs. -/
def HeaterStatusParams.debug (adcDoubleFiltered : ℕ → UInt32)
    (circulationState burnerState : UInt8) : HeaterStatusParams where
  tempOut := Int16.ofNat ((adcDoubleFiltered 0).toNat / 65536)
  tempBurner := Int16.ofNat ((adcDoubleFiltered 1).toNat / 65536)
  tempFlow := Int16.ofNat ((adcDoubleFiltered 2).toNat / 65536)
  circulation := circulationState
  burner := burnerState
  burnerActuallyFiring := 0
  tempFlowTarget := 0

/-- `buffer` of `broadcast_heater_status` behind the encoding; it is not initialised before. -/
def broadcastHeaterStatus (can : Canard) (buffer : Mem) (a : HeaterStatusParams) : Mem :=
  let buffer := can.encodeScalar buffer 0 15 a.tempOut.toUInt16.toNat
  let buffer := can.encodeScalar buffer 15 15 a.tempBurner.toUInt16.toNat
  let buffer := can.encodeScalar buffer 30 15 a.tempFlow.toUInt16.toNat
  let buffer := can.encodeScalar buffer 45 15 a.tempFlowTarget.toUInt16.toNat
  let buffer := can.encodeScalar buffer 60 1 a.circulation.toNat
  let buffer := can.encodeScalar buffer 61 1 a.burner.toNat
  can.encodeScalar buffer 62 1 a.burnerActuallyFiring.toNat

/-! ## The generated encoder -/

/-- `homeautomation_HeaterStatus` -/
structure HomeautomationHeaterStatus where
  temperatureOutside : Int16
  temperatureBurner : Int16
  temperatureFlow : Int16
  temperatureFlowTarget : Int16
  circulation : Bool
  burner : Bool
  burnerActuallyFiring : Bool
  deriving DecidableEq

/-- The values of the parameters; a `bool` is 1 for every value that is not 0. -/
def HeaterStatusParams.status (a : HeaterStatusParams) : HomeautomationHeaterStatus where
  temperatureOutside := a.tempOut
  temperatureBurner := a.tempBurner
  temperatureFlow := a.tempFlow
  temperatureFlowTarget := a.tempFlowTarget
  circulation := a.circulation != 0
  burner := a.burner != 0
  burnerActuallyFiring := a.burnerActuallyFiring != 0

namespace HomeautomationHeaterStatus

/-- A temperature, saturated to 15 bits. -/
def saturateTemperature (t : Int16) : Int16 := Int16.ofInt (canardInternalSaturate t.toInt 16383)

/-- A flag, saturated to one bit. -/
def saturateFlag (b : Bool) : Bool := canardInternalSaturateUnsigned b.toNat 1 != 0

/-- `homeautomation_HeaterStatus_encode_internal`: the saturated values in `source`, the buffer and
the offset behind the message. -/
def encodeInternal (can : Canard) (source : HomeautomationHeaterStatus) (msgBuf : Mem)
    (offset : ℕ) : HomeautomationHeaterStatus × Mem × ℕ :=
  let source := { source with temperatureOutside := saturateTemperature source.temperatureOutside }
  let msgBuf := can.encodeScalar msgBuf offset 15 source.temperatureOutside.toUInt16.toNat
  let offset := offset + 15
  let source := { source with temperatureBurner := saturateTemperature source.temperatureBurner }
  let msgBuf := can.encodeScalar msgBuf offset 15 source.temperatureBurner.toUInt16.toNat
  let offset := offset + 15
  let source := { source with temperatureFlow := saturateTemperature source.temperatureFlow }
  let msgBuf := can.encodeScalar msgBuf offset 15 source.temperatureFlow.toUInt16.toNat
  let offset := offset + 15
  let source :=
    { source with temperatureFlowTarget := saturateTemperature source.temperatureFlowTarget }
  let msgBuf := can.encodeScalar msgBuf offset 15 source.temperatureFlowTarget.toUInt16.toNat
  let offset := offset + 15
  let source := { source with circulation := saturateFlag source.circulation }
  let msgBuf := can.encodeScalar msgBuf offset 1 source.circulation.toNat
  let offset := offset + 1
  let source := { source with burner := saturateFlag source.burner }
  let msgBuf := can.encodeScalar msgBuf offset 1 source.burner.toNat
  let offset := offset + 1
  let source := { source with burnerActuallyFiring := saturateFlag source.burnerActuallyFiring }
  let msgBuf := can.encodeScalar msgBuf offset 1 source.burnerActuallyFiring.toNat
  (source, msgBuf, offset + 1)

/-- The decoded field of a temperature: 15 bits with a sign. -/
def decodeTemperature (can : Canard) (payload : List UInt8) (offset : ℕ) : Int16 :=
  Int16.ofInt (Int.bmod ((can.decodeScalar payload offset 15).getD 0) (2 ^ 15))

/-- The decoded field of a flag. -/
def decodeFlag (can : Canard) (payload : List UInt8) (offset : ℕ) : Bool :=
  (can.decodeScalar payload offset 1).getD 0 != 0

/-- `homeautomation_HeaterStatus_decode`: `none` where a field is not in the payload. -/
def decode (can : Canard) (payload : List UInt8) : Option HomeautomationHeaterStatus :=
  if 8 * payload.length < 63 then none
  else
    some
      { temperatureOutside := decodeTemperature can payload 0
        temperatureBurner := decodeTemperature can payload 15
        temperatureFlow := decodeTemperature can payload 30
        temperatureFlowTarget := decodeTemperature can payload 45
        circulation := decodeFlag can payload 60
        burner := decodeFlag can payload 61
        burnerActuallyFiring := decodeFlag can payload 62 }

/-- The values that the message can carry. -/
def saturated (source : HomeautomationHeaterStatus) : HomeautomationHeaterStatus where
  temperatureOutside := saturateTemperature source.temperatureOutside
  temperatureBurner := saturateTemperature source.temperatureBurner
  temperatureFlow := saturateTemperature source.temperatureFlow
  temperatureFlowTarget := saturateTemperature source.temperatureFlowTarget
  circulation := source.circulation
  burner := source.burner
  burnerActuallyFiring := source.burnerActuallyFiring

end HomeautomationHeaterStatus

/-! ## The fields of the message -/

/-- The fields of a HeaterStatus message. -/
def heaterStatusFields (outside burner flow flowTarget circulation burnerOn firing : ℕ) :
    List CanardField :=
  [⟨0, 15, outside⟩, ⟨15, 15, burner⟩, ⟨30, 15, flow⟩, ⟨45, 15, flowTarget⟩, ⟨60, 1, circulation⟩,
    ⟨61, 1, burnerOn⟩, ⟨62, 1, firing⟩]

theorem heaterStatusFields_apart (outside burner flow flowTarget circulation burnerOn firing : ℕ) :
    (heaterStatusFields outside burner flow flowTarget circulation burnerOn firing).Pairwise
      CanardField.Apart := by
  simp [heaterStatusFields, CanardField.Apart]

theorem heaterStatusFields_within
    (outside burner flow flowTarget circulation burnerOn firing : ℕ) :
    ∀ f ∈ heaterStatusFields outside burner flow flowTarget circulation burnerOn firing,
      f.Within 8 := by
  simp [heaterStatusFields, CanardField.Within]

/-- What is decoded from a field of 15 bits with the value `v`. -/
def low15 (v : ℕ) : Int16 := Int16.ofInt (Int.bmod ((v % 2 ^ 15 : ℕ) : ℤ) (2 ^ 15))

namespace HomeautomationHeaterStatus

variable {can : Canard}

theorem decodeTemperature_eq {payload : List UInt8} {offset v : ℕ}
    (h : can.decodeScalar payload offset 15 = some (v % 2 ^ 15)) :
    decodeTemperature can payload offset = low15 v := by
  unfold decodeTemperature low15
  rw [h, Option.getD_some]

theorem decodeFlag_eq {payload : List UInt8} {offset v : ℕ}
    (h : can.decodeScalar payload offset 1 = some (v % 2 ^ 1)) :
    decodeFlag can payload offset = (v % 2 != 0) := by
  rw [decodeFlag, h, Option.getD_some, pow_one]

/-- The decoder, on the fields of a message. -/
theorem decode_fields (laws : can.FieldLaws) (buffer : Mem)
    (outside burner flow flowTarget circulation burnerOn firing : ℕ) :
    decode can (read (can.encodeFields buffer
        (heaterStatusFields outside burner flow flowTarget circulation burnerOn firing)) 0 8) =
      some ⟨low15 outside, low15 burner, low15 flow, low15 flowTarget, circulation % 2 != 0,
        burnerOn % 2 != 0, firing % 2 != 0⟩ := by
  have hfields := laws.decode_encodeFields buffer
    (heaterStatusFields_within outside burner flow flowTarget circulation burnerOn firing)
    (heaterStatusFields_apart outside burner flow flowTarget circulation burnerOn firing)
  have hlength := length_read (can.encodeFields buffer
    (heaterStatusFields outside burner flow flowTarget circulation burnerOn firing)) 0 8
  generalize read _ 0 8 = payload at hfields hlength ⊢
  simp only [heaterStatusFields, List.forall_mem_cons] at hfields
  obtain ⟨h0, h15, h30, h45, h60, h61, h62, -⟩ := hfields
  have hlong : ¬ 8 * payload.length < 63 := by
    rw [hlength]
    decide
  rw [decode, if_neg hlong, decodeTemperature_eq h0, decodeTemperature_eq h15,
    decodeTemperature_eq h30, decodeTemperature_eq h45, decodeFlag_eq h60, decodeFlag_eq h61,
    decodeFlag_eq h62]

theorem saturateFlag_eq (b : Bool) : saturateFlag b = b := by
  cases b <;> rfl

/-- The generated encoder stores the saturated values. -/
theorem encodeInternal_eq (source : HomeautomationHeaterStatus) (msgBuf : Mem) :
    (source.encodeInternal can msgBuf 0).2.1 = can.encodeFields msgBuf
      (heaterStatusFields source.saturated.temperatureOutside.toUInt16.toNat
        source.saturated.temperatureBurner.toUInt16.toNat
        source.saturated.temperatureFlow.toUInt16.toNat
        source.saturated.temperatureFlowTarget.toUInt16.toNat source.saturated.circulation.toNat
        source.saturated.burner.toNat source.saturated.burnerActuallyFiring.toNat) := by
  simp only [encodeInternal, saturateFlag_eq]
  rfl

/-! ## One field -/

theorem canardInternalSaturate_bounds (x : ℤ) :
    -16383 ≤ canardInternalSaturate x 16383 ∧ canardInternalSaturate x 16383 ≤ 16383 := by
  unfold canardInternalSaturate
  split
  · omega
  · split <;> omega

/-- Dropping the high bits of a number of 16 bits, and saturating it. -/
theorem bmod_eq_saturate_iff {x : ℤ} (hlow : -32768 ≤ x) (hhigh : x < 32768) :
    Int.bmod x (2 ^ 15) = canardInternalSaturate x 16383 ↔ -16383 ≤ x ∧ x ≤ 16383 := by
  have hpow : ((2 ^ 15 : ℕ) : ℤ) = 32768 := rfl
  rw [Int.bmod_def, hpow]
  unfold canardInternalSaturate
  split <;> split
  · omega
  · split <;> omega
  · omega
  · split <;> omega

/-- A temperature through 15 bits is the saturated one exactly if it is one of 15 bits. -/
theorem low15_eq_saturate_iff (t : Int16) :
    low15 t.toUInt16.toNat = saturateTemperature t ↔ -16383 ≤ t.toInt ∧ t.toInt ≤ 16383 := by
  have hlow : Int.bmod ((t.toUInt16.toNat % 2 ^ 15 : ℕ) : ℤ) (2 ^ 15) =
      Int.bmod t.toInt (2 ^ 15) := by
    have h := BitVec.toInt_eq_toNat_bmod t.toBitVec
    rw [Int16.toInt_toBitVec] at h
    rw [h, Int.bmod_bmod_of_dvd (by decide), Int.natCast_emod]
    exact Int.emod_bmod _ _
  have hbounds : -32768 ≤ t.toInt ∧ t.toInt < 32768 := ⟨t.le_toInt, t.toInt_lt⟩
  have hlow_le := Int.le_bmod (x := t.toInt) (m := 2 ^ 15) (by decide)
  have hlow_lt := Int.bmod_lt (x := t.toInt) (m := 2 ^ 15) (by decide)
  have hsaturated := canardInternalSaturate_bounds t.toInt
  rw [← bmod_eq_saturate_iff hbounds.1 hbounds.2]
  unfold low15 saturateTemperature
  rw [hlow, ← Int16.toInt_inj, Int16.toInt_ofInt_of_le (by omega) (by omega),
    Int16.toInt_ofInt_of_le (by omega) (by omega)]

theorem saturateTemperature_of_fits {t : Int16} (h : -16383 ≤ t.toInt ∧ t.toInt ≤ 16383) :
    saturateTemperature t = t := by
  unfold saturateTemperature canardInternalSaturate
  rw [if_neg (by omega), if_neg (by omega), Int16.ofInt_toInt]

/-- The low bit of a flag says whether it is set exactly if it is 0 or odd. -/
theorem lowBit_eq_iff (f : UInt8) :
    ((f.toNat % 2 != 0) = (f != 0)) ↔ f = 0 ∨ f.toNat % 2 = 1 := by
  by_cases hzero : f = 0
  · subst hzero
    decide
  · have hset : (f != 0) = true := bne_iff_ne.mpr hzero
    have hodd : (f.toNat % 2 != 0) = true ↔ f.toNat % 2 = 1 := by
      rw [bne_iff_ne]
      omega
    rw [hset, hodd, or_iff_right hzero]

end HomeautomationHeaterStatus

/-! ## Both encoders -/

namespace HeaterStatusParams

open HomeautomationHeaterStatus

variable {can : Canard}

/-- The hand-written encoder sends what the generated one sends, and the message decodes to the
saturated values. -/
def Agrees (can : Canard) (a : HeaterStatusParams) : Prop :=
  ∀ buffer : Mem,
    read (broadcastHeaterStatus can buffer a) 0 8 =
        read (a.status.encodeInternal can buffer 0).2.1 0 8 ∧
      decode can (read (broadcastHeaterStatus can buffer a) 0 8) = some a.status.saturated

/-- A temperature of 15 bits. -/
def TemperatureFits (t : Int16) : Prop := -16383 ≤ t.toInt ∧ t.toInt ≤ 16383

/-- A flag whose low bit says whether it is set. -/
def FlagFits (f : UInt8) : Prop := f = 0 ∨ f.toNat % 2 = 1

/-- All values fit the message. -/
def Fits (a : HeaterStatusParams) : Prop :=
  (TemperatureFits a.tempOut ∧ TemperatureFits a.tempBurner ∧ TemperatureFits a.tempFlow ∧
    TemperatureFits a.tempFlowTarget) ∧
  FlagFits a.circulation ∧ FlagFits a.burner ∧ FlagFits a.burnerActuallyFiring

theorem broadcastHeaterStatus_eq (buffer : Mem) (a : HeaterStatusParams) :
    broadcastHeaterStatus can buffer a = can.encodeFields buffer
      (heaterStatusFields a.tempOut.toUInt16.toNat a.tempBurner.toUInt16.toNat
        a.tempFlow.toUInt16.toNat a.tempFlowTarget.toUInt16.toNat a.circulation.toNat
        a.burner.toNat a.burnerActuallyFiring.toNat) := rfl

/-- The message decodes to the saturated values exactly if they fit. -/
theorem decode_eq_saturated_iff (laws : can.FieldLaws) (buffer : Mem) (a : HeaterStatusParams) :
    decode can (read (broadcastHeaterStatus can buffer a) 0 8) = some a.status.saturated ↔
      a.Fits := by
  rw [broadcastHeaterStatus_eq, decode_fields laws, Option.some_inj,
    HomeautomationHeaterStatus.mk.injEq]
  unfold Fits TemperatureFits FlagFits
  rw [← low15_eq_saturate_iff, ← low15_eq_saturate_iff, ← low15_eq_saturate_iff,
    ← low15_eq_saturate_iff, ← lowBit_eq_iff, ← lowBit_eq_iff, ← lowBit_eq_iff]
  simp only [and_assoc]
  rfl

/-- In a call of `app_tick` the temperatures and the state of the circulation decide: the burner's
flags are 0 or 1. -/
theorem fits_params_iff (a : HeaterStatus) :
    a.params.Fits ↔
      (TemperatureFits (Int16.ofInt a.tempOut) ∧ TemperatureFits (Int16.ofInt a.tempBurner) ∧
        TemperatureFits (Int16.ofInt a.tempFlow) ∧
        TemperatureFits (Int16.ofInt a.tempFlowTarget)) ∧
      FlagFits (UInt8.ofNat a.circulation) := by
  have hflag : ∀ b : Bool, FlagFits (UInt8.ofNat b.toNat) := by
    unfold FlagFits
    decide
  exact and_congr_right fun _ =>
    and_iff_left ⟨hflag a.burner, hflag a.burnerActuallyFiring⟩

/-- A flag that fits has the low bit of the `bool`. -/
theorem FlagFits.low_eq {f : UInt8} (h : FlagFits f) :
    f.toNat % 2 ^ 1 = (f != 0).toNat % 2 ^ 1 := by
  obtain rfl | hodd := h
  · rfl
  · have hset : (f != 0) = true := by
      rw [bne_iff_ne]
      rintro rfl
      cases hodd
    rw [hset, pow_one, hodd]
    rfl

/-- Values that fit are sent as by the generated encoder. -/
theorem Fits.encode_eq (laws : can.FieldLaws) {a : HeaterStatusParams} (h : a.Fits) (buffer : Mem) :
    broadcastHeaterStatus can buffer a = (a.status.encodeInternal can buffer 0).2.1 := by
  obtain ⟨⟨hout, hburner, hflow, htarget⟩, hcirculation, hfire, hfiring⟩ := h
  rw [broadcastHeaterStatus_eq, encodeInternal_eq]
  unfold saturated status
  dsimp only
  rw [saturateTemperature_of_fits hout, saturateTemperature_of_fits hburner,
    saturateTemperature_of_fits hflow, saturateTemperature_of_fits htarget]
  -- the temperatures are the same, and the flags have the same low bit
  generalize a.tempOut.toUInt16.toNat = outside, a.tempBurner.toUInt16.toNat = burner,
    a.tempFlow.toUInt16.toNat = flow, a.tempFlowTarget.toUInt16.toNat = target
  have hlow : (heaterStatusFields outside burner flow target a.circulation.toNat a.burner.toNat
        a.burnerActuallyFiring.toNat).map CanardField.low =
      (heaterStatusFields outside burner flow target (a.circulation != 0).toNat
        (a.burner != 0).toNat (a.burnerActuallyFiring != 0).toNat).map CanardField.low := by
    simp only [heaterStatusFields, List.map_cons, List.map_nil, CanardField.low,
      hcirculation.low_eq, hfire.low_eq, hfiring.low_eq]
  rw [← laws.encodeFields_low buffer (heaterStatusFields_within _ _ _ _ a.circulation.toNat _ _),
    hlow, laws.encodeFields_low buffer (heaterStatusFields_within _ _ _ _ _ _ _)]

/-- **When the hand-written encoder agrees with the generated one**: for temperatures from -16383 to
16383 and flags that are 0 or odd. -/
theorem heaterStatus_agrees_iff (can : Canard) (laws : can.FieldLaws) (a : HeaterStatusParams) :
    a.Agrees can ↔ a.Fits := by
  constructor
  · intro h
    exact (decode_eq_saturated_iff laws (fun _ => 0) a).mp (h fun _ => 0).2
  · intro h buffer
    rw [decode_eq_saturated_iff laws, h.encode_eq laws]
    exact ⟨rfl, h⟩

theorem heaterStatus_agrees_iff_warm :
    let a : HeaterStatusParams := ⟨1240, 5512, 4870, 1, 1, 0, 5000⟩
    a.Agrees .uavcan ↔ a.Fits :=
  heaterStatus_agrees_iff .uavcan Canard.uavcan_fieldLaws ⟨1240, 5512, 4870, 1, 1, 0, 5000⟩

/-- A raw word of 33422 from the outside sensor in `KEY_MODE_DEBUG`: as a number of 16 bits it is
-32114, which saturates to -16383, and its low 15 bits are 654. -/
theorem not_heaterStatus_agrees :
    ¬ ∀ a : HeaterStatusParams, a.Agrees .uavcan := by
  intro h
  have hfits := (decode_eq_saturated_iff Canard.uavcan_fieldLaws (fun _ => 0)
    (.debug (fun _ => 33422 * 65536) 0 0)).mp (h _ _).2
  exact absurd hfits.1.1.1 (by decide)

end HeaterStatusParams

end HouseBus
