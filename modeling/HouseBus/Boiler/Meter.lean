import HouseBus.Boiler
import HouseBus.Sml.Decode
import Mathlib.Data.List.Induction

/-!
# From the meter to the boiler

The meter node takes readings out of an SML stream and broadcasts each as an Obis message; the
boiler regulates on the readings of the registers 1.8.0 and 2.8.0.

- An Obis message is what it stands for (`onObisData_message`): the register and the value of the
  entry, in 64 bits.
- The boiler keeps the last reading of each register (`last180meter_after`, `last280meter_after`).
- **Each 2.8.0 behind a 1.8.0** makes the boiler regulate on the power between the last two
  readings of each register (`meter_regulates`).
-/

namespace HouseBus

open Bytes

/-! ## Readings -/

/-- The value of an entry in 64 bits. -/
def SmlEntry.reading (e : SmlEntry) : ℕ := (extend64 e.signed e.value).toNat

/-- The register of an entry, as its message begins. -/
def SmlEntry.register (e : SmlEntry) : List UInt8 := e.message.take 3

/-- An entry of the stream, with the transfer of its message and the system times at which the
boiler receives and handles it. -/
structure Arrival where
  gap : SmlGap
  entry : SmlEntry
  transfer : CanardRxTransfer
  timestamp : ℕ
  now : ℕ

/-- The reading that the boiler is to keep. -/
def Arrival.meterReading (a : Arrival) : MeterReading := ⟨a.entry.reading, a.timestamp⟩

/-- The stream of the entries. -/
def meterStream (as : List Arrival) (last : SmlGap) : List UInt8 :=
  smlStream (as.map fun a => (a.gap, a.entry)) last

/-- The last reading of a register, or the one before all of them. -/
def lastReading (register : List UInt8) (before : MeterReading) (as : List Arrival) :
    MeterReading :=
  ((as.filter fun a => a.entry.register = register).getLast?.map Arrival.meterReading).getD before

theorem lastReading_snoc (register : List UInt8) (before : MeterReading) (as : List Arrival)
    (a : Arrival) :
    lastReading register before (as ++ [a]) =
      if a.entry.register = register then a.meterReading else lastReading register before as := by
  rw [lastReading, List.filter_append]
  by_cases h : a.entry.register = register <;> simp [h, lastReading]

namespace Boiler

/-- What a reading does. -/
def onReading (qfp : Qfp) (b : Boiler) (a : Arrival) : Boiler :=
  if a.entry.register = [1, 8, 0] then b.onObis180 qfp a.entry.reading a.timestamp
  else if a.entry.register = [2, 8, 0] then
    b.onObis280 qfp a.now a.entry.reading a.timestamp
  else b

/-- The boiler behind the readings. -/
def afterReadings (qfp : Qfp) (b : Boiler) (as : List Arrival) : Boiler :=
  as.foldl (onReading qfp) b

/-- The boiler behind the transfers. -/
def afterTransfers (can : Canard) (qfp : Qfp) (b : Boiler) (as : List Arrival) : Boiler :=
  as.foldl (fun b a => b.onObisData can qfp a.now a.timestamp a.transfer) b

variable {can : Canard} {qfp : Qfp} {b : Boiler}

/-! ## Messages -/

theorem length_message (e : SmlEntry) : e.message.length = 12 := by
  rw [SmlEntry.message, List.length_append, length_leBytes]
  rfl

/-- **An Obis message** brings the register and the value of its entry. -/
theorem decodeObis_message (can : Canard) {e : SmlEntry} {transfer : CanardRxTransfer}
    (h : transfer.payload = e.message) :
    decodeObis can transfer = ⟨e.register, e.reading⟩ := by
  have hlen := length_message e
  have hlt : e.reading < 2 ^ 64 := (extend64 e.signed e.value).isLt
  have hcode : ∀ i < 3, UInt8.ofNat ((can.decodeScalar e.message (8 * i) 8).getD 0) =
      e.message.getD i 0 := by
    intro i hi
    rw [can.decode_byte e.message i (by omega), Option.getD_some, UInt8.ofNat_toNat,
      List.getD_eq_getElem _ _ (by omega)]
  have hvalue : can.decodeScalar e.message 32 64 = some e.reading := by
    have hbytes := can.decode_bytes e.message 4 8 (by decide) (by decide) (by omega)
    have htail : (e.message.drop 4).take 8 = leBytes 8 e.reading :=
      List.take_of_length_le (length_leBytes _ _).le
    rw [htail, leNat_leBytes, Nat.mod_eq_of_lt (hlt.trans_eq (by decide))] at hbytes
    exact hbytes
  rw [decodeObis, h, hvalue, Option.getD_some, Nat.mod_eq_of_lt hlt]
  congr 1
  exact List.map_congr_left fun i hi => hcode i (List.mem_range.mp hi)

theorem onObisData_message {a : Arrival} (h : a.transfer.payload = a.entry.message) (b : Boiler) :
    b.onObisData can qfp a.now a.timestamp a.transfer = onReading qfp b a := by
  rw [onObisData, decodeObis_message can h, onReading]
  dsimp only
  by_cases h180 : a.entry.register = [1, 8, 0]
  · rw [if_pos h180, if_pos h180, if_neg]
    rw [h180]
    decide
  · rw [if_neg h180, if_neg h180]

theorem afterTransfers_eq {as : List Arrival}
    (h : ∀ a ∈ as, a.transfer.payload = a.entry.message) (b : Boiler) :
    afterTransfers can qfp b as = afterReadings qfp b as := by
  induction as generalizing b with
  | nil => rfl
  | cons a as ih =>
    obtain ⟨ha, has⟩ := List.forall_mem_cons.mp h
    show afterTransfers can qfp (b.onObisData can qfp a.now a.timestamp a.transfer) as = _
    rw [onObisData_message ha, ih has]
    rfl

/-! ## What the boiler keeps -/

theorem afterReadings_snoc (b : Boiler) (as : List Arrival) (a : Arrival) :
    afterReadings qfp b (as ++ [a]) = onReading qfp (afterReadings qfp b as) a := by
  rw [afterReadings, List.foldl_append]
  rfl

theorem onReading_180 {a : Arrival} (h : a.entry.register = [1, 8, 0]) (b : Boiler) :
    onReading qfp b a = b.onObis180 qfp a.entry.reading a.timestamp := if_pos h

theorem onReading_280 {a : Arrival} (h : a.entry.register = [2, 8, 0]) (b : Boiler) :
    onReading qfp b a = b.onObis280 qfp a.now a.entry.reading a.timestamp := by
  rw [onReading, h, if_neg (by decide), if_pos rfl]

theorem onReading_other {a : Arrival} (h180 : a.entry.register ≠ [1, 8, 0])
    (h280 : a.entry.register ≠ [2, 8, 0]) (b : Boiler) : onReading qfp b a = b := by
  rw [onReading, if_neg h180, if_neg h280]

theorem last280meter_onObis180 (value timestamp : ℕ) (b : Boiler) :
    (b.onObis180 qfp value timestamp).last280meter = b.last280meter := by
  unfold onObis180
  dsimp only
  split <;> rfl

theorem last180meter_onObis280 (now value timestamp : ℕ) (b : Boiler) :
    (b.onObis280 qfp now value timestamp).last180meter = b.last180meter := by
  unfold onObis280
  dsimp only
  split <;> rfl

/-- **The last reading of 1.8.0** is kept. -/
theorem last180meter_after (b : Boiler) (as : List Arrival) :
    (afterReadings qfp b as).last180meter = lastReading [1, 8, 0] b.last180meter as := by
  induction as using List.reverseRecOn with
  | nil => rfl
  | append_singleton as a ih =>
    rw [afterReadings_snoc, lastReading_snoc, ← ih]
    by_cases h180 : a.entry.register = [1, 8, 0]
    · rw [onReading_180 h180, if_pos h180]
      rfl
    · rw [if_neg h180]
      by_cases h280 : a.entry.register = [2, 8, 0]
      · rw [onReading_280 h280, last180meter_onObis280]
      · rw [onReading_other h180 h280]

/-- **The last reading of 2.8.0** is kept. -/
theorem last280meter_after (b : Boiler) (as : List Arrival) :
    (afterReadings qfp b as).last280meter = lastReading [2, 8, 0] b.last280meter as := by
  induction as using List.reverseRecOn with
  | nil => rfl
  | append_singleton as a ih =>
    rw [afterReadings_snoc, lastReading_snoc, ← ih]
    by_cases h180 : a.entry.register = [1, 8, 0]
    · rw [onReading_180 h180, last280meter_onObis180, if_neg]
      rw [h180]
      decide
    · by_cases h280 : a.entry.register = [2, 8, 0]
      · rw [onReading_280 h280, if_pos h280]
        rfl
      · rw [onReading_other h180 h280, if_neg h280]

theorem afterReadings_other {as : List Arrival}
    (h : ∀ a ∈ as, a.entry.register ≠ [1, 8, 0] ∧ a.entry.register ≠ [2, 8, 0]) (b : Boiler) :
    afterReadings qfp b as = b := by
  induction as with
  | nil => rfl
  | cons a as ih =>
    obtain ⟨ha, has⟩ := List.forall_mem_cons.mp h
    show afterReadings qfp (onReading qfp b a) as = b
    rw [onReading_other ha.1 ha.2, ih has]

/-- A reading of 1.8.0 behind an earlier one. -/
theorem onObis180_of_ne (h : b.last180meter.reading ≠ 0) (value timestamp : ℕ) :
    b.onObis180 qfp value timestamp =
      { b with
        fresh180reading := true
        last180reading := meterPower qfp b.last180meter value timestamp
        last180meter := ⟨value, timestamp⟩ } := by
  unfold onObis180
  rw [if_pos h]

/-- A reading of 2.8.0 behind an earlier one and a new reading of 1.8.0. -/
theorem onObis280_of_fresh (h : b.last280meter.reading ≠ 0) (hfresh : b.fresh180reading = true)
    (now value timestamp : ℕ) :
    b.onObis280 qfp now value timestamp =
      { b.regulate qfp now
          (int32 (b.last180reading - meterPower qfp b.last280meter value timestamp)) timestamp with
        fresh180reading := false
        last280meter := ⟨value, timestamp⟩ } := by
  unfold onObis280
  rw [if_pos ⟨h, hfresh⟩]

/-! ## From the stream to the controller -/

/-- **The boiler regulates on what the meter measured.** A stream with a reading of 1.8.0 and
behind it one of 2.8.0, with any other entries around them and in any parts, makes the boiler
regulate on the power between these and the last readings of the two registers before them. -/
theorem meter_regulates (can : Canard) (qfp : Qfp) {s : Sml} (hport : s.port = some .sd1)
    (hsearch : Searching s) (before between : List Arrival) (a180 a280 : Arrival)
    (h180 : a180.entry.register = [1, 8, 0]) (h280 : a280.entry.register = [2, 8, 0])
    (hother : ∀ a ∈ between, a.entry.register ≠ [1, 8, 0] ∧ a.entry.register ≠ [2, 8, 0])
    (last : SmlGap) (ticks : List (List UInt8))
    (hticks : ticks.flatten = meterStream (before ++ a180 :: between ++ [a280]) last)
    (hbus : (before ++ a180 :: between ++ [a280]).map (fun a => a.transfer.payload) =
      (Machine.run HouseBus.appFastTick s ticks).broadcasts.drop s.broadcasts.length)
    (b : Boiler) (hne180 : (lastReading [1, 8, 0] b.last180meter before).reading ≠ 0)
    (hne280 : (lastReading [2, 8, 0] b.last280meter before).reading ≠ 0) :
    let power180 := meterPower qfp (lastReading [1, 8, 0] b.last180meter before)
      a180.entry.reading a180.timestamp
    let power280 := meterPower qfp (lastReading [2, 8, 0] b.last280meter before)
      a280.entry.reading a280.timestamp
    afterTransfers can qfp b (before ++ a180 :: between ++ [a280]) =
      { (afterTransfers can qfp b (before ++ a180 :: between)).regulate qfp a280.now
          (int32 (power180 - power280)) a280.timestamp with
        fresh180reading := false
        last280meter := a280.meterReading } := by
  have hsent := sml_decodes s hport hsearch _ last ticks hticks
  rw [hsent, List.drop_left, List.map_map] at hbus
  have hpayload : ∀ a ∈ before ++ a180 :: between ++ [a280],
      a.transfer.payload = a.entry.message := List.map_inj_left.mp hbus
  have hfirst : ∀ a ∈ before ++ a180 :: between, a.transfer.payload = a.entry.message :=
    fun a ha => hpayload a (List.mem_append_left _ ha)
  rw [afterTransfers_eq hpayload, afterTransfers_eq hfirst, afterReadings_snoc, onReading_280 h280]
  have hsplit : afterReadings qfp b (before ++ a180 :: between) =
      (afterReadings qfp b before).onObis180 qfp a180.entry.reading a180.timestamp := by
    rw [afterReadings, List.foldl_append, List.foldl_cons, ← afterReadings, ← afterReadings,
      afterReadings_other hother, onReading_180 h180]
  have hlast180 := @last180meter_after qfp b before
  have hlast280 := @last280meter_after qfp b before
  rw [hsplit]
  rw [← hlast180] at hne180
  have hfresh : ((afterReadings qfp b before).onObis180 qfp a180.entry.reading
      a180.timestamp).fresh180reading = true := by
    rw [onObis180_of_ne hne180]
  have hne : ((afterReadings qfp b before).onObis180 qfp a180.entry.reading
      a180.timestamp).last280meter.reading ≠ 0 := by
    rw [last280meter_onObis180, hlast280]
    exact hne280
  rw [onObis280_of_fresh hne hfresh, last280meter_onObis180, hlast280, ← hlast180,
    onObis180_of_ne hne180]
  rfl

/-- The entry with the message that the boiler receives for it at a system time. -/
def arrive (entry : SmlEntry) (time : ℕ) : Arrival where
  gap := ⟨[], by decide⟩
  entry := entry
  transfer := ⟨1, 0, 0, entry.message, by rw [length_message]; decide, fun _ => 0⟩
  timestamp := time
  now := time

/-- An entry for 2.8.0. -/
def exportEntry : SmlEntry := { meterEntry with obis := ([2, 8, 0, 255] : List UInt8).get }

theorem meter_regulates_twice :
    (afterTransfers .uavcan (Qfp.const 0) (Boiler.start 2)
      [arrive meterEntry 0, arrive exportEntry 0, arrive meterEntry 20000,
        arrive exportEntry 20000]).controllerUpdate = true :=
  have hport : (Sml.start (some .sd1)).port = some .sd1 := rfl
  congrArg Boiler.controllerUpdate (meter_regulates .uavcan (Qfp.const 0) hport ⟨rfl, rfl⟩
    [arrive meterEntry 0, arrive exportEntry 0] [] (arrive meterEntry 20000)
    (arrive exportEntry 20000) (by decide) (by decide) (by decide) ⟨[], by decide⟩
    [meterEntry.bytes ++ exportEntry.bytes, meterEntry.bytes ++ exportEntry.bytes]
    (by decide +kernel) (by decide +kernel) (Boiler.start 2) (by decide +kernel)
    (by decide +kernel))

end Boiler

end HouseBus
