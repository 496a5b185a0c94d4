import HouseBus.Eeprom
import HouseBus.Lib.Records
import HouseBus.Lib.Machine
import Mathlib.Data.List.Nodup

/-!
# The configuration store (`sw/config.h`, `sw/config.c`)

A table gives name, size and type of each parameter. The parameters lie one after another in the
EEPROM, each with a length byte in front: these are `Records` with the sizes of the table
(`getParamOffset_eq`). A `config_param_t` has one byte, so a caller's 16-bit id comes in modulo 256.

On a bus without failures `configSet` is `Records.set` of the first bytes of its source
(`configSet_works`) and `configGet` reports `Records.get` (`configGet_works`).
-/

namespace HouseBus

open Bytes

/-- `config_param_type_t` -/
inductive ConfigParamType
  | void
  | int
  | string
  | float32
  deriving DecidableEq

/-- One `X(...)` of the table. -/
structure ConfigParam where
  name : String
  size : ℕ
  type : ConfigParamType

/-- `CONFIG(X)` -/
def configParams : List ConfigParam := [
  ⟨"CONFIG_MAGIC", 4, .int⟩,
  ⟨"CONFIG_VERSION", 4, .int⟩,
  ⟨"CONFIG_NODE_ID", 4, .int⟩,
  ⟨"CONFIG_NODE_NAME", 80, .string⟩,
  ⟨"CONFIG_HAS_ANALOG_CONDUCTION_SENSOR", 4, .int⟩,
  ⟨"CONFIG_HAS_WATER_REFILL_OUTPUT_PIN", 4, .int⟩,
  ⟨"CONFIG_PUMP_TRIGGER_SOURCE", 4, .int⟩,
  ⟨"CONFIG_PUMP_STOP_CONDITION_1", 4, .int⟩,
  ⟨"CONFIG_PUMP_STOP_CONDITION_2", 4, .int⟩,
  ⟨"CONFIG_EVENTCOUNT0_PORT", 4, .int⟩,
  ⟨"CONFIG_EVENTCOUNT0_PIN", 4, .int⟩,
  ⟨"CONFIG_EVENTCOUNT0_MIN_STABLE_MS", 4, .int⟩,
  ⟨"CONFIG_EVENTCOUNT1_PORT", 4, .int⟩,
  ⟨"CONFIG_EVENTCOUNT1_PIN", 4, .int⟩,
  ⟨"CONFIG_EVENTCOUNT1_MIN_STABLE_MS", 4, .int⟩,
  ⟨"CONFIG_EVENTCOUNT2_PORT", 4, .int⟩,
  ⟨"CONFIG_EVENTCOUNT2_PIN", 4, .int⟩,
  ⟨"CONFIG_EVENTCOUNT2_MIN_STABLE_MS", 4, .int⟩,
  ⟨"CONFIG_EVENTCOUNT3_PORT", 4, .int⟩,
  ⟨"CONFIG_EVENTCOUNT3_PIN", 4, .int⟩,
  ⟨"CONFIG_EVENTCOUNT3_MIN_STABLE_MS", 4, .int⟩,
  ⟨"CONFIG_SML_PORT", 4, .int⟩,
  ⟨"CONFIG_DIMMER_PIN", 4, .int⟩,
  ⟨"CONFIG_DIMMER_DUTY_CYCLE", 4, .int⟩,
  ⟨"CONFIG_DIMMER_PERIOD_IN_HALFWAVES", 4, .int⟩,
  ⟨"CONFIG_PUMP_RECEIVER_PIN", 4, .int⟩,
  ⟨"CONFIG_PUMP_RECEIVER_TARGET_NODE_ID", 4, .int⟩,
  ⟨"CONFIG_HAS_LIGHT_CONTROL", 4, .int⟩,
  ⟨"CONFIG_HEATER_FLOW_MIN_TARGET_TEMP", 4, .int⟩,
  ⟨"CONFIG_HEATER_FLOW_HYSTERESIS_TURN_ON", 4, .int⟩,
  ⟨"CONFIG_HEATER_FLOW_HYSTERESIS_TURN_OFF", 4, .int⟩,
  ⟨"CONFIG_HEATER_FLOW_MIN_CIRCULATION_TEMP", 4, .int⟩,
  ⟨"CONFIG_HEATER_BURNER_TEMP_RISE_MIN_TIME", 4, .int⟩,
  ⟨"CONFIG_HEATER_BURNER_MIN_OFF_TIME", 4, .int⟩,
  ⟨"CONFIG_HEATER_CIRCULATION_MIN_ON_FOR_THRESHOLD", 4, .int⟩,
  ⟨"CONFIG_HEATER_TIME_1_START", 4, .int⟩,
  ⟨"CONFIG_HEATER_TIME_1_STOP", 4, .int⟩,
  ⟨"CONFIG_HEATER_TIME_1_TEMP", 4, .int⟩,
  ⟨"CONFIG_HEATER_TIME_2_TEMP", 4, .int⟩,
  ⟨"CONFIG_TEMPERATURE_RECEIVER_TARGET_NODE_ID", 4, .int⟩,
  ⟨"CONFIG_WALL_TEMPERATURE_FACTOR_BY_1024", 4, .int⟩,
  ⟨"CONFIG_FAN_ON_ABOVE_MILLI_RELATIVE_HUMIDITY", 4, .int⟩,
  ⟨"CONFIG_FAN_RUN_OUT_TIME_S", 4, .int⟩,
  ⟨"CONFIG_HUMIDITY_ALARM_FIRST_AFTER_S", 4, .int⟩,
  ⟨"CONFIG_HUMIDITY_ALARM_REPEAT_INTERVAL_S", 4, .int⟩,
  ⟨"CONFIG_HUMIDITY_ALARM_FIRST_MELODY", 4, .int⟩,
  ⟨"CONFIG_HUMIDITY_ALARM_REPEAT_MELODY", 4, .int⟩,
  ⟨"CONFIG_HUMIDITY_ALARM_VOLUME", 4, .int⟩,
  ⟨"CONFIG_BOILER_TARGET_POWER", 4, .int⟩,
  ⟨"CONFIG_BOILER_PID_KP", 4, .float32⟩,
  ⟨"CONFIG_BOILER_PID_KD", 4, .float32⟩,
  ⟨"CONFIG_BOILER_PID_KI", 4, .float32⟩,
  ⟨"CONFIG_BOILER_MAX_TEMPERATURE", 4, .int⟩,
  ⟨"CONFIG_BOILER_MIN_TEMPERATURE", 4, .int⟩,
  ⟨"CONFIG_BOILER_TARGET_TEMPERATURE", 4, .int⟩,
  ⟨"CONFIG_HEATER_DEVIATION_HYSTERESIS", 4, .int⟩,
  ⟨"CONFIG_PARAM_LAST", 0, .void⟩]

/-- `CONFIG_PARAM_LAST` -/
def configParamLast : ℕ := 56

/-- The entry of a parameter. -/
def configParam (param : ℕ) : ConfigParam :=
  configParams.getD param ⟨"CONFIG_PARAM_LAST", 0, .void⟩

/-- `CONFIG_OK` -/
def configOk : ℤ := 0

/-- `CONFIG_NO_SUCH_PARAMETER` -/
def configNoSuchParameter : ℤ := -1

/-- `CONFIG_MEMORY_ERROR` -/
def configMemoryError : ℤ := -2

/-! ## The functions -/

/-- `config_get_param_size` -/
def configGetParamSize (param : ℕ) : ℕ :=
  if configParamLast ≤ param then 0 else (configParam param).size

/-- `config_get_param_type`; `none` for -1. -/
def configGetParamType (param : ℕ) : Option ConfigParamType :=
  if configParamLast ≤ param then none else some (configParam param).type

/-- `get_param_storage_size` -/
def getParamStorageSize (param : ℕ) : ℕ := configGetParamSize param + 1

/-- The loop of `get_param_offset`: it counts the parameter down. -/
def getParamOffsetFrom : (param offset : ℕ) → ℕ
  | 0, offset => offset
  | param + 1, offset => getParamOffsetFrom param (offset + getParamStorageSize param)

/-- `get_param_offset` -/
def getParamOffset (param : ℕ) : ℕ := getParamOffsetFrom param 0

/-- The bytes of a parameter's name, without the terminating zero. -/
def configParamName (param : ℕ) : List UInt8 :=
  (configParam param).name.toUTF8.data.toList

/-- `config_get_id_by_name`: the first parameter with this name; `none` for
`CONFIG_NO_SUCH_PARAMETER`. -/
def configGetIdByName (name : List UInt8) : Option ℕ :=
  (List.range configParamLast).find? fun res => configParamName res = name

/-- What `config_get` returns and leaves behind its pointers: the length for `*valid` (`none`: it
is not written), the indices of `dst` it may store to. -/
structure ConfigGet where
  ret : ℤ
  valid : Option ℕ
  dst : Mem
  stores : List ℕ
  i2c : I2c

/-- `config_get` to `dst[base..]`; no caller passes a null pointer for `dst`. -/
def configGet (bus : Bus) (param base : ℕ) (dst : Mem) (s : I2c) : ConfigGet :=
  if configParamLast ≤ param then ⟨configNoSuchParameter, some 0, dst, [], s⟩
  else
    let offset := getParamOffset param
    let length := eepromRead bus offset 1 0 (fun _ => 0) s
    if length.ret < 0 then ⟨configMemoryError, none, dst, [], length.i2c⟩
    else
      let validLength := (length.out 0).toNat
      let validLength :=
        if configGetParamSize param < validLength then configGetParamSize param else validLength
      let data := eepromRead bus (offset + 1) validLength base dst length.i2c
      { ret := if data.ret < 0 then configMemoryError else configOk
        valid := some validLength
        dst := data.out
        stores := List.range' base validLength
        i2c := data.i2c }

/-- `config_get_int`: the little-endian bytes as a signed number of 32 bits. -/
def configGetInt (bus : Bus) (param : ℕ) (s : I2c) : ℤ × I2c :=
  let int (res : Mem) : ℤ := (BitVec.ofNat 32 (leNat (read res 0 4))).toInt
  if configGetParamSize param ≤ 4 then
    let g := configGet bus param 0 (fun _ => 0) s
    (int g.dst, g.i2c)
  else (int fun _ => 0, s)

/-- The number of bytes that `config_set` stores. -/
def configSetSize (param size : ℕ) : ℕ :=
  let reservedSize := configGetParamSize param
  if reservedSize < size then reservedSize else size

/-- `config_set` of `src[0..size)`. -/
def configSet (bus : Bus) (param : ℕ) (src : Mem) (size : ℕ) (s : I2c) : ℤ × I2c :=
  if configParamLast ≤ param then (configNoSuchParameter, s)
  else
    let offset := getParamOffset param
    let size := configSetSize param size
    let length := eepromWrite bus offset (fun _ => UInt8.ofNat size) 1 s
    let data := eepromWrite bus (offset + 1) src size length.2
    (if length.1 = 0 ∧ data.1 = 0 then configOk else configMemoryError, data.2)

/-- `CONFIG_MAX_SIZE` -/
def configMaxSize : ℕ := 16384

/-- The loop of `config_init` that clears the storage, before it sets the defaults. -/
def configClear (bus : Bus) (s : I2c) : I2c :=
  (List.range (configMaxSize / eepromPageSize)).foldl
    (fun s i => (eepromWrite bus (eepromPageSize * i) (fun _ => 0) eepromPageSize s).2) s

/-! ## The table -/

/-- The size of the parameter area. -/
def configSize : ℕ := getParamOffset configParamLast

theorem configSize_eq : configSize = 356 := by decide

theorem configGetParamSize_le (param : ℕ) : configGetParamSize param ≤ 80 := by
  unfold configGetParamSize
  split
  · exact Nat.zero_le _
  · rename_i h
    have hall : ∀ p < configParamLast, (configParam p).size ≤ 80 := by decide
    exact hall param (by omega)

theorem configSetSize_eq (param size : ℕ) :
    configSetSize param size = min size (configGetParamSize param) := by
  simp only [configSetSize]
  split <;> omega

/-- A parameter exists if its size is not zero. -/
theorem configGetParamSize_ne_zero {param : ℕ} :
    configGetParamSize param ≠ 0 ↔ param < configParamLast := by
  unfold configGetParamSize
  split
  · rename_i h; simp; omega
  · rename_i h
    have hall : ∀ p < configParamLast, (configParam p).size ≠ 0 := by decide
    exact ⟨fun _ => by omega, fun hlt => hall param hlt⟩

theorem length_configParamName {p : ℕ} (h : p < configParamLast) :
    0 < (configParamName p).length ∧ (configParamName p).length ≤ 64 := by
  have hall : ∀ p < configParamLast,
      0 < (configParamName p).length ∧ (configParamName p).length ≤ 64 := by decide +kernel
  exact hall p h

/-- Every name begins with `C`. -/
theorem configGetIdByName_of_head {name : List UInt8} (h : name.head? ≠ some 67) :
    configGetIdByName name = none := by
  have hall : ∀ p < configParamLast, (configParamName p).head? = some 67 := by decide +kernel
  rw [configGetIdByName, List.find?_eq_none]
  intro p hp hname
  apply h
  rw [← of_decide_eq_true hname]
  exact hall p (List.mem_range.mp hp)

/-- The names differ, already as numbers. -/
theorem configParamName_inj {p q : ℕ} (hp : p < configParamLast) (hq : q < configParamLast)
    (h : configParamName p = configParamName q) : p = q := by
  have hnodup : ((List.range configParamLast).map fun p => beNat (configParamName p)).Nodup := by
    decide +kernel
  exact List.inj_on_of_nodup_map hnodup (List.mem_range.mpr hp) (List.mem_range.mpr hq)
    (congrArg beNat h)

/-- Each name is found as that of its own parameter. -/
theorem configGetIdByName_configParamName {p : ℕ} (h : p < configParamLast) :
    configGetIdByName (configParamName p) = some p := by
  rw [configGetIdByName, List.find?_range_eq_some]
  refine ⟨decide_eq_true rfl, List.mem_range.mpr h, fun q hq => ?_⟩
  rw [Bool.not_eq_true', decide_eq_false_iff_not]
  exact fun heq => hq.ne (configParamName_inj (hq.trans h) h heq)

/-- The parameters are the records of the library. -/
theorem getParamOffset_eq (param : ℕ) :
    getParamOffset param = Records.offset configGetParamSize param := by
  have hfrom : ∀ offset, getParamOffsetFrom param offset =
      offset + Records.offset configGetParamSize param := by
    induction param with
    | zero => exact fun offset => rfl
    | succ param ih =>
      intro offset
      rw [getParamOffsetFrom, ih, Records.offset, getParamStorageSize]
      omega
  rw [getParamOffset, hfrom, Nat.zero_add]

/-- A parameter ends inside the parameter area. -/
theorem getParamOffset_add_le {param : ℕ} (h : param < configParamLast) :
    getParamOffset param + configGetParamSize param + 1 ≤ 356 := by
  rw [← configSize_eq, configSize, getParamOffset_eq, getParamOffset_eq]
  exact Records.offset_le h

/-- `config_get` leaves the memory as it is. -/
@[simp] theorem eeprom_configGet (bus : Bus) (param base : ℕ) (dst : Mem) (s : I2c) :
    (configGet bus param base dst s).i2c.eeprom = s.eeprom := by
  unfold configGet
  simp only
  split
  · rfl
  · split
    · exact eeprom_eepromRead _ _ _ _ _ _
    · rw [eeprom_eepromRead, eeprom_eepromRead]

/-! ## Without failures -/

/-- The bytes that the store holds for a parameter. -/
abbrev configValue (m : Mem) : ℕ → List UInt8 := Records.get configGetParamSize m

/-- The bytes that a `config_set` of `src[0..size)` stores. -/
def configSetBytes (param : ℕ) (src : Mem) (size : ℕ) : List UInt8 :=
  read src 0 (min size (configGetParamSize param))

section Works

variable {param : ℕ} (h : param < configParamLast)
include h

theorem configGet_works (base : ℕ) (dst : Mem) (s : I2c) :
    configGet .works param base dst s =
      { ret := configOk
        valid := some (configValue s.eeprom param).length
        dst := write dst base (configValue s.eeprom param)
        stores := List.range' base (configValue s.eeprom param).length
        i2c := s.next.next } := by
  have hend := getParamOffset_add_le h
  have hlength : ∀ out, eepromRead .works (getParamOffset param) 1 0 out s =
      ⟨0, write out 0 (read s.eeprom (getParamOffset param) 1), s.next⟩ := by
    intro out
    exact eepromRead_works 0 out s (by simp only [eepromCapacity]; omega)
  have hvalue : configValue s.eeprom param = read s.eeprom (getParamOffset param + 1)
      (min (s.eeprom (getParamOffset param)).toNat (configGetParamSize param)) := by
    rw [getParamOffset_eq]; rfl
  have hbyte : (write (fun _ => 0) 0 (read s.eeprom (getParamOffset param) 1) 0).toNat =
      (s.eeprom (getParamOffset param)).toNat := by
    rw [read_succ, write_head]
  have hmin : (if configGetParamSize param < (s.eeprom (getParamOffset param)).toNat
      then configGetParamSize param else (s.eeprom (getParamOffset param)).toNat) =
        min (s.eeprom (getParamOffset param)).toNat (configGetParamSize param) := by
    split <;> omega
  have hfits : getParamOffset param + 1 +
      min (s.eeprom (getParamOffset param)).toNat (configGetParamSize param) ≤
        eepromCapacity := by
    simp only [eepromCapacity]
    omega
  have hdata := eepromRead_works base dst s.next hfits
  rw [configGet, if_neg (by omega)]
  simp only [hlength, hbyte, hmin, hdata, hvalue, length_read, I2c.eeprom_next]
  rfl

theorem configSet_works (src : Mem) (size : ℕ) (s : I2c) :
    (configSet .works param src size s).1 = configOk ∧
      (configSet .works param src size s).2.eeprom =
        Records.set configGetParamSize s.eeprom param (configSetBytes param src size) := by
  have hend := getParamOffset_add_le h
  rw [configSet, if_neg (by omega)]
  simp only [configSetSize_eq]
  generalize hn : min size (configGetParamSize param) = n
  have hfits1 : getParamOffset param + 1 ≤ eepromCapacity := by
    simp only [eepromCapacity]; omega
  have hfits2 : getParamOffset param + 1 + n ≤ eepromCapacity := by
    simp only [eepromCapacity]; omega
  obtain ⟨hlength, hlengthMem⟩ := eepromWrite_works (fun _ => UInt8.ofNat n) s hfits1
  generalize eepromWrite .works (getParamOffset param) (fun _ => UInt8.ofNat n) 1 s = length
    at hlength hlengthMem
  obtain ⟨hdata, hdataMem⟩ := eepromWrite_works src length.2 hfits2
  refine ⟨by rw [if_pos ⟨hlength, hdata⟩], ?_⟩
  rw [hdataMem, hlengthMem, Records.set, configSetBytes, hn, length_read, ← getParamOffset_eq,
    write_cons, put_eq_write]
  rfl

end Works

/-- The first pages after the clearing loop. -/
theorem clearPages_works (s : I2c) {n x : ℕ} (hn : eepromPageSize * n ≤ eepromCapacity)
    (hx : x < eepromPageSize * n) :
    ((List.range n).foldl
      (fun s i => (eepromWrite .works (eepromPageSize * i) (fun _ => 0) eepromPageSize s).2)
      s).eeprom x = 0 := by
  induction n with
  | zero => cases hx
  | succ n ih =>
    rw [List.range_succ, List.foldl_append, List.foldl_cons, List.foldl_nil]
    rw [Nat.mul_succ] at hn hx
    generalize List.foldl _ s (List.range n) = s' at ih
    rw [(eepromWrite_works (fun _ => 0) s' hn).2]
    by_cases hlt : x < eepromPageSize * n
    · rw [write_of_lt _ _ hlt]
      exact ih (by omega) hlt
    · obtain ⟨i, rfl⟩ := Nat.exists_eq_add_of_le (Nat.not_lt.mp hlt)
      rw [write_add _ _ _ _ (by rw [length_read]; omega), getElem_read]

theorem eeprom_configClear (s : I2c) {x : ℕ} (hx : x < configMaxSize) :
    (configClear .works s).eeprom x = 0 := by
  rw [configClear]
  apply clearPages_works
  · decide
  · simp only [configMaxSize, eepromPageSize] at hx ⊢
    omega

/-- A cleared storage has no value. -/
theorem configValue_configClear {param : ℕ} (h : param < configParamLast) (s : I2c) :
    configValue (configClear .works s).eeprom param = [] := by
  have hend := getParamOffset_add_le h
  have hzero : (configClear .works s).eeprom (getParamOffset param) = 0 :=
    eeprom_configClear s (by simp only [configMaxSize]; omega)
  rw [getParamOffset_eq] at hzero
  exact Records.get_zeros hzero

theorem length_configSetBytes (param : ℕ) (src : Mem) (size : ℕ) :
    (configSetBytes param src size).length = min size (configGetParamSize param) :=
  length_read _ _ _

/-- Of the bytes `bs` the parameter takes what it has room for. -/
theorem configSetBytes_write (param : ℕ) (m : Mem) (bs : List UInt8) :
    configSetBytes param (write m 0 bs) bs.length = bs.take (configGetParamSize param) := by
  have hle : min bs.length (configGetParamSize param) ≤ bs.length := Nat.min_le_left _ _
  rw [configSetBytes, ← take_read _ _ _ _ hle, read_write, Nat.min_comm, ← List.take_eq_take_min]

theorem length_configSetBytes_le (param : ℕ) (src : Mem) (size : ℕ) :
    (configSetBytes param src size).length ≤ configGetParamSize param := by
  rw [length_configSetBytes]; exact Nat.min_le_right _ _

/-- A `config_set` updates the map of the parameters' values. -/
theorem configValue_configSet {param : ℕ} (h : param < configParamLast) (src : Mem) (size : ℕ)
    (s : I2c) :
    configValue (configSet .works param src size s).2.eeprom =
      Function.update (configValue s.eeprom) param (configSetBytes param src size) := by
  have hle := length_configSetBytes_le param src size
  have hsize := configGetParamSize_le param
  rw [(configSet_works h src size s).2]
  exact Records.get_set hle (by omega)

/-! ## A history of sets -/

/-- A call `config_set(param, src, size)`. -/
structure ConfigSet where
  param : Fin configParamLast
  src : Mem
  size : UInt8

/-- The bytes that the call stores. -/
def ConfigSet.bytes (c : ConfigSet) : List UInt8 := configSetBytes c.param c.src c.size.toNat

/-- The state after the calls `cs`. -/
def configSets (s : I2c) (cs : List ConfigSet) : I2c :=
  Machine.run (fun s c => (configSet .works c.param c.src c.size.toNat s).2) s cs

/-- The last call for a parameter. -/
def lastConfigSet (cs : List ConfigSet) (param : ℕ) : Option ConfigSet :=
  cs.reverse.find? fun c => c.param = param

/-- The values after a history of calls. -/
theorem configValue_configSets (s : I2c) (cs : List ConfigSet) (param : ℕ) :
    configValue (configSets s cs).eeprom param =
      ((lastConfigSet cs param).map ConfigSet.bytes).getD (configValue s.eeprom param) := by
  rw [lastConfigSet, ← Records.foldl_update]
  induction cs generalizing s with
  | nil => rfl
  | cons c cs ih =>
    rw [List.foldl_cons, ConfigSet.bytes, ← configValue_configSet c.param.isLt, ← ih]
    rfl

/-- The calls change no byte behind the parameter area. -/
theorem configSets_frame {x : ℕ} (hx : configSize ≤ x) (s : I2c) (cs : List ConfigSet) :
    (configSets s cs).eeprom x = s.eeprom x := by
  have hkeeps : Machine.Keeps
      (fun (s : I2c) (c : ConfigSet) => (configSet .works c.param c.src c.size.toNat s).2)
      fun s' => s'.eeprom x = s.eeprom x := by
    intro s' c h
    rw [(configSet_works c.param.isLt c.src c.size.toNat s').2, ← h]
    refine Records.set_of_ge (length_configSetBytes_le _ _ _) c.param.isLt ?_
    rw [← getParamOffset_eq]
    exact hx
  exact hkeeps.run rfl cs

/-- **The store is a map.** After any calls of `config_set`, for any parameters and sizes,
`config_get` reports the first bytes of the last call for the parameter, or what it reported
before; the length is never above the parameter's size, and nothing behind the parameter area
changes. -/
theorem configStore_map (s : I2c) (cs : List ConfigSet) (param : Fin configParamLast) (base : ℕ)
    (dst : Mem) :
    let before := configGet .works param base dst s
    let after := configGet .works param base dst (configSets s cs)
    let size := configGetParamSize param
    after.ret = configOk ∧
      (∀ c, lastConfigSet cs param = some c →
        after.valid = some (min c.size.toNat size) ∧
          after.dst = write dst base (read c.src 0 (min c.size.toNat size))) ∧
      (lastConfigSet cs param = none → after.valid = before.valid ∧ after.dst = before.dst) ∧
      (∃ valid ≤ size, after.valid = some valid) ∧
      ∀ x, configSize ≤ x → (configSets s cs).eeprom x = s.eeprom x := by
  have hvalue := configValue_configSets s cs param
  simp only [configGet_works param.isLt]
  refine ⟨trivial, ?_, ?_, ?_, fun x hx => configSets_frame hx s cs⟩
  · intro c hc
    have hparam : (c.param : ℕ) = param := by
      have := List.find?_some hc
      simpa using this
    rw [hvalue, hc, Option.map_some, Option.getD_some, ConfigSet.bytes, length_configSetBytes,
      configSetBytes, hparam]
    exact ⟨rfl, rfl⟩
  · intro hnone
    rw [hvalue, hnone, Option.map_none, Option.getD_none]
    exact ⟨rfl, rfl⟩
  · exact ⟨_, Records.length_get_le _ _, rfl⟩

end HouseBus
