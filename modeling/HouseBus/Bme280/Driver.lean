import HouseBus.Bme280
import HouseBus.Lib.BitFields
import HouseBus.Lib.Fallible

/-!
# The driver of the environment sensors (`sw/drivers/bme280_ll.c`)

A sensor is a set of registers behind an I2C bus. The sensor is a parameter (`BmeChip`) with what
its manual says as laws (`BmeChip.Lawful`). The bus is a parameter, too: it tells of each transfer
to the sensor, by its number, whether it succeeds. A write that fails may have reached the sensor.

A function of the driver is a program that can fail with a result code other than `BME280_OK`. The
pointers that `null_ptr_check` tests are set before the first call, and the interface is I2C.
-/

namespace HouseBus

open Fallible

/-! ## Registers and codes -/

/-- `BME280_CHIP_ID_ADDR` -/
def bme280ChipIdAddr : BitVec 8 := 0xD0

/-- `BME280_RESET_ADDR` -/
def bme280ResetAddr : BitVec 8 := 0xE0

/-- `BME280_TEMP_PRESS_CALIB_DATA_ADDR` -/
def bme280TempPressCalibDataAddr : BitVec 8 := 0x88

/-- `BME280_HUMIDITY_CALIB_DATA_ADDR` -/
def bme280HumidityCalibDataAddr : BitVec 8 := 0xE1

/-- `BME280_CTRL_HUM_ADDR` -/
def bme280CtrlHumAddr : BitVec 8 := 0xF2

/-- `BME280_CTRL_MEAS_ADDR`, which is `BME280_PWR_CTRL_ADDR`, too. -/
def bme280CtrlMeasAddr : BitVec 8 := 0xF4

/-- `BME280_CONFIG_ADDR` -/
def bme280ConfigAddr : BitVec 8 := 0xF5

/-- `BME280_DATA_ADDR` -/
def bme280DataAddr : BitVec 8 := 0xF7

/-- `BME280_TEMP_PRESS_CALIB_DATA_LEN` -/
def bme280TempPressCalibDataLen : ℕ := 26

/-- `BME280_HUMIDITY_CALIB_DATA_LEN` -/
def bme280HumidityCalibDataLen : ℕ := 7

/-- `BME280_P_T_H_DATA_LEN` -/
def bme280PTHDataLen : ℕ := 8

/-- `BME280_E_DEV_NOT_FOUND` -/
def bme280EDevNotFound : Int8 := -2

/-- `BME280_W_INVALID_OSR_MACRO` -/
def bme280WInvalidOsrMacro : Int8 := 1

/-- The value of `BME280_RESET_ADDR` that resets the sensor. -/
def bme280SoftRstCmd : BitVec 8 := 0xB6

/-- `BME280_SLEEP_MODE` -/
def bme280SleepMode : BitVec 8 := 0

/-- `BME280_NORMAL_MODE` -/
def bme280NormalMode : BitVec 8 := 3

/-- `BME280_SENSOR_MODE` -/
def bme280SensorMode : BitField 8 := ⟨0x03, 0⟩

/-- `BME280_CTRL_HUM` -/
def bme280CtrlHum : BitField 8 := ⟨0x07, 0⟩

/-- `BME280_CTRL_PRESS` -/
def bme280CtrlPress : BitField 8 := ⟨0x1C, 2⟩

/-- `BME280_CTRL_TEMP` -/
def bme280CtrlTemp : BitField 8 := ⟨0xE0, 5⟩

/-- `BME280_FILTER` -/
def bme280Filter : BitField 8 := ⟨0x1C, 2⟩

/-- `BME280_STANDBY` -/
def bme280Standby : BitField 8 := ⟨0xE0, 5⟩

/-- `BME280_OSR_PRESS_SEL` -/
def bme280OsrPressSel : BitVec 8 := 1

/-- `BME280_OSR_TEMP_SEL` -/
def bme280OsrTempSel : BitVec 8 := 2

/-- `BME280_OSR_HUM_SEL` -/
def bme280OsrHumSel : BitVec 8 := 4

/-- `BME280_FILTER_SEL` -/
def bme280FilterSel : BitVec 8 := 8

/-- `BME280_STANDBY_SEL` -/
def bme280StandbySel : BitVec 8 := 16

/-- `BME280_ALL_SETTINGS_SEL` -/
def bme280AllSettingsSel : BitVec 8 := 0x1F

/-- `OVERSAMPLING_SETTINGS` -/
def oversamplingSettings : BitVec 8 := 0x07

/-- `FILTER_STANDBY_SETTINGS` -/
def filterStandbySettings : BitVec 8 := 0x18

/-- `BME280_CHIP_ID`, `BMP280_CHIP_ID1`, `BMP280_CHIP_ID2` and `BMP280_CHIP_ID3` -/
def bmeChipIds : List UInt8 := [bme280ChipId, 0x56, 0x57, 0x58]

/-! ## The data of the driver -/

/-- `struct bme280_settings` -/
structure BmeSettings where
  osrP : BitVec 8
  osrT : BitVec 8
  osrH : BitVec 8
  filter : BitVec 8
  standbyTime : BitVec 8
  deriving DecidableEq

/-- `struct bme280_calib_data` without `t_fine`. -/
structure BmeCalibData where
  digT1 : BitVec 16
  digT2 : BitVec 16
  digT3 : BitVec 16
  digP1 : BitVec 16
  digP2 : BitVec 16
  digP3 : BitVec 16
  digP4 : BitVec 16
  digP5 : BitVec 16
  digP6 : BitVec 16
  digP7 : BitVec 16
  digP8 : BitVec 16
  digP9 : BitVec 16
  digH1 : BitVec 8
  digH2 : BitVec 16
  digH3 : BitVec 8
  digH4 : BitVec 16
  digH5 : BitVec 16
  digH6 : BitVec 8
  deriving DecidableEq

/-- `struct bme280_dev`: what the driver stores. -/
structure BmeDev where
  chipId : UInt8
  calibData : BmeCalibData
  settings : BmeSettings

/-- The static `bme[i]` before the first call. -/
def BmeDev.start : BmeDev where
  chipId := 0
  calibData := ⟨0, 0, 0, 0, 0, 0, 0, 0, 0, 0, 0, 0, 0, 0, 0, 0, 0, 0⟩
  settings := ⟨0, 0, 0, 0, 0⟩

/-- The registers that a transfer has read: `reg_data`. -/
abbrev BmeRegData := ℕ → BitVec 8

/-- `parse_device_settings` -/
def parseDeviceSettings (regData : BmeRegData) : BmeSettings where
  osrH := bme280CtrlHum.get (regData 0)
  osrP := bme280CtrlPress.get (regData 2)
  osrT := bme280CtrlTemp.get (regData 2)
  filter := bme280Filter.get (regData 3)
  standbyTime := bme280Standby.get (regData 3)

/-- `parse_temp_press_calib_data` -/
def parseTempPressCalibData (regData : BmeRegData) (c : BmeCalibData) : BmeCalibData :=
  { c with
    digT1 := regData 1 ++ regData 0
    digT2 := regData 3 ++ regData 2
    digT3 := regData 5 ++ regData 4
    digP1 := regData 7 ++ regData 6
    digP2 := regData 9 ++ regData 8
    digP3 := regData 11 ++ regData 10
    digP4 := regData 13 ++ regData 12
    digP5 := regData 15 ++ regData 14
    digP6 := regData 17 ++ regData 16
    digP7 := regData 19 ++ regData 18
    digP8 := regData 21 ++ regData 20
    digP9 := regData 23 ++ regData 22
    digH1 := regData 25 }

/-- `parse_humidity_calib_data` -/
def parseHumidityCalibData (regData : BmeRegData) (c : BmeCalibData) : BmeCalibData :=
  let digH4Msb : BitVec 16 := (regData 3).signExtend 16 * 16
  let digH4Lsb : BitVec 16 := (regData 4 &&& 0x0F).setWidth 16
  let digH5Msb : BitVec 16 := (regData 5).signExtend 16 * 16
  let digH5Lsb : BitVec 16 := (regData 4 >>> 4).setWidth 16
  { c with
    digH2 := regData 1 ++ regData 0
    digH3 := regData 2
    digH4 := digH4Msb ||| digH4Lsb
    digH5 := digH5Msb ||| digH5Lsb
    digH6 := regData 6 }

/-! ## The sensor and the bus -/

/-- A sensor: the registers that a state shows, what a write does, what time does until the next
transfer, and the humidity oversampling that the sensor measures with. -/
structure BmeChip (σ : Type) where
  read : σ → BitVec 8 → BitVec 8
  write : σ → BitVec 8 → BitVec 8 → σ
  idle : σ → σ
  humidityInUse : σ → BitVec 8

/-- The end of a transfer: a write that fails may have been `taken`. -/
inductive BmeTransfer
  | ok
  | failed (taken : Bool)
  deriving DecidableEq

/-- The end of each transfer to the sensor. -/
abbrev BmeBus := ℕ → BmeTransfer

/-- The sensor, the transfers to it so far, and the `struct bme280_dev` for it. -/
structure BmeLink (σ : Type) where
  chip : σ
  transfers : ℕ
  dev : BmeDev

/-- A function of the driver. -/
abbrev BmeM (σ : Type) := EStateM Int8 (BmeLink σ)

namespace BmeDriver

variable {σ : Type} (chip : BmeChip σ) (bus : BmeBus)

/-- The state in which the sensor gets the next transfer. -/
def BmeLink.next (s : BmeLink σ) : BmeLink σ :=
  { s with chip := chip.idle s.chip, transfers := s.transfers + 1 }

/-- `bme280_get_regs`, with `i2c_read` -/
def getRegs (regAddr : BitVec 8) (len : ℕ) : BmeM σ BmeRegData := fun s =>
  let next := BmeLink.next chip s
  match bus s.transfers with
  | .ok => .ok (fun i => if i < len then chip.read next.chip (regAddr + i) else 0) next
  | .failed _ => .error bme280ECommFail next

/-- `bme280_set_regs` of one register, with `i2c_write` -/
def setRegs (regAddr regData : BitVec 8) : BmeM σ Unit := fun s =>
  let next := BmeLink.next chip s
  let written := { next with chip := chip.write next.chip regAddr regData }
  match bus s.transfers with
  | .ok => .ok () written
  | .failed taken => .error bme280ECommFail (if taken then written else next)

/-! ## The functions of the driver -/

/-- `bme280_soft_reset` -/
def bme280SoftReset : BmeM σ Unit := setRegs chip bus bme280ResetAddr bme280SoftRstCmd

/-- `bme280_get_sensor_mode` -/
def bme280GetSensorMode : BmeM σ (BitVec 8) := do
  let regData ← getRegs chip bus bme280CtrlMeasAddr 1
  return bme280SensorMode.get (regData 0)

/-- `set_osr_humidity_settings` -/
def setOsrHumiditySettings (settings : BmeSettings) : BmeM σ Unit := do
  setRegs chip bus bme280CtrlHumAddr (settings.osrH &&& bme280CtrlHum.mask)
  let ctrlMeas ← getRegs chip bus bme280CtrlMeasAddr 1
  setRegs chip bus bme280CtrlMeasAddr (ctrlMeas 0)

/-- `set_osr_press_temp_settings` -/
def setOsrPressTempSettings (desiredSettings : BitVec 8) (settings : BmeSettings) :
    BmeM σ Unit := do
  let regData ← getRegs chip bus bme280CtrlMeasAddr 1
  let reg := regData 0
  let reg :=
    if desiredSettings &&& bme280OsrPressSel ≠ 0 then bme280CtrlPress.set reg settings.osrP else reg
  let reg :=
    if desiredSettings &&& bme280OsrTempSel ≠ 0 then bme280CtrlTemp.set reg settings.osrT else reg
  setRegs chip bus bme280CtrlMeasAddr reg

/-- `set_osr_settings`: the result for pressure and temperature replaces the one for humidity. -/
def setOsrSettings (desiredSettings : BitVec 8) (settings : BmeSettings) : BmeM σ Unit := do
  let rslt ← attempt
    (if desiredSettings &&& bme280OsrHumSel ≠ 0 then setOsrHumiditySettings chip bus settings
    else throw bme280WInvalidOsrMacro)
  if desiredSettings &&& (bme280OsrPressSel ||| bme280OsrTempSel) ≠ 0 then
    setOsrPressTempSettings chip bus desiredSettings settings
  else done rslt

/-- `set_filter_standby_settings` -/
def setFilterStandbySettings (desiredSettings : BitVec 8) (settings : BmeSettings) :
    BmeM σ Unit := do
  let regData ← getRegs chip bus bme280ConfigAddr 1
  let reg := regData 0
  let reg :=
    if desiredSettings &&& bme280FilterSel ≠ 0 then bme280Filter.set reg settings.filter else reg
  let reg :=
    if desiredSettings &&& bme280StandbySel ≠ 0 then bme280Standby.set reg settings.standbyTime
    else reg
  setRegs chip bus bme280ConfigAddr reg

/-- `reload_device_settings` -/
def reloadDeviceSettings (settings : BmeSettings) : BmeM σ Unit := do
  setOsrSettings chip bus bme280AllSettingsSel settings
  setFilterStandbySettings chip bus bme280AllSettingsSel settings

/-- `put_device_to_sleep` -/
def putDeviceToSleep : BmeM σ Unit := do
  let regData ← getRegs chip bus bme280CtrlHumAddr 4
  bme280SoftReset chip bus
  reloadDeviceSettings chip bus (parseDeviceSettings regData)

/-- A sensor that does not sleep is put to sleep, before its settings or its mode are set. -/
def sleepFirst : BmeM σ Unit := do
  let sensorMode ← bme280GetSensorMode chip bus
  runIf (sensorMode ≠ bme280SleepMode) (putDeviceToSleep chip bus)

/-- `are_settings_changed` -/
def areSettingsChanged (subSettings desiredSettings : BitVec 8) : Bool :=
  decide (subSettings &&& desiredSettings ≠ 0)

/-- `bme280_set_sensor_settings` -/
def bme280SetSensorSettings (desiredSettings : BitVec 8) : BmeM σ Unit := do
  let settings := (← get).dev.settings
  sleepFirst chip bus
  runIf (areSettingsChanged oversamplingSettings desiredSettings)
    (setOsrSettings chip bus desiredSettings settings)
  runIf (areSettingsChanged filterStandbySettings desiredSettings)
    (setFilterStandbySettings chip bus desiredSettings settings)

/-- `write_power_mode` -/
def writePowerMode (sensorMode : BitVec 8) : BmeM σ Unit := do
  let regData ← getRegs chip bus bme280CtrlMeasAddr 1
  setRegs chip bus bme280CtrlMeasAddr (bme280SensorMode.set (regData 0) sensorMode)

/-- `bme280_set_sensor_mode` -/
def bme280SetSensorMode (sensorMode : BitVec 8) : BmeM σ Unit := do
  sleepFirst chip bus
  writePowerMode chip bus sensorMode

/-- `get_calib_data` -/
def getCalibData : BmeM σ Unit := do
  let regData ← getRegs chip bus bme280TempPressCalibDataAddr bme280TempPressCalibDataLen
  modify fun s => { s with dev.calibData := parseTempPressCalibData regData s.dev.calibData }
  let regData ← getRegs chip bus bme280HumidityCalibDataAddr bme280HumidityCalibDataLen
  modify fun s => { s with dev.calibData := parseHumidityCalibData regData s.dev.calibData }

/-- The loop of `bme280_init` with `tries` tries left. -/
def initTries : (tries : ℕ) → BmeM σ Unit
  | 0 => throw bme280EDevNotFound
  | tries + 1 => do
    match ← attempt (getRegs chip bus bme280ChipIdAddr 1) with
    | .ok regData =>
      let chipId := UInt8.ofBitVec (regData 0)
      if chipId ∈ bmeChipIds then
        modify fun s => { s with dev.chipId := chipId }
        bme280SoftReset chip bus
        getCalibData chip bus
      else initTries tries
    | .error _ => initTries tries

/-- `bme280_init` -/
def bme280Init : BmeM σ Unit := initTries chip bus 5

end BmeDriver

/-! ## The start of the module -/

/-- The settings in `bme280_app_init`: oversampling 8 for the humidity, 2 for pressure and
temperature, filter coefficient 4 and 500 ms of standby. -/
def bmeAppSettings : BmeSettings where
  osrP := 2
  osrT := 2
  osrH := 4
  filter := 2
  standbyTime := 4

namespace BmeDriver

variable {σ : Type} (chip : BmeChip σ)

/-- A round of the loop in `bme280_app_init`: whether the sensor was found. -/
def appInitRound (bus : BmeBus) : BmeM σ Bool := do
  let res ← attempt (bme280Init chip bus)
  modify fun s => { s with dev.settings := bmeAppSettings }
  let _ ← attempt (bme280SetSensorSettings chip bus bme280AllSettingsSel)
  let _ ← attempt (bme280SetSensorMode chip bus bme280NormalMode)
  return res.toBool

/-- The link of a sensor behind its round, and whether the round found it. -/
def roundEnd (bus : BmeBus) (s : BmeLink σ) : Bool × BmeLink σ :=
  match appInitRound chip bus s with
  | .ok found s => (found, s)
  | .error _ s => (false, s)

/-- `bme280_app_init`: the module, and the links of its sensors. -/
def bme280AppInit (bus : BmeSensor → BmeBus) (link : BmeSensor → BmeLink σ) :
    Bme280 × (BmeSensor → BmeLink σ) :=
  let round := fun i => roundEnd chip (bus i) (link i)
  let bmePresence := [BmeSensor.primary, .secondary].foldl
    (fun presence i => if (round i).1 then presence ||| 1 <<< UInt8.ofNat i.index else presence) 0
  ({ bmePresence := bmePresence
     chipId := fun i => (round i).2.dev.chipId
     bmeReading := fun _ => ⟨0, 0, 0⟩
     messages := [] },
    fun i => (round i).2)

end BmeDriver

end HouseBus
