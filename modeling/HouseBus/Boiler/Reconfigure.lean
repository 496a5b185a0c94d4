import HouseBus.Boiler
import HouseBus.Config.Getters

/-!
# Loading the configuration of the boiler (`sw/nodes/boiler.c`, `sw/dimmer.c`)

`reconfigure` loads the temperatures, the power and the dimmer as integers, and the gains of the PID
controller as floats. A gain that was not stored in full comes from the stack in part, so the loaded
configuration is a function of the store only for stores with all three gains (`reconfigure_iff`).
-/

namespace HouseBus

open Bytes

/-- `CONFIG_DIMMER_DUTY_CYCLE` -/
def configDimmerDutyCycle : ℕ := 23

/-- `CONFIG_DIMMER_PERIOD_IN_HALFWAVES` -/
def configDimmerPeriodInHalfwaves : ℕ := 24

/-- `CONFIG_BOILER_TARGET_POWER` -/
def configBoilerTargetPower : ℕ := 48

/-- `CONFIG_BOILER_PID_KP` -/
def configBoilerPidKp : ℕ := 49

/-- `CONFIG_BOILER_PID_KD` -/
def configBoilerPidKd : ℕ := 50

/-- `CONFIG_BOILER_PID_KI` -/
def configBoilerPidKi : ℕ := 51

/-- `CONFIG_BOILER_MAX_TEMPERATURE` -/
def configBoilerMaxTemperature : ℕ := 52

/-- `CONFIG_BOILER_MIN_TEMPERATURE` -/
def configBoilerMinTemperature : ℕ := 53

/-- `CONFIG_BOILER_TARGET_TEMPERATURE` -/
def configBoilerTargetTemperature : ℕ := 54

example : [configDimmerDutyCycle, configDimmerPeriodInHalfwaves, configBoilerTargetPower,
    configBoilerPidKp, configBoilerPidKd, configBoilerPidKi, configBoilerMaxTemperature,
    configBoilerMinTemperature, configBoilerTargetTemperature].map (fun p => (configParam p).name) =
    ["CONFIG_DIMMER_DUTY_CYCLE", "CONFIG_DIMMER_PERIOD_IN_HALFWAVES", "CONFIG_BOILER_TARGET_POWER",
      "CONFIG_BOILER_PID_KP", "CONFIG_BOILER_PID_KD", "CONFIG_BOILER_PID_KI",
      "CONFIG_BOILER_MAX_TEMPERATURE", "CONFIG_BOILER_MIN_TEMPERATURE",
      "CONFIG_BOILER_TARGET_TEMPERATURE"] := rfl

/-- What the variable of `config_get_float` holds at first, in the three calls of `reconfigure`. -/
structure PidStack where
  kp : Mem
  kd : Mem
  ki : Mem

namespace Boiler

/-- The calls of the getters in `reconfigure` and `dimmer_read_config`, in their order. -/
def getConfig (bus : Bus) (stack : PidStack) (s : I2c) : BoilerConfig × I2c :=
  let maxTemperature := configGetInt bus configBoilerMaxTemperature s
  let minTemperature := configGetInt bus configBoilerMinTemperature maxTemperature.2
  let targetTemperature := configGetInt bus configBoilerTargetTemperature minTemperature.2
  let kp := configGetFloat bus configBoilerPidKp stack.kp targetTemperature.2
  let kd := configGetFloat bus configBoilerPidKd stack.kd kp.2
  let ki := configGetFloat bus configBoilerPidKi stack.ki kd.2
  let targetPower := configGetInt bus configBoilerTargetPower ki.2
  let period := configGetUint bus configDimmerPeriodInHalfwaves targetPower.2
  let dutyCycle := configGetUint bus configDimmerDutyCycle period.2
  ({ maxTemperature := maxTemperature.1
     minTemperature := minTemperature.1
     targetTemperature := targetTemperature.1
     pidKp := kp.1
     pidKd := kd.1
     pidKi := ki.1
     targetPower := targetPower.1
     dimmerPeriod := period.1
     dimmerDutyCycle := dutyCycle.1 }, dutyCycle.2)

/-- `reconfigure`, from the store. -/
def reconfigureFrom (bus : Bus) (stack : PidStack) (s : I2c) (b : Boiler) : Boiler :=
  b.reconfigure (getConfig bus stack s).1

/-- The gains of the PID controller. -/
def pidParams : List WordParam :=
  [⟨configBoilerPidKp, rfl⟩, ⟨configBoilerPidKd, rfl⟩, ⟨configBoilerPidKi, rfl⟩]

/-- What is loaded is a function of the store: two calls of `reconfigure` with the same stored
configuration load the same, whatever is on the stack. -/
def LoadsStore (m : Mem) (b : Boiler) : Prop :=
  ∀ (s s' : I2c) (stack stack' : PidStack), s.eeprom = m → s'.eeprom = m →
    b.reconfigureFrom .works stack s = b.reconfigureFrom .works stack' s'

/-! ## Without failures -/

/-- The values that are loaded when all gains are stored in full. -/
def storedConfig (m : Mem) : BoilerConfig where
  maxTemperature := (BitVec.ofNat 32 (leNat (storedBytes m configBoilerMaxTemperature))).toInt
  minTemperature := (BitVec.ofNat 32 (leNat (storedBytes m configBoilerMinTemperature))).toInt
  targetTemperature :=
    (BitVec.ofNat 32 (leNat (storedBytes m configBoilerTargetTemperature))).toInt
  pidKp := UInt32.ofNat (leNat (storedBytes m configBoilerPidKp))
  pidKd := UInt32.ofNat (leNat (storedBytes m configBoilerPidKd))
  pidKi := UInt32.ofNat (leNat (storedBytes m configBoilerPidKi))
  targetPower := (BitVec.ofNat 32 (leNat (storedBytes m configBoilerTargetPower))).toInt
  dimmerPeriod := leNat (storedBytes m configDimmerPeriodInHalfwaves)
  dimmerDutyCycle := leNat (storedBytes m configDimmerDutyCycle)

/-- Only the gains depend on the stack. -/
theorem getConfig_works (stack : PidStack) (s : I2c) :
    (getConfig .works stack s).1 =
      { storedConfig s.eeprom with
        pidKp := (configGetFloat .works configBoilerPidKp stack.kp s).1
        pidKd := (configGetFloat .works configBoilerPidKd stack.kd s).1
        pidKi := (configGetFloat .works configBoilerPidKi stack.ki s).1 } := by
  unfold getConfig storedConfig
  simp (disch := decide) only [configGetInt_works, configGetUint_works, configGetFloat_works,
    I2c.eeprom_next]

/-- With all gains stored in full, the stored values are loaded. -/
theorem getConfig_of_fullyStored {s : I2c} (h : ∀ param ∈ pidParams, FullyStored s.eeprom param)
    (stack : PidStack) : (getConfig .works stack s).1 = storedConfig s.eeprom := by
  have hfloat : ∀ param ∈ pidParams, ∀ stack : Mem, (configGetFloat .works param stack s).1 =
      UInt32.ofNat (leNat (storedBytes s.eeprom param)) := by
    intro param hparam stack
    rw [configGetFloat_of_fullyStored param.property s (h param hparam)]
  obtain ⟨hkp, hkd, hki, -⟩ := by simpa only [pidParams, List.forall_mem_cons] using hfloat
  rw [getConfig_works, hkp, hkd, hki]
  rfl

/-- Stacks of zeros and of ones load the same gains only if these are stored in full. -/
theorem LoadsStore.fullyStored {m : Mem} {b : Boiler} (h : LoadsStore m b) :
    ∀ param ∈ pidParams, FullyStored m param := by
  let s : I2c := ⟨m, 0, []⟩
  let zeros : PidStack := ⟨fun _ => 0, fun _ => 0, fun _ => 0⟩
  let ones : PidStack := ⟨fun _ => 0xFF, fun _ => 0xFF, fun _ => 0xFF⟩
  have hloaded := congrArg Boiler.pidConfig (h s s zeros ones rfl rfl)
  unfold reconfigureFrom at hloaded
  rw [getConfig_works, getConfig_works] at hloaded
  have hkp := fullyStored_of_float_eq (by decide) s (congrArg PidControl.kp hloaded)
  have hkd := fullyStored_of_float_eq (by decide) s (congrArg PidControl.kd hloaded)
  have hki := fullyStored_of_float_eq (by decide) s (congrArg PidControl.ki hloaded)
  simp only [pidParams, List.forall_mem_cons]
  exact ⟨hkp, hkd, hki, List.forall_mem_nil _⟩

theorem loadsStore_iff (m : Mem) (b : Boiler) :
    LoadsStore m b ↔ ∀ param ∈ pidParams, FullyStored m param := by
  constructor
  · exact LoadsStore.fullyStored
  · rintro h s s' stack stack' rfl hs'
    unfold reconfigureFrom
    rw [getConfig_of_fullyStored h, getConfig_of_fullyStored (hs' ▸ h), hs']

/-- **Getters**: without failures, the getters of a parameter of four bytes return the stored bytes,
whatever is on the stack, if and only if it is stored in full; and `reconfigure` loads a function of
the store if and only if all gains are. -/
theorem reconfigure_iff (m : Mem) (b : Boiler) :
    (∀ param : WordParam, GettersReturnStored m param ↔ FullyStored m param) ∧
      (LoadsStore m b ↔ ∀ param ∈ pidParams, FullyStored m param) :=
  ⟨fun _ => gettersReturnStored_iff, loadsStore_iff m b⟩

/-- In a storage of zeros, `CONFIG_BOILER_PID_KP` was never set. -/
theorem not_loadsStore :
    ¬ ∀ (m : Mem) (b : Boiler),
      (∀ param : WordParam, GettersReturnStored m param) ∧ LoadsStore m b := by
  intro h
  obtain ⟨hgetters, -⟩ := h (fun _ => 0) (Boiler.start 1)
  have hfull := (hgetters ⟨configBoilerPidKp, rfl⟩).fullyStored
  exact absurd hfull (by decide)

end Boiler

end HouseBus
