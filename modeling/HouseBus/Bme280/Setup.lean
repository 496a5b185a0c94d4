import HouseBus.Bme280.Driver

/-!
# The settings of a sensor

The registers of a sensor show its settings (`BmeChip.settings`), its mode, and the humidity
oversampling in use. The driver writes settings to a sleeping sensor alone: a sensor that measures is
reset first, which loses its settings, and the driver writes them again.

`bme280SetSensorSettings` ends, if it does not fail, with the settings that are asked for and the
former ones for the others (`setSensorSettings_ok`), except for the humidity: `setOsrSettings` drops
the failure of its transfers. With no failure on the bus all settings are right.
-/

namespace HouseBus

open Fallible

/-! ## What a sensor does -/

/-- The registers that the maker has written: identification and calibration. -/
def BmeFixed (r : BitVec 8) : Prop :=
  r = bme280ChipIdAddr ∨ (0x88 ≤ r ∧ r ≤ 0xA1) ∨ (0xE1 ≤ r ∧ r ≤ 0xE7)

instance : DecidablePred BmeFixed := fun _ => inferInstanceAs (Decidable (_ ∨ _))

/-- The control registers. -/
def BmeControl (r : BitVec 8) : Prop :=
  r = bme280CtrlHumAddr ∨ r = bme280CtrlMeasAddr ∨ r = bme280ConfigAddr

namespace BmeChip

variable {σ : Type} (chip : BmeChip σ) (c : σ)

/-- The settings in the registers. -/
def settings : BmeSettings where
  osrP := bme280CtrlPress.get (chip.read c bme280CtrlMeasAddr)
  osrT := bme280CtrlTemp.get (chip.read c bme280CtrlMeasAddr)
  osrH := bme280CtrlHum.get (chip.read c bme280CtrlHumAddr)
  filter := bme280Filter.get (chip.read c bme280ConfigAddr)
  standbyTime := bme280Standby.get (chip.read c bme280ConfigAddr)

/-- The mode in the registers. -/
def mode : BitVec 8 := bme280SensorMode.get (chip.read c bme280CtrlMeasAddr)

/-- The sensor is a BME280, which measures the humidity, too. -/
def IsBme : Prop := UInt8.ofBitVec (chip.read c bme280ChipIdAddr) = bme280ChipId

/-- The manual: a reset leads to the sleep mode; a write changes one register; `ctrl_hum` takes
effect with a write of `ctrl_meas`; `config` is written in the sleep mode; a forced measurement ends
in the sleep mode, and nothing else changes with time. -/
structure Lawful : Prop where
  mode_reset (c : σ) : chip.mode (chip.write c bme280ResetAddr bme280SoftRstCmd) = bme280SleepMode
  fixed_reset (c : σ) {r : BitVec 8} : BmeFixed r →
    chip.read (chip.write c bme280ResetAddr bme280SoftRstCmd) r = chip.read c r
  read_write_of_ne (c : σ) (v : BitVec 8) {r r' : BitVec 8} : BmeControl r → BmeFixed r' ∨ BmeControl r' → r' ≠ r →
    chip.read (chip.write c r v) r' = chip.read c r'
  ctrlHum_write (c : σ) (v : BitVec 8) : chip.IsBme c →
    bme280CtrlHum.get (chip.read (chip.write c bme280CtrlHumAddr v) bme280CtrlHumAddr) =
      bme280CtrlHum.get v
  ctrlMeas_write (c : σ) (v : BitVec 8) :
    chip.read (chip.write c bme280CtrlMeasAddr v) bme280CtrlMeasAddr = v
  config_write (c : σ) (v : BitVec 8) : chip.mode c = bme280SleepMode →
    chip.read (chip.write c bme280ConfigAddr v) bme280ConfigAddr &&& 0xFC = v &&& 0xFC
  inUse_ctrlMeas (c : σ) (v : BitVec 8) : chip.IsBme c →
    chip.humidityInUse (chip.write c bme280CtrlMeasAddr v) = (chip.settings c).osrH
  inUse_of_ne (c : σ) (v : BitVec 8) {r : BitVec 8} : BmeControl r → r ≠ bme280CtrlMeasAddr →
    chip.humidityInUse (chip.write c r v) = chip.humidityInUse c
  read_idle (c : σ) {r : BitVec 8} : BmeFixed r ∨ r = bme280CtrlHumAddr ∨ r = bme280ConfigAddr →
    chip.read (chip.idle c) r = chip.read c r
  ctrlMeas_idle (c : σ) : chip.read (chip.idle c) bme280CtrlMeasAddr =
      chip.read c bme280CtrlMeasAddr ∨
    (chip.mode c ≠ bme280NormalMode ∧ chip.read (chip.idle c) bme280CtrlMeasAddr =
      bme280SensorMode.set (chip.read c bme280CtrlMeasAddr) bme280SleepMode)
  inUse_idle (c : σ) : chip.humidityInUse (chip.idle c) = chip.humidityInUse c

end BmeChip

/-- Some transfer to the sensor fails. -/
def BmeBus.Faulty (bus : BmeBus) : Prop := ∃ n, bus n ≠ .ok

/-- The settings `former` with those of `wanted` that `desired` selects. -/
def BmeSettings.select (desired : BitVec 8) (wanted former : BmeSettings) : BmeSettings where
  osrP :=
    if desired &&& bme280OsrPressSel ≠ 0 then wanted.osrP &&& bme280CtrlPress.fits else former.osrP
  osrT :=
    if desired &&& bme280OsrTempSel ≠ 0 then wanted.osrT &&& bme280CtrlTemp.fits else former.osrT
  osrH :=
    if desired &&& bme280OsrHumSel ≠ 0 then wanted.osrH &&& bme280CtrlHum.fits else former.osrH
  filter :=
    if desired &&& bme280FilterSel ≠ 0 then wanted.filter &&& bme280Filter.fits else former.filter
  standbyTime :=
    if desired &&& bme280StandbySel ≠ 0 then wanted.standbyTime &&& bme280Standby.fits
    else former.standbyTime

/-! ## The registers under a write -/

section Chip

variable {σ : Type} {chip : BmeChip σ} (h : chip.Lawful) {c : σ}
include h

namespace BmeChip.Lawful

theorem isBme_write {r : BitVec 8} (hr : BmeControl r) (v : BitVec 8) :
    chip.IsBme (chip.write c r v) ↔ chip.IsBme c := by
  have hne : bme280ChipIdAddr ≠ r := by rcases hr with rfl | rfl | rfl <;> decide
  unfold BmeChip.IsBme
  rw [h.read_write_of_ne c v hr (.inl (.inl rfl)) hne]

theorem isBme_reset :
    chip.IsBme (chip.write c bme280ResetAddr bme280SoftRstCmd) ↔ chip.IsBme c := by
  unfold BmeChip.IsBme
  rw [h.fixed_reset c (.inl rfl)]

theorem isBme_idle : chip.IsBme (chip.idle c) ↔ chip.IsBme c := by
  unfold BmeChip.IsBme
  rw [h.read_idle c (.inl (.inl rfl))]

theorem ctrlMeas_of_ne {r : BitVec 8} (hr : BmeControl r) (hne : bme280CtrlMeasAddr ≠ r)
    (v : BitVec 8) : chip.read (chip.write c r v) bme280CtrlMeasAddr =
      chip.read c bme280CtrlMeasAddr :=
  h.read_write_of_ne c v hr (.inr (.inr (.inl rfl))) hne

theorem ctrlHum_of_ne {r : BitVec 8} (hr : BmeControl r) (hne : bme280CtrlHumAddr ≠ r)
    (v : BitVec 8) : chip.read (chip.write c r v) bme280CtrlHumAddr =
      chip.read c bme280CtrlHumAddr :=
  h.read_write_of_ne c v hr (.inr (.inl rfl)) hne

theorem config_of_ne {r : BitVec 8} (hr : BmeControl r) (hne : bme280ConfigAddr ≠ r)
    (v : BitVec 8) : chip.read (chip.write c r v) bme280ConfigAddr =
      chip.read c bme280ConfigAddr :=
  h.read_write_of_ne c v hr (.inr (.inr (.inr rfl))) hne

theorem settings_ctrlHum (hc : chip.IsBme c) (v : BitVec 8) :
    chip.settings (chip.write c bme280CtrlHumAddr v) =
      { chip.settings c with osrH := bme280CtrlHum.get v } := by
  unfold BmeChip.settings
  rw [h.ctrlMeas_of_ne (.inl rfl) (by decide), h.config_of_ne (.inl rfl) (by decide),
    h.ctrlHum_write c v hc]

theorem settings_ctrlMeas (v : BitVec 8) :
    chip.settings (chip.write c bme280CtrlMeasAddr v) =
      { chip.settings c with osrP := bme280CtrlPress.get v, osrT := bme280CtrlTemp.get v } := by
  unfold BmeChip.settings
  rw [h.ctrlMeas_write c v, h.config_of_ne (.inr (.inl rfl)) (by decide),
    h.ctrlHum_of_ne (.inr (.inl rfl)) (by decide)]

theorem settings_config (hc : chip.mode c = bme280SleepMode) (v : BitVec 8) :
    chip.settings (chip.write c bme280ConfigAddr v) =
      { chip.settings c with
        filter := bme280Filter.get v
        standbyTime := bme280Standby.get v } := by
  have hconfig := h.config_write c v hc
  unfold BmeChip.settings
  rw [h.ctrlMeas_of_ne (.inr (.inr rfl)) (by decide), h.ctrlHum_of_ne (.inr (.inr rfl)) (by decide),
    BitField.get_congr (f := bme280Filter) (m := 0xFC) (by decide) hconfig,
    BitField.get_congr (f := bme280Standby) (m := 0xFC) (by decide) hconfig]

theorem settings_idle : chip.settings (chip.idle c) = chip.settings c := by
  unfold BmeChip.settings
  rw [h.read_idle c (.inr (.inl rfl)), h.read_idle c (.inr (.inr rfl))]
  rcases h.ctrlMeas_idle c with hmeas | ⟨-, hmeas⟩
  · rw [hmeas]
  · rw [hmeas, BitField.get_set_of_disjoint (by decide), BitField.get_set_of_disjoint (by decide)]

/-- A sensor that sleeps or measures all the time goes on. -/
theorem mode_idle
    (hm : chip.mode c = bme280SleepMode ∨ chip.mode c = bme280NormalMode) :
    chip.mode (chip.idle c) = chip.mode c := by
  rcases h.ctrlMeas_idle c with hmeas | ⟨hnormal, hmeas⟩
  · unfold BmeChip.mode
    rw [hmeas]
  · rcases hm with hm | hm
    · rw [hm]
      unfold BmeChip.mode
      rw [hmeas, BitField.get_set]
      decide
    · exact absurd hm hnormal

theorem mode_of_ne {r : BitVec 8} (hr : BmeControl r) (hne : bme280CtrlMeasAddr ≠ r)
    (v : BitVec 8) : chip.mode (chip.write c r v) = chip.mode c := by
  unfold BmeChip.mode
  rw [h.ctrlMeas_of_ne hr hne]

theorem mode_ctrlMeas (v : BitVec 8) :
    chip.mode (chip.write c bme280CtrlMeasAddr v) = bme280SensorMode.get v := by
  unfold BmeChip.mode
  rw [h.ctrlMeas_write c v]

end BmeChip.Lawful

end Chip

/-! ## The transfers -/

namespace BmeDriver

section Driver

variable {σ : Type} (chip : BmeChip σ) (bus : BmeBus)

/-- A BME280 with the settings `w`. -/
structure Has (w : BmeSettings) (s : BmeLink σ) : Prop where
  bme : chip.IsBme s.chip
  settings : chip.settings s.chip = w

/-- A BME280 in the mode `m` with the settings `w`, which measures with the humidity oversampling
`u`. -/
structure Shows (m : BitVec 8) (w : BmeSettings) (u : BitVec 8) (s : BmeLink σ) : Prop
    extends Has chip w s where
  mode : chip.mode s.chip = m
  inUse : chip.humidityInUse s.chip = u

/-- The modes that a sensor does not leave on its own. -/
def Steady (m : BitVec 8) : Prop := m = bme280SleepMode ∨ m = bme280NormalMode

variable {chip} {bus} {w : BmeSettings} {m u : BitVec 8} {s : BmeLink σ}

section Transfers

variable {P R Q : BmeLink σ → Prop}

theorem getRegs_spec (regAddr : BitVec 8) (len : ℕ) (hP : ∀ s, P s → P (BmeLink.next chip s)) :
    Triple P (getRegs chip bus regAddr len)
      (fun regData s => P s ∧ ∀ i < len, regData i = chip.read s.chip (regAddr + i))
      fun s => bus.Faulty ∧ P s := by
  intro s hs
  unfold getRegs
  cases hbus : bus s.transfers with
  | ok => exact ⟨hP s hs, fun i hi => if_pos hi⟩
  | failed taken => exact ⟨⟨s.transfers, by simp [hbus]⟩, hP s hs⟩

theorem setRegs_spec (regAddr regData : BitVec 8) (hP : ∀ s, P s → R (BmeLink.next chip s))
    (hQ : ∀ s, R s → Q { s with chip := chip.write s.chip regAddr regData }) :
    Triple P (setRegs chip bus regAddr regData) (fun _ => Q)
      fun s => bus.Faulty ∧ (R s ∨ Q s) := by
  intro s hs
  have hnext := hP s hs
  unfold setRegs
  cases hbus : bus s.transfers with
  | ok => exact hQ _ hnext
  | failed taken =>
    refine ⟨⟨s.transfers, by simp [hbus]⟩, ?_⟩
    cases taken with
    | false => exact .inl hnext
    | true => exact .inr (hQ _ hnext)

end Transfers

variable (h : chip.Lawful)
include h

theorem Has.next (hs : Has chip w s) : Has chip w (BmeLink.next chip s) where
  bme := h.isBme_idle.mpr hs.bme
  settings := h.settings_idle.trans hs.settings

theorem Shows.next (hm : Steady m) (hs : Shows chip m w u s) :
    Shows chip m w u (BmeLink.next chip s) where
  toHas := hs.toHas.next h
  mode := (h.mode_idle (hs.mode.symm ▸ hm)).trans hs.mode
  inUse := (h.inUse_idle s.chip).trans hs.inUse

/-- What is read of `ctrl_meas`. -/
theorem getCtrlMeas_spec (hm : Steady m) :
    Triple (Shows chip m w u) (getRegs chip bus bme280CtrlMeasAddr 1)
      (fun regData s => (bme280CtrlPress.get (regData 0) = w.osrP ∧
        bme280CtrlTemp.get (regData 0) = w.osrT ∧ bme280SensorMode.get (regData 0) = m) ∧
        Shows chip m w u s)
      fun s => bus.Faulty ∧ Shows chip m w u s := by
  refine (getRegs_spec bme280CtrlMeasAddr 1 fun s hs => hs.next h hm).post ?_
  rintro regData s ⟨hs, hdata⟩
  have hread : regData 0 = chip.read s.chip bme280CtrlMeasAddr := hdata 0 Nat.zero_lt_one
  refine ⟨⟨?_, ?_, ?_⟩, hs⟩
  · rw [hread, ← hs.settings]; rfl
  · rw [hread, ← hs.settings]; rfl
  · rw [hread, ← hs.mode]; rfl

/-- What is read of `config`. -/
theorem getConfig_spec (hm : Steady m) :
    Triple (Shows chip m w u) (getRegs chip bus bme280ConfigAddr 1)
      (fun regData s => (bme280Filter.get (regData 0) = w.filter ∧
        bme280Standby.get (regData 0) = w.standbyTime) ∧ Shows chip m w u s)
      fun s => bus.Faulty ∧ Shows chip m w u s := by
  refine (getRegs_spec bme280ConfigAddr 1 fun s hs => hs.next h hm).post ?_
  rintro regData s ⟨hs, hdata⟩
  have hread : regData 0 = chip.read s.chip bme280ConfigAddr := hdata 0 Nat.zero_lt_one
  refine ⟨⟨?_, ?_⟩, hs⟩
  · rw [hread, ← hs.settings]; rfl
  · rw [hread, ← hs.settings]; rfl

theorem setCtrlHum_spec (hm : Steady m) (v : BitVec 8) :
    Triple (Shows chip m w u) (setRegs chip bus bme280CtrlHumAddr v)
      (fun _ => Shows chip m { w with osrH := bme280CtrlHum.get v } u)
      fun s => bus.Faulty ∧
        (Shows chip m w u s ∨ Shows chip m { w with osrH := bme280CtrlHum.get v } u s) := by
  refine setRegs_spec bme280CtrlHumAddr v (fun s hs => hs.next h hm) fun s hs => ?_
  have hr : BmeControl bme280CtrlHumAddr := .inl rfl
  refine ⟨⟨(h.isBme_write hr v).mpr hs.bme, ?_⟩, ?_, ?_⟩
  · rw [h.settings_ctrlHum hs.bme, hs.settings]
  · rw [h.mode_of_ne hr (by decide), hs.mode]
  · rw [h.inUse_of_ne _ _ hr (by decide), hs.inUse]

theorem setCtrlMeas_spec (hm : Steady m) (v : BitVec 8) :
    Triple (Shows chip m w u) (setRegs chip bus bme280CtrlMeasAddr v)
      (fun _ => Shows chip (bme280SensorMode.get v)
        { w with osrP := bme280CtrlPress.get v, osrT := bme280CtrlTemp.get v } w.osrH)
      fun s => bus.Faulty ∧ (Shows chip m w u s ∨ Shows chip (bme280SensorMode.get v)
        { w with osrP := bme280CtrlPress.get v, osrT := bme280CtrlTemp.get v } w.osrH s) := by
  refine setRegs_spec bme280CtrlMeasAddr v (fun s hs => hs.next h hm) fun s hs => ?_
  refine ⟨⟨(h.isBme_write (.inr (.inl rfl)) v).mpr hs.bme, ?_⟩, h.mode_ctrlMeas v, ?_⟩
  · rw [h.settings_ctrlMeas, hs.settings]
  · rw [h.inUse_ctrlMeas _ _ hs.bme, hs.settings]

/-- `config` is written in the sleep mode. -/
theorem setConfig_spec (v : BitVec 8) :
    Triple (Shows chip bme280SleepMode w u) (setRegs chip bus bme280ConfigAddr v)
      (fun _ => Shows chip bme280SleepMode
        { w with filter := bme280Filter.get v, standbyTime := bme280Standby.get v } u)
      fun _ => bus.Faulty := by
  have hr : BmeControl bme280ConfigAddr := .inr (.inr rfl)
  refine (setRegs_spec bme280ConfigAddr v (fun s hs => hs.next h (.inl rfl))
    fun s hs => ?_).conseq (fun _ => id) (fun _ _ => id) fun _ => And.left
  refine ⟨⟨(h.isBme_write hr v).mpr hs.bme, ?_⟩, ?_, ?_⟩
  · rw [h.settings_config hs.mode, hs.settings]
  · rw [h.mode_of_ne hr (by decide), hs.mode]
  · rw [h.inUse_of_ne _ _ hr (by decide), hs.inUse]

/-- The registers that `put_device_to_sleep` saves. -/
theorem getSettings_spec :
    Triple (Has chip w) (getRegs chip bus bme280CtrlHumAddr 4)
      (fun regData s => parseDeviceSettings regData = w ∧ Has chip w s)
      fun _ => bus.Faulty := by
  refine (getRegs_spec bme280CtrlHumAddr 4 fun s hs => hs.next h).conseq (fun _ => id) ?_
    fun _ => And.left
  rintro regData s ⟨hs, hdata⟩
  refine ⟨?_, hs⟩
  unfold parseDeviceSettings
  rw [hdata 0 (by decide), hdata 2 (by decide), hdata 3 (by decide), ← hs.settings]
  rfl

theorem softReset_spec :
    Triple (Has chip w) (bme280SoftReset chip bus)
      (fun _ s => ∃ w' u, Shows chip bme280SleepMode w' u s) fun _ => bus.Faulty := by
  refine (setRegs_spec bme280ResetAddr bme280SoftRstCmd (fun s hs => hs.next h)
    fun s hs => ?_).conseq (fun _ => id) (fun _ _ => id) fun _ => And.left
  exact ⟨_, _, ⟨⟨h.isBme_reset.mpr hs.bme, rfl⟩, h.mode_reset s.chip, rfl⟩⟩

/-! ## The functions of the driver -/

omit h in
theorem ctrlHum_get (x : BitVec 8) :
    bme280CtrlHum.get (x &&& bme280CtrlHum.mask) = x &&& bme280CtrlHum.fits := by
  unfold BitField.get BitField.fits
  rw [BitVec.and_assoc, BitVec.and_self]
  rfl

theorem setOsrHumidity_spec (x : BmeSettings) :
    Triple (Shows chip bme280SleepMode w u) (setOsrHumiditySettings chip bus x)
      (fun _ => Shows chip bme280SleepMode { w with osrH := x.osrH &&& bme280CtrlHum.fits }
        (x.osrH &&& bme280CtrlHum.fits))
      fun s => bus.Faulty ∧ ∃ h' u', Shows chip bme280SleepMode { w with osrH := h' } u' s := by
  have hsteady : Steady bme280SleepMode := .inl rfl
  refine Triple.bind ((setCtrlHum_spec h hsteady _).conseq (fun _ => id) (fun _ _ => id) ?_)
    fun _ => ?_
  · rintro s ⟨hfault, hs | hs⟩
    · exact ⟨hfault, w.osrH, u, hs⟩
    · exact ⟨hfault, _, u, hs⟩
  rw [ctrlHum_get]
  refine Triple.bind ((getCtrlMeas_spec h hsteady).conseq (fun _ => id) (fun _ _ => id) ?_)
    fun ctrlMeas => Triple.assume ?_
  · rintro s ⟨hfault, hs⟩
    exact ⟨hfault, _, u, hs⟩
  -- `ctrl_meas` is written as it was read
  rintro ⟨hpress, htemp, hmode⟩
  have hwrite := @setCtrlMeas_spec _ _ bus { w with osrH := x.osrH &&& bme280CtrlHum.fits } _ u h
    hsteady (ctrlMeas 0)
  rw [hpress, htemp, hmode] at hwrite
  refine hwrite.conseq (fun _ => id) (fun _ _ => id) ?_
  rintro s ⟨hfault, hs | hs⟩
  · exact ⟨hfault, _, u, hs⟩
  · exact ⟨hfault, _, _, hs⟩

omit h in
/-- The fields of `ctrl_meas` that `set_osr_press_temp_settings` writes. -/
theorem ctrlMeas_fields (desired r : BitVec 8) (x : BmeSettings) {reg : BitVec 8}
    (hreg : reg = (if desired &&& bme280OsrTempSel ≠ 0 then
        bme280CtrlTemp.set
          (if desired &&& bme280OsrPressSel ≠ 0 then bme280CtrlPress.set r x.osrP else r) x.osrT
      else if desired &&& bme280OsrPressSel ≠ 0 then bme280CtrlPress.set r x.osrP else r)) :
    bme280CtrlPress.get reg = (if desired &&& bme280OsrPressSel ≠ 0 then
        x.osrP &&& bme280CtrlPress.fits else bme280CtrlPress.get r) ∧
      bme280CtrlTemp.get reg = (if desired &&& bme280OsrTempSel ≠ 0 then
        x.osrT &&& bme280CtrlTemp.fits else bme280CtrlTemp.get r) ∧
      bme280SensorMode.get reg = bme280SensorMode.get r := by
  subst hreg
  have hpt : bme280CtrlPress.mask &&& bme280CtrlTemp.mask = 0 := by decide
  have htp : bme280CtrlTemp.mask &&& bme280CtrlPress.mask = 0 := by decide
  have hmt : bme280SensorMode.mask &&& bme280CtrlTemp.mask = 0 := by decide
  have hmp : bme280SensorMode.mask &&& bme280CtrlPress.mask = 0 := by decide
  refine ⟨?_, ?_, ?_⟩
  · split_ifs <;> simp only [BitField.get_set_of_disjoint hpt, BitField.get_set]
  · split_ifs <;> simp only [BitField.get_set_of_disjoint htp, BitField.get_set]
  · split_ifs <;> simp only [BitField.get_set_of_disjoint hmt, BitField.get_set_of_disjoint hmp]

theorem setOsrPressTemp_spec (desired : BitVec 8) (x : BmeSettings) :
    Triple (Shows chip bme280SleepMode w u) (setOsrPressTempSettings chip bus desired x)
      (fun _ => Shows chip bme280SleepMode
        { BmeSettings.select desired x w with
          osrH := w.osrH, filter := w.filter, standbyTime := w.standbyTime } w.osrH)
      fun _ => bus.Faulty := by
  have hsteady : Steady bme280SleepMode := .inl rfl
  refine Triple.bind ((getCtrlMeas_spec h hsteady).conseq (fun _ => id) (fun _ _ => id)
    fun _ => And.left) fun regData => Triple.assume ?_
  rintro ⟨hpress, htemp, hmode⟩
  obtain ⟨hpress', htemp', hmode'⟩ := ctrlMeas_fields desired (regData 0) x rfl
  refine (setCtrlMeas_spec h hsteady _).conseq (fun _ => id) ?_ fun _ => And.left
  intro _ s hs
  rw [hpress', htemp', hmode', hpress, htemp, hmode] at hs
  exact hs

omit h in
/-- The fields of `config` that `set_filter_standby_settings` writes. -/
theorem config_fields (desired r : BitVec 8) (x : BmeSettings) {reg : BitVec 8}
    (hreg : reg = (if desired &&& bme280StandbySel ≠ 0 then
        bme280Standby.set
          (if desired &&& bme280FilterSel ≠ 0 then bme280Filter.set r x.filter else r) x.standbyTime
      else if desired &&& bme280FilterSel ≠ 0 then bme280Filter.set r x.filter else r)) :
    bme280Filter.get reg = (if desired &&& bme280FilterSel ≠ 0 then
        x.filter &&& bme280Filter.fits else bme280Filter.get r) ∧
      bme280Standby.get reg = (if desired &&& bme280StandbySel ≠ 0 then
        x.standbyTime &&& bme280Standby.fits else bme280Standby.get r) := by
  subst hreg
  have hfs : bme280Filter.mask &&& bme280Standby.mask = 0 := by decide
  have hsf : bme280Standby.mask &&& bme280Filter.mask = 0 := by decide
  constructor
  · split_ifs <;> simp only [BitField.get_set_of_disjoint hfs, BitField.get_set]
  · split_ifs <;> simp only [BitField.get_set_of_disjoint hsf, BitField.get_set]

theorem setFilterStandby_spec (desired : BitVec 8) (x : BmeSettings) :
    Triple (Shows chip bme280SleepMode w u) (setFilterStandbySettings chip bus desired x)
      (fun _ => Shows chip bme280SleepMode
        { BmeSettings.select desired x w with osrP := w.osrP, osrT := w.osrT, osrH := w.osrH } u)
      fun _ => bus.Faulty := by
  refine Triple.bind ((getConfig_spec h (.inl rfl)).conseq (fun _ => id) (fun _ _ => id)
    fun _ => And.left) fun regData => Triple.assume ?_
  rintro ⟨hfilter, hstandby⟩
  obtain ⟨hfilter', hstandby'⟩ := config_fields desired (regData 0) x rfl
  refine (setConfig_spec h _).post ?_
  intro _ s hs
  rw [hfilter', hstandby', hfilter, hstandby] at hs
  exact hs

omit h in
theorem humidity_alone : ∀ desired : BitVec 8, areSettingsChanged oversamplingSettings desired →
    ¬ desired &&& (bme280OsrPressSel ||| bme280OsrTempSel) ≠ 0 →
    ¬ desired &&& bme280OsrPressSel ≠ 0 ∧ ¬ desired &&& bme280OsrTempSel ≠ 0 ∧
      desired &&& bme280OsrHumSel ≠ 0 := by
  decide +kernel

/-- The attempt for the humidity in `set_osr_settings`, where humidity is selected or not. -/
theorem attemptOsrHumidity_spec (desired : BitVec 8) (x : BmeSettings) :
    Triple (Shows chip bme280SleepMode w u)
      (attempt (if desired &&& bme280OsrHumSel ≠ 0 then setOsrHumiditySettings chip bus x
        else throw bme280WInvalidOsrMacro))
      (fun r s => ∃ hum, ((¬ bus.Faulty → hum = (BmeSettings.select desired x w).osrH) ∧
          (r.toBool = false → desired &&& bme280OsrHumSel ≠ 0 → bus.Faulty)) ∧
        ∃ u', (r.toBool → u' = hum) ∧ Shows chip bme280SleepMode { w with osrH := hum } u' s)
      fun _ => bus.Faulty := by
  by_cases hsel : desired &&& bme280OsrHumSel ≠ 0
  · rw [if_pos hsel]
    refine (setOsrHumidity_spec h x).attempt.conseq (fun _ => id) ?_ fun _ => False.elim
    rintro (e | a) s hs
    · obtain ⟨hfault, hum, u', hs⟩ := hs
      exact ⟨hum, ⟨fun hno => absurd hfault hno, fun _ _ => hfault⟩, u', nofun, hs⟩
    · refine ⟨_, ⟨fun _ => ?_, nofun⟩, _, fun _ => rfl, hs⟩
      exact (if_pos hsel).symm
  · rw [if_neg hsel]
    intro s hs
    exact ⟨w.osrH, ⟨fun _ => (if_neg hsel).symm, fun _ hne => absurd hne hsel⟩, u, nofun, hs⟩

/-- The settings for pressure and temperature are right if the function does not fail, the one for the
humidity if no transfer fails. -/
theorem setOsr_spec {desired : BitVec 8} (hdesired : areSettingsChanged oversamplingSettings desired)
    (x : BmeSettings) :
    Triple (Shows chip bme280SleepMode w u) (setOsrSettings chip bus desired x)
      (fun _ s => ∃ hum, (¬ bus.Faulty → hum = (BmeSettings.select desired x w).osrH) ∧
        Shows chip bme280SleepMode
          { BmeSettings.select desired x w with
            osrH := hum, filter := w.filter, standbyTime := w.standbyTime } hum s)
      fun _ => bus.Faulty := by
  refine Triple.bind (attemptOsrHumidity_spec h desired x) fun rslt => ?_
  refine Triple.of_exists fun hum => Triple.assume ?_
  rintro ⟨hhum, hfailed⟩
  refine Triple.of_exists fun u' => Triple.assume fun hu' => ?_
  split_ifs with hsel
  · refine (setOsrPressTemp_spec h desired x).post fun _ s hs => ?_
    exact ⟨hum, hhum, hs⟩
  · obtain ⟨hpress, htemp, hhumSel⟩ := humidity_alone desired hdesired hsel
    refine Triple.done fun s hs => ?_
    cases rslt with
    | error e => exact hfailed rfl hhumSel
    | ok a =>
      refine ⟨hum, hhum, ?_⟩
      rw [hu' rfl] at hs
      unfold BmeSettings.select
      rw [if_neg hpress, if_neg htemp]
      exact hs

omit h in
/-- The settings in the registers fit into them. -/
theorem select_settings (c : σ) (w' : BmeSettings) :
    BmeSettings.select bme280AllSettingsSel (chip.settings c) w' = chip.settings c := by
  unfold BmeChip.settings
  simp only [BmeSettings.select, BitField.get_and_fits]
  rfl

theorem reloadDeviceSettings_spec {x : BmeSettings}
    (hx : ∀ w', BmeSettings.select bme280AllSettingsSel x w' = x) :
    Triple (Shows chip bme280SleepMode w u) (reloadDeviceSettings chip bus x)
      (fun _ s => ∃ hum, (¬ bus.Faulty → hum = x.osrH) ∧
        Shows chip bme280SleepMode { x with osrH := hum } hum s)
      fun _ => bus.Faulty := by
  refine Triple.bind (setOsr_spec h (by decide) x) fun _ => ?_
  refine Triple.of_exists fun hum => Triple.assume fun hhum => ?_
  rw [hx] at hhum ⊢
  refine (setFilterStandby_spec h bme280AllSettingsSel x).post fun _ s hs => ?_
  rw [hx] at hs
  exact ⟨hum, hhum, hs⟩

theorem putDeviceToSleep_spec (hw : ∀ w', BmeSettings.select bme280AllSettingsSel w w' = w) :
    Triple (Has chip w) (putDeviceToSleep chip bus)
      (fun _ s => ∃ hum, (¬ bus.Faulty → hum = w.osrH) ∧
        Shows chip bme280SleepMode { w with osrH := hum } hum s)
      fun _ => bus.Faulty := by
  refine Triple.bind (getSettings_spec h) fun regData => Triple.assume ?_
  rintro rfl
  refine Triple.bind (softReset_spec h) fun _ => ?_
  refine Triple.of_exists fun w' => Triple.of_exists fun u => ?_
  exact reloadDeviceSettings_spec h hw

theorem getSensorMode_spec :
    Triple (Has chip w) (bme280GetSensorMode chip bus)
      (fun sensorMode s => Has chip w s ∧ chip.mode s.chip = sensorMode) fun _ => bus.Faulty := by
  refine Triple.bind ((getRegs_spec bme280CtrlMeasAddr 1 fun s hs => hs.next h).conseq
    (fun _ => id) (fun _ _ => id) fun _ => And.left) fun regData => Triple.ret ?_
  rintro s ⟨hs, hdata⟩
  have hread : regData 0 = chip.read s.chip bme280CtrlMeasAddr := hdata 0 Nat.zero_lt_one
  exact ⟨hs, by rw [hread]; rfl⟩

/-- The sensor sleeps with its former settings. -/
theorem sleepFirst_spec (hw : ∀ w', BmeSettings.select bme280AllSettingsSel w w' = w) :
    Triple (Has chip w) (sleepFirst chip bus)
      (fun _ s => ∃ hum u, (¬ bus.Faulty → hum = w.osrH) ∧
        Shows chip bme280SleepMode { w with osrH := hum } u s)
      fun _ => bus.Faulty := by
  refine Triple.bind (getSensorMode_spec h) fun sensorMode => Triple.runIf (fun _ => ?_) ?_
  · refine ((putDeviceToSleep_spec h hw).pre fun s hs => hs.1).post fun _ s => ?_
    rintro ⟨hum, hhum, hs⟩
    exact ⟨hum, hum, hhum, hs⟩
  · rintro hmode s ⟨hs, rfl⟩
    exact ⟨w.osrH, _, fun _ => rfl, ⟨hs, not_not.mp hmode, rfl⟩⟩

omit h in
theorem not_oversampling : ∀ desired : BitVec 8, ¬ areSettingsChanged oversamplingSettings desired →
    ¬ desired &&& bme280OsrPressSel ≠ 0 ∧ ¬ desired &&& bme280OsrTempSel ≠ 0 ∧
      ¬ desired &&& bme280OsrHumSel ≠ 0 := by
  decide +kernel

omit h in
theorem not_filterStandby : ∀ desired : BitVec 8,
    ¬ areSettingsChanged filterStandbySettings desired →
    ¬ desired &&& bme280FilterSel ≠ 0 ∧ ¬ desired &&& bme280StandbySel ≠ 0 := by
  decide +kernel

/-- The oversampling of a sleeping sensor, whose humidity setting may be lost. -/
theorem runIfOsr_spec {hum : BitVec 8} (hhum : ¬ bus.Faulty → hum = w.osrH) (desired : BitVec 8)
    (x : BmeSettings) :
    Triple (Shows chip bme280SleepMode { w with osrH := hum } u)
      (runIf (areSettingsChanged oversamplingSettings desired) (setOsrSettings chip bus desired x))
      (fun _ s => ∃ hum' u', ((¬ bus.Faulty → hum' = (BmeSettings.select desired x w).osrH) ∧
          (areSettingsChanged oversamplingSettings desired → u' = hum')) ∧
        Shows chip bme280SleepMode
          { BmeSettings.select desired x w with
            osrH := hum', filter := w.filter, standbyTime := w.standbyTime } u' s)
      fun _ => bus.Faulty := by
  refine Triple.runIf (fun hosr => ?_) fun hosr s hs => ?_
  · refine (setOsr_spec h hosr x).post fun _ s => ?_
    rintro ⟨hum', hhum', hs⟩
    refine ⟨hum', hum', ⟨fun hno => ?_, fun _ => rfl⟩, hs⟩
    rw [hhum' hno]
    simp only [BmeSettings.select, hhum hno]
  · obtain ⟨hpress, htemp, hhumSel⟩ := not_oversampling desired hosr
    refine ⟨hum, u, ⟨fun hno => ?_, fun hyes => absurd hyes hosr⟩, ?_⟩
    · rw [hhum hno]
      exact (if_neg hhumSel).symm
    · unfold BmeSettings.select
      rw [if_neg hpress, if_neg htemp]
      exact hs

theorem setSensorSettings_spec (hw : ∀ w', BmeSettings.select bme280AllSettingsSel w w' = w)
    (desired : BitVec 8) (x : BmeSettings) :
    Triple (fun s => s.dev.settings = x ∧ Has chip w s) (bme280SetSensorSettings chip bus desired)
      (fun _ s => ∃ hum u, ((¬ bus.Faulty → hum = (BmeSettings.select desired x w).osrH) ∧
          (areSettingsChanged oversamplingSettings desired → u = hum)) ∧
        Shows chip bme280SleepMode { BmeSettings.select desired x w with osrH := hum } u s)
      fun _ => bus.Faulty := by
  refine Triple.bind (Triple.get fun s hs => (⟨hs.1, hs.2⟩ : s.dev.settings = x ∧ Has chip w s))
    fun s₀ => Triple.assume ?_
  rintro rfl
  refine Triple.bind (sleepFirst_spec h hw) fun _ => ?_
  refine Triple.of_exists fun hum => Triple.of_exists fun u => Triple.assume fun hhum => ?_
  refine Triple.bind (runIfOsr_spec h hhum desired _) fun _ => ?_
  refine Triple.of_exists fun hum' => Triple.of_exists fun u' => Triple.assume fun hhum' => ?_
  refine Triple.runIf (fun _ => ?_) fun hfilter s hs => ⟨hum', u', hhum', ?_⟩
  · refine (setFilterStandby_spec h desired _).post fun _ s hs => ?_
    exact ⟨hum', u', hhum', hs⟩
  · obtain ⟨hfilter, hstandby⟩ := not_filterStandby desired hfilter
    unfold BmeSettings.select at hs ⊢
    rw [if_neg hfilter, if_neg hstandby]
    exact hs

/-- The mode is written, and the other settings stay. -/
theorem setSensorMode_spec (hw : ∀ w', BmeSettings.select bme280AllSettingsSel w w' = w)
    (sensorMode : BitVec 8) :
    Triple (Has chip w) (bme280SetSensorMode chip bus sensorMode)
      (fun _ s => ∃ hum, (¬ bus.Faulty → hum = w.osrH) ∧
        Shows chip (sensorMode &&& bme280SensorMode.fits) { w with osrH := hum } hum s)
      fun _ => bus.Faulty := by
  have hsteady : Steady bme280SleepMode := .inl rfl
  refine Triple.bind (sleepFirst_spec h hw) fun _ => ?_
  refine Triple.of_exists fun hum => Triple.of_exists fun u => Triple.assume fun hhum => ?_
  refine Triple.bind ((getCtrlMeas_spec h hsteady).conseq (fun _ => id) (fun _ _ => id)
    fun _ => And.left) fun regData => Triple.assume ?_
  rintro ⟨hpress, htemp, -⟩
  refine (setCtrlMeas_spec h hsteady _).conseq (fun _ => id) ?_ fun _ => And.left
  intro _ s hs
  rw [BitField.get_set, BitField.get_set_of_disjoint (by decide),
    BitField.get_set_of_disjoint (by decide), hpress, htemp] at hs
  exact ⟨hum, hhum, hs⟩

end Driver

end BmeDriver

/-! ## A sensor -/

/-- The registers, and the humidity oversampling in use. -/
structure BmeRegisters where
  reg : BitVec 8 → BitVec 8
  inUse : BitVec 8

namespace BmeRegisters

/-- The mode in the registers. -/
def mode (c : BmeRegisters) : BitVec 8 := bme280SensorMode.get (c.reg bme280CtrlMeasAddr)

/-- One register with a new value. -/
def put (r v : BitVec 8) (c : BmeRegisters) : BmeRegisters :=
  { c with reg := Function.update c.reg r v }

/-- A write: `config` is kept by a sensor that does not sleep, and other registers than the control
registers are read-only. -/
def write (c : BmeRegisters) (r v : BitVec 8) : BmeRegisters :=
  if r = bme280ResetAddr ∧ v = bme280SoftRstCmd then
    { ((c.put bme280CtrlHumAddr 0).put bme280CtrlMeasAddr 0).put bme280ConfigAddr 0 with inUse := 0 }
  else if r = bme280CtrlHumAddr then c.put r v
  else if r = bme280CtrlMeasAddr then
    { c.put r v with inUse := bme280CtrlHum.get (c.reg bme280CtrlHumAddr) }
  else if r = bme280ConfigAddr ∧ c.mode = bme280SleepMode then c.put r v
  else c

/-- A forced measurement ends. -/
def idle (c : BmeRegisters) : BmeRegisters :=
  if c.mode = bme280NormalMode then c
  else c.put bme280CtrlMeasAddr
    (bme280SensorMode.set (c.reg bme280CtrlMeasAddr) bme280SleepMode)

/-- A sensor that does what the manual says, and no more. -/
def chip : BmeChip BmeRegisters where
  read := reg
  write := write
  idle := idle
  humidityInUse := inUse

@[simp] theorem reg_put (r v r' : BitVec 8) (c : BmeRegisters) :
    (c.put r v).reg r' = if r' = r then v else c.reg r' := Function.update_apply c.reg r v r'

theorem write_reset (c : BmeRegisters) :
    c.write bme280ResetAddr bme280SoftRstCmd =
      { ((c.put bme280CtrlHumAddr 0).put bme280CtrlMeasAddr 0).put bme280ConfigAddr 0 with
        inUse := 0 } := if_pos ⟨rfl, rfl⟩

theorem write_ctrlHum (c : BmeRegisters) (v : BitVec 8) :
    c.write bme280CtrlHumAddr v = c.put bme280CtrlHumAddr v := by
  unfold write
  rw [if_neg (by decide +revert), if_pos rfl]

theorem write_ctrlMeas (c : BmeRegisters) (v : BitVec 8) :
    c.write bme280CtrlMeasAddr v = { c.put bme280CtrlMeasAddr v with
      inUse := bme280CtrlHum.get (c.reg bme280CtrlHumAddr) } := by
  unfold write
  rw [if_neg (by decide +revert), if_neg (by decide), if_pos rfl]

theorem write_config (c : BmeRegisters) (v : BitVec 8) :
    c.write bme280ConfigAddr v =
      if c.mode = bme280SleepMode then c.put bme280ConfigAddr v else c := by
  unfold write
  rw [if_neg (by decide +revert), if_neg (by decide), if_neg (by decide)]
  simp only [true_and]

/-- No control register has what the maker has written. -/
theorem not_control {r : BitVec 8} (hr : BmeFixed r) : ¬ BmeControl r := by
  revert r
  unfold BmeFixed BmeControl
  decide +kernel

theorem lawful : chip.Lawful where
  mode_reset c := by
    have hreg : (((c.put bme280CtrlHumAddr 0).put bme280CtrlMeasAddr 0).put bme280ConfigAddr 0).reg
        bme280CtrlMeasAddr = 0 := by
      rw [reg_put, if_neg (by decide), reg_put, if_pos rfl]
    change (c.write bme280ResetAddr bme280SoftRstCmd).mode = bme280SleepMode
    rw [write_reset]
    exact congrArg bme280SensorMode.get hreg
  fixed_reset c r hr := by
    have hne := not_control hr
    unfold BmeControl at hne
    push Not at hne
    change (c.write bme280ResetAddr bme280SoftRstCmd).reg r = c.reg r
    rw [write_reset]
    simp only [reg_put, if_neg hne.1, if_neg hne.2.1, if_neg hne.2.2]
  read_write_of_ne c v r r' hr _ hne := by
    change (c.write r v).reg r' = c.reg r'
    rcases hr with rfl | rfl | rfl
    · rw [write_ctrlHum, reg_put, if_neg hne]
    · rw [write_ctrlMeas]
      exact (reg_put _ _ _ _).trans (if_neg hne)
    · rw [write_config]
      split
      · rw [reg_put, if_neg hne]
      · rfl
  ctrlHum_write c v _ := by
    change bme280CtrlHum.get ((c.write bme280CtrlHumAddr v).reg bme280CtrlHumAddr) = _
    rw [write_ctrlHum, reg_put, if_pos rfl]
  ctrlMeas_write c v := by
    change (c.write bme280CtrlMeasAddr v).reg bme280CtrlMeasAddr = v
    rw [write_ctrlMeas]
    exact (reg_put bme280CtrlMeasAddr v bme280CtrlMeasAddr c).trans (if_pos rfl)
  config_write c v hmode := by
    have hsleep : c.mode = bme280SleepMode := hmode
    change (c.write bme280ConfigAddr v).reg bme280ConfigAddr &&& 0xFC = _
    rw [write_config, if_pos hsleep, reg_put, if_pos rfl]
  inUse_ctrlMeas c v _ := by
    change (c.write bme280CtrlMeasAddr v).inUse = _
    rw [write_ctrlMeas]
    rfl
  inUse_of_ne c v r hr hne := by
    change (c.write r v).inUse = c.inUse
    rcases hr with rfl | rfl | rfl
    · rw [write_ctrlHum]; rfl
    · exact absurd rfl hne
    · rw [write_config]
      split <;> rfl
  read_idle c r hr := by
    have hne : r ≠ bme280CtrlMeasAddr := by
      rcases hr with hr | rfl | rfl
      · rintro rfl
        exact not_control hr (.inr (.inl rfl))
      · decide
      · decide
    change (c.idle).reg r = c.reg r
    unfold idle
    split
    · rfl
    · rw [reg_put, if_neg hne]
  ctrlMeas_idle c := by
    by_cases hmode : c.mode = bme280NormalMode
    · exact .inl (congrArg (reg · _) (if_pos hmode))
    · refine .inr ⟨hmode, ?_⟩
      change (c.idle).reg _ = _
      unfold idle
      rw [if_neg hmode, reg_put, if_pos rfl]
      rfl
  inUse_idle c := by
    change (c.idle).inUse = c.inUse
    unfold idle
    split <;> rfl

end BmeRegisters

/-! ## The settings that are asked for -/

open BmeDriver in
/-- On any bus: a call that does not fail leaves the sensor asleep with the settings that are asked
for, and the former ones for the others, but for the humidity. If no transfer fails the call does
not fail, and the setting for the humidity is right, too. -/
theorem setSensorSettings_ok {σ : Type} {chip : BmeChip σ} (h : chip.Lawful) (bus : BmeBus)
    (desired : BitVec 8) (s : BmeLink σ) (hbme : chip.IsBme s.chip) :
    let wanted := BmeSettings.select desired s.dev.settings (chip.settings s.chip)
    (∀ s', bme280SetSensorSettings chip bus desired s = .ok () s' →
      chip.mode s'.chip = bme280SleepMode ∧
        chip.settings s'.chip = { wanted with osrH := (chip.settings s'.chip).osrH }) ∧
    ((∀ n, bus n = .ok) → ∃ s', bme280SetSensorSettings chip bus desired s = .ok () s' ∧
      chip.settings s'.chip = wanted) := by
  intro wanted
  have hend := @setSensorSettings_spec _ _ bus _ h (select_settings s.chip) desired
    s.dev.settings s ⟨rfl, hbme, rfl⟩
  cases hrun : bme280SetSensorSettings chip bus desired s with
  | ok a s' =>
    rw [hrun] at hend
    obtain ⟨hum, u, ⟨hhum, -⟩, hs⟩ := hend
    refine ⟨?_, fun hok => ⟨s', rfl, ?_⟩⟩
    · rintro s'' ⟨⟩
      rw [hs.settings]
      exact ⟨hs.mode, rfl⟩
    · have hno : ¬ bus.Faulty := fun ⟨n, hn⟩ => hn (hok n)
      rw [hs.settings, hhum hno]
  | error e s' =>
    rw [hrun] at hend
    obtain ⟨n, hn⟩ := hend
    exact ⟨nofun, fun hok => absurd (hok n) hn⟩

/-- A BME280 that measures all the time. -/
def BmeRegisters.measuring : BmeRegisters where
  reg r :=
    if r = bme280ChipIdAddr then 0x60
    else if r = bme280CtrlHumAddr then 3
    else if r = bme280CtrlMeasAddr then 0x57
    else if r = bme280ConfigAddr then 0x90
    else 0
  inUse := 3

open BmeDriver in
/-- The filter of a sensor that measures is changed, and the other settings survive the reset. -/
theorem setSensorSettings_ok_measuring :
    ∃ s', bme280SetSensorSettings BmeRegisters.chip (fun _ => .ok) bme280FilterSel
        ⟨.measuring, 0, { BmeDev.start with settings := ⟨0, 0, 0, 1, 0⟩ }⟩ = .ok () s' ∧
      BmeRegisters.chip.settings s'.chip = ⟨5, 2, 3, 1, 4⟩ :=
  (setSensorSettings_ok BmeRegisters.lawful (fun _ => .ok) bme280FilterSel
    ⟨.measuring, 0, { BmeDev.start with settings := ⟨0, 0, 0, 1, 0⟩ }⟩ rfl).2 fun _ => rfl

end HouseBus
