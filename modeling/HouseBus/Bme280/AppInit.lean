import HouseBus.Bme280.Setup

/-!
# The start of the sensors (`bme280_app_init`)

A round identifies a sensor, reads its calibration, and sets it to measure all the time. The result
codes of the settings are dropped: the presence bit says that the sensor was identified and
calibrated (`init_spec`), whatever transfers failed. A sensor whose transfers succeed measures with
the settings of the node behind its round, also one that measured with others before
(`appInit_measures`).
-/

namespace HouseBus

open Fallible

namespace BmeChip

variable {σ : Type} (chip : BmeChip σ)

/-- The identification of a sensor. -/
def chipId (c : σ) : UInt8 := UInt8.ofBitVec (chip.read c bme280ChipIdAddr)

/-- The calibration that the maker has written to a sensor. -/
def calibData (c : σ) : BmeCalibData :=
  parseHumidityCalibData (fun i => chip.read c (bme280HumidityCalibDataAddr + i))
    (parseTempPressCalibData (fun i => chip.read c (bme280TempPressCalibDataAddr + i))
      BmeDev.start.calibData)

end BmeChip

namespace BmeDriver

variable {σ : Type} {chip : BmeChip σ} {bus : BmeBus}

/-! ## What the driver stores -/

section Stores

variable {I : BmeLink σ → Prop} (hI : ∀ s c n, I s → I { s with chip := c, transfers := n })
include hI

theorem getRegs_always (regAddr : BitVec 8) (len : ℕ) : Always I (getRegs chip bus regAddr len) :=
  (getRegs_spec regAddr len fun s hs => hI s _ _ hs).conseq (fun _ => id) (fun _ _ => And.left)
    fun _ => And.right

theorem setRegs_always (regAddr regData : BitVec 8) :
    Always I (setRegs chip bus regAddr regData) := by
  refine (setRegs_spec regAddr regData (fun s hs => hI s _ _ hs) fun s hs => ?_).conseq
    (fun _ => id) (fun _ _ => id) ?_
  · exact hI s _ _ hs
  · rintro s ⟨-, hs | hs⟩
    · exact hs
    · exact hs

theorem setOsrSettings_always (desired : BitVec 8) (x : BmeSettings) :
    Always I (setOsrSettings chip bus desired x) := by
  have hhumidity : Always I (setOsrHumiditySettings chip bus x) :=
    (setRegs_always hI _ _).bind fun _ =>
      (getRegs_always hI _ _).bind fun _ => setRegs_always hI _ _
  refine (Always.attempt (Always.ite hhumidity (Always.throw _))).bind fun rslt => ?_
  refine Always.ite ?_ (Always.done rslt)
  exact (getRegs_always hI _ _).bind fun _ => setRegs_always hI _ _

theorem setFilterStandbySettings_always (desired : BitVec 8) (x : BmeSettings) :
    Always I (setFilterStandbySettings chip bus desired x) :=
  (getRegs_always hI _ _).bind fun _ => setRegs_always hI _ _

theorem sleepFirst_always : Always I (sleepFirst chip bus) := by
  refine Always.bind ?_ fun _ => Always.runIf ?_
  · exact (getRegs_always hI _ _).bind fun _ => Always.pure _
  · refine (getRegs_always hI _ _).bind fun _ => (setRegs_always hI _ _).bind fun _ => ?_
    exact (setOsrSettings_always hI _ _).bind fun _ => setFilterStandbySettings_always hI _ _

theorem setSensorSettings_always (desired : BitVec 8) :
    Always I (bme280SetSensorSettings chip bus desired) := by
  refine Always.bind (fun _ => id) fun s => (sleepFirst_always hI).bind fun _ => ?_
  refine (Always.runIf (setOsrSettings_always hI _ _)).bind fun _ => ?_
  exact Always.runIf (setFilterStandbySettings_always hI _ _)

theorem setSensorMode_always (sensorMode : BitVec 8) :
    Always I (bme280SetSensorMode chip bus sensorMode) :=
  (sleepFirst_always hI).bind fun _ =>
    (getRegs_always hI _ _).bind fun _ => setRegs_always hI _ _

end Stores

/-! ## Identification and calibration -/

variable (chip) in
/-- The registers that the maker has written are those of `c₀`. -/
def Fixed (c₀ : σ) (s : BmeLink σ) : Prop :=
  ∀ r, BmeFixed r → chip.read s.chip r = chip.read c₀ r

variable (chip) in
/-- The driver knows identification and calibration of `c₀`. -/
structure Known (c₀ : σ) (s : BmeLink σ) : Prop where
  mem : chip.chipId c₀ ∈ bmeChipIds
  chipId : s.dev.chipId = chip.chipId c₀
  calibData : s.dev.calibData = chip.calibData c₀

variable (chip) (bus) in
/-- A read of the chip identification, or a transfer that failed. -/
def Identified (c₀ : σ) : Except Int8 BmeRegData → Prop
  | .ok regData => regData 0 = chip.read c₀ bme280ChipIdAddr
  | .error _ => bus.Faulty

theorem Known.settings {c₀ : σ} {s : BmeLink σ} (h : Known chip c₀ s) (x : BmeSettings) :
    Known chip c₀ { s with dev.settings := x } := ⟨h.mem, h.chipId, h.calibData⟩

section Init

variable (h : chip.Lawful) {c₀ : σ}
include h

theorem Fixed.next {s : BmeLink σ} (hs : Fixed chip c₀ s) : Fixed chip c₀ (BmeLink.next chip s) :=
  fun r hr => (h.read_idle s.chip (.inl hr)).trans (hs r hr)

theorem fixed_softReset (d : UInt8) :
    Triple (fun s => s.dev.chipId = d ∧ Fixed chip c₀ s) (bme280SoftReset chip bus)
      (fun _ s => s.dev.chipId = d ∧ Fixed chip c₀ s) fun _ => bus.Faulty := by
  refine (setRegs_spec (R := fun s => s.dev.chipId = d ∧ Fixed chip c₀ s) bme280ResetAddr
    bme280SoftRstCmd (fun s hs => ⟨hs.1, hs.2.next h⟩) fun s hs => ?_).conseq (fun _ => id)
    (fun _ _ => id) fun _ => And.left
  exact ⟨hs.1, fun r hr => (h.fixed_reset s.chip hr).trans (hs.2 r hr)⟩

/-- A read of fixed registers. -/
theorem getFixed_spec (d : UInt8) (base : BmeCalibData) (regAddr : BitVec 8) (len : ℕ)
    (hfixed : ∀ i < len, BmeFixed (regAddr + i)) :
    Triple (fun s => s.dev.chipId = d ∧ s.dev.calibData = base ∧ Fixed chip c₀ s)
      (getRegs chip bus regAddr len)
      (fun regData s => (∀ i < len, regData i = chip.read c₀ (regAddr + i)) ∧
        s.dev.chipId = d ∧ s.dev.calibData = base ∧ Fixed chip c₀ s)
      fun s => bus.Faulty ∧ Fixed chip c₀ s := by
  refine (getRegs_spec (P := fun s => s.dev.chipId = d ∧ s.dev.calibData = base ∧ Fixed chip c₀ s)
    regAddr len ?_).conseq (fun _ => id) ?_ ?_
  · rintro s ⟨hd, hbase, hs⟩
    exact ⟨hd, hbase, hs.next h⟩
  · rintro regData s ⟨⟨hd, hbase, hs⟩, hdata⟩
    exact ⟨fun i hi => (hdata i hi).trans (hs _ (hfixed i hi)), hd, hbase, hs⟩
  · rintro s ⟨hfault, -, -, hs⟩
    exact ⟨hfault, hs⟩

omit h in
theorem parse_calibData {f g : BmeRegData} (base : BmeCalibData)
    (hf : ∀ i < bme280TempPressCalibDataLen, f i = chip.read c₀ (bme280TempPressCalibDataAddr + i))
    (hg : ∀ i < bme280HumidityCalibDataLen, g i = chip.read c₀ (bme280HumidityCalibDataAddr + i)) :
    parseHumidityCalibData g (parseTempPressCalibData f base) = chip.calibData c₀ := by
  unfold BmeChip.calibData parseHumidityCalibData parseTempPressCalibData
  simp (disch := decide) only [hf, hg]

theorem getCalibData_spec (d : UInt8) :
    Triple (fun s => s.dev.chipId = d ∧ Fixed chip c₀ s) (getCalibData chip bus)
      (fun _ s => s.dev.chipId = d ∧ s.dev.calibData = chip.calibData c₀ ∧ Fixed chip c₀ s)
      fun _ => bus.Faulty := by
  refine Triple.pre (R := fun s => ∃ base, s.dev.chipId = d ∧ s.dev.calibData = base ∧
    Fixed chip c₀ s) (Triple.of_exists fun base => ?_) fun s hs => ⟨_, hs.1, rfl, hs.2⟩
  refine Triple.bind ((getFixed_spec h d base bme280TempPressCalibDataAddr
    bme280TempPressCalibDataLen (by decide)).conseq (fun _ => id) (fun _ _ => id)
    fun _ => And.left) fun f => Triple.assume fun hf => ?_
  refine Triple.bind (Q := fun _ s => s.dev.chipId = d ∧
    s.dev.calibData = parseTempPressCalibData f base ∧ Fixed chip c₀ s) (Triple.modify ?_)
    fun _ => ?_
  · rintro s ⟨hd, rfl, hs⟩
    exact ⟨hd, rfl, hs⟩
  refine Triple.bind ((getFixed_spec h d _ bme280HumidityCalibDataAddr
    bme280HumidityCalibDataLen (by decide)).conseq (fun _ => id) (fun _ _ => id)
    fun _ => And.left) fun g => Triple.assume fun hg => ?_
  refine Triple.modify ?_
  rintro s ⟨hd, hbase, hs⟩
  refine ⟨hd, ?_, hs⟩
  exact (congrArg (parseHumidityCalibData g) hbase).trans (parse_calibData base hf hg)

theorem initTries_spec {tries : ℕ}
    (hzero : tries = 0 → chip.chipId c₀ ∈ bmeChipIds → bus.Faulty) :
    Triple (Fixed chip c₀) (initTries chip bus tries)
      (fun _ s => Known chip c₀ s ∧ Fixed chip c₀ s)
      fun _ => chip.chipId c₀ ∈ bmeChipIds → bus.Faulty := by
  induction tries with
  | zero => exact Triple.fail fun _ _ => hzero rfl
  | succ tries ih =>
    -- the identification, which may fail
    refine Triple.bind (Q := fun r s => Identified chip bus c₀ r ∧ Fixed chip c₀ s) ?_ fun r =>
      Triple.assume fun hr => ?_
    · refine (getRegs_spec bme280ChipIdAddr 1 fun s hs => Fixed.next h hs).attempt.conseq
        (fun _ => id) ?_ fun _ => False.elim
      rintro (e | regData) s hs
      · exact hs
      · exact ⟨(hs.2 0 Nat.zero_lt_one).trans (hs.1 _ (.inl rfl)), hs.1⟩
    cases r with
    | error e => exact ih fun _ _ => hr
    | ok regData =>
      have hid : UInt8.ofBitVec (regData 0) = chip.chipId c₀ := congrArg UInt8.ofBitVec hr
      simp only [hid]
      split
      · next hmem =>
        refine Triple.bind (Q := fun _ s => s.dev.chipId = chip.chipId c₀ ∧ Fixed chip c₀ s)
          (Triple.modify fun s hs => ⟨rfl, hs⟩) fun _ => ?_
        refine Triple.bind ((fixed_softReset h _).conseq (fun _ => id) (fun _ _ => id)
          fun _ hfault _ => hfault) fun _ => ?_
        refine (getCalibData_spec h _).conseq (fun _ => id) ?_ fun _ hfault _ => hfault
        rintro _ s ⟨hd, hcalib, hs⟩
        exact ⟨⟨hmem, hd, hcalib⟩, hs⟩
      · next hmem => exact ih fun _ hyes => absurd hyes hmem

theorem init_spec :
    Triple (Fixed chip c₀) (bme280Init chip bus)
      (fun _ s => Known chip c₀ s ∧ Fixed chip c₀ s)
      fun _ => chip.chipId c₀ ∈ bmeChipIds → bus.Faulty :=
  initTries_spec h nofun

/-! ## A round -/

/-- A sensor that was found is known, on any bus. -/
theorem appInitRound_known :
    Triple (Fixed chip c₀) (appInitRound chip bus)
      (fun found s => found → Known chip c₀ s) fun _ => True := by
  have hdev : ∀ (found : Bool) (s : BmeLink σ) c n, (found → Known chip c₀ s) →
      found → Known chip c₀ { s with chip := c, transfers := n } :=
    fun found s c n hs hf => ⟨(hs hf).mem, (hs hf).chipId, (hs hf).calibData⟩
  refine Triple.bind (Q := fun r s => r.toBool → Known chip c₀ s) ?_ fun r => ?_
  · refine (init_spec h).attempt.conseq (fun _ => id) ?_ fun _ _ => trivial
    rintro (e | a) s hs
    · exact nofun
    · exact fun _ => hs.1
  refine Triple.bind (Q := fun _ s => r.toBool → Known chip c₀ s)
    (Triple.modify fun s hs hf => (hs hf).settings _) fun _ => ?_
  refine Triple.bind ((setSensorSettings_always (hdev r.toBool) _).attempt.conseq (fun _ => id)
    (fun _ _ => id) fun _ _ => trivial) fun _ => ?_
  refine Triple.bind ((setSensorMode_always (hdev r.toBool) _).attempt.conseq (fun _ => id)
    (fun _ _ => id) fun _ _ => trivial) fun _ => ?_
  exact Triple.ret fun s hs => hs

/-- The settings of the node are written to a BME280. -/
theorem attempt_settings (hbus : ¬ bus.Faulty) :
    Triple (fun s => s.dev.settings = bmeAppSettings ∧ Fixed chip c₀ s)
      (attempt (bme280SetSensorSettings chip bus bme280AllSettingsSel))
      (fun _ s => chip.IsBme c₀ → ∃ u, Shows chip bme280SleepMode bmeAppSettings u s)
      fun _ => False := by
  by_cases hbme : chip.IsBme c₀
  · have hhas : ∀ s, s.dev.settings = bmeAppSettings ∧ Fixed chip c₀ s →
        ∃ c, s.dev.settings = bmeAppSettings ∧ Has chip (chip.settings c) s := by
      rintro s ⟨hx, hs⟩
      refine ⟨s.chip, hx, ?_, rfl⟩
      exact (congrArg UInt8.ofBitVec (hs _ (.inl rfl))).trans hbme
    refine Triple.pre (Triple.of_exists fun c => ?_) hhas
    refine (setSensorSettings_spec h (select_settings c) bme280AllSettingsSel
      bmeAppSettings).attempt.post ?_
    rintro (e | a) s hs
    · exact absurd hs hbus
    · obtain ⟨hum, u, ⟨hhum, -⟩, hs⟩ := hs
      rw [hhum hbus] at hs
      exact fun _ => ⟨u, hs⟩
  · refine Triple.trivial.attempt.post fun r s hs hyes => absurd hyes hbme

/-- A BME280 is set to measure. -/
theorem attempt_mode (hbus : ¬ bus.Faulty) :
    Triple (fun s => chip.IsBme c₀ → ∃ u, Shows chip bme280SleepMode bmeAppSettings u s)
      (attempt (bme280SetSensorMode chip bus bme280NormalMode))
      (fun _ s => chip.IsBme c₀ →
        Shows chip bme280NormalMode bmeAppSettings bmeAppSettings.osrH s)
      fun _ => False := by
  by_cases hbme : chip.IsBme c₀
  · refine Triple.pre (R := Has chip bmeAppSettings) ?_ fun s hs => (hs hbme).choose_spec.toHas
    refine (setSensorMode_spec h (fun _ => rfl) bme280NormalMode).attempt.post ?_
    rintro (e | a) s hs
    · exact absurd hs hbus
    · obtain ⟨hum, hhum, hs⟩ := hs
      rw [hhum hbus] at hs
      exact fun _ => hs
  · refine Triple.trivial.attempt.post fun r s hs hyes => absurd hyes hbme

/-- A sensor whose transfers succeed is found; a BME280 measures all the time with the settings of
the node. -/
theorem appInitRound_works (hbus : ¬ bus.Faulty) (hmem : chip.chipId c₀ ∈ bmeChipIds) :
    Triple (Fixed chip c₀) (appInitRound chip bus)
      (fun found s => found = true ∧
        (chip.IsBme c₀ → Shows chip bme280NormalMode bmeAppSettings bmeAppSettings.osrH s))
      fun _ => False := by
  refine Triple.bind (Q := fun r s => r.toBool = true ∧ Fixed chip c₀ s) ?_ fun r =>
    Triple.assume fun hr => ?_
  · refine (init_spec h).attempt.post ?_
    rintro (e | a) s hs
    · exact absurd (hs hmem) hbus
    · exact ⟨rfl, hs.2⟩
  refine Triple.bind (Q := fun _ s => s.dev.settings = bmeAppSettings ∧ Fixed chip c₀ s)
    (Triple.modify fun s hs => ⟨rfl, hs⟩) fun _ => ?_
  refine Triple.bind (attempt_settings h hbus) fun _ => ?_
  refine Triple.bind (attempt_mode h hbus) fun _ => ?_
  exact Triple.ret fun s hs => ⟨hr, hs⟩

/-- A sensor that measures goes on with its settings. -/
theorem Shows.iterate {w : BmeSettings} {u : BitVec 8} {s : BmeLink σ}
    (hs : Shows chip bme280NormalMode w u s) (k : ℕ) :
    Shows chip bme280NormalMode w u { s with chip := chip.idle^[k] s.chip } := by
  induction k with
  | zero => exact hs
  | succ k ih =>
    have hnext := ih.next h (.inr rfl)
    rw [Function.iterate_succ_apply']
    exact ⟨⟨hnext.bme, hnext.settings⟩, hnext.mode, hnext.inUse⟩

end Init

end BmeDriver

/-! ## Both sensors -/

open BmeDriver in
theorem present_appInit {σ : Type} (chip : BmeChip σ) (bus : BmeSensor → BmeBus)
    (link : BmeSensor → BmeLink σ) (i : BmeSensor) :
    (bme280AppInit chip bus link).1.Present i ↔ (roundEnd chip (bus i) (link i)).1 = true := by
  unfold Bme280.Present bme280AppInit
  cases hfirst : (roundEnd chip (bus .primary) (link .primary)).1 <;>
    cases hsecond : (roundEnd chip (bus .secondary) (link .secondary)).1 <;>
    cases i <;> simp [hfirst, hsecond, BmeSensor.index] <;> rfl

open BmeDriver in
/-- The presence bit says that the driver knows the sensor. -/
theorem known_of_present {σ : Type} {chip : BmeChip σ} (h : chip.Lawful) {bus : BmeSensor → BmeBus}
    {link : BmeSensor → BmeLink σ} {i : BmeSensor}
    (hpresent : (bme280AppInit chip bus link).1.Present i) :
    Known chip (link i).chip ((bme280AppInit chip bus link).2 i) := by
  have hknown := @appInitRound_known _ _ (bus i) h _ (link i) fun _ _ => rfl
  have hfound := (present_appInit chip bus link i).mp hpresent
  change Known chip (link i).chip (roundEnd chip (bus i) (link i)).2
  unfold roundEnd at hfound ⊢
  cases hrun : appInitRound chip (bus i) (link i) with
  | ok found s =>
    rw [hrun] at hknown hfound
    exact hknown hfound
  | error e s =>
    rw [hrun] at hfound
    exact absurd hfound Bool.false_ne_true

open BmeDriver in
/-- A sensor whose transfers succeed is found, and set to measure. -/
theorem works_of_ok {σ : Type} {chip : BmeChip σ} (h : chip.Lawful) {bus : BmeSensor → BmeBus}
    {link : BmeSensor → BmeLink σ} {i : BmeSensor} (hok : ∀ n, bus i n = .ok)
    (hmem : chip.chipId (link i).chip ∈ bmeChipIds) :
    (bme280AppInit chip bus link).1.Present i ∧ (chip.IsBme (link i).chip →
      Shows chip bme280NormalMode bmeAppSettings bmeAppSettings.osrH
        ((bme280AppInit chip bus link).2 i)) := by
  have hbus : ¬ (bus i).Faulty := fun ⟨n, hn⟩ => hn (hok n)
  have hworks := appInitRound_works h hbus hmem (link i) fun _ _ => rfl
  have hend : (bme280AppInit chip bus link).2 i = (roundEnd chip (bus i) (link i)).2 := rfl
  rw [present_appInit, hend]
  unfold roundEnd
  cases hrun : appInitRound chip (bus i) (link i) with
  | ok found s =>
    rw [hrun] at hworks
    exact hworks
  | error e s =>
    rw [hrun] at hworks
    exact hworks.elim

open BmeDriver in
/-- On any bus, from any state of the sensors: a sensor that is present was identified, and the
driver has its calibration. A sensor whose transfers succeed is present, and if it is a BME280 it
measures with the settings of the node, however much time passes. -/
theorem appInit_present {σ : Type} {chip : BmeChip σ} (h : chip.Lawful) (bus : BmeSensor → BmeBus)
    (link : BmeSensor → BmeLink σ) (i : BmeSensor) :
    let r := bme280AppInit chip bus link
    let c₀ := (link i).chip
    (r.1.Present i → chip.chipId c₀ ∈ bmeChipIds ∧ r.1.chipId i = chip.chipId c₀ ∧
      (r.2 i).dev.calibData = chip.calibData c₀) ∧
    ((∀ n, bus i n = .ok) → chip.chipId c₀ ∈ bmeChipIds → r.1.Present i ∧
      (chip.IsBme c₀ → ∀ k, let c := chip.idle^[k] (r.2 i).chip
        chip.settings c = bmeAppSettings ∧ chip.mode c = bme280NormalMode ∧
          chip.humidityInUse c = bmeAppSettings.osrH)) := by
  intro r c₀
  refine ⟨fun hpresent => ?_, fun hok hmem => ?_⟩
  · have hknown := known_of_present h hpresent
    exact ⟨hknown.mem, hknown.chipId, hknown.calibData⟩
  · obtain ⟨hpresent, hshows⟩ := works_of_ok h hok hmem
    refine ⟨hpresent, fun hbme k => ?_⟩
    have hs := (hshows hbme).iterate h k
    exact ⟨hs.settings, hs.mode, hs.inUse⟩

open BmeDriver in
/-- The first sensor measured with other settings, the second one is missing. -/
theorem appInit_present_measuring :
    let bus : BmeSensor → BmeBus := fun i _ => if i = .primary then .ok else .failed false
    let r := bme280AppInit BmeRegisters.chip bus fun _ => ⟨.measuring, 0, BmeDev.start⟩
    r.1.Present .primary ∧ BmeRegisters.chip.settings (r.2 .primary).chip = bmeAppSettings :=
  have h := (appInit_present BmeRegisters.lawful
    (fun i _ => if i = .primary then .ok else .failed false)
    (fun _ => ⟨.measuring, 0, BmeDev.start⟩) .primary).2 (fun _ => rfl) (by decide)
  ⟨h.1, (h.2 rfl 0).1⟩

end HouseBus
