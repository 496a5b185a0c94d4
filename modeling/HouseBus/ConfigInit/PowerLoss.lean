import HouseBus.ConfigInit

/-!
# Power loss during the first initialisation

`powerLost m k` is the EEPROM after the first `k` page writes of a `config_init` that found the
content `m`. Only the version is written after the magic, so with fewer page writes the magic is
not valid (`not_magicValid_take`) and with more all defaults are there but the version's
(`defaults_take`). The next `config_init` starts again in the first case and changes nothing in the
second.
-/

namespace HouseBus

open Bytes

/-- `config_get` of the parameter reports the bytes `bs`. -/
def Reads (s : I2c) (param : ℕ) (bs : List UInt8) : Prop :=
  ∀ base dst,
    let got := configGet .works param base dst s
    got.ret = configOk ∧ got.valid = some bs.length ∧ got.dst = write dst base bs

/-- The store after a first initialisation, up to the version. -/
structure Initialised (s : I2c) : Prop where
  magic : Reads s configMagic (leBytes 4 configurationMagic)
  nodeId : Reads s configNodeId (leBytes 4 127)
  nodeName : Reads s configNodeName unconfiguredNode
  unset : ∀ param < configParamLast,
    param ∉ [configMagic, configVersion, configNodeId, configNodeName] → Reads s param []

/-- The EEPROM after the first `k` page writes of `config_init` on the content `m`. -/
def powerLost (m : Mem) (k : ℕ) : Mem :=
  ((configInit .works ⟨m, 0, []⟩).i2c.pageWrites.take k).foldl
    (fun m w => pageWrite m w.1 w.2 fun _ => true) m

/-! ## The defaults -/

/-- The values that the branch stores. -/
def defaultValue (param : ℕ) : List UInt8 :=
  if param = configMagic then leBytes 4 configurationMagic
  else if param = configNodeId then leBytes 4 127
  else if param = configNodeName then unconfiguredNode
  else []

/-- All parameters but the version have their defaults. -/
def Defaults (m : Mem) : Prop :=
  ∀ param < configParamLast, param ≠ configVersion → configValue m param = defaultValue param

theorem reads_of_configValue {s : I2c} {param : ℕ} {bs : List UInt8} (h : param < configParamLast)
    (hvalue : configValue s.eeprom param = bs) : Reads s param bs := by
  intro base dst
  rw [configGet_works h, hvalue]
  exact ⟨rfl, rfl, rfl⟩

theorem Defaults.initialised {s : I2c} (h : Defaults s.eeprom) : Initialised s where
  magic := reads_of_configValue (by decide) (h configMagic (by decide) (by decide))
  nodeId := reads_of_configValue (by decide) (h configNodeId (by decide) (by decide))
  nodeName := reads_of_configValue (by decide) (h configNodeName (by decide) (by decide))
  unset := by
    intro param hlt hother
    simp only [List.mem_cons, List.not_mem_nil, or_false, not_or] at hother
    obtain ⟨hmagic, hversion, hid, hname⟩ := hother
    refine reads_of_configValue hlt ?_
    rw [h param hlt hversion, defaultValue, if_neg hmagic, if_neg hid, if_neg hname]

/-- The values after the whole branch. -/
theorem configValue_configDefaults (s : I2c) {param : ℕ} (h : param < configParamLast) :
    configValue (configDefaults .works s).eeprom param =
      if param = configVersion then leBytes 4 configurationVersion else defaultValue param := by
  have hbytes : ∀ param v, configGetParamSize param = 4 →
      configSetBytes param (write (fun _ => 0) 0 (leBytes 4 v)) 4 = leBytes 4 v := by
    intro param v hsize
    have := configSetBytes_write param (fun _ => 0) (leBytes 4 v)
    rw [length_leBytes, hsize] at this
    rw [this, take_leBytes _ _ _ (Nat.le_refl _)]
  have hname : configSetBytes configNodeName (write (fun _ => 0) 0 unconfiguredNode) 17 =
      unconfiguredNode := configSetBytes_write configNodeName (fun _ => 0) unconfiguredNode
  simp only [configDefaults, configSetDefaults, configSetUint]
  rw [configValue_configSet (by decide), configValue_configSet (by decide),
    configValue_configSet (by decide), configValue_configSet (by decide), hname,
    hbytes _ _ (by decide), hbytes _ _ (by decide), hbytes _ _ (by decide)]
  simp only [Function.update_apply, configValue_configClear h, defaultValue]
  by_cases hversion : param = configVersion
  · rw [if_pos hversion, if_pos hversion]
  by_cases hmagic : param = configMagic
  · rw [if_neg hversion, if_pos hmagic, if_neg hversion, if_pos hmagic]
  by_cases hid : param = configNodeId
  · subst hid
    rfl
  · simp only [if_neg hversion, if_neg hmagic, if_neg hid]

theorem defaults_initWrites (m : Mem) : Defaults (storeAll m initWrites) := by
  intro param hlt hversion
  have h := configValue_configDefaults ⟨m, 0, []⟩ hlt
  rwa [configDefaults_works, eeprom_foldl_stored, if_neg hversion] at h

/-! ## The first `k` page writes -/

/-- The page writes before the bytes of the magic. -/
def beforeMagic : List (ℕ × List UInt8) := clearWrites ++ nodeWrites ++ [(0, [4])]

/-- The bytes of the magic are the 519th page write. -/
theorem initWrites_eq :
    initWrites = (beforeMagic ++ [(1, leBytes 4 configurationMagic)]) ++ versionWrites := by
  simp only [initWrites, beforeMagic, magicWrites, List.append_assoc, List.cons_append,
    List.nil_append]

theorem length_beforeMagic : beforeMagic.length = 518 := by
  rw [beforeMagic, List.length_append, List.length_append, length_clearWrites]
  rfl

/-- After the first page write and up to the 518th the bytes of the magic are zeros. -/
theorem magic_zero (m : Mem) {k x : ℕ} (h1 : 1 ≤ x) (h4 : x ≤ 4) :
    storeAll m (beforeMagic.take (k + 1)) x = 0 := by
  have hrest : ∀ w ∈ (List.range' 1 511).map clearWrite ++ nodeWrites ++ [(0, [4])],
      x < w.1 ∨ w.1 + w.2.length ≤ x := by
    intro w hw
    rw [List.append_assoc, List.mem_append] at hw
    obtain hw | hw := hw
    · obtain ⟨i, hi, rfl⟩ := List.mem_map.mp hw
      have hpos : 1 ≤ i := (List.mem_range'_1.mp hi).1
      simp only [clearWrite, eepromPageSize]
      omega
    · have hall : ∀ w ∈ nodeWrites ++ [(0, [4])], 5 ≤ w.1 ∨ w.1 + w.2.length ≤ 1 := by
        decide +kernel
      have := hall w hw
      omega
  rw [beforeMagic, clearWrites_eq, List.cons_append, List.cons_append, List.take_succ_cons]
  show storeAll (write m 0 (List.replicate eepromPageSize 0)) _ x = 0
  rw [storeAll_of_outside fun w hw => hrest w (List.mem_of_mem_take hw)]
  have hlen : x < (List.replicate eepromPageSize (0 : UInt8)).length := by
    simp only [List.length_replicate, eepromPageSize]
    omega
  have hbyte := write_add m 0 x (List.replicate eepromPageSize 0) hlen
  rw [Nat.zero_add, List.getElem_replicate] at hbyte
  exact hbyte

/-- **Before the magic** is written an invalid one stays invalid. -/
theorem not_magicValid_take {m : Mem} (h : ¬ MagicValid m) (k : ℕ) :
    ¬ MagicValid (storeAll m (beforeMagic.take k)) := by
  cases k with
  | zero => exact h
  | succ k =>
    intro hvalid
    have hsize : configGetParamSize configMagic = 4 := by decide
    have hoffset : Records.offset configGetParamSize configMagic = 0 := rfl
    rw [MagicValid, configValue, Records.get, hsize, hoffset] at hvalid
    have hlen := congrArg List.length hvalid
    rw [length_read, length_leBytes] at hlen
    rw [hlen] at hvalid
    have hfirst : storeAll m (beforeMagic.take (k + 1)) 1 = 0xAC := by
      have := congrArg (fun bs => bs.getD 0 0) hvalid
      exact this
    rw [magic_zero m (Nat.le_refl 1) (by decide)] at hfirst
    exact absurd hfirst (by decide)

/-- The page writes of the version touch its record only. -/
theorem configValue_versionWrites (m : Mem) {ws : List (ℕ × List UInt8)}
    (hws : ∀ w ∈ ws, w ∈ versionWrites) {param : ℕ} (hversion : param ≠ configVersion) :
    configValue (storeAll m ws) param = configValue m param := by
  refine Records.get_congr fun x hlo hhi => ?_
  refine storeAll_of_outside fun w hw => ?_
  have hall : ∀ w ∈ versionWrites, 5 ≤ w.1 ∧ w.1 + w.2.length ≤ 10 := by decide +kernel
  have hw := hall w (hws w hw)
  have hsize : configGetParamSize configVersion = 4 := by decide
  have hoffset : Records.offset configGetParamSize configVersion = 5 := by decide
  rcases Nat.lt_or_gt_of_ne hversion with hlt | hgt
  · have : Records.offset configGetParamSize param + configGetParamSize param + 1 ≤
        Records.offset configGetParamSize configVersion := Records.offset_le hlt
    omega
  · have : Records.offset configGetParamSize configVersion + configGetParamSize configVersion + 1 ≤
        Records.offset configGetParamSize param := Records.offset_le hgt
    omega

/-- **From the magic on** all defaults but the version's are there. -/
theorem defaults_take (m : Mem) (k : ℕ) :
    Defaults (storeAll m (beforeMagic ++ [(1, leBytes 4 configurationMagic)] ++
      versionWrites.take k)) := by
  intro param hlt hversion
  have hfull := defaults_initWrites m param hlt hversion
  rw [initWrites_eq, storeAll_append, configValue_versionWrites _ (fun w hw => hw) hversion]
    at hfull
  rw [storeAll_append, configValue_versionWrites _ (fun w hw => List.mem_of_mem_take hw) hversion]
  exact hfull

/-- The first `k` page writes, at any `k`: before or from the magic on. -/
theorem initWrites_take (k : ℕ) :
    (∃ j, initWrites.take k = beforeMagic.take j) ∨
      ∃ j, initWrites.take k =
        beforeMagic ++ [(1, leBytes 4 configurationMagic)] ++ versionWrites.take j := by
  rw [initWrites_eq, List.take_append]
  rcases Nat.lt_or_ge k 519 with hlt | hge
  · left
    refine ⟨k, ?_⟩
    rw [List.length_append, length_beforeMagic, List.length_singleton, Nat.sub_eq_zero_of_le hlt.le,
      List.take_zero, List.append_nil,
      List.take_append_of_le_length (by rw [length_beforeMagic]; omega)]
  · right
    refine ⟨k - 519, ?_⟩
    rw [List.take_of_length_le (by rw [List.length_append, length_beforeMagic]; exact hge),
      List.length_append, length_beforeMagic]
    rfl

/-! ## `config_init` -/

theorem configInit_of_not_magicValid {s : I2c} (h : ¬ MagicValid s.eeprom) :
    configInit .works s =
      ⟨0, some .invalid, configDefaults .works s.next.next.next.next.next⟩ := by
  have hmagic : (configInitGet .works configMagic s.next).1 ≠ configurationMagic :=
    fun heq => h ((magic_works_iff s.next).mp heq)
  have hfound : ¬ i2cAddr < 0 := by decide
  rw [configInit, eepromInit_works, if_neg hfound, configInitFound]
  simp only [if_neg hmagic]
  rw [configInitGet_works (by decide), configInitGet_works (by decide)]

theorem configInit_of_magicValid {s : I2c} (h : MagicValid s.eeprom) :
    (configInit .works s).ret = 0 ∧ (configInit .works s).i2c.eeprom = s.eeprom := by
  have hmagic : (configInitGet .works configMagic s.next).1 = configurationMagic :=
    (magic_works_iff s.next).mpr h
  have hfound : ¬ i2cAddr < 0 := by decide
  rw [configInit, eepromInit_works, if_neg hfound, configInitFound]
  simp only [if_pos hmagic]
  rw [configInitGet_works (by decide), configInitGet_works (by decide)]
  exact ⟨trivial, rfl⟩

/-- The writes stay inside their pages. -/
theorem initWrites_page : ∀ w ∈ initWrites, w.1 % eepromPageSize + w.2.length ≤ eepromPageSize := by
  intro w hw
  simp only [initWrites, List.append_assoc, List.mem_append] at hw
  rcases hw with hw | hw
  · unfold clearWrites at hw
    obtain ⟨i, -, rfl⟩ := List.mem_map.mp hw
    simp only [clearWrite, List.length_replicate, eepromPageSize]
    omega
  · have hall : ∀ w ∈ nodeWrites ++ (magicWrites ++ versionWrites),
        w.1 % eepromPageSize + w.2.length ≤ eepromPageSize := by decide +kernel
    exact hall w (by simpa only [List.mem_append] using hw)

theorem powerLost_eq {m : Mem} (h : ¬ MagicValid m) (k : ℕ) :
    powerLost m k = storeAll m (initWrites.take k) := by
  rw [powerLost, configInit_of_not_magicValid h, configDefaults_works, pageWrites_foldl_stored]
  refine List.foldl_ext _ _ _ fun m' w hw => ?_
  exact pageWrite_eq_write m' w.2 (initWrites_page w (List.mem_of_mem_take hw))

/-- A complete `config_init` of an invalid store, or of one that has the defaults. -/
theorem configInit_initialises {s : I2c} (h : MagicValid s.eeprom → Defaults s.eeprom) :
    (configInit .works s).ret = 0 ∧ Initialised (configInit .works s).i2c := by
  by_cases hvalid : MagicValid s.eeprom
  · obtain ⟨hret, hmem⟩ := configInit_of_magicValid hvalid
    refine ⟨hret, Defaults.initialised ?_⟩
    rw [hmem]
    exact h hvalid
  · rw [configInit_of_not_magicValid hvalid]
    refine ⟨rfl, Defaults.initialised ?_⟩
    rw [configDefaults_works, eeprom_foldl_stored]
    exact defaults_initWrites _

/-- **First-time initialisation survives power loss.** Whatever the EEPROM held without a valid
magic, and after whichever page write the power is lost, the next complete `config_init` leaves the
initialised store. -/
theorem initialised_of_powerLost (m : Mem) (k : ℕ) (h : ¬ MagicValid m) :
    let again := configInit .works ⟨powerLost m k, 0, []⟩
    again.ret = 0 ∧ Initialised again.i2c := by
  refine configInit_initialises fun hvalid => ?_
  rw [powerLost_eq h] at hvalid ⊢
  obtain ⟨j, hj⟩ | ⟨j, hj⟩ := initWrites_take k
  · rw [hj] at hvalid
    exact absurd hvalid (not_magicValid_take h j)
  · rw [hj]
    exact defaults_take m j

/-- An erased chip, cut after the length of the magic. -/
theorem initialised_of_powerLost_erased :
    ¬ MagicValid (fun _ => 0xFF) ∧
      let again := configInit .works ⟨powerLost (fun _ => 0xFF) 518, 0, []⟩
      again.ret = 0 ∧ Initialised again.i2c :=
  have h : ¬ MagicValid (fun _ => 0xFF) := by decide +kernel
  ⟨h, initialised_of_powerLost (fun _ => 0xFF) 518 h⟩

end HouseBus
