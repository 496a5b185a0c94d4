import HouseBus.Config

/-!
# Initialisation of the configuration store (`sw/config.c`, `sw/drivers/eeprom24c.c`)

`eeprom_init` looks for the chip, `config_init` reads the magic and the version and, if the magic is
a wrong one, clears the storage and stores the defaults. It ignores what `config_get` returns: a
variable whose read fails keeps the bytes it had.

Without failures the clear-and-default branch is a list of page writes, `initWrites`
(`configDefaults_works`): the pages of the storage in order, the node id and name, then the magic
and last the version.
-/

namespace HouseBus

open Bytes

/-! ## `eeprom_init` -/

/-- `I2C_ADDR` -/
def i2cAddr : ℤ := 0x50

/-- The tries of `eeprom_init` at one address: whether the chip answers. -/
def probeTries (bus : Bus) : (tries : ℕ) → I2c → Bool × I2c
  | 0, s => (false, s)
  | tries + 1, s =>
    match bus s.transactions with
    | .ok => (true, s.next)
    | .failed _ => probeTries bus tries s.next

/-- The `while` of `eeprom_init` with `addresses` addresses left. -/
def eepromInitFrom (bus : Bus) : (addresses : ℕ) → (address : ℤ) → I2c → ℤ × I2c
  | 0, _, s => (-1, s)
  | addresses + 1, address, s =>
    let probe := probeTries bus eepromRetryCount s
    if probe.1 then (address, probe.2) else eepromInitFrom bus addresses (address + 1) probe.2

/-- `eeprom_init` -/
def eepromInit (bus : Bus) (s : I2c) : ℤ × I2c := eepromInitFrom bus 8 i2cAddr s

theorem eeprom_probeTries (bus : Bus) (tries : ℕ) (s : I2c) :
    (probeTries bus tries s).2.eeprom = s.eeprom := by
  induction tries generalizing s with
  | zero => rfl
  | succ tries ih =>
    rw [probeTries]
    cases bus s.transactions with
    | ok => rfl
    | failed moved => exact ih _

theorem eeprom_eepromInitFrom (bus : Bus) (addresses : ℕ) (address : ℤ) (s : I2c) :
    (eepromInitFrom bus addresses address s).2.eeprom = s.eeprom := by
  induction addresses generalizing address s with
  | zero => rfl
  | succ addresses ih =>
    simp only [eepromInitFrom]
    split
    · exact eeprom_probeTries _ _ _
    · rw [ih, eeprom_probeTries]

/-- The search leaves the memory as it is. -/
@[simp] theorem eeprom_eepromInit (bus : Bus) (s : I2c) :
    (eepromInit bus s).2.eeprom = s.eeprom := eeprom_eepromInitFrom _ _ _ _

theorem eepromInit_works (s : I2c) : eepromInit .works s = (i2cAddr, s.next) := rfl

/-! ## `config_init` -/

/-- `CONFIGURATION_MAGIC` -/
def configurationMagic : ℕ := 0xEF7389AC

/-- `CONFIGURATION_VERSION` -/
def configurationVersion : ℕ := 1

/-- `CONFIG_MAGIC` -/
def configMagic : ℕ := 0

/-- `CONFIG_VERSION` -/
def configVersion : ℕ := 1

/-- `CONFIG_NODE_ID` -/
def configNodeId : ℕ := 2

/-- `CONFIG_NODE_NAME` -/
def configNodeName : ℕ := 3

/-- `config_status_t` -/
inductive ConfigStatus
  | ok
  | invalid
  | versionMismatch
  deriving DecidableEq

/-- `"Unconfigured node"` -/
def unconfiguredNode : List UInt8 := "Unconfigured node".toUTF8.data.toList

/-- `config_set_uint` -/
def configSetUint (bus : Bus) (param v : ℕ) (s : I2c) : ℤ × I2c :=
  configSet bus param (write (fun _ => 0) 0 (leBytes 4 v)) 4 s

/-- The reads of `config_init`: the variable is zero before, what `config_get` returns is not
looked at. -/
def configInitGet (bus : Bus) (param : ℕ) (s : I2c) : ℕ × I2c :=
  let got := configGet bus param 0 (fun _ => 0) s
  (leNat (read got.dst 0 4), got.i2c)

/-- The defaults of `config_init`. -/
def configSetDefaults (bus : Bus) (s : I2c) : I2c :=
  let s := (configSetUint bus configNodeId 127 s).2
  let s := (configSet bus configNodeName (write (fun _ => 0) 0 unconfiguredNode) 17 s).2
  let s := (configSetUint bus configMagic configurationMagic s).2
  (configSetUint bus configVersion configurationVersion s).2

/-- The branch of `config_init` for a wrong magic. -/
def configDefaults (bus : Bus) (s : I2c) : I2c := configSetDefaults bus (configClear bus s)

/-- What `config_init` returns, the `status` it sets (`none`: it sets none), and the chip. -/
structure ConfigInit where
  ret : ℤ
  status : Option ConfigStatus
  i2c : I2c

/-- `config_init` after the chip was found. -/
def configInitFound (bus : Bus) (s : I2c) : ConfigInit :=
  let magic := configInitGet bus configMagic s
  let version := configInitGet bus configVersion magic.2
  if magic.1 = configurationMagic then
    let status := if version.1 = configurationVersion then .ok else .versionMismatch
    ⟨0, some status, version.2⟩
  else ⟨0, some .invalid, configDefaults bus version.2⟩

/-- `config_init` -/
def configInit (bus : Bus) (s : I2c) : ConfigInit :=
  let found := eepromInit bus s
  if found.1 < 0 then ⟨-1, none, found.2⟩ else configInitFound bus found.2

/-- The stored `CONFIG_MAGIC` equals `CONFIGURATION_MAGIC`. -/
def MagicValid (m : Mem) : Prop := configValue m configMagic = leBytes 4 configurationMagic

instance (m : Mem) : Decidable (MagicValid m) := inferInstanceAs (Decidable (_ = _))

example : [configMagic, configVersion, configNodeId, configNodeName].map configParamName =
    ["CONFIG_MAGIC", "CONFIG_VERSION", "CONFIG_NODE_ID", "CONFIG_NODE_NAME"].map
      fun name => name.toUTF8.data.toList := by decide +kernel

/-! ## The reads without failures -/

/-- A value of at most 4 bytes arrives in the variable. -/
theorem configInitGet_works {param : ℕ} (h : param < configParamLast) (s : I2c) :
    configInitGet .works param s =
      (leNat (read (write (fun _ => 0) 0 (configValue s.eeprom param)) 0 4), s.next.next) := by
  rw [configInitGet, configGet_works h]

theorem length_configValue_le (m : Mem) (param : ℕ) :
    (configValue m param).length ≤ configGetParamSize param :=
  Records.length_get_le _ _

/-- A variable of four bytes has the value `v` if its bytes are those of `v`. -/
theorem leNat_read_eq_iff {got : Mem} {v : ℕ} (hv : v < 256 ^ 4) :
    leNat (read got 0 4) = v ↔ read got 0 4 = leBytes 4 v := by
  constructor
  · rintro rfl
    have h := leBytes_leNat (read got 0 4)
    rw [length_read] at h
    exact h.symm
  · intro h
    rw [h, leNat_leBytes, Nat.mod_eq_of_lt hv]

/-- The magic that is read is the right one if and only if it is stored. -/
theorem magic_works_iff (s : I2c) :
    (configInitGet .works configMagic s).1 = configurationMagic ↔ MagicValid s.eeprom := by
  rw [configInitGet_works (by decide), leNat_read_eq_iff (by decide), MagicValid]
  have hle : (configValue s.eeprom configMagic).length ≤ 4 := length_configValue_le _ _
  generalize configValue s.eeprom configMagic = value at hle
  constructor
  · intro h
    have hlen : value.length = 4 := by
      by_contra hne
      -- The last byte of the magic is not zero.
      have hlast : (read (write (fun _ => 0) 0 value) 0 4).getD 3 0 = 0 := by
        rw [List.getD_eq_getElem _ _ (by simp), getElem_read]
        exact write_of_le _ (by omega)
      rw [h] at hlast
      exact absurd hlast (by decide)
    rw [← h, ← hlen, read_write]
  · rintro rfl
    exact read_write _ _ _

/-! ## The page writes of the branch -/

/-- The write of one page of the clearing loop. -/
def clearWrite (i : ℕ) : ℕ × List UInt8 := (eepromPageSize * i, List.replicate eepromPageSize 0)

/-- The clearing loop. (Irreducible: nothing is to unfold its 512 entries.) -/
@[irreducible]
def clearWrites : List (ℕ × List UInt8) :=
  (List.range (configMaxSize / eepromPageSize)).map clearWrite

/-- The node id and name: the name ends on the next page. -/
def nodeWrites : List (ℕ × List UInt8) :=
  [(10, [4]), (11, leBytes 4 127), (15, [17]), (16, unconfiguredNode.take 16),
    (32, unconfiguredNode.drop 16)]

/-- The length of the magic and then its bytes. -/
def magicWrites : List (ℕ × List UInt8) := [(0, [4]), (1, leBytes 4 configurationMagic)]

/-- The length of the version and then its bytes. -/
def versionWrites : List (ℕ × List UInt8) := [(5, [4]), (6, leBytes 4 configurationVersion)]

/-- The page writes of `configDefaults` without failures. -/
def initWrites : List (ℕ × List UInt8) := clearWrites ++ nodeWrites ++ magicWrites ++ versionWrites

/-- `CONFIG_MAX_SIZE/EEPROM_PAGE_SIZE` -/
theorem configPages : configMaxSize / eepromPageSize = 512 := rfl

theorem length_clearWrites : clearWrites.length = 512 := by
  unfold clearWrites
  rw [List.length_map, List.length_range, configPages]

/-- The first page, and then the others. -/
theorem clearWrites_eq :
    clearWrites = (0, List.replicate eepromPageSize 0) :: (List.range' 1 511).map clearWrite := by
  unfold clearWrites
  rw [configPages, List.range_eq_range', List.range'_succ, List.map_cons]
  rfl

theorem configClear_works (s : I2c) :
    configClear .works s = clearWrites.foldl I2c.stored s := by
  unfold clearWrites
  rw [configClear, List.foldl_map]
  refine List.foldl_ext _ _ _ fun s' i hi => ?_
  rw [configPages, List.mem_range] at hi
  rw [eepromWrite_page (by decide) (by simp only [eepromPageSize, eepromCapacity]; omega)
    (by simp only [eepromPageSize]; omega)]
  rfl

/-- A `config_set` of four bytes inside one page. -/
theorem configSetUint_works {param : ℕ} (v : ℕ) (s : I2c) (h : param < configParamLast)
    (hsize : configGetParamSize param = 4)
    (hpage : getParamOffset param % eepromPageSize + 5 ≤ eepromPageSize) :
    (configSetUint .works param v s).2 =
      (s.stored (getParamOffset param, [4])).stored (getParamOffset param + 1, leBytes 4 v) := by
  have hend := getParamOffset_add_le h
  simp only [eepromPageSize] at hpage
  rw [configSetUint, configSet, if_neg (by omega)]
  simp only [configSetSize, hsize, Nat.lt_irrefl, ↓reduceIte]
  rw [eepromWrite_page (by decide) (by simp only [eepromCapacity]; omega)
      (by simp only [eepromPageSize]; omega),
    eepromWrite_page (by decide) (by simp only [eepromCapacity]; omega)
      (by simp only [eepromPageSize]; omega)]
  have hread : read (write (fun _ => 0) 0 (leBytes 4 v)) 0 4 = leBytes 4 v := read_write _ _ _
  rw [hread]
  rfl

theorem configSet_nodeName_works (s : I2c) :
    (configSet .works configNodeName (write (fun _ => 0) 0 unconfiguredNode) 17 s).2 =
      ((s.stored (15, [17])).stored (16, unconfiguredNode.take 16)).stored
        (32, unconfiguredNode.drop 16) := by
  have hoff : getParamOffset configNodeName = 15 := by decide
  have hsize : configSetSize configNodeName 17 = 17 := by decide
  have hlength : eepromWrite .works 15 (fun _ => UInt8.ofNat 17) 1 s = (0, s.stored (15, [17])) :=
    eepromWrite_page (by decide) (by decide) (by decide)
  have hname := fun s' : I2c => @eepromWrite_twoPages 16
    (write (fun _ => 0) 0 unconfiguredNode) s' 16 1
    (show 16 % eepromPageSize + 16 = eepromPageSize by decide) (by decide) (show 0 < 1 by decide)
    (by decide) (by decide)
  have htake : Bytes.read (write (fun _ => 0) 0 unconfiguredNode) 0 16 =
      unconfiguredNode.take 16 := by decide +kernel
  have hdrop : Bytes.read (write (fun _ => 0) 0 unconfiguredNode) 16 1 =
      unconfiguredNode.drop 16 := by decide +kernel
  rw [htake, hdrop] at hname
  rw [configSet, if_neg (by decide)]
  simp only [hoff, hsize, hlength, hname]

/-- **The branch without failures** is the list `initWrites` of page writes. -/
theorem configDefaults_works (s : I2c) :
    configDefaults .works s = initWrites.foldl I2c.stored s := by
  rw [configDefaults, configClear_works, configSetDefaults, configSet_nodeName_works]
  rw [configSetUint_works 127 _ (by decide) (by decide) (by decide),
    configSetUint_works configurationMagic _ (by decide) (by decide) (by decide),
    configSetUint_works configurationVersion _ (by decide) (by decide) (by decide)]
  rw [initWrites, List.foldl_append, List.foldl_append, List.foldl_append]
  rfl

end HouseBus
