import HouseBus.Config.Failures
import HouseBus.ConfigInit.PowerLoss

/-!
# A valid configuration on a failing bus

`config_init` does not look at what `config_get` returns, so a failed read of the magic is a wrong
magic. Of a valid one all four bytes must arrive (`MagicArrives`); otherwise the branch that clears
the storage runs, and it makes of any EEPROM the same overlay (`lastWritten`).

- `configInit_keeps_iff`: the EEPROM stays as it is if and only if the magic arrives or the branch
  leaves at every address that it writes the byte that was there.
- `configInit_resets`: with a bus that works again when the branch begins, all parameters get their
  defaults.
-/

namespace HouseBus

open Bytes

/-- The read of the magic that begins with transaction `n`: one of the two tries for the length
byte succeeds, and the tries for the data move all four bytes. (When the first of these succeeds,
there is no second, but the first alone moves them.) -/
def MagicArrives (bus : Bus) (n : ℕ) : Prop :=
  let data := if bus.succeeds n then n + 1 else n + 2
  (bus.succeeds n ∨ bus.succeeds (n + 1)) ∧ ∀ i < 4, bus.moves data i ∨ bus.moves (data + 1) i

instance (bus : Bus) (n : ℕ) : Decidable (MagicArrives bus n) := inferInstanceAs (Decidable (_ ∧ _))

/-- The chip after the two reads of `config_init`. -/
def configInitReads (bus : Bus) (s : I2c) : I2c :=
  (configInitGet bus configVersion (configInitGet bus configMagic s).2).2

/-- The byte that the writes of the clear-and-default branch leave at address `x` on this bus, when
the branch begins with transaction `n`; `none` if no write reaches the address. -/
def lastWritten (bus : Bus) (n x : ℕ) : Option UInt8 :=
  byteWritten (fun bus s => ((), configDefaults bus s)) bus n x

/-! ## The branch -/

theorem oblivious_configClear : Oblivious fun bus s => ((), configClear bus s) :=
  Oblivious.foldl (fun i => oblivious_eepromWrite (eepromPageSize * i) (fun _ => 0) eepromPageSize)
    (List.range (configMaxSize / eepromPageSize))

theorem oblivious_configSetUint (param v : ℕ) :
    Oblivious fun bus s => configSetUint bus param v s := oblivious_configSet _ _ _

theorem oblivious_configSetDefaults : Oblivious fun bus s => ((), configSetDefaults bus s) := by
  have hversion := Oblivious.map (oblivious_configSetUint configVersion configurationVersion)
    fun _ => ()
  have hmagic := Oblivious.bind (oblivious_configSetUint configMagic configurationMagic)
    fun _ => hversion
  have hname := Oblivious.bind
    (oblivious_configSet configNodeName (write (fun _ => 0) 0 unconfiguredNode) 17) fun _ => hmagic
  exact Oblivious.bind (oblivious_configSetUint configNodeId 127) fun _ => hname

theorem oblivious_configDefaults : Oblivious fun bus s => ((), configDefaults bus s) := by
  have h := Oblivious.bind oblivious_configClear fun _ => oblivious_configSetDefaults
  simpa only [configDefaults] using h

/-- The branch overlays any memory with the bytes of `lastWritten`. -/
theorem configDefaults_overlay (bus : Bus) (s : I2c) :
    (configDefaults bus s).eeprom = overlay (lastWritten bus s.transactions) s.eeprom :=
  oblivious_configDefaults.eeprom bus s

/-! ## The reads -/

theorem eeprom_configInitGet (bus : Bus) (param : ℕ) (s : I2c) :
    (configInitGet bus param s).2.eeprom = s.eeprom := eeprom_configGet _ _ _ _ _

theorem MagicValid.length_byte {m : Mem} (h : MagicValid m) : 4 ≤ (m 0).toNat := by
  have hlen := congrArg List.length h
  rw [configValue, Records.get, length_read, length_leBytes] at hlen
  have hmin : min (m 0).toNat 4 = 4 := hlen
  omega

theorem MagicValid.bytes {m : Mem} (h : MagicValid m) :
    Bytes.read m 1 4 = leBytes 4 configurationMagic := by
  have hmin : min (m 0).toNat 4 = 4 := by
    have := h.length_byte
    omega
  have hvalue : configValue m configMagic = Bytes.read m 1 (min (m 0).toNat 4) := rfl
  rw [← h, hvalue, hmin]

/-- A read whose target held zeros gives the bytes `bs`, none of them zero, if they are in the
memory and all of them arrive. -/
theorem read_out_eq_iff {got m : Mem} {a k : ℕ} {bs : List UInt8} {arrives : ℕ → Prop}
    [DecidablePred arrives] (hbs : Bytes.read m a k = bs) (hne : ∀ b ∈ bs, b ≠ 0)
    (hgot : ∀ i < k, got i = if arrives i then m (a + i) else 0) :
    Bytes.read got 0 k = bs ↔ ∀ i < k, arrives i := by
  subst hbs
  constructor
  · intro h i hi
    by_contra hno
    have hbyte := List.getElem_of_eq h (i := i) (by rw [length_read]; exact hi)
    rw [getElem_read, getElem_read, Nat.zero_add, hgot i hi, if_neg hno] at hbyte
    exact hne _ (List.getElem_mem (by rw [length_read]; exact hi)) (by rw [getElem_read, hbyte])
  · intro h
    refine read_congr fun i hi => ?_
    rw [Nat.zero_add, hgot i hi, if_pos (h i hi)]

/-- **The read of the magic**: a valid magic is seen if and only if it arrives. -/
theorem magic_iff {bus : Bus} {s : I2c} (h : MagicValid s.eeprom) :
    (configInitGet bus configMagic s).1 = configurationMagic ↔
      MagicArrives bus s.transactions := by
  have hoffset : getParamOffset configMagic = 0 := rfl
  have hsize : configGetParamSize configMagic = 4 := rfl
  have hlen := h.length_byte
  rw [configInitGet, configGet, if_neg (by decide), MagicArrives]
  simp only [hoffset, hsize]
  by_cases hfail : (eepromRead bus 0 1 0 (fun _ => 0) s).ret < 0
  · have hno := (eepromRead_ret (by decide)).mp hfail
    rw [if_pos hfail]
    refine iff_of_false ?_ fun harrives => hno harrives.1
    show leNat (Bytes.read (fun _ => 0) 0 4) ≠ configurationMagic
    decide
  · have hok := not_not.mp (mt (eepromRead_ret (by decide)).mpr hfail)
    -- One of the tries succeeded, so the length byte is there.
    have hbyte : (eepromRead bus 0 1 0 (fun _ => 0) s).out 0 = s.eeprom 0 := by
      have hout := @eepromRead_out bus 0 1 0 (fun _ => 0) s (by decide) 0 Nat.zero_lt_one
      rw [if_pos (hok.imp (Bus.moves_of_succeeds · 0) (Bus.moves_of_succeeds · 0))] at hout
      exact hout
    have hvalid : (if 4 < (s.eeprom 0).toNat then 4 else (s.eeprom 0).toNat) = 4 := by
      split <;> omega
    rw [if_neg hfail]
    simp only [hbyte, hvalid]
    rw [leNat_read_eq_iff (by decide), and_iff_right hok]
    rw [← @eepromRead_transactions bus 0 1 0 (fun _ => 0) s (by decide)]
    refine read_out_eq_iff h.bytes (by decide +kernel) fun i hi => ?_
    have hout := @eepromRead_out bus 1 4 0 (fun _ => 0)
      (eepromRead bus 0 1 0 (fun _ => 0) s).i2c (by decide) i hi
    rw [eeprom_eepromRead, Nat.zero_add i] at hout
    exact hout

/-! ## `config_init` -/

theorem eeprom_configInitReads (bus : Bus) (s : I2c) :
    (configInitReads bus s).eeprom = s.eeprom := by
  rw [configInitReads, eeprom_configInitGet, eeprom_configInitGet]

theorem configInit_of_found {bus : Bus} {s : I2c} (h : 0 ≤ (eepromInit bus s).1) :
    configInit bus s = configInitFound bus (eepromInit bus s).2 := by
  rw [configInit]
  exact if_neg (by omega)

/-- The two branches. -/
theorem eeprom_configInitFound {bus : Bus} {s : I2c} (h : MagicValid s.eeprom) :
    (MagicArrives bus s.transactions → (configInitFound bus s).i2c.eeprom = s.eeprom) ∧
      (¬ MagicArrives bus s.transactions →
        (configInitFound bus s).i2c = configDefaults bus (configInitReads bus s)) := by
  rw [← magic_iff h, configInitFound]
  refine ⟨fun harrives => ?_, fun hlost => ?_⟩
  · simp only [if_pos harrives]
    exact eeprom_configInitReads bus s
  · simp only [if_neg hlost]
    rfl

/-- **When a valid configuration survives**: if the magic arrives, or if the branch leaves at every
address that it writes the byte that was there. -/
theorem configInit_keeps_iff (bus : Bus) (s : I2c) (hvalid : MagicValid s.eeprom)
    (hfound : 0 ≤ (eepromInit bus s).1) :
    let found := (eepromInit bus s).2
    let branch := lastWritten bus (configInitReads bus found).transactions
    (configInit bus s).i2c.eeprom = s.eeprom ↔
      MagicArrives bus found.transactions ∨
        ∀ x, branch x = none ∨ branch x = some (s.eeprom x) := by
  have hmem : (eepromInit bus s).2.eeprom = s.eeprom := eeprom_eepromInit bus s
  simp only
  rw [configInit_of_found hfound]
  generalize (eepromInit bus s).2 = found at hmem
  rw [← hmem] at hvalid ⊢
  obtain ⟨hkeeps, hbranch⟩ := @eeprom_configInitFound bus found hvalid
  by_cases harrives : MagicArrives bus found.transactions
  · exact iff_of_true (hkeeps harrives) (.inl harrives)
  · rw [hbranch harrives, configDefaults_overlay, eeprom_configInitReads, or_iff_right harrives]
    exact overlay_eq_self_iff

/-- When the bus works again before the branch, every setting is lost. -/
theorem configInit_resets {bus : Bus} {s : I2c} (hvalid : MagicValid s.eeprom)
    (hfound : 0 ≤ (eepromInit bus s).1)
    (hlost : ¬ MagicArrives bus (eepromInit bus s).2.transactions)
    (hworks : ∀ n, (configInitReads bus (eepromInit bus s).2).transactions ≤ n → bus n = .ok) :
    Defaults (configInit bus s).i2c.eeprom := by
  have hmem : (eepromInit bus s).2.eeprom = s.eeprom := eeprom_eepromInit bus s
  rw [configInit_of_found hfound]
  generalize (eepromInit bus s).2 = found at hmem hlost hworks
  rw [← hmem] at hvalid
  rw [(eeprom_configInitFound hvalid).2 hlost]
  have hsame : configDefaults bus (configInitReads bus found) =
      configDefaults .works (configInitReads bus found) :=
    congrArg (fun r : Unit × I2c => r.2)
      (@Oblivious.congr Unit _ oblivious_configDefaults .works bus _ hworks)
  rw [hsame, configDefaults_works, eeprom_foldl_stored]
  exact defaults_initWrites _

/-- The configuration of node 5. -/
def nodeFive : Mem :=
  storeAll (fun _ => 0) (magicWrites ++ [(10, [4]), (11, leBytes 4 5)])

/-- A bus that fails in both tries for the length byte of the magic, moving nothing. -/
def lostMagic : Bus := fun n => if n = 1 ∨ n = 2 then .failed fun _ => false else .ok

theorem configInit_keeps_iff_lostMagic :
    MagicValid nodeFive ∧ 0 ≤ (eepromInit lostMagic ⟨nodeFive, 0, []⟩).1 ∧
      let found := (eepromInit lostMagic ⟨nodeFive, 0, []⟩).2
      let branch := lastWritten lostMagic (configInitReads lostMagic found).transactions
      ((configInit lostMagic ⟨nodeFive, 0, []⟩).i2c.eeprom = nodeFive ↔
        MagicArrives lostMagic found.transactions ∨
          ∀ x, branch x = none ∨ branch x = some (nodeFive x)) := by
  have hvalid : MagicValid nodeFive := by decide +kernel
  have hfound : 0 ≤ (eepromInit lostMagic ⟨nodeFive, 0, []⟩).1 := by decide +kernel
  exact ⟨hvalid, hfound, configInit_keeps_iff lostMagic ⟨nodeFive, 0, []⟩ hvalid hfound⟩

/-- The node id of a valid configuration is erased. -/
theorem not_configInit_keeps :
    ¬ ∀ (bus : Bus) (s : I2c), MagicValid s.eeprom → 0 ≤ (eepromInit bus s).1 →
      (configInit bus s).i2c.eeprom = s.eeprom := by
  intro h
  have hvalid : MagicValid nodeFive := by decide +kernel
  have hfound : 0 ≤ (eepromInit lostMagic ⟨nodeFive, 0, []⟩).1 := by decide +kernel
  have hkept := h lostMagic ⟨nodeFive, 0, []⟩ hvalid hfound
  have hreset := @configInit_resets lostMagic ⟨nodeFive, 0, []⟩ hvalid hfound
    (by decide +kernel) ?_
  · rw [hkept] at hreset
    have hid := hreset configNodeId (by decide) (by decide)
    revert hid
    decide +kernel
  · intro n hn
    have hreads : (configInitReads lostMagic
        (eepromInit lostMagic ⟨nodeFive, 0, []⟩).2).transactions = 5 := by decide +kernel
    rw [hreads] at hn
    exact if_neg (by omega)

end HouseBus
