import HouseBus.Config
import HouseBus.Eeprom.Exact

/-!
# The configuration store on a failing bus

`config_set` writes the length byte, then the data, and after a failed write it goes on. So on any
bus it leaves each byte of the parameter as it was or stores that of the whole set
(`configSet_between`), in any mixture.

A `WriteHistory` knows of each byte which call stored it last. The valid length covers bytes of one
call of the parameter (`ValidWritten`) as long as each call stores all bytes that are valid after it
or none of them, and stores a length without data only where one earlier call has stored the bytes
(`AllOrNothing`).
-/

namespace HouseBus

open Bytes

/-! ## One call -/

theorem oblivious_configSet (param : ℕ) (src : Mem) (size : ℕ) :
    Oblivious fun bus s => configSet bus param src size s := by
  refine (Oblivious.pure configNoSuchParameter).ite ?_
  refine (oblivious_eepromWrite _ _ _).bind (g := fun ret bus s =>
    let data := eepromWrite bus (getParamOffset param + 1) src (configSetSize param size) s
    (if ret = 0 ∧ data.1 = 0 then configOk else configMemoryError, data.2)) fun ret => ?_
  exact (oblivious_eepromWrite _ _ _).bind (g := fun ret' _ s =>
    (if ret = 0 ∧ ret' = 0 then configOk else configMemoryError, s)) fun ret' => Oblivious.pure _

/-- Each byte stays or is that of the whole set. -/
theorem configSet_between (bus : Bus) {param : ℕ} (h : param < configParamLast) (src : Mem)
    (size : ℕ) (s : I2c) :
    Between s.eeprom
      (Records.set configGetParamSize s.eeprom param (configSetBytes param src size))
      (configSet bus param src size s).2.eeprom := by
  rw [configSet, if_neg (Nat.not_le.mpr h), Records.set, configSetBytes, length_read,
    ← configSetSize_eq, ← getParamOffset_eq, write_cons]
  simp only
  generalize configSetSize param size = n
  generalize getParamOffset param = offset
  have hlength := eepromWrite_between bus offset (fun _ => UInt8.ofNat n) 1 s
  generalize (eepromWrite bus offset (fun _ => UInt8.ofNat n) 1 s).2 = s' at hlength
  have hdata := eepromWrite_between bus (offset + 1) src n s'
  rw [show read (fun _ => UInt8.ofNat n) 0 1 = [UInt8.ofNat n] from rfl, ← put_eq_write] at hlength
  intro x
  obtain hx | hx := hdata x
  · -- The data write does not reach the byte.
    rw [hx]
    by_cases hoff : x = offset
    · subst hoff
      rw [write_of_lt _ _ (Nat.lt_succ_self x)]
      exact hlength x
    · have hx' := hlength x
      rw [put, if_neg hoff, or_self] at hx'
      exact .inl hx'
  · rw [hx]
    obtain hkeep | hsame := write_cases (offset + 1) (read src 0 n) x
    · rw [hkeep, hkeep]
      exact hlength x
    · exact .inr (hsame _ _)

/-- What `config_get` reports as valid, on any bus, is the length in the EEPROM, or the size of the
parameter if it is less. -/
def validLength (m : Mem) (param : ℕ) : ℕ :=
  min (m (getParamOffset param)).toNat (configGetParamSize param)

theorem configGet_valid {bus : Bus} {param base v : ℕ} {dst : Mem} {s : I2c}
    (h : param < configParamLast) (hv : (configGet bus param base dst s).valid = some v) :
    v = validLength s.eeprom param := by
  have hend := getParamOffset_add_le h
  have hfits : getParamOffset param + 1 ≤ eepromCapacity := by
    simp only [eepromCapacity]
    omega
  have hbyte := @eepromRead_out bus _ 1 0 (fun _ => 0) s hfits 0 (by decide)
  have hret := @eepromRead_ret bus _ 1 0 (fun _ => 0) s hfits
  rw [configGet, if_neg (Nat.not_le.mpr h)] at hv
  simp only at hv
  generalize eepromRead bus (getParamOffset param) 1 0 (fun _ => 0) s = r at hv hbyte hret
  split at hv
  · cases hv
  · rename_i hfail
    rw [hret, not_not] at hfail
    have harrives : bus.moves s.transactions 0 ∨ bus.moves (s.transactions + 1) 0 :=
      hfail.imp (fun hs => Bus.moves_of_succeeds hs 0) fun hs => Bus.moves_of_succeeds hs 0
    rw [if_pos harrives, Nat.add_zero, Nat.add_zero] at hbyte
    rw [hbyte] at hv
    rw [← Option.some.inj hv, validLength]
    split <;> omega

/-! ## A history of calls -/

/-- The store, the number of calls so far and, of each byte, the number of the call that stored it
last and the parameter of that call. -/
structure WriteHistory where
  i2c : I2c
  calls : ℕ
  writer : ℕ → Option (ℕ × ℕ)

namespace WriteHistory

/-- Before the first call. -/
def start (s : I2c) : WriteHistory := ⟨s, 0, fun _ => none⟩

/-- The bytes that the call stores on this bus. -/
def written (bus : Bus) (h : WriteHistory) (c : ConfigSet) : ℕ → Option UInt8 :=
  byteWritten (fun bus s => configSet bus c.param c.src c.size.toNat s) bus h.i2c.transactions

/-- One call of `config_set`. -/
def step (bus : Bus) (h : WriteHistory) (c : ConfigSet) : WriteHistory where
  i2c := (configSet bus c.param c.src c.size.toNat h.i2c).2
  calls := h.calls + 1
  writer x := if (written bus h c x).isSome then some (h.calls, c.param) else h.writer x

/-- One call for the parameter has stored its first `v` bytes, and no other one since. -/
def OneWriter (h : WriteHistory) (param v : ℕ) : Prop :=
  ∃ k, ∀ i < v, h.writer (getParamOffset param + 1 + i) = some (k, param)

/-- What `config_get` reports as valid was stored by one call for the parameter. -/
def ValidWritten (h : WriteHistory) : Prop :=
  ∀ (param : ℕ) (bus : Bus) (base : ℕ) (dst : Mem) (v : ℕ),
    (configGet bus param base dst h.i2c).valid = some v → h.OneWriter param v

/-- The number of bytes that are valid after the call: those of the call, or those from before if
its length byte is not stored. -/
def validAfter (bus : Bus) (h : WriteHistory) (c : ConfigSet) : ℕ :=
  if (written bus h c (getParamOffset c.param)).isSome then configSetSize c.param c.size.toNat
  else validLength h.i2c.eeprom c.param

/-- The call stores the data byte `i`. -/
def StoresData (bus : Bus) (h : WriteHistory) (c : ConfigSet) (i : ℕ) : Prop :=
  (written bus h c (getParamOffset c.param + 1 + i)).isSome

/-- Of the bytes that are valid after the call, it stores all, or none; if it stores the length and
none of them, one earlier call for the parameter has stored them. -/
def AllOrNothing (bus : Bus) (h : WriteHistory) (c : ConfigSet) : Prop :=
  (∀ i < validAfter bus h c, StoresData bus h c i) ∨
    (∀ i < validAfter bus h c, ¬ StoresData bus h c i) ∧
      ((written bus h c (getParamOffset c.param)).isSome →
        h.OneWriter c.param (validAfter bus h c))

theorem validWritten_iff {h : WriteHistory} :
    h.ValidWritten ↔
      ∀ param < configParamLast, h.OneWriter param (validLength h.i2c.eeprom param) := by
  constructor
  · intro hv param hparam
    have hget := configGet_works hparam 0 (fun _ => 0) h.i2c
    have hvalid := hv param .works 0 (fun _ => 0) _ (congrArg ConfigGet.valid hget)
    rwa [configGet_valid hparam (congrArg ConfigGet.valid hget)] at hvalid
  · intro hw param bus base dst v hv
    by_cases hparam : param < configParamLast
    · rw [configGet_valid hparam hv]
      exact hw param hparam
    · rw [configGet, if_pos (Nat.not_lt.mp hparam)] at hv
      cases hv
      exact ⟨0, fun i hi => absurd hi (Nat.not_lt_zero i)⟩

/-! ## What a call stores -/

variable {bus : Bus} {h : WriteHistory} {c : ConfigSet}

theorem eeprom_step (bus : Bus) (h : WriteHistory) (c : ConfigSet) :
    (step bus h c).i2c.eeprom = overlay (written bus h c) h.i2c.eeprom :=
  (oblivious_configSet c.param c.src c.size.toNat).eeprom bus h.i2c

/-- A byte that is stored is that of the whole set. -/
theorem written_eq {x : ℕ} {b : UInt8} (hb : written bus h c x = some b) (m : Mem) (hm : m x ≠ b) :
    b = Records.set configGetParamSize m c.param c.bytes x := by
  have hbetween := configSet_between bus c.param.isLt c.src c.size.toNat
    ⟨m, h.i2c.transactions, []⟩ x
  rw [(oblivious_configSet c.param c.src c.size.toNat).eeprom] at hbetween
  have hx : overlay (written bus h c) m x = b := by rw [overlay, hb, Option.getD_some]
  obtain heq | heq := hbetween
  · exact absurd (heq.symm.trans hx) hm
  · exact hx.symm.trans heq

/-- Outside the parameter nothing is stored. -/
theorem written_outside {x : ℕ} (hx : x < getParamOffset c.param ∨
      getParamOffset c.param + configGetParamSize c.param + 1 ≤ x) : written bus h c x = none := by
  cases hb : written bus h c x with
  | none => rfl
  | some b =>
    rw [getParamOffset_eq] at hx
    have hset := written_eq hb (fun _ => b + 1) (by simp)
    rw [ConfigSet.bytes, Records.set_of_outside (length_configSetBytes_le _ _ _) hx] at hset
    simp at hset

/-- The length byte is the number of bytes of the set. -/
theorem written_length {b : UInt8} (hb : written bus h c (getParamOffset c.param) = some b) :
    b.toNat = configSetSize c.param c.size.toNat := by
  have hsize := configGetParamSize_le c.param
  have hset := written_eq hb (fun _ => b + 1) (by simp)
  rw [getParamOffset_eq, Records.set, write_head, ConfigSet.bytes, length_configSetBytes,
    ← configSetSize_eq] at hset
  have hle : configSetSize c.param c.size.toNat ≤ 80 := by
    rw [configSetSize_eq]
    omega
  rw [hset, UInt8.toNat_ofNat', Nat.mod_eq_of_lt (by omega)]

theorem validLength_step (bus : Bus) (h : WriteHistory) (c : ConfigSet) :
    validLength (step bus h c).i2c.eeprom c.param = validAfter bus h c := by
  rw [validLength, eeprom_step, overlay, validAfter]
  cases hb : written bus h c (getParamOffset c.param) with
  | none => rfl
  | some b =>
    have hle : configSetSize c.param c.size.toNat ≤ configGetParamSize c.param := by
      rw [configSetSize_eq]
      exact Nat.min_le_right _ _
    rw [Option.getD_some, written_length hb]
    exact Nat.min_eq_left hle

/-! ## Other parameters -/

theorem oneWriter_step_of_ne {param : ℕ} (hne : param ≠ c.param)
    (hw : h.OneWriter param (validLength h.i2c.eeprom param)) :
    (step bus h c).OneWriter param (validLength (step bus h c).i2c.eeprom param) := by
  have hkeep : ∀ x, getParamOffset param ≤ x →
      x < getParamOffset param + configGetParamSize param + 1 → written bus h c x = none := by
    intro x hlo hhi
    rw [getParamOffset_eq] at hlo hhi
    apply written_outside
    rw [getParamOffset_eq]
    exact Records.outside_of_ne hne hlo hhi
  have hlength : validLength (step bus h c).i2c.eeprom param = validLength h.i2c.eeprom param := by
    rw [validLength, eeprom_step, overlay, hkeep _ (Nat.le_refl _) (by omega)]
    rfl
  obtain ⟨k, hk⟩ := hw
  refine ⟨k, fun i hi => ?_⟩
  rw [hlength] at hi
  have hle : validLength h.i2c.eeprom param ≤ configGetParamSize param := Nat.min_le_right _ _
  show (if (written bus h c _).isSome then _ else _) = _
  rw [hkeep _ (by omega) (by omega)]
  exact hk i hi

/-! ## The parameter of the call -/

/-- The calls so far are those that have stored something, and each valid length covers bytes of
one of them. -/
structure Invariant (h : WriteHistory) : Prop where
  valid : h.ValidWritten
  past : ∀ x k param, h.writer x = some (k, param) → k < h.calls

theorem past_step (hpast : ∀ x k param, h.writer x = some (k, param) → k < h.calls) :
    ∀ x k param, (step bus h c).writer x = some (k, param) → k < (step bus h c).calls := by
  intro x k param hx
  show k < h.calls + 1
  by_cases hb : (written bus h c x).isSome
  · have heq : some (h.calls, (c.param : ℕ)) = some (k, param) := (if_pos hb).symm.trans hx
    cases heq
    exact Nat.lt_succ_self _
  · have heq : h.writer x = some (k, param) := (if_neg hb).symm.trans hx
    exact Nat.lt_succ_of_lt (hpast x k param heq)

/-- Two calls cannot share the bytes of a parameter. -/
theorem allOrNothing_of_oneWriter (hI : Invariant h)
    (hw : (step bus h c).OneWriter c.param (validAfter bus h c)) : AllOrNothing bus h c := by
  obtain ⟨k, hk⟩ := hw
  by_cases hany : ∃ i < validAfter bus h c, StoresData bus h c i
  · left
    obtain ⟨i, hi, hstores⟩ := hany
    have hnew : k = h.calls := by
      have heq := (if_pos hstores).symm.trans (hk i hi)
      cases heq
      rfl
    intro j hj
    by_contra hno
    have hold : h.writer (getParamOffset c.param + 1 + j) = some (k, (c.param : ℕ)) :=
      (if_neg hno).symm.trans (hk j hj)
    have := hI.past _ _ _ hold
    omega
  · right
    have hnone : ∀ i < validAfter bus h c, ¬ StoresData bus h c i :=
      fun i hi hs => hany ⟨i, hi, hs⟩
    exact ⟨hnone, fun _ => ⟨k, fun i hi => (if_neg (hnone i hi)).symm.trans (hk i hi)⟩⟩

theorem oneWriter_of_allOrNothing (hI : Invariant h) (hG : AllOrNothing bus h c) :
    (step bus h c).OneWriter c.param (validAfter bus h c) := by
  obtain hall | ⟨hnone, hlength⟩ := hG
  · exact ⟨h.calls, fun i hi => if_pos (hall i hi)⟩
  · obtain ⟨k, hk⟩ : h.OneWriter c.param (validAfter bus h c) := by
      by_cases hb : (written bus h c (getParamOffset c.param)).isSome
      · exact hlength hb
      · rw [validAfter, if_neg hb]
        exact validWritten_iff.mp hI.valid _ c.param.isLt
    exact ⟨k, fun i hi => (if_neg (hnone i hi)).trans (hk i hi)⟩

/-- One call. -/
theorem validWritten_step (hI : Invariant h) :
    (step bus h c).ValidWritten ↔ AllOrNothing bus h c := by
  rw [validWritten_iff]
  constructor
  · intro hv
    have hw := hv c.param c.param.isLt
    rw [validLength_step] at hw
    exact allOrNothing_of_oneWriter hI hw
  · intro hG param hparam
    by_cases heq : param = c.param
    · rw [heq, validLength_step]
      exact oneWriter_of_allOrNothing hI hG
    · exact oneWriter_step_of_ne heq (validWritten_iff.mp hI.valid param hparam)

/-- The parameter area has zeros. -/
def Cleared (s : I2c) : Prop := ∀ x < configSize, s.eeprom x = 0

theorem cleared_configClear (s : I2c) : Cleared (configClear .works s) := by
  intro x hx
  rw [configSize_eq] at hx
  exact eeprom_configClear s (by simp only [configMaxSize]; omega)

theorem invariant_start {s : I2c} (hs : Cleared s) : Invariant (start s) where
  valid := by
    rw [validWritten_iff]
    intro param hparam
    have hend := getParamOffset_add_le hparam
    have hzero : s.eeprom (getParamOffset param) = 0 := hs _ (by rw [configSize_eq]; omega)
    refine ⟨0, fun i hi => ?_⟩
    rw [validLength, start, hzero] at hi
    exact absurd hi (by simp)
  past := nofun

/-- **What the valid length covers.** In a history of calls on a cleared store, on any bus, what
`config_get` reports as valid after each call was stored by one call for the parameter, if and only
if each call stores all bytes that are valid after it or none of them, and no length in front of
bytes that were not all stored by one earlier call. -/
theorem validWritten_runs (bus : Bus) {s : I2c} (hs : Cleared s) (cs : List ConfigSet) :
    Machine.Meets (step bus) (fun h c => (step bus h c).ValidWritten) (start s) cs ↔
      Machine.Meets (step bus) (AllOrNothing bus) (start s) cs := by
  have hkeeps : Machine.KeepsIf (step bus) (AllOrNothing bus) Invariant :=
    fun h c hG hI => ⟨(validWritten_step hI).mpr hG, past_step hI.past⟩
  exact hkeeps.meets_congr (fun h c hI => validWritten_step hI) (invariant_start hs) cs

/-- A call that sets the node id. -/
def setNodeId : ConfigSet where
  param := ⟨2, by decide⟩
  src := fun _ => 5
  size := 4

/-- An EEPROM of zeros. -/
def zeros : I2c := ⟨fun _ => 0, 0, []⟩

theorem validWritten_runs_setNodeId :
    Machine.Meets (step .works) (fun h c => (step .works h c).ValidWritten)
        (start (configClear .works zeros)) [setNodeId] ↔
      Machine.Meets (step .works) (AllOrNothing .works) (start (configClear .works zeros))
        [setNodeId] :=
  validWritten_runs .works (cleared_configClear zeros) [setNodeId]

/-- The length byte is stored, then the bus fails. -/
def lostData : Bus := fun n => if n < 2 then .ok else .failed fun _ => false

theorem configSet_lostData (m : Mem) :
    (configSet lostData setNodeId.param setNodeId.src setNodeId.size.toNat ⟨m, 0, []⟩).2.eeprom =
      put m 10 4 := by
  show (configSet lostData 2 (fun _ => 5) 4 ⟨m, 0, []⟩).2.eeprom = put m 10 4
  rw [configSet, if_neg (by decide), show getParamOffset 2 = 10 by decide,
    show configSetSize 2 4 = 4 by decide]
  simp only [eepromWrite_eq_writePageTries lostData _ _ (show 10 + 1 ≤ eepromCapacity by decide)
      (by decide) (by decide),
    eepromWrite_eq_writePageTries lostData _ _ (show 10 + 1 + 4 ≤ eepromCapacity by decide)
      (by decide) (by decide)]
  rfl

/-- Four bytes are valid, and none of them was ever stored. -/
theorem not_validWritten :
    ¬ ∀ (bus : Bus) (s : I2c) (cs : List ConfigSet), Cleared s →
      Machine.Meets (step bus) (fun h c => (step bus h c).ValidWritten) (start s) cs := by
  intro h
  have hvalid := (h lostData zeros [setNodeId] fun _ _ => rfl).1
  have hwritten : ∀ x, written lostData (start zeros) setNodeId x =
      if x = 10 then some 4 else none := by
    intro x
    simp only [written, byteWritten, start, zeros, configSet_lostData, put]
    split <;> simp
  have hlength : validLength (step lostData (start zeros) setNodeId).i2c.eeprom 2 = 4 := by
    refine (validLength_step lostData (start zeros) setNodeId).trans ?_
    rw [validAfter, hwritten]
    decide
  have hnone : (step lostData (start zeros) setNodeId).writer 11 = none :=
    if_neg (by rw [hwritten]; decide)
  obtain ⟨k, hk⟩ := validWritten_iff.mp hvalid 2 (by decide)
  have hfirst := hk 0 (by rw [hlength]; decide)
  exact Option.some_ne_none _ (hfirst.symm.trans hnone)

end WriteHistory

end HouseBus
