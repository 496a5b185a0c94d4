import HouseBus.Config
import HouseBus.Qfp

/-!
# The typed getters of the configuration store (`sw/config.c`)

`config_get` stores to its destination only the bytes that were written before. `config_get_uint`
and `config_get_int` give it a variable of zeros, `config_get_float` one that is not initialised. So
a `float` that was not stored in full has bytes of the stack in it (`configGetFloat_works`).
-/

namespace HouseBus

open Bytes

/-- `config_get_uint` -/
def configGetUint (bus : Bus) (param : ℕ) (s : I2c) : ℕ × I2c :=
  let uint (res : Mem) : ℕ := leNat (read res 0 4)
  if configGetParamSize param ≤ 4 then
    let g := configGet bus param 0 (fun _ => 0) s
    (uint g.dst, g.i2c)
  else (uint fun _ => 0, s)

/-- The `float` in a variable. -/
def floatOf (res : Mem) : FloatBits := UInt32.ofNat (leNat (read res 0 4))

/-- `config_get_float`; `stack` is what its variable `res` holds at first. -/
def configGetFloat (bus : Bus) (param : ℕ) (stack : Mem) (s : I2c) : FloatBits × I2c :=
  if configGetParamSize param = 4 then
    let g := configGet bus param 0 stack s
    (floatOf g.dst, g.i2c)
  else (floatOf stack, s)

/-- A parameter of four bytes. -/
abbrev WordParam : Type := {param : ℕ // configGetParamSize param = 4}

/-- The valid bytes of a parameter, and zeros up to four. -/
def storedBytes (m : Mem) (param : ℕ) : List UInt8 :=
  configValue m param ++ List.replicate (4 - (configValue m param).length) 0

/-- Four bytes or more were stored, as the length byte of the parameter says. -/
def FullyStored (m : Mem) (param : ℕ) : Prop := 4 ≤ (m (getParamOffset param)).toNat

instance (m : Mem) (param : ℕ) : Decidable (FullyStored m param) :=
  inferInstanceAs (Decidable (_ ≤ _))

/-- The getters return the stored bytes, whatever is on the stack. -/
def GettersReturnStored (m : Mem) (param : ℕ) : Prop :=
  ∀ (s : I2c) (stack : Mem), s.eeprom = m →
    (configGetUint .works param s).1 = leNat (storedBytes m param) ∧
      (configGetInt .works param s).1 = (BitVec.ofNat 32 (leNat (storedBytes m param))).toInt ∧
      (configGetFloat .works param stack s).1 = UInt32.ofNat (leNat (storedBytes m param))

/-! ## Without failures -/

/-- A write, and the bytes that were there before behind it. -/
theorem read_write_zero (m : Mem) {bs : List UInt8} {n : ℕ} (h : bs.length ≤ n) :
    read (write m 0 bs) 0 n = bs ++ read m bs.length (n - bs.length) := by
  obtain ⟨k, rfl⟩ := Nat.exists_eq_add_of_le h
  rw [read_add, read_write, Nat.zero_add, Nat.add_sub_cancel_left]
  congr 1
  refine read_congr fun i _ => write_of_le m ?_
  omega

theorem read_const (b : UInt8) (a n : ℕ) : read (fun _ => b) a n = List.replicate n b :=
  List.map_const'.trans (congrArg (List.replicate · b) List.length_range)

theorem leNat_inj {bs cs : List UInt8} (hlength : bs.length = cs.length)
    (h : leNat bs = leNat cs) : bs = cs := by
  rw [← leBytes_leNat bs, ← leBytes_leNat cs, h, hlength]

section Works

variable {param : ℕ} (h : configGetParamSize param = 4) (s : I2c)
include h

theorem lt_configParamLast : param < configParamLast :=
  configGetParamSize_ne_zero.mp (by rw [h]; decide)

/-- The number of valid bytes. -/
theorem length_configValue (m : Mem) :
    (configValue m param).length = min (m (getParamOffset param)).toNat 4 := by
  unfold configValue Records.get
  rw [length_read, h, getParamOffset_eq]

theorem length_configValue_le_four (m : Mem) : (configValue m param).length ≤ 4 := by
  rw [length_configValue h]
  exact Nat.min_le_right _ _

theorem configGetUint_works :
    configGetUint .works param s = (leNat (storedBytes s.eeprom param), s.next.next) := by
  unfold configGetUint storedBytes
  dsimp only
  rw [if_pos h.le, configGet_works (lt_configParamLast h)]
  dsimp only
  rw [read_write_zero _ (length_configValue_le_four h s.eeprom), read_const]

theorem configGetInt_works :
    configGetInt .works param s =
      ((BitVec.ofNat 32 (leNat (storedBytes s.eeprom param))).toInt, s.next.next) := by
  unfold configGetInt storedBytes
  dsimp only
  rw [if_pos h.le, configGet_works (lt_configParamLast h)]
  dsimp only
  rw [read_write_zero _ (length_configValue_le_four h s.eeprom), read_const]

/-- Behind the valid bytes are those of the stack. -/
theorem configGetFloat_works (stack : Mem) :
    configGetFloat .works param stack s =
      (UInt32.ofNat (leNat (configValue s.eeprom param ++
        read stack (configValue s.eeprom param).length
          (4 - (configValue s.eeprom param).length))), s.next.next) := by
  unfold configGetFloat floatOf
  rw [if_pos h, configGet_works (lt_configParamLast h)]
  dsimp only
  rw [read_write_zero _ (length_configValue_le_four h s.eeprom)]

/-- A `float` that was stored in full does not depend on the stack. -/
theorem configGetFloat_of_fullyStored (hfull : FullyStored s.eeprom param) (stack : Mem) :
    configGetFloat .works param stack s =
      (UInt32.ofNat (leNat (storedBytes s.eeprom param)), s.next.next) := by
  have hlength : (configValue s.eeprom param).length = 4 := by
    rw [length_configValue h]
    exact Nat.min_eq_right hfull
  rw [configGetFloat_works h]
  unfold storedBytes
  rw [hlength]
  rfl

/-- A `float` that comes out the same on two stacks was stored in full. -/
theorem fullyStored_of_float_eq
    (heq : (configGetFloat .works param (fun _ => 0) s).1 =
      (configGetFloat .works param (fun _ => 0xFF) s).1) :
    FullyStored s.eeprom param := by
  have hle := length_configValue_le_four h s.eeprom
  have hmin := length_configValue h s.eeprom
  rw [configGetFloat_works h, configGetFloat_works h, read_const, read_const] at heq
  unfold FullyStored
  generalize configValue s.eeprom param = value at heq hle hmin
  have hlt : ∀ b : UInt8,
      leNat (value ++ List.replicate (4 - value.length) b) < UInt32.size := by
    intro b
    have hbound := leNat_lt (value ++ List.replicate (4 - value.length) b)
    rw [List.length_append, List.length_replicate, Nat.add_sub_cancel' hle] at hbound
    exact hbound
  have hnat := congrArg UInt32.toNat heq
  dsimp only at hnat
  rw [UInt32.toNat_ofNat_of_lt' (hlt _), UInt32.toNat_ofNat_of_lt' (hlt _)] at hnat
  have hbytes := leNat_inj (by simp only [List.length_append, List.length_replicate]) hnat
  -- the bytes of the stack differ, so there are none
  obtain ⟨-, hnone | hsame⟩ := List.replicate_inj.mp (List.append_cancel_left hbytes)
  · omega
  · exact absurd hsame (by decide)

end Works

variable {m : Mem} {param : WordParam}

theorem GettersReturnStored.fullyStored (h : GettersReturnStored m param) :
    FullyStored m param := by
  let s : I2c := ⟨m, 0, []⟩
  obtain ⟨-, -, hzero⟩ := h s (fun _ => 0) rfl
  obtain ⟨-, -, hones⟩ := h s (fun _ => 0xFF) rfl
  exact fullyStored_of_float_eq param.property s (hzero.trans hones.symm)

theorem gettersReturnStored_iff : GettersReturnStored m param ↔ FullyStored m param := by
  constructor
  · exact GettersReturnStored.fullyStored
  · rintro h s stack rfl
    refine ⟨?_, ?_, ?_⟩
    · rw [configGetUint_works param.property]
    · rw [configGetInt_works param.property]
    · rw [configGetFloat_of_fullyStored param.property s h]

end HouseBus
