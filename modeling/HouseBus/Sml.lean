import HouseBus.Lib.Bytes
import HouseBus.Lib.Machine

/-!
# The SML receiver (`sw/nodes/sml.c`)

A byte machine: it searches the prefix of a list entry, takes the OBIS bytes, skips status, time and
scaler by the length in their first byte, and collects the value. One counter, `substate`, serves
all states.

`smlReceive` is the body of the `while` in `app_fast_tick` for one byte: the next state, and the
accesses to the arrays that it makes (`SmlAccess`). The arrays are functions of an index in `ℤ`: an
access with an index outside of one, which C leaves undefined, is to a cell of its own.
-/

namespace HouseBus

open Bytes

/-- `prefix` -/
def smlPrefix : List UInt8 := [0x77, 0x07, 0x01, 0x00]

/-- `SML_STATES` -/
inductive SmlState
  | searchPrefix
  | parseObis
  | skipStatus
  | skipValtime
  | unit
  | skipScaler
  | value
  deriving DecidableEq

/-- `state++` -/
def SmlState.next : SmlState → SmlState
  | .searchPrefix => .parseObis
  | .parseObis => .skipStatus
  | .skipStatus => .skipValtime
  | .skipValtime => .unit
  | .unit => .skipScaler
  | .skipScaler => .value
  | .value => .value

/-- The serial ports of the firmware. -/
inductive SerialDriver
  | sd1
  deriving DecidableEq

/-- `port_to_serial` -/
def portToSerial (port : UInt8) : Option SerialDriver := if port = 1 then some .sd1 else none

/-- The static variables of `app_fast_tick`, the port and the payloads sent. -/
structure Sml where
  port : Option SerialDriver
  state : SmlState
  substate : ℕ
  value : ℤ → UInt8
  obis : ℤ → UInt8
  stateBuf : ℕ
  sign : Bool
  unit : UInt8
  broadcasts : List (List UInt8)

/-- After `app_init` with `port_to_serial` of the configured port, before the first byte. -/
def Sml.start (port : Option SerialDriver) : Sml where
  port := port
  state := .searchPrefix
  substate := 0
  value := fun _ => 0
  obis := fun _ => 0
  stateBuf := 0
  sign := false
  unit := 0
  broadcasts := []

/-- The arrays of the receiver. -/
inductive SmlArray
  | prefixBytes
  | obis
  | value
  deriving DecidableEq

/-- The size of the array in its declaration. -/
def SmlArray.size : SmlArray → ℤ
  | .prefixBytes => 4
  | .obis => 3
  | .value => 8

/-- A read or a write of `array[index]`. -/
structure SmlAccess where
  array : SmlArray
  index : ℤ
  deriving DecidableEq

/-- The index is inside the array. -/
def SmlAccess.Inside (a : SmlAccess) : Prop := 0 ≤ a.index ∧ a.index < a.array.size

instance (a : SmlAccess) : Decidable a.Inside := inferInstanceAs (Decidable (_ ∧ _))

/-! ## The functions -/

/-- `broadcast_meter` -/
def broadcastMeter (s : Sml) : Sml × List SmlAccess :=
  let buffer := [s.obis 0, s.obis 1, s.obis 2, s.unit] ++ (List.range 8).map fun i : ℕ => s.value i
  ({ s with broadcasts := s.broadcasts ++ [buffer] },
    [⟨.obis, 0⟩, ⟨.obis, 1⟩, ⟨.obis, 2⟩] ++ (List.range 8).map fun i : ℕ => ⟨.value, i⟩)

/-- `ST_SEARCH_PREFIX` -/
def searchPrefixByte (s : Sml) (msg : UInt8) : Sml × List SmlAccess :=
  let substate := if msg = smlPrefix.getD s.substate 0 then (s.substate + 1) % 256 else 0
  let s' :=
    if substate = 4 then { s with state := .parseObis, substate := 0 }
    else { s with substate := substate }
  (s', [⟨.prefixBytes, s.substate⟩])

/-- `ST_PARSE_OBIS` -/
def parseObisByte (s : Sml) (msg : UInt8) : Sml × List SmlAccess :=
  let stored := { s with
    obis := Function.update s.obis s.substate msg
    substate := (s.substate + 1) % 256 }
  let s' :=
    if stored.substate = 4 then { stored with state := .skipStatus, substate := 0 } else stored
  (s', [⟨.obis, s.substate⟩])

/-- The length byte and `substate++` of the fields that are skipped, and of the unit. -/
def countByte (s : Sml) (msg : UInt8) : Sml :=
  let s := if s.substate = 0 then { s with stateBuf := (msg &&& 0x0F).toNat } else s
  { s with substate := (s.substate + 1) % 256 }

/-- `ST_SKIP_STATUS`, `ST_SKIP_VALTIME`, `ST_SKIP_SCALER` -/
def skipByte (s : Sml) (msg : UInt8) : Sml × List SmlAccess :=
  let s := countByte s msg
  (if s.stateBuf ≤ s.substate then { s with state := s.state.next, substate := 0 } else s, [])

/-- `ST_UNIT` -/
def unitByte (s : Sml) (msg : UInt8) : Sml × List SmlAccess :=
  let s := countByte s msg
  (if s.stateBuf ≤ s.substate then { s with unit := msg, state := s.state.next, substate := 0 }
    else s, [])

/-- `ST_VALUE` up to `substate++`: a length byte with another type or a length above 9 is
discarded. -/
def storeValueByte (s : Sml) (msg : UInt8) : Sml × List SmlAccess :=
  if s.substate = 0 then
    let s := { s with
      stateBuf := (msg &&& 0x0F).toNat
      sign := decide (msg &&& 0xF0 = 0x50) }
    if (msg &&& 0xF0 ≠ 0x60 ∧ msg &&& 0xF0 ≠ 0x50) ∨ 9 < s.stateBuf then
      ({ s with state := .searchPrefix, substate := 0 }, [])
    else (s, [])
  else
    let i : ℤ := s.stateBuf - 1 - s.substate
    ({ s with value := Function.update s.value i msg }, [⟨.value, i⟩])

/-- The `while(state_buf < 9)` with `left` rounds left. -/
def extendValue (ext : UInt8) : (left : ℕ) → Sml → Sml × List SmlAccess
  | 0, s => (s, [])
  | left + 1, s =>
    let i : ℤ := s.stateBuf - 1
    let rest := extendValue ext left { s with
      value := Function.update s.value i ext
      stateBuf := s.stateBuf + 1 }
    (rest.1, ⟨.value, i⟩ :: rest.2)

/-- The end of a value: sign extension and broadcast. -/
def finishValue (s : Sml) : Sml × List SmlAccess :=
  let i : ℤ := s.stateBuf - 2
  let ext : UInt8 := if s.value i &&& 0x80 ≠ 0 ∧ s.sign = true then 0xFF else 0x00
  let extended := extendValue ext (9 - s.stateBuf) s
  let sent := broadcastMeter extended.1
  ({ sent.1 with state := .searchPrefix, substate := 0 },
    ⟨.value, i⟩ :: (extended.2 ++ sent.2))

/-- `ST_VALUE`; also after a discarded length byte `substate` is counted and compared. -/
def valueByte (s : Sml) (msg : UInt8) : Sml × List SmlAccess :=
  let stored := storeValueByte s msg
  let s := { stored.1 with substate := (stored.1.substate + 1) % 256 }
  if s.stateBuf ≤ s.substate then
    let finished := finishValue s
    (finished.1, stored.2 ++ finished.2)
  else (s, stored.2)

/-- The `switch` of `app_fast_tick`. -/
def smlReceive (s : Sml) (msg : UInt8) : Sml × List SmlAccess :=
  match s.state with
  | .searchPrefix => searchPrefixByte s msg
  | .parseObis => parseObisByte s msg
  | .skipStatus | .skipValtime | .skipScaler => skipByte s msg
  | .unit => unitByte s msg
  | .value => valueByte s msg

/-- The state after one byte. -/
def smlStep (s : Sml) (msg : UInt8) : Sml := (smlReceive s msg).1

/-- `app_fast_tick` with the bytes that the port has received since the last call. -/
def appFastTick (s : Sml) (received : List UInt8) : Sml :=
  if s.port.isSome then Machine.run smlStep s received else s

theorem countByte_first {s : Sml} (h : s.substate = 0) (msg : UInt8) :
    countByte s msg = { s with stateBuf := (msg &&& 0x0F).toNat, substate := 1 } := by
  rw [countByte, if_pos h, h]

theorem countByte_rest {s : Sml} (hpos : 0 < s.substate) (hlt : s.substate < 255) (msg : UInt8) :
    countByte s msg = { s with substate := s.substate + 1 } := by
  have hmod : (s.substate + 1) % 256 = s.substate + 1 := Nat.mod_eq_of_lt (by omega)
  simp only [countByte, if_neg (show ¬ s.substate = 0 by omega), hmod]

/-! ## Ticks and bytes -/

theorem extendValue_port (ext : UInt8) (left : ℕ) (s : Sml) :
    (extendValue ext left s).1.port = s.port := by
  induction left generalizing s with
  | zero => rfl
  | succ left ih => exact ih _

theorem smlStep_port (s : Sml) (msg : UInt8) : (smlStep s msg).port = s.port := by
  have hcount : (countByte s msg).port = s.port := by
    unfold countByte
    split <;> rfl
  have hstore : (storeValueByte s msg).1.port = s.port := by
    unfold storeValueByte
    simp only
    split
    · split <;> rfl
    · rfl
  unfold smlStep smlReceive
  cases s.state with
  | searchPrefix =>
    simp only [searchPrefixByte]
    split <;> split <;> rfl
  | parseObis =>
    simp only [parseObisByte]
    split <;> rfl
  | skipStatus | skipValtime | skipScaler =>
    simp only [skipByte]
    split <;> exact hcount
  | unit =>
    simp only [unitByte]
    split <;> exact hcount
  | value =>
    simp only [valueByte]
    split
    · exact (extendValue_port _ _ _).trans hstore
    · exact hstore

/-- However the bytes are split over the ticks. -/
theorem run_appFastTick {s : Sml} (h : s.port.isSome) (ticks : List (List UInt8)) :
    Machine.run appFastTick s ticks = Machine.run smlStep s ticks.flatten := by
  have hkeeps : Machine.Keeps smlStep fun s : Sml => s.port.isSome := by
    intro s msg hs
    show (smlStep s msg).port.isSome
    rwa [smlStep_port]
  induction ticks generalizing s with
  | nil => rfl
  | cons bytes ticks ih =>
    have htick : appFastTick s bytes = Machine.run smlStep s bytes := if_pos h
    rw [Machine.run_cons, htick, List.flatten_cons, Machine.run_append]
    exact ih (hkeeps.run h bytes)

end HouseBus
