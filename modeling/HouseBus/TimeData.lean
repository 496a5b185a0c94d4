import HouseBus.Canard

/-!
# The time of day (`sw/modules/time_data.c`)

Node 100 broadcasts the time in microseconds; the module keeps it, and hour and minute of the day.
-/

namespace HouseBus

/-- The variables of the module. -/
structure TimeData where
  timeUsec : ℕ
  timeDaylight : Bool
  timeHour : ℕ
  timeMinute : ℕ

namespace TimeData

/-- The variables at power-on. -/
def start : TimeData := ⟨0, false, 0, 0⟩

/-- `on_time_data`. A field that is not in the payload leaves its variable. -/
def onTimeData (can : Canard) (t : CanardRxTransfer) (s : TimeData) : TimeData :=
  if t.payloadLen < 1 then s
  else if t.sourceNodeId ≠ 100 then s
  else
    let timeUsec := (can.decodeScalar t.payload 0 56).getD s.timeUsec
    { timeUsec := timeUsec
      timeDaylight :=
        ((can.decodeScalar t.payload 56 1).map fun v => decide (v ≠ 0)).getD s.timeDaylight
      timeMinute := timeUsec / (1000 * 1000 * 60) % 60
      timeHour := timeUsec / (1000 * 1000 * 60 * 60) % 24 }

/-- Hour and minute are those of the time. -/
def Shows (s : TimeData) : Prop :=
  s.timeUsec / (1000 * 1000 * 60) % (24 * 60) = s.timeHour * 60 + s.timeMinute ∧
    s.timeHour < 24 ∧ s.timeMinute < 60

theorem shows_start : start.Shows := ⟨rfl, by decide, by decide⟩

theorem shows_onTimeData (can : Canard) (t : CanardRxTransfer) {s : TimeData} (h : s.Shows) :
    (s.onTimeData can t).Shows := by
  rw [onTimeData]
  split_ifs
  · exact h
  · exact h
  · generalize (can.decodeScalar t.payload 0 56).getD s.timeUsec = timeUsec
    refine ⟨?_, Nat.mod_lt _ (by decide), Nat.mod_lt _ (by decide)⟩
    simp only
    omega

end TimeData

end HouseBus
