import Mathlib.Data.Prod.Lex
import HouseBus.ViessmannTrimatik

/-!
# The heating period

`CONFIG_HEATER_TIME_1_START` and `CONFIG_HEATER_TIME_1_STOP` have the hour in the high and the
minute in the low byte. `inTimeRange` compares them piece by piece: right for a period over two
hours, but in the hour where a period both begins and ends it is always true (`inTimeRange_iff`).
-/

namespace HouseBus

/-- A time of day. -/
structure TimeOfDay where
  hour : ℕ
  minute : ℕ
  hour_lt : hour < 24
  minute_lt : minute < 60

namespace TimeOfDay

/-- Hours before minutes. -/
def lex (t : TimeOfDay) : ℕ ×ₗ ℕ := toLex (t.hour, t.minute)

/-- The value of a configuration parameter. -/
def encode (t : TimeOfDay) : ℕ := t.hour * 256 + t.minute

theorem encode_hour (t : TimeOfDay) : t.encode % 2 ^ 16 / 256 = t.hour := by
  have hhour := t.hour_lt
  have hminute := t.minute_lt
  simp only [encode]
  omega

theorem encode_minute (t : TimeOfDay) : t.encode % 256 = t.minute := by
  have hminute := t.minute_lt
  simp only [encode]
  omega

end TimeOfDay

/-- A period of a day. -/
structure HeatingPeriod where
  start : TimeOfDay
  stop : TimeOfDay
  ordered : start.lex ≤ stop.lex

/-- The time of day that a tick reads. -/
def TickInput.time (input : TickInput) : ℕ ×ₗ ℕ := toLex (input.timeHour, input.timeMinute)

namespace HeatingPeriod

/-- `start <= now < stop` -/
def Contains (p : HeatingPeriod) (now : ℕ ×ₗ ℕ) : Prop := p.start.lex ≤ now ∧ now < p.stop.lex

/-- `inTimeRange` for the parameters of the period. -/
theorem inTimeRange_encode (p : HeatingPeriod) (input : TickInput) :
    inTimeRange input p.start.encode p.stop.encode = true ↔
      (p.start.hour < input.timeHour ∧ input.timeHour < p.stop.hour) ∨
        (input.timeHour = p.start.hour ∧ p.start.minute ≤ input.timeMinute) ∨
        input.timeHour = p.stop.hour ∧ input.timeMinute < p.stop.minute := by
  simp only [inTimeRange, TimeOfDay.encode_hour, TimeOfDay.encode_minute]
  split_ifs with hbetween hfirst hlast <;> simp [*]

theorem contains_iff (p : HeatingPeriod) (input : TickInput) :
    p.Contains input.time ↔
      (p.start.hour < input.timeHour ∨
          p.start.hour = input.timeHour ∧ p.start.minute ≤ input.timeMinute) ∧
        (input.timeHour < p.stop.hour ∨
          input.timeHour = p.stop.hour ∧ input.timeMinute < p.stop.minute) := by
  rw [Contains, TimeOfDay.lex, TimeOfDay.lex, TickInput.time, Prod.Lex.le_iff, Prod.Lex.lt_iff]
  rfl

/-- In a period within one hour the second and the third condition hold between them at every
minute of it. -/
theorem inTimeRange_of_hour {p : HeatingPeriod} (hsame : p.start.hour = p.stop.hour)
    (input : TickInput) :
    inTimeRange input p.start.encode p.stop.encode = true ↔ input.timeHour = p.start.hour := by
  have hle := Prod.Lex.le_iff.mp p.ordered
  simp only [TimeOfDay.lex, ofLex_toLex] at hle
  rw [inTimeRange_encode]
  omega

/-- A period over several hours. -/
theorem inTimeRange_of_hours {p : HeatingPeriod} (hhours : p.start.hour < p.stop.hour)
    (input : TickInput) :
    inTimeRange input p.start.encode p.stop.encode = true ↔ p.Contains input.time := by
  rw [inTimeRange_encode, contains_iff]
  omega

end HeatingPeriod

/-- **The period test**: it is right if the period begins and ends in different hours, outside the
hour of both, and inside a period within one hour. -/
theorem inTimeRange_iff (p : HeatingPeriod) (input : TickInput) :
    (inTimeRange input p.start.encode p.stop.encode = true ↔ p.Contains input.time) ↔
      p.start.hour ≠ p.stop.hour ∨ input.timeHour ≠ p.start.hour ∨
        (p.start.minute ≤ input.timeMinute ∧ input.timeMinute < p.stop.minute) := by
  have hle := Prod.Lex.le_iff.mp p.ordered
  simp only [TimeOfDay.lex, ofLex_toLex] at hle
  obtain hhours | ⟨hsame, -⟩ := hle
  · exact iff_of_true (p.inTimeRange_of_hours hhours input) (.inl (Nat.ne_of_lt hhours))
  · rw [p.inTimeRange_of_hour hsame, p.contains_iff]
    omega

/-- From 6:00 to 6:30. -/
def halfHour : HeatingPeriod where
  start := ⟨6, 0, by decide, by decide⟩
  stop := ⟨6, 30, by decide, by decide⟩
  ordered := by decide

/-- At 6:45 the heating is on. -/
theorem not_inTimeRange :
    ¬ ∀ (p : HeatingPeriod) (input : TickInput),
      inTimeRange input p.start.encode p.stop.encode = true ↔ p.Contains input.time := by
  intro h
  have hin := (h halfHour ⟨0, 0, 0, fun _ => 0, 6, 45⟩).mp (by decide)
  exact absurd hin.2 (by decide)

end HouseBus
