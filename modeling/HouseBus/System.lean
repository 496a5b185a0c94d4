import HouseBus.Lib.Ticks

/-!
# The system time of ChibiOS, as the firmware uses it

The 32-bit system time counts ticks of 10 kHz. Events happen at real ticks `t : ℕ`;
`chVTGetSystemTimeX` shows them modulo 2^32.
-/

namespace HouseBus

/-- The number of values of the system time. -/
abbrev systimeRange : ℕ := 2 ^ 32

/-- `CH_CFG_ST_FREQUENCY` -/
abbrev stFrequency : ℕ := 10000

/-- `TIME_S2I(s)` at the system tick rate of 10 kHz. -/
def timeS2I (s : ℕ) : ℕ := s * 10000

/-- `TIME_I2S`: with a 64-bit sum, rounded up. -/
def timeI2S (interval : ℕ) : ℕ := Ticks.roundUp stFrequency interval

/-- `TIME_I2MS` -/
def timeI2MS (interval : ℕ) : ℕ := (interval * 1000 + (stFrequency - 1)) / stFrequency

/-- `chVTGetSystemTimeX` at tick `t`; transfers carry it as their timestamp. -/
def systemTime (t : ℕ) : ℕ := Ticks.clock systimeRange t

/-- `chVTTimeElapsedSinceX(start)` when the system time is `now`. -/
def timeElapsedSince (now start : ℕ) : ℕ := Ticks.elapsed systimeRange now start

/-- Below one wrap the elapsed time is the real one. -/
theorem timeElapsedSince_of_lt {now last : ℕ} (h : last ≤ now) (hlt : now < last + systimeRange) :
    timeElapsedSince (systemTime now) (systemTime last) = now - last :=
  Ticks.elapsed_clock_of_lt h hlt

/-- Over wraps it is at most the real one. -/
theorem timeElapsedSince_le {now last : ℕ} (h : last ≤ now) :
    timeElapsedSince (systemTime now) (systemTime last) ≤ now - last :=
  Ticks.elapsed_clock_le (by decide) h

end HouseBus
