import HouseBus.System

/-!
# Numbers of the node applications (`sw/modules/pid.c`, `sw/qfplib-20161124`)

`qfplib` is assembly; the model takes its functions as a parameter (`Qfp`) on the bit patterns of
single floats, with the conversions that the compiler inserts. Integers are `ℤ`; where the code
stores a result to an `int32_t`, `int32` wraps it.
-/

namespace HouseBus

/-- An `int` stored to an `int32_t`. -/
def int32 (x : ℤ) : ℤ := Int.bmod x (2 ^ 32)

/-- An `int` stored to an `int16_t`. -/
def int16 (x : ℤ) : ℤ := Int.bmod x (2 ^ 16)

/-- The bits of a `float`. -/
abbrev FloatBits := UInt32

/-- The functions of `qfplib` and the conversion of an integer argument to a `float` parameter. -/
structure Qfp where
  fadd : FloatBits → FloatBits → FloatBits
  fsub : FloatBits → FloatBits → FloatBits
  fmul : FloatBits → FloatBits → FloatBits
  fdiv : FloatBits → FloatBits → FloatBits
  fln : FloatBits → FloatBits
  fexp : FloatBits → FloatBits
  fcmp : FloatBits → FloatBits → ℤ
  float2int : FloatBits → ℤ
  int2float : ℤ → FloatBits
  uint2float : ℕ → FloatBits
  ofInt : ℤ → FloatBits

/-- Functions that convert every `float` to `value`. -/
def Qfp.const (value : ℤ) : Qfp where
  fadd _ _ := 0
  fsub _ _ := 0
  fmul _ _ := 0
  fdiv _ _ := 0
  fln _ := 0
  fexp _ := 0
  fcmp _ _ := 0
  float2int _ := value
  int2float _ := 0
  uint2float _ := 0
  ofInt _ := 0

/-! ## The PID controller -/

/-- `pid_control_t`, without `sum_max`, which nothing uses. -/
structure PidControl where
  kp : FloatBits
  kd : FloatBits
  ki : FloatBits
  lastEf : FloatBits
  lastTimestamp : ℕ
  sum : FloatBits
  first : Bool

namespace PidControl

/-- `pid_init` -/
def init (cfg : PidControl) (kp kd ki : FloatBits) : PidControl :=
  { cfg with kp := kp, kd := kd, ki := ki, first := true, sum := 0 }

/-- `pid_tick`; the constants are 1000, 100 and 0. -/
def tick (qfp : Qfp) (cfg : PidControl) (e : ℤ) (timestamp : ℕ) : ℤ × PidControl :=
  let ef := qfp.int2float e
  let result := qfp.fmul cfg.kp ef
  let integrated : FloatBits × FloatBits :=
    if cfg.first then (result, cfg.sum)
    else
      let ms := timeI2MS (timeElapsedSince timestamp cfg.lastTimestamp)
      let timeDiff := qfp.fdiv (qfp.int2float (int32 ms)) 0x447A0000
      let d := qfp.fdiv (qfp.fmul (qfp.fsub ef cfg.lastEf) cfg.kd) timeDiff
      let result := qfp.fadd result d
      let di := qfp.fmul (qfp.fmul ef cfg.ki) timeDiff
      let sum := qfp.fadd cfg.sum di
      let sum :=
        if 0 < qfp.fcmp sum 0x42C80000 then 0x42C80000
        else if 0 < qfp.fcmp 0 sum then 0
        else sum
      (qfp.fadd result sum, sum)
  (qfp.float2int integrated.1,
    { cfg with
      lastTimestamp := timestamp
      lastEf := ef
      first := false
      sum := integrated.2 })

end PidControl

end HouseBus
