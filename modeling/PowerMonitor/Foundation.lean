import Mathlib.Algebra.Order.Ring.Rat
import Mathlib.Data.Rat.Floor

/-! Time, decimals and the request failure shared by every service.

Aware datetimes are integers, microseconds since the Unix epoch. Decimals are read
as exact rationals; the limited precision of the default context is not modelled.
-/

set_option autoImplicit false
namespace PowerMonitor

/-- A whole number of seconds as a duration in microseconds. -/
def seconds (count : Int) : Int := count * 1000000

/-- `ProblemError`: the structured failure of one request. -/
structure ProblemError where
  status : Nat
  title : String
  detail : String
  code : String
  extra : List (String × Int) := []
  extraTexts : List (String × List String) := []
  deriving DecidableEq, Repr

/-- `SIGNED_BIGINT_MAX` -/
def signedBigintMax : Nat := 2 ^ 63 - 1

/-- `PositiveSignedSequence` -/
abbrev PositiveSignedSequence := { n : Nat // 1 ≤ n ∧ n ≤ signedBigintMax }

/-- Round to the nearest integer, ties to the even neighbour. -/
def roundHalfEven (value : Rat) : Int :=
  let lower := value.floor
  let rest := value - lower
  if rest < 1 / 2 then lower
  else if 1 / 2 < rest then lower + 1
  else if lower % 2 = 0 then lower else lower + 1

/-- The `.3f` format of a decimal. -/
def formatThousandths (value : Rat) : String :=
  let scaled := roundHalfEven (value * 1000)
  let digits := toString (scaled.natAbs % 1000)
  let padded := String.ofList (List.replicate (3 - digits.length) '0') ++ digits
  (if scaled < 0 then "-" else "") ++ toString (scaled.natAbs / 1000) ++ "." ++ padded

example : formatThousandths (25 / 2) = "12.500" := by decide +kernel

end PowerMonitor
