import Vocoder.Number.Binary32
import Vocoder.Request

/-!
# Decibels

The gain of a linear factor in whole decibels: ten times the common logarithm, computed in binary32
numbers and cut towards zero. A factor that is not positive is the strongest attenuation.

How exact a logarithm is, is left to the platform, so it is a parameter: a `Logarithm` is any function that
is zero at one. `Logarithm.nearest` is the one that is rounded once. It is computed as a fixed-point number
with `precision` binary places, far more than a binary32 number has, so that the rounding at the end decides.
-/

namespace Vocoder.Decibel

/-- Binary places of a logarithm. -/
def precision : Nat := 192

/-- The series z + z³/3 + z⁵/5 + … from the term with the power `power` and the divisor `odd` on, so
many terms of it; `square` is z². All are fixed-point numbers but the divisor. -/
def oddSeries (square : Nat) : Nat → Nat → Nat → Nat
  | 0, _, _ => 0
  | terms + 1, power, odd =>
    power / odd + oddSeries square terms (power * square / twoTo precision) (odd + 2)

/-- The natural logarithm of `a / b` for b ≤ a ≤ 2b, as twice the series in z = (a - b) / (a + b). As z
is at most 1/3, every term adds three binary places. -/
def logRatio (a b : Nat) : Nat :=
  let z := (a - b) * twoTo precision / (a + b)
  2 * oddSeries (z * z / twoTo precision) (precision / 3 + 1) z 1

/-- The natural logarithm of two. -/
def logTwo : Nat := logRatio 2 1

/-- The natural logarithm of ten. -/
def logTen : Nat := 3 * logTwo + logRatio 10 8

/-- The common logarithm of m · 2^e for a positive m. -/
def log10 (m : Nat) (e : Int) : Binary32 :=
  let n := Nat.log2 m
  let log := (e + n) * logTwo + logRatio m (twoTo n)
  .ofRatio (decide (log < 0)) log.natAbs logTen

/-- The logarithm of any number, rounded once. -/
def nearest : Binary32 → Binary32
  | .nan => .nan
  | .infinite negative => if negative then .nan else .infinite false
  | .finite negative m e =>
    if m = 0 then .infinite true else if negative then .nan else log10 m e

/-- A common logarithm on binary32 numbers, as exact as the platform has it. -/
structure Logarithm where
  apply : Binary32 → Binary32
  /-- The logarithm of one is exact. -/
  one : apply .one = .zero false

def Logarithm.nearest : Logarithm where
  apply := Decibel.nearest
  one := by decide +kernel

/-- The largest and the smallest number of a 32-bit integer. -/
def maxInteger : Int := twoTo 31 - 1

def minInteger : Int := -(twoTo 31)

/-- Ten times a number, rounded. -/
def timesTen : Binary32 → Binary32
  | .finite negative m e =>
    if 0 ≤ e then .ofRatio negative (10 * m * twoTo e.toNat) 1
    else .ofRatio negative (10 * m) (twoTo (-e).toNat)
  | x => x

/-- A number cut towards zero, held within the range of a 32-bit integer. What is not a number is
zero. -/
def truncate : Binary32 → Int
  | .nan => 0
  | .infinite negative => if negative then minInteger else maxInteger
  | .finite negative m e =>
    let n : Int := if 0 ≤ e then m * twoTo e.toNat else m / twoTo (-e).toNat
    max minInteger (min maxInteger (if negative then -n else n))

/-- Whether a number is zero or below. What is not a number is neither. -/
def isNotPositive : Binary32 → Bool
  | .nan => false
  | .infinite negative => negative
  | .finite negative m _ => negative || m = 0

/-- The gain of a linear factor in whole decibels. -/
def ofLinear (x : Binary32) (logarithm : Logarithm := .nearest) : Int :=
  if isNotPositive x then -maxGain else truncate (timesTen (logarithm.apply x))

/-- The factor one is no gain, whatever the logarithm. -/
theorem ofLinear_one (logarithm : Logarithm) : ofLinear .one logarithm = 0 := by
  have hpositive : isNotPositive .one = false := by decide +kernel
  rw [ofLinear, hpositive, logarithm.one]
  decide +kernel

end Vocoder.Decibel
