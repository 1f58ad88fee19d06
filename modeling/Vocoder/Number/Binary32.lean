import Vocoder.Number.Power
import Vocoder.Text.Decimal

/-!
# Binary32 numbers

Numbers of the 32-bit binary format: not a number, an infinity, or a signed significand of at most 24
bits times a power of two that is not below 2^-149. Arithmetic is exact on the quotient of two natural
numbers and rounds once, to the nearest number and to the even one of two that are equally near.
-/

namespace Vocoder

/-- A number of the 32-bit binary format. `finite negative m e` is the number m · 2^e with its sign;
m has 24 bits unless e is -149. -/
inductive Binary32 where
  | nan
  | infinite (negative : Bool)
  | finite (negative : Bool) (significand : Nat) (exponent : Int)
  deriving DecidableEq, Repr

namespace Binary32

/-- The least exponent, that of the subnormal numbers too. -/
def minExponent : Int := -149

/-- The greatest exponent. -/
def maxExponent : Int := 104

/-- One more than the greatest significand. -/
def significandBound : Nat := twoTo 24

/-- The zero of a sign. -/
def zero (negative : Bool) : Binary32 :=
  .finite negative 0 minExponent

/-- The number one. -/
def one : Binary32 :=
  .finite false (twoTo 23) (-23)

/-! ### Rounding -/

/-- The nearest natural number to `num / den`, the even one of two. -/
def roundDiv (num den : Nat) : Nat :=
  let q := num / den
  let twice := 2 * (num % den)
  if twice < den then q else if den < twice then q + 1 else q + q % 2

/-- `num / den` divided by 2^e, as a quotient again. -/
def scaled (num den : Nat) (e : Int) : Nat × Nat :=
  if 0 ≤ e then (num, den * twoTo e.toNat) else (num * twoTo (-e).toNat, den)

/-- The exponent at which `num / den` has a significand of 24 bits, if that is not below the least. -/
def exponentOf (num den : Nat) : Int :=
  let low := (Nat.log2 num : Int) - (Nat.log2 den : Int) - 24
  let e := if (scaled num den low).1 / (scaled num den low).2 < significandBound then low else low + 1
  max e minExponent

/-- The number of a significand that may have been rounded up to one bit more. -/
def ofParts (negative : Bool) (significand : Nat) (exponent : Int) : Binary32 :=
  let (m, e) :=
    if significand = significandBound then (significand / 2, exponent + 1)
    else (significand, exponent)
  if maxExponent < e then .infinite negative else .finite negative m e

/-- The number nearest to `num / den`, with a sign. -/
def ofRatio (negative : Bool) (num den : Nat) : Binary32 :=
  if num = 0 then zero negative
  else
    let e := exponentOf num den
    let (n, d) := scaled num den e
    ofParts negative (roundDiv n d) e

/-! ### Bits -/

/-- The bits of a number; one of many patterns for what is not a number. -/
def toBits : Binary32 → Nat
  | nan => 0x7fc00000
  | infinite negative => (if negative then twoTo 31 else 0) + 255 * twoTo 23
  | finite negative m e =>
    (if negative then twoTo 31 else 0) +
      (if m < twoTo 23 then m else (e - minExponent).toNat * twoTo 23 + m)

/-- The number of some bits. -/
def ofBits (bits : Nat) : Binary32 :=
  let negative := decide (bits / twoTo 31 % 2 = 1)
  let field : Nat := bits / twoTo 23 % twoTo 8
  let fraction : Nat := bits % twoTo 23
  if field = 255 then if fraction = 0 then .infinite negative else .nan
  else if field = 0 then .finite negative fraction minExponent
  else .finite negative (twoTo 23 + fraction) (minExponent + ((field : Int) - 1))

/-! ### Text -/

/-- Why a text is no number. -/
inductive Problem where
  | empty
  | invalid
  deriving DecidableEq, Repr

/-- The sign that a text starts with, if any, and what follows. -/
def splitSign : List Char → Bool × List Char
  | '-' :: rest => (true, rest)
  | '+' :: rest => (false, rest)
  | rest => (false, rest)

/-- The digits a text starts with, and what follows. -/
def splitDigits (cs : List Char) : List Char × List Char :=
  (cs.takeWhile Char.isDigit, cs.dropWhile Char.isDigit)

/-- The power of ten that ends a numeral, which is zero if nothing is left of the text. -/
def power? : List Char → Option Int
  | [] => some 0
  | c :: rest =>
    if c = 'e' || c = 'E' then
      let (negative, digits) := splitSign rest
      if digits.isEmpty || !Decimal.isNumeral digits then none
      else
        let n : Int := Decimal.value digits
        some (if negative then -n else n)
    else none

/-- The number of decimal digits of `n · 10^power`, as a power: it is below 10^40 and not below
10^-46 for every number that is neither too large nor rounded to zero. -/
def ofDecimal (negative : Bool) (n : Nat) (power : Int) : Binary32 :=
  let magnitude := ((Decimal.digits n).length : Int) + power
  if n = 0 then zero negative
  else if 40 < magnitude then .infinite negative
  else if magnitude < -46 then zero negative
  else if 0 ≤ power then ofRatio negative (n * tenTo power.toNat) 1
  else ofRatio negative n (tenTo (-power).toNat)

/-- The number of a numeral without its sign: digits with at most one point among or around them, then
perhaps a power of ten. -/
def ofNumeral? (negative : Bool) (cs : List Char) : Option Binary32 :=
  let (whole, rest) := splitDigits cs
  let (fraction, rest) :=
    match rest with
    | '.' :: rest => splitDigits rest
    | rest => ([], rest)
  if whole.isEmpty && fraction.isEmpty then none
  else
    (power? rest).map fun power =>
      ofDecimal negative (Decimal.value (whole ++ fraction)) (power - fraction.length)

/-- The number nearest to what a text says. Besides numerals the words `inf`, `infinity` and `nan` are
understood in any case, all of them with or without a sign. -/
def parse (cs : List Char) : Except Problem Binary32 :=
  if cs.isEmpty then .error .empty
  else
    let (negative, body) := splitSign cs
    let word := String.ofList (body.map Char.toLower)
    if word = "inf" || word = "infinity" then .ok (.infinite negative)
    else if word = "nan" then .ok .nan
    else
      match ofNumeral? negative body with
      | some x => .ok x
      | none => .error .invalid

end Binary32

end Vocoder
