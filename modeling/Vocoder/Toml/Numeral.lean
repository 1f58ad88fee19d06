import Vocoder.Number.Power
import Vocoder.Text.Decimal
import Vocoder.Toml.Quoted

/-!
# Numbers

Integers and floating-point numbers of TOML. Single underscores may stand between digits. Integers are
those of 64 bits, in decimal with a sign or, without one, in hexadecimal, octal or binary notation. A
floating-point number must not round to positive infinity.
-/

namespace Vocoder.Toml.Numeral

/-- More digits of a class, with single underscores among them; an underscore needs a digit behind. -/
def moreDigits? (isDigit : Char → Bool) : List Char → Option (List Char × List Char)
  | '_' :: c :: rest =>
    if isDigit c then (moreDigits? isDigit rest).map (Quoted.push c) else none
  | ['_'] => none
  | c :: rest =>
    if isDigit c then (moreDigits? isDigit rest).map (Quoted.push c) else some ([], c :: rest)
  | [] => some ([], [])

/-- Digits of a class, at least one of them. -/
def digits? (isDigit : Char → Bool) : List Char → Option (List Char × List Char)
  | c :: rest => if isDigit c then (moreDigits? isDigit rest).map (Quoted.push c) else none
  | [] => none

/-- The digits of a decimal integer: a zero stands alone. -/
def wholePart? : List Char → Option (List Char × List Char)
  | '0' :: rest => some (['0'], rest)
  | cs => digits? Char.isDigit cs

/-- A sign, if there is one: whether it is a minus, and what follows. -/
def sign : List Char → Bool × List Char
  | '-' :: rest => (true, rest)
  | '+' :: rest => (false, rest)
  | cs => (false, cs)

/-- The integers of 64 bits. -/
def maxInteger : Int := twoTo 63 - 1

def minInteger : Int := -(twoTo 63)

/-- An integer, if it is one of 64 bits. -/
def checked (n : Int) : Option Int :=
  if minInteger ≤ n ∧ n ≤ maxInteger then some n else none

/-- The number of some digits to a base. -/
def valueOf (base : Nat) (digits : List Char) : Nat :=
  digits.foldl (fun n c => base * n + (Quoted.hexValue? c).getD 0) 0

/-- An integer to a base other than ten, behind the letter that names the base. -/
def based? (base : Nat) (cs : List Char) : Option (Int × List Char) :=
  match digits? (fun c => (Quoted.hexValue? c).any (· < base)) cs with
  | none => none
  | some (digits, rest) => (checked (valueOf base digits)).map fun n => (n, rest)

/-- The power of ten that a floating-point number may end with. -/
def power? : List Char → Option (Int × List Char)
  | [] => some (0, [])
  | c :: rest =>
    if c = 'e' || c = 'E' then
      match sign rest with
      | (negative, rest) =>
        match digits? Char.isDigit rest with
        | none => none
        | some (digits, rest) =>
          let n : Int := Decimal.value digits
          some (if negative then -n else n, rest)
    else some (0, c :: rest)

/-- Whether n · 10^power rounds to infinity as a number of 64 bits: from half a unit above the greatest
finite number on. -/
def overflows (n : Nat) (power : Int) : Bool :=
  let magnitude := ((Decimal.digits n).length : Int) + power
  let bound := twoTo 1024 - twoTo 970
  if n = 0 then false
  else if 310 < magnitude then true
  else if magnitude < 300 then false
  else if 0 ≤ power then bound ≤ n * tenTo power.toNat
  else bound * tenTo (-power).toNat ≤ n

/-- What a number turns out to be. -/
inductive Number where
  | integer (n : Int)
  | float
  deriving DecidableEq, Repr

/-- The end of a floating-point number with the given digits, if it does not overflow. -/
def float? (negative : Bool) (digits : List Char) (places : Nat) (cs : List Char) :
    Option (Number × List Char) :=
  match power? cs with
  | none => none
  | some (power, rest) =>
    if !negative && overflows (Decimal.value digits) (power - places) then none
    else some (.float, rest)

/-- A number in decimal notation without its sign. -/
def decimal? (negative : Bool) (cs : List Char) : Option (Number × List Char) :=
  match wholePart? cs with
  | none => none
  | some (whole, '.' :: rest) =>
    match digits? Char.isDigit rest with
    | none => none
    | some (fraction, rest) => float? negative (whole ++ fraction) fraction.length rest
  | some (whole, rest) =>
    if rest.head? = some 'e' || rest.head? = some 'E' then float? negative whole 0 rest
    else
      let n : Int := Decimal.value whole
      (checked (if negative then -n else n)).map fun n => (.integer n, rest)

/-- Read a number, and give what follows. -/
def read? : List Char → Option (Number × List Char)
  | '0' :: 'x' :: rest => (based? 16 rest).map fun (n, rest) => (.integer n, rest)
  | '0' :: 'o' :: rest => (based? 8 rest).map fun (n, rest) => (.integer n, rest)
  | '0' :: 'b' :: rest => (based? 2 rest).map fun (n, rest) => (.integer n, rest)
  | cs =>
    match sign cs with
    | (_, 'i' :: 'n' :: 'f' :: rest) => some (.float, rest)
    | (_, 'n' :: 'a' :: 'n' :: rest) => some (.float, rest)
    | (negative, rest) => decimal? negative rest

end Vocoder.Toml.Numeral
