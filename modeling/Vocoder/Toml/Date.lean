import Vocoder.Text.Decimal

/-!
# Dates and times

A date, a time of day, or both with perhaps an offset from universal time. No setting is a date, so
reading one gives only what follows it; but a date must be one that exists.
-/

namespace Vocoder.Toml.Date

/-- A number of exactly so many digits. -/
def number? (digits : Nat) (cs : List Char) : Option (Nat × List Char) :=
  let numeral := cs.take digits
  if numeral.length = digits && Decimal.isNumeral numeral then
    some (Decimal.value numeral, cs.drop digits)
  else none

/-- A number of exactly so many digits between two bounds. -/
def field? (digits low high : Nat) (cs : List Char) : Option (Nat × List Char) :=
  match number? digits cs with
  | none => none
  | some (n, rest) => if low ≤ n ∧ n ≤ high then some (n, rest) else none

/-- The text behind a character. -/
def skip? (c : Char) : List Char → Option (List Char)
  | [] => none
  | d :: rest => if d = c then some rest else none

/-- Whether a year has a day more. -/
def isLeap (year : Nat) : Bool :=
  year % 4 = 0 && (year % 100 ≠ 0 || year % 400 = 0)

/-- The number of days of a month. -/
def daysIn (year month : Nat) : Nat :=
  if month = 2 then if isLeap year then 29 else 28
  else if month = 4 || month = 6 || month = 9 || month = 11 then 30
  else 31

/-- What follows a date. -/
def day? (cs : List Char) : Option (List Char) := do
  let (year, cs) ← number? 4 cs
  let cs ← skip? '-' cs
  let (month, cs) ← field? 2 1 12 cs
  let cs ← skip? '-' cs
  let (_, cs) ← field? 2 1 (daysIn year month) cs
  return cs

/-- What follows the fraction of a second, if there is one. -/
def skipFraction : List Char → List Char
  | '.' :: c :: rest => if c.isDigit then rest.dropWhile Char.isDigit else '.' :: c :: rest
  | cs => cs

/-- What follows a time of day; a minute may have a leap second. -/
def time? (cs : List Char) : Option (List Char) := do
  let (_, cs) ← field? 2 0 23 cs
  let cs ← skip? ':' cs
  let (_, cs) ← field? 2 0 59 cs
  let cs ← skip? ':' cs
  let (_, cs) ← field? 2 0 60 cs
  return skipFraction cs

/-- What follows an offset. -/
def offset? : List Char → Option (List Char)
  | [] => none
  | c :: cs =>
    if c = 'Z' || c = 'z' then some cs
    else if c = '+' || c = '-' then do
      let (_, cs) ← field? 2 0 23 cs
      let cs ← skip? ':' cs
      let (_, cs) ← field? 2 0 59 cs
      return cs
    else none

/-- What follows the time of day behind a date, if there is one. -/
def skipTime : List Char → List Char
  | [] => []
  | c :: cs =>
    if c = 'T' || c = 't' || c = ' ' then
      match time? cs with
      | none => c :: cs
      | some rest => (offset? rest).getD rest
    else c :: cs

/-- Read a date or a time, and give what follows. -/
def read? (cs : List Char) : Option (List Char) :=
  match day? cs with
  | some rest => some (skipTime rest)
  | none => time? cs

end Vocoder.Toml.Date
