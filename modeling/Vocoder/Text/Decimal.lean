/-!
# Decimal numerals

Numbers as decimal digits and back. A numeral is a list of characters; `value` reads it whatever zeros
it starts with, and `digits` writes the shortest one.
-/

namespace Vocoder.Decimal

/-- The number of a numeral. -/
def value (numeral : List Char) : Nat :=
  Nat.ofDigitChars 10 numeral 0

/-- Whether these are digits and nothing else. -/
def isNumeral (cs : List Char) : Bool :=
  cs.all Char.isDigit

/-- The shortest numeral of a number. -/
def digits (n : Nat) : List Char :=
  Nat.toDigits 10 n

theorem value_digits (n : Nat) : value (digits n) = n :=
  Nat.ofDigitChars_toDigits (by decide) (by decide)

theorem isNumeral_digits (n : Nat) : isNumeral (digits n) = true := by
  rw [isNumeral, List.all_eq_true]
  intro c hc
  exact Nat.isDigit_of_mem_toDigits (by decide) (by decide) hc

end Vocoder.Decimal
