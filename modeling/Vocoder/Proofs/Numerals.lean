import Mathlib
import Vocoder.Text.Decimal

/-!
# Numerals and their values

A number has one numeral without leading zeros, and that is the one that is written for it.

* **`Decimal.digits_value`** — a numeral without leading zeros is the one that is written for its value.
* **`Decimal.digits_head`** — what is written starts with a zero only for zero itself.
* **`Decimal.value_lt`** — the value of a numeral is bounded by how long it is.
-/

namespace Vocoder

namespace Decimal

theorem isNumeral_iff {cs : List Char} : isNumeral cs = true ↔ ∀ c ∈ cs, c.isDigit = true :=
  List.all_eq_true

theorem exists_digits (n : Nat) :
    ∃ d more, digits n = d :: more ∧ ∀ c ∈ d :: more, c.isDigit = true := by
  obtain ⟨d, more, hds⟩ : ∃ d more, digits n = d :: more :=
    List.exists_cons_of_ne_nil Nat.toDigits_ne_nil
  refine ⟨d, more, hds, ?_⟩
  rw [← hds]
  exact isNumeral_iff.mp (isNumeral_digits n)

theorem digitChar_of_isDigit {c : Char} (h : c.isDigit = true) :
    c.toNat - '0'.toNat < 10 ∧ (c.toNat - '0'.toNat).digitChar = c := by
  have hzero : '0'.toNat = 48 := rfl
  have hrange : 48 ≤ c.toNat ∧ c.toNat ≤ 57 := by
    simpa [Char.isDigit, UInt32.le_iff_toNat_le] using h
  rw [hzero]
  refine ⟨by omega, Char.toNat_inj.mp ?_⟩
  rw [Nat.toNat_digitChar_of_lt_ten (by omega)]
  omega

theorem digits_ofDigitChars {cs : List Char} (h : isNumeral cs = true) :
    ∀ {n : Nat}, 0 < n → digits (Nat.ofDigitChars 10 cs n) = digits n ++ cs := by
  induction cs with
  | nil =>
    intro n _
    rw [Nat.ofDigitChars_nil, List.append_nil]
  | cons c rest ih =>
    intro n hn
    rw [isNumeral, List.all_cons, Bool.and_eq_true] at h
    obtain ⟨hlt, hc⟩ := digitChar_of_isDigit h.1
    rw [Nat.ofDigitChars_cons, ih h.2 (by omega), digits, digits,
      ← Nat.toDigits_append_toDigits (by decide) hn hlt, Nat.toDigits_of_lt_base hlt, hc,
      List.append_assoc]
    rfl

/-- **A numeral without leading zeros is the one that is written for its value.** -/
theorem digits_value {cs : List Char} (hne : cs ≠ []) (h : isNumeral cs = true)
    (hzero : cs.head? = some '0' → cs = ['0']) : digits (value cs) = cs := by
  obtain ⟨c, rest, rfl⟩ := List.exists_cons_of_ne_nil hne
  rw [isNumeral, List.all_cons, Bool.and_eq_true] at h
  obtain ⟨hlt, hc⟩ := digitChar_of_isDigit h.1
  rw [value, Nat.ofDigitChars_cons, Nat.mul_zero, Nat.zero_add]
  by_cases hpos : 0 < c.toNat - '0'.toNat
  · rw [digits_ofDigitChars h.2 hpos, digits, Nat.toDigits_of_lt_base hlt, hc]
    rfl
  · -- a zero is alone
    have hc : c = '0' := by
      rw [← hc, Nat.eq_zero_of_not_pos hpos]
      rfl
    subst hc
    cases hzero rfl
    rfl

/-- The shortest numeral starts with a zero only if it is one. -/
theorem digits_head {n : Nat} (h : (digits n).head? = some '0') : digits n = ['0'] := by
  induction n using Nat.strongRecOn with
  | ind n ih =>
    by_cases hlt : n < 10
    · rw [digits, Nat.toDigits_of_lt_base hlt] at h ⊢
      exact congrArg (fun c => [c]) (Option.some.inj h)
    · -- the first digit is that of a smaller number, which is not zero
      have hsplit : digits n = digits (n / 10) ++ [(n % 10).digitChar] :=
        Nat.toDigits_of_base_le (by decide) (by omega)
      have hne : digits (n / 10) ≠ [] := Nat.toDigits_ne_nil
      rw [hsplit, List.head?_append_of_ne_nil _ hne] at h
      have hvalue := value_digits (n / 10)
      rw [ih (n / 10) (by omega) h] at hvalue
      have hzero : value ['0'] = 0 := rfl
      omega

theorem value_lt {cs : List Char} (h : isNumeral cs = true) : value cs < 10 ^ cs.length := by
  induction cs with
  | nil => decide
  | cons c rest ih =>
    rw [isNumeral, List.all_cons, Bool.and_eq_true] at h
    have hdigit := (digitChar_of_isDigit h.1).1
    have hrest := ih h.2
    rw [value] at hrest
    rw [value, Nat.ofDigitChars_cons, Nat.ofDigitChars_eq_ofDigitChars_zero, List.length_cons, pow_succ]
    have hmul : 10 ^ rest.length * (10 * 0 + (c.toNat - '0'.toNat)) ≤ 10 ^ rest.length * 9 :=
      Nat.mul_le_mul_left _ (by omega)
    omega

end Decimal

end Vocoder
