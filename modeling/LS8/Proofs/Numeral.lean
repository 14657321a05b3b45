import LS8.Text.Numeral
import Mathlib.Data.List.Basic
import Mathlib.Data.List.Induction

/-!
# Decimal numerals

Every number has one decimal numeral: it consists of digits, of which the first is not zero unless it
is the only one.

* `IsNumeral`: the decimal numerals of a number, said by how they are read;
* `digitChar_value`, `ofDigitChars_concat`: the last digit of a numeral;
* **`isNumeral_toDigits`**, **`isNumeral_iff`**: the digits of a number are its only numeral.
-/

set_option autoImplicit false

namespace LS8

/-- The characters are a decimal numeral of a number: there is no sign, and no zero in front. -/
structure IsNumeral (digits : List Char) (n : Nat) : Prop where
  ne_nil : digits ≠ []
  isDigit : ∀ d ∈ digits, d.isDigit = true
  head : digits.head? = some '0' → digits = ['0']
  value : Nat.ofDigitChars 10 digits 0 = n

/-- A digit is the one that stands for its value. -/
theorem digitChar_value {d : Char} (h : d.isDigit = true) :
    d.toNat - 48 < 10 ∧ (d.toNat - 48).digitChar = d := by
  have hrange : 48 ≤ d.toNat ∧ d.toNat ≤ 57 := by
    rw [Char.isDigit, Bool.and_eq_true, decide_eq_true_eq, decide_eq_true_eq] at h
    exact h
  have hlt : d.toNat - 48 < 10 := by omega
  refine ⟨hlt, Char.toNat_inj.mp ?_⟩
  rw [Nat.toNat_digitChar_of_lt_ten hlt]
  omega

theorem ofDigitChars_concat (digits : List Char) (d : Char) :
    Nat.ofDigitChars 10 (digits ++ [d]) 0 =
      10 * Nat.ofDigitChars 10 digits 0 + (d.toNat - 48) := by
  rw [Nat.ofDigitChars, List.foldl_append]
  rfl

theorem head?_toDigits_ne {n : Nat} (h : 0 < n) : (Nat.toDigits 10 n).head? ≠ some '0' := by
  induction n using Nat.strongRecOn with
  | ind n ih =>
    by_cases hlt : n < 10
    · rw [Nat.toDigits_of_lt_base hlt, List.head?_cons]
      intro h0
      have hn : n = 0 := Nat.digitChar_eq_zero.mp (Option.some.inj h0)
      omega
    · have hpos : 0 < n / 10 := by omega
      rw [Nat.toDigits_of_base_le (by decide) (Nat.le_of_not_lt hlt),
        List.head?_append_of_ne_nil _ Nat.toDigits_ne_nil]
      exact ih (n / 10) (by omega) hpos

/-- **The digits of a number are a numeral** of it. -/
theorem isNumeral_toDigits (n : Nat) : IsNumeral (Nat.toDigits 10 n) n where
  ne_nil := Nat.toDigits_ne_nil
  isDigit _ hd := Nat.isDigit_of_mem_toDigits (by decide) (by decide) hd
  head h := by
    obtain rfl | hpos := Nat.eq_zero_or_pos n
    · rfl
    · exact absurd h (head?_toDigits_ne hpos)
  value := Nat.ofDigitChars_toDigits (by decide) (by decide)

namespace IsNumeral

variable {digits : List Char} {d : Char} {n : Nat}

/-- A zero in front of other digits is ruled out. -/
theorem head?_ne (h : IsNumeral (digits ++ [d]) n) (hne : digits ≠ []) :
    digits.head? ≠ some '0' := by
  intro h0
  have hall := h.head (by rw [List.head?_append_of_ne_nil _ hne, h0])
  have hlength := congrArg List.length hall
  have hpos := List.length_pos_iff.mpr hne
  rw [List.length_append, List.length_singleton, List.length_singleton] at hlength
  omega

/-- The digits in front of the last one are a numeral too, if there are any. -/
theorem front (h : IsNumeral (digits ++ [d]) n) (hne : digits ≠ []) :
    IsNumeral digits (Nat.ofDigitChars 10 digits 0) where
  ne_nil := hne
  isDigit d hd := h.isDigit d (List.mem_append_left _ hd)
  head h0 := absurd h0 (h.head?_ne hne)
  value := rfl

/-- A numeral consists of the digits of its number. -/
theorem eq_toDigits (h : IsNumeral digits n) : digits = Nat.toDigits 10 n := by
  induction digits using List.reverseRecOn generalizing n with
  | nil => exact absurd rfl h.ne_nil
  | append_singleton digits d ih =>
    obtain ⟨hlt, hd⟩ := digitChar_value (h.isDigit d (by simp))
    have hlast : Nat.toDigits 10 (d.toNat - 48) = [d] := by
      rw [Nat.toDigits_of_lt_base hlt, hd]
    have hvalue := h.value
    rw [ofDigitChars_concat] at hvalue
    by_cases hne : digits = []
    · subst hne
      have hn : d.toNat - 48 = n := (Nat.zero_add _).symm.trans hvalue
      rw [← hn, hlast]
      rfl
    · have hdigits := ih (h.front hne)
      have hpos : 0 < Nat.ofDigitChars 10 digits 0 := by
        rw [Nat.pos_iff_ne_zero]
        intro h0
        rw [h0] at hdigits
        exact h.head?_ne hne (by rw [hdigits]; rfl)
      rw [← hvalue, ← Nat.toDigits_append_toDigits (by decide) hpos hlt, ← hdigits, hlast]

theorem not_lf (h : IsNumeral digits n) : ∀ d ∈ digits, (d == '\n') = false := by
  intro d hd
  have hdigit := h.isDigit d hd
  rw [beq_eq_false_iff_ne]
  rintro rfl
  exact absurd hdigit (by decide)

end IsNumeral

/-- **A number has one numeral.** -/
theorem isNumeral_iff {digits : List Char} {n : Nat} :
    IsNumeral digits n ↔ digits = Nat.toDigits 10 n :=
  ⟨IsNumeral.eq_toDigits, fun h => h ▸ isNumeral_toDigits n⟩

end LS8
