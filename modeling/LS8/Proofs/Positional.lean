import LS8.Text.Numeral
import Mathlib.Data.List.Basic

/-!
# Positional numerals

A numeral in any base up to sixteen is read back, whatever zeros stand in front of it and whether
its letters are small or capital. So no two numbers have the same numeral.

* `digitValue`, `readDigits`: what a digit and a numeral stand for;
* `mem_padded`: a numeral consists of digits;
* **`readDigits_padded`**, **`readDigits_hexPair`**: numerals are read back;
* **`padded_inj`**, **`decimal_inj`**, **`binary_inj`**, **`hexPair_inj`**: numerals tell numbers
  apart.
-/

set_option autoImplicit false

namespace LS8

/-- What a digit stands for. The letters that are digits may be small or capital. -/
def digitValue (d : Char) : Nat :=
  if d.isDigit then d.toNat - '0'.toNat else d.toLower.toNat - 'a'.toNat + 10

/-- The number that digits stand for in a base, the most significant first. -/
def readDigits (base : Nat) (digits : List Char) : Nat :=
  digits.foldl (fun n d => base * n + digitValue d) 0

/-! ## Digits -/

theorem digitValue_digitChar {k : Nat} (h : k < 16) :
    digitValue k.digitChar = k ∧ digitValue k.digitChar.toUpper = k := by
  revert k
  decide

section Digits

variable {base width n : Nat} {d : Char}

theorem mem_toDigits (hbase : 1 < base) (h : d ∈ Nat.toDigits base n) :
    ∃ k < base, d = k.digitChar := by
  induction n using Nat.strongRecOn with
  | ind n ih =>
    by_cases hlt : n < base
    · rw [Nat.toDigits_of_lt_base hlt, List.mem_singleton] at h
      exact ⟨n, hlt, h⟩
    · rw [Nat.toDigits_of_base_le hbase (by omega), List.mem_append, List.mem_singleton] at h
      obtain h | h := h
      · exact ih (n / base) (Nat.div_lt_self (by omega) hbase) h
      · exact ⟨n % base, Nat.mod_lt n (by omega), h⟩

/-- A numeral consists of digits. -/
theorem mem_padded (hbase : 1 < base) (h : d ∈ padded base width n) :
    ∃ k < base, d = k.digitChar := by
  rw [padded, List.leftpad, List.mem_append] at h
  obtain h | h := h
  · exact ⟨0, by omega, List.eq_of_mem_replicate h⟩
  · exact mem_toDigits hbase h

end Digits

/-! ## Numerals -/

section Numerals

variable {base : Nat}

theorem readDigits_concat (digits : List Char) (d : Char) :
    readDigits base (digits ++ [d]) = base * readDigits base digits + digitValue d := by
  rw [readDigits, List.foldl_append]
  rfl

theorem readDigits_zeros (k : Nat) (digits : List Char) :
    readDigits base (List.replicate k '0' ++ digits) = readDigits base digits := by
  induction k with
  | zero => rfl
  | succ k ih =>
    have hzero : base * 0 + digitValue '0' = 0 := by rw [Nat.mul_zero]; rfl
    rw [List.replicate_succ, List.cons_append, readDigits, List.foldl_cons, hzero]
    exact ih

theorem readDigits_toDigits (hbase : 1 < base) (hle : base ≤ 16) (n : Nat) :
    readDigits base (Nat.toDigits base n) = n := by
  induction n using Nat.strongRecOn with
  | ind n ih =>
    by_cases hlt : n < base
    · rw [Nat.toDigits_of_lt_base hlt, readDigits, List.foldl_cons, List.foldl_nil, Nat.mul_zero,
        Nat.zero_add]
      exact (digitValue_digitChar (by omega)).1
    · have hmod : n % base < base := Nat.mod_lt n (by omega)
      rw [Nat.toDigits_of_base_le hbase (by omega), readDigits_concat,
        ih (n / base) (Nat.div_lt_self (by omega) hbase), (digitValue_digitChar (by omega)).1]
      exact Nat.div_add_mod n base

/-- **A numeral is read back**, whatever zeros it was filled in with. -/
theorem readDigits_padded (hbase : 1 < base) (hle : base ≤ 16) (width n : Nat) :
    readDigits base (padded base width n) = n := by
  rw [padded, List.leftpad, readDigits_zeros, readDigits_toDigits hbase hle]

theorem readDigits_map_toUpper (hbase : 1 < base) (hle : base ≤ 16) (width n : Nat) :
    readDigits base ((padded base width n).map Char.toUpper) = n := by
  rw [readDigits, List.foldl_map]
  refine Eq.trans (List.foldl_ext _ _ _ fun m d hd => ?_) (readDigits_padded hbase hle width n)
  obtain ⟨k, hk, rfl⟩ := mem_padded hbase hd
  obtain ⟨hsmall, hcapital⟩ := digitValue_digitChar (k := k) (by omega)
  rw [hsmall, hcapital]

/-- **The two digits of a byte are read back.** -/
theorem readDigits_hexPair (b : UInt8) : readDigits 16 (hexPair b).toList = b.toNat := by
  rw [hexPair, String.toList_ofList]
  exact readDigits_map_toUpper (by decide) (by decide) 2 b.toNat

theorem readDigits_decimal (n : Nat) : readDigits 10 (decimal n).toList = n := by
  rw [decimal, String.toList_ofList]
  exact readDigits_padded (by decide) (by decide) 1 n

end Numerals

/-! ## Numerals tell numbers apart -/

theorem padded_inj {base width m n : Nat} (hbase : 1 < base) (hle : base ≤ 16) :
    padded base width m = padded base width n ↔ m = n := by
  refine ⟨fun h => ?_, congrArg _⟩
  have hread := congrArg (readDigits base) h
  rwa [readDigits_padded hbase hle, readDigits_padded hbase hle] at hread

theorem decimal_inj {m n : Nat} : decimal m = decimal n ↔ m = n := by
  rw [decimal, decimal, String.ofList_inj]
  exact padded_inj (by decide) (by decide)

theorem binary_inj {a b : UInt8} : binary a = binary b ↔ a = b := by
  rw [binary, binary, String.append_right_inj, String.ofList_inj,
    padded_inj (by decide) (by decide), UInt8.toNat_inj]

theorem hexPair_inj {a b : UInt8} : hexPair a = hexPair b ↔ a = b := by
  refine ⟨fun h => ?_, congrArg _⟩
  have hread := congrArg (fun text => readDigits 16 text.toList) h
  rw [readDigits_hexPair, readDigits_hexPair] at hread
  exact UInt8.toNat_inj.mp hread

end LS8
