/-!
# Numerals

Numbers as text. Every numeral is a positional one, filled with zeros up to a least width.

* `padded`: the digits in a base, at least so many of them;
* `decimal`, `hexDigits`, `hexadecimal`, `binary`, `hexPair`: the forms that messages and listings
  use.
-/

set_option autoImplicit false

namespace LS8

/-- The digits of `n` in base `base`, most significant first, at least `width` of them. -/
def padded (base width n : Nat) : List Char := (Nat.toDigits base n).leftpad width '0'

/-- A number in decimal, without sign or leading zeros. -/
def decimal (n : Nat) : String := String.ofList (padded 10 1 n)

/-- A number in lower-case hexadecimal, at least `width` digits of it. -/
def hexDigits (width n : Nat) : String := String.ofList (padded 16 width n)

/-- A number as a hexadecimal literal: `0x` and at least two lower-case digits. -/
def hexadecimal (n : Nat) : String := "0x" ++ hexDigits 2 n

/-- A byte as a binary literal: `0b` and its eight digits. -/
def binary (b : UInt8) : String := "0b" ++ String.ofList (padded 2 8 b.toNat)

/-- A byte as its two hexadecimal digits, in upper case. -/
def hexPair (b : UInt8) : String := String.ofList ((padded 16 2 b.toNat).map Char.toUpper)

end LS8
