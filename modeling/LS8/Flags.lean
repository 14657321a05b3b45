import LS8.Text.Numeral

/-!
# Condition flags

A comparison leaves exactly one of three flags. The register that holds them is eight bits wide and
keeps whatever is put into it.

* `Flags`, with the flags `equal`, `greater` and `less`;
* `Flags.contains`, `Flags.known`, `Flags.isKnown`;
* `Flags.ofOrdering`: the one flag that tells an order;
* **`contains_equal_ofOrdering`**: among the flags of an order, `equal` is set for equality only.
-/

set_option autoImplicit false

namespace LS8

/-- The contents of the flag register. -/
structure Flags where
  bits : UInt8
deriving DecidableEq

namespace Flags

/-- No flag. -/
def empty : Flags := ⟨0b000⟩

/-- The operands were equal. -/
def equal : Flags := ⟨0b001⟩

/-- The first operand was greater than the second. -/
def greater : Flags := ⟨0b010⟩

/-- The first operand was less than the second. -/
def less : Flags := ⟨0b100⟩

/-- Whether no bit at all is set. -/
def isEmpty (f : Flags) : Bool := f.bits = 0

/-- Whether all bits of `g` are set in `f`. -/
def contains (f g : Flags) : Bool := f.bits &&& g.bits = g.bits

/-- The part of the register that holds the three flags. -/
def known (f : Flags) : Flags :=
  ⟨f.bits &&& (equal.bits ||| greater.bits ||| less.bits)⟩

/-- Whether no bit is set besides the three flags. -/
def isKnown (f : Flags) : Bool := f.known = f

/-- The one flag that tells how two values compare. -/
def ofOrdering : Ordering → Flags
  | .lt => less
  | .eq => equal
  | .gt => greater

/-- The flags as a binary literal. -/
def text (f : Flags) : String := binary f.bits

/-- The flag of equality is the lowest bit, whatever else is in the register. -/
theorem contains_equal (f : Flags) : f.contains equal = f.bits.toNat.testBit 0 := by
  have h : f.bits &&& 1 = 1 ↔ f.bits.toNat % 2 = 1 := by
    rw [← UInt8.toNat_inj, UInt8.toNat_and]
    simp [Nat.and_one_is_mod]
  simp only [contains, equal, Nat.testBit_zero]
  exact decide_eq_decide.mpr h

theorem contains_equal_ofOrdering (o : Ordering) :
    (ofOrdering o).contains equal = true ↔ o = .eq := by
  cases o <;> decide

end Flags

end LS8
