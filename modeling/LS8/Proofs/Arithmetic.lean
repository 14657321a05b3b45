import LS8.Alu
import Mathlib.Logic.Function.Basic

/-!
# Arithmetic modulo 256

The general registers hold residues modulo 256. Sums, differences and products of residues are the
residues of sums, differences and products, so a calculation may as well be made with exact numbers
that are reduced when it is over.

* `Operation`, `Registers.calculate`, `Numbers.calculate`: a sequence of operations, on the registers
  and on exact numbers;
* `Registers.Holds`: the registers hold the residues of some numbers;
* **`Holds.alu`**, **`Holds.calculate`**: so they do after any operations on both;
* **`flags_calculate`**, **`flags_calculate_append`**: the flags are as they were, or tell the last
  comparison;
* **`alu_sub_add`**: what was added to a register can be taken away again;
* **`calculate_modular`**: all of this about whole calculations.
-/

set_option autoImplicit false

namespace LS8

/-! ## Residues -/

section Residues

variable {x y : UInt8} {m n : Int}

theorem toNat_add_emod (hx : (x.toNat : Int) = m % 256) (hy : (y.toNat : Int) = n % 256) :
    ((x + y).toNat : Int) = (m + n) % 256 := by
  rw [UInt8.toNat_add]
  omega

theorem toNat_sub_emod (hx : (x.toNat : Int) = m % 256) (hy : (y.toNat : Int) = n % 256) :
    ((x - y).toNat : Int) = (m - n) % 256 := by
  have hlt := y.toNat_lt
  rw [UInt8.toNat_sub]
  omega

theorem toNat_mul_emod (hx : (x.toNat : Int) = m % 256) (hy : (y.toNat : Int) = n % 256) :
    ((x * y).toNat : Int) = (m * n) % 256 := by
  rw [UInt8.toNat_mul, Int.mul_emod, ← hx, ← hy]
  rfl

/-- Bytes are compared as the numbers that they are. -/
theorem compare_toNat (x y : UInt8) : compare x y = compare (x.toNat : Int) (y.toNat : Int) := by
  have hlt : x < y ↔ (x.toNat : Int) < y.toNat := by rw [UInt8.lt_iff_toNat_lt, Int.ofNat_lt]
  have heq : x = y ↔ (x.toNat : Int) = y.toNat := by rw [← UInt8.toNat_inj, Int.ofNat_inj]
  change compareOfLessAndEq x y = compareOfLessAndEq _ _
  simp only [compareOfLessAndEq, hlt, heq]

end Residues

/-! ## Calculations -/

/-- An operation with its two registers. The result goes into the first. -/
structure Operation where
  op : AluOp
  a : Register
  b : Register
deriving DecidableEq

/-- Exact numbers in the places of the general registers, of any size and sign. -/
abbrev Numbers : Type := Register → Int

namespace Numbers

/-- The numbers after an operation, without any reduction. -/
def alu (v : Numbers) (op : AluOp) (a b : Register) : Numbers :=
  match op with
  | .add => Function.update v a (v a + v b)
  | .sub => Function.update v a (v a - v b)
  | .mul => Function.update v a (v a * v b)
  | .cmp => v

/-- The numbers after some operations, one after the other. -/
def calculate (v : Numbers) (ops : List Operation) : Numbers :=
  ops.foldl (fun v o => v.alu o.op o.a o.b) v

end Numbers

namespace Registers

/-- The registers after some operations, one after the other. -/
def calculate (rs : Registers) (ops : List Operation) : Registers :=
  ops.foldl (fun rs o => rs.alu o.op o.a o.b) rs

/-- The numbers in the general registers. -/
def numbers (rs : Registers) : Numbers := fun r => (rs.get r).toNat

/-- Each general register holds the residue of its number. -/
def Holds (rs : Registers) (v : Numbers) : Prop := ∀ r, ((rs.get r).toNat : Int) = v r % 256

theorem holds_numbers (rs : Registers) : rs.Holds rs.numbers := by
  intro r
  have hlt := (rs.get r).toNat_lt
  rw [numbers]
  omega

theorem Holds.set {rs : Registers} {v : Numbers} (h : rs.Holds v) (a : Register) {value : UInt8}
    {n : Int} (hn : (value.toNat : Int) = n % 256) :
    (rs.set a value).Holds (Function.update v a n) := by
  intro r
  rw [get_set]
  by_cases hr : a = r
  · subst hr
    rw [if_pos rfl, Function.update_self]
    exact hn
  · rw [if_neg hr, Function.update_of_ne (Ne.symm hr)]
    exact h r

/-- **Residues stay residues** in an operation. -/
theorem Holds.alu {rs : Registers} {v : Numbers} (h : rs.Holds v) (op : AluOp) (a b : Register) :
    (rs.alu op a b).Holds (v.alu op a b) := by
  cases op with
  | add => exact h.set a (toNat_add_emod (h a) (h b))
  | sub => exact h.set a (toNat_sub_emod (h a) (h b))
  | mul => exact h.set a (toNat_mul_emod (h a) (h b))
  | cmp => exact h

/-- **Residues stay residues** in a calculation, which is reduced only when it is over. -/
theorem Holds.calculate {rs : Registers} {v : Numbers} (h : rs.Holds v) (ops : List Operation) :
    (rs.calculate ops).Holds (v.calculate ops) := by
  induction ops generalizing rs v with
  | nil => exact h
  | cons o ops ih => exact ih (h.alu o.op o.a o.b)

theorem pc_calculate (rs : Registers) (ops : List Operation) : (rs.calculate ops).pc = rs.pc := by
  induction ops generalizing rs with
  | nil => rfl
  | cons o ops ih => exact (ih _).trans (rs.alu_pc o.op o.a o.b)

/-! ## Flags -/

/-- **Arithmetic leaves the flags alone.** -/
theorem flags_calculate (rs : Registers) {ops : List Operation} (h : ∀ o ∈ ops, o.op ≠ .cmp) :
    (rs.calculate ops).flags = rs.flags := by
  induction ops generalizing rs with
  | nil => rfl
  | cons o ops ih =>
    have hops : ∀ o ∈ ops, o.op ≠ .cmp := fun o' ho' => h o' (List.mem_cons_of_mem o ho')
    exact (ih _ hops).trans (rs.alu_flags (h o List.mem_cons_self) o.a o.b)

/-- A comparison replaces the flags by the one that tells the order of two residues. -/
theorem flags_compare {rs : Registers} {v : Numbers} (h : rs.Holds v) (a b : Register) :
    (rs.alu .cmp a b).flags = Flags.ofOrdering (Ord.compare (v a % 256) (v b % 256)) := by
  change Flags.ofOrdering (Ord.compare (rs.get a) (rs.get b)) = _
  rw [compare_toNat, h a, h b]

/-- **The flags tell the last comparison**, whatever was in their register before it. -/
theorem flags_calculate_append (rs : Registers) (before : List Operation) (a b : Register)
    {after : List Operation} (h : ∀ o ∈ after, o.op ≠ .cmp) :
    (rs.calculate (before ++ ⟨.cmp, a, b⟩ :: after)).flags =
      Flags.ofOrdering (Ord.compare (rs.numbers.calculate before a % 256)
        (rs.numbers.calculate before b % 256)) := by
  have hsplit : rs.calculate (before ++ ⟨.cmp, a, b⟩ :: after) =
      ((rs.calculate before).alu .cmp a b).calculate after := by
    rw [calculate, List.foldl_append, List.foldl_cons]
    rfl
  rw [hsplit, flags_calculate _ h, flags_compare (rs.holds_numbers.calculate before)]

/-! ## Taking away what was added -/

/-- **What was added to a register can be taken away again**, if it is in another register. -/
theorem alu_sub_add (rs : Registers) {a b : Register} (h : a ≠ b) :
    (rs.alu .add a b).alu .sub a b = rs := by
  simp only [alu]
  rw [get_set, get_set, if_pos rfl, if_neg h, UInt8.add_sub_cancel, set_set, set_get]

/-! ## Whole calculations -/

/-- **A calculation is one modulo 256.** The general registers come to the residues of what exact
numbers would come to, and the program counter stays. The flags stay too, unless something is
compared; then they are the one flag that tells the order of the residues that were compared last.
And what was added to a register from another one can be taken away again. -/
theorem calculate_modular (rs : Registers) (ops : List Operation) :
    (∀ r, (((rs.calculate ops).get r).toNat : Int) = rs.numbers.calculate ops r % 256) ∧
      (rs.calculate ops).pc = rs.pc ∧
      ((∀ o ∈ ops, o.op ≠ .cmp) → (rs.calculate ops).flags = rs.flags) ∧
      (∀ before a b after, ops = before ++ ⟨.cmp, a, b⟩ :: after → (∀ o ∈ after, o.op ≠ .cmp) →
        (rs.calculate ops).flags =
          Flags.ofOrdering (Ord.compare (rs.numbers.calculate before a % 256)
            (rs.numbers.calculate before b % 256))) ∧
      ∀ a b, a ≠ b → rs.calculate [⟨.add, a, b⟩, ⟨.sub, a, b⟩] = rs := by
  refine ⟨rs.holds_numbers.calculate ops, rs.pc_calculate ops, rs.flags_calculate, ?_, ?_⟩
  · rintro before a b after rfl hafter
    exact rs.flags_calculate_append before a b hafter
  · intro a b hab
    exact rs.alu_sub_add hab

/-- The square of a number below zero, which is stored as a byte in between. -/
example : ((zero.set ⟨1⟩ 3).calculate [⟨.sub, ⟨0⟩, ⟨1⟩⟩, ⟨.mul, ⟨0⟩, ⟨0⟩⟩]).get ⟨0⟩ = 9 := by
  decide

end Registers

end LS8
