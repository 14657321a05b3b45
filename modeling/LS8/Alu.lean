import LS8.Registers
import LS8.Text.Quoted
import LS8.Text.UpperCase

/-!
# The arithmetic unit

Operations on two registers. Arithmetic is modulo 256 and leaves the flags alone; a comparison
replaces the flags and leaves the registers alone. No instruction of a program is arithmetic, and
what the arithmetic operations tell of themselves is not modelled.

* `AluOp`, `AluOp.ofName`: the operations, and how a name in any case designates one;
* `Registers.compare`, `Registers.alu`;
* **`alu_pc`**, **`alu_flags`**: no operation moves the program counter, and only a comparison
  touches the flags.
-/

set_option autoImplicit false

namespace LS8

/-- An operation of the arithmetic unit. -/
inductive AluOp
  | add
  | sub
  | mul
  | cmp
deriving DecidableEq

/-- A name that designates no operation. -/
structure UnsupportedOperation where
  name : String
deriving DecidableEq

namespace UnsupportedOperation

/-- The wording of the error: it shows the name as it was given. -/
def message (e : UnsupportedOperation) : String := "unsupported ALU operation " ++ quoted e.name

end UnsupportedOperation

namespace AluOp

/-- All operations. -/
def all : List AluOp := [add, sub, mul, cmp]

/-- The name of an operation, in upper case. -/
def name : AluOp → String
  | add => "ADD"
  | sub => "SUB"
  | mul => "MUL"
  | cmp => "CMP"

/-- The operation whose name a text is, once it is in upper case. -/
def ofName (text : String) : Except UnsupportedOperation AluOp :=
  match all.find? fun op => op.name.toList = upperCase text.toList with
  | some op => .ok op
  | none => .error ⟨text⟩

end AluOp

namespace Registers

/-- The registers after a comparison of two of them. -/
def compare (rs : Registers) (a b : Register) : Registers :=
  { rs with flags := Flags.ofOrdering (Ord.compare (rs.get a) (rs.get b)) }

/-- The registers after an operation on two of them, whose result goes into the first. -/
def alu (rs : Registers) (op : AluOp) (a b : Register) : Registers :=
  match op with
  | .add => rs.set a (rs.get a + rs.get b)
  | .sub => rs.set a (rs.get a - rs.get b)
  | .mul => rs.set a (rs.get a * rs.get b)
  | .cmp => rs.compare a b

@[simp] theorem alu_pc (rs : Registers) (op : AluOp) (a b : Register) :
    (rs.alu op a b).pc = rs.pc := by
  cases op <;> rfl

theorem alu_flags (rs : Registers) {op : AluOp} (h : op ≠ .cmp) (a b : Register) :
    (rs.alu op a b).flags = rs.flags := by
  cases op with
  | add | sub | mul => rfl
  | cmp => exact absurd rfl h

end Registers

end LS8
