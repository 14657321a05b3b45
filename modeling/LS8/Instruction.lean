import LS8.Opcode
import LS8.Registers

/-!
# Instructions

An opcode with its operands.

* `Instruction`, `Instruction.opcode`, `Instruction.size`;
* `Instruction.operands`, `Instruction.encode`: the bytes of an instruction;
* `Instruction.text`: its line in assembly;
* **`length_encode`**: the bytes of an instruction are as many as its opcode says.
-/

set_option autoImplicit false

namespace LS8

/-- An instruction with its operands. -/
inductive Instruction
  | hlt
  | ldi (r : Register) (value : UInt8)
  | prn (r : Register)
  | cmp (a b : Register)
  | jmp (r : Register)
  | jeq (r : Register)
  | jne (r : Register)
deriving DecidableEq

namespace Instruction

/-- The opcode of an instruction. -/
def opcode : Instruction → Opcode
  | hlt => .hlt
  | ldi _ _ => .ldi
  | prn _ => .prn
  | cmp _ _ => .cmp
  | jmp _ => .jmp
  | jeq _ => .jeq
  | jne _ => .jne

/-- The number of bytes of an instruction. -/
def size (i : Instruction) : Nat := i.opcode.size

/-- The operand bytes of an instruction. -/
def operands : Instruction → List UInt8
  | hlt => []
  | ldi r value => [r.toByte, value]
  | cmp a b => [a.toByte, b.toByte]
  | prn r | jmp r | jeq r | jne r => [r.toByte]

/-- The bytes of an instruction. -/
def encode (i : Instruction) : List UInt8 := i.opcode.byte :: i.operands

/-- The operands in assembly. -/
def operandTexts : Instruction → List String
  | hlt => []
  | ldi r value => [r.name, decimal value.toNat]
  | cmp a b => [a.name, b.name]
  | prn r | jmp r | jeq r | jne r => [r.name]

/-- An instruction in assembly: the mnemonic, and after two spaces the operands. -/
def text (i : Instruction) : String :=
  match i.operandTexts with
  | [] => i.opcode.mnemonic
  | operands => i.opcode.mnemonic ++ "  " ++ ", ".intercalate operands

theorem length_operands (i : Instruction) : i.operands.length = i.opcode.operandCount := by
  cases i <;> simp [operands, opcode, Opcode.operandCount_eq]

theorem length_encode (i : Instruction) : i.encode.length = i.size := by
  simp [encode, length_operands, size, Opcode.size, Nat.add_comm]

theorem one_le_size (i : Instruction) : 1 ≤ i.size := Nat.le_add_right 1 _

end Instruction

end LS8
