/-!
# Opcodes

The seven opcodes of the machine. The two high bits of an opcode's byte are the number of operand
bytes that follow it.

* `Opcode`, `Opcode.byte`, `Opcode.ofByte`, `Opcode.mnemonic`;
* `Opcode.operandCount`, `Opcode.size`;
* **`ofByte_eq_some_iff`**: a byte designates an opcode exactly if it is that opcode's byte.
-/

set_option autoImplicit false

namespace LS8

/-- What an instruction does. -/
inductive Opcode
  /-- Stop the machine. -/
  | hlt
  /-- Put a value into a register. -/
  | ldi
  /-- Print the value of a register. -/
  | prn
  /-- Compare two registers. -/
  | cmp
  /-- Jump to the address in a register. -/
  | jmp
  /-- Jump if the last comparison found equality. -/
  | jeq
  /-- Jump unless the last comparison found equality. -/
  | jne
deriving DecidableEq

namespace Opcode

/-- All opcodes. -/
def all : List Opcode := [hlt, ldi, prn, cmp, jmp, jeq, jne]

/-- The byte of an opcode. -/
def byte : Opcode → UInt8
  | hlt => 0b00000001
  | ldi => 0b10000010
  | prn => 0b01000111
  | cmp => 0b10100111
  | jmp => 0b01010100
  | jeq => 0b01010101
  | jne => 0b01010110

/-- The opcode of a byte. -/
def ofByte (b : UInt8) : Option Opcode := all.find? fun op => op.byte = b

/-- The name of an opcode in listings. -/
def mnemonic : Opcode → String
  | hlt => "hlt"
  | ldi => "ldi"
  | prn => "prn"
  | cmp => "cmp"
  | jmp => "jmp"
  | jeq => "jeq"
  | jne => "jne"

/-- The number of operand bytes. -/
def operandCount (op : Opcode) : Nat := (op.byte >>> 6).toNat

/-- The number of bytes of the whole instruction. -/
def size (op : Opcode) : Nat := 1 + op.operandCount

/-- The operand counts, opcode by opcode. -/
theorem operandCount_eq (op : Opcode) :
    op.operandCount = match op with
      | hlt => 0
      | ldi | cmp => 2
      | prn | jmp | jeq | jne => 1 := by
  cases op <;> decide

theorem mem_all (op : Opcode) : op ∈ all := by
  cases op <;> decide

theorem byte_inj {op op' : Opcode} : op.byte = op'.byte ↔ op = op' := by
  cases op <;> cases op' <;> decide

@[simp] theorem ofByte_byte (op : Opcode) : ofByte op.byte = some op := by
  cases op <;> decide

theorem ofByte_eq_some_iff {b : UInt8} {op : Opcode} : ofByte b = some op ↔ b = op.byte := by
  refine ⟨fun h => ?_, fun h => h ▸ ofByte_byte op⟩
  have h' := List.find?_some h
  simpa [eq_comm] using h'

end Opcode

end LS8
