import LS8.Instruction

/-!
# Decoding

The instruction at the front of a byte sequence.

* `DecodeError`: why there is none;
* `Instruction.ofOperands`, `Instruction.decode`;
* **`decode_encode_append`**: an encoded instruction is read back, whatever follows it.
-/

set_option autoImplicit false

namespace LS8

/-- Why a byte sequence starts with no instruction. -/
inductive DecodeError
  /-- There are no bytes. -/
  | empty
  /-- The first byte is no opcode. -/
  | unknownOpcode (byte : UInt8)
  /-- Some operand bytes are missing. -/
  | truncated (opcode : Opcode)
  /-- An operand that has to be a register is none. -/
  | invalidRegister (cause : InvalidRegister)
deriving DecidableEq

namespace DecodeError

/-- The wording of the error. -/
def message : DecodeError → String
  | empty => "nothing to decode"
  | unknownOpcode byte => "unknown opcode " ++ binary byte
  | truncated opcode => "truncated " ++ opcode.mnemonic ++ " instruction"
  | invalidRegister cause => cause.message

end DecodeError

namespace Instruction

/-- A register operand. -/
def registerOperand (b : UInt8) : Except DecodeError Register :=
  (Register.ofByte b).mapError .invalidRegister

/-- The instruction of an opcode and the bytes that follow it. All operands have to be there before
any of them is looked at. -/
def ofOperands (opcode : Opcode) (bytes : List UInt8) : Except DecodeError Instruction :=
  match opcode, bytes with
  | .hlt, _ => .ok .hlt
  | .ldi, r :: value :: _ => do return .ldi (← registerOperand r) value
  | .prn, r :: _ => do return .prn (← registerOperand r)
  | .cmp, a :: b :: _ => do return .cmp (← registerOperand a) (← registerOperand b)
  | .jmp, r :: _ => do return .jmp (← registerOperand r)
  | .jeq, r :: _ => do return .jeq (← registerOperand r)
  | .jne, r :: _ => do return .jne (← registerOperand r)
  | opcode, _ => .error (.truncated opcode)

/-- The instruction at the front of a byte sequence. -/
def decode : List UInt8 → Except DecodeError Instruction
  | [] => .error .empty
  | byte :: rest =>
    match Opcode.ofByte byte with
    | some opcode => ofOperands opcode rest
    | none => .error (.unknownOpcode byte)

@[simp] theorem registerOperand_toByte (r : Register) : registerOperand r.toByte = .ok r := by
  rw [registerOperand, Register.ofByte_toByte]
  rfl

theorem decode_encode_append (i : Instruction) (rest : List UInt8) :
    decode (i.encode ++ rest) = .ok i := by
  cases i <;> simp [encode, operands, opcode, decode, ofOperands, bind, Except.bind, pure,
    Except.pure]

end Instruction

end LS8
