import LS8.IoError
import LS8.Memory
import LS8.Registers

/-!
# Faults

* `Fault`: why the machine stopped other than by a halt;
* `Fault.message`, `Fault.cause`: the wording of a fault and of what caused it.
-/

set_option autoImplicit false

namespace LS8

/-- Why the machine stopped, or refused to go on. -/
inductive Fault
  /-- The memory refused an access. -/
  | invalidAccess (cause : MemoryError)
  /-- An operand that has to be a register is none. -/
  | invalidRegister (cause : InvalidRegister)
  /-- The byte at the program counter is no opcode. -/
  | unknownOpcode (byte address : UInt8)
  /-- The sink refused a value. -/
  | output (cause : IoError)
  /-- The program did not halt within so many steps. -/
  | stepLimit (steps : UInt64)
  /-- The computer had stopped before. -/
  | halted
deriving DecidableEq

namespace Fault

/-- The wording of a fault. -/
def message : Fault → String
  | invalidAccess cause => "invalid memory access: " ++ cause.message
  | invalidRegister cause => cause.message
  | unknownOpcode byte address =>
    "unknown opcode " ++ binary byte ++ " (" ++ decimal byte.toNat ++ ") at address "
      ++ hexadecimal address.toNat
  | output _ => "could not write output"
  | stepLimit steps => "program did not halt after " ++ decimal steps.toNat ++ " steps"
  | halted => "the computer is halted"

/-- The wording of what caused a fault, if something else did. -/
def cause : Fault → Option String
  | invalidAccess cause => some cause.message
  | output cause => some cause.message
  | invalidRegister _ | unknownOpcode _ _ | stepLimit _ | halted => none

end Fault

end LS8
