import LS8.Memory
import LS8.Registers

/-!
# The computer

Registers and memory, whether the machine still runs, and how many instructions it has executed.

* `Computer`, `Computer.initial`, `Computer.withProgram`;
* `Computer.trace`: one line with the program counter, the next three cells and the registers;
* `Computer.record`: the registers and the state.
-/

set_option autoImplicit false

namespace LS8

/-- Whether a computer goes on. -/
inductive State
  | running
  | halted
deriving DecidableEq

namespace State

/-- The name of a state. -/
def name : State → String
  | running => "Running"
  | halted => "Halted"

end State

/-- A computer between two instructions. -/
structure Computer where
  registers : Registers
  memory : Memory
  /-- The number of instructions that were executed. -/
  cycles : UInt64
  state : State
deriving DecidableEq

namespace Computer

/-- The computer when it is switched on: all zero, and running. -/
def initial : Computer where
  registers := Registers.zero
  memory := Memory.zero
  cycles := 0
  state := .running

/-- A computer with a program at the start of its memory. -/
def withProgram (program : List UInt8) : Except MemoryError Computer :=
  (initial.memory.load 0 program).map fun memory => { initial with memory }

/-- Whether the computer goes on. -/
def isRunning (c : Computer) : Bool := c.state = .running

/-- The address of the cell that lies so many cells after the program counter. -/
def addressAt (c : Computer) (offset : Nat) : Nat := c.registers.pc.toNat + offset

/-- A cell after the program counter in a trace line, where dashes stand for a missing cell. -/
def cellText (c : Computer) (offset : Nat) : String :=
  match c.memory.read (c.addressAt offset) with
  | .ok byte => hexPair byte
  | .error _ => "--"

/-- The trace line of a computer. -/
def trace (c : Computer) : String :=
  "TRACE: " ++ hexPair c.registers.pc ++ " | " ++ c.cellText 0 ++ " " ++ c.cellText 1 ++ " "
    ++ c.cellText 2 ++ " |"
    ++ String.join (Register.all.map fun r => " " ++ hexPair (c.registers.get r))

/-- The computer as a record, without the contents of its memory. -/
def record (c : Computer) : String :=
  "Computer \x7b registers: " ++ c.registers.record ++ ", state: " ++ c.state.name
    ++ ", memory: [...] \x7d"

end Computer

end LS8
