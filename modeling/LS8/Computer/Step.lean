import LS8.Alu
import LS8.Computer
import LS8.Computer.Fault
import LS8.Instruction
import LS8.Opcode.Table
import LS8.Sink

/-!
# One step of the machine

A step reads the opcode at the program counter, then the operands one after the other, and only then
acts. Whatever goes wrong stops the machine for good.

* `Event`: what the machine tells about a step while it happens;
* `Computer.fetchOpcode`, `Computer.fetchOperands`: the instruction at the program counter;
* `Computer.execute`: what an instruction does to registers and sink, and where it leads;
* `Computer.step`: one whole step;
* **`step_memory`**: no step changes the memory;
* **`step_of_halted`**: a halted computer stays as it is.
-/

set_option autoImplicit false

namespace LS8

/-- What the machine tells about a step. -/
inductive Event
  /-- An instruction is about to be executed. -/
  | executing (opcode : Opcode) (pc : UInt8)
  /-- A register gets a value. -/
  | loading (r : Register) (value : UInt8)
  /-- The value of a register goes to the sink. -/
  | printing (r : Register) (value : UInt8)
  /-- Two values were compared. -/
  | compared (x y : UInt8) (flags : Flags)
  /-- The machine goes on at another address. -/
  | jumping (address : UInt8)
  /-- The machine halts, after so many instructions. -/
  | halting (cycles : UInt64)
  /-- The registers when the step is over. -/
  | settled (registers : Registers)
deriving DecidableEq

/-- Where the machine goes after an instruction. -/
inductive Transition
  /-- On to the instruction at an address. -/
  | next (address : UInt8)
  /-- Nowhere: the program is over. -/
  | halt
deriving DecidableEq

/-- What an instruction did. -/
structure Effect (σ : Type) where
  registers : Registers
  sink : σ
  transition : Except Fault Transition
  events : List Event

/-- What a step did. -/
structure Step (σ : Type) where
  computer : Computer
  sink : σ
  result : Except Fault Unit
  events : List Event

namespace Computer

/-! ## Reading an instruction -/

/-- The byte that lies so many cells after the program counter. -/
def operand (c : Computer) (offset : Nat) : Except Fault UInt8 :=
  (c.memory.read (c.addressAt offset)).mapError .invalidAccess

/-- The register that the byte so many cells after the program counter designates. -/
def registerOperand (c : Computer) (offset : Nat) : Except Fault Register := do
  (Register.ofByte (← c.operand offset)).mapError .invalidRegister

/-- The opcode at the program counter. -/
def fetchOpcode (c : Computer) : Except Fault Opcode := do
  let byte ← c.operand 0
  match dispatchTable.lookup byte with
  | some opcode => return opcode
  | none => throw (.unknownOpcode byte c.registers.pc)

/-- The instruction at the program counter, whose opcode is known. Each operand is checked before
the next one is read. -/
def fetchOperands (c : Computer) : Opcode → Except Fault Instruction
  | .hlt => return .hlt
  | .ldi => do return .ldi (← c.registerOperand 1) (← c.operand 2)
  | .prn => do return .prn (← c.registerOperand 1)
  | .cmp => do return .cmp (← c.registerOperand 1) (← c.registerOperand 2)
  | .jmp => do return .jmp (← c.registerOperand 1)
  | .jeq => do return .jeq (← c.registerOperand 1)
  | .jne => do return .jne (← c.registerOperand 1)

/-! ## Executing an instruction -/

/-- On to the instruction after this one, which has to start inside the memory. -/
def advance (c : Computer) (i : Instruction) : Except Fault Transition :=
  let next := c.addressAt i.size
  if next < memorySize then return .next (UInt8.ofNat next)
  else throw (.invalidAccess (.invalidAddress next))

variable {σ : Type}

/-- The effect of an instruction that could not be carried out. -/
def failing (c : Computer) (sink : σ) (fault : Fault) : Effect σ :=
  ⟨c.registers, sink, .error fault, []⟩

/-- The effect of an instruction that goes on with the one after it. -/
def passing (c : Computer) (sink : σ) (i : Instruction) : Effect σ :=
  ⟨c.registers, sink, c.advance i, []⟩

/-- The effect of a jump to the address in a register. -/
def jumping (c : Computer) (sink : σ) (r : Register) : Effect σ :=
  let address := c.registers.get r
  ⟨c.registers, sink, .ok (.next address), [.jumping address]⟩

/-- The effect of an instruction. -/
def execute [Sink σ] (c : Computer) (sink : σ) (i : Instruction) : Effect σ :=
  match i with
  | .hlt => ⟨c.registers, sink, .ok .halt, [.halting (c.cycles + 1)]⟩
  | .ldi r value => ⟨c.registers.set r value, sink, c.advance i, [.loading r value]⟩
  | .prn r =>
    let value := c.registers.get r
    match Sink.emit sink value with
    | (sink, none) => ⟨c.registers, sink, c.advance i, [.printing r value]⟩
    | (sink, some cause) => ⟨c.registers, sink, .error (.output cause), [.printing r value]⟩
  | .cmp a b =>
    let after := c.registers.compare a b
    ⟨after, sink, c.advance i, [.compared (c.registers.get a) (c.registers.get b) after.flags]⟩
  | .jmp r => c.jumping sink r
  | .jeq r => if c.registers.flags.contains .equal then c.jumping sink r else c.passing sink i
  | .jne r => if c.registers.flags.contains .equal then c.passing sink i else c.jumping sink r

/-! ## Steps -/

/-- The effect of the instruction at the program counter, if there is one. -/
def perform [Sink σ] (c : Computer) (sink : σ) : Effect σ :=
  match c.fetchOpcode with
  | .error fault => c.failing sink fault
  | .ok opcode =>
    let effect :=
      match c.fetchOperands opcode with
      | .error fault => c.failing sink fault
      | .ok i => c.execute sink i
    { effect with events := .executing opcode c.registers.pc :: effect.events }

/-- The computer after an instruction that left these registers and leads there. Only an instruction
that was carried out is counted, and a halt takes the program counter back to the start. -/
def settle (c : Computer) (registers : Registers) : Except Fault Transition → Computer
  | .ok (.next address) =>
    { c with registers := { registers with pc := address }, cycles := c.cycles + 1 }
  | .ok .halt =>
    { c with registers := { registers with pc := 0 }, cycles := c.cycles + 1, state := .halted }
  | .error _ => { c with registers := registers, state := .halted }

/-- One step: the instruction at the program counter, unless the computer is halted. -/
def step [Sink σ] (c : Computer) (sink : σ) : Step σ :=
  match c.state with
  | .halted => ⟨c, sink, .error .halted, []⟩
  | .running =>
    let effect := c.perform sink
    let after := c.settle effect.registers effect.transition
    ⟨after, effect.sink, effect.transition.map fun _ => (),
      effect.events ++ [.settled after.registers]⟩

/-! ## What every step keeps -/

@[simp] theorem memory_settle (c : Computer) (registers : Registers)
    (transition : Except Fault Transition) :
    (c.settle registers transition).memory = c.memory := by
  unfold settle
  split <;> rfl

/-- **No step changes the memory.** -/
theorem step_memory [Sink σ] (c : Computer) (sink : σ) :
    (c.step sink).computer.memory = c.memory := by
  unfold step
  split <;> simp

/-- **A halted computer stays as it is**, and nothing is printed. -/
theorem step_of_halted [Sink σ] {c : Computer} (h : c.state = .halted) (sink : σ) :
    c.step sink = ⟨c, sink, .error .halted, []⟩ := by
  simp [step, h]

end Computer

end LS8
