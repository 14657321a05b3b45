import LS8.Proofs.Fetch
import Mathlib.Algebra.Group.Nat.Defs

/-!
# The rules of a step

A step of a running computer is told by what the decoder makes of the memory from the program
counter on: an instruction halts the machine, passes on to the next instruction, or jumps.

* `Computer.carryOn`, `Computer.halt`, `Computer.stop`: the computers that a step leads to;
* `Computer.Passes`, `Computer.Jumps`: the instructions that pass on and those that jump;
* `Computer.Rule`, **`rule_step`**: every step follows one of six rules;
* `cycles_of_ok`, `pc_of_halted`, `cycles_of_error`: the counter, and where a step leaves the machine;
* **`step_refines_decode`**: a step does what the decoded instruction says.
-/

set_option autoImplicit false

namespace LS8

/-- What a step did, leaving aside what it told. -/
def Step.outcome {σ : Type} (s : Step σ) : Computer × σ × Except Fault Unit :=
  (s.computer, s.sink, s.result)

theorem Step.outcome_eq_iff {σ : Type} {s : Step σ} {c : Computer} {sink : σ}
    {result : Except Fault Unit} :
    s.outcome = (c, sink, result) ↔ s.computer = c ∧ s.sink = sink ∧ s.result = result := by
  simp [outcome]

namespace Computer

/-! ## Where a step leads -/

/-- The computer once an instruction has been carried out that leaves these registers and goes on at
this address. -/
def carryOn (c : Computer) (registers : Registers) (address : UInt8) : Computer :=
  { c with registers := { registers with pc := address }, cycles := c.cycles + 1 }

/-- The computer once it has halted. -/
def halt (c : Computer) : Computer :=
  { c with registers := { c.registers with pc := 0 }, cycles := c.cycles + 1, state := .halted }

/-- The computer once a step with this effect on the registers has failed. -/
def stop (c : Computer) (registers : Registers) : Computer :=
  { c with registers := registers, state := .halted }

section Outcomes

variable {σ : Type}

/-- What a step did whose instruction had this effect. -/
def outcomeOf (c : Computer) (effect : Effect σ) : Computer × σ × Except Fault Unit :=
  (c.settle effect.registers effect.transition, effect.sink, effect.transition.map fun _ => ())

/-- What a step did that left these registers and this sink and has to go on after an instruction of
so many bytes. -/
def fallThrough (c : Computer) (registers : Registers) (sink : σ) (size : Nat) :
    Computer × σ × Except Fault Unit :=
  if c.registers.pc.toNat + size ≤ 255 then
    (c.carryOn registers (UInt8.ofNat (c.registers.pc.toNat + size)), sink, .ok ())
  else (c.stop registers, sink, .error (.invalidAccess (.invalidAddress 256)))

variable [Sink σ] {c : Computer} {sink : σ}

/-- **A step does what the decoded instruction does.** -/
theorem outcome_of_decode_ok (h : c.state = .running) {i : Instruction}
    (hd : Instruction.decode c.upcoming = .ok i) :
    (c.step sink).outcome = c.outcomeOf (c.execute sink i) := by
  obtain ⟨ho, hi⟩ := fetch_of_decode hd
  simp only [Step.outcome, step, h, perform, ho, hi, outcomeOf]

theorem events_of_decode_ok (h : c.state = .running) {i : Instruction}
    (hd : Instruction.decode c.upcoming = .ok i) :
    (c.step sink).events =
      .executing i.opcode c.registers.pc :: (c.execute sink i).events ++
        [.settled (c.step sink).computer.registers] := by
  obtain ⟨ho, hi⟩ := fetch_of_decode hd
  simp only [step, h, perform, ho, hi]

/-- **Where the decoder fails, the step fails**, and does nothing else. -/
theorem outcome_of_decode_error (h : c.state = .running) {e : DecodeError}
    (hd : Instruction.decode c.upcoming = .error e) (sink : σ) :
    (c.step sink).outcome = (c.stop c.registers, sink, .error (c.refusal e)) := by
  obtain ⟨byte, rest, hu⟩ := List.exists_cons_of_ne_nil c.upcoming_ne_nil
  rw [hu, Instruction.decode] at hd
  cases hb : Opcode.ofByte byte with
  | none =>
    simp only [hb, Except.error.injEq] at hd
    subst hd
    simp only [Step.outcome, step, h, perform, fetchOpcode_eq hu, hb]
    rfl
  | some op =>
    simp only [hb] at hd
    have ho : c.fetchOperands op = .error (c.refusal e) := by
      rw [fetchOperands_eq hu, hd]
      rfl
    simp only [Step.outcome, step, h, perform, fetchOpcode_eq hu, hb, ho]
    rfl

end Outcomes

/-! ## Instructions that pass on and instructions that jump -/

section Rules

variable {σ : Type} [Sink σ] (c : Computer) (sink : σ)

/-- The instructions after which the next one follows, with the registers and the sink that they
leave. -/
inductive Passes : Instruction → Registers → σ → Prop
  | ldi (r : Register) (value : UInt8) : Passes (.ldi r value) (c.registers.set r value) sink
  | prn {r : Register} {sink' : σ} (taken : Sink.emit sink (c.registers.get r) = (sink', none)) :
    Passes (.prn r) c.registers sink'
  | cmp (a b : Register) : Passes (.cmp a b) (c.registers.compare a b) sink
  | jeq {r : Register} (differ : c.registers.flags.contains .equal = false) :
    Passes (.jeq r) c.registers sink
  | jne {r : Register} (same : c.registers.flags.contains .equal = true) :
    Passes (.jne r) c.registers sink

/-- The instructions that jump, with the register that holds the address. -/
inductive Jumps : Instruction → Register → Prop
  | jmp (r : Register) : Jumps (.jmp r) r
  | jeq {r : Register} (same : c.registers.flags.contains .equal = true) : Jumps (.jeq r) r
  | jne {r : Register} (differ : c.registers.flags.contains .equal = false) : Jumps (.jne r) r

/-- An instruction other than a halt passes or jumps, unless the sink refuses what it prints. -/
theorem passes_or_jumps (i : Instruction) :
    i = .hlt ∨ (∃ registers sink', c.Passes sink i registers sink') ∨ (∃ r, c.Jumps i r) ∨
      ∃ r sink' cause, i = .prn r ∧
        Sink.emit sink (c.registers.get r) = (sink', some cause) := by
  cases i with
  | hlt => exact Or.inl rfl
  | ldi r value => exact Or.inr (Or.inl ⟨_, _, .ldi r value⟩)
  | cmp a b => exact Or.inr (Or.inl ⟨_, _, .cmp a b⟩)
  | jmp r => exact Or.inr (Or.inr (Or.inl ⟨r, .jmp r⟩))
  | prn r =>
    rcases h : Sink.emit sink (c.registers.get r) with ⟨sink', _ | cause⟩
    · exact Or.inr (Or.inl ⟨_, _, .prn h⟩)
    · exact Or.inr (Or.inr (Or.inr ⟨r, sink', cause, rfl, h⟩))
  | jeq r =>
    cases h : c.registers.flags.contains .equal with
    | true => exact Or.inr (Or.inr (Or.inl ⟨r, .jeq h⟩))
    | false => exact Or.inr (Or.inl ⟨_, _, .jeq h⟩)
  | jne r =>
    cases h : c.registers.flags.contains .equal with
    | true => exact Or.inr (Or.inl ⟨_, _, .jne h⟩)
    | false => exact Or.inr (Or.inr (Or.inl ⟨r, .jne h⟩))

/-- The rules by which a running computer makes a step. -/
inductive Rule (s : Step σ) : Prop
  /-- The machine halts. -/
  | halt (decoded : Instruction.decode c.upcoming = .ok .hlt)
    (outcome : s.outcome = (c.halt, sink, .ok ()))
  /-- An instruction is carried out and the next one follows. -/
  | pass {i : Instruction} {registers : Registers} {sink' : σ}
    (decoded : Instruction.decode c.upcoming = .ok i) (passes : c.Passes sink i registers sink')
    (inside : c.registers.pc.toNat + i.size < memorySize)
    (outcome : s.outcome =
      (c.carryOn registers (UInt8.ofNat (c.registers.pc.toNat + i.size)), sink', .ok ()))
  /-- An instruction is carried out, but it is the last one that fits into the memory. -/
  | runOut {i : Instruction} {registers : Registers} {sink' : σ}
    (decoded : Instruction.decode c.upcoming = .ok i) (passes : c.Passes sink i registers sink')
    (outside : c.registers.pc.toNat + i.size = memorySize)
    (outcome : s.outcome =
      (c.stop registers, sink', .error (.invalidAccess (.invalidAddress memorySize))))
  /-- An instruction jumps. -/
  | jump {i : Instruction} {r : Register} (decoded : Instruction.decode c.upcoming = .ok i)
    (jumps : c.Jumps i r)
    (outcome : s.outcome = (c.carryOn c.registers (c.registers.get r), sink, .ok ()))
  /-- The sink refuses what an instruction prints. -/
  | refuse {r : Register} {sink' : σ} {cause : IoError}
    (decoded : Instruction.decode c.upcoming = .ok (.prn r))
    (refused : Sink.emit sink (c.registers.get r) = (sink', some cause))
    (outcome : s.outcome = (c.stop c.registers, sink', .error (.output cause)))
  /-- There is no instruction. -/
  | undecoded {e : DecodeError} (decoded : Instruction.decode c.upcoming = .error e)
    (outcome : s.outcome = (c.stop c.registers, sink, .error (c.refusal e)))

end Rules

/-! ## Every step follows a rule -/

section Steps

variable {σ : Type} [Sink σ] {c : Computer} {sink : σ}

theorem Passes.execute_eq {i : Instruction} {registers : Registers} {sink' : σ}
    (h : c.Passes sink i registers sink') :
    ∃ events, c.execute sink i = ⟨registers, sink', c.advance i, events⟩ := by
  cases h with
  | ldi r value => exact ⟨_, rfl⟩
  | prn taken =>
    simp only [execute, taken]
    exact ⟨_, rfl⟩
  | cmp a b => exact ⟨_, rfl⟩
  | jeq differ =>
    simp only [execute, differ]
    exact ⟨_, rfl⟩
  | jne same =>
    simp only [execute, same]
    exact ⟨_, rfl⟩

theorem Jumps.execute_eq {i : Instruction} {r : Register} (h : c.Jumps i r) :
    c.execute sink i = c.jumping sink r := by
  cases h with
  | jmp r => rfl
  | jeq same => simp only [execute, same, if_true]
  | jne differ => simp [execute, differ]

theorem outcome_of_passes (h : c.state = .running) {i : Instruction}
    (hd : Instruction.decode c.upcoming = .ok i) {registers : Registers} {sink' : σ}
    (hp : c.Passes sink i registers sink') :
    (c.step sink).outcome = c.fallThrough registers sink' i.size := by
  obtain ⟨events, hx⟩ := hp.execute_eq
  have hle := pc_add_size_le hd
  rw [outcome_of_decode_ok h hd, hx, outcomeOf, fallThrough, advance, addressAt]
  rw [memorySize] at hle ⊢
  by_cases hlt : c.registers.pc.toNat + i.size ≤ 255
  · rw [if_pos hlt, if_pos (by omega)]
    rfl
  · rw [if_neg hlt, if_neg (by omega), show c.registers.pc.toNat + i.size = 256 by omega]
    rfl

theorem outcome_of_jumps (h : c.state = .running) {i : Instruction}
    (hd : Instruction.decode c.upcoming = .ok i) {r : Register} (hj : c.Jumps i r) :
    (c.step sink).outcome = (c.carryOn c.registers (c.registers.get r), sink, .ok ()) := by
  rw [outcome_of_decode_ok h hd, hj.execute_eq]
  rfl

/-- A refused value is the end of the run. -/
theorem outcome_of_refused (h : c.state = .running) {r : Register}
    (hd : Instruction.decode c.upcoming = .ok (.prn r)) {sink' : σ} {cause : IoError}
    (hr : Sink.emit sink (c.registers.get r) = (sink', some cause)) :
    (c.step sink).outcome = (c.stop c.registers, sink', .error (.output cause)) := by
  rw [outcome_of_decode_ok h hd, execute, hr]
  rfl

/-- **Every step of a running computer follows a rule.** -/
theorem rule_step (h : c.state = .running) (sink : σ) : c.Rule sink (c.step sink) := by
  cases hd : Instruction.decode c.upcoming with
  | error e => exact .undecoded hd (outcome_of_decode_error h hd sink)
  | ok i =>
    obtain rfl | ⟨registers, sink', hp⟩ | ⟨r, hj⟩ | ⟨r, sink', cause, rfl, hr⟩ :=
      c.passes_or_jumps sink i
    · exact .halt hd (outcome_of_decode_ok h hd)
    · have ho := outcome_of_passes h hd hp
      have hle := pc_add_size_le hd
      rw [fallThrough] at ho
      rw [memorySize] at hle
      by_cases hlt : c.registers.pc.toNat + i.size ≤ 255
      · rw [if_pos hlt] at ho
        exact .pass hd hp (by rw [memorySize]; omega) ho
      · rw [if_neg hlt] at ho
        exact .runOut hd hp (by rw [memorySize]; omega) ho
    · exact .jump hd hj (outcome_of_jumps h hd hj)
    · exact .refuse hd hr (outcome_of_refused h hd hr)

/-! ## The counter and the state -/

theorem running_of_ok (hr : (c.step sink).result = .ok ()) : c.state = .running := by
  cases h : c.state with
  | running => rfl
  | halted => simp [step_of_halted h] at hr

theorem cycles_of_ok (hr : (c.step sink).result = .ok ()) :
    (c.step sink).computer.cycles = c.cycles + 1 := by
  cases rule_step (running_of_ok hr) sink with
  | halt _ ho | pass _ _ _ ho | jump _ _ ho =>
    rw [(Step.outcome_eq_iff.mp ho).1]
    rfl
  | runOut _ _ _ ho | refuse _ _ ho | undecoded _ ho =>
    rw [(Step.outcome_eq_iff.mp ho).2.2] at hr
    cases hr

/-- A step that succeeds and does not go on has reached a halt, and is back at the start. -/
theorem pc_of_halted (hr : (c.step sink).result = .ok ())
    (hs : (c.step sink).computer.state = .halted) : (c.step sink).computer.registers.pc = 0 := by
  have h := running_of_ok hr
  cases rule_step h sink with
  | halt _ ho =>
    rw [(Step.outcome_eq_iff.mp ho).1]
    rfl
  | pass _ _ _ ho | jump _ _ ho =>
    rw [(Step.outcome_eq_iff.mp ho).1] at hs
    exact absurd (h.symm.trans hs) (by decide)
  | runOut _ _ _ ho | refuse _ _ ho | undecoded _ ho =>
    rw [(Step.outcome_eq_iff.mp ho).2.2] at hr
    cases hr

/-- A step that fails is not counted, and the machine stops. -/
theorem cycles_of_error {fault : Fault} (hr : (c.step sink).result = .error fault) :
    (c.step sink).computer.cycles = c.cycles ∧ (c.step sink).computer.state = .halted := by
  cases h : c.state with
  | halted => simp [step_of_halted h, h]
  | running =>
    cases rule_step h sink with
    | halt _ ho | pass _ _ _ ho | jump _ _ ho =>
      rw [(Step.outcome_eq_iff.mp ho).2.2] at hr
      cases hr
    | runOut _ _ _ ho | refuse _ _ ho | undecoded _ ho =>
      rw [(Step.outcome_eq_iff.mp ho).1]
      exact ⟨rfl, rfl⟩

theorem refusal_ne_stepLimit (e : DecodeError) (steps : UInt64) :
    c.refusal e ≠ .stepLimit steps := by
  unfold refusal
  split
  · simp
  · simp
  · simp
  · split
    · split <;> simp
    · simp

theorem result_ne_stepLimit {steps : UInt64} :
    (c.step sink).result ≠ .error (.stepLimit steps) := by
  cases h : c.state with
  | halted => simp [step_of_halted h]
  | running =>
    cases rule_step h sink with
    | halt _ ho | pass _ _ _ ho | jump _ _ ho | runOut _ _ _ ho | refuse _ _ ho =>
      rw [(Step.outcome_eq_iff.mp ho).2.2]
      simp
    | undecoded _ ho =>
      rw [(Step.outcome_eq_iff.mp ho).2.2]
      simp [refusal_ne_stepLimit]

/-! ## The step and the decoder -/

/-- **A step refines the decoder.** A running computer does what the instruction says that is decoded
from the program counter on, and where none is decoded it stops with the fault that tells why. -/
theorem step_refines_decode (h : c.state = .running) (hc : c.cycles.toNat < 2 ^ 64 - 1) (sink : σ) :
    (match Instruction.decode c.upcoming with
      | .ok .hlt => (c.step sink).outcome = (c.halt, sink, .ok ())
      | .ok (.ldi r value) =>
        (c.step sink).outcome =
          c.fallThrough (c.registers.set r value) sink (Instruction.ldi r value).size
      | .ok (.prn r) =>
        (∀ sink', Sink.emit sink (c.registers.get r) = (sink', none) →
          (c.step sink).outcome = c.fallThrough c.registers sink' (Instruction.prn r).size) ∧
        ∀ sink' cause, Sink.emit sink (c.registers.get r) = (sink', some cause) →
          (c.step sink).outcome = (c.stop c.registers, sink', .error (.output cause))
      | .ok (.cmp a b) =>
        (c.step sink).outcome =
          c.fallThrough
            { c.registers with
              flags := Flags.ofOrdering (compare (c.registers.get a) (c.registers.get b)) }
            sink (Instruction.cmp a b).size
      | .ok (.jmp r) =>
        (c.step sink).outcome = (c.carryOn c.registers (c.registers.get r), sink, .ok ())
      | .ok (.jeq r) =>
        (c.step sink).outcome =
          if c.registers.flags.bits.toNat.testBit 0 then
            (c.carryOn c.registers (c.registers.get r), sink, .ok ())
          else c.fallThrough c.registers sink (Instruction.jeq r).size
      | .ok (.jne r) =>
        (c.step sink).outcome =
          if c.registers.flags.bits.toNat.testBit 0 then
            c.fallThrough c.registers sink (Instruction.jne r).size
          else (c.carryOn c.registers (c.registers.get r), sink, .ok ())
      | .error .empty => False
      | .error (.unknownOpcode byte) =>
        (c.step sink).outcome =
          (c.stop c.registers, sink, .error (.unknownOpcode byte c.registers.pc))
      | .error (.invalidRegister cause) =>
        (c.step sink).outcome = (c.stop c.registers, sink, .error (.invalidRegister cause))
      | .error (.truncated op) =>
        (∀ byte x, c.upcoming = [byte, x] → op.operandCount = 2 → 8 ≤ x.toNat →
          (c.step sink).outcome = (c.stop c.registers, sink, .error (.invalidRegister ⟨x⟩))) ∧
        ((∀ byte x, c.upcoming = [byte, x] → op.operandCount = 2 → x.toNat < 8) →
          (c.step sink).outcome =
            (c.stop c.registers, sink, .error (.invalidAccess (.invalidAddress 256))))) ∧
      ((c.step sink).result = .ok () →
        (c.step sink).computer.cycles.toNat = c.cycles.toNat + 1) := by
  refine ⟨?_, fun hr => ?_⟩
  · cases hd : Instruction.decode c.upcoming with
    | ok i =>
      cases i with
      | hlt => exact outcome_of_decode_ok h hd
      | ldi r value => exact outcome_of_passes h hd (.ldi r value)
      | prn r =>
        exact ⟨fun sink' he => outcome_of_passes h hd (.prn he),
          fun sink' cause he => outcome_of_refused h hd he⟩
      | cmp a b => exact outcome_of_passes h hd (.cmp a b)
      | jmp r => exact outcome_of_jumps h hd (.jmp r)
      | jeq r =>
        simp only [← Flags.contains_equal]
        cases hf : c.registers.flags.contains .equal with
        | true => exact outcome_of_jumps h hd (.jeq hf)
        | false => exact outcome_of_passes h hd (.jeq hf)
      | jne r =>
        simp only [← Flags.contains_equal]
        cases hf : c.registers.flags.contains .equal with
        | true => exact outcome_of_passes h hd (.jne hf)
        | false => exact outcome_of_jumps h hd (.jne hf)
    | error e =>
      have ho := outcome_of_decode_error h hd sink
      cases e with
      | empty => exact c.upcoming_ne_nil (Instruction.decode_eq_empty_iff.mp hd)
      | unknownOpcode byte => exact ho
      | invalidRegister cause => exact ho
      | truncated op =>
        refine ⟨fun byte x hu hop hx => ?_, fun hx => ?_⟩
        · rw [ho, refusal_of_pair hu hop hx]
        · rw [ho, refusal_of_no_pair hx, memorySize]
  · rw [cycles_of_ok hr, UInt64.toNat_add]
    exact Nat.mod_eq_of_lt (by change c.cycles.toNat + 1 < 2 ^ 64; omega)

/-- A computer at the first two bytes of a load into a register that does not exist, which stand at
the end of the memory. -/
def cutLoad : Computer :=
  { initial with
    memory := initial.memory.overlay 254 [Opcode.ldi.byte, 9] (by decide)
    registers := { initial.registers with pc := 254 } }

/-- The decoder misses the value; the machine has found the register to be invalid by then. -/
theorem step_cutLoad :
    cutLoad.state = .running ∧ cutLoad.cycles.toNat < 2 ^ 64 - 1 ∧
      Instruction.decode cutLoad.upcoming = .error (.truncated .ldi) ∧
      (cutLoad.step ({} : ValueSink)).outcome =
        (cutLoad.stop cutLoad.registers, {}, .error (.invalidRegister ⟨9⟩)) := by
  have h : cutLoad.state = .running := rfl
  have hc : cutLoad.cycles.toNat < 2 ^ 64 - 1 := by decide
  have hu : cutLoad.upcoming = [Opcode.ldi.byte, 9] := by decide
  have hd : Instruction.decode cutLoad.upcoming = .error (.truncated .ldi) := by rw [hu]; rfl
  have hs := (step_refines_decode h hc ({} : ValueSink)).1
  rw [hd] at hs
  exact ⟨h, hc, hd, hs.1 _ _ hu (by decide) (by decide)⟩

end Steps

end Computer

end LS8
