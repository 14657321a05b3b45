import LS8.Proofs.Failure
import LS8.Proofs.Run

/-!
# The computers that steps lead to

A computer reaches others by steps, whatever sinks it is given and whether its steps fail or not.
What a step does to the registers is told by the instruction alone.

* `Computer.Reaches`: one computer leads to another one by way of others;
* **`reaches_after`**, `Reaches.memory_eq`: the steps of a machine lead there, and keep the memory;
* **`step_registers`**: a step does to the registers what its instruction does.
-/

set_option autoImplicit false

namespace LS8.Computer

/-! ## Histories -/

/-- Steps lead from one computer to another. The history tells the computers before each step, and
each step may have another sink. -/
inductive Reaches (c : Computer) : List Computer → Computer → Prop
  | start : c.Reaches [] c
  | step {σ : Type} [Sink σ] {history : List Computer} {s : Computer}
    (reached : c.Reaches history s) (sink : σ) : c.Reaches (history ++ [s]) (s.step sink).computer

section Histories

variable {σ : Type} [Sink σ]

/-- **A machine that is left to itself reaches what its steps lead to.** -/
theorem reaches_after (c : Computer) (sink : σ) (k : Nat) :
    c.Reaches ((List.range k).map fun j => (c.after sink j).1) (c.after sink k).1 := by
  induction k with
  | zero => exact .start
  | succ k ih =>
    rw [List.range_succ, List.map_append, after_succ]
    exact ih.step _

theorem Reaches.memory_eq {c s : Computer} {history : List Computer} (h : c.Reaches history s) :
    s.memory = c.memory := by
  induction h with
  | start => rfl
  | step _ sink ih => exact (step_memory _ sink).trans ih

end Histories

/-! ## One step -/

section Steps

variable {σ : Type} [Sink σ]

/-- An instruction does to the registers what it does when it falls through, whether it does or
not. -/
theorem execute_registers (c : Computer) (sink : σ) (i : Instruction) :
    (c.execute sink i).registers = (c.aftermath i).1 := by
  cases i with
  | hlt | ldi r value | cmp a b | jmp r => rfl
  | prn r =>
    simp only [execute]
    rcases Sink.emit sink (c.registers.get r) with ⟨sink', _ | cause⟩
    · rfl
    · rfl
  | jeq r | jne r =>
    simp only [execute]
    cases c.registers.flags.contains .equal with
    | true => rfl
    | false => rfl

theorem settle_registers (c : Computer) (registers : Registers)
    (transition : Except Fault Transition) :
    ∃ pc, (c.settle registers transition).registers = { registers with pc } := by
  rcases transition with fault | ⟨address⟩ | _
  · exact ⟨registers.pc, rfl⟩
  · exact ⟨address, rfl⟩
  · exact ⟨0, rfl⟩

/-- **A step does to the registers what its instruction does**, and goes somewhere. Where no
instruction is carried out it leaves them alone. -/
theorem step_registers (c : Computer) (sink : σ) :
    (c.step sink).computer.registers = c.registers ∧
        (c.state = .running → ∀ i, Instruction.decode c.upcoming ≠ .ok i) ∨
      c.state = .running ∧ ∃ i pc, Instruction.decode c.upcoming = .ok i ∧
        (c.step sink).computer.registers = { (c.aftermath i).1 with pc } := by
  cases hs : c.state with
  | halted =>
    rw [step_of_halted hs]
    exact Or.inl ⟨rfl, nofun⟩
  | running =>
    cases hd : Instruction.decode c.upcoming with
    | error e =>
      rw [(Step.outcome_eq_iff.mp (outcome_of_decode_error hs hd sink)).1]
      exact Or.inl ⟨rfl, fun _ i => nofun⟩
    | ok i =>
      have ho : (c.step sink).outcome = c.outcomeOf (c.execute sink i) := outcome_of_decode_ok hs hd
      obtain ⟨hc, _⟩ := Step.outcome_eq_iff.mp ho
      obtain ⟨pc, hpc⟩ :=
        c.settle_registers (c.execute sink i).registers (c.execute sink i).transition
      rw [hc, hpc, execute_registers]
      exact Or.inr ⟨rfl, i, pc, rfl, rfl⟩

end Steps

end LS8.Computer
