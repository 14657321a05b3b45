import LS8.Program
import LS8.Proofs.Reach

/-!
# Where values come from

The machine computes nothing: what a register holds was written into the program, as the value of a
load into that very register. The load need not be an instruction of the program, since jumps lead
anywhere.

* `Memory.Loads`, `Memory.Supplies`: the values that the loads in a memory supply to a register;
* `Computer.Supplied`, **`supplied_step`**, **`Reaches.supplied`**: no register ever holds another
  value;
* `prn_of_accepted`: what is printed is what a register holds;
* **`values_of_reaches`**: neither is another value printed or jumped to.
-/

set_option autoImplicit false

namespace LS8

namespace Memory

/-- The bytes of a load of this value into this register stand at some address. -/
def Loads (m : Memory) (r : Register) (value : UInt8) : Prop :=
  ∃ address < memorySize, m.dump address 3 = (Instruction.ldi r value).encode

instance (m : Memory) (r : Register) (value : UInt8) : Decidable (m.Loads r value) :=
  inferInstanceAs (Decidable (∃ address < memorySize, _))

/-- The register holds this value from the start, or some load puts it there. -/
def Supplies (m : Memory) (r : Register) (value : UInt8) : Prop := value = 0 ∨ m.Loads r value

instance (m : Memory) (r : Register) (value : UInt8) : Decidable (m.Supplies r value) :=
  inferInstanceAs (Decidable (_ ∨ _))

end Memory

namespace Computer

section Supplied

variable {σ : Type} [Sink σ] {c s : Computer} {history : List Computer}

/-- Every register holds a value that the memory supplies to it. -/
def Supplied (c : Computer) : Prop := ∀ r, c.memory.Supplies r (c.registers.get r)

theorem loads_of_decode {r : Register} {value : UInt8}
    (hd : Instruction.decode c.upcoming = .ok (.ldi r value)) : c.memory.Loads r value := by
  have hp := List.prefix_iff_eq_take.mp (Instruction.decode_eq_ok_iff.mp hd)
  exact ⟨c.registers.pc.toNat, c.registers.pc.toNat_lt, (Memory.dump_eq _ _ _).trans hp.symm⟩

theorem get_aftermath (c : Computer) (i : Instruction) (r : Register) :
    (c.aftermath i).1.get r = c.registers.get r ∨ i = .ldi r ((c.aftermath i).1.get r) := by
  cases i with
  | hlt | prn | cmp | jmp | jeq | jne => exact Or.inl rfl
  | ldi r' value =>
    rw [aftermath, Registers.get_set]
    split
    · next h => exact Or.inr (h ▸ rfl)
    · exact Or.inl rfl

/-- **No step puts another value into a register.** -/
theorem supplied_step (h : c.Supplied) (sink : σ) : (c.step sink).computer.Supplied := by
  intro r
  rw [step_memory]
  obtain ⟨hkept, _⟩ | ⟨_, i, pc, hd, hregisters⟩ := c.step_registers sink
  · rw [hkept]
    exact h r
  · have hget : (c.step sink).computer.registers.get r = (c.aftermath i).1.get r := by
      rw [hregisters]
      rfl
    rw [hget]
    obtain hsame | hload := c.get_aftermath i r
    · rw [hsame]
      exact h r
    · exact Or.inr (loads_of_decode (hd.trans (congrArg Except.ok hload)))

theorem Reaches.supplied (h : c.Reaches history s) (hc : c.Supplied) : s.Supplied := by
  induction h with
  | start => exact hc
  | step _ sink ih => exact supplied_step ih sink

theorem supplied_of_withProgram {program : List UInt8} (h : withProgram program = .ok c) :
    c.Supplied := by
  intro r
  rw [registers_of_withProgram h]
  exact Or.inl (Vector.getElem_replicate _)

end Supplied

/-! ## Where values go -/

section Values

variable {σ : Type} [Sink σ] {c : Computer} {sink : σ}

/-- What is printed is what the register of a print holds. -/
theorem prn_of_accepted {value : UInt8} (h : value ∈ c.accepted sink) :
    ∃ r, Instruction.decode c.upcoming = .ok (.prn r) ∧ value = c.registers.get r := by
  by_cases hp : ∃ r, Instruction.decode c.upcoming = .ok (.prn r)
  · obtain ⟨r, hd⟩ := hp
    refine ⟨r, hd, ?_⟩
    cases hs : c.state with
    | halted =>
      rw [accepted, step_of_halted hs] at h
      cases h
    | running =>
      rw [accepted, step_sink_of_prn hs hd, Recorder.accepted_emit] at h
      cases ha : (Sink.emit ({ sink } : Recorder σ) (c.registers.get r)).2 with
      | none => simpa [ha] using h
      | some cause => simp [ha] at h
  · rw [accepted, step_sink_of_not_prn fun r hd => hp ⟨r, hd⟩] at h
    cases h

/-- **Values come from the program.** Whatever computer is reached from one with a program, its
memory is the one from the start, and each of its registers holds zero or the value of a load into
that register whose bytes stand in the memory. So does each value that is printed from a register,
and each address that is jumped to through one. -/
theorem values_of_reaches {program : List UInt8} {s : Computer} {history : List Computer}
    (hc : withProgram program = .ok c) (h : c.Reaches history s) :
    s.memory = c.memory ∧ (∀ r, c.memory.Supplies r (s.registers.get r)) ∧
      ∀ {σ : Type} [Sink σ] (sink : σ),
        (∀ value ∈ s.accepted sink, ∃ r, Instruction.decode s.upcoming = .ok (.prn r) ∧
          value = s.registers.get r ∧ c.memory.Supplies r value) ∧
        ∀ i r, s.state = .running → Instruction.decode s.upcoming = .ok i → s.Jumps i r →
          (s.step sink).computer.registers.pc = s.registers.get r ∧
            c.memory.Supplies r (s.step sink).computer.registers.pc := by
  have hs : ∀ r, c.memory.Supplies r (s.registers.get r) := by
    rw [← h.memory_eq]
    exact h.supplied (supplied_of_withProgram hc)
  refine ⟨h.memory_eq, hs, fun sink => ⟨fun value hv => ?_, fun i r hrunning hd hj => ?_⟩⟩
  · obtain ⟨r, hd, rfl⟩ := prn_of_accepted hv
    exact ⟨r, hd, rfl, hs r⟩
  · rw [(Step.outcome_eq_iff.mp (outcome_of_jumps hrunning hd hj)).1]
    exact ⟨rfl, hs r⟩

/-- A program that jumps over a byte to a load, and prints what that puts into its register. -/
def detour : Program where
  bytes := [0x82, 0, 6, 0x54, 0, 0x82, 0x82, 1, 9, 0x47, 1, 0x01]
  fits := by decide

/-- The value that is printed after three steps is the one that the load supplies. -/
theorem values_detour :
    withProgram detour.bytes = .ok (ofProgram detour) ∧
      ∃ history s, (ofProgram detour).Reaches history s ∧
        s.accepted ({} : ValueSink) = [9] ∧ Instruction.decode s.upcoming = .ok (.prn ⟨1⟩) ∧
        (ofProgram detour).memory.Supplies ⟨1⟩ 9 := by
  have hc := withProgram_bytes detour
  have h := (ofProgram detour).reaches_after ({} : ValueSink) 3
  have ha : ((ofProgram detour).after ({} : ValueSink) 3).1.accepted ({} : ValueSink) = [9] := by
    rfl
  obtain ⟨_, _, hvalues⟩ := values_of_reaches hc h
  obtain ⟨r, hd, _, hsupplied⟩ := (hvalues ({} : ValueSink)).1 9 (by rw [ha]; exact .head _)
  have hr : Instruction.decode ((ofProgram detour).after ({} : ValueSink) 3).1.upcoming =
      .ok (.prn ⟨1⟩) := by rfl
  cases hr.symm.trans hd
  exact ⟨hc, _, _, h, ha, hd, hsupplied⟩

end Values

end Computer

end LS8
