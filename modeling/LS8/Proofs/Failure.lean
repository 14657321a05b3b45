import LS8.Proofs.Emission

/-!
# What a failed step leaves behind

A step that fails stops the machine where it is. What the instruction did stays done in one case
only: when it is carried out and there is no cell left for the one after it.

* `Computer.FallsThrough`, `Computer.aftermath`: the instructions after which the next one follows,
  and what they do apart from that;
* `Computer.RunsOut`: the instruction at the program counter falls through at the end of the memory;
* **`step_failure`**: a failed step changes nothing but the state, unless the instruction runs out
  of the memory.
-/

set_option autoImplicit false

namespace LS8.Computer

section Definitions

variable {σ : Type} [Sink σ] (c : Computer) (sink : σ)

/-- The next instruction follows: there is no halt and no jump, and what is printed is taken. -/
def FallsThrough : Instruction → Prop
  | .hlt | .jmp _ => False
  | .ldi _ _ | .cmp _ _ => True
  | .prn r => (Sink.emit sink (c.registers.get r)).2 = none
  | .jeq _ => c.registers.flags.contains .equal = false
  | .jne _ => c.registers.flags.contains .equal = true

/-- The registers after an instruction that falls through, and the values that it prints. -/
def aftermath : Instruction → Registers × List UInt8
  | .ldi r value => (c.registers.set r value, [])
  | .prn r => (c.registers, [c.registers.get r])
  | .cmp a b =>
    ({ c.registers with
        flags := Flags.ofOrdering (compare (c.registers.get a) (c.registers.get b)) }, [])
  | .hlt | .jmp _ | .jeq _ | .jne _ => (c.registers, [])

/-- The instruction falls through, and ends with the last cell of the memory. -/
structure RunsOut (i : Instruction) : Prop where
  decoded : Instruction.decode c.upcoming = .ok i
  outside : c.registers.pc.toNat + i.size = 256
  falls : c.FallsThrough sink i

end Definitions

section Failures

variable {σ : Type} [Sink σ] {c : Computer} {sink : σ}

theorem Passes.fallsThrough {i : Instruction} {registers : Registers} {sink' : σ}
    (h : c.Passes sink i registers sink') : c.FallsThrough sink i := by
  cases h with
  | ldi r value | cmp a b => exact trivial
  | prn taken => exact congrArg Prod.snd taken
  | jeq differ => exact differ
  | jne same => exact same

theorem Passes.aftermath_eq {rec : Recorder σ} {i : Instruction} {registers : Registers}
    {rec' : Recorder σ} (h : c.Passes rec i registers rec') :
    registers = (c.aftermath i).1 ∧ rec'.accepted = rec.accepted ++ (c.aftermath i).2 := by
  cases h with
  | ldi r value | cmp a b | jeq differ | jne same => exact ⟨rfl, (List.append_nil _).symm⟩
  | @prn r _ taken =>
    have ha := rec.accepted_emit (c.registers.get r)
    rw [taken] at ha
    exact ⟨rfl, ha⟩

theorem pc_aftermath (i : Instruction) : (c.aftermath i).1.pc = c.registers.pc := by
  cases i <;> rfl

/-- An instruction runs out for a recorder if it does for the sink that is recorded. -/
theorem runsOut_recorder (rec : Recorder σ) {i : Instruction} :
    c.RunsOut rec i ↔ c.RunsOut rec.sink i := by
  have hf : c.FallsThrough rec i ↔ c.FallsThrough rec.sink i := by
    cases i with
    | hlt | ldi r value | cmp a b | jmp r | jeq r | jne r => exact Iff.rfl
    | prn r => rw [FallsThrough, FallsThrough, (rec.answers _).1]
  exact ⟨fun h => ⟨h.decoded, h.outside, hf.mp h.falls⟩,
    fun h => ⟨h.decoded, h.outside, hf.mpr h.falls⟩⟩

theorem not_runsOut_of_refused {r : Register} (hd : Instruction.decode c.upcoming = .ok (.prn r))
    {sink' : σ} {cause : IoError}
    (hr : Sink.emit sink (c.registers.get r) = (sink', some cause)) (i : Instruction) :
    ¬ c.RunsOut sink i := by
  rintro ⟨decoded, _, falls⟩
  obtain rfl : Instruction.prn r = i := Except.ok.inj (hd.symm.trans decoded)
  rw [FallsThrough, hr] at falls
  cases falls

/-- By the rules, a step that fails has run out of the memory or has not done anything. -/
theorem Rule.of_error {rec : Recorder σ} {s : Step (Recorder σ)} (h : c.Rule rec s) {fault : Fault}
    (hr : s.result = .error fault) :
    ∃ registers, s.computer = c.stop registers ∧
      ((∃ i, c.RunsOut rec i ∧ fault = .invalidAccess (.invalidAddress 256) ∧
          registers = (c.aftermath i).1 ∧ s.sink.accepted = rec.accepted ++ (c.aftermath i).2) ∨
        (∀ i, ¬ c.RunsOut rec i) ∧ registers = c.registers ∧
          s.sink.accepted = rec.accepted) := by
  cases h with
  | halt _ ho | pass _ _ _ ho | jump _ _ ho =>
    rw [(Step.outcome_eq_iff.mp ho).2.2] at hr
    cases hr
  | @runOut i registers rec' decoded passes outside ho =>
    obtain ⟨hc, hs, hf⟩ := Step.outcome_eq_iff.mp ho
    rw [hf, Except.error.injEq] at hr
    rw [hs]
    exact ⟨registers, hc,
      Or.inl ⟨i, ⟨decoded, outside, passes.fallsThrough⟩, hr.symm, passes.aftermath_eq⟩⟩
  | @refuse r rec' cause decoded refused ho =>
    obtain ⟨hc, hs, _⟩ := Step.outcome_eq_iff.mp ho
    have ha := rec.accepted_emit (c.registers.get r)
    rw [refused, Option.elim_some, List.append_nil] at ha
    rw [hs]
    exact ⟨c.registers, hc, Or.inr ⟨not_runsOut_of_refused decoded refused, rfl, ha⟩⟩
  | undecoded decoded ho =>
    obtain ⟨hc, hs, _⟩ := Step.outcome_eq_iff.mp ho
    refine ⟨c.registers, hc, Or.inr ⟨fun i hi => ?_, rfl, by rw [hs]⟩⟩
    cases decoded.symm.trans hi.decoded

/-- **What a failed step leaves behind.** The machine has stopped; the memory and both counters are
as they were, and so are the registers and the values that the sink has accepted, with one
exception: what an instruction does that falls through at the end of the memory stays done. -/
theorem step_failure (h : c.state = .running) {fault : Fault}
    (hr : (c.step sink).result = .error fault) :
    (c.step sink).computer.state = .halted ∧
      (c.step sink).computer.memory = c.memory ∧
      (c.step sink).computer.registers.pc = c.registers.pc ∧
      (c.step sink).computer.cycles = c.cycles ∧
      ((∃ i, c.RunsOut sink i ∧ fault = .invalidAccess (.invalidAddress 256) ∧
          (c.step sink).computer.registers = (c.aftermath i).1 ∧
          c.accepted sink = (c.aftermath i).2) ∨
        (∀ i, ¬ c.RunsOut sink i) ∧ (c.step sink).computer.registers = c.registers ∧
          c.accepted sink = []) := by
  obtain ⟨rec', _, hrec⟩ := c.step_recorder ({ sink } : Recorder σ)
  have hresult : (c.step ({ sink } : Recorder σ)).result = .error fault := by
    rw [hrec]
    exact hr
  obtain ⟨registers, hc, hcases⟩ := (rule_step h ({ sink } : Recorder σ)).of_error hresult
  rw [hrec] at hc
  have hc : (c.step sink).computer = c.stop registers := hc
  simp only [runsOut_recorder] at hcases
  rw [hc]
  refine ⟨rfl, rfl, ?_, rfl, hcases⟩
  obtain ⟨i, _, _, rfl, _⟩ | ⟨_, rfl, _⟩ := hcases
  · exact c.pc_aftermath i
  · rfl

/-- A computer at the last two cells of the memory, which print a register. -/
def lastPrint : Computer :=
  { initial with
    memory := initial.memory.overlay 254 (Instruction.prn ⟨3⟩).encode (by decide)
    registers := { (initial.registers.set ⟨3⟩ 200) with pc := 254 } }

/-- The value is printed although the step fails. -/
theorem step_lastPrint :
    lastPrint.state = .running ∧
      (lastPrint.step ({} : ValueSink)).result =
        .error (.invalidAccess (.invalidAddress 256)) ∧
      (lastPrint.step ({} : ValueSink)).computer.state = .halted ∧
      (lastPrint.step ({} : ValueSink)).computer.registers = lastPrint.registers ∧
      lastPrint.accepted ({} : ValueSink) = [200] := by
  have h : lastPrint.state = .running := rfl
  have hu : lastPrint.upcoming = (Instruction.prn ⟨3⟩).encode := by decide
  have hd : Instruction.decode lastPrint.upcoming = .ok (.prn ⟨3⟩) := by
    rw [hu]
    exact Instruction.decode_encode_append _ []
  have ht : Sink.emit ({} : ValueSink) (lastPrint.registers.get ⟨3⟩) =
      ({ values := #[200] }, none) := rfl
  have hr : (lastPrint.step ({} : ValueSink)).result =
      .error (.invalidAccess (.invalidAddress 256)) := by
    have ho := outcome_of_passes h hd (.prn ht)
    exact (Step.outcome_eq_iff.mp ho).2.2
  obtain ⟨hs, _, _, _, ⟨i, hi, _, hregisters, ha⟩ | ⟨hn, _⟩⟩ := step_failure h hr
  · obtain rfl : Instruction.prn ⟨3⟩ = i := Except.ok.inj (hd.symm.trans hi.decoded)
    exact ⟨h, hr, hs, hregisters, ha⟩
  · exact absurd ⟨hd, by decide, congrArg Prod.snd ht⟩ (hn (.prn ⟨3⟩))

end Failures

end LS8.Computer
