import LS8.Program
import LS8.Proofs.Reach

/-!
# What the flags tell

Nothing but a comparison touches the flags, and a comparison replaces them. So they tell how the
last one came out, whatever has become of the compared registers since.

* `Computer.comparison?`, `Computer.lastComparison?`: the values that a step compares, and those
  that were compared last;
* `comparison?_eq_some_iff`: a step compares values where a comparison is decoded;
* **`flags_step`**, **`Reaches.flags_eq`**: the flags are those of the last comparison;
* `Computer.Tied`, **`flags_of_reaches`**: the conditional jumps ask whether it found equality.
-/

set_option autoImplicit false

namespace LS8.Computer

/-! ## Comparisons -/

/-- The values that the next step compares: the machine runs, finds a comparison, and has read both
of its registers. -/
def comparison? (c : Computer) : Option (UInt8 × UInt8) :=
  match c.state, c.fetchOpcode, c.registerOperand 1, c.registerOperand 2 with
  | .running, .ok .cmp, .ok a, .ok b => some (c.registers.get a, c.registers.get b)
  | _, _, _, _ => none

/-- The values that were compared last. -/
def lastComparison? (history : List Computer) : Option (UInt8 × UInt8) :=
  (history.filterMap comparison?).getLast?

/-- The flags after some steps, of which the last that compared anything compared these values. -/
def flagsOf (last : Option (UInt8 × UInt8)) : Flags :=
  last.elim Flags.empty fun pair => Flags.ofOrdering (compare pair.1 pair.2)

section Comparisons

variable {c : Computer}

theorem lastComparison?_append (history : List Computer) (c : Computer) :
    lastComparison? (history ++ [c]) = c.comparison?.or (lastComparison? history) := by
  rw [lastComparison?, lastComparison?, List.filterMap_append]
  cases h : c.comparison? with
  | none => simp [h]
  | some pair => simp [h]

/-- Both registers of a comparison are read where it is decoded, and only there. -/
theorem comparison?_eq_some_iff {pair : UInt8 × UInt8} :
    c.comparison? = some pair ↔ c.state = .running ∧ ∃ a b,
      Instruction.decode c.upcoming = .ok (.cmp a b) ∧
        pair = (c.registers.get a, c.registers.get b) := by
  constructor
  · intro h
    unfold comparison? at h
    split at h
    · next a b hs ho ha hb =>
      have hi : c.fetchOperands .cmp = .ok (.cmp a b) := by
        rw [fetchOperands, ha, hb]
        rfl
      exact ⟨hs, a, b, decode_of_fetch ho hi, (Option.some.inj h).symm⟩
    · cases h
  · rintro ⟨hs, a, b, hd, rfl⟩
    obtain ⟨ho, hi⟩ := fetch_of_decode hd
    have hi : c.fetchOperands .cmp = .ok (.cmp a b) := hi
    simp only [fetchOperands, Instruction.bind_eq_ok_iff, pure, Except.pure, Except.ok.injEq,
      Instruction.cmp.injEq] at hi
    obtain ⟨a', ha, b', hb, rfl, rfl⟩ := hi
    have ho : c.fetchOpcode = .ok .cmp := ho
    simp only [comparison?, hs, ho, ha, hb]

theorem comparison?_eq_none
    (h : c.state = .running → ∀ a b, Instruction.decode c.upcoming ≠ .ok (.cmp a b)) :
    c.comparison? = none := by
  rw [Option.eq_none_iff_forall_ne_some]
  intro pair hpair
  obtain ⟨hs, a, b, hd, _⟩ := comparison?_eq_some_iff.mp hpair
  exact h hs a b hd

end Comparisons

/-! ## The flags of the last comparison -/

section LastComparison

variable {σ : Type} [Sink σ] {c s : Computer} {history : List Computer}

/-- **A step keeps the flags**, or replaces them by those of its own comparison. -/
theorem flags_step {last : Option (UInt8 × UInt8)} (h : c.registers.flags = flagsOf last)
    (sink : σ) : (c.step sink).computer.registers.flags = flagsOf (c.comparison?.or last) := by
  obtain ⟨hkept, hd⟩ | ⟨hs, i, pc, hd, hregisters⟩ := c.step_registers sink
  · -- Where no instruction is carried out, nothing is compared.
    rw [hkept, comparison?_eq_none fun hs a b => hd hs _]
    exact h
  · rw [hregisters]
    cases i with
    | cmp a b =>
      rw [comparison?_eq_some_iff.mpr ⟨hs, a, b, hd, rfl⟩]
      rfl
    | hlt | ldi r value | prn r | jmp r | jeq r | jne r =>
      rw [comparison?_eq_none fun _ a b hcmp => by cases hd.symm.trans hcmp]
      exact h

/-- **The flags tell the last comparison**, if they were clear at the start. -/
theorem Reaches.flags_eq (h : c.Reaches history s) (hc : c.registers.flags = Flags.empty) :
    s.registers.flags = flagsOf (lastComparison? history) := by
  induction h with
  | start => exact hc
  | step _ sink ih =>
    rw [lastComparison?_append]
    exact flags_step ih sink

theorem flagsOf_some (x y : UInt8) :
    (x = y → flagsOf (some (x, y)) = Flags.equal) ∧
      (x < y → flagsOf (some (x, y)) = Flags.less) ∧
        (y < x → flagsOf (some (x, y)) = Flags.greater) := by
  refine ⟨fun h => ?_, fun h => ?_, fun h => ?_⟩
  · rw [flagsOf, Option.elim_some, Std.compare_eq_iff_eq.mpr h]
    rfl
  · rw [flagsOf, Option.elim_some, Std.compare_eq_lt.mpr h]
    rfl
  · rw [flagsOf, Option.elim_some, Std.compare_eq_gt.mpr h]
    rfl

end LastComparison

/-! ## Conditional jumps -/

/-- The last comparison has found two equal values. -/
def Tied (history : List Computer) : Prop := ∃ x, lastComparison? history = some (x, x)

section Branches

variable {σ : Type} [Sink σ] {c s : Computer} {sink : σ} {r : Register} {history : List Computer}

theorem contains_equal_flagsOf {last : Option (UInt8 × UInt8)} :
    (flagsOf last).contains .equal = true ↔ ∃ x, last = some (x, x) := by
  rcases last with _ | ⟨x, y⟩
  · simp [flagsOf, Flags.empty, Flags.contains, Flags.equal]
  · rw [flagsOf, Option.elim_some, Flags.contains_equal_ofOrdering, Std.compare_eq_iff_eq]
    constructor
    · intro h
      obtain rfl : x = y := h
      exact ⟨x, rfl⟩
    · rintro ⟨_, ⟨⟩⟩
      rfl

/-- The step jumps through a register if this holds, and passes on after the instruction if not. -/
structure Branches (c : Computer) (sink : σ) (i : Instruction) (r : Register) (taken : Prop) :
    Prop where
  jumps : taken →
    (c.step sink).outcome = (c.carryOn c.registers (c.registers.get r), sink, .ok ())
  falls : ¬ taken → (c.step sink).outcome = c.fallThrough c.registers sink i.size
  /-- The machine tells whether it jumps. -/
  told : Event.jumping (c.registers.get r) ∈ (c.step sink).events ↔ taken

theorem branches_jeq (h : c.state = .running) (hd : Instruction.decode c.upcoming = .ok (.jeq r)) :
    c.Branches sink (.jeq r) r (c.registers.flags.contains .equal = true) where
  jumps hf := outcome_of_jumps h hd (.jeq hf)
  falls hf := outcome_of_passes h hd (.jeq (Bool.not_eq_true _ ▸ hf))
  told := by
    rw [events_of_decode_ok h hd, execute]
    cases c.registers.flags.contains .equal with
    | true => simp [jumping]
    | false => simp [passing]

theorem branches_jne (h : c.state = .running) (hd : Instruction.decode c.upcoming = .ok (.jne r)) :
    c.Branches sink (.jne r) r (¬ c.registers.flags.contains .equal = true) where
  jumps hf := outcome_of_jumps h hd (.jne (Bool.not_eq_true _ ▸ hf))
  falls hf := outcome_of_passes h hd (.jne (Decidable.not_not.mp hf))
  told := by
    rw [events_of_decode_ok h hd, execute]
    cases c.registers.flags.contains .equal with
    | true => simp [passing]
    | false => simp [jumping]

/-- **The flags always tell the last comparison.** Whatever computer is reached from one with a
program, no flag is set if no step has compared anything yet; else the one flag is set that tells
how the two values compared when they were compared last, and no other bit. So a conditional jump is
taken or not by whether these two values were equal. -/
theorem flags_of_reaches {program : List UInt8} (hc : withProgram program = .ok c)
    (h : c.Reaches history s) :
    (match lastComparison? history with
      | none => s.registers.flags = Flags.empty
      | some (x, y) =>
        (x = y → s.registers.flags = Flags.equal) ∧ (x < y → s.registers.flags = Flags.less) ∧
          (y < x → s.registers.flags = Flags.greater)) ∧
      ∀ {σ : Type} [Sink σ] (sink : σ) (r : Register), s.state = .running →
        (Instruction.decode s.upcoming = .ok (.jeq r) → s.Branches sink (.jeq r) r (Tied history)) ∧
        (Instruction.decode s.upcoming = .ok (.jne r) →
          s.Branches sink (.jne r) r (¬ Tied history)) := by
  have hclear : c.registers.flags = Flags.empty := congrArg _ (registers_of_withProgram hc)
  have hflags := h.flags_eq hclear
  have htied : s.registers.flags.contains .equal = true ↔ Tied history := by
    rw [hflags, contains_equal_flagsOf]
    rfl
  refine ⟨?_, fun sink r hs => ⟨fun hd => ?_, fun hd => ?_⟩⟩
  · rw [hflags]
    rcases lastComparison? history with _ | ⟨x, y⟩
    · rfl
    · exact flagsOf_some x y
  · rw [← htied]
    exact branches_jeq hs hd
  · rw [← htied]
    exact branches_jne hs hd

/-- A program that compares a register with a smaller one, loads the same value into that, and then
jumps on equality. -/
def overtaken : Program where
  bytes := [0x82, 0, 5, 0xA7, 0, 1, 0x82, 1, 5, 0x55, 0]
  fits := by decide

/-- The jump is not taken: the registers have become equal only after the comparison. -/
theorem flags_overtaken :
    withProgram overtaken.bytes = .ok (ofProgram overtaken) ∧
      ∃ history s, (ofProgram overtaken).Reaches history s ∧ lastComparison? history = some (5, 0) ∧
        s.registers.get ⟨0⟩ = s.registers.get ⟨1⟩ ∧ s.registers.flags = Flags.greater ∧
        Event.jumping 5 ∉ (s.step ({} : ValueSink)).events ∧
        (s.step ({} : ValueSink)).computer.registers.pc = 11 := by
  have hc := withProgram_bytes overtaken
  have h := (ofProgram overtaken).reaches_after ({} : ValueSink) 3
  have hlast : lastComparison? ((List.range 3).map fun j =>
      ((ofProgram overtaken).after ({} : ValueSink) j).1) = some (5, 0) := by rfl
  obtain ⟨hflags, hbranches⟩ := flags_of_reaches hc h
  rw [hlast] at hflags
  have hbranch := (hbranches ({} : ValueSink) ⟨0⟩ (by rfl)).1 (by rfl)
  have hdiffer : ¬ Tied ((List.range 3).map fun j =>
      ((ofProgram overtaken).after ({} : ValueSink) j).1) := by
    rintro ⟨x, hx⟩
    cases hlast.symm.trans hx
  refine ⟨hc, _, _, h, hlast, by rfl, hflags.2.2 (by decide), ?_, ?_⟩
  · exact fun hj => hdiffer (hbranch.told.mp hj)
  · rw [(Step.outcome_eq_iff.mp (hbranch.falls hdiffer)).1]
    rfl

end Branches

end LS8.Computer
