import LS8.Proofs.Step

/-!
# Steps and their sinks

A step offers one value to its sink at most, and depends on nothing but the sink's answer.

* `Answers`, `Alike`: two sinks answer alike when a value is offered to them;
* **`step_answers`**: with two such sinks a step is the same but for the sink that it leaves;
* **`step_sink`**: the sink of a step is left as it was, or has been offered what a register holds;
* `step_kept`: what is kept whenever a value is offered is kept by a step;
* `Recorder`, `Computer.accepted`: the values that a sink accepts, whatever sink it is;
* `Sink.Unfailing`: the sinks that accept every value.
-/

set_option autoImplicit false

namespace LS8

/-- What a step did, with another sink in the place of its own. -/
def Step.withSink {σ τ : Type} (s : Step σ) (sink : τ) : Step τ :=
  ⟨s.computer, sink, s.result, s.events⟩

/-- What an instruction did, with another sink in the place of its own. -/
def Effect.withSink {σ τ : Type} (e : Effect σ) (sink : τ) : Effect τ :=
  ⟨e.registers, sink, e.transition, e.events⟩

/-- Two sinks answer alike when a value is offered to them, and are related from then on. -/
def Answers {σ τ : Type} [Sink σ] [Sink τ] (R : σ → τ → Prop) (u : σ) (t : τ) (value : UInt8) :
    Prop :=
  (Sink.emit t value).2 = (Sink.emit u value).2 ∧ R (Sink.emit u value).1 (Sink.emit t value).1

/-- Any two sinks that are related answer alike. -/
def Alike {σ τ : Type} [Sink σ] [Sink τ] (R : σ → τ → Prop) : Prop :=
  ∀ u t value, R u t → Answers R u t value

namespace Computer

/-! ## Two sinks that answer alike -/

section Alike

variable {σ τ : Type} [Sink σ] [Sink τ] {R : σ → τ → Prop} {c : Computer} {u : σ} {t : τ}

theorem execute_answers (hR : R u t) {i : Instruction}
    (h : ∀ r, i = .prn r → Answers R u t (c.registers.get r)) :
    ∃ t', R (c.execute u i).sink t' ∧ c.execute t i = (c.execute u i).withSink t' := by
  cases i with
  | hlt | ldi r value | cmp a b | jmp r => exact ⟨t, hR, rfl⟩
  | jeq r | jne r =>
    cases hf : c.registers.flags.contains .equal with
    | true =>
      simp only [execute, hf]
      exact ⟨t, hR, rfl⟩
    | false =>
      simp only [execute, hf]
      exact ⟨t, hR, rfl⟩
  | prn r =>
    obtain ⟨ha, hR'⟩ := h r rfl
    rcases hu : Sink.emit u (c.registers.get r) with ⟨u', answer⟩
    rcases ht : Sink.emit t (c.registers.get r) with ⟨t', answer'⟩
    rw [hu, ht] at ha hR'
    obtain rfl : answer' = answer := ha
    refine ⟨t', ?_⟩
    simp only [execute, hu, ht]
    cases answer' with
    | none => exact ⟨hR', rfl⟩
    | some cause => exact ⟨hR', rfl⟩

theorem perform_answers (hR : R u t)
    (h : ∀ r, Instruction.decode c.upcoming = .ok (.prn r) → Answers R u t (c.registers.get r)) :
    ∃ t', R (c.perform u).sink t' ∧ c.perform t = (c.perform u).withSink t' := by
  cases ho : c.fetchOpcode with
  | error fault =>
    simp only [perform, ho]
    exact ⟨t, hR, rfl⟩
  | ok op =>
    cases hi : c.fetchOperands op with
    | error fault =>
      simp only [perform, ho, hi]
      exact ⟨t, hR, rfl⟩
    | ok i =>
      have hx := c.execute_answers hR (i := i) fun r hr => h r (hr ▸ decode_of_fetch ho hi)
      obtain ⟨t', hR', ht'⟩ := hx
      simp only [perform, ho, hi, ht']
      exact ⟨t', hR', rfl⟩

/-- **With two sinks that answer alike a step is the same**, but for the sink that it leaves. -/
theorem step_answers (hR : R u t)
    (h : ∀ r, Instruction.decode c.upcoming = .ok (.prn r) → Answers R u t (c.registers.get r)) :
    ∃ t', R (c.step u).sink t' ∧ c.step t = (c.step u).withSink t' := by
  cases hs : c.state with
  | halted =>
    rw [step_of_halted hs, step_of_halted hs]
    exact ⟨t, hR, rfl⟩
  | running =>
    obtain ⟨t', hR', ht'⟩ := c.perform_answers hR h
    simp only [step, hs, ht']
    exact ⟨t', hR', rfl⟩

end Alike

/-! ## The value that is offered -/

section Offers

variable {σ : Type} [Sink σ] {c : Computer} {sink : σ}

theorem step_sink_of_prn (h : c.state = .running) {r : Register}
    (hd : Instruction.decode c.upcoming = .ok (.prn r)) :
    (c.step sink).sink = (Sink.emit sink (c.registers.get r)).1 := by
  rcases he : Sink.emit sink (c.registers.get r) with ⟨sink', _ | cause⟩
  · have ho := outcome_of_passes h hd (.prn he)
    rw [fallThrough] at ho
    split at ho
    · exact (Step.outcome_eq_iff.mp ho).2.1
    · exact (Step.outcome_eq_iff.mp ho).2.1
  · exact (Step.outcome_eq_iff.mp (outcome_of_refused h hd he)).2.1

/-- Nothing but a print has to do with the sink. -/
theorem step_sink_of_not_prn (h : ∀ r, Instruction.decode c.upcoming ≠ .ok (.prn r)) :
    (c.step sink).sink = sink := by
  obtain ⟨t, ht, hs⟩ := c.step_answers (R := fun _ t => t = sink) (u := sink) (t := sink) rfl
    fun r hd => absurd hd (h r)
  rw [hs]
  exact ht

/-- **The sink of a step is left as it was**, or has been offered what a register holds. -/
theorem step_sink (c : Computer) (sink : σ) :
    (c.step sink).sink = sink ∨ ∃ value, (c.step sink).sink = (Sink.emit sink value).1 := by
  cases hs : c.state with
  | halted => exact Or.inl (by rw [step_of_halted hs])
  | running =>
    by_cases hp : ∃ r, Instruction.decode c.upcoming = .ok (.prn r)
    · obtain ⟨r, hd⟩ := hp
      exact Or.inr ⟨_, step_sink_of_prn hs hd⟩
    · exact Or.inl (step_sink_of_not_prn fun r hd => hp ⟨r, hd⟩)

/-- What is kept whenever a value is offered is kept by a step. -/
theorem step_kept {P : σ → Prop} (h : ∀ sink value, P sink → P (Sink.emit sink value).1)
    (c : Computer) {sink : σ} (hP : P sink) : P (c.step sink).sink := by
  obtain hkept | ⟨value, hoffered⟩ := c.step_sink sink
  · rw [hkept]
    exact hP
  · rw [hoffered]
    exact h sink value hP

end Offers

end Computer

/-! ## The values that are accepted -/

/-- A sink together with the values that it has accepted. -/
structure Recorder (σ : Type) where
  sink : σ
  accepted : List UInt8 := []

namespace Recorder

variable {σ : Type} [Sink σ]

instance : Sink (Recorder σ) where
  emit rec value :=
    match Sink.emit rec.sink value with
    | (sink, none) => (⟨sink, rec.accepted ++ [value]⟩, none)
    | (sink, some cause) => (⟨sink, rec.accepted⟩, some cause)

theorem answers (rec : Recorder σ) (value : UInt8) :
    Answers (fun sink rec => rec.sink = sink) rec.sink rec value := by
  simp only [Answers, Sink.emit]
  rcases Sink.emit rec.sink value with ⟨sink, _ | cause⟩
  · exact ⟨rfl, rfl⟩
  · exact ⟨rfl, rfl⟩

theorem accepted_emit (rec : Recorder σ) (value : UInt8) :
    (Sink.emit rec value).1.accepted =
      rec.accepted ++ (Sink.emit rec value).2.elim [value] fun _ => [] := by
  simp only [Sink.emit]
  rcases Sink.emit rec.sink value with ⟨sink, _ | cause⟩
  · rfl
  · exact (List.append_nil _).symm

end Recorder

namespace Computer

variable {σ : Type} [Sink σ]

/-- The values that the sink accepts in a step. -/
def accepted (c : Computer) (sink : σ) : List UInt8 :=
  (c.step ({ sink } : Recorder σ)).sink.accepted

/-- **Recording changes nothing** in a step. -/
theorem step_recorder (c : Computer) (rec : Recorder σ) :
    ∃ rec', rec'.sink = (c.step rec.sink).sink ∧ c.step rec = (c.step rec.sink).withSink rec' :=
  step_answers (R := fun sink (rec : Recorder σ) => rec.sink = sink) rfl fun _ _ => rec.answers _

end Computer

/-! ## Sinks that never fail -/

/-- The sink accepts every value, now and after any others. -/
def Sink.Unfailing {σ : Type} [Sink σ] (sink : σ) : Prop :=
  ∀ (values : List UInt8) (value : UInt8),
    (Sink.emit (values.foldl (fun sink value => (Sink.emit sink value).1) sink) value).2 = none

namespace Sink.Unfailing

variable {σ : Type} [Sink σ] {sink : σ}

theorem emit_eq_none (h : Unfailing sink) (value : UInt8) : (Sink.emit sink value).2 = none :=
  h [] value

theorem emit (h : Unfailing sink) (value : UInt8) : Unfailing (Sink.emit sink value).1 :=
  fun values => h (value :: values)

/-- What holds of a sink and is kept whenever a value is offered to it holds for good. -/
theorem of_kept {P : σ → Prop} (hP : P sink)
    (h : ∀ sink value, P sink → (Sink.emit sink value).2 = none ∧ P (Sink.emit sink value).1) :
    Unfailing sink := by
  intro values
  induction values generalizing sink with
  | nil => exact fun value => (h sink value hP).1
  | cons first values ih => exact ih (h sink first hP).2

end Sink.Unfailing

theorem ValueSink.unfailing {sink : ValueSink} (h : sink.capacity = none) :
    Sink.Unfailing sink := by
  refine Sink.Unfailing.of_kept (P := fun sink => sink.capacity = none) h fun sink value h => ?_
  simp [Sink.emit, hasRoom, h]

theorem TextSink.unfailing {sink : TextSink} (h : sink.room = none) : Sink.Unfailing sink := by
  refine Sink.Unfailing.of_kept (P := fun sink => sink.room = none) h fun sink value h => ?_
  simp [Sink.emit, write_of_room_none h, put, h]

end LS8
