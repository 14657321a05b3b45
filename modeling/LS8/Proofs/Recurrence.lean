import LS8.Proofs.Limit
import Mathlib.Data.List.Basic

/-!
# What the future of a computer depends on

No instruction reads the counter or what was printed before. Two computers with the same registers
and the same memory do the same from then on, and a computer that comes back to the registers that
it had goes round for good.

* `Computer.Twins`, **`Twins.step`**: two computers that differ in their counters only;
* **`Twins.after`**, **`Twins.runFrom`**: twins stay twins, and their runs come to the same;
* **`result_of_endless`**: a machine that runs forever is stopped by its limit;
* `Computer.Recurs`, **`Recurs.twins`**, **`Recurs.emitted_eq`**: a machine that comes back repeats
  itself;
* **`future_of_registers`**: the future depends on registers and memory only.
-/

set_option autoImplicit false

namespace LS8.Computer

/-! ## Twins -/

/-- Two computers that differ in the number of instructions they have executed, if in anything. -/
structure Twins (c c' : Computer) : Prop where
  registers_eq : c'.registers = c.registers
  memory_eq : c'.memory = c.memory
  state_eq : c'.state = c.state

section Steps

variable {σ τ : Type} [Sink σ] [Sink τ] {R : σ → τ → Prop} {c c' : Computer} {u : σ} {t : τ}

/-- No instruction reads the counter, but for what a halt tells. -/
theorem execute_cycles (c : Computer) (cycles : UInt64) (sink : σ) (i : Instruction) :
    ({ c with cycles }.execute sink i).registers = (c.execute sink i).registers ∧
      ({ c with cycles }.execute sink i).sink = (c.execute sink i).sink ∧
      ({ c with cycles }.execute sink i).transition = (c.execute sink i).transition := by
  cases i with
  | hlt | ldi r value | cmp a b | jmp r => exact ⟨rfl, rfl, rfl⟩
  | prn r =>
    simp only [execute]
    rcases Sink.emit sink (c.registers.get r) with ⟨sink', _ | cause⟩
    · exact ⟨rfl, rfl, rfl⟩
    · exact ⟨rfl, rfl, rfl⟩
  | jeq r | jne r =>
    simp only [execute]
    cases c.registers.flags.contains .equal with
    | true => exact ⟨rfl, rfl, rfl⟩
    | false => exact ⟨rfl, rfl, rfl⟩

theorem perform_cycles (c : Computer) (cycles : UInt64) (sink : σ) :
    ({ c with cycles }.perform sink).registers = (c.perform sink).registers ∧
      ({ c with cycles }.perform sink).sink = (c.perform sink).sink ∧
      ({ c with cycles }.perform sink).transition = (c.perform sink).transition := by
  have ho : { c with cycles }.fetchOpcode = c.fetchOpcode := rfl
  have hi : ∀ op, { c with cycles }.fetchOperands op = c.fetchOperands op := fun op => by
    cases op <;> rfl
  simp only [perform, ho, hi]
  cases c.fetchOpcode with
  | error fault => exact ⟨rfl, rfl, rfl⟩
  | ok op =>
    dsimp only
    cases c.fetchOperands op with
    | error fault => exact ⟨rfl, rfl, rfl⟩
    | ok i => exact c.execute_cycles cycles sink i

theorem Twins.exists_cycles (h : Twins c c') : ∃ cycles, c' = { c with cycles } := by
  obtain ⟨registers, memory, cycles, state⟩ := c'
  obtain ⟨rfl, rfl, rfl⟩ := h
  exact ⟨cycles, rfl⟩

theorem Twins.step_same (h : Twins c c') (sink : σ) :
    Twins (c.step sink).computer (c'.step sink).computer ∧
      (c'.step sink).sink = (c.step sink).sink ∧ (c'.step sink).result = (c.step sink).result := by
  obtain ⟨cycles, rfl⟩ := h.exists_cycles
  obtain ⟨hregisters, hsink, htransition⟩ := c.perform_cycles cycles sink
  unfold step
  cases hs : c.state with
  | halted => exact ⟨⟨rfl, rfl, hs.symm⟩, rfl, rfl⟩
  | running =>
    rw [hs] at hregisters hsink htransition
    dsimp only
    rw [hregisters, hsink, htransition]
    refine ⟨?_, rfl, rfl⟩
    rcases (c.perform sink).transition with fault | ⟨address⟩ | _
    · exact ⟨rfl, rfl, rfl⟩
    · exact ⟨rfl, rfl, hs.symm⟩
    · exact ⟨rfl, rfl, rfl⟩

/-- **Twins do the same** in a step, if their sinks answer alike. -/
theorem Twins.step (h : Twins c c') (hR : R u t) (ha : Alike R) :
    Twins (c.step u).computer (c'.step t).computer ∧ R (c.step u).sink (c'.step t).sink ∧
      (c'.step t).result = (c.step u).result := by
  obtain ⟨t', hR', ht⟩ := c.step_answers hR fun r _ => ha u t (c.registers.get r) hR
  obtain ⟨htwins, hsink, hresult⟩ := h.step_same t
  rw [ht] at htwins hsink hresult
  exact ⟨htwins, hsink ▸ hR', hresult⟩

theorem Twins.after (h : Twins c c') (hR : R u t) (ha : Alike R)
    (k : Nat) : Twins (c.after u k).1 (c'.after t k).1 ∧ R (c.after u k).2 (c'.after t k).2 := by
  induction k with
  | zero => exact ⟨h, hR⟩
  | succ k ih =>
    obtain ⟨htwins, hR', _⟩ := ih.1.step ih.2 ha
    rw [after_succ, after_succ]
    exact ⟨htwins, hR'⟩

/-- **The runs of twins come to the same**, whoever observes them. -/
theorem Twins.runFrom (h : Twins c c') (hR : R u t) (ha : Alike R)
    {α β : Type} (observe : α → Moment → α) (observe' : β → Moment → β) (limit : Option UInt64)
    (patience : Nat) (steps : UInt64) (notes : α) (notes' : β) :
    Twins (c.runFrom observe limit patience steps notes u).computer
        (c'.runFrom observe' limit patience steps notes' t).computer ∧
      R (c.runFrom observe limit patience steps notes u).sink
        (c'.runFrom observe' limit patience steps notes' t).sink ∧
      (c'.runFrom observe' limit patience steps notes' t).result =
        (c.runFrom observe limit patience steps notes u).result ∧
      (c'.runFrom observe' limit patience steps notes' t).steps =
        (c.runFrom observe limit patience steps notes u).steps := by
  -- The turns are those of the first run; the second one takes the same.
  induction patience, steps, notes, c, u using turn_induction σ observe limit
    generalizing c' t notes' with
  | halted _ _ _ c u hs =>
    rw [runFrom_of_halted hs, runFrom_of_halted (h.state_eq.trans hs)]
    exact ⟨h, hR, rfl, rfl⟩
  | reached _ _ _ c u hs hl =>
    rw [runFrom_of_reached hs hl, runFrom_of_reached (h.state_eq.trans hs) hl]
    exact ⟨⟨h.registers_eq, h.memory_eq, rfl⟩, hR, rfl, rfl⟩
  | worn _ _ c u hs hl =>
    rw [runFrom_zero hs hl, runFrom_zero (h.state_eq.trans hs) hl]
    exact ⟨h, hR, rfl, rfl⟩
  | ok _ _ _ c u hs hl hr ih =>
    obtain ⟨htwins, hR', hresult⟩ := h.step hR ha
    rw [runFrom_of_ok hs hl hr, runFrom_of_ok (h.state_eq.trans hs) hl (hresult.trans hr)]
    exact ih htwins hR' _
  | error _ _ _ c u fault hs hl hr =>
    obtain ⟨htwins, hR', hresult⟩ := h.step hR ha
    rw [runFrom_of_error hs hl hr, runFrom_of_error (h.state_eq.trans hs) hl (hresult.trans hr)]
    exact ⟨htwins, hR', rfl, rfl⟩

end Steps

/-! ## Sinks that never fail -/

section Unfailing

variable {σ τ : Type} [Sink σ] [Sink τ] {u : σ} {t : τ} {c c' : Computer}

/-- Two recorders of sinks that never fail have recorded the same. -/
structure SameRecord (u : Recorder σ) (t : Recorder τ) : Prop where
  unfailing : Sink.Unfailing u.sink
  unfailing' : Sink.Unfailing t.sink
  accepted_eq : t.accepted = u.accepted

theorem alike_sameRecord : Alike fun (u : Recorder σ) (t : Recorder τ) => SameRecord u t := by
  rintro u t value ⟨hu, ht, haccepted⟩
  have hku := hu.emit value
  have hkt := ht.emit value
  have hau := hu.emit_eq_none value
  have hat := ht.emit_eq_none value
  simp only [Answers, Sink.emit]
  rcases heu : Sink.emit u.sink value with ⟨u', answer⟩
  rcases het : Sink.emit t.sink value with ⟨t', answer'⟩
  rw [heu] at hku hau
  rw [het] at hkt hat
  subst hau hat
  exact ⟨rfl, hku, hkt, congrArg (· ++ [value]) haccepted⟩

theorem alike_unfailing :
    Alike fun (u : σ) (t : τ) => Sink.Unfailing u ∧ Sink.Unfailing t := fun _ _ value h =>
  ⟨(h.2.emit_eq_none value).trans (h.1.emit_eq_none value).symm, h.1.emit value, h.2.emit value⟩

theorem unfailing_after (hu : Sink.Unfailing u) (c : Computer) (k : Nat) :
    Sink.Unfailing (c.after u k).2 :=
  after_kept (fun _ value h => h.emit value) c hu k

theorem Twins.accepted_eq (h : Twins c c') (hu : Sink.Unfailing u) (ht : Sink.Unfailing t) :
    c'.accepted t = c.accepted u := by
  have hR : SameRecord ({ sink := u } : Recorder σ) ({ sink := t } : Recorder τ) := ⟨hu, ht, rfl⟩
  exact (h.step hR alike_sameRecord).2.1.accepted_eq

theorem Twins.printed_eq (h : Twins c c') (hu : Sink.Unfailing u) (ht : Sink.Unfailing t)
    (patience : Nat) (limit : Option UInt64) :
    c'.printed patience limit t = c.printed patience limit u := by
  have hR : SameRecord ({ sink := u } : Recorder σ) ({ sink := t } : Recorder τ) := ⟨hu, ht, rfl⟩
  rw [printed, printed, runWith_eq, runWith_eq]
  exact (h.runFrom hR alike_sameRecord _ _ _ _ _ _ _).2.1.accepted_eq

/-- **The runs of twins come to the same**, and both counters grow alike. -/
theorem Twins.runWith (h : Twins c c') (hu : Sink.Unfailing u) (ht : Sink.Unfailing t)
    {α β : Type} (observe : α → Moment → α) (observe' : β → Moment → β) (patience : Nat)
    (limit : Option UInt64) (notes : α) (notes' : β) :
    (c'.runWith observe' patience limit notes' t).result =
        (c.runWith observe patience limit notes u).result ∧
      (c'.runWith observe' patience limit notes' t).computer.registers =
        (c.runWith observe patience limit notes u).computer.registers ∧
      ∀ n, limit = some n → ∃ g ≤ n.toNat,
        c.Grown g (c.runWith observe patience limit notes u) ∧
          c'.Grown g (c'.runWith observe' patience limit notes' t) := by
  obtain ⟨htwins, _, hresult, hsteps⟩ :=
    h.runFrom ⟨hu, ht⟩ alike_unfailing observe observe' limit (allowance patience limit) 0 notes
      notes'
  rw [← runWith_eq, ← runWith_eq] at htwins hresult hsteps
  refine ⟨hresult, htwins.registers_eq, ?_⟩
  rintro n rfl
  obtain ⟨hk, _, hends⟩ := runWith_ends patience (some n) c u
  obtain ⟨hk', _, hends'⟩ := runWith_ends patience (some n) c' t
  have hgrown := (hends α observe notes).grown rfl
  have hgrown' := (hends' β observe' notes').grown rfl
  have hle := Nat.le_trans (c.successes_le u _) hk
  have hle' := Nat.le_trans (c'.successes_le t _) hk'
  -- Neither counter of steps can have passed its end, so equal counters are equal numbers.
  have hn : allowance patience (some n) < 2 ^ 64 := n.toNat_lt
  have hsame := hgrown.2 (by omega)
  have hsame' := hgrown'.2 (by omega)
  rw [hsteps, hsame] at hsame'
  rw [← hsame'] at hgrown'
  exact ⟨_, hle, hgrown, hgrown'⟩

end Unfailing

/-! ## Running forever -/

section Endless

variable {σ : Type} [Sink σ] {c : Computer} {sink : σ}

theorem running_after_of_le {k m : Nat} (hkm : k ≤ m) (h : (c.after sink m).1.state = .running) :
    (c.after sink k).1.state = .running := by
  induction hkm with
  | refl => exact h
  | @step m _ ih =>
    refine ih ?_
    cases hs : (c.after sink m).1.state with
    | running => rfl
    | halted =>
      rw [after_succ, stepAt, step_of_halted hs] at h
      exact absurd (hs.symm.trans h) (by decide)

theorem succeeds_of_endless (h : ∀ k, (c.after sink k).1.state = .running) (k : Nat) :
    c.Succeeds sink k := by
  intro j _
  cases hr : (c.stepAt sink j).result with
  | ok => rfl
  | error fault =>
    have hs := h (j + 1)
    rw [after_succ] at hs
    exact absurd ((cycles_of_error hr).2.symm.trans hs) (by decide)

/-- **A machine that runs forever** makes all the steps that it may, and is stopped by its limit. -/
theorem result_of_endless (h : ∀ k, (c.after sink k).1.state = .running) {α : Type}
    (observe : α → Moment → α) (patience : Nat) (limit : Option UInt64) (notes : α) :
    (c.runWith observe patience limit notes sink).result =
        limit.map (fun n => .error (.stepLimit n)) ∧
      c.inspections patience limit sink = allowance patience limit := by
  obtain ⟨hk, _, hends⟩ := runWith_ends patience limit c sink
  cases hends α observe notes with
  | halted _ state _ => exact absurd ((h _).symm.trans state) (by decide)
  | stopped _ _ reached run_eq =>
    obtain ⟨max, rfl, hmax⟩ := (reached_iff hk).mp reached
    rw [run_eq, hmax, UInt64.ofNat_toNat, UInt64.zero_add]
    exact ⟨rfl, rfl⟩
  | left _ _ worn unreached run_eq =>
    obtain ⟨rfl, _⟩ := (unreached_iff hk).mp ⟨worn, unreached⟩
    rw [run_eq]
    exact ⟨rfl, worn⟩
  | failed last _ result _ =>
    exact absurd (succeeds_of_endless h _) (not_succeeds_of_error result)

end Endless

/-! ## Coming back -/

section Recurrence

variable {σ : Type} [Sink σ] {c : Computer} {sink : σ} {i p : Nat}

/-- The machine comes back, `p` steps after the first `i` ones, to the registers that it had. -/
structure Recurs (c : Computer) (sink : σ) (i p : Nat) : Prop where
  pos : 0 < p
  running : (c.after sink i).1.state = .running
  running_again : (c.after sink (i + p)).1.state = .running
  registers_eq : (c.after sink (i + p)).1.registers = (c.after sink i).1.registers

/-- **From then on it repeats itself**, with another counter. -/
theorem Recurs.twins (h : c.Recurs sink i p) (hu : Sink.Unfailing sink) {k : Nat} (hk : i ≤ k) :
    Twins (c.after sink k).1 (c.after sink (k + p)).1 := by
  obtain ⟨d, rfl⟩ := Nat.exists_eq_add_of_le hk
  have htwins : Twins (c.after sink i).1 (c.after sink (i + p)).1 :=
    ⟨h.registers_eq, by rw [memory_after, memory_after],
      h.running_again.trans h.running.symm⟩
  have hafter :=
    (htwins.after ⟨unfailing_after hu c i, unfailing_after hu c (i + p)⟩ alike_unfailing d).1
  rwa [after_add, after_add, Nat.add_right_comm] at hafter

theorem Recurs.running_after (h : c.Recurs sink i p) (hu : Sink.Unfailing sink) (k : Nat) :
    (c.after sink k).1.state = .running := by
  induction k using Nat.strongRecOn with
  | ind k ih =>
    have hp := h.pos
    by_cases hk : k ≤ i + p
    · exact running_after_of_le hk h.running_again
    -- One turn earlier the machine had a twin, which was running.
    · have htwins := h.twins hu (show i ≤ k - p by omega)
      rw [Nat.sub_add_cancel (by omega)] at htwins
      exact htwins.state_eq.trans (ih (k - p) (by omega))

theorem Recurs.acceptedAt_add (h : c.Recurs sink i p) (hu : Sink.Unfailing sink) {k : Nat}
    (hk : i ≤ k) : c.acceptedAt sink (k + p) = c.acceptedAt sink k :=
  (h.twins hu hk).accepted_eq (unfailing_after hu c k) (unfailing_after hu c (k + p))

theorem Recurs.emitted_shift (h : c.Recurs sink i p) (hu : Sink.Unfailing sink) (m : Nat) :
    c.emitted sink (i + p) m = c.emitted sink i m := by
  rw [emitted, emitted, Nat.add_comm, ← List.map_add_range', List.flatMap_map]
  refine List.flatMap_congr fun k hk => ?_
  rw [Nat.add_comm]
  exact h.acceptedAt_add hu (List.mem_range'_1.mp hk).1

/-- **It prints the same turn after turn.** -/
theorem Recurs.emitted_eq (h : c.Recurs sink i p) (hu : Sink.Unfailing sink) (q r : Nat) :
    c.emitted sink i (q * p + r) =
      (List.replicate q (c.emitted sink i p)).flatten ++ c.emitted sink i r := by
  induction q with
  | zero => rw [Nat.zero_mul, Nat.zero_add, List.replicate_zero, List.flatten_nil, List.nil_append]
  | succ q ih =>
    have hturn : (q + 1) * p + r = p + (q * p + r) := by
      rw [Nat.add_mul]
      omega
    rw [hturn, emitted_add, h.emitted_shift hu, ih, List.replicate_succ, List.flatten_cons,
      List.append_assoc]

end Recurrence

section Future

variable {σ τ : Type} [Sink σ] [Sink τ] {u : σ} {t : τ}

/-- **The future depends on registers and memory only.** Two running computers with the same
registers and the same memory do the same under every limit, whatever their counters. So a machine
that comes back to the registers that it had never halts: every limit stops it, and from then on it
prints the same turn after turn. -/
theorem future_of_registers (c : Computer) (hu : Sink.Unfailing u) (ht : Sink.Unfailing t)
    {α β : Type} (observe : α → Moment → α) (observe' : β → Moment → β) (notes : α) (notes' : β)
    (patience : Nat) :
    (∀ c' : Computer, c.state = .running → c'.state = .running → c'.registers = c.registers →
      c'.memory = c.memory → ∀ limit,
        (c'.runWith observe' patience limit notes' t).result =
          (c.runWith observe patience limit notes u).result ∧
        c'.printed patience limit t = c.printed patience limit u ∧
        (c'.runWith observe' patience limit notes' t).computer.registers =
          (c.runWith observe patience limit notes u).computer.registers ∧
        ∀ n, limit = some n → ∃ g ≤ n.toNat,
          c.Grown g (c.runWith observe patience limit notes u) ∧
            c'.Grown g (c'.runWith observe' patience limit notes' t)) ∧
      ∀ i j, i < j → (c.after u i).1.state = .running → (c.after u j).1.state = .running →
        (c.after u j).1.registers = (c.after u i).1.registers →
        (∀ limit, (c.runWith observe patience limit notes u).result =
          limit.map fun n => .error (.stepLimit n)) ∧
        (∀ k ≥ i, c.acceptedAt u (k + (j - i)) = c.acceptedAt u k) ∧
        ∀ limit q r, allowance patience limit = i + (q * (j - i) + r) →
          c.printed patience limit u =
            c.emitted u 0 i ++
              ((List.replicate q (c.emitted u i (j - i))).flatten ++ c.emitted u i r) := by
  refine ⟨fun c' hs hs' hregisters hmemory limit => ?_, fun i j hij hi hj hregisters => ?_⟩
  · have htwins : Twins c c' := ⟨hregisters, hmemory, hs'.trans hs.symm⟩
    obtain ⟨hresult, hfinal, hgrown⟩ :=
      htwins.runWith hu ht observe observe' patience limit notes notes'
    exact ⟨hresult, htwins.printed_eq hu ht patience limit, hfinal, hgrown⟩
  · have hback : i + (j - i) = j := by omega
    have hrecurs : c.Recurs u i (j - i) :=
      ⟨by omega, hi, by rw [hback]; exact hj, by rw [hback]; exact hregisters⟩
    have hends := hrecurs.running_after hu
    refine ⟨fun limit => (result_of_endless hends observe patience limit notes).1,
      fun k hk => hrecurs.acceptedAt_add hu hk, fun limit q r hallowance => ?_⟩
    rw [printed_eq, (result_of_endless hends observe patience limit notes).2, hallowance,
      emitted_add, Nat.zero_add, hrecurs.emitted_eq hu]

end Future

/-- The program that prints forever is after three steps where it was after one: every limit stops
it, and seven steps print the value three times. With another counter it prints the same. -/
theorem future_chatter :
    Sink.Unfailing ({} : ValueSink) ∧
      ((ofProgram chatter).after ({} : ValueSink) 3).1.registers =
        ((ofProgram chatter).after ({} : ValueSink) 1).1.registers ∧
      (∀ n : UInt64, ((ofProgram chatter).runWith (fun n _ => n + 1) 0 (some n) 0
        ({} : ValueSink)).result = some (.error (.stepLimit n))) ∧
      (ofProgram chatter).printed 0 (some 7) ({} : ValueSink) = [3, 3, 3] ∧
      ∀ n : UInt64, ({ ofProgram chatter with cycles := 40 } : Computer).printed 0 (some n)
        ({} : ValueSink) = (ofProgram chatter).printed 0 (some n) ({} : ValueSink) := by
  have hu : Sink.Unfailing ({} : ValueSink) := ValueSink.unfailing rfl
  have hback : ((ofProgram chatter).after ({} : ValueSink) 3).1.registers =
      ((ofProgram chatter).after ({} : ValueSink) 1).1.registers := by rfl
  obtain ⟨htwins, hrecurs⟩ := future_of_registers (ofProgram chatter) hu hu (fun n _ => n + 1)
    (fun n _ => n + 1) 0 0 0
  obtain ⟨hresult, _, hprinted⟩ := hrecurs 1 3 (by decide) (by rfl) (by rfl) hback
  have hstart : (ofProgram chatter).emitted ({} : ValueSink) 0 1 = [] := by rfl
  have hturn : (ofProgram chatter).emitted ({} : ValueSink) 1 2 = [3] := by rfl
  have hseven := hprinted (some 7) 3 0 (by rfl)
  rw [hstart, hturn] at hseven
  exact ⟨hu, hback, fun n => hresult (some n), hseven,
    fun n => (htwins { ofProgram chatter with cycles := 40 } rfl rfl rfl rfl (some n)).2.1⟩

end LS8.Computer
