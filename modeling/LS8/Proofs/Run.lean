import LS8.Computer.Run
import LS8.Proofs.Step
import Mathlib.Logic.Function.Iterate

/-!
# Runs as repeated steps

A run makes one step after the other, and what it comes to can be read off the number of steps that
the observer was told about.

* `Computer.after`, `Computer.stepAt`, `Computer.momentAt`: the steps of a machine left to itself;
* `Computer.Succeeds`, `Computer.successes`: the steps that succeed, and how many they are;
* `Computer.Ends`, **`runFrom_ends`**: every loop ends in one of four ways;
* `Computer.inspections`: the number of steps that the observer of a run is told about;
* `Computer.Counted`, **`runWith_counted`**: this number tells how the run ended, and where.
-/

set_option autoImplicit false

namespace LS8.Computer

section Steps

variable {σ : Type} [Sink σ]

/-! ## The machine after some steps -/

/-- The computer and the sink after `k` steps, whatever became of them. -/
def after (c : Computer) (sink : σ) (k : Nat) : Computer × σ :=
  (fun s : Computer × σ => ((s.1.step s.2).computer, (s.1.step s.2).sink))^[k] (c, sink)

/-- The step that comes after `k` others. -/
def stepAt (c : Computer) (sink : σ) (k : Nat) : Step σ := (c.after sink k).1.step (c.after sink k).2

/-- What an observer sees of the step that comes after `k` others. -/
def momentAt (c : Computer) (sink : σ) (k : Nat) : Moment :=
  ⟨(c.after sink k).1, (c.stepAt sink k).events⟩

/-- The first `k` steps succeed. -/
def Succeeds (c : Computer) (sink : σ) (k : Nat) : Prop :=
  ∀ j < k, (c.stepAt sink j).result = .ok ()

variable {c : Computer} {sink : σ}

theorem after_succ (k : Nat) :
    c.after sink (k + 1) = ((c.stepAt sink k).computer, (c.stepAt sink k).sink) := by
  rw [after, Function.iterate_succ_apply']
  rfl

theorem after_add (c : Computer) (sink : σ) (m k : Nat) :
    (c.after sink m).1.after (c.after sink m).2 k = c.after sink (m + k) := by
  rw [after, after, after, Nat.add_comm, Function.iterate_add_apply]

theorem momentAt_after (c : Computer) (sink : σ) (m k : Nat) :
    (c.after sink m).1.momentAt (c.after sink m).2 k = c.momentAt sink (m + k) := by
  rw [momentAt, momentAt, stepAt, stepAt, after_add]

/-- **No step ever changes the memory.** -/
theorem memory_after (c : Computer) (sink : σ) (k : Nat) : (c.after sink k).1.memory = c.memory := by
  induction k with
  | zero => rfl
  | succ k ih =>
    rw [after_succ, stepAt, step_memory, ih]

/-- After one step, the others are those of the machine that it left behind. -/
theorem after_step (k : Nat) :
    (c.step sink).computer.after (c.step sink).sink k = c.after sink (k + 1) := by
  rw [after, after, Function.iterate_succ_apply]

theorem stepAt_step (k : Nat) :
    (c.step sink).computer.stepAt (c.step sink).sink k = c.stepAt sink (k + 1) := by
  rw [stepAt, stepAt, after_step]

theorem momentAt_step (k : Nat) :
    (c.step sink).computer.momentAt (c.step sink).sink k = c.momentAt sink (k + 1) := by
  rw [momentAt, momentAt, after_step, stepAt_step]

@[simp] theorem succeeds_zero : c.Succeeds sink 0 := fun j hj => absurd hj (Nat.not_lt_zero j)

theorem succeeds_succ {k : Nat} (h : (c.step sink).result = .ok ())
    (hk : (c.step sink).computer.Succeeds (c.step sink).sink k) : c.Succeeds sink (k + 1) := by
  intro j hj
  cases j with
  | zero => exact h
  | succ j =>
    rw [← stepAt_step]
    exact hk j (by omega)

theorem not_succeeds_of_error {j : Nat} {fault : Fault}
    (h : (c.stepAt sink j).result = .error fault) : ¬ c.Succeeds sink (j + 1) := by
  intro hs
  rw [hs j (Nat.lt_succ_self j)] at h
  cases h

/-- The number of steps among the first `k` that succeed. -/
def successes (c : Computer) (sink : σ) (k : Nat) : Nat :=
  (List.range k).countP fun j => (c.stepAt sink j).result.toBool

theorem successes_succ (k : Nat) :
    c.successes sink (k + 1) =
      c.successes sink k + if (c.stepAt sink k).result.toBool then 1 else 0 := by
  rw [successes, List.range_succ, List.countP_append, List.countP_singleton]
  rfl

theorem successes_le (c : Computer) (sink : σ) (k : Nat) : c.successes sink k ≤ k := by
  have h := List.countP_le_length (p := fun j => (c.stepAt sink j).result.toBool) (l := List.range k)
  rw [List.length_range] at h
  exact h

theorem successes_eq {k : Nat} (h : c.Succeeds sink k) : c.successes sink k = k := by
  induction k with
  | zero => rfl
  | succ k ih =>
    rw [successes_succ, ih fun j hj => h j (Nat.lt_succ_of_lt hj), h k (Nat.lt_succ_self k)]
    rfl

theorem successes_of_error {j : Nat} {fault : Fault} (h : c.Succeeds sink j)
    (hj : (c.stepAt sink j).result = .error fault) : c.successes sink (j + 1) = j := by
  rw [successes_succ, successes_eq h, hj]
  rfl

theorem cycles_after {k : Nat} (h : c.Succeeds sink k) :
    (c.after sink k).1.cycles = c.cycles + UInt64.ofNat k := by
  induction k with
  | zero => exact (UInt64.add_zero _).symm
  | succ k ih =>
    have hk : (c.stepAt sink k).computer.cycles = (c.after sink k).1.cycles + 1 :=
      cycles_of_ok (h k (Nat.lt_succ_self k))
    rw [after_succ, hk, ih fun j hj => h j (Nat.lt_succ_of_lt hj), UInt64.ofNat_add, UInt64.add_assoc]
    rfl

/-- What the observer of the first `k` steps has noted. -/
def told {α : Type} (c : Computer) (sink : σ) (observe : α → Moment → α) (notes : α) (k : Nat) : α :=
  ((List.range k).map (c.momentAt sink)).foldl observe notes

theorem told_step {α : Type} (observe : α → Moment → α) (notes : α) (k : Nat) :
    (c.step sink).computer.told (c.step sink).sink observe (observe notes (c.momentAt sink 0)) k =
      c.told sink observe notes (k + 1) := by
  have hm : (c.step sink).computer.momentAt (c.step sink).sink = c.momentAt sink ∘ Nat.succ := by
    funext j
    exact momentAt_step j
  rw [told, told, List.range_succ_eq_map, List.map_cons, List.foldl_cons, List.map_map, hm]

theorem told_count (m k : Nat) : c.told sink (fun n _ => n + 1) m k = m + k := by
  induction k with
  | zero => rfl
  | succ k ih => rw [told, List.range_succ, List.map_append, List.foldl_append, ← told, ih]; rfl

end Steps

/-! ## How a loop ends -/

section Loops

variable {σ : Type} [Sink σ]

/-- How a loop ends of which the observer has been told about `k` steps. It had counted some steps
before. -/
inductive Ends (c : Computer) (sink : σ) (limit : Option UInt64) (patience : Nat) (steps : UInt64)
    (k : Nat) {α : Type} (notes : α) (run : Run σ α) : Prop
  /-- The machine has halted. -/
  | halted (succeeded : c.Succeeds sink k) (state : (c.after sink k).1.state = .halted)
    (run_eq : run = ⟨(c.after sink k).1, (c.after sink k).2, some (.ok ()), notes,
      steps + UInt64.ofNat k⟩)
  /-- The limit stops the machine. -/
  | stopped (succeeded : c.Succeeds sink k) (state : (c.after sink k).1.state = .running)
    (reached : limit.any (· ≤ steps + UInt64.ofNat k) = true)
    (run_eq : run = ⟨{ (c.after sink k).1 with state := .halted }, (c.after sink k).2,
      some (.error (.stepLimit (steps + UInt64.ofNat k))), notes, steps + UInt64.ofNat k⟩)
  /-- The machine is left running. -/
  | left (succeeded : c.Succeeds sink k) (state : (c.after sink k).1.state = .running)
    (worn : k = patience)
    (unreached : limit.any (· ≤ steps + UInt64.ofNat k) = false)
    (run_eq : run = ⟨(c.after sink k).1, (c.after sink k).2, none, notes, steps + UInt64.ofNat k⟩)
  /-- The last step has failed. -/
  | failed {j : Nat} {fault : Fault} (last : k = j + 1) (succeeded : c.Succeeds sink j)
    (result : (c.stepAt sink j).result = .error fault)
    (run_eq : run = ⟨(c.stepAt sink j).computer, (c.stepAt sink j).sink, some (.error fault), notes,
      steps + UInt64.ofNat j⟩)

variable {c : Computer} {sink : σ}

theorem steps_succ (steps : UInt64) (k : Nat) :
    steps + 1 + UInt64.ofNat k = steps + UInt64.ofNat (k + 1) := by
  rw [UInt64.ofNat_add, UInt64.add_assoc, UInt64.add_comm 1]
  rfl

/-- A loop ends as the loop does that follows its first step. -/
theorem Ends.of_step {limit : Option UInt64} {patience k : Nat} {steps : UInt64} {α : Type}
    {notes : α} {run : Run σ α} (h0 : (c.step sink).result = .ok ())
    (h : (c.step sink).computer.Ends (c.step sink).sink limit patience (steps + 1) k notes run) :
    c.Ends sink limit (patience + 1) steps (k + 1) notes run := by
  cases h with
  | halted succeeded state run_eq =>
    rw [after_step] at state run_eq
    rw [steps_succ] at run_eq
    exact .halted (succeeds_succ h0 succeeded) state run_eq
  | stopped succeeded state reached run_eq =>
    rw [after_step] at state run_eq
    rw [steps_succ] at reached run_eq
    exact .stopped (succeeds_succ h0 succeeded) state reached run_eq
  | left succeeded state worn unreached run_eq =>
    rw [after_step] at state run_eq
    rw [steps_succ] at unreached run_eq
    exact .left (succeeds_succ h0 succeeded) state (by rw [worn]) unreached run_eq
  | failed last succeeded result run_eq =>
    rw [stepAt_step] at result run_eq
    rw [steps_succ] at run_eq
    exact .failed (by rw [last]) (succeeds_succ h0 succeeded) result run_eq

/-- A loop that does not begin with a step is over at once. -/
theorem ends_zero_or (limit : Option UInt64) (patience : Nat) (steps : UInt64) (c : Computer)
    (sink : σ) :
    (∀ (α : Type) (observe : α → Moment → α) (notes : α),
        c.Ends sink limit patience steps 0 notes
          (c.runFrom observe limit patience steps notes sink)) ∨
      c.state = .running ∧ limit.any (· ≤ steps) = false ∧ patience ≠ 0 := by
  have h0 : steps + UInt64.ofNat 0 = steps := UInt64.add_zero steps
  cases h : c.state with
  | halted =>
    refine Or.inl fun α observe notes => .halted succeeds_zero h ?_
    rw [runFrom_of_halted h, h0]
    rfl
  | running =>
    cases hl : limit.any (· ≤ steps) with
    | true =>
      refine Or.inl fun α observe notes => .stopped succeeds_zero h (by rw [h0]; exact hl) ?_
      rw [runFrom_of_reached h hl, h0]
      rfl
    | false =>
      by_cases hp : patience = 0
      · subst hp
        refine Or.inl fun α observe notes => .left succeeds_zero h rfl (by rw [h0]; exact hl) ?_
        rw [runFrom_zero h hl, h0]
        rfl
      · exact Or.inr ⟨rfl, rfl, hp⟩

/-- **Every loop ends in one of four ways**, and the observer sees none but its steps. -/
theorem runFrom_ends (limit : Option UInt64) (patience : Nat) (steps : UInt64) (c : Computer)
    (sink : σ) :
    ∃ k ≤ patience, (∀ j < k, (c.after sink j).1.state = .running) ∧
      ∀ (α : Type) (observe : α → Moment → α) (notes : α),
        c.Ends sink limit patience steps k (c.told sink observe notes k)
          (c.runFrom observe limit patience steps notes sink) := by
  -- The number of steps has to be the same for all observers, so it is found before they are.
  induction patience generalizing steps c sink with
  | zero =>
    obtain h | ⟨_, _, hp⟩ := ends_zero_or limit 0 steps c sink
    · exact ⟨0, Nat.le_refl 0, fun j hj => absurd hj (Nat.not_lt_zero j), h⟩
    · exact absurd rfl hp
  | succ patience ih =>
    obtain h | ⟨hs, hl, _⟩ := ends_zero_or limit (patience + 1) steps c sink
    · exact ⟨0, Nat.zero_le _, fun j hj => absurd hj (Nat.not_lt_zero j), h⟩
    · cases hr : (c.step sink).result with
      | error fault =>
        refine ⟨1, by omega, fun j hj => ?_, fun α observe notes => ?_⟩
        · rw [Nat.lt_one_iff.mp hj]
          exact hs
        · refine .failed rfl succeeds_zero hr ?_
          rw [runFrom_of_error hs hl hr, show steps + UInt64.ofNat 0 = steps from UInt64.add_zero steps]
          rfl
      | ok =>
        obtain ⟨k, hk, hrunning, hends⟩ := ih (steps + 1) (c.step sink).computer (c.step sink).sink
        refine ⟨k + 1, by omega, fun j hj => ?_, fun α observe notes => ?_⟩
        · cases j with
          | zero => exact hs
          | succ j =>
            rw [← after_step]
            exact hrunning j (by omega)
        · rw [runFrom_of_ok hs hl hr, ← told_step]
          exact (hends α observe _).of_step hr

end Loops

/-! ## Reading the ending off the steps -/

section Endings

variable {σ : Type} [Sink σ] {c : Computer} {sink : σ} {limit : Option UInt64} {patience : Nat}
  {steps : UInt64} {k : Nat} {α : Type} {notes : α} {run : Run σ α}

theorem Ends.notes_eq (h : c.Ends sink limit patience steps k notes run) : run.notes = notes := by
  cases h with
  | halted _ _ run_eq | stopped _ _ _ run_eq | left _ _ _ _ run_eq | failed _ _ _ run_eq =>
    rw [run_eq]

theorem Ends.sink_eq (h : c.Ends sink limit patience steps k notes run) :
    run.sink = (c.after sink k).2 := by
  cases h with
  | halted _ _ run_eq | stopped _ _ _ run_eq | left _ _ _ _ run_eq => rw [run_eq]
  | failed last _ _ run_eq => rw [run_eq, last, after_succ]

/-- A run that the limit does not stop leaves the computer as its steps do. -/
theorem Ends.computer_eq (h : c.Ends sink limit patience steps k notes run)
    (hr : ∀ s, run.result ≠ some (.error (.stepLimit s))) : run.computer = (c.after sink k).1 := by
  cases h with
  | halted _ _ run_eq | left _ _ _ _ run_eq => rw [run_eq]
  | stopped _ _ _ run_eq => exact absurd (by rw [run_eq]) (hr _)
  | failed last _ _ run_eq => rw [run_eq, last, after_succ]

theorem Ends.computer_of_stepLimit (h : c.Ends sink limit patience steps k notes run) {s : UInt64}
    (hr : run.result = some (.error (.stepLimit s))) :
    run.computer = { (c.after sink k).1 with state := .halted } := by
  cases h with
  | halted _ _ run_eq | left _ _ _ _ run_eq => simp [run_eq] at hr
  | stopped _ _ _ run_eq => rw [run_eq]
  | failed _ _ result run_eq =>
    rw [run_eq] at hr
    exact absurd (result.trans (Option.some.inj hr)) result_ne_stepLimit

theorem Ends.counters_eq (h : c.Ends sink limit patience steps k notes run) :
    run.computer.cycles = c.cycles + UInt64.ofNat (c.successes sink k) ∧
      run.steps = steps + UInt64.ofNat (c.successes sink k) := by
  cases h with
  | halted succeeded _ run_eq | stopped succeeded _ _ run_eq | left succeeded _ _ _ run_eq =>
    rw [successes_eq succeeded, run_eq]
    exact ⟨cycles_after succeeded, rfl⟩
  | failed last succeeded result run_eq =>
    rw [last, successes_of_error succeeded result, run_eq]
    exact ⟨(cycles_of_error result).1.trans (cycles_after succeeded), rfl⟩

theorem Ends.succeeds (h : c.Ends sink limit patience steps k notes run) :
    c.Succeeds sink (k - 1) := by
  cases h with
  | halted succeeded _ _ | stopped succeeded _ _ _ | left succeeded _ _ _ _ =>
    exact fun j hj => succeeded j (by omega)
  | failed last succeeded _ _ =>
    rw [last]
    exact succeeded

theorem Ends.ok_iff (h : c.Ends sink limit patience steps k notes run) :
    run.result = some (.ok ()) ↔
      c.Succeeds sink k ∧ (c.after sink k).1.state = .halted := by
  cases h with
  | halted succeeded state run_eq => simp [run_eq, state, succeeded]
  | stopped _ state _ run_eq | left _ state _ _ run_eq => simp [run_eq, state]
  | failed last _ result run_eq =>
    subst last
    simp [run_eq, not_succeeds_of_error result]

theorem Ends.stepLimit_iff (h : c.Ends sink limit patience steps k notes run) {s : UInt64} :
    run.result = some (.error (.stepLimit s)) ↔
      c.Succeeds sink k ∧ (c.after sink k).1.state = .running ∧
        limit.any (· ≤ steps + UInt64.ofNat k) = true ∧ s = steps + UInt64.ofNat k := by
  cases h with
  | halted _ state run_eq => simp [run_eq, state]
  | stopped succeeded state reached run_eq => simp [run_eq, state, succeeded, reached, eq_comm]
  | left _ _ _ unreached run_eq => simp [run_eq, unreached]
  | failed last _ result run_eq =>
    subst last
    simp only [run_eq, not_succeeds_of_error result, false_and, iff_false]
    intro hs
    exact result_ne_stepLimit (result.trans (Option.some.inj hs))

theorem Ends.error_iff (h : c.Ends sink limit patience steps k notes run) {fault : Fault}
    (hf : ∀ s, fault ≠ .stepLimit s) :
    run.result = some (.error fault) ↔
      ∃ j, k = j + 1 ∧ c.Succeeds sink j ∧ (c.stepAt sink j).result = .error fault := by
  constructor
  · intro hr
    cases h with
    | halted _ _ run_eq | left _ _ _ _ run_eq => simp [run_eq] at hr
    | stopped _ _ _ run_eq =>
      simp only [run_eq, Option.some.injEq, Except.error.injEq] at hr
      exact absurd hr.symm (hf _)
    | failed last succeeded result run_eq =>
      simp only [run_eq, Option.some.injEq] at hr
      exact ⟨_, last, succeeded, result.trans hr⟩
  · rintro ⟨j, rfl, _, hj⟩
    cases h with
    | halted succeeded _ _ | stopped succeeded _ _ _ | left succeeded _ _ _ _ =>
      exact absurd succeeded (not_succeeds_of_error hj)
    | failed last _ result run_eq =>
      obtain rfl := Nat.succ.inj last
      rw [run_eq, ← hj, result]

theorem Ends.none_iff (h : c.Ends sink limit patience steps k notes run) :
    run.result = none ↔
      c.Succeeds sink k ∧ (c.after sink k).1.state = .running ∧ k = patience ∧
        limit.any (· ≤ steps + UInt64.ofNat k) = false := by
  cases h with
  | halted _ state run_eq => simp [run_eq, state]
  | stopped _ _ reached run_eq => simp [run_eq, reached]
  | left succeeded state worn unreached run_eq =>
    subst worn
    simp [run_eq, succeeded, state, unreached]
  | failed last _ result run_eq =>
    subst last
    simp [run_eq, not_succeeds_of_error result]

end Endings

/-! ## Counted runs -/

section Counted

variable {σ : Type} [Sink σ]

/-- The number of steps that a run may make. -/
def allowance (patience : Nat) (limit : Option UInt64) : Nat := limit.elim patience UInt64.toNat

/-- The number of steps that the observer of a run is told about. -/
def inspections (c : Computer) (patience : Nat) (limit : Option UInt64) (sink : σ) : Nat :=
  (c.runWith (fun n _ => n + 1) patience limit 0 sink).notes

/-- Both counters have grown by `m`, unless one has passed its end. -/
def Grown {α : Type} (c : Computer) (m : Nat) (run : Run σ α) : Prop :=
  (c.cycles.toNat + m < 2 ^ 64 → run.computer.cycles.toNat = c.cycles.toNat + m) ∧
    (m < 2 ^ 64 → run.steps.toNat = m)

/-- What the number `k` of steps that the observer was told about tells about a run. -/
structure Counted {α : Type} (c : Computer) (sink : σ) (patience : Nat) (limit : Option UInt64)
    (observe : α → Moment → α) (notes : α) (k : Nat) (run : Run σ α) : Prop where
  /-- The observer was told about the first `k` steps in their order. -/
  told : run.notes = ((List.range k).map (c.momentAt sink)).foldl observe notes
  /-- They were made by a running computer. -/
  running : ∀ j < k, (c.after sink j).1.state = .running
  /-- All but the last have succeeded. -/
  succeeded : ∀ j, j + 1 < k → (c.stepAt sink j).result = .ok ()
  /-- A halted computer makes no step. -/
  of_halted : c.state = .halted →
    k = 0 ∧ run.computer = c ∧ run.sink = sink ∧ run.result = some (.ok ())
  /-- The run succeeds if the last step has reached a halt. -/
  ok_iff : c.state = .running →
    (run.result = some (.ok ()) ↔
      ∃ j, k = j + 1 ∧ (c.stepAt sink j).result = .ok () ∧
        (c.stepAt sink j).computer.state = .halted)
  of_ok : c.state = .running → run.result = some (.ok ()) →
    run.computer = (c.after sink k).1 ∧ run.sink = (c.after sink k).2 ∧
      run.computer.registers.pc = 0 ∧ c.Grown k run
  /-- The limit stops a run all of whose steps have succeeded, and changes nothing but the state. -/
  stepLimit_iff : ∀ s, run.result = some (.error (.stepLimit s)) ↔
    c.Succeeds sink k ∧ (c.after sink k).1.state = .running ∧ limit = some s ∧ k = s.toNat
  of_stepLimit : ∀ s, run.result = some (.error (.stepLimit s)) →
    run.computer = { (c.after sink k).1 with state := .halted } ∧ run.sink = (c.after sink k).2 ∧
      c.Grown k run
  /-- Any other fault is the one of the last step. -/
  error_iff : ∀ fault, (∀ s, fault ≠ .stepLimit s) →
    (run.result = some (.error fault) ↔
      ∃ j, k = j + 1 ∧ c.Succeeds sink j ∧ (c.stepAt sink j).result = .error fault)
  of_error : ∀ fault, (∀ s, fault ≠ .stepLimit s) → run.result = some (.error fault) →
    run.computer = (c.after sink k).1 ∧ run.sink = (c.after sink k).2 ∧ c.Grown (k - 1) run
  /-- Only a run without a limit is left unfinished. -/
  none_iff : run.result = none ↔
    c.Succeeds sink k ∧ (c.after sink k).1.state = .running ∧ limit = none ∧ k = patience
  /-- A run with a limit ends, and its counter holds the number of steps that have succeeded. -/
  bounded : ∀ max, limit = some max →
    k ≤ max.toNat ∧ run.result ≠ none ∧ run.steps.toNat = c.successes sink k
  /-- A halt within the allowance is reached, also with the very last step. -/
  halts_at : ∀ n ≤ allowance patience limit, c.Succeeds sink n →
    (c.after sink n).1.state = .halted → k = n ∧ run.result = some (.ok ())

variable {c : Computer} {sink : σ} {limit : Option UInt64} {patience k : Nat}

theorem runWith_eq {α : Type} (observe : α → Moment → α) (patience : Nat) (limit : Option UInt64)
    (notes : α) (c : Computer) (sink : σ) :
    c.runWith observe patience limit notes sink =
      c.runFrom observe limit (allowance patience limit) 0 notes sink := by
  cases limit <;> rfl

/-- The limit stops a run exactly when the allowance is used up. -/
theorem reached_iff (hk : k ≤ allowance patience limit) :
    limit.any (· ≤ 0 + UInt64.ofNat k) = true ↔ ∃ max, limit = some max ∧ k = max.toNat := by
  cases limit with
  | none => simp
  | some max =>
    have hlt := max.toNat_lt
    have hk : k ≤ max.toNat := hk
    have hmod : k % 2 ^ 64 = k := Nat.mod_eq_of_lt (by omega)
    simp only [Option.any_some, UInt64.zero_add, decide_eq_true_eq, UInt64.le_iff_toNat_le,
      UInt64.toNat_ofNat', hmod, Option.some.injEq, exists_eq_left']
    omega

theorem reached_at_iff (hk : k ≤ allowance patience limit) {s : UInt64} :
    limit.any (· ≤ 0 + UInt64.ofNat k) = true ∧ s = 0 + UInt64.ofNat k ↔
      limit = some s ∧ k = s.toNat := by
  rw [reached_iff hk, UInt64.zero_add]
  constructor
  · rintro ⟨⟨max, hl, rfl⟩, hs⟩
    rw [UInt64.ofNat_toNat] at hs
    exact ⟨hs ▸ hl, by rw [hs]⟩
  · rintro ⟨hl, rfl⟩
    exact ⟨⟨s, hl, rfl⟩, UInt64.ofNat_toNat.symm⟩

theorem unreached_iff (hk : k ≤ allowance patience limit) :
    k = allowance patience limit ∧ limit.any (· ≤ 0 + UInt64.ofNat k) = false ↔
      limit = none ∧ k = patience := by
  rw [← Bool.not_eq_true, reached_iff hk]
  cases limit with
  | none => simp [allowance]
  | some max => simp [allowance]

/-- **Every run ends in one of four ways** after so many steps as its observer is told about. -/
theorem runWith_ends (patience : Nat) (limit : Option UInt64) (c : Computer) (sink : σ) :
    c.inspections patience limit sink ≤ allowance patience limit ∧
      (∀ j < c.inspections patience limit sink, (c.after sink j).1.state = .running) ∧
      ∀ (α : Type) (observe : α → Moment → α) (notes : α),
        c.Ends sink limit (allowance patience limit) 0 (c.inspections patience limit sink)
          (c.told sink observe notes (c.inspections patience limit sink))
          (c.runWith observe patience limit notes sink) := by
  obtain ⟨k, hk, hrunning, hends⟩ := runFrom_ends limit (allowance patience limit) 0 c sink
  have hi : c.inspections patience limit sink = k := by
    rw [inspections, runWith_eq, (hends Nat _ 0).notes_eq, told_count, Nat.zero_add]
  rw [hi]
  refine ⟨hk, hrunning, fun α observe notes => ?_⟩
  rw [runWith_eq]
  exact hends α observe notes

section Endings

variable {α : Type} {notes : α} {run : Run σ α}

theorem Ends.grown {m : Nat} (h : c.Ends sink limit patience 0 k notes run)
    (hm : c.successes sink k = m) : c.Grown m run := by
  obtain ⟨hcycles, hsteps⟩ := h.counters_eq
  rw [hm] at hcycles hsteps
  constructor
  · intro hlt
    rw [hcycles, UInt64.toNat_add, UInt64.toNat_ofNat', Nat.add_mod_mod]
    exact Nat.mod_eq_of_lt hlt
  · intro hlt
    rw [hsteps, UInt64.zero_add, UInt64.toNat_ofNat']
    exact Nat.mod_eq_of_lt hlt

/-- A run ends well if its last step has reached a halt. -/
theorem Ends.ok_iff_last (h : c.Ends sink limit patience 0 k notes run) (hs : c.state = .running) :
    run.result = some (.ok ()) ↔
      ∃ j, k = j + 1 ∧ (c.stepAt sink j).result = .ok () ∧
        (c.stepAt sink j).computer.state = .halted := by
  rw [h.ok_iff]
  constructor
  · rintro ⟨hk, hh⟩
    cases k with
    | zero => exact absurd (hs.symm.trans hh) (by decide)
    | succ j =>
      rw [after_succ] at hh
      exact ⟨j, rfl, hk j (Nat.lt_succ_self j), hh⟩
  · rintro ⟨j, rfl, hj, hh⟩
    refine ⟨fun i hi => ?_, by rw [after_succ]; exact hh⟩
    obtain hlt | rfl := Nat.lt_succ_iff_lt_or_eq.mp hi
    · exact h.succeeds i hlt
    · exact hj

/-- A halt that the allowance suffices for is where the run ends. -/
theorem Ends.of_halt (h : c.Ends sink limit patience 0 k notes run)
    (hk : limit.any (· ≤ 0 + UInt64.ofNat k) = true → patience ≤ k)
    (hrunning : ∀ j < k, (c.after sink j).1.state = .running) {n : Nat} (hn : n ≤ patience)
    (hs : c.Succeeds sink n) (hh : (c.after sink n).1.state = .halted) :
    k = n ∧ run.result = some (.ok ()) := by
  -- No step is made after the halt, and before it neither the limit nor the patience stops the run.
  have hle : k ≤ n := by
    by_contra hlt
    exact absurd ((hrunning n (by omega)).symm.trans hh) (by decide)
  have hge : n ≤ k := by
    by_contra hlt
    have hok := hs k (by omega)
    cases h with
    | halted _ state _ => exact absurd ((running_of_ok hok).symm.trans state) (by decide)
    | stopped _ _ reached _ => exact absurd (hk reached) (by omega)
    | left _ _ worn _ _ => omega
    | failed last _ result _ =>
      rw [hs _ (by omega)] at result
      cases result
  obtain rfl : k = n := by omega
  exact ⟨rfl, h.ok_iff.mpr ⟨hs, hh⟩⟩

end Endings

/-- **A run is its steps, exactly counted.** Whatever it starts from and whatever its limit is, the
number of steps that its observer was told about tells how it ended, and where. -/
theorem runWith_counted {α : Type} (c : Computer) (sink : σ) (patience : Nat)
    (limit : Option UInt64) (observe : α → Moment → α) (notes : α) :
    c.Counted sink patience limit observe notes (c.inspections patience limit sink)
      (c.runWith observe patience limit notes sink) := by
  obtain ⟨hk, hrunning, hends⟩ := runWith_ends patience limit c sink
  have h := hends α observe notes
  generalize c.inspections patience limit sink = k at hk hrunning h
  generalize c.runWith observe patience limit notes sink = run at h
  refine ⟨h.notes_eq, hrunning, fun j hj => h.succeeds j (by omega), ?_, h.ok_iff_last, ?_, ?_, ?_,
    fun fault hf => h.error_iff hf, ?_, ?_, ?_, ?_⟩
  · intro hs
    have hk0 : k = 0 := by
      by_contra hne
      exact absurd ((hrunning 0 (by omega)).symm.trans hs) (by decide)
    subst hk0
    have hr : run.result = some (.ok ()) := h.ok_iff.mpr ⟨succeeds_zero, hs⟩
    exact ⟨rfl, h.computer_eq fun s => by simp [hr], h.sink_eq, hr⟩
  · intro hs hr
    have hc := h.computer_eq fun s => by simp [hr]
    refine ⟨hc, h.sink_eq, ?_, h.grown (successes_eq (h.ok_iff.mp hr).1)⟩
    obtain ⟨j, rfl, hj, hh⟩ := (h.ok_iff_last hs).mp hr
    rw [hc, after_succ]
    exact pc_of_halted hj hh
  · intro s
    rw [h.stepLimit_iff, reached_at_iff hk]
  · intro s hr
    exact ⟨h.computer_of_stepLimit hr, h.sink_eq, h.grown (successes_eq (h.stepLimit_iff.mp hr).1)⟩
  · intro fault hf hr
    refine ⟨h.computer_eq fun s hs => ?_, h.sink_eq, h.grown ?_⟩
    · rw [hr] at hs
      exact hf s (by simpa using hs)
    · obtain ⟨j, rfl, hj, he⟩ := (h.error_iff hf).mp hr
      exact successes_of_error hj he
  · rw [h.none_iff, unreached_iff hk]
  · rintro max rfl
    refine ⟨hk, fun hr => ?_, (h.grown rfl).2 ?_⟩
    · exact absurd ((unreached_iff hk).mp (h.none_iff.mp hr).2.2).1 (by simp)
    · have hm := max.toNat_lt
      have hle := c.successes_le sink k
      have hk : k ≤ max.toNat := hk
      omega
  · intro n hn hs hh
    refine h.of_halt (fun hr => ?_) hrunning hn hs hh
    obtain ⟨max, rfl, hm⟩ := (reached_iff hk).mp hr
    exact Nat.le_of_eq hm.symm

end Counted

end LS8.Computer
