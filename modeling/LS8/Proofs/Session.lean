import LS8.Proofs.Run

/-!
# Sessions

A computer is used by calls of the engine, each with a sink of its own, and between them its
registers, its memory and its counter are open to the outside. Its state is not: a computer that has
stopped has stopped for good. Nor does a call ever write to the memory.

* `Call`, `Reply`, `Computer.call`: the calls of the engine and what becomes of them;
* `Action`, `Computer.act`, `Computer.session`: calls and writes, one after the other;
* `memory_runWith`, `state_of_ended`, `runWith_of_halted`: what a run keeps, and where it ends;
* `call_eq`, **`memory_call`**: every call is a step, a run or a trace, and keeps the memory;
* **`memory_session`**, **`session_of_halted`**: the calls of a session have no part in its memory,
  and those to a halted computer have no part in it at all;
* **`session_terminal`**: halted is for good, and the engine never writes to the memory.
-/

set_option autoImplicit false

namespace LS8

/-! ## Calls -/

/-- A call of the engine. A run without a limit may have no end, so it is looked at after so many
steps. -/
inductive Call
  | step
  | run (patience : Nat)
  | runWithLimit (limit : UInt64)
  | runWith (patience : Nat) (limit : Option UInt64)
  | trace

/-- What a call answers. -/
inductive Answer
  | result (result : Except Fault Unit)
  | line (text : String)
  /-- The call is not over yet. -/
  | unfinished

/-- What became of a call. -/
structure Reply (σ : Type) where
  computer : Computer
  sink : σ
  answer : Answer
  /-- The computers that were inspected, each before a step. -/
  inspected : List Computer

/-- What became of the call that made a run. -/
def Reply.ofRun {σ : Type} (run : Run σ (List Computer)) : Reply σ :=
  ⟨run.computer, run.sink, run.result.elim .unfinished .result, run.notes⟩

/-- Something that is done with a computer. -/
inductive Action : Type 1
  /-- The engine is called, with a sink of any type. -/
  | call {σ : Type} [Sink σ] (call : Call) (sink : σ)
  /-- All that is open to the outside is written to. -/
  | write (registers : Registers) (memory : Memory) (cycles : UInt64)

/-- Whether an action is a write. -/
def Action.isWrite : Action → Bool
  | @call _ _ _ _ => false
  | write _ _ _ => true

namespace Computer

/-- What becomes of a call. Only a run with an observer has its computers inspected. -/
def call {σ : Type} [Sink σ] (c : Computer) (sink : σ) : Call → Reply σ
  | .step => ⟨(c.step sink).computer, (c.step sink).sink, .result (c.step sink).result, []⟩
  | .run patience => .ofRun (c.runFor (fun seen _ => seen) patience [] sink)
  | .runWithLimit limit => .ofRun (c.runWithLimit (fun seen _ => seen) limit [] sink)
  | .runWith patience limit =>
    .ofRun (c.runWith (fun seen moment => seen ++ [moment.before]) patience limit [] sink)
  | .trace => ⟨c, sink, .line c.trace, []⟩

/-- The computer after an action. -/
def act (c : Computer) : Action → Computer
  | @Action.call _ _ call sink => (c.call sink call).computer
  | .write registers memory cycles => { c with registers, memory, cycles }

/-- The computer after a session, action by action. -/
def session (c : Computer) (actions : List Action) : Computer := actions.foldl act c

/-! ## Runs -/

section Runs

variable {σ α : Type} [Sink σ] {observe : α → Moment → α} {patience : Nat} {limit : Option UInt64}
  {notes : α} {c : Computer} {sink : σ}

theorem memory_runWith (observe : α → Moment → α) (patience : Nat) (limit : Option UInt64)
    (notes : α) (c : Computer) (sink : σ) :
    (c.runWith observe patience limit notes sink).computer.memory = c.memory := by
  obtain ⟨_, _, hends⟩ := runWith_ends patience limit c sink
  cases hends α observe notes with
  | halted _ _ run_eq | stopped _ _ _ run_eq | left _ _ _ _ run_eq =>
    rw [run_eq]
    exact memory_after c sink _
  | @failed j _ _ _ _ run_eq =>
    rw [run_eq, stepAt, step_memory]
    exact memory_after c sink j

/-- A run that is over has stopped the computer, however it ended. -/
theorem state_of_ended {result : Except Fault Unit}
    (h : (c.runWith observe patience limit notes sink).result = some result) :
    (c.runWith observe patience limit notes sink).computer.state = .halted := by
  obtain ⟨_, _, hends⟩ := runWith_ends patience limit c sink
  cases hends α observe notes with
  | halted _ state run_eq =>
    rw [run_eq]
    exact state
  | stopped _ _ _ run_eq => rw [run_eq]
  | left _ _ _ _ run_eq =>
    rw [run_eq] at h
    cases h
  | failed _ _ hfault run_eq =>
    rw [run_eq]
    exact (cycles_of_error hfault).2

/-- A halted computer makes no step, and nothing is inspected. -/
theorem runWith_of_halted (observe : α → Moment → α) (patience : Nat) (limit : Option UInt64)
    (notes : α) (h : c.state = .halted) (sink : σ) :
    c.runWith observe patience limit notes sink = ⟨c, sink, some (.ok ()), notes, 0⟩ := by
  rw [runWith_eq, runFrom_of_halted h]

end Runs

/-! ## One call -/

section Calls

variable {σ : Type} [Sink σ] {c : Computer} {sink : σ} {call : Call}

/-- **Every call is a step, a run or a trace.** -/
theorem call_eq (c : Computer) (sink : σ) (call : Call) :
    call = .step ∨ call = .trace ∨ ∃ observe patience limit,
      c.call sink call = .ofRun (c.runWith observe patience limit [] sink) := by
  cases call with
  | step => exact Or.inl rfl
  | trace => exact Or.inr (Or.inl rfl)
  | run patience => exact Or.inr (Or.inr ⟨_, patience, none, rfl⟩)
  | runWithLimit limit => exact Or.inr (Or.inr ⟨_, 0, some limit, rfl⟩)
  | runWith patience limit => exact Or.inr (Or.inr ⟨_, patience, limit, rfl⟩)

/-- **No call writes to the memory.** -/
theorem memory_call (c : Computer) (sink : σ) (call : Call) :
    (c.call sink call).computer.memory = c.memory := by
  obtain rfl | rfl | ⟨observe, patience, limit, h⟩ := c.call_eq sink call
  · exact c.step_memory sink
  · rfl
  · rw [h]
    exact memory_runWith observe patience limit [] c sink

omit [Sink σ] in
theorem ended_of_answer {run : Run σ (List Computer)} {result : Except Fault Unit}
    (h : (Reply.ofRun run).answer = .result result) : run.result = some result := by
  rw [Reply.ofRun] at h
  cases hr : run.result with
  | none =>
    rw [hr] at h
    cases h
  | some r =>
    rw [hr] at h
    cases h
    rfl

/-- A call that fails has stopped the computer. -/
theorem state_of_failed {fault : Fault} (h : (c.call sink call).answer = .result (.error fault)) :
    (c.call sink call).computer.state = .halted := by
  obtain rfl | rfl | ⟨observe, patience, limit, he⟩ := c.call_eq sink call
  · cases hr : (c.step sink).result with
    | ok =>
      rw [Computer.call, hr] at h
      cases h
    | error fault' => exact (cycles_of_error hr).2
  · cases h
  · rw [he] at h ⊢
    exact state_of_ended (ended_of_answer h)

/-- A call other than a single step that succeeds has come to a halt. -/
theorem state_of_succeeded (hcall : call ≠ .step)
    (h : (c.call sink call).answer = .result (.ok ())) :
    (c.call sink call).computer.state = .halted := by
  obtain rfl | rfl | ⟨observe, patience, limit, he⟩ := c.call_eq sink call
  · exact absurd rfl hcall
  · cases h
  · rw [he] at h ⊢
    exact state_of_ended (ended_of_answer h)

theorem state_of_hlt (h : Instruction.decode c.upcoming = .ok .hlt) :
    (c.step sink).computer.state = .halted := by
  cases hs : c.state with
  | halted => rw [step_of_halted hs, hs]
  | running =>
    rw [(Step.outcome_eq_iff.mp (outcome_of_decode_ok hs h)).1]
    rfl

/-- What a halted computer answers. -/
def answerOfHalted (c : Computer) : Call → Answer
  | .step => .result (.error .halted)
  | .run _ | .runWithLimit _ | .runWith _ _ => .result (.ok ())
  | .trace => .line c.trace

/-- **A call to a halted computer** changes neither the computer nor the sink. -/
theorem call_of_halted (h : c.state = .halted) (sink : σ) (call : Call) :
    c.call sink call = ⟨c, sink, c.answerOfHalted call, []⟩ := by
  cases call with
  | step => rw [Computer.call, step_of_halted h]; rfl
  | run patience => exact congrArg Reply.ofRun (runWith_of_halted _ patience none [] h sink)
  | runWithLimit limit => exact congrArg Reply.ofRun (runWith_of_halted _ 0 (some limit) [] h sink)
  | runWith patience limit =>
    exact congrArg Reply.ofRun (runWith_of_halted _ patience limit [] h sink)
  | trace => rfl

end Calls

/-! ## Whole sessions -/

section Sessions

variable {c c' : Computer}

/-- **The memory after a session is what the writes have made of it.** -/
theorem memory_session (h : c'.memory = c.memory) (actions : List Action) :
    (c.session actions).memory = (c'.session (actions.filter Action.isWrite)).memory := by
  induction actions generalizing c c' with
  | nil => exact h.symm
  | cons action actions ih =>
    cases action with
    | call call sink =>
      have hc : (c.act (.call call sink)).memory = c.memory := c.memory_call sink call
      rw [List.filter_cons_of_neg (by simp [Action.isWrite])]
      exact ih (h.trans hc.symm)
    | write registers memory cycles =>
      rw [List.filter_cons_of_pos (by rfl)]
      exact ih rfl

/-- **The calls to a halted computer might as well not have been made.** -/
theorem session_of_halted (h : c.state = .halted) (actions : List Action) :
    c.session actions = c.session (actions.filter Action.isWrite) ∧
      (c.session actions).state = .halted := by
  induction actions generalizing c with
  | nil => exact ⟨rfl, h⟩
  | cons action actions ih =>
    cases action with
    | call call sink =>
      have hc : c.act (.call call sink) = c := congrArg Reply.computer (call_of_halted h sink call)
      rw [List.filter_cons_of_neg (by simp [Action.isWrite]), session, List.foldl_cons, hc]
      exact ih h
    | write registers memory cycles =>
      have hw : (c.act (.write registers memory cycles)).state = .halted := h
      rw [List.filter_cons_of_pos (by rfl)]
      exact ih hw

/-- **Halted is for good, and the engine never writes to the memory.** Whatever has been done with
a computer, its memory is what the writes have made of it. A failing call, such as one that exceeds
its limit, leaves the computer halted, and so does `hlt`. From then on only the writes have any
effect: every step is refused, every run succeeds at once with nothing inspected, and the sinks keep
what they hold. -/
theorem session_terminal (c : Computer) (past : List Action) :
    (c.session past).memory = (c.session (past.filter Action.isWrite)).memory ∧
      (∀ {σ : Type} [Sink σ] (sink : σ) (call : Call),
        let s := c.session past
        (s.call sink call).computer.memory = s.memory ∧
        (∀ fault, (s.call sink call).answer = .result (.error fault) →
          (s.call sink call).computer.state = .halted) ∧
        (call ≠ .step → (s.call sink call).answer = .result (.ok ()) →
          (s.call sink call).computer.state = .halted) ∧
        (Instruction.decode s.upcoming = .ok .hlt →
          (s.call sink .step).computer.state = .halted)) ∧
      ((c.session past).state = .halted → ∀ future : List Action,
        let s := (c.session past).session future
        s = (c.session past).session (future.filter Action.isWrite) ∧ s.state = .halted ∧
        ∀ {σ : Type} [Sink σ] (sink : σ),
          s.call sink .step = ⟨s, sink, .result (.error .halted), []⟩ ∧
          (∀ patience, s.call sink (.run patience) = ⟨s, sink, .result (.ok ()), []⟩) ∧
          (∀ limit, s.call sink (.runWithLimit limit) = ⟨s, sink, .result (.ok ()), []⟩) ∧
          (∀ patience limit,
            s.call sink (.runWith patience limit) = ⟨s, sink, .result (.ok ()), []⟩) ∧
          s.call sink .trace = ⟨s, sink, .line s.trace, []⟩) := by
  refine ⟨memory_session rfl past, fun sink call => ?_, fun h future => ?_⟩
  · exact ⟨memory_call _ sink call, fun fault => state_of_failed, state_of_succeeded, state_of_hlt⟩
  · obtain ⟨hwrites, hs⟩ := session_of_halted h future
    exact ⟨hwrites, hs, fun sink => ⟨call_of_halted hs sink .step,
      fun patience => call_of_halted hs sink (.run patience),
      fun limit => call_of_halted hs sink (.runWithLimit limit),
      fun patience limit => call_of_halted hs sink (.runWith patience limit),
      call_of_halted hs sink .trace⟩⟩

end Sessions

end Computer

end LS8
