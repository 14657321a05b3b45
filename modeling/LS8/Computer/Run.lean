import LS8.Computer.Step

/-!
# Runs

A run repeats the step until the machine halts or faults, or until it has made as many steps as its
limit allows. An observer is told about each step: what the computer was before it and what
happened.

* `Moment`, `Run`;
* `Computer.runFrom`: the loop of a run, which counts its steps;
* `Computer.runFor`, `Computer.runWithLimit`: runs of at most so many steps, left unfinished or
  stopped for good after them;
* `Computer.runWith`: a run with an optional limit; without one it may have no end, so it is given a
  number of steps after which it is left unfinished;
* `endless`: more steps than the registers have contents;
* `turn_induction`: induction over the turns of a loop.
-/

set_option autoImplicit false

namespace LS8

/-- One step of a run as an observer sees it. -/
structure Moment where
  /-- The computer before the step. -/
  before : Computer
  /-- What happened in it. -/
  events : List Event

/-- Where a run got to. -/
structure Run (σ α : Type) where
  computer : Computer
  sink : σ
  /-- How the run ended, unless the machine is still running. -/
  result : Option (Except Fault Unit)
  /-- What the observer has noted. -/
  notes : α
  /-- The number of steps that the run has counted. -/
  steps : UInt64

namespace Computer

variable {σ α : Type} [Sink σ]

/-- The loop of a run that has counted some steps and makes at most `patience` more. Each turn looks
at the state, then at the limit, then tells the observer, and then makes the step. A step that fails
is not counted. -/
def runFrom (observe : α → Moment → α) (limit : Option UInt64) :
    Nat → UInt64 → α → Computer → σ → Run σ α
  | patience, steps, notes, c, sink =>
    match c.state with
    | .halted => ⟨c, sink, some (.ok ()), notes, steps⟩
    | .running =>
      if limit.any (· ≤ steps) then
        ⟨{ c with state := .halted }, sink, some (.error (.stepLimit steps)), notes, steps⟩
      else
        match patience with
        | 0 => ⟨c, sink, none, notes, steps⟩
        | patience + 1 =>
          let step := c.step sink
          let notes := observe notes ⟨c, step.events⟩
          match step.result with
          | .ok () => runFrom observe limit patience (steps + 1) notes step.computer step.sink
          | .error fault => ⟨step.computer, step.sink, some (.error fault), notes, steps⟩

/-- A run of at most `n` steps. -/
def runFor (observe : α → Moment → α) (n : Nat) (notes : α) (c : Computer) (sink : σ) : Run σ α :=
  c.runFrom observe none n 0 notes sink

/-- A run that is stopped, for good, once it has made `limit` steps. -/
def runWithLimit (observe : α → Moment → α) (limit : UInt64) (notes : α) (c : Computer)
    (sink : σ) : Run σ α :=
  c.runFrom observe (some limit) limit.toNat 0 notes sink

/-- A run with an optional limit. A run without one is left unfinished after `patience` steps. -/
def runWith (observe : α → Moment → α) (patience : Nat) (limit : Option UInt64) (notes : α)
    (c : Computer) (sink : σ) : Run σ α :=
  match limit with
  | some limit => c.runWithLimit observe limit notes sink
  | none => c.runFor observe patience notes sink

/-! ## The turns of the loop -/

section Turns

variable {observe : α → Moment → α} {limit : Option UInt64} {patience : Nat} {steps : UInt64}
  {notes : α} {c : Computer} {sink : σ}

theorem runFrom_of_halted (h : c.state = .halted) :
    c.runFrom observe limit patience steps notes sink =
      ⟨c, sink, some (.ok ()), notes, steps⟩ := by
  cases patience <;> simp [runFrom, h]

theorem runFrom_of_reached (h : c.state = .running) (hl : limit.any (· ≤ steps) = true) :
    c.runFrom observe limit patience steps notes sink =
      ⟨{ c with state := .halted }, sink, some (.error (.stepLimit steps)), notes, steps⟩ := by
  cases patience <;> simp [runFrom, h, hl]

theorem runFrom_zero (h : c.state = .running) (hl : limit.any (· ≤ steps) = false) :
    c.runFrom observe limit 0 steps notes sink = ⟨c, sink, none, notes, steps⟩ := by
  simp [runFrom, h, hl]

theorem runFrom_of_ok (h : c.state = .running) (hl : limit.any (· ≤ steps) = false)
    (hr : (c.step sink).result = .ok ()) :
    c.runFrom observe limit (patience + 1) steps notes sink =
      (c.step sink).computer.runFrom observe limit patience (steps + 1)
        (observe notes ⟨c, (c.step sink).events⟩) (c.step sink).sink := by
  simp [runFrom, h, hl, hr]

theorem runFrom_of_error (h : c.state = .running) (hl : limit.any (· ≤ steps) = false)
    {fault : Fault} (hr : (c.step sink).result = .error fault) :
    c.runFrom observe limit (patience + 1) steps notes sink =
      ⟨(c.step sink).computer, (c.step sink).sink, some (.error fault),
        observe notes ⟨c, (c.step sink).events⟩, steps⟩ := by
  simp [runFrom, h, hl, hr]

variable (σ) in
@[elab_as_elim]
theorem turn_induction (observe : α → Moment → α) (limit : Option UInt64)
    {motive : Nat → UInt64 → α → Computer → σ → Prop}
    (halted : ∀ patience steps notes (c : Computer) sink, c.state = .halted →
      motive patience steps notes c sink)
    (reached : ∀ patience steps notes (c : Computer) sink, c.state = .running →
      limit.any (· ≤ steps) = true → motive patience steps notes c sink)
    (worn : ∀ steps notes (c : Computer) sink, c.state = .running →
      limit.any (· ≤ steps) = false → motive 0 steps notes c sink)
    (ok : ∀ patience steps notes (c : Computer) sink, c.state = .running →
      limit.any (· ≤ steps) = false → (c.step sink).result = .ok () →
      motive patience (steps + 1) (observe notes ⟨c, (c.step sink).events⟩) (c.step sink).computer
        (c.step sink).sink →
      motive (patience + 1) steps notes c sink)
    (error : ∀ patience steps notes (c : Computer) sink fault, c.state = .running →
      limit.any (· ≤ steps) = false → (c.step sink).result = .error fault →
      motive (patience + 1) steps notes c sink)
    (patience : Nat) (steps : UInt64) (notes : α) (c : Computer) (sink : σ) :
    motive patience steps notes c sink := by
  induction patience generalizing steps notes c sink with
  | zero =>
    cases h : c.state with
    | halted => exact halted 0 steps notes c sink h
    | running =>
      cases hl : limit.any (· ≤ steps) with
      | true => exact reached 0 steps notes c sink h hl
      | false => exact worn steps notes c sink h hl
  | succ patience ih =>
    cases h : c.state with
    | halted => exact halted (patience + 1) steps notes c sink h
    | running =>
      cases hl : limit.any (· ≤ steps) with
      | true => exact reached (patience + 1) steps notes c sink h hl
      | false =>
        cases hr : (c.step sink).result with
        | ok => exact ok patience steps notes c sink h hl hr (ih _ _ _ _)
        | error fault => exact error patience steps notes c sink fault h hl hr

end Turns

end Computer

/-- A number of steps that no machine gets through in its lifetime: one for every contents of the
eight general registers, the program counter and the flags. The memory never changes, so a run that
has made more steps than that has been in one state twice. -/
def endless : Nat := 1 <<< (8 * 10)

end LS8
