import LS8.Proofs.Printing
import Mathlib.Data.List.Chain
import Mathlib.Data.List.Range

/-!
# What the machine tells

A step tells of its instruction before it is carried out, of a halt while it happens, and of the
registers when all is over. So what a run tells can be counted and compared with the computers that
its observer has seen.

* `Event.executing?`, `Event.settled?`, `Event.halting?`: what an event tells;
* `Computer.Tells`, **`step_tells`**: what the events of a step tell;
* `Computer.TellsAll`, **`runWith_tells`**: what the events of a run tell.
-/

set_option autoImplicit false

namespace LS8

namespace Event

/-- The address of an instruction that is about to be executed. -/
def executing? : Event → Option UInt8
  | executing _ pc => some pc
  | _ => none

/-- The registers when a step is over. -/
def settled? : Event → Option Registers
  | settled registers => some registers
  | _ => none

/-- The number of instructions at a halt. -/
def halting? : Event → Option UInt64
  | halting cycles => some cycles
  | _ => none

end Event

/-- The fault of a byte that is no opcode. -/
def Fault.isUnknownOpcode : Fault → Bool
  | .unknownOpcode _ _ => true
  | _ => false

/-- Whether something failed because of a byte that is no opcode. -/
def opcodeRefused {α : Type} : Except Fault α → Bool
  | .error fault => fault.isUnknownOpcode
  | .ok _ => false

theorem opcodeRefused_map {α β : Type} (f : α → β) (x : Except Fault α) :
    opcodeRefused (x.map f) = opcodeRefused x := by
  cases x <;> rfl

theorem opcodeRefused_bind {α β : Type} {x : Except Fault α} {f : α → Except Fault β}
    (hx : opcodeRefused x = false) (hf : ∀ a, opcodeRefused (f a) = false) :
    opcodeRefused (x >>= f) = false := by
  cases x with
  | error fault => exact hx
  | ok a => exact hf a

namespace Computer

/-! ## One step -/

section Steps

variable {σ : Type} {c : Computer}

theorem operand_not_refused (c : Computer) (offset : Nat) :
    opcodeRefused (c.operand offset) = false := by
  rw [operand]
  cases c.memory.read (c.addressAt offset) <;> rfl

theorem registerOperand_not_refused (c : Computer) (offset : Nat) :
    opcodeRefused (c.registerOperand offset) = false := by
  refine opcodeRefused_bind (c.operand_not_refused offset) fun byte => ?_
  cases Register.ofByte byte <;> rfl

/-- Once the opcode is known, no fault calls it unknown. -/
theorem fetchOperands_not_refused (c : Computer) (op : Opcode) :
    opcodeRefused (c.fetchOperands op) = false := by
  have hregister := c.registerOperand_not_refused
  cases op with
  | hlt => rfl
  | ldi =>
    exact opcodeRefused_bind (hregister 1) fun _ =>
      opcodeRefused_bind (c.operand_not_refused 2) fun _ => rfl
  | cmp =>
    exact opcodeRefused_bind (hregister 1) fun _ => opcodeRefused_bind (hregister 2) fun _ => rfl
  | prn | jmp | jeq | jne => exact opcodeRefused_bind (hregister 1) fun _ => rfl

/-- The only fault of an opcode is that it is unknown. -/
theorem isUnknownOpcode_of_fetchOpcode {fault : Fault} (h : c.fetchOpcode = .error fault) :
    fault.isUnknownOpcode = true := by
  obtain ⟨byte, rest, hu⟩ := List.exists_cons_of_ne_nil c.upcoming_ne_nil
  rw [fetchOpcode_eq hu] at h
  split at h
  · cases h
  · rw [← Except.error.inj h]
    rfl

/-- What an instruction tells while it is carried out. -/
structure Amid (c : Computer) (effect : Effect σ) : Prop where
  executing : effect.events.filterMap Event.executing? = []
  settled : effect.events.filterMap Event.settled? = []
  halting : effect.events.filterMap Event.halting? =
    if effect.transition = .ok .halt then [c.cycles + 1] else []
  known : opcodeRefused effect.transition = false

theorem amid_execute [Sink σ] (c : Computer) (sink : σ) (i : Instruction) :
    c.Amid (c.execute sink i) := by
  have hadvance : ∀ registers sink' events, events.filterMap Event.executing? = [] →
      events.filterMap Event.settled? = [] → events.filterMap Event.halting? = [] →
        c.Amid (σ := σ) ⟨registers, sink', c.advance i, events⟩ := by
    intro registers sink' events hexecuting hsettled hhalting
    rw [advance]
    split
    · exact ⟨hexecuting, hsettled, hhalting, rfl⟩
    · exact ⟨hexecuting, hsettled, hhalting, rfl⟩
  have hjump : ∀ r, c.Amid (c.jumping sink r) := fun r => ⟨rfl, rfl, rfl, rfl⟩
  cases i with
  | hlt => exact ⟨rfl, rfl, rfl, rfl⟩
  | ldi | cmp => exact hadvance _ _ _ rfl rfl rfl
  | jmp r => exact hjump r
  | prn r =>
    simp only [execute]
    rcases Sink.emit sink (c.registers.get r) with ⟨sink', _ | cause⟩
    · exact hadvance _ _ _ rfl rfl rfl
    · exact ⟨rfl, rfl, rfl, rfl⟩
  | jeq r =>
    simp only [execute]
    split
    · exact hjump r
    · exact hadvance _ _ _ rfl rfl rfl
  | jne r =>
    simp only [execute]
    split
    · exact hadvance _ _ _ rfl rfl rfl
    · exact hjump r

/-- What the events of a step tell: the instruction unless there is none, a halt if it is one, and
the registers that are left. -/
structure Tells (c : Computer) (s : Step σ) : Prop where
  executing : s.events.filterMap Event.executing? =
    if opcodeRefused s.result then [] else [c.registers.pc]
  settled : s.events.filterMap Event.settled? = [s.computer.registers]
  halting : s.events.filterMap Event.halting? =
    if s.result = .ok () ∧ s.computer.state = .halted then [s.computer.cycles] else []

/-- The end of a step that tells nothing of a halt, or of the one that it comes to. -/
theorem halting_settle (h : c.state = .running) (effect : Effect σ) :
    (if effect.transition = .ok .halt then [c.cycles + 1] else []) =
      if (effect.transition.map fun _ => ()) = .ok () ∧
          (c.settle effect.registers effect.transition).state = .halted then
        [(c.settle effect.registers effect.transition).cycles] else [] := by
  rcases effect.transition with fault | ⟨address⟩ | _
  · simp [Except.map]
  · simp [Except.map, settle, h]
  · simp [Except.map, settle]

/-- **A step tells what it does.** -/
theorem step_tells [Sink σ] (h : c.state = .running) (sink : σ) : c.Tells (c.step sink) := by
  have hstep : c.step sink =
      ⟨c.settle (c.perform sink).registers (c.perform sink).transition, (c.perform sink).sink,
        (c.perform sink).transition.map fun _ => (),
        (c.perform sink).events ++ [.settled
          (c.settle (c.perform sink).registers (c.perform sink).transition).registers]⟩ := by
    simp only [step, h]
  rw [hstep]
  cases ho : c.fetchOpcode with
  | error fault =>
    have hperform : c.perform sink = c.failing sink fault := by simp only [perform, ho]
    have hunknown := isUnknownOpcode_of_fetchOpcode ho
    rw [hperform]
    refine ⟨?_, rfl, ?_⟩
    · exact (if_pos hunknown).symm
    · exact halting_settle h (c.failing sink fault)
  | ok op =>
    have hperform : ∃ effect : Effect σ, c.Amid effect ∧
        c.perform sink =
          { effect with events := .executing op c.registers.pc :: effect.events } := by
      simp only [perform, ho]
      cases hi : c.fetchOperands op with
      | error fault =>
        have hknown := c.fetchOperands_not_refused op
        rw [hi] at hknown
        exact ⟨c.failing sink fault, ⟨rfl, rfl, rfl, hknown⟩, rfl⟩
      | ok i => exact ⟨c.execute sink i, c.amid_execute sink i, rfl⟩
    obtain ⟨effect, hamid, heffect⟩ := hperform
    rw [heffect]
    refine ⟨?_, ?_, ?_⟩
    · rw [opcodeRefused_map, hamid.known, List.filterMap_append, List.filterMap_cons,
        hamid.executing]
      rfl
    · rw [List.filterMap_append, List.filterMap_cons, hamid.settled]
      rfl
    · rw [List.filterMap_append, List.filterMap_cons, hamid.halting, ← halting_settle h effect]
      exact List.append_nil _

end Steps

/-! ## A run -/

section Runs

variable {σ : Type} [Sink σ] {c : Computer} {sink : σ} {k : Nat}

/-- What is told in the steps that were seen, as far as it is of one kind. -/
def toldOf {α : Type} (kind : Event → Option α) (moments : List Moment) : List α :=
  moments.flatMap fun moment => moment.events.filterMap kind

/-- What is told in the steps of a run, where all but the last step succeed. -/
structure TellsAll (c : Computer) (moments : List Moment) (result : Option (Except Fault Unit)) :
    Prop where
  /-- The instructions are those of the computers that were seen. -/
  executing : result.any opcodeRefused = false →
    toldOf Event.executing? moments = moments.map (·.before.registers.pc)
  /-- The last one is missing if it is none. -/
  missing : result.any opcodeRefused = true → ∃ front last, moments = front ++ [last] ∧
    toldOf Event.executing? moments = front.map (·.before.registers.pc)
  /-- Each step tells what registers it leaves. -/
  settled : ∀ moment ∈ moments, ∃ registers, moment.events.filterMap Event.settled? = [registers]
  /-- They are the ones that are seen next. -/
  chain : moments.IsChain fun moment next =>
    moment.events.filterMap Event.settled? = [next.before.registers]
  /-- A halt is told if it is how the run ends, with the number of steps. -/
  halting : toldOf Event.halting? moments =
    if result = some (.ok ()) then [c.cycles + UInt64.ofNat moments.length] else []

theorem toldOf_range {α : Type} (kind : Event → Option α) (k : Nat) :
    toldOf kind ((List.range k).map (c.momentAt sink)) =
      (List.range k).flatMap fun j => (c.stepAt sink j).events.filterMap kind := by
  rw [toldOf, List.flatMap_map]
  rfl

theorem tells_stepAt (hrunning : ∀ j < k, (c.after sink j).1.state = .running) {j : Nat}
    (hj : j < k) : (c.after sink j).1.Tells (c.stepAt sink j) :=
  step_tells (hrunning j hj) _

/-- Steps that succeed tell of their instructions. -/
theorem executing_of_succeeds (hrunning : ∀ j < k, (c.after sink j).1.state = .running)
    (h : c.Succeeds sink k) :
    ((List.range k).flatMap fun j => (c.stepAt sink j).events.filterMap Event.executing?) =
      (List.range k).map fun j => (c.after sink j).1.registers.pc := by
  rw [List.map_eq_flatMap]
  refine List.flatMap_congr fun j hj => ?_
  have hj := List.mem_range.mp hj
  rw [(tells_stepAt hrunning hj).executing, h j hj]
  rfl

/-- Steps after which the machine is running tell of no halt. -/
theorem halting_of_running (hrunning : ∀ j ≤ k, (c.after sink j).1.state = .running) :
    ((List.range k).flatMap fun j => (c.stepAt sink j).events.filterMap Event.halting?) = [] := by
  refine List.flatMap_eq_nil_iff.mpr fun j hj => ?_
  have hj := List.mem_range.mp hj
  have hnext := hrunning (j + 1) (by omega)
  rw [after_succ] at hnext
  rw [(tells_stepAt (fun i hi => hrunning i (Nat.le_of_lt hi)) hj).halting]
  refine if_neg fun hhalt => ?_
  exact absurd (hnext.symm.trans hhalt.2) (by decide)

/-- A step that fails tells of its instruction, unless there is none. -/
theorem executing_of_error (hrunning : ∀ j < k + 1, (c.after sink j).1.state = .running)
    (h : c.Succeeds sink k) :
    ((List.range (k + 1)).flatMap fun j => (c.stepAt sink j).events.filterMap Event.executing?) =
      (List.range k).map (fun j => (c.after sink j).1.registers.pc) ++
        if opcodeRefused (c.stepAt sink k).result then []
        else [(c.after sink k).1.registers.pc] := by
  rw [List.range_succ, List.flatMap_append, List.flatMap_singleton,
    executing_of_succeeds (fun j hj => hrunning j (by omega)) h,
    (tells_stepAt hrunning (Nat.lt_succ_self k)).executing]

theorem halting_last (hrunning : ∀ j < k + 1, (c.after sink j).1.state = .running) :
    ((List.range (k + 1)).flatMap fun j => (c.stepAt sink j).events.filterMap Event.halting?) =
      if (c.stepAt sink k).result = .ok () ∧ (c.after sink (k + 1)).1.state = .halted then
        [(c.after sink (k + 1)).1.cycles] else [] := by
  rw [List.range_succ, List.flatMap_append, List.flatMap_singleton,
    halting_of_running fun j hj => hrunning j (Nat.lt_succ_of_le hj), List.nil_append,
    (tells_stepAt hrunning (Nat.lt_succ_self k)).halting, after_succ]

theorem told_of_succeeds (hrunning : ∀ j < k, (c.after sink j).1.state = .running)
    (h : c.Succeeds sink k) :
    toldOf Event.executing? ((List.range k).map (c.momentAt sink)) =
      ((List.range k).map (c.momentAt sink)).map (·.before.registers.pc) := by
  rw [toldOf_range, executing_of_succeeds hrunning h, List.map_map]
  rfl

theorem told_of_running (hrunning : ∀ j < k, (c.after sink j).1.state = .running)
    (h : (c.after sink k).1.state = .running) :
    toldOf Event.halting? ((List.range k).map (c.momentAt sink)) = [] := by
  rw [toldOf_range]
  refine halting_of_running fun j hj => ?_
  obtain hlt | rfl := Nat.lt_or_eq_of_le hj
  · exact hrunning j hlt
  · exact h

/-- Each step of a run tells of registers, and the next one starts from them. -/
theorem settled_range (hrunning : ∀ j < k, (c.after sink j).1.state = .running) :
    (∀ moment ∈ (List.range k).map (c.momentAt sink), ∃ registers,
        moment.events.filterMap Event.settled? = [registers]) ∧
      ((List.range k).map (c.momentAt sink)).IsChain fun moment next =>
        moment.events.filterMap Event.settled? = [next.before.registers] := by
  constructor
  · intro moment hmoment
    obtain ⟨j, hj, rfl⟩ := List.mem_map.mp hmoment
    exact ⟨_, (tells_stepAt hrunning (List.mem_range.mp hj)).settled⟩
  · rw [List.isChain_map, List.isChain_range]
    intro j hj
    rw [momentAt, momentAt, after_succ]
    exact (tells_stepAt hrunning (by omega)).settled

/-- A run tells of all its instructions, unless the last byte is no opcode. -/
theorem tellsAll_of_known {result : Option (Except Fault Unit)}
    (hrunning : ∀ j < k, (c.after sink j).1.state = .running)
    (hknown : result.any opcodeRefused = false)
    (hexecuting : toldOf Event.executing? ((List.range k).map (c.momentAt sink)) =
      ((List.range k).map (c.momentAt sink)).map (·.before.registers.pc))
    (hhalting : toldOf Event.halting? ((List.range k).map (c.momentAt sink)) =
      if result = some (.ok ()) then [c.cycles + UInt64.ofNat k] else []) :
    c.TellsAll ((List.range k).map (c.momentAt sink)) result where
  executing := fun _ => hexecuting
  missing := fun hunknown => by
    rw [hknown] at hunknown
    cases hunknown
  settled := (settled_range hrunning).1
  chain := (settled_range hrunning).2
  halting := by rw [hhalting, List.length_map, List.length_range]

/-- A run that fails tells of the last instruction, unless there is none. -/
theorem tellsAll_of_failed {fault : Fault}
    (hrunning : ∀ j < k + 1, (c.after sink j).1.state = .running) (h : c.Succeeds sink k)
    (hfault : (c.stepAt sink k).result = .error fault) :
    c.TellsAll ((List.range (k + 1)).map (c.momentAt sink)) (some (.error fault)) := by
  have hexecuting := executing_of_error hrunning h
  have hhalting := halting_last hrunning
  rw [hfault, ← toldOf_range] at hexecuting hhalting
  by_cases hunknown : opcodeRefused (Except.error (α := Unit) fault) = true
  · refine ⟨fun hknown => absurd (hunknown.symm.trans hknown) (by decide), fun _ => ?_,
      (settled_range hrunning).1, (settled_range hrunning).2, hhalting⟩
    refine ⟨(List.range k).map (c.momentAt sink), c.momentAt sink k, ?_, ?_⟩
    · rw [List.range_succ, List.map_append, List.map_singleton]
    · rw [hexecuting, if_pos hunknown, List.append_nil, List.map_map]
      rfl
  · refine tellsAll_of_known hrunning (Bool.eq_false_iff.mpr hunknown) ?_ hhalting
    rw [hexecuting, if_neg hunknown, List.map_map, List.range_succ, List.map_append]
    rfl

/-- **A run tells what it does**, whatever ends it. -/
theorem runWith_tells (h : c.state = .running) (patience : Nat) (limit : Option UInt64) {α : Type}
    (observe : α → Moment → α) (notes : α) :
    c.TellsAll (c.moments patience limit sink)
      (c.runWith observe patience limit notes sink).result := by
  obtain ⟨-, hrunning, hends⟩ := runWith_ends patience limit c sink
  have hend := hends α observe notes
  rw [moments_eq]
  generalize c.inspections patience limit sink = k at hrunning hend
  generalize c.runWith observe patience limit notes sink = run at hend
  cases hend with
  | halted succeeded state run_eq =>
    rw [run_eq]
    refine tellsAll_of_known hrunning rfl (told_of_succeeds hrunning succeeded) ?_
    cases k with
    | zero => exact absurd (h.symm.trans state) (by decide)
    | succ k =>
      rw [toldOf_range, halting_last hrunning, if_pos ⟨succeeded k (Nat.lt_succ_self k), state⟩,
        if_pos rfl, cycles_after succeeded]
  | stopped succeeded state reached run_eq =>
    rw [run_eq]
    exact tellsAll_of_known hrunning rfl (told_of_succeeds hrunning succeeded)
      (told_of_running hrunning state)
  | left succeeded state worn unreached run_eq =>
    rw [run_eq]
    exact tellsAll_of_known hrunning rfl (told_of_succeeds hrunning succeeded)
      (told_of_running hrunning state)
  | @failed j fault last succeeded result run_eq =>
    subst last
    rw [run_eq]
    exact tellsAll_of_failed hrunning succeeded result

end Runs

end Computer

end LS8
