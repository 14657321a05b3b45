import LS8.Proofs.Emission
import LS8.Proofs.Run

/-!
# What a run prints

A run depends on nothing but the answers of its sink. So it can be watched with a recorder in the
place of the sink, and what is recorded is what the sink accepts in one step after the other.

* `Run.withSink`, **`runFrom_answers`**: runs with sinks that answer alike are the same;
* `Run.withNotes`, **`runWith_withNotes`**: the observer has no part in a run;
* `Computer.acceptedAt`, `Computer.emitted`: the values that the sink accepts in some steps;
* `step_record`, `after_record`: what a recorder records of them;
* `Computer.printed`, **`printed_eq`**: the values that the sink accepts in a run;
* `Computer.moments`, **`moments_eq`**: the moments that the observer of a run is told about.
-/

set_option autoImplicit false

namespace LS8

/-- What a run came to, with another sink in the place of its own. -/
def Run.withSink {σ τ α : Type} (run : Run σ α) (sink : τ) : Run τ α :=
  ⟨run.computer, sink, run.result, run.notes, run.steps⟩

/-- What a run came to, with other notes in the place of its own. -/
def Run.withNotes {σ α β : Type} (run : Run σ α) (notes : β) : Run σ β :=
  ⟨run.computer, run.sink, run.result, notes, run.steps⟩

/-- A recorder remembers what it has accepted before, and adds to it what the sink accepts. -/
theorem Recorder.answers_append {σ : Type} [Sink σ] (base : List UInt8) (rec rec' : Recorder σ)
    (value : UInt8) (h : rec'.sink = rec.sink ∧ rec'.accepted = base ++ rec.accepted) :
    Answers (fun rec rec' : Recorder σ =>
      rec'.sink = rec.sink ∧ rec'.accepted = base ++ rec.accepted) rec rec' value := by
  obtain ⟨hsink, haccepted⟩ := h
  simp only [Answers, Sink.emit, hsink, haccepted]
  rcases Sink.emit rec.sink value with ⟨sink, _ | cause⟩
  · exact ⟨rfl, rfl, List.append_assoc base rec.accepted [value]⟩
  · exact ⟨rfl, rfl, rfl⟩

namespace Computer

/-! ## Sinks that answer alike -/

section Alike

variable {σ τ : Type} [Sink σ] [Sink τ]

/-- **Runs with sinks that answer alike are the same**, but for the sinks that they leave. -/
theorem runFrom_answers {R : σ → τ → Prop} (h : Alike R) {α : Type}
    (observe : α → Moment → α) (limit : Option UInt64) (patience : Nat) (steps : UInt64) (notes : α)
    (c : Computer) {u : σ} {t : τ} (hR : R u t) :
    ∃ t', R (c.runFrom observe limit patience steps notes u).sink t' ∧
      c.runFrom observe limit patience steps notes t =
        (c.runFrom observe limit patience steps notes u).withSink t' := by
  induction patience, steps, notes, c, u using turn_induction σ observe limit generalizing t with
  | halted _ _ _ c u hs =>
    rw [runFrom_of_halted hs, runFrom_of_halted hs]
    exact ⟨t, hR, rfl⟩
  | reached _ _ _ c u hs hl =>
    rw [runFrom_of_reached hs hl, runFrom_of_reached hs hl]
    exact ⟨t, hR, rfl⟩
  | worn _ _ c u hs hl =>
    rw [runFrom_zero hs hl, runFrom_zero hs hl]
    exact ⟨t, hR, rfl⟩
  | ok _ _ _ c u hs hl hr ih =>
    obtain ⟨t', hR', ht⟩ := c.step_answers hR fun r _ => h u t (c.registers.get r) hR
    have hr' : (c.step t).result = .ok () := by rw [ht]; exact hr
    rw [runFrom_of_ok hs hl hr, runFrom_of_ok hs hl hr', ht]
    exact ih hR'
  | error _ _ _ c u fault hs hl hr =>
    obtain ⟨t', hR', ht⟩ := c.step_answers hR fun r _ => h u t (c.registers.get r) hR
    have hr' : (c.step t).result = .error fault := by rw [ht]; exact hr
    rw [runFrom_of_error hs hl hr, runFrom_of_error hs hl hr', ht]
    exact ⟨t', hR', rfl⟩

end Alike

/-! ## Observers -/

section Observers

variable {σ α β : Type} [Sink σ]

theorem runFrom_withNotes (observe : α → Moment → α) (observe' : β → Moment → β)
    (limit : Option UInt64) (patience : Nat) (steps : UInt64) (notes : α) (notes' : β)
    (c : Computer) (sink : σ) :
    c.runFrom observe' limit patience steps notes' sink =
      (c.runFrom observe limit patience steps notes sink).withNotes
        (c.runFrom observe' limit patience steps notes' sink).notes := by
  induction patience, steps, notes, c, sink using turn_induction σ observe limit
    generalizing notes' with
  | halted _ _ _ c sink hs => rw [runFrom_of_halted hs, runFrom_of_halted hs]; rfl
  | reached _ _ _ c sink hs hl => rw [runFrom_of_reached hs hl, runFrom_of_reached hs hl]; rfl
  | worn _ _ c sink hs hl => rw [runFrom_zero hs hl, runFrom_zero hs hl]; rfl
  | ok _ _ _ c sink hs hl hr ih =>
    rw [runFrom_of_ok hs hl hr, runFrom_of_ok hs hl hr]
    exact ih _
  | error _ _ _ c sink fault hs hl hr =>
    rw [runFrom_of_error hs hl hr, runFrom_of_error hs hl hr]
    rfl

/-- **The observer has no part in a run.** -/
theorem runWith_withNotes (observe : α → Moment → α) (observe' : β → Moment → β) (patience : Nat)
    (limit : Option UInt64) (notes : α) (notes' : β) (c : Computer) (sink : σ) :
    c.runWith observe' patience limit notes' sink =
      (c.runWith observe patience limit notes sink).withNotes
        (c.runWith observe' patience limit notes' sink).notes := by
  rw [runWith_eq, runWith_eq]
  exact runFrom_withNotes observe observe' limit _ 0 notes notes' c sink

end Observers

/-! ## The values that are accepted -/

section Printing

variable {σ : Type} [Sink σ]

/-- What is kept whenever a value is offered is kept by all steps. -/
theorem after_kept {P : σ → Prop} (h : ∀ sink value, P sink → P (Sink.emit sink value).1)
    (c : Computer) {sink : σ} (hP : P sink) (k : Nat) : P (c.after sink k).2 := by
  induction k with
  | zero => exact hP
  | succ k ih =>
    rw [after_succ]
    exact step_kept h _ ih

/-- The values that the sink accepts in the step that comes after `k` others. -/
def acceptedAt (c : Computer) (sink : σ) (k : Nat) : List UInt8 :=
  (c.after sink k).1.accepted (c.after sink k).2

/-- The values that the sink accepts in the `count` steps that come after `start` others. -/
def emitted (c : Computer) (sink : σ) (start count : Nat) : List UInt8 :=
  (List.range' start count).flatMap (c.acceptedAt sink)

theorem emitted_add (c : Computer) (sink : σ) (start m n : Nat) :
    c.emitted sink start (m + n) = c.emitted sink start m ++ c.emitted sink (start + m) n := by
  rw [emitted, emitted, emitted, ← List.flatMap_append, List.range'_append_1]

theorem emitted_after (c : Computer) (sink : σ) (m start count : Nat) :
    (c.after sink m).1.emitted (c.after sink m).2 start count =
      c.emitted sink (m + start) count := by
  have h : (c.after sink m).1.acceptedAt (c.after sink m).2 = c.acceptedAt sink ∘ (m + ·) := by
    funext k
    rw [Function.comp_apply, acceptedAt, acceptedAt, after_add]
  rw [emitted, emitted, ← List.map_add_range', List.flatMap_map, h]
  rfl

theorem step_record (c : Computer) (rec : Recorder σ) :
    (c.step rec).computer = (c.step rec.sink).computer ∧
      (c.step rec).sink.sink = (c.step rec.sink).sink ∧
      (c.step rec).sink.accepted = rec.accepted ++ c.accepted rec.sink := by
  obtain ⟨rec', hsink, hrec⟩ := c.step_recorder rec
  obtain ⟨_, ⟨_, haccepted⟩, hfresh⟩ :=
    c.step_answers (u := ({ sink := rec.sink } : Recorder σ)) (t := rec)
      (R := fun fresh rec' : Recorder σ =>
        rec'.sink = fresh.sink ∧ rec'.accepted = rec.accepted ++ fresh.accepted)
      ⟨rfl, (List.append_nil _).symm⟩
      fun r _ => Recorder.answers_append rec.accepted _ _ _ ⟨rfl, (List.append_nil _).symm⟩
  refine ⟨by rw [hrec]; rfl, by rw [hrec]; exact hsink, ?_⟩
  rw [hfresh]
  exact haccepted

theorem after_record (c : Computer) (rec : Recorder σ) (k : Nat) :
    (c.after rec k).1 = (c.after rec.sink k).1 ∧
      (c.after rec k).2.sink = (c.after rec.sink k).2 ∧
      (c.after rec k).2.accepted = rec.accepted ++ c.emitted rec.sink 0 k := by
  induction k with
  | zero => exact ⟨rfl, rfl, (List.append_nil _).symm⟩
  | succ k ih =>
    obtain ⟨hc, hsink, haccepted⟩ := ih
    obtain ⟨hc', hsink', haccepted'⟩ := (c.after rec k).1.step_record (c.after rec k).2
    rw [hc, hsink] at hc' hsink' haccepted'
    refine ⟨?_, ?_, ?_⟩
    · rw [after_succ, after_succ, stepAt, stepAt, hc, hc']
    · rw [after_succ, after_succ, stepAt, stepAt, hc, hsink']
    · rw [after_succ, stepAt, hc, haccepted', haccepted, emitted_add, List.append_assoc,
        Nat.zero_add]
      simp only [emitted, List.range'_one, List.flatMap_cons, List.flatMap_nil, List.append_nil,
        acceptedAt]

/-! ## What a run shows -/

/-- The values that the sink accepts in a run. -/
def printed (c : Computer) (patience : Nat) (limit : Option UInt64) (sink : σ) : List UInt8 :=
  (c.runWith (fun n _ => n + 1) patience limit 0 ({ sink } : Recorder σ)).sink.accepted

/-- The moments that the observer of a run is told about. -/
def moments (c : Computer) (patience : Nat) (limit : Option UInt64) (sink : σ) : List Moment :=
  (c.runWith (fun moments moment => moments ++ [moment]) patience limit [] sink).notes

theorem inspections_recorder (c : Computer) (patience : Nat) (limit : Option UInt64) (sink : σ) :
    c.inspections patience limit ({ sink } : Recorder σ) = c.inspections patience limit sink := by
  obtain ⟨rec', _, hrec⟩ :=
    runFrom_answers (R := fun sink (rec : Recorder σ) => rec.sink = sink)
      (fun _ rec value h => h ▸ rec.answers value) (fun n _ => n + 1) limit
      (allowance patience limit) 0 0 c (u := sink) (t := { sink }) rfl
  rw [inspections, inspections, runWith_eq, runWith_eq, hrec]
  rfl

/-- **A run prints what its steps print.** -/
theorem printed_eq (c : Computer) (patience : Nat) (limit : Option UInt64) (sink : σ) :
    c.printed patience limit sink = c.emitted sink 0 (c.inspections patience limit sink) := by
  obtain ⟨_, _, hends⟩ := runWith_ends patience limit c ({ sink } : Recorder σ)
  rw [printed, (hends Nat _ 0).sink_eq, inspections_recorder]
  exact (c.after_record { sink } _).2.2

/-- **The observer is told about the steps in their order.** -/
theorem moments_eq (c : Computer) (patience : Nat) (limit : Option UInt64) (sink : σ) :
    c.moments patience limit sink =
      (List.range (c.inspections patience limit sink)).map (c.momentAt sink) := by
  obtain ⟨_, _, hends⟩ := runWith_ends patience limit c sink
  rw [moments, (hends (List Moment) _ []).notes_eq, told, List.foldl_append_eq_append,
    ← List.flatMap_def, List.flatMap_singleton', List.nil_append]

end Printing

end Computer

end LS8
