import LS8.Program
import LS8.Proofs.Printing

/-!
# Raising the limit of a run

A limit to which a run does not come has no part in it. A run that its limit stops is the front of
the run with a higher limit: what is left of that one is a run of the machine that the steps have
led to.

* **`runFrom_unstopped`**: a loop that no limit stops is the same with a limit that comes later;
* **`runFrom_of_succeeds`**: a loop is its first steps and then the loop of the machine after them;
* `Fault.lowered`, `Run.lowered`, **`runFrom_lowered`**: a loop whose steps are counted from another
  number on;
* `runWith_after`: the run that is left after some steps;
* **`runWith_raised`**: raising the limit only extends a run.
-/

set_option autoImplicit false

namespace LS8

/-- A fault that counts steps, with so many of them taken off. -/
def Fault.lowered (m : UInt64) : Fault → Fault
  | .stepLimit steps => .stepLimit (steps - m)
  | fault => fault

theorem Fault.lowered_of_ne {fault : Fault} (h : ∀ steps, fault ≠ .stepLimit steps) (m : UInt64) :
    fault.lowered m = fault := by
  cases fault with
  | stepLimit steps => exact absurd rfl (h steps)
  | invalidAccess | invalidRegister | unknownOpcode | output | halted => rfl

/-- A run with so many steps taken off wherever it counts them. -/
def Run.lowered {σ α : Type} (m : UInt64) (run : Run σ α) : Run σ α :=
  { run with
    result := run.result.map (·.mapError (Fault.lowered m))
    steps := run.steps - m }

namespace Computer

variable {σ : Type} [Sink σ]

/-! ## Limits that are not reached -/

/-- **A loop that no limit stops** is the same with a limit that is reached later. -/
theorem runFrom_unstopped {α : Type} (observe : α → Moment → α) {limit limit' : Option UInt64}
    (later : ∀ steps, limit'.any (· ≤ steps) = true → limit.any (· ≤ steps) = true)
    {patience patience' : Nat} (hp : patience ≤ patience') (steps : UInt64) (notes : α)
    (c : Computer) (sink : σ)
    (hend : (c.runFrom observe limit patience steps notes sink).result ≠ none)
    (hstop : ∀ s, (c.runFrom observe limit patience steps notes sink).result ≠
      some (.error (.stepLimit s))) :
    c.runFrom observe limit' patience' steps notes sink =
      c.runFrom observe limit patience steps notes sink := by
  have unreached : ∀ {steps}, limit.any (· ≤ steps) = false → limit'.any (· ≤ steps) = false := by
    intro steps hl
    rw [← Bool.not_eq_true] at hl ⊢
    exact fun h => hl (later steps h)
  induction patience, steps, notes, c, sink using turn_induction σ observe limit
    generalizing patience' with
  | halted _ _ _ c sink hs => rw [runFrom_of_halted hs, runFrom_of_halted hs]
  | reached _ steps _ c sink hs hl =>
    rw [runFrom_of_reached hs hl] at hstop
    exact absurd rfl (hstop steps)
  | worn _ _ c sink hs hl =>
    rw [runFrom_zero hs hl] at hend
    exact absurd rfl hend
  | ok patience _ _ c sink hs hl hr ih =>
    obtain ⟨p', rfl⟩ := Nat.exists_eq_add_of_le' hp
    rw [runFrom_of_ok hs hl hr] at hend hstop ⊢
    rw [← Nat.add_assoc, runFrom_of_ok hs (unreached hl) hr]
    exact ih (Nat.le_add_left patience p') hend hstop
  | error patience _ _ c sink fault hs hl hr =>
    obtain ⟨p', rfl⟩ := Nat.exists_eq_add_of_le' hp
    rw [← Nat.add_assoc, runFrom_of_error hs hl hr, runFrom_of_error hs (unreached hl) hr]

/-! ## Limits that are reached -/

/-- **A loop is its first steps**, if they succeed, and then the loop of the machine after them. -/
theorem runFrom_of_succeeds {α : Type} (observe : α → Moment → α) (limit : Option UInt64)
    {k : Nat} (patience : Nat) (steps : UInt64) (notes : α) (c : Computer) (sink : σ)
    (hs : c.Succeeds sink k) (hl : ∀ j < k, limit.any (· ≤ steps + UInt64.ofNat j) = false) :
    c.runFrom observe limit (k + patience) steps notes sink =
      (c.after sink k).1.runFrom observe limit patience (steps + UInt64.ofNat k)
        (c.told sink observe notes k) (c.after sink k).2 := by
  induction k generalizing steps notes c sink with
  | zero =>
    rw [Nat.zero_add, show steps + UInt64.ofNat 0 = steps from UInt64.add_zero steps]
    rfl
  | succ k ih =>
    have h0 : (c.step sink).result = .ok () := hs 0 (Nat.succ_pos k)
    have hl0 := hl 0 (Nat.succ_pos k)
    rw [show steps + UInt64.ofNat 0 = steps from UInt64.add_zero steps] at hl0
    rw [Nat.succ_add, runFrom_of_ok (running_of_ok h0) hl0 h0, ih, after_step, steps_succ,
      ← told_step]
    · rfl
    · intro j hj
      rw [stepAt_step]
      exact hs (j + 1) (Nat.succ_lt_succ hj)
    · intro j hj
      rw [steps_succ]
      exact hl (j + 1) (Nat.succ_lt_succ hj)

/-- A limit is reached alike when steps are counted from another number on. -/
theorem reached_add {limit steps m : UInt64} (hm : limit.toNat + m.toNat < 2 ^ 64)
    (hs : steps.toNat ≤ limit.toNat) :
    (some (limit + m)).any (· ≤ steps + m) = (some limit).any (· ≤ steps) := by
  have hlimit : (limit + m).toNat = limit.toNat + m.toNat := by
    rw [UInt64.toNat_add, Nat.mod_eq_of_lt hm]
  have hsteps : (steps + m).toNat = steps.toNat + m.toNat := by
    rw [UInt64.toNat_add, Nat.mod_eq_of_lt (by omega)]
  simp only [Option.any_some, UInt64.le_iff_toNat_le, hlimit, hsteps, Nat.add_le_add_iff_right]

/-- **A loop whose steps are counted from another number on** is the same loop, if its limit is
changed with it. It has as much patience as the limit allows. -/
theorem runFrom_lowered {α : Type} (observe : α → Moment → α) {limit m : UInt64}
    (hm : limit.toNat + m.toNat < 2 ^ 64) (patience : Nat) (steps : UInt64)
    (hp : steps.toNat + patience = limit.toNat) (notes : α) (c : Computer) (sink : σ) :
    c.runFrom observe (some limit) patience steps notes sink =
      (c.runFrom observe (some (limit + m)) patience (steps + m) notes sink).lowered m := by
  induction patience, steps, notes, c, sink using turn_induction σ observe (some limit) with
  | halted _ steps _ c sink hs =>
    rw [runFrom_of_halted hs, runFrom_of_halted hs, Run.lowered, UInt64.add_sub_cancel]
    rfl
  | reached _ steps _ c sink hs hl =>
    have hl' := (reached_add hm (by omega)).trans hl
    rw [runFrom_of_reached hs hl, runFrom_of_reached hs hl', Run.lowered, Option.map_some,
      Instruction.mapError_error, Fault.lowered, UInt64.add_sub_cancel]
  | worn steps _ c sink hs hl =>
    have hl' := (reached_add hm (by omega)).trans hl
    rw [runFrom_zero hs hl, runFrom_zero hs hl', Run.lowered, UInt64.add_sub_cancel]
    rfl
  | ok patience steps notes c sink hs hl hr ih =>
    have hl' := (reached_add hm (by omega)).trans hl
    have hlt := limit.toNat_lt
    -- The counter does not pass its end, as it stays below the limit.
    have hsucc : (steps + 1).toNat = steps.toNat + 1 := by
      rw [UInt64.toNat_add]
      exact Nat.mod_eq_of_lt (by change steps.toNat + 1 < 2 ^ 64; omega)
    rw [runFrom_of_ok hs hl hr, runFrom_of_ok hs hl' hr, ih (by omega), UInt64.add_assoc,
      UInt64.add_assoc, UInt64.add_comm 1]
  | error patience steps _ c sink fault hs hl hr =>
    have hl' := (reached_add hm (by omega)).trans hl
    have hf : fault.lowered m = fault :=
      Fault.lowered_of_ne (fun s hs => result_ne_stepLimit (hs ▸ hr)) m
    rw [runFrom_of_error hs hl hr, runFrom_of_error hs hl' hr, Run.lowered, Option.map_some,
      Instruction.mapError_error, hf, UInt64.add_sub_cancel]

theorem runWith_after {α : Type} (observe : α → Moment → α) (patience : Nat) {m m' : UInt64}
    (h : m ≤ m') (notes : α) (c : Computer) (sink : σ) (hs : c.Succeeds sink m.toNat) :
    (c.after sink m.toNat).1.runWith observe patience (some (m' - m))
        (c.told sink observe notes m.toNat) (c.after sink m.toNat).2 =
      (c.runWith observe patience (some m') notes sink).lowered m := by
  have hle := UInt64.le_iff_toNat_le.mp h
  have hlt := m'.toNat_lt
  have hsub : (m' - m).toNat = m'.toNat - m.toNat := UInt64.toNat_sub_of_le m' m h
  have hunreached : ∀ j < m.toNat, (some m').any (· ≤ 0 + UInt64.ofNat j) = false := by
    intro j hj
    have hja : j ≤ allowance patience (some m') := by change j ≤ m'.toNat; omega
    rw [← Bool.not_eq_true, reached_iff hja]
    rintro ⟨_, ⟨⟩, rfl⟩
    omega
  have hwhole := runFrom_of_succeeds observe (some m') (m' - m).toNat 0 notes c sink hs hunreached
  have hm : (m' - m).toNat + m.toNat < 2 ^ 64 := by omega
  have hrest := runFrom_lowered observe hm (m' - m).toNat 0 (Nat.zero_add _)
    (c.told sink observe notes m.toNat) (c.after sink m.toNat).1 (c.after sink m.toNat).2
  rw [UInt64.sub_add_cancel] at hrest
  rw [UInt64.ofNat_toNat, show m.toNat + (m' - m).toNat = m'.toNat by omega] at hwhole
  exact hrest.trans (congrArg (Run.lowered m) hwhole.symm)

/-! ## Raising the limit -/

section Raised

variable {c : Computer} {sink : σ} {patience : Nat} {limit : Option UInt64} {m m' : UInt64}
  {α : Type} {observe : α → Moment → α} {notes : α}

/-- A run that its limit stops has made all the steps that it may, and all have succeeded. -/
theorem inspections_of_stopped {s : UInt64}
    (hr : (c.runWith observe patience (some m) notes sink).result = some (.error (.stepLimit s))) :
    c.Succeeds sink m.toNat ∧ c.inspections patience (some m) sink = m.toNat := by
  obtain ⟨hk, _, hends⟩ := runWith_ends patience (some m) c sink
  obtain ⟨hs, _, hreached⟩ := (hends α observe notes).stepLimit_iff.mp hr
  obtain ⟨hlimit, hsteps⟩ := (reached_at_iff hk).mp hreached
  obtain rfl := Option.some.inj hlimit
  exact ⟨hsteps ▸ hs, hsteps⟩

theorem unstopped_count
    (hstop : ∀ s, (c.runWith observe patience limit notes sink).result ≠
      some (.error (.stepLimit s))) (s : UInt64) :
    (c.runWith (fun n _ => n + 1) patience limit 0 sink).result ≠
      some (.error (.stepLimit s)) := by
  obtain ⟨_, _, hends⟩ := runWith_ends patience limit c sink
  intro hr
  exact hstop s ((hends α observe notes).stepLimit_iff.mpr ((hends Nat _ 0).stepLimit_iff.mp hr))

theorem runWith_unstopped (h : m ≤ m')
    (hl : limit = some m' ∨ limit = none ∧ m.toNat ≤ patience)
    (hstop : ∀ s, (c.runWith observe patience (some m) notes sink).result ≠
      some (.error (.stepLimit s))) :
    c.runWith observe patience limit notes sink =
      c.runWith observe patience (some m) notes sink := by
  have hend : (c.runWith observe patience (some m) notes sink).result ≠ none := by
    obtain ⟨hk, _, hends⟩ := runWith_ends patience (some m) c sink
    intro hr
    obtain ⟨_, _, hleft⟩ := (hends α observe notes).none_iff.mp hr
    exact absurd ((unreached_iff hk).mp hleft).1 (by simp)
  have hlater : ∀ steps, limit.any (· ≤ steps) = true → (some m).any (· ≤ steps) = true := by
    obtain rfl | ⟨rfl, _⟩ := hl
    · intro steps
      simp only [Option.any_some, decide_eq_true_eq]
      exact UInt64.le_trans h
    · simp
  have hpatience : allowance patience (some m) ≤ allowance patience limit := by
    obtain rfl | ⟨rfl, hp⟩ := hl
    · exact UInt64.le_iff_toNat_le.mp h
    · exact hp
  rw [runWith_eq] at hstop hend ⊢
  rw [runWith_eq]
  exact runFrom_unstopped observe hlater hpatience 0 notes c sink hend hstop

theorem inspections_after (patience : Nat) (h : m ≤ m') (hs : c.Succeeds sink m.toNat) :
    c.inspections patience (some m') sink =
      m.toNat +
        (c.after sink m.toNat).1.inspections patience (some (m' - m)) (c.after sink m.toNat).2 := by
  have hrest := congrArg Run.notes (runWith_after (fun n _ => n + 1) patience h 0 c sink hs)
  rw [((runWith_ends _ _ _ _).2.2 _ _ _).notes_eq, told_count, told_count, Nat.zero_add] at hrest
  exact hrest.symm

theorem printed_after (patience : Nat) (h : m ≤ m') (hs : c.Succeeds sink m.toNat) :
    c.printed patience (some m') sink =
      c.emitted sink 0 m.toNat ++
        (c.after sink m.toNat).1.printed patience (some (m' - m)) (c.after sink m.toNat).2 := by
  rw [printed_eq, printed_eq, inspections_after patience h hs, emitted_add, emitted_after,
    Nat.zero_add]
  rfl

theorem moments_after (patience : Nat) (h : m ≤ m') (hs : c.Succeeds sink m.toNat) :
    c.moments patience (some m') sink =
      (List.range m.toNat).map (c.momentAt sink) ++
        (c.after sink m.toNat).1.moments patience (some (m' - m)) (c.after sink m.toNat).2 := by
  rw [moments_eq, moments_eq, inspections_after patience h hs, List.range_add, List.map_append,
    List.map_map]
  congr 1
  exact List.map_congr_left fun k _ => (c.momentAt_after sink m.toNat k).symm

/-- **Raising the limit only extends a run.** A run that its limit does not stop is the same with a
higher limit and without one. A run that is stopped is the front of the one with a higher limit; the
rest of that one is the run that the machine makes after so many single steps, with what is left of
the limit. -/
theorem runWith_raised (observe : α → Moment → α) (notes : α) (patience : Nat) (c : Computer)
    (sink : σ) (h : m ≤ m') :
    ((∀ s, (c.runWith observe patience (some m) notes sink).result ≠
        some (.error (.stepLimit s))) →
      ∀ limit, limit = some m' ∨ limit = none ∧ m.toNat ≤ patience →
        c.runWith observe patience limit notes sink =
          c.runWith observe patience (some m) notes sink ∧
        c.printed patience limit sink = c.printed patience (some m) sink ∧
        c.moments patience limit sink = c.moments patience (some m) sink) ∧
      ((∃ s, (c.runWith observe patience (some m) notes sink).result =
          some (.error (.stepLimit s))) →
        c.printed patience (some m) sink <+: c.printed patience (some m') sink ∧
        c.moments patience (some m) sink <+: c.moments patience (some m') sink ∧
        ∃ c' sink', c.after sink m.toNat = (c', sink') ∧
          c'.runWith observe patience (some (m' - m)) (c.told sink observe notes m.toNat) sink' =
            (c.runWith observe patience (some m') notes sink).lowered m ∧
          c.printed patience (some m) sink ++ c'.printed patience (some (m' - m)) sink' =
            c.printed patience (some m') sink ∧
          c.moments patience (some m) sink ++ c'.moments patience (some (m' - m)) sink' =
            c.moments patience (some m') sink) := by
  refine ⟨fun hstop limit hl => ?_, ?_⟩
  · have hi : c.inspections patience limit sink = c.inspections patience (some m) sink :=
      congrArg Run.notes (runWith_unstopped h hl (unstopped_count hstop))
    rw [printed_eq, printed_eq, moments_eq, moments_eq, hi]
    exact ⟨runWith_unstopped h hl hstop, rfl, rfl⟩
  · rintro ⟨s, hr⟩
    obtain ⟨hs, hi⟩ := inspections_of_stopped hr
    have hprinted := printed_after patience h hs
    have hmoments := moments_after patience h hs
    rw [← hi, ← printed_eq, hi] at hprinted
    rw [← hi, ← moments_eq, hi] at hmoments
    rw [hprinted, hmoments]
    exact ⟨List.prefix_append _ _, List.prefix_append _ _, _, _, rfl,
      runWith_after observe patience h notes c sink hs, rfl, rfl⟩

end Raised

/-- A program that loads a value and then prints it forever. -/
def chatter : Program where
  bytes := [0x82, 0, 3, 0x47, 0, 0x54, 0]
  fits := by decide

/-- Two steps print the value once, six steps print it three times, and four steps are left. -/
theorem raised_chatter :
    (2 : UInt64) ≤ 6 ∧
      ((ofProgram chatter).runWith (fun n _ => n + 1) 0 (some 2) 0 ({} : ValueSink)).result =
        some (.error (.stepLimit 2)) ∧
      (ofProgram chatter).printed 0 (some 2) ({} : ValueSink) = [3] ∧
      ∃ c' sink', (ofProgram chatter).after ({} : ValueSink) 2 = (c', sink') ∧
        (c'.runWith (fun n _ => n + 1) 0 (some 4) 2 sink').result =
          some (.error (.stepLimit 4)) ∧
        [3] ++ c'.printed 0 (some 4) sink' = [3, 3, 3] := by
  have h : (2 : UInt64) ≤ 6 := by decide
  have hr : ((ofProgram chatter).runWith (fun n _ => n + 1) 0 (some 2) 0
      ({} : ValueSink)).result = some (.error (.stepLimit 2)) := by rfl
  have hprinted : (ofProgram chatter).printed 0 (some 2) ({} : ValueSink) = [3] := by rfl
  have hprinted' : (ofProgram chatter).printed 0 (some 6) ({} : ValueSink) = [3, 3, 3] := by rfl
  obtain ⟨_, hraised⟩ :=
    runWith_raised (fun n _ => n + 1) 0 0 (ofProgram chatter) ({} : ValueSink) h
  obtain ⟨_, _, c', sink', hafter, hrest, hrests, _⟩ := hraised ⟨2, hr⟩
  rw [hprinted, hprinted'] at hrests
  refine ⟨h, hr, hprinted, c', sink', hafter, ?_, hrests⟩
  have hwhole : ((ofProgram chatter).runWith (fun n _ => n + 1) 0 (some 6) 0
      ({} : ValueSink)).result = some (.error (.stepLimit 6)) := by rfl
  have hresult := congrArg Run.result hrest
  rw [Run.lowered, hwhole] at hresult
  exact hresult

end Computer

end LS8
