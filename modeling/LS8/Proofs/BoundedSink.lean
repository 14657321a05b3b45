import LS8.Proofs.Output

/-!
# Bounded sinks

A sink that takes only so much is put beside one that takes everything. Until it is full both see
the same run, and the printing that is too much for it ends the run.

* `Curtails`: a sink holds what another one does, as far as its bound allows;
* `Computer.Overflows`, **`Curtails.step_or`**: the bound is not felt in a step, or the step prints
  too much;
* `Computer.CutAt`, **`Curtails.runFrom_or`**: the bound is not felt in a run, or one of its steps
  is the end;
* `TextSink.bytes`, `curtails_text`, `curtails_values`: the two kinds of bounded sinks;
* `Computer.CutShort`, **`runWith_cutShort`**: a bounded sink only cuts a run short.
-/

set_option autoImplicit false

namespace LS8

/-- The sinks on the left take everything. Those on the right hold the same, and refuse the value
with which that would be more than `n` entries, after having taken the part of it that fits. -/
structure Curtails {σ τ β : Type} [Sink σ] [Sink τ] (R : σ → τ → Prop) (held : σ → List β)
    (held' : τ → List β) (n : Nat) (cause : IoError) : Prop where
  grows : ∀ u value, held u <+: held (Sink.emit u value).1
  held_eq : ∀ {u t}, R u t → held' t = held u
  length_le : ∀ {u t}, R u t → (held u).length ≤ n
  within : ∀ {u t value}, R u t → (held (Sink.emit u value).1).length ≤ n → Answers R u t value
  beyond : ∀ {u t value}, R u t → n < (held (Sink.emit u value).1).length →
    (Sink.emit t value).2 = some cause ∧
      held' (Sink.emit t value).1 = (held (Sink.emit u value).1).take n

section Bounds

open Computer

variable {σ τ β : Type} [Sink σ] [Sink τ] {R : σ → τ → Prop} {held : σ → List β}
  {held' : τ → List β} {n : Nat} {cause : IoError} {u : σ} {t : τ}

/-! ## One step -/

/-- A step prints more than there is room for, and does nothing else. -/
structure Computer.Overflows (c : Computer) (held : σ → List β) (held' : τ → List β) (n : Nat)
    (cause : IoError) (whole : Step σ) (bounded : Step τ) : Prop where
  prints : ∃ r, Instruction.decode c.upcoming = .ok (.prn r)
  beyond : n < (held whole.sink).length
  computer_eq : bounded.computer = { c with state := .halted }
  result_eq : bounded.result = .error (.output cause)
  held_eq : held' bounded.sink = (held whole.sink).take n

/-- **In a step the bound is not felt**, or the step prints too much. -/
theorem Curtails.step_or (h : Curtails R held held' n cause) (hR : R u t) (c : Computer) :
    (∃ t', R (c.step u).sink t' ∧ c.step t = (c.step u).withSink t') ∨
      c.Overflows held held' n cause (c.step u) (c.step t) := by
  cases hs : c.state with
  | halted =>
    rw [step_of_halted hs, step_of_halted hs]
    exact Or.inl ⟨t, hR, rfl⟩
  | running =>
    by_cases hr : ∃ r, Instruction.decode c.upcoming = .ok (.prn r) ∧
        n < (held (Sink.emit u (c.registers.get r)).1).length
    · obtain ⟨r, hd, hlt⟩ := hr
      obtain ⟨hcause, hheld⟩ := h.beyond hR hlt
      have hrefused : Sink.emit t (c.registers.get r) =
          ((Sink.emit t (c.registers.get r)).1, some cause) := by rw [← hcause]
      obtain ⟨hc, hsink, hresult⟩ := Step.outcome_eq_iff.mp (outcome_of_refused hs hd hrefused)
      have hu : (c.step u).sink = (Sink.emit u (c.registers.get r)).1 := step_sink_of_prn hs hd
      exact Or.inr ⟨⟨r, hd⟩, by rw [hu]; exact hlt, hc, hresult, by rw [hsink, hu, hheld]⟩
    · refine Or.inl (step_answers hR fun r hd => h.within hR ?_)
      by_contra hlt
      exact hr ⟨r, hd, Nat.lt_of_not_le hlt⟩

/-! ## A whole run -/

/-- The number of steps that the observer of a loop is told about. -/
def Computer.inspectionsFrom (c : Computer) (limit : Option UInt64) (patience : Nat)
    (steps : UInt64) (sink : σ) : Nat :=
  (c.runFrom (fun n _ => n + 1) limit patience steps 0 sink).notes

theorem inspections_eq (c : Computer) (patience : Nat) (limit : Option UInt64) (sink : σ) :
    c.inspections patience limit sink =
      c.inspectionsFrom limit (allowance patience limit) 0 sink := by
  rw [inspections, runWith_eq, inspectionsFrom]

section Turns

variable {c : Computer} {limit : Option UInt64} {patience : Nat} {steps : UInt64}

theorem inspectionsFrom_of_ok (hs : c.state = .running) (hl : limit.any (· ≤ steps) = false)
    (hr : (c.step u).result = .ok ()) :
    c.inspectionsFrom limit (patience + 1) steps u =
      (c.step u).computer.inspectionsFrom limit patience (steps + 1) (c.step u).sink + 1 := by
  obtain ⟨k, _, _, hends⟩ :=
    runFrom_ends limit patience (steps + 1) (c.step u).computer (c.step u).sink
  rw [inspectionsFrom, inspectionsFrom, runFrom_of_ok hs hl hr, (hends Nat _ _).notes_eq,
    (hends Nat _ _).notes_eq, told_count, told_count]
  omega

theorem inspectionsFrom_of_error (hs : c.state = .running) (hl : limit.any (· ≤ steps) = false)
    {fault : Fault} (hr : (c.step u).result = .error fault) :
    c.inspectionsFrom limit (patience + 1) steps u = 1 := by
  rw [inspectionsFrom, runFrom_of_error hs hl hr]

end Turns

/-- The step that comes after `k` others is the end of a run, because it prints too much. -/
structure Computer.CutAt {α : Type} (c : Computer) (u : σ) (held : σ → List β)
    (held' : τ → List β) (n : Nat) (cause : IoError) (k : Nat) (run : Run τ α) : Prop where
  prints : ∃ r, Instruction.decode (c.after u k).1.upcoming = .ok (.prn r)
  before : (held (c.after u k).2).length ≤ n
  beyond : n < (held (c.after u (k + 1)).2).length
  computer_eq : run.computer = { (c.after u k).1 with state := .halted }
  result_eq : run.result = some (.error (.output cause))
  held_eq : held' run.sink = (held (c.after u (k + 1)).2).take n

omit [Sink τ] in
theorem Computer.CutAt.of_step {α : Type} {c : Computer} {k : Nat} {run : Run τ α}
    (h : (c.step u).computer.CutAt (c.step u).sink held held' n cause k run) :
    c.CutAt u held held' n cause (k + 1) run := by
  obtain ⟨prints, before, beyond, computer_eq, result_eq, held_eq⟩ := h
  rw [after_step] at prints before beyond computer_eq held_eq
  exact ⟨prints, before, beyond, computer_eq, result_eq, held_eq⟩

/-- A loop whose first step prints too much ends with it. -/
theorem Curtails.cutAt_zero (h : Curtails R held held' n cause) (hR : R u t) {α : Type}
    {observe : α → Moment → α} {limit : Option UInt64} {patience : Nat} {steps : UInt64} {notes : α}
    {c : Computer} (hs : c.state = .running) (hl : limit.any (· ≤ steps) = false)
    (hover : c.Overflows held held' n cause (c.step u) (c.step t)) :
    c.CutAt u held held' n cause 0
      (c.runFrom observe limit (patience + 1) steps notes t) := by
  rw [runFrom_of_error hs hl hover.result_eq]
  exact ⟨hover.prints, h.length_le hR, hover.beyond, hover.computer_eq, rfl, hover.held_eq⟩

/-- **In a run the bound is not felt**, or one of its steps is the end. -/
theorem Curtails.runFrom_or (h : Curtails R held held' n cause) {α : Type}
    (observe : α → Moment → α) (limit : Option UInt64) (patience : Nat) (steps : UInt64) (notes : α)
    (c : Computer) (hR : R u t) :
    (∃ t', R (c.runFrom observe limit patience steps notes u).sink t' ∧
        c.runFrom observe limit patience steps notes t =
          (c.runFrom observe limit patience steps notes u).withSink t') ∨
      ∃ k < c.inspectionsFrom limit patience steps u,
        c.CutAt u held held' n cause k (c.runFrom observe limit patience steps notes t) := by
  induction patience, steps, notes, c, u using turn_induction σ observe limit generalizing t with
  | halted _ _ _ c u hs =>
    rw [runFrom_of_halted hs, runFrom_of_halted hs]
    exact Or.inl ⟨t, hR, rfl⟩
  | reached _ _ _ c u hs hl =>
    rw [runFrom_of_reached hs hl, runFrom_of_reached hs hl]
    exact Or.inl ⟨t, hR, rfl⟩
  | worn _ _ c u hs hl =>
    rw [runFrom_zero hs hl, runFrom_zero hs hl]
    exact Or.inl ⟨t, hR, rfl⟩
  | ok patience steps notes c u hs hl hr ih =>
    rw [inspectionsFrom_of_ok hs hl hr]
    obtain ⟨t', hR', ht⟩ | hover := h.step_or hR c
    · have hr' : (c.step t).result = .ok () := by rw [ht]; exact hr
      rw [runFrom_of_ok hs hl hr, runFrom_of_ok hs hl hr', ht]
      obtain hsame | ⟨k, hk, hcut⟩ := ih hR'
      · exact Or.inl hsame
      · exact Or.inr ⟨k + 1, by omega, hcut.of_step⟩
    · exact Or.inr ⟨0, Nat.succ_pos _, h.cutAt_zero hR hs hl hover⟩
  | error patience steps notes c u fault hs hl hr =>
    rw [inspectionsFrom_of_error hs hl hr]
    obtain ⟨t', hR', ht⟩ | hover := h.step_or hR c
    · have hr' : (c.step t).result = .error fault := by rw [ht]; exact hr
      rw [runFrom_of_error hs hl hr, runFrom_of_error hs hl hr', ht]
      exact Or.inl ⟨t', hR', rfl⟩
    · exact Or.inr ⟨0, Nat.one_pos, h.cutAt_zero hR hs hl hover⟩

theorem Curtails.prefix_after (h : Curtails R held held' n cause) (c : Computer) (u : σ) {i j : Nat}
    (hij : i ≤ j) : held (c.after u i).2 <+: held (c.after u j).2 := by
  obtain ⟨d, rfl⟩ := Nat.exists_eq_add_of_le hij
  induction d with
  | zero => exact List.prefix_rfl
  | succ d ih =>
    refine (ih (Nat.le_add_right i d)).trans ?_
    rw [← Nat.add_assoc, after_succ, stepAt]
    obtain hkept | ⟨value, hoffered⟩ := step_sink (c.after u (i + d)).1 (c.after u (i + d)).2
    · exact hkept.symm ▸ List.prefix_rfl
    · rw [hoffered]
      exact h.grows _ _

/-! ## Runs that are cut short -/

/-- A run with a bounded sink is the whole run, if that fits. Otherwise the sink holds as much of it
as it can, and the machine has stopped before the printing with which that becomes too much. -/
def Computer.CutShort {α : Type} (c : Computer) (u : σ) (steps : Nat) (held : σ → List β)
    (held' : τ → List β) (n : Nat) (cause : IoError) (whole : Run σ α) (bounded : Run τ α) : Prop :=
  if (held whole.sink).length ≤ n then
    bounded.result = whole.result ∧ bounded.computer = whole.computer ∧
      bounded.notes = whole.notes ∧ held' bounded.sink = held whole.sink
  else
    bounded.result = some (.error (.output cause)) ∧
      held' bounded.sink = (held whole.sink).take n ∧
      ∃ k < steps, (∃ r, Instruction.decode (c.after u k).1.upcoming = .ok (.prn r)) ∧
        (held (c.after u k).2).length ≤ n ∧ n < (held (c.after u (k + 1)).2).length ∧
        bounded.computer = { (c.after u k).1 with state := .halted }

theorem Curtails.cutShort (h : Curtails R held held' n cause) {α : Type} (observe : α → Moment → α)
    (notes : α) (patience : Nat) (limit : Option UInt64) (c : Computer) (hR : R u t) :
    c.CutShort u (c.inspections patience limit u) held held' n cause
      (c.runWith observe patience limit notes u) (c.runWith observe patience limit notes t) := by
  have hsink : (c.runWith observe patience limit notes u).sink =
      (c.after u (c.inspections patience limit u)).2 :=
    ((runWith_ends patience limit c u).2.2 α observe notes).sink_eq
  have hrun := h.runFrom_or observe limit (allowance patience limit) 0 notes c hR
  rw [← runWith_eq, ← runWith_eq, ← inspections_eq] at hrun
  obtain ⟨t', hR', hsame⟩ | ⟨k, hk, hcut⟩ := hrun
  · rw [CutShort, if_pos (h.length_le hR'), hsame]
    exact ⟨rfl, rfl, rfl, h.held_eq hR'⟩
  · have hpre := h.prefix_after c u (Nat.succ_le_of_lt hk)
    rw [← hsink] at hpre
    have hbeyond : n < (held (c.runWith observe patience limit notes u).sink).length :=
      Nat.lt_of_lt_of_le hcut.beyond hpre.length_le
    have htake : held' (c.runWith observe patience limit notes t).sink =
        (held (c.runWith observe patience limit notes u).sink).take n := by
      obtain ⟨more, hmore⟩ := hpre
      rw [hcut.held_eq, ← hmore, List.take_append_of_le_length (Nat.le_of_lt hcut.beyond)]
    rw [CutShort, if_neg (Nat.not_le_of_lt hbeyond)]
    exact ⟨hcut.result_eq, htake, k, hk, hcut.prints, hcut.before, hcut.beyond, hcut.computer_eq⟩

end Bounds

/-! ## Bounded texts -/

namespace TextSink

/-- The bytes that were written. -/
def bytes (sink : TextSink) : List UInt8 := sink.text.toUTF8.data.toList

theorem bytes_put (sink : TextSink) (chars : List Char) :
    (sink.put chars).bytes = sink.bytes ++ chars.flatMap String.utf8EncodeChar := by
  simp only [bytes, put, String.toUTF8, String.toByteArray_append, String.toByteArray_ofList,
    ByteArray.data_append, List.utf8Encode, List.data_toByteArray, Array.toList_append]

theorem utf8Size_of_mem_line {value : UInt8} {c : Char} (h : c ∈ line value) : c.utf8Size = 1 := by
  rw [line, List.mem_append, padded, List.leftpad, List.mem_append, List.mem_replicate,
    List.mem_singleton] at h
  obtain (⟨_, rfl⟩ | hd) | rfl := h
  · rfl
  · have hdigit := Nat.isDigit_of_mem_toDigits (by decide) (by decide) hd
    rw [Char.isDigit, Bool.and_eq_true, decide_eq_true_eq, decide_eq_true_eq] at hdigit
    exact Char.utf8Size_eq_one_iff.mpr (Nat.le_trans hdigit.2 (by decide))
  · rfl

/-- The start of a line, or a whole one, has as many bytes as characters. -/
theorem bytes_put_take (sink : TextSink) (value : UInt8) (m : Nat) :
    (sink.put ((line value).take m)).bytes =
      sink.bytes ++ ((line value).map fun c => c.val.toUInt8).take m := by
  have hbytes : ∀ chars : List Char, (∀ c ∈ chars, c.utf8Size = 1) →
      chars.flatMap String.utf8EncodeChar = chars.map fun c => c.val.toUInt8 := by
    intro chars hchars
    induction chars with
    | nil => rfl
    | cons c chars ih =>
      rw [List.flatMap_cons, ih fun c hc => hchars c (List.mem_cons_of_mem _ hc),
        String.utf8EncodeChar_eq_singleton (hchars c List.mem_cons_self)]
      rfl
  rw [bytes_put, hbytes _ fun c hc => utf8Size_of_mem_line (List.mem_of_mem_take hc), List.map_take]

theorem bytes_put_line (sink : TextSink) (value : UInt8) :
    (sink.put (line value)).bytes =
      sink.bytes ++ (line value).map fun c => c.val.toUInt8 := by
  have h := sink.bytes_put_take value (line value).length
  rw [List.take_length, ← List.length_map fun c => c.val.toUInt8, List.take_length] at h
  exact h

theorem bytes_prefix_write (sink : TextSink) (chars : List Char) :
    sink.bytes <+: (sink.write chars).1.bytes := by
  unfold write
  split
  · exact bytes_put sink _ ▸ List.prefix_append _ _
  · split
    · exact bytes_put sink _ ▸ List.prefix_append _ _
    · exact bytes_put sink _ ▸ List.prefix_append _ _

/-- A sink without a bound, and one with the same text that takes `n` bytes in all. -/
structure Shares (n : Nat) (refusal : IoError) (u t : TextSink) : Prop where
  endless : u.room = none
  text_eq : t.text = u.text
  refusal_eq : t.refusal = refusal
  room_eq : ∃ room, t.room = some room ∧ u.bytes.length + room = n

theorem curtails_text (n : Nat) (refusal : IoError) :
    Curtails (Shares n refusal) bytes bytes n refusal where
  grows u value := u.bytes_prefix_write (line value)
  held_eq h := by rw [bytes, h.text_eq, bytes]
  length_le h := by
    obtain ⟨room, _, hn⟩ := h.room_eq
    omega
  within := by
    intro u t value h hle
    obtain ⟨room, hroom, hn⟩ := h.room_eq
    have hu : Sink.emit u value = (u.put (line value), none) := write_of_room_none h.endless _
    rw [hu, bytes_put_line, List.length_append, List.length_map] at hle
    have ht : Sink.emit t value = (t.put (line value), none) := by
      simp only [Sink.emit, write, hroom]
      exact if_pos (by omega)
    rw [Answers, hu, ht]
    refine ⟨rfl, ?_, ?_, h.refusal_eq, room - (line value).length, ?_, ?_⟩
    · rw [put, h.endless]
      rfl
    · rw [put, put, h.text_eq]
    · rw [put, hroom]
      rfl
    · rw [bytes_put_line, List.length_append, List.length_map]
      omega
  beyond := by
    intro u t value h hlt
    obtain ⟨room, hroom, hn⟩ := h.room_eq
    have hu : Sink.emit u value = (u.put (line value), none) := write_of_room_none h.endless _
    rw [hu, bytes_put_line, List.length_append, List.length_map] at hlt
    have ht : Sink.emit t value = (t.put ((line value).take room), some refusal) := by
      simp only [Sink.emit, write, hroom, ← h.refusal_eq]
      exact if_neg (by omega)
    have hbytes : t.bytes = u.bytes := by rw [bytes, h.text_eq, bytes]
    rw [hu, ht]
    refine ⟨rfl, ?_⟩
    rw [bytes_put_take, bytes_put_line, hbytes, ← hn, List.take_length_add_append]

end TextSink

/-! ## Bounded lists of values -/

namespace ValueSink

/-- A sink without a bound, and one with the same values that holds `n` at most. -/
structure Shares (n : Nat) (u t : ValueSink) : Prop where
  endless : u.capacity = none
  bounded : t.capacity = some n
  values_eq : t.values = u.values
  size_le : u.values.size ≤ n

theorem curtails_values (n : Nat) :
    Curtails (Shares n) (fun u => u.values.toList) (fun t => t.values.toList) n .brokenPipe where
  grows u value := by
    simp only [Sink.emit]
    split
    · rw [Array.toList_push]
      exact List.prefix_append _ _
    · exact List.prefix_rfl
  held_eq h := by rw [h.values_eq]
  length_le h := h.size_le
  within := by
    intro u t value h hle
    rw [emit_of_endless h.endless, Array.length_toList, Array.size_push] at hle
    have ht : Sink.emit t value = ({ t with values := t.values.push value }, none) := by
      simp only [Sink.emit, hasRoom, h.bounded, h.values_eq]
      exact if_pos (decide_eq_true (Nat.lt_of_succ_le hle))
    rw [Answers, emit_of_endless h.endless, ht]
    refine ⟨rfl, h.endless, h.bounded, ?_, ?_⟩
    · rw [h.values_eq]
    · rw [Array.size_push]
      exact hle
  beyond := by
    intro u t value h hlt
    rw [emit_of_endless h.endless, Array.length_toList, Array.size_push] at hlt
    have hfull : u.values.size = n := Nat.le_antisymm h.size_le (by omega)
    have ht : Sink.emit t value = (t, some .brokenPipe) := by
      simp only [Sink.emit, hasRoom, h.bounded, h.values_eq]
      exact if_neg (by simp [hfull])
    rw [emit_of_endless h.endless, ht]
    refine ⟨rfl, ?_⟩
    rw [Array.toList_push, h.values_eq, ← hfull, ← Array.length_toList, List.take_left]

end ValueSink

/-- **A bounded sink only cuts a run short.** This holds of sinks for texts, with a bound on the
bytes, and of sinks for values. The text of the whole run is that of its values, so the two bounds
are on the same printing. -/
theorem Computer.runWith_cutShort {α : Type} (c : Computer) (observe : α → Moment → α) (notes : α)
    (patience : Nat) (limit : Option UInt64) (n : Nat) (refusal : IoError) :
    c.CutShort {} (c.inspections patience limit ({} : TextSink)) TextSink.bytes TextSink.bytes n
        refusal (c.runWith observe patience limit notes ({} : TextSink))
        (c.runWith observe patience limit notes ({ room := some n, refusal } : TextSink)) ∧
      c.CutShort {} (c.inspections patience limit ({} : ValueSink))
        (fun sink => sink.values.toList) (fun sink => sink.values.toList) n .brokenPipe
        (c.runWith observe patience limit notes ({} : ValueSink))
        (c.runWith observe patience limit notes ({ capacity := some n } : ValueSink)) ∧
      (c.runWith observe patience limit notes ({} : TextSink)).sink.text =
        valuesText (c.runWith observe patience limit notes ({} : ValueSink)).sink.values.toList := by
  have htext : TextSink.Shares n refusal {} { room := some n, refusal } :=
    ⟨rfl, rfl, rfl, n, rfl, Nat.zero_add n⟩
  have hvalues : ValueSink.Shares n {} { capacity := some n } := ⟨rfl, rfl, rfl, Nat.zero_le n⟩
  have hsame : SameValues ({} : TextSink) ({} : ValueSink) := ⟨rfl, rfl, rfl⟩
  obtain ⟨t, ht, hrun⟩ := runWith_values hsame observe patience limit notes c
  refine ⟨(TextSink.curtails_text n refusal).cutShort observe notes patience limit c htext,
    (ValueSink.curtails_values n).cutShort observe notes patience limit c hvalues, ?_⟩
  rw [hrun]
  exact ht.text_eq

end LS8
