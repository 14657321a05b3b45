import LS8.Proofs.Printing

/-!
# The text of a run

What a run leaves in a sink for texts is what it prints, line by line.

* **`runWith_recorded`**: what holds of all records holds of what a run prints;
* `valuesText`: values as text;
* **`text_of_endless`**, **`text_of_full`**: the text of a sink that takes everything, or nothing;
* `SameValues`, **`runWith_values`**: a run is the same with texts and with values.
-/

set_option autoImplicit false

namespace LS8

/-- **What holds of all records of a sink** holds of what a run prints and the sink it leaves. -/
theorem Computer.runWith_recorded {σ : Type} [Sink σ] {P : Recorder σ → Prop}
    (h : ∀ rec value, P rec → P (Sink.emit rec value).1) {α : Type} (observe : α → Moment → α)
    (patience : Nat) (limit : Option UInt64) (notes : α) (c : Computer) {sink : σ}
    (hP : P { sink }) :
    P ⟨(c.runWith observe patience limit notes sink).sink, c.printed patience limit sink⟩ := by
  obtain ⟨_, _, hends⟩ := runWith_ends patience limit c sink
  obtain ⟨_, hsink, haccepted⟩ := c.after_record { sink } (c.inspections patience limit sink)
  rw [(hends α observe notes).sink_eq, printed_eq, ← hsink]
  rw [List.nil_append] at haccepted
  rw [← haccepted]
  exact after_kept h c hP _

/-! ## Texts -/

/-- Values as text, each in decimal and with a line feed after it. -/
def valuesText (values : List UInt8) : String :=
  String.join (values.map fun value => toString value.toNat ++ "\n")

theorem valuesText_append (values values' : List UInt8) :
    valuesText (values ++ values') = valuesText values ++ valuesText values' := by
  rw [valuesText, List.map_append, String.join_append]
  rfl

namespace TextSink

theorem put_line (sink : TextSink) (value : UInt8) :
    (sink.put (line value)).text = sink.text ++ valuesText [value] := by
  -- A decimal numeral has a digit at least, so nothing is filled in.
  have hfill : 1 - (Nat.toDigits 10 value.toNat).length = 0 := by
    have hpos : 0 < (Nat.toDigits 10 value.toNat).length := Nat.length_toDigits_pos
    omega
  have hline : String.ofList (line value) = toString value.toNat ++ "\n" := by
    rw [line, padded, List.leftpad, hfill, List.replicate_zero, List.nil_append,
      String.ofList_append]
    rfl
  rw [put, hline, valuesText, List.map_singleton, String.join_cons, String.join_nil,
    String.append_empty]

/-- **The text of a sink that takes everything.** -/
theorem text_of_endless {sink : TextSink} (h : sink.room = none) {α : Type}
    (observe : α → Moment → α) (patience : Nat) (limit : Option UInt64) (notes : α) (c : Computer) :
    (c.runWith observe patience limit notes sink).sink.text =
      sink.text ++ valuesText (c.printed patience limit sink) := by
  refine (Computer.runWith_recorded (P := fun rec : Recorder TextSink =>
    rec.sink.room = none ∧ rec.sink.text = sink.text ++ valuesText rec.accepted)
    ?_ observe patience limit notes c ⟨h, (String.append_empty).symm⟩).2
  rintro rec value ⟨hroom, htext⟩
  have hemit : Sink.emit rec.sink value = (rec.sink.put (line value), none) :=
    write_of_room_none hroom _
  simp only [Sink.emit] at hemit ⊢
  rw [hemit]
  refine ⟨by rw [put, hroom]; rfl, ?_⟩
  rw [put_line, htext, valuesText_append, String.append_assoc]

/-- **The text of a sink that takes nothing.** -/
theorem text_of_full {sink : TextSink} (h : sink.room = some 0) {α : Type}
    (observe : α → Moment → α) (patience : Nat) (limit : Option UInt64) (notes : α) (c : Computer) :
    (c.runWith observe patience limit notes sink).sink.text = sink.text ∧
      c.printed patience limit sink = [] := by
  refine (Computer.runWith_recorded (P := fun rec : Recorder TextSink =>
    rec.sink.room = some 0 ∧ rec.sink.text = sink.text ∧ rec.accepted = [])
    ?_ observe patience limit notes c ⟨h, rfl, rfl⟩).2
  rintro rec value ⟨hroom, htext, haccepted⟩
  have hline : ¬ (line value).length ≤ 0 := by simp [line]
  have hemit : Sink.emit rec.sink value = (rec.sink.put [], some rec.sink.refusal) := by
    simp only [Sink.emit, write, hroom]
    exact if_neg hline
  simp only [Sink.emit] at hemit ⊢
  rw [hemit]
  refine ⟨by rw [put, hroom]; rfl, ?_, haccepted⟩
  rw [put, htext]
  exact String.append_empty

theorem text_of_room {sink : TextSink} (h : sink.room = none ∨ sink.room = some 0) {α : Type}
    (observe : α → Moment → α) (patience : Nat) (limit : Option UInt64) (notes : α) (c : Computer) :
    (c.runWith observe patience limit notes sink).sink.text =
      sink.text ++ valuesText (c.printed patience limit sink) := by
  obtain hendless | hfull := h
  · exact text_of_endless hendless observe patience limit notes c
  · obtain ⟨htext, hprinted⟩ := text_of_full hfull observe patience limit notes c
    rw [htext, hprinted]
    exact String.append_empty.symm

end TextSink

/-! ## Texts and values -/

/-- A sink for texts and one for values hold the same, and neither has a bound. -/
structure SameValues (u : TextSink) (t : ValueSink) : Prop where
  endless : u.room = none
  unbounded : t.capacity = none
  text_eq : u.text = valuesText t.values.toList

theorem alike_sameValues : Alike SameValues := by
  intro u t value h
  have hu : Sink.emit u value = (u.put (TextSink.line value), none) :=
    TextSink.write_of_room_none h.endless _
  rw [Answers, hu, ValueSink.emit_of_endless h.unbounded]
  refine ⟨rfl, by rw [TextSink.put, h.endless]; rfl, h.unbounded, ?_⟩
  rw [TextSink.put_line, h.text_eq, Array.toList_push, valuesText_append]

/-- **A run is the same with texts and with values.** -/
theorem runWith_values {u : TextSink} {t : ValueSink} (h : SameValues u t) {α : Type}
    (observe : α → Moment → α) (patience : Nat) (limit : Option UInt64) (notes : α) (c : Computer) :
    ∃ t', SameValues (c.runWith observe patience limit notes u).sink t' ∧
      c.runWith observe patience limit notes t =
        (c.runWith observe patience limit notes u).withSink t' := by
  rw [Computer.runWith_eq, Computer.runWith_eq]
  exact Computer.runFrom_answers alike_sameValues observe limit _ 0 notes c h

end LS8
