import LS8.Proofs.Numeral
import LS8.Proofs.Output
import LS8.Proofs.Recurrence

/-!
# Reading what was printed

A line of printed text holds a decimal numeral and nothing else. A numeral has no line feed in it, so
the lines of a text can be told apart and their values be read back.

* `valuesOf`, **`valuesOf_valuesText`**: the values on the lines of a text;
* **`runWith_unfailing`**: a run is the same with any two sinks that never fail;
* `ValueSink.values_of_endless`: what a run leaves in a sink for values;
* **`runWith_text_values`**: a run leaves as much in a text as in a list of values.
-/

set_option autoImplicit false

namespace LS8

/-! ## Lines -/

/-- The values on the lines of a text. Each line ends with a line feed, and what comes after the last
of them is none. -/
def valuesOf (text : String) : List UInt8 :=
  (text.toList.splitOn '\n').dropLast.map fun digits => UInt8.ofNat (Nat.ofDigitChars 10 digits 0)

theorem toList_valuesText_cons (value : UInt8) (values : List UInt8) :
    (valuesText (value :: values)).toList =
      Nat.toDigits 10 value.toNat ++ '\n' :: (valuesText values).toList := by
  rw [valuesText, List.map_cons, String.join_cons, String.toList_append, String.toList_append,
    Nat.toString_eq_repr, Nat.toList_repr, List.append_assoc]
  rfl

/-- **The values of a text are read back.** -/
theorem valuesOf_valuesText (values : List UInt8) : valuesOf (valuesText values) = values := by
  induction values with
  | nil => rfl
  | cons value values ih =>
    have hnumeral := isNumeral_toDigits value.toNat
    rw [valuesOf, toList_valuesText_cons, List.splitOn,
      List.splitOnP_append_cons_of_forall_mem hnumeral.not_lf _ (by decide),
      List.dropLast_cons_of_ne_nil (List.splitOnP_ne_nil _ _), List.map_cons, hnumeral.value,
      UInt8.ofNat_toNat]
    exact congrArg _ ih

/-! ## Runs -/

/-- **A run is the same with any two sinks that never fail**, but for the sinks that it leaves. -/
theorem Computer.runWith_unfailing {σ τ : Type} [Sink σ] [Sink τ] {u : σ} {t : τ}
    (hu : Sink.Unfailing u) (ht : Sink.Unfailing t) {α : Type} (observe : α → Moment → α)
    (patience : Nat) (limit : Option UInt64) (notes : α) (c : Computer) :
    ∃ t', c.runWith observe patience limit notes t =
      (c.runWith observe patience limit notes u).withSink t' := by
  rw [runWith_eq, runWith_eq]
  obtain ⟨t', _, hrun⟩ := runFrom_answers alike_unfailing observe limit _ 0 notes c ⟨hu, ht⟩
  exact ⟨t', hrun⟩

/-- **The values in a sink that takes everything.** -/
theorem ValueSink.values_of_endless {sink : ValueSink} (h : sink.capacity = none) {α : Type}
    (observe : α → Moment → α) (patience : Nat) (limit : Option UInt64) (notes : α) (c : Computer) :
    (c.runWith observe patience limit notes sink).sink.values.toList =
      sink.values.toList ++ c.printed patience limit sink := by
  refine (Computer.runWith_recorded (P := fun rec : Recorder ValueSink =>
    rec.sink.capacity = none ∧ rec.sink.values.toList = sink.values.toList ++ rec.accepted)
    ?_ observe patience limit notes c ⟨h, (List.append_nil _).symm⟩).2
  rintro rec value ⟨hcapacity, hvalues⟩
  have hemit := emit_of_endless hcapacity value
  simp only [Sink.emit] at hemit ⊢
  rw [hemit]
  refine ⟨hcapacity, ?_⟩
  rw [Array.toList_push, hvalues, List.append_assoc]

/-- **A run leaves as much in a text as in a list of values**, whatever was there before. Both runs
are the same, and each printed value stands in the text as its only numeral and a line feed. No two
lists of values have the same text, since the values can be read back. -/
theorem runWith_text_values {α : Type} (observe : α → Moment → α) (patience : Nat)
    (limit : Option UInt64) (notes : α) (c : Computer) (before : String) (refusal : IoError)
    (earlier : Array UInt8) :
    let text := c.runWith observe patience limit notes ({ text := before, refusal } : TextSink)
    let list := c.runWith observe patience limit notes ({ values := earlier } : ValueSink)
    (text.result = list.result ∧ text.computer = list.computer ∧ text.notes = list.notes) ∧
      (∃ values, list.sink.values.toList = earlier.toList ++ values ∧
        text.sink.text = before ++ valuesText values) ∧
      (∀ values, valuesText values =
        String.join (values.map fun value => toString value.toNat ++ "\n")) ∧
      (∀ (value : UInt8) digits,
        IsNumeral digits value.toNat ↔ digits = (toString value.toNat).toList) ∧
      (∀ values, valuesOf (valuesText values) = values) ∧
      ∀ values values', valuesText values = valuesText values' → values = values' := by
  intro text list
  have hu : Sink.Unfailing ({ text := before, refusal } : TextSink) := TextSink.unfailing rfl
  have ht : Sink.Unfailing ({ values := earlier } : ValueSink) := ValueSink.unfailing rfl
  refine ⟨?_, ⟨c.printed patience limit ({ values := earlier } : ValueSink), ?_, ?_⟩,
    fun _ => rfl, ?_, valuesOf_valuesText, ?_⟩
  · obtain ⟨t', hrun⟩ := Computer.runWith_unfailing hu ht observe patience limit notes c
    have hlist : list = text.withSink t' := hrun
    rw [hlist]
    exact ⟨rfl, rfl, rfl⟩
  · exact ValueSink.values_of_endless rfl observe patience limit notes c
  · have hprinted := Computer.Twins.printed_eq (c := c) ⟨rfl, rfl, rfl⟩ hu ht patience limit
    rw [hprinted]
    exact TextSink.text_of_endless rfl observe patience limit notes c
  · intro value digits
    rw [Nat.toString_eq_repr, Nat.toList_repr]
    exact isNumeral_iff
  · intro values values' h
    rw [← valuesOf_valuesText values, h, valuesOf_valuesText]

example : valuesOf "5\n255\n0\n" = [5, 255, 0] := by decide

end LS8
