import LS8.Proofs.Refusal

/-!
# Source texts one after the other

A text that ends with a line feed is loaded apart from what follows it.

* `Line.moved`, `Span.moved`: a line and a span further down in a longer text;
* `length_pieces`: each line feed ends a line;
* **`lines_splice`**: the lines of two texts one after the other;
* `refused?_append`, `refused?_map`, `bytesOn_append`, `bytesOn_map`: what the loader makes of them;
* **`Program.parse_append`**: what the loader says of a text is said of it in front of another text,
  and then of that text, where it stands.
-/

set_option autoImplicit false

namespace LS8.Source

/-! ## Further down -/

/-- The line with so many lines and bytes more in front of it. -/
def Line.moved (lines bytes : Nat) (line : Line) : Line :=
  { line with number := line.number + lines, offset := line.offset + bytes }

/-- The span with so many bytes more in front of it. -/
def Span.moved (bytes : Nat) (span : Span) : Span := { span with offset := span.offset + bytes }

theorem Line.text_moved (lines bytes : Nat) (line : Line) :
    (line.moved lines bytes).text = line.text := rfl

theorem culprit_moved (lines bytes : Nat) (line : Line) :
    culprit (line.moved lines bytes) = (culprit line).moved bytes := by
  obtain ⟨left, literal, right, comment, h⟩ := exists_parts line.text
  have hmoved : Parts (line.moved lines bytes).text left literal right comment := h
  rw [h.culprit_eq, hmoved.culprit_eq]
  simp [Line.moved, Span.moved, Nat.add_right_comm]

theorem linesFrom_moved (number offset lines bytes : Nat) (ps : List (List Char)) :
    linesFrom (number + lines) (offset + bytes) ps =
      (linesFrom number offset ps).map (Line.moved lines bytes) := by
  induction ps generalizing number offset with
  | nil => rfl
  | cons p ps ih =>
    rw [linesFrom, linesFrom, List.map_cons, ← ih, Nat.add_right_comm number,
      Nat.add_right_comm offset]
    rfl

theorem length_cutBefore_of_ne {c : Char} (hc : c ≠ '\n') {rest : List (List Char)}
    (h : rest ≠ []) : (cutBefore c rest).length = rest.length := by
  unfold cutBefore
  rw [if_neg hc]
  cases rest with
  | nil => exact absurd rfl h
  | cons piece rest => rfl

/-- Each line feed of a text that ends with one ends a line. -/
theorem length_pieces {text : List Char} (h : text = [] ∨ text.getLast? = some '\n') :
    (pieces text).length = text.count '\n' := by
  induction text with
  | nil => rfl
  | cons c text ih =>
    by_cases ht : text = []
    · subst ht
      have hc : c = '\n' := by simpa using h
      simp [hc, cutBefore]
    · have hl : text.getLast? = some '\n' := by
        rw [List.getLast?_cons_of_ne_nil ht] at h
        simpa using h
      rw [pieces_cons]
      by_cases hc : c = '\n'
      · subst hc
        simp [cutBefore, ih (Or.inr hl)]
      · rw [length_cutBefore_of_ne hc (pieces_ne_nil ht), List.count_cons_of_ne hc,
          ih (Or.inr hl)]

/-- **The lines of a text in front of another one stay what they are**, and those of the other one
are further down. -/
theorem lines_splice {s : List Char} (h : s = [] ∨ s.getLast? = some '\n') (t : List Char) :
    lines (s ++ t) = lines s ++ (lines t).map (Line.moved (s.count '\n') (utf8Length s)) := by
  have hn : (lineTexts s).length + 1 = 1 + s.count '\n' := by
    rw [lineTexts, List.length_map, length_pieces h, Nat.add_comm]
  rw [lines_append h, hn, lines, lines, ← linesFrom_moved, Nat.zero_add]

end LS8.Source

namespace LS8.Program

open Source

/-! ## What the loader makes of the lines -/

theorem refused?_append (ls ls' : List Line) :
    refused? (ls ++ ls') = (refused? ls).or (refused? ls') :=
  List.find?_append

theorem bytesOn_append (ls ls' : List Line) : bytesOn (ls ++ ls') = bytesOn ls ++ bytesOn ls' :=
  List.flatMap_append

section Map

variable {f : Line → Line} (hf : ∀ line, (f line).text = line.text)

include hf

theorem refused?_map (ls : List Line) : refused? (ls.map f) = (refused? ls).map f := by
  have hp : (fun line : Line => (content? line.text).isNone) ∘ f =
      fun line => (content? line.text).isNone := by
    funext line
    simp only [Function.comp_apply, hf]
  rw [refused?, List.find?_map, hp, refused?]

theorem bytesOn_map (ls : List Line) : bytesOn (ls.map f) = bytesOn ls := by
  simp only [bytesOn, List.flatMap_map, hf]

end Map

/-- **A text that ends with a line feed is loaded apart from what follows it.** If it is refused, so
are both texts together, and for the same span. Otherwise they are refused for what the second one
is, further down, or they hold the bytes of the first and then those of the second. -/
theorem parse_append {s : List Char} (h : s = [] ∨ s.getLast? = some '\n') (t : List Char) :
    ((¬ ∀ line ∈ lineTexts s, InGrammar line) →
      ∃ number span, parse s = .error (.badLiteral number span) ∧
        parse (s ++ t) = .error (.badLiteral number span)) ∧
    ((∀ line ∈ lineTexts s, InGrammar line) →
      ((¬ ∀ line ∈ lineTexts t, InGrammar line) →
        ∃ number span literal,
          parse t = .error (.badLiteral number span) ∧ span.covered? t = some literal ∧
          parse (s ++ t) = .error (.badLiteral (number + s.count '\n')
            ⟨span.offset + utf8Length s, span.length⟩) ∧
          Span.covered? ⟨span.offset + utf8Length s, span.length⟩ (s ++ t) = some literal) ∧
      ((∀ line ∈ lineTexts t, InGrammar line) →
        let n := (lineTexts s).countP (HoldsLiteral ·) + (lineTexts t).countP (HoldsLiteral ·)
        (n ≤ 256 → ∃ p q r, parse s = .ok p ∧ parse t = .ok q ∧ parse (s ++ t) = .ok r ∧
          r.bytes = p.bytes ++ q.bytes) ∧
        (256 < n → parse (s ++ t) = .error (.tooLarge n)))) := by
  have hmoved := Line.text_moved (s.count '\n') (utf8Length s)
  have hrefused : refused? (lines (s ++ t)) = (refused? (lines s)).or
      ((refused? (lines t)).map (Line.moved (s.count '\n') (utf8Length s))) := by
    rw [lines_splice h, refused?_append, refused?_map hmoved]
  have hbytes : bytesOn (lines (s ++ t)) = bytesOn (lines s) ++ bytesOn (lines t) := by
    rw [lines_splice h, bytesOn_append, bytesOn_map hmoved]
  rw [← refused?_lines_eq_none_iff, ← refused?_lines_eq_none_iff]
  refine ⟨fun hs => ?_, fun hs => ⟨fun ht => ?_, fun ht => ?_⟩⟩
  · -- The line that the first text is refused for comes first in both together.
    obtain ⟨line, hline⟩ := Option.ne_none_iff_exists'.mp hs
    rw [hline, Option.some_or] at hrefused
    exact ⟨_, _, parse_of_refused hline, parse_of_refused hrefused⟩
  · -- No line of the first text is in the way, however many bytes are on its lines.
    obtain ⟨line, hline⟩ := Option.ne_none_iff_exists'.mp ht
    rw [hs, hline, Option.none_or, Option.map_some] at hrefused
    have hcovered := covered?_culprit (mem_of_refused hrefused)
    have hparse := parse_of_refused hrefused
    rw [culprit_moved] at hcovered hparse
    exact ⟨_, _, _, parse_of_refused hline, covered?_culprit (mem_of_refused hline), hparse,
      hcovered⟩
  · rw [hs, ht, Option.none_or, Option.map_none] at hrefused
    have hlength : (bytesOn (lines (s ++ t))).length =
        (lineTexts s).countP (HoldsLiteral ·) + (lineTexts t).countP (HoldsLiteral ·) := by
      rw [hbytes, List.length_append, length_bytesOn hs, length_bytesOn ht]
    intro n
    refine ⟨fun hle => ?_, fun hlt => ?_⟩
    · have hfits : (bytesOn (lines (s ++ t))).length ≤ memorySize := hlength ▸ hle
      have hsum := congrArg List.length hbytes
      rw [List.length_append] at hsum
      exact ⟨_, _, _, parse_of_fits hs (by omega), parse_of_fits ht (by omega),
        parse_of_fits hrefused hfits, hbytes⟩
    · rw [parse_of_large hrefused (hlength ▸ hlt), hlength]

/-- The second line of the two texts together starts after nine bytes. -/
theorem parse_append_accent :
    "10000010\n".toList.getLast? = some '\n' ∧
      parse "é # acute".toList = .error (.badLiteral 1 ⟨0, 2⟩) ∧
      parse ("10000010\n".toList ++ "é # acute".toList) = .error (.badLiteral 2 ⟨9, 2⟩) := by
  have hend : "10000010\n".toList.getLast? = some '\n' := rfl
  have hs : ∀ line ∈ lineTexts "10000010\n".toList, InGrammar line :=
    refused?_lines_eq_none_iff.mp (by rfl)
  have ht : ¬ ∀ line ∈ lineTexts "é # acute".toList, InGrammar line := by
    rw [← refused?_lines_eq_none_iff]
    decide
  have hparse : parse "é # acute".toList = .error (.badLiteral 1 ⟨0, 2⟩) := rfl
  obtain ⟨number, span, _, hsecond, -, hboth, -⟩ :=
    ((parse_append (Or.inr hend) "é # acute".toList).2 hs).1 ht
  rw [hparse, Except.error.injEq, LoadError.badLiteral.injEq] at hsecond
  obtain ⟨rfl, rfl⟩ := hsecond
  exact ⟨hend, hparse, hboth⟩

end LS8.Program
