import LS8.Source.Line

/-!
# Cutting a text into lines

* `Cut`: a text and its lines, told by what stands between the line ends;
* `pieces_eq_singleton`: a text with a line feed at most at its end is one piece;
* `chomp_lf`, `chomp_crlf`: a piece without its line end;
* **`cut_iff`**: every text is cut in one way, which is the one that the loader follows.
-/

set_option autoImplicit false

namespace LS8.Source

/-- A text and the lines into which it is cut. -/
inductive Cut : List Char → List (List Char) → Prop
  /-- There are no lines in an empty text, nor after the last line feed. -/
  | nil : Cut [] []
  /-- The last line needs no line end. -/
  | last {line : List Char} (some : line ≠ []) (free : '\n' ∉ line) : Cut line [line]
  /-- A line ends at a line feed. -/
  | lf {line text : List Char} {lines : List (List Char)} (free : '\n' ∉ line)
    (bare : line.getLast? ≠ some '\r') (rest : Cut text lines) :
    Cut (line ++ '\n' :: text) (line :: lines)
  /-- A carriage return right before the line feed is no part of the line. -/
  | crlf {line text : List Char} {lines : List (List Char)} (free : '\n' ∉ line)
    (rest : Cut text lines) : Cut (line ++ '\r' :: '\n' :: text) (line :: lines)

/-! ## One line -/

/-- A text with a line feed at most at its end is one piece. -/
theorem pieces_eq_singleton {text : List Char} (hne : text ≠ []) (h : '\n' ∉ text.dropLast) :
    pieces text = [text] := by
  induction text with
  | nil => exact absurd rfl hne
  | cons c text ih =>
    by_cases ht : text = []
    · subst ht
      simp [cutBefore]
    · rw [List.dropLast_cons_of_ne_nil ht, List.mem_cons, not_or] at h
      rw [pieces_cons, ih ht h.2, cutBefore, if_neg (Ne.symm h.1)]

/-- A text that ends with its only line feed is cut off from what follows it. -/
theorem pieces_line_append {line : List Char} (h : '\n' ∉ line) (text : List Char) :
    pieces (line ++ '\n' :: text) = (line ++ ['\n']) :: pieces text := by
  have hs : (line ++ ['\n']).getLast? = some '\n' := by simp
  have he : line ++ '\n' :: text = (line ++ ['\n']) ++ text := by simp
  rw [he, pieces_append (Or.inr hs), pieces_eq_singleton (by simp) (by simpa using h)]
  rfl

theorem chomp_of_not_mem {line : List Char} (h : '\n' ∉ line) : chomp line = line := by
  rw [chomp]
  split
  · next hr => exact absurd (List.mem_reverse.mp (hr ▸ List.mem_cons_self)) h
  · next hr => exact absurd (List.mem_reverse.mp (hr ▸ List.mem_cons_self)) h
  · rfl

theorem chomp_crlf (line : List Char) : chomp (line ++ ['\r', '\n']) = line := by
  simp [chomp]

theorem chomp_lf {line : List Char} (h : line.getLast? ≠ some '\r') :
    chomp (line ++ ['\n']) = line := by
  rw [chomp, List.reverse_append]
  split
  · next line' hr =>
    have hl : line.reverse = '\r' :: line' := by simpa using hr
    rw [List.getLast?_eq_head?_reverse, hl] at h
    exact absurd rfl h
  · next line' _ hr =>
    have hl : line.reverse = line' := by simpa using hr
    rw [← hl, List.reverse_reverse]
  · next h1 h2 => exact absurd rfl (h2 line.reverse)

theorem chomp_isPrefix (line : List Char) : chomp (line ++ ['\n']) <+: line := by
  by_cases h : line.getLast? = some '\r'
  · obtain ⟨front, rfl⟩ := List.getLast?_eq_some_iff.mp h
    have hchomp : chomp (front ++ ['\r'] ++ ['\n']) = front := by
      rw [List.append_assoc]
      exact chomp_crlf front
    rw [hchomp]
    exact List.prefix_append front ['\r']
  · simp only [chomp_lf h, List.prefix_rfl]

/-! ## All the lines -/

theorem Cut.eq_lineTexts {text : List Char} {lines : List (List Char)} (h : Cut text lines) :
    lines = lineTexts text := by
  induction h with
  | nil => rfl
  | last some free =>
    rw [lineTexts, pieces_eq_singleton some fun hm => free (List.dropLast_subset _ hm)]
    simp [chomp_of_not_mem free]
  | lf free bare rest ih =>
    rw [ih, lineTexts, lineTexts, pieces_line_append free, List.map_cons, chomp_lf bare]
  | @crlf line text lines free rest ih =>
    have he : line ++ '\r' :: '\n' :: text = (line ++ ['\r']) ++ '\n' :: text := by simp
    have hf : '\n' ∉ line ++ ['\r'] := by simpa using free
    have hc : line ++ ['\r'] ++ ['\n'] = line ++ ['\r', '\n'] := by simp
    rw [ih, lineTexts, lineTexts, he, pieces_line_append hf, List.map_cons, hc, chomp_crlf]

/-- Every text can be cut: at its first line feed, and then what follows. -/
theorem exists_cut (text : List Char) : ∃ lines, Cut text lines := by
  induction hn : text.length using Nat.strongRecOn generalizing text with
  | ind n ih =>
    by_cases hf : '\n' ∈ text
    · obtain ⟨line, rest, rfl, free⟩ := List.eq_append_cons_of_mem hf
      have hlt : rest.length < n := by
        rw [← hn, List.length_append, List.length_cons]
        omega
      obtain ⟨lines, hr⟩ := ih rest.length hlt rest rfl
      by_cases hb : line.getLast? = some '\r'
      · obtain ⟨line, rfl⟩ := List.getLast?_eq_some_iff.mp hb
        have he : line ++ ['\r'] ++ '\n' :: rest = line ++ '\r' :: '\n' :: rest := by simp
        rw [he]
        exact ⟨_, .crlf (fun hm => free (List.mem_append_left _ hm)) hr⟩
      · exact ⟨_, .lf free hb hr⟩
    · by_cases ht : text = []
      · exact ⟨[], ht ▸ .nil⟩
      · exact ⟨[text], .last ht hf⟩

/-- **Every text is cut in one way**, which is the one that the loader follows. -/
theorem cut_iff {text : List Char} {lines : List (List Char)} :
    Cut text lines ↔ lines = lineTexts text := by
  constructor
  · exact Cut.eq_lineTexts
  · rintro rfl
    obtain ⟨lines, h⟩ := exists_cut text
    rw [← h.eq_lineTexts]
    exact h

/-- A carriage return that ends the text belongs to the last line. -/
example : lineTexts ['a', '\r', '\n', 'b', '\r'] = [['a'], ['b', '\r']] := by decide

end LS8.Source
