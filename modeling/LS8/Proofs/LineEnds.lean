import LS8.Proofs.Splice

/-!
# Line ends

A text may end its lines with a line feed alone or with a carriage return and a line feed.

* `withReturns`: the text with a carriage return before each line feed;
* `linesFrom_lf`, `linesFrom_crlf`: a line with either end, and the lines after it;
* **`lines_withReturns`**: the lines are the same, each further down by one byte for each line
  before it;
* **`Program.parse_withReturns`**: the loader says the same of both texts, but for the offset of what
  it refuses.
-/

set_option autoImplicit false

namespace LS8.Source

/-- The text with a carriage return before each line feed. -/
def withReturns (text : List Char) : List Char :=
  text.flatMap fun c => if c = '\n' then ['\r', '\n'] else [c]

theorem withReturns_of_not_mem {line : List Char} (h : '\n' ∉ line) : withReturns line = line := by
  induction line with
  | nil => rfl
  | cons c line ih =>
    rw [List.mem_cons, not_or] at h
    have hc : ¬ c = '\n' := fun he => h.1 he.symm
    rw [withReturns, List.flatMap_cons, if_neg hc, ← withReturns, ih h.2, List.singleton_append]

theorem withReturns_lf {line : List Char} (h : '\n' ∉ line) (text : List Char) :
    withReturns (line ++ '\n' :: text) = line ++ '\r' :: '\n' :: withReturns text := by
  rw [withReturns, List.flatMap_append, ← withReturns, withReturns_of_not_mem h,
    List.flatMap_cons, if_pos rfl, ← withReturns]
  rfl

/-! ## The first line -/

theorem linesFrom_last {line : List Char} (hne : line ≠ []) (h : '\n' ∉ line)
    (number offset : Nat) :
    linesFrom number offset (pieces line) = [⟨number, offset, line⟩] := by
  rw [pieces_eq_singleton hne fun hm => h (List.dropLast_subset _ hm), linesFrom,
    chomp_of_not_mem h, linesFrom]

theorem linesFrom_lf {line : List Char} (h : '\n' ∉ line) (hbare : line.getLast? ≠ some '\r')
    (text : List Char) (number offset : Nat) :
    linesFrom number offset (pieces (line ++ '\n' :: text)) =
      ⟨number, offset, line⟩ ::
        linesFrom (number + 1) (offset + utf8Length line + 1) (pieces text) := by
  rw [pieces_line_append h, linesFrom, chomp_lf hbare, utf8Length_append, ← Nat.add_assoc]
  rfl

theorem linesFrom_crlf {line : List Char} (h : '\n' ∉ line) (text : List Char)
    (number offset : Nat) :
    linesFrom number offset (pieces (line ++ '\r' :: '\n' :: text)) =
      ⟨number, offset, line⟩ ::
        linesFrom (number + 1) (offset + utf8Length line + 2) (pieces text) := by
  have hfree : '\n' ∉ line ++ ['\r'] := by simpa using h
  have hcut := pieces_line_append hfree text
  rw [List.append_assoc, List.singleton_append, List.append_assoc, List.singleton_append] at hcut
  rw [hcut, linesFrom, chomp_crlf, utf8Length_append, ← Nat.add_assoc]
  rfl

/-! ## All the lines -/

/-- The line with one byte more in front of it for each line that is. -/
def Line.withReturns (line : Line) : Line := line.moved 0 (line.number - 1)

theorem linesFrom_withReturns {text : List Char} {texts : List (List Char)} (h : Cut text texts)
    (hr : '\r' ∉ text) (before offset : Nat) :
    linesFrom (before + 1) (offset + before) (pieces (withReturns text)) =
      (linesFrom (before + 1) offset (pieces text)).map Line.withReturns := by
  -- By induction on the lines; each one moves those after it down by one byte more.
  induction h generalizing before offset with
  | nil => rfl
  | last some free =>
    rw [withReturns_of_not_mem free, linesFrom_last some free, linesFrom_last some free]
    rfl
  | @lf line text texts free bare rest ih =>
    have hrest : '\r' ∉ text := fun hm => hr (by simp [hm])
    have hoffset : offset + before + utf8Length line + 2 =
        offset + utf8Length line + 1 + (before + 1) := by omega
    rw [withReturns_lf free, linesFrom_crlf free, linesFrom_lf free bare, List.map_cons, hoffset,
      ih hrest]
    rfl
  | crlf free rest ih => exact absurd (by simp) hr

/-- **The lines are the same**, each further down by one byte for each line before it. -/
theorem lines_withReturns {text : List Char} (hr : '\r' ∉ text) :
    lines (withReturns text) = (lines text).map Line.withReturns :=
  linesFrom_withReturns (cut_iff.mpr rfl) hr 0 0

end LS8.Source

namespace LS8.Program

open Source

/-- **The loader says the same of a text whichever way its lines end**, but for the offset of what it
refuses, which counts the carriage returns in front of it. -/
theorem parse_withReturns {text : List Char} (hr : '\r' ∉ text) :
    (∀ p, parse (withReturns text) = .ok p ↔ parse text = .ok p) ∧
    (∀ size, parse (withReturns text) = .error (.tooLarge size) ↔
      parse text = .error (.tooLarge size)) ∧
    ∀ number span', parse (withReturns text) = .error (.badLiteral number span') ↔
      ∃ span literal, parse text = .error (.badLiteral number span) ∧
        span'.offset = span.offset + (number - 1) ∧ span'.length = span.length ∧
        span.covered? text = some literal ∧ span'.covered? (withReturns text) = some literal := by
  have htext : ∀ line : Line, line.withReturns.text = line.text := fun _ => rfl
  have hrefused : refused? (lines (withReturns text)) =
      (refused? (lines text)).map Line.withReturns := by
    rw [lines_withReturns hr, refused?_map htext]
  have hbytes : bytesOn (lines (withReturns text)) = bytesOn (lines text) := by
    rw [lines_withReturns hr, bytesOn_map htext]
  cases h : refused? (lines text) with
  | none =>
    -- Nothing is refused, and then only the bytes on the lines count.
    have hsame : parse (withReturns text) = parse text := by
      rw [parse, parse, ofLines_eq, ofLines_eq, hrefused, h, Option.map_none, hbytes]
    rw [hsame]
    refine ⟨fun _ => Iff.rfl, fun _ => Iff.rfl, fun number span' => ?_⟩
    constructor
    · intro hbad
      exact absurd hbad (parse_ne_badLiteral h number span')
    · rintro ⟨span, _, hbad, _⟩
      exact absurd hbad (parse_ne_badLiteral h number span)
  | some line =>
    rw [h, Option.map_some] at hrefused
    have hparse := parse_of_refused h
    have hparse' := parse_of_refused hrefused
    have hcovered := covered?_culprit (mem_of_refused h)
    have hcovered' := covered?_culprit (mem_of_refused hrefused)
    rw [Line.withReturns, culprit_moved] at hparse' hcovered'
    rw [hparse, hparse']
    refine ⟨by simp, by simp, fun number span' => ?_⟩
    constructor
    · intro hbad
      rw [Except.error.injEq, LoadError.badLiteral.injEq] at hbad
      obtain ⟨rfl, rfl⟩ := hbad
      exact ⟨_, _, rfl, rfl, rfl, hcovered, hcovered'⟩
    · rintro ⟨span, _, hbad, hoffset, hlength, -⟩
      rw [Except.error.injEq, LoadError.badLiteral.injEq] at hbad
      obtain ⟨rfl, rfl⟩ := hbad
      have hspan : span' = (culprit line).moved (line.number - 1) := by
        cases span'
        cases hoffset
        cases hlength
        rfl
      rw [hspan]
      rfl

/-- The third line is two bytes further down. -/
theorem parse_withReturns_third :
    '\r' ∉ "10000010\n\nx".toList ∧
      withReturns "10000010\n\nx".toList = "10000010\r\n\r\nx".toList ∧
      parse "10000010\n\nx".toList = .error (.badLiteral 3 ⟨10, 1⟩) ∧
      parse "10000010\r\n\r\nx".toList = .error (.badLiteral 3 ⟨12, 1⟩) := by
  have hr : '\r' ∉ "10000010\n\nx".toList := by decide
  have hparse : parse "10000010\n\nx".toList = .error (.badLiteral 3 ⟨10, 1⟩) := rfl
  have hreturns : withReturns "10000010\n\nx".toList = "10000010\r\n\r\nx".toList := rfl
  refine ⟨hr, hreturns, hparse, ?_⟩
  rw [← hreturns, (parse_withReturns hr).2.2]
  exact ⟨⟨10, 1⟩, ['x'], hparse, rfl, rfl, rfl, rfl⟩

end LS8.Program
