import LS8.Proofs.Grammar

/-!
# The line that a source text is refused for

* `Parts`: a line around the literal that was meant, which `culprit` points at;
* `LineAt`: where a line stands in a source text;
* `lines_of_lineAt`: the number and the offset that the loader keeps with such a line;
* **`Program.parse_culprit`**: the loader refuses a text for its first line outside the grammar, and
  the span of the error covers what is left of that line without its comment and its white space.
-/

set_option autoImplicit false

namespace LS8.Source

/-! ## The line feeds -/

theorem Cut.free {text : List Char} {lines : List (List Char)} (h : Cut text lines) :
    ∀ line ∈ lines, '\n' ∉ line := by
  induction h with
  | nil => simp
  | last some free => simpa using free
  | lf free bare rest ih => exact List.forall_mem_cons.mpr ⟨free, ih⟩
  | crlf free rest ih => exact List.forall_mem_cons.mpr ⟨free, ih⟩

/-! ## The parts of a line outside the grammar -/

/-- What is left of a line without its comment and without the blanks around the rest. If nothing is
left, that is at the start of the line. -/
structure Parts (line left literal right comment : List Char) : Prop where
  line_eq : line = left ++ literal ++ right ++ comment
  free : '#' ∉ left ++ literal ++ right
  isComment : IsComment comment
  left_blank : ∀ c ∈ left, isBlank c
  right_blank : ∀ c ∈ right, isBlank c
  starts : ∀ c, literal.head? = some c → isBlank c = false
  ends : ∀ c, literal.getLast? = some c → isBlank c = false
  at_start : literal = [] → left = []

theorem isComment_dropWhile (line : List Char) : IsComment (line.dropWhile (· ≠ '#')) := by
  have hd := List.head?_dropWhile_not (fun c : Char => decide (c ≠ '#')) line
  cases hc : line.dropWhile (· ≠ '#') with
  | nil => exact Or.inl rfl
  | cons c rest =>
    rw [hc] at hd
    have he : c = '#' := by simpa using hd
    exact Or.inr ⟨rest, by rw [he]⟩

theorem not_mem_takeWhile (line : List Char) : '#' ∉ line.takeWhile (· ≠ '#') := fun hm => by
  simpa using List.all_eq_true.mp List.all_takeWhile _ hm

theorem exists_parts (line : List Char) :
    ∃ left literal right comment, Parts line left literal right comment := by
  obtain ⟨left, right, hbody, hl, hr, hs, he⟩ := exists_trim (line.takeWhile (· ≠ '#'))
  have hfree := not_mem_takeWhile line
  have hline : line = line.takeWhile (· ≠ '#') ++ line.dropWhile (· ≠ '#') :=
    List.takeWhile_append_dropWhile.symm
  generalize trim (line.takeWhile (· ≠ '#')) = literal at hbody hs he
  rw [hbody] at hfree hline
  by_cases hn : literal = []
  · -- All that stands before the comment is blank, and counts as what follows the start.
    subst hn
    refine ⟨[], [], left ++ right, _, by simpa using hline, by simpa using hfree,
      isComment_dropWhile line, by simp, ?_, hs, he, fun _ => rfl⟩
    exact fun c hc => (List.mem_append.mp hc).elim (hl c) (hr c)
  · exact ⟨left, literal, right, _, hline, hfree, isComment_dropWhile line, hl, hr, hs, he,
      fun h => absurd h hn⟩

theorem Parts.body {line left literal right comment : List Char}
    (h : Parts line left literal right comment) :
    line.takeWhile (· ≠ '#') = left ++ literal ++ right := by
  have hp : ∀ c ∈ left ++ literal ++ right, decide (c ≠ '#') = true := by
    intro c hc
    have hne : c ≠ '#' := fun he => h.free (he ▸ hc)
    exact decide_eq_true hne
  rw [h.line_eq, List.takeWhile_append_of_pos hp]
  obtain hn | ⟨rest, hc⟩ := h.isComment
  · rw [hn, List.takeWhile_nil, List.append_nil]
  · rw [hc, List.takeWhile_cons_of_neg (by simp), List.append_nil]

/-- **The blame falls on what is left of the line.** -/
theorem Parts.culprit_eq {line : Line} {left literal right comment : List Char}
    (h : Parts line.text left literal right comment) :
    culprit line = ⟨line.offset + utf8Length left, utf8Length literal⟩ := by
  have ht : trim (left ++ literal ++ right) = literal :=
    trim_append h.left_blank h.right_blank h.starts h.ends
  rw [culprit, h.body, ht]
  cases hl : literal with
  | nil => simp [h.at_start hl]
  | cons c rest =>
    have hc : ¬ isBlank c = true := by simp [h.starts c (by rw [hl, List.head?_cons])]
    rw [List.append_assoc, List.takeWhile_append_of_pos h.left_blank, List.cons_append,
      List.takeWhile_cons_of_neg hc, List.append_nil]
    rfl

/-! ## Where a line stands -/

/-- A line stands in a text right after the text `before`, which is cut into the lines `earlier`. -/
structure LineAt (source : List Char) (earlier : List (List Char)) (before line : List Char) :
    Prop where
  start : before = [] ∨ before.getLast? = some '\n'
  cut_before : Cut before earlier
  cut_source : ∃ later, Cut source (earlier ++ line :: later)
  front : before ++ line <+: source

/-- Another line in front moves a line on. -/
theorem LineAt.after {source before line first : List Char} {earlier : List (List Char)}
    (h : LineAt source earlier before line) (head : List Char) (hlf : head.getLast? = some '\n')
    (hcut : ∀ text lines, Cut text lines → Cut (head ++ text) (first :: lines)) :
    LineAt (head ++ source) (first :: earlier) (head ++ before) line := by
  obtain ⟨later, hc⟩ := h.cut_source
  refine ⟨Or.inr ?_, hcut _ _ h.cut_before, ⟨later, hcut _ _ hc⟩, ?_⟩
  · obtain hb | hb := h.start
    · rw [hb, List.append_nil, hlf]
    · rw [List.getLast?_append, hb, Option.some_or]
  · rw [List.append_assoc]
    exact (List.prefix_append_right_inj head).mpr h.front

theorem exists_lineAt {source : List Char} {earlier later : List (List Char)} {line : List Char}
    (h : Cut source (earlier ++ line :: later)) : ∃ before, LineAt source earlier before line := by
  induction earlier generalizing source with
  | nil =>
    refine ⟨[], Or.inl rfl, .nil, ⟨later, h⟩, ?_⟩
    cases h with
    | last some free => exact List.prefix_rfl
    | lf free bare rest => exact List.prefix_append line _
    | crlf free rest => exact List.prefix_append line _
  | cons first earlier ih =>
    generalize htail : first :: earlier ++ line :: later = all at h
    cases h with
    | nil => cases htail
    | last some free => simp at htail
    | @lf _ text lines free bare rest =>
      obtain ⟨rfl, rfl⟩ := List.cons.inj htail
      obtain ⟨before, hb⟩ := ih rest
      have ha := hb.after (first ++ ['\n']) (by simp) fun t ls ht => by
        simpa using Cut.lf free bare ht
      exact ⟨first ++ ['\n'] ++ before, by simpa using ha⟩
    | @crlf _ text lines free rest =>
      obtain ⟨rfl, rfl⟩ := List.cons.inj htail
      obtain ⟨before, hb⟩ := ih rest
      have ha := hb.after (first ++ ['\r', '\n']) (by simp) fun t ls ht => by
        simpa using Cut.crlf free ht
      exact ⟨first ++ ['\r', '\n'] ++ before, by simpa using ha⟩

theorem lines_append {before : List Char} (h : before = [] ∨ before.getLast? = some '\n')
    (text : List Char) :
    lines (before ++ text) = lines before ++
      linesFrom ((lineTexts before).length + 1) (utf8Length before) (pieces text) := by
  have hl : (pieces before).length = (lineTexts before).length := (List.length_map _).symm
  rw [lines, pieces_append h, linesFrom_append, flatten_pieces, hl, Nat.zero_add, Nat.add_comm 1]
  rfl

theorem linesFrom_eq_cons {number offset : Nat} {ps : List (List Char)} {line : List Char}
    {texts : List (List Char)} (h : (linesFrom number offset ps).map Line.text = line :: texts) :
    ∃ later, linesFrom number offset ps = ⟨number, offset, line⟩ :: later := by
  cases ps with
  | nil => cases h
  | cons p ps =>
    obtain ⟨rfl, _⟩ := List.cons.inj h
    exact ⟨_, rfl⟩

/-- The loader keeps the number of such a line and the length of what stands before it. -/
theorem lines_of_lineAt {source : List Char} {earlier : List (List Char)} {before line : List Char}
    (h : LineAt source earlier before line) :
    ∃ later, lines source =
      lines before ++ ⟨earlier.length + 1, utf8Length before, line⟩ :: later := by
  obtain ⟨later, hc⟩ := h.cut_source
  obtain ⟨after, rfl⟩ := h.front
  have hb : earlier = lineTexts before := cut_iff.mp h.cut_before
  have ht := map_text_lines (before ++ line ++ after)
  rw [← cut_iff.mp hc, List.append_assoc, lines_append h.start, List.map_append, map_text_lines,
    ← hb] at ht
  obtain ⟨more, hm⟩ := linesFrom_eq_cons (List.append_cancel_left ht)
  rw [List.append_assoc, lines_append h.start, ← hb, hm]
  exact ⟨more, rfl⟩

/-- **The number and the offset of a line say where it stands.** -/
theorem lineAt_of_lines {source : List Char} {earlier later : List Line} {line : Line}
    (h : lines source = earlier ++ line :: later) :
    ∃ before, LineAt source (earlier.map Line.text) before line.text ∧
      line.number = earlier.length + 1 ∧ line.offset = utf8Length before := by
  have hc : lineTexts source = earlier.map Line.text ++ line.text :: later.map Line.text := by
    rw [← map_text_lines, h, List.map_append, List.map_cons]
  obtain ⟨before, hat⟩ := exists_lineAt (cut_iff.mpr hc.symm)
  obtain ⟨more, hm⟩ := lines_of_lineAt hat
  have hlen : earlier.length = (lines before).length := by
    have hb := congrArg List.length (cut_iff.mp hat.cut_before)
    rwa [← map_text_lines, List.length_map, List.length_map] at hb
  obtain ⟨_, hl⟩ := List.append_inj (h.symm.trans hm) hlen
  have hline := (List.cons.inj hl).1
  rw [List.length_map] at hline
  exact ⟨before, hat, by rw [hline], by rw [hline]⟩

/-- The literal of a line lies on the line, which lies in the source. -/
theorem LineAt.covered {source before line left literal right comment : List Char}
    {earlier : List (List Char)} (hat : LineAt source earlier before line)
    (hparts : Parts line left literal right comment) :
    utf8Length (before ++ left) + utf8Length literal ≤ utf8Length (before ++ line) ∧
      utf8Length (before ++ line) ≤ utf8Length source ∧
      Span.covered? ⟨utf8Length (before ++ left), utf8Length literal⟩ source = some literal := by
  obtain ⟨after, rfl⟩ := hat.front
  have hline := hparts.line_eq
  have hsource : before ++ line ++ after =
      before ++ left ++ (literal ++ (right ++ comment ++ after)) := by
    simp [hline]
  refine ⟨?_, ?_, ?_⟩
  · rw [hline]
    simp only [utf8Length_append]
    omega
  · rw [utf8Length_append _ after]
    omega
  · rw [hsource]
    exact Span.covered?_append _ _ _

end LS8.Source

namespace LS8.Program

open Source

/-- The first line outside the grammar is blamed. -/
theorem ofLines_eq_badLiteral_iff {lines : List Line} {number : Nat} {span : Span} :
    ofLines lines = .error (.badLiteral number span) ↔
      ∃ earlier line later, lines = earlier ++ line :: later ∧
        (∀ l ∈ earlier, InGrammar l.text) ∧ ¬ InGrammar line.text ∧
        number = line.number ∧ span = culprit line := by
  constructor
  · intro h
    induction lines with
    | nil => cases h
    | cons line lines ih =>
      rw [ofLines] at h
      cases hc : content? line.text with
      | none =>
        rw [hc] at h
        cases h
        exact ⟨[], line, lines, rfl, by simp, content?_eq_none_iff.mp hc, rfl, rfl⟩
      | some content =>
        have hg : InGrammar line.text := ⟨content, content?_eq_some_iff.mp hc⟩
        rw [hc] at h
        cases ho : ofLines lines with
        | ok bytes => simp [ho, Except.map] at h
        | error e =>
          have he : e = .badLiteral number span := by simpa [ho, Except.map] using h
          obtain ⟨earlier, bad, later, rfl, hl, hb⟩ := ih (he ▸ ho)
          exact ⟨line :: earlier, bad, later, rfl, List.forall_mem_cons.mpr ⟨hg, hl⟩, hb⟩
  · rintro ⟨earlier, line, later, rfl, hl, hb, rfl, rfl⟩
    induction earlier with
    | nil => rw [List.nil_append, ofLines, content?_eq_none_iff.mpr hb]
    | cons first earlier ih =>
      obtain ⟨⟨content, hc⟩, hl⟩ := List.forall_mem_cons.mp hl
      rw [List.cons_append, ofLines, content?_eq_some_iff.mpr hc, ih hl]
      rfl

theorem parse_eq_badLiteral_iff {source : List Char} {number : Nat} {span : Span} :
    parse source = .error (.badLiteral number span) ↔
      ofLines (lines source) = .error (.badLiteral number span) := by
  rw [parse]
  split
  · next e ho => rw [ho, Except.error.injEq, Except.error.injEq]
  · next bytes ho =>
    rw [ho]
    split
    · simp
    · simp

/-- **The loader refuses a text for its first line outside the grammar**, however many bytes the
lines before it hold. The error points at what is left of that line, where it stands on the line. -/
theorem parse_culprit (source : List Char) (number : Nat) (span : Span) :
    parse source = .error (.badLiteral number span) ↔
      ∃ earlier before line left literal right comment,
        LineAt source earlier before line ∧ (∀ l ∈ earlier, InGrammar l) ∧ ¬ InGrammar line ∧
        Parts line left literal right comment ∧ number = earlier.length + 1 ∧
        span.offset = utf8Length (before ++ left) ∧ span.length = utf8Length literal ∧
        utf8Length before ≤ span.offset ∧
        span.offset + span.length ≤ utf8Length (before ++ line) ∧
        utf8Length (before ++ line) ≤ utf8Length source ∧
        '\n' ∉ line ∧ span.covered? source = some literal := by
  rw [parse_eq_badLiteral_iff, ofLines_eq_badLiteral_iff]
  constructor
  · rintro ⟨earlier, line, later, hlines, hl, hb, rfl, rfl⟩
    obtain ⟨before, hat, hnumber, hoffset⟩ := lineAt_of_lines hlines
    obtain ⟨left, literal, right, comment, hparts⟩ := exists_parts line.text
    obtain ⟨hon, hin, hcovered⟩ := hat.covered hparts
    obtain ⟨_, hcut⟩ := hat.cut_source
    have hfree : '\n' ∉ line.text := hcut.free _ (by simp)
    have hspan : culprit line = ⟨utf8Length (before ++ left), utf8Length literal⟩ := by
      rw [hparts.culprit_eq, hoffset, utf8Length_append]
    have hstart : utf8Length before ≤ utf8Length (before ++ left) := by
      rw [utf8Length_append]
      omega
    have hearlier : ∀ l ∈ earlier.map Line.text, InGrammar l := List.forall_mem_map.mpr hl
    refine ⟨_, before, line.text, left, literal, right, comment, hat, hearlier, hb, hparts, ?_⟩
    rw [hspan, List.length_map]
    exact ⟨hnumber, rfl, rfl, hstart, hon, hin, hfree, hcovered⟩
  · rintro ⟨earlier, before, line, left, literal, right, comment, hat, hl, hb, hparts, rfl, ho, hn,
      _⟩
    obtain ⟨later, hlines⟩ := lines_of_lineAt hat
    have hearlier : ∀ l ∈ lines before, InGrammar l.text := by
      rw [← List.forall_mem_map, map_text_lines, ← cut_iff.mp hat.cut_before]
      exact hl
    refine ⟨lines before, _, later, hlines, hearlier, hb, rfl, ?_⟩
    rw [utf8Length_append] at ho
    rw [hparts.culprit_eq, ← ho, ← hn]

/-- Neither the tab nor the space before the comment is covered, and bytes are counted. -/
example : parse "10000010\r\n\t10000010\u3000é # LDI\n".toList = .error (.badLiteral 2 ⟨11, 13⟩) :=
  rfl

end LS8.Program
