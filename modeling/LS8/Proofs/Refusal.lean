import LS8.Proofs.Culprit

/-!
# What a source text is refused for

* `meant`: what stands on a line without the comment and without the white space around it;
* `Proper`, **`inGrammar_iff`**: what may be left of a line of the grammar, and the white space that
  may be around it;
* `covered?_culprit`: the span of a line covers what was meant;
* `refused?`, `bytesOn`, **`ofLines_eq`**: the first line outside the grammar and the bytes on the
  lines are all that the loader makes of them;
* `parse_of_refused`, `parse_of_fits`, `parse_of_large`: the three answers of the loader;
* **`parse_proper_iff`**: the loader blames a literal that may stand on a line, or nothing at all,
  exactly for white space that is neither a space nor a tab.
-/

set_option autoImplicit false

namespace LS8.Source

/-- All that stands on a line before the comment, without the white space around it. -/
def meant (line : List Char) : List Char := trim (line.takeWhile (· ≠ '#'))

/-- What may be left of a line: nothing, or eight binary digits. -/
def Proper (literal : List Char) : Prop :=
  literal = [] ∨ literal.length = 8 ∧ ∀ d ∈ literal, d = '0' ∨ d = '1'

section Meant

variable {line left literal right comment : List Char}

theorem Parts.literal_eq (h : Parts line left literal right comment) : literal = meant line := by
  rw [meant, h.body, trim_append h.left_blank h.right_blank h.starts h.ends]

theorem covered?_culprit {source : List Char} {line : Line} (h : line ∈ lines source) :
    (culprit line).covered? source = some (meant line.text) := by
  obtain ⟨earlier, later, hlines⟩ := List.append_of_mem h
  obtain ⟨before, hat, -, hoffset⟩ := lineAt_of_lines hlines
  obtain ⟨left, literal, right, comment, hparts⟩ := exists_parts line.text
  rw [hparts.culprit_eq, hoffset, ← utf8Length_append, ← hparts.literal_eq]
  exact (hat.covered hparts).2.2

/-! ## White space around a literal -/

theorem isBlank_of_isSpace {text : List Char} (h : IsSpace text) : ∀ c ∈ text, isBlank c := by
  intro c hc
  obtain rfl | rfl := h c hc
  · decide
  · decide

theorem isBlank_bit {d : Char} (h : d = '0' ∨ d = '1') : isBlank d = false := by
  obtain rfl | rfl := h
  · decide
  · decide

theorem Literal.bits {digits : List Char} {content : Content} (h : Literal digits content) :
    ∀ d ∈ digits, d = '0' ∨ d = '1' := by
  cases h with
  | absent => simp
  | byte _ bits _ => exact bits

theorem Literal.proper {digits : List Char} {content : Content} (h : Literal digits content) :
    Proper digits := by
  cases h with
  | absent => exact Or.inl rfl
  | byte length bits _ => exact Or.inr ⟨length, bits⟩

theorem Proper.exists_literal (h : Proper literal) : ∃ content, Literal literal content := by
  obtain rfl | ⟨hlength, hbits⟩ := h
  · exact ⟨_, .absent⟩
  · exact ⟨_, .byte hlength hbits ((byteOf_eq_iff hlength hbits).mp rfl)⟩

/-- There is no `#` before the comment of a line of the grammar. -/
theorem takeWhile_of_form {before digits after comment : List Char} {content : Content}
    (hb : IsSpace before) (hd : Literal digits content) (ha : IsSpace after)
    (hc : IsComment comment) :
    (before ++ digits ++ after ++ comment).takeWhile (· ≠ '#') = before ++ digits ++ after := by
  have hfree : ∀ c ∈ before ++ digits ++ after, decide (c ≠ '#') = true := by
    intro c hm
    rw [List.mem_append, List.mem_append] at hm
    obtain (hm | hm) | hm := hm
    · obtain rfl | rfl := hb c hm <;> decide
    · obtain rfl | rfl := hd.bits c hm <;> decide
    · obtain rfl | rfl := ha c hm <;> decide
  rw [List.takeWhile_append_of_pos hfree]
  obtain rfl | ⟨rest, rfl⟩ := hc
  · rw [List.takeWhile_nil, List.append_nil]
  · rw [List.takeWhile_cons_of_neg (by simp), List.append_nil]

/-- **A line is in the grammar exactly if nothing or a byte was meant**, and all the white space
around that are spaces and tabs. -/
theorem inGrammar_iff (h : Parts line left literal right comment) :
    InGrammar line ↔ Proper literal ∧ IsSpace left ∧ IsSpace right := by
  constructor
  · rintro ⟨content, before, digits, after, comment', hline, hb, hd, ha, hc⟩
    have hbody : left ++ literal ++ right = before ++ digits ++ after := by
      rw [← h.body, hline, takeWhile_of_form hb hd ha hc]
    have hstarts : ∀ c, digits.head? = some c → isBlank c = false := fun c hm =>
      isBlank_bit (hd.bits c (List.mem_of_mem_head? hm))
    have hends : ∀ c, digits.getLast? = some c → isBlank c = false := fun c hm =>
      isBlank_bit (hd.bits c (List.mem_of_mem_getLast? hm))
    have hliteral : literal = digits := by
      rw [h.literal_eq, meant, h.body, hbody,
        trim_append (isBlank_of_isSpace hb) (isBlank_of_isSpace ha) hstarts hends]
    -- A blank among all that is no digit, and so it stands in one of the two spaces.
    have hblank : ∀ c ∈ left ++ literal ++ right, isBlank c → c = ' ' ∨ c = '\t' := by
      intro c hm hblank
      rw [hbody, List.mem_append, List.mem_append] at hm
      obtain (hm | hm) | hm := hm
      · exact hb c hm
      · rw [isBlank_bit (hd.bits c hm)] at hblank
        cases hblank
      · exact ha c hm
    refine ⟨hliteral ▸ hd.proper, fun c hm => ?_, fun c hm => ?_⟩
    · exact hblank c (by simp [hm]) (h.left_blank c hm)
    · exact hblank c (by simp [hm]) (h.right_blank c hm)
  · rintro ⟨hp, hl, hr⟩
    obtain ⟨content, hd⟩ := hp.exists_literal
    exact ⟨content, left, literal, right, comment, h.line_eq, hl, hd, hr, h.isComment⟩

end Meant

end LS8.Source

namespace LS8.Program

open Source

/-! ## The answer of the loader -/

/-- The first line outside the grammar. -/
def refused? (lines : List Line) : Option Line :=
  lines.find? fun line => (content? line.text).isNone

/-- The bytes on the lines. -/
def bytesOn (lines : List Line) : List UInt8 :=
  lines.flatMap fun line => (content? line.text).elim [] Content.bytes

theorem ofLines_eq (lines : List Line) :
    ofLines lines =
      match refused? lines with
      | some line => .error (.badLiteral line.number (culprit line))
      | none => .ok (bytesOn lines) := by
  induction lines with
  | nil => rfl
  | cons line lines ih =>
    cases hc : content? line.text with
    | none => simp [ofLines, refused?, hc]
    | some content =>
      have hr : refused? (line :: lines) = refused? lines := by simp [refused?, hc]
      have hb : bytesOn (line :: lines) = content.bytes ++ bytesOn lines := by simp [bytesOn, hc]
      rw [ofLines, hc, ih, hr, hb]
      cases refused? lines <;> rfl

section Answers

variable {lines : List Line} {source : List Char}

theorem refused?_eq_none_iff : refused? lines = none ↔ ∀ line ∈ lines, InGrammar line.text := by
  simp only [refused?, List.find?_eq_none, Option.isNone_iff_eq_none, content?_eq_none_iff,
    not_not]

theorem refused?_lines_eq_none_iff :
    refused? (Source.lines source) = none ↔ ∀ line ∈ lineTexts source, InGrammar line := by
  rw [refused?_eq_none_iff, ← map_text_lines, List.forall_mem_map]

theorem mem_of_refused {line : Line} (h : refused? lines = some line) : line ∈ lines :=
  List.mem_of_find?_eq_some h

theorem parse_of_refused {line : Line} (h : refused? (Source.lines source) = some line) :
    parse source = .error (.badLiteral line.number (culprit line)) := by
  rw [parse, ofLines_eq, h]

theorem parse_of_fits (h : refused? (Source.lines source) = none)
    (hfits : (bytesOn (Source.lines source)).length ≤ memorySize) :
    parse source = .ok ⟨bytesOn (Source.lines source), hfits⟩ := by
  rw [parse, ofLines_eq, h]
  exact dif_pos hfits

theorem parse_of_large (h : refused? (Source.lines source) = none)
    (hlarge : memorySize < (bytesOn (Source.lines source)).length) :
    parse source = .error (.tooLarge (bytesOn (Source.lines source)).length) := by
  rw [parse, ofLines_eq, h]
  exact dif_neg (Nat.not_le.mpr hlarge)

theorem parse_ne_badLiteral (h : refused? (Source.lines source) = none) (number : Nat)
    (span : Span) : parse source ≠ .error (.badLiteral number span) := by
  rw [ne_eq, parse_eq_badLiteral_iff, ofLines_eq, h]
  simp

theorem length_bytesOn (h : refused? (Source.lines source) = none) :
    (bytesOn (Source.lines source)).length = (lineTexts source).countP (HoldsLiteral ·) := by
  obtain ⟨bytes, ho, hv⟩ := ofLines_of_grammar (refused?_eq_none_iff.mp h)
  rw [ofLines_eq, h, Except.ok.injEq] at ho
  rw [ho, hv.length_eq, map_text_lines]

end Answers

/-! ## What is blamed -/

/-- **The loader blames a literal that may stand on a line, or nothing at all, exactly for white
space.** The first line outside the grammar then holds, before its comment, nothing or exactly eight
binary digits, and around them is white space that is neither a space nor a tab. -/
theorem parse_proper_iff (source : List Char) :
    (∃ number span literal, parse source = .error (.badLiteral number span) ∧
        span.covered? source = some literal ∧ Proper literal) ↔
      ∃ earlier line later left literal right comment,
        Cut source (earlier ++ line :: later) ∧ (∀ l ∈ earlier, InGrammar l) ∧
        Parts line left literal right comment ∧ Proper literal ∧
        ¬ (IsSpace left ∧ IsSpace right) := by
  constructor
  · rintro ⟨number, span, literal, hparse, hcovered, hproper⟩
    rw [parse_eq_badLiteral_iff, ofLines_eq_badLiteral_iff] at hparse
    obtain ⟨earlier, line, later, hlines, hearlier, hbad, rfl, rfl⟩ := hparse
    have hmem : line ∈ lines source := by simp [hlines]
    rw [covered?_culprit hmem, Option.some_inj] at hcovered
    obtain ⟨left, literal', right, comment, hparts⟩ := exists_parts line.text
    have hliteral : literal' = literal := hparts.literal_eq.trans hcovered
    subst hliteral
    refine ⟨earlier.map Line.text, line.text, later.map Line.text, left, literal', right, comment,
      ?_, List.forall_mem_map.mpr hearlier, hparts, hproper, ?_⟩
    · rw [cut_iff, ← map_text_lines, hlines, List.map_append, List.map_cons]
    · intro hspace
      exact hbad ((inGrammar_iff hparts).mpr ⟨hproper, hspace⟩)
  · rintro ⟨earlier, text, later, left, literal, right, comment, hcut, hearlier, hparts, hproper,
      hspace⟩
    rw [cut_iff, ← map_text_lines, eq_comm, List.map_eq_append_iff] at hcut
    obtain ⟨first, rest, hlines, rfl, hrest⟩ := hcut
    obtain ⟨line, last, rfl, rfl, -⟩ := List.map_eq_cons_iff.mp hrest
    have hbad : ¬ InGrammar line.text := fun hg => hspace ((inGrammar_iff hparts).mp hg).2
    have hparse : parse source = .error (.badLiteral line.number (culprit line)) := by
      rw [parse_eq_badLiteral_iff, ofLines_eq_badLiteral_iff]
      exact ⟨first, line, last, hlines, List.forall_mem_map.mp hearlier, hbad, rfl, rfl⟩
    have hmem : line ∈ lines source := by simp [hlines]
    refine ⟨line.number, culprit line, literal, hparse, ?_, hproper⟩
    rw [covered?_culprit hmem, hparts.literal_eq]

/-- A carriage return at the end of the text is enough: eight binary digits are blamed for not being
eight binary digits. -/
theorem parse_trailingReturn :
    parse "10000010\r".toList = .error (.badLiteral 1 ⟨0, 8⟩) ∧
      Span.covered? ⟨0, 8⟩ "10000010\r".toList = some "10000010".toList ∧
      Proper "10000010".toList ∧ content? "10000010".toList = some (.byte 0x82) :=
  ⟨rfl, rfl, Or.inr ⟨rfl, all_isBit_iff.mp rfl⟩, rfl⟩

end LS8.Program
