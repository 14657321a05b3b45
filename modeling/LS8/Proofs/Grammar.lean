import LS8.Program
import LS8.Proofs.Lines
import Mathlib.Algebra.Group.Nat.Defs
import Mathlib.Data.List.Forall2

/-!
# The grammar of the source texts

A line is in the grammar if it is put together from space, perhaps eight binary digits, more space
and perhaps a comment.

* `binaryValue`, `Literal`, `Form`: the parts of a line and what they hold;
* **`content?_eq_some_iff`**: what the loader makes of a line is what the grammar says;
* `InGrammar`, `HoldsLiteral`: the lines of the grammar and those with a byte on them;
* **`Program.parse_grammar`**: the loader accepts the texts of the grammar, and no others.
-/

set_option autoImplicit false

namespace LS8.Source

/-! ## The parts of a line -/

/-- The number that binary digits write, the most significant first. -/
def binaryValue (digits : List Char) : Nat :=
  digits.foldl (fun n d => 2 * n + if d = '1' then 1 else 0) 0

/-- What the digits on a line hold: nothing if there are none, or else a byte. -/
inductive Literal : List Char → Content → Prop
  | absent : Literal [] .nothing
  | byte {digits : List Char} {value : UInt8} (length : digits.length = 8)
    (bits : ∀ d ∈ digits, d = '0' ∨ d = '1') (value_eq : value.toNat = binaryValue digits) :
    Literal digits (.byte value)

/-- There is only space. -/
def IsSpace (text : List Char) : Prop := ∀ c ∈ text, c = ' ' ∨ c = '\t'

/-- There is a comment or nothing. -/
def IsComment (text : List Char) : Prop := text = [] ∨ ∃ rest, text = '#' :: rest

/-- A line of the grammar and what it holds. -/
def Form (line : List Char) (content : Content) : Prop :=
  ∃ before digits after comment, line = before ++ digits ++ after ++ comment ∧
    IsSpace before ∧ Literal digits content ∧ IsSpace after ∧ IsComment comment

/-! ## The digits -/

theorem foldl_bits_lt (digits : List Char) (n : Nat) :
    digits.foldl (fun n d => 2 * n + if d = '1' then 1 else 0) n <
      2 ^ digits.length * (n + 1) := by
  induction digits generalizing n with
  | nil => simp
  | cons d ds ih =>
    have hd : (if d = '1' then 1 else 0) ≤ 1 := by split <;> omega
    calc
      _ < 2 ^ ds.length * (2 * n + (if d = '1' then 1 else 0) + 1) := ih _
      _ ≤ 2 ^ ds.length * (2 * (n + 1)) := Nat.mul_le_mul_left _ (by omega)
      _ = 2 ^ (d :: ds).length * (n + 1) := by rw [List.length_cons, Nat.pow_succ, Nat.mul_assoc]

theorem ofDigitChars_bits {digits : List Char} (h : ∀ d ∈ digits, d = '0' ∨ d = '1') (n : Nat) :
    Nat.ofDigitChars 2 digits n =
      digits.foldl (fun n d => 2 * n + if d = '1' then 1 else 0) n := by
  induction digits generalizing n with
  | nil => rfl
  | cons d ds ih =>
    rw [Nat.ofDigitChars_cons, ih fun d hd => h d (List.mem_cons_of_mem _ hd), List.foldl_cons]
    obtain rfl | rfl := h d List.mem_cons_self
    · rfl
    · rfl

/-- Eight digits write a byte, which is the one that the loader reads. -/
theorem byteOf_eq_iff {digits : List Char} (hl : digits.length = 8)
    (h : ∀ d ∈ digits, d = '0' ∨ d = '1') {value : UInt8} :
    byteOf digits = value ↔ value.toNat = binaryValue digits := by
  have hlt := foldl_bits_lt digits 0
  rw [hl, ← binaryValue] at hlt
  have hb : (byteOf digits).toNat = binaryValue digits := by
    rw [byteOf, ofDigitChars_bits h, ← binaryValue, UInt8.toNat_ofNat']
    exact Nat.mod_eq_of_lt hlt
  rw [← UInt8.toNat_inj, hb, eq_comm]

/-! ## The space -/

theorem isSpace_iff {c : Char} : isSpace c = true ↔ c = ' ' ∨ c = '\t' := by
  simp [isSpace]

theorem all_isBit_iff {digits : List Char} :
    digits.all isBit = true ↔ ∀ d ∈ digits, d = '0' ∨ d = '1' := by
  simp [isBit]

theorem isSpace_takeWhile (text : List Char) : IsSpace (text.takeWhile isSpace) := fun _ hc =>
  isSpace_iff.mp (List.all_eq_true.mp List.all_takeWhile _ hc)

theorem dropWhile_append {space : List Char} (h : IsSpace space) (text : List Char) :
    (space ++ text).dropWhile isSpace = text.dropWhile isSpace :=
  List.dropWhile_append_of_pos fun c hc => isSpace_iff.mpr (h c hc)

theorem IsComment.dropWhile_eq {comment : List Char} (h : IsComment comment) :
    comment.dropWhile isSpace = comment := by
  obtain rfl | ⟨rest, rfl⟩ := h
  · rfl
  · exact List.dropWhile_cons_of_neg (by decide)

theorem isIdle_iff {rest : List Char} :
    isIdle rest = true ↔ ∃ after comment, rest = after ++ comment ∧ IsSpace after ∧ IsComment comment := by
  constructor
  · intro h
    refine ⟨_, _, List.takeWhile_append_dropWhile.symm, isSpace_takeWhile rest, ?_⟩
    rw [isIdle] at h
    split at h
    · next hd => exact Or.inl hd
    · next c tail hd =>
      rw [hd, of_decide_eq_true h]
      exact Or.inr ⟨tail, rfl⟩
  · rintro ⟨after, comment, rfl, ha, hc⟩
    rw [isIdle, dropWhile_append ha, hc.dropWhile_eq]
    obtain rfl | ⟨rest, rfl⟩ := hc
    · rfl
    · rfl

/-! ## The line -/

theorem dropWhile_digits {digits : List Char} (hne : digits ≠ [])
    (h : ∀ d ∈ digits, d = '0' ∨ d = '1') (text : List Char) :
    (digits ++ text).dropWhile isSpace = digits ++ text := by
  obtain ⟨d, ds, rfl⟩ := List.exists_cons_of_ne_nil hne
  have hd : ¬ isSpace d = true := by
    obtain rfl | rfl := h d List.mem_cons_self
    · decide
    · decide
  exact List.dropWhile_cons_of_neg hd

theorem IsComment.not_digits {comment : List Char} (h : IsComment comment) :
    ¬ ((comment.take 8).length = 8 ∧ (comment.take 8).all isBit) := by
  rintro ⟨hl, hb⟩
  obtain rfl | ⟨rest, rfl⟩ := h
  · cases hl
  · rw [List.take_succ_cons, List.all_cons, Bool.and_eq_true] at hb
    exact absurd hb.1 (by decide)

/-- Digits, space and a comment after the space at the start make a line. -/
theorem form_of_isIdle {line digits rest : List Char} {content : Content}
    (hline : line.dropWhile isSpace = digits ++ rest) (hd : Literal digits content)
    (hi : isIdle rest = true) : Form line content := by
  obtain ⟨after, comment, rfl, ha, hc⟩ := isIdle_iff.mp hi
  refine ⟨line.takeWhile isSpace, digits, after, comment, ?_, isSpace_takeWhile line, hd, ha, hc⟩
  calc
    line = line.takeWhile isSpace ++ line.dropWhile isSpace := List.takeWhile_append_dropWhile.symm
    _ = line.takeWhile isSpace ++ digits ++ after ++ comment := by
      rw [hline, List.append_assoc, List.append_assoc]

theorem form_of_content? {line : List Char} {content : Content} (h : content? line = some content) :
    Form line content := by
  generalize hrest : line.dropWhile isSpace = rest
  rw [content?, hrest] at h
  by_cases hd : (rest.take 8).length = 8 ∧ (rest.take 8).all isBit
  · rw [if_pos hd] at h
    have hbits := all_isBit_iff.mp hd.2
    cases hi : isIdle (rest.drop 8) with
    | false => simp [hi] at h
    | true =>
      rw [if_pos hi, Option.some.injEq] at h
      have hl : Literal (rest.take 8) content :=
        h ▸ .byte hd.1 hbits ((byteOf_eq_iff hd.1 hbits).mp rfl)
      exact form_of_isIdle (by rw [hrest, List.take_append_drop]) hl hi
  · rw [if_neg hd] at h
    cases hi : isIdle rest with
    | false => simp [hi] at h
    | true =>
      rw [if_pos hi, Option.some.injEq] at h
      have hl : Literal [] content := h ▸ .absent
      exact form_of_isIdle (by rw [hrest, List.nil_append]) hl hi

theorem content?_of_form {line : List Char} {content : Content} (h : Form line content) :
    content? line = some content := by
  obtain ⟨before, digits, after, comment, rfl, hb, hd, ha, hc⟩ := h
  have hi : isIdle (after ++ comment) = true := isIdle_iff.mpr ⟨after, comment, rfl, ha, hc⟩
  rw [content?, List.append_assoc, List.append_assoc, dropWhile_append hb]
  cases hd with
  | absent =>
    -- Without digits both spaces are skipped at once, and what follows is no literal.
    have hic : isIdle comment = true := isIdle_iff.mpr ⟨[], comment, rfl, by simp [IsSpace], hc⟩
    rw [List.nil_append, dropWhile_append ha, hc.dropWhile_eq]
    rw [if_neg hc.not_digits, if_pos hic]
  | byte length bits value_eq =>
    have hne : digits ≠ [] := List.ne_nil_of_length_eq_add_one length
    rw [dropWhile_digits hne bits, List.take_left' length, List.drop_left' length]
    rw [if_pos ⟨length, all_isBit_iff.mpr bits⟩, if_pos hi, (byteOf_eq_iff length bits).mpr value_eq]

/-- **What the loader makes of a line is what the grammar says.** -/
theorem content?_eq_some_iff {line : List Char} {content : Content} :
    content? line = some content ↔ Form line content :=
  ⟨form_of_content?, content?_of_form⟩

/-! ## The lines of the grammar -/

/-- The line is in the grammar. -/
def InGrammar (line : List Char) : Prop := ∃ content, Form line content

/-- The line is in the grammar and holds a byte. -/
def HoldsLiteral (line : List Char) : Prop := ∃ value, Form line (.byte value)

theorem content?_eq_none_iff {line : List Char} : content? line = none ↔ ¬ InGrammar line := by
  simp [InGrammar, ← content?_eq_some_iff, Option.eq_none_iff_forall_ne_some]

/-- What a line holds is determined. -/
theorem Form.unique {line : List Char} {a b : Content} (ha : Form line a) (hb : Form line b) :
    a = b := by
  rw [← content?_eq_some_iff] at ha hb
  exact Option.some.inj (ha.symm.trans hb)

instance (line : List Char) : Decidable (HoldsLiteral line) :=
  match h : content? line with
  | some (.byte value) => isTrue ⟨value, content?_eq_some_iff.mp h⟩
  | some .nothing => isFalse fun ⟨_, hv⟩ => by cases (content?_eq_some_iff.mp h).unique hv
  | none => isFalse fun ⟨_, hv⟩ => content?_eq_none_iff.mp h ⟨_, hv⟩

end LS8.Source

/-! ## The program -/

namespace LS8.Program

open Source

/-- The values are those of the lines with a byte on them, in the order of the lines. -/
def Values (lines : List (List Char)) (values : List UInt8) : Prop :=
  List.Forall₂ (fun line value => Form line (.byte value)) (lines.filter (HoldsLiteral ·)) values

theorem Values.length_eq {lines : List (List Char)} {values : List UInt8} (h : Values lines values) :
    values.length = lines.countP (HoldsLiteral ·) := by
  rw [List.countP_eq_length_filter]
  exact (List.Forall₂.length_eq h).symm

theorem Values.cons {line : List Char} {content : Content} (hc : Form line content)
    {lines : List (List Char)} {values : List UInt8} (h : Values lines values) :
    Values (line :: lines) (content.bytes ++ values) := by
  cases content with
  | nothing =>
    have hn : ¬ HoldsLiteral line := fun ⟨_, hv⟩ => by cases hc.unique hv
    rw [Values, List.filter_cons_of_neg (by simpa using hn)]
    exact h
  | byte value =>
    rw [Values, List.filter_cons_of_pos (by simpa using ⟨value, hc⟩)]
    exact .cons hc h

/-- Lines of the grammar give the values on them. -/
theorem ofLines_of_grammar {lines : List Line} (h : ∀ line ∈ lines, InGrammar line.text) :
    ∃ bytes, ofLines lines = .ok bytes ∧ Values (lines.map Line.text) bytes := by
  induction lines with
  | nil => exact ⟨[], rfl, .nil⟩
  | cons line lines ih =>
    obtain ⟨content, hc⟩ := h line List.mem_cons_self
    obtain ⟨bytes, ho, hv⟩ := ih fun l hl => h l (List.mem_cons_of_mem _ hl)
    refine ⟨content.bytes ++ bytes, ?_, hv.cons hc⟩
    rw [ofLines, content?_eq_some_iff.mpr hc, ho]
    rfl

/-- A line outside the grammar is blamed. -/
theorem ofLines_of_not_grammar {lines : List Line} (h : ¬ ∀ line ∈ lines, InGrammar line.text) :
    ∃ line ∈ lines, ¬ InGrammar line.text ∧
      ofLines lines = .error (.badLiteral line.number (culprit line)) := by
  induction lines with
  | nil => exact absurd (by simp) h
  | cons line lines ih =>
    cases hc : content? line.text with
    | none =>
      refine ⟨line, List.mem_cons_self, content?_eq_none_iff.mp hc, ?_⟩
      rw [ofLines, hc]
    | some content =>
      have hg : InGrammar line.text := ⟨content, content?_eq_some_iff.mp hc⟩
      obtain ⟨bad, hm, hb, ho⟩ := ih fun hl => h (List.forall_mem_cons.mpr ⟨hg, hl⟩)
      refine ⟨bad, List.mem_cons_of_mem _ hm, hb, ?_⟩
      rw [ofLines, hc, ho]
      rfl

/-- **The loader accepts the texts of the grammar, and no others.** A text is cut into lines in one
way. It is a program if all its lines are in the grammar and no more than 256 of them hold a byte,
and the bytes of the program are then those on the lines. -/
theorem parse_grammar (source : List Char) :
    ∃ lines, (∀ ls, Cut source ls ↔ ls = lines) ∧
      ((∃ p, parse source = .ok p) ↔
        (∀ line ∈ lines, InGrammar line) ∧ lines.countP (HoldsLiteral ·) ≤ 256) ∧
      (∀ p, parse source = .ok p → Values lines p.bytes) ∧
      ((∀ line ∈ lines, InGrammar line) → 256 < lines.countP (HoldsLiteral ·) →
        parse source = .error (.tooLarge (lines.countP (HoldsLiteral ·)))) ∧
      ((¬ ∀ line ∈ lines, InGrammar line) →
        ∃ number span, parse source = .error (.badLiteral number span)) := by
  refine ⟨lineTexts source, fun ls => cut_iff, ?_⟩
  rw [← map_text_lines, List.forall_mem_map]
  by_cases h : ∀ line ∈ lines source, InGrammar line.text
  · obtain ⟨bytes, ho, hv⟩ := ofLines_of_grammar h
    rw [← hv.length_eq]
    by_cases hle : bytes.length ≤ memorySize
    · have hp : parse source = .ok ⟨bytes, hle⟩ := by
        rw [parse, ho]
        exact dif_pos hle
      refine ⟨⟨fun _ => ⟨h, hle⟩, fun _ => ⟨_, hp⟩⟩, fun p hq => ?_, fun _ hlt => ?_, absurd h⟩
      · rw [hp, Except.ok.injEq] at hq
        rw [← hq]
        exact hv
      · exact absurd hle (Nat.not_le.mpr hlt)
    · have hp : parse source = .error (.tooLarge bytes.length) := by
        rw [parse, ho]
        exact dif_neg hle
      refine ⟨?_, fun p hq => ?_, fun _ _ => hp, absurd h⟩
      · rw [hp]
        constructor
        · rintro ⟨p, hq⟩
          cases hq
        · rintro ⟨_, hb⟩
          exact absurd hb hle
      · rw [hp] at hq
        cases hq
  · obtain ⟨line, _, _, ho⟩ := ofLines_of_not_grammar h
    have hp : parse source = .error (.badLiteral line.number (culprit line)) := by
      rw [parse, ho]
    refine ⟨?_, ?_, fun hg => absurd hg h, fun _ => ⟨_, _, hp⟩⟩
    · simp [hp, h]
    · simp [hp]

end LS8.Program
