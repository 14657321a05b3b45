import LS8.Command.Transcript
import LS8.Proofs.Positional
import LS8.Proofs.Tiling

/-!
# Reading a listing

The text of a line can be taken apart: the address ends at the colon, the mnemonic has three
characters, and no operand has a comma in it. So a printed listing tells which bytes were listed.

* `append_cons_inj`, `intercalate_inj`: texts are told apart where one ends at a mark that it does
  not hold;
* `not_mem_padded`, `not_mem_operandTexts`: numerals and operands consist of letters and digits;
* **`Instruction.text_inj`**, **`Item.text_inj`**, **`Line.text_inj`**: what is printed tells what
  was meant;
* **`textOf_inj`**: a text tells its lines;
* **`listing_determines`**: a printed listing determines the program.
-/

set_option autoImplicit false

namespace LS8

/-! ## Texts that end at a mark -/

section Marks

theorem append_cons_inj {α : Type} {x : α} {a a' b b' : List α} (h : x ∉ a) (h' : x ∉ a')
    (heq : a ++ x :: b = a' ++ x :: b') : a = a' ∧ b = b' := by
  induction a generalizing a' with
  | nil =>
    cases a' with
    | nil => exact ⟨rfl, (List.cons.inj heq).2⟩
    | cons y a' => exact absurd ((List.cons.inj heq).1 ▸ List.mem_cons_self) h'
  | cons y a ih =>
    cases a' with
    | nil => exact absurd ((List.cons.inj heq).1 ▸ List.mem_cons_self) h
    | cons y' a' =>
      obtain ⟨rfl, htail⟩ := List.cons.inj heq
      obtain ⟨rfl, hrest⟩ :=
        ih (List.not_mem_of_not_mem_cons h) (List.not_mem_of_not_mem_cons h') htail
      exact ⟨rfl, hrest⟩

theorem mem_intercalate {x : Char} {separator : List Char} {texts : List (List Char)}
    (h : x ∈ separator.intercalate texts) : x ∈ separator ∨ ∃ t ∈ texts, x ∈ t := by
  induction texts with
  | nil => cases h
  | cons t texts ih =>
    cases texts with
    | nil =>
      rw [List.intercalate_singleton] at h
      exact Or.inr ⟨t, List.mem_cons_self, h⟩
    | cons u texts =>
      rw [List.intercalate_cons_cons, List.mem_append, List.mem_append] at h
      obtain (h | h) | h := h
      · exact Or.inr ⟨t, List.mem_cons_self, h⟩
      · exact Or.inl h
      · exact (ih h).imp_right fun ⟨t', ht', hx⟩ => ⟨t', List.mem_cons_of_mem t ht', hx⟩

/-- As many texts without a comma, joined by commas, are told apart. -/
theorem intercalate_inj {texts texts' : List (List Char)} (h : ∀ t ∈ texts, ',' ∉ t)
    (h' : ∀ t ∈ texts', ',' ∉ t) (hlength : texts.length = texts'.length)
    (heq : [',', ' '].intercalate texts = [',', ' '].intercalate texts') : texts = texts' := by
  induction texts generalizing texts' with
  | nil => exact (List.length_eq_zero_iff.mp hlength.symm).symm
  | cons t texts ih =>
    obtain ⟨t', rest, rfl⟩ := List.exists_of_length_succ texts' hlength.symm
    have hrest : texts.length = rest.length := Nat.succ.inj hlength
    cases texts with
    | nil =>
      obtain rfl := List.length_eq_zero_iff.mp hrest.symm
      rw [List.intercalate_singleton, List.intercalate_singleton] at heq
      rw [heq]
    | cons u texts =>
      obtain ⟨u', rest, rfl⟩ := List.exists_of_length_succ rest hrest.symm
      rw [List.intercalate_cons_cons, List.intercalate_cons_cons, List.append_assoc,
        List.append_assoc] at heq
      -- The first comma ends the first text.
      obtain ⟨rfl, htail⟩ := append_cons_inj (h t List.mem_cons_self) (h' t' List.mem_cons_self) heq
      rw [ih (fun s hs => h s (List.mem_cons_of_mem _ hs))
        (fun s hs => h' s (List.mem_cons_of_mem _ hs)) hrest (List.cons.inj htail).2]

end Marks

/-! ## Numerals, names and operands -/

theorem isAlphanum_digitChar {k : Nat} (h : k < 16) : k.digitChar.isAlphanum = true := by
  revert k
  decide

section Characters

variable {x : Char}

theorem not_mem_padded {base : Nat} (hbase : 1 < base) (hle : base ≤ 16)
    (hx : x.isAlphanum = false) (width n : Nat) : x ∉ padded base width n := by
  intro h
  obtain ⟨k, hk, rfl⟩ := mem_padded hbase h
  rw [isAlphanum_digitChar (by omega)] at hx
  cases hx

theorem not_mem_decimal (hx : x.isAlphanum = false) (n : Nat) : x ∉ (decimal n).toList := by
  rw [decimal, String.toList_ofList]
  exact not_mem_padded (by decide) (by decide) hx 1 n

theorem not_mem_binary (hx : x.isAlphanum = false) (b : UInt8) : x ∉ (binary b).toList := by
  rw [binary, String.toList_append, List.mem_append]
  rintro (h | h)
  · obtain rfl | rfl : x = '0' ∨ x = 'b' := by simpa using h
    · cases hx
    · cases hx
  · rw [String.toList_ofList] at h
    exact not_mem_padded (by decide) (by decide) hx 8 b.toNat h

theorem not_mem_name (hx : x.isAlphanum = false) (r : Register) : x ∉ r.name.toList := by
  rw [Register.name, String.toList_append, List.mem_append]
  rintro (h | h)
  · obtain rfl : x = 'r' := by simpa using h
    cases hx
  · exact not_mem_decimal hx _ h

theorem not_mem_mnemonic (hx : x.isAlphanum = false) (op : Opcode) : x ∉ op.mnemonic.toList := by
  intro h
  have hall : op.mnemonic.toList.all Char.isAlphanum = true := by cases op <;> decide
  rw [List.all_eq_true.mp hall x h] at hx
  cases hx

theorem not_mem_operandTexts (hx : x.isAlphanum = false) (i : Instruction) :
    ∀ t ∈ i.operandTexts.map String.toList, x ∉ t := by
  cases i <;> simp [Instruction.operandTexts, not_mem_name hx, not_mem_decimal hx]

end Characters

theorem Register.name_inj {r s : Register} : r.name = s.name ↔ r = s := by
  refine ⟨fun h => ?_, congrArg _⟩
  rw [name, name, String.append_right_inj, decimal_inj, Fin.val_inj] at h
  cases r
  cases s
  exact congrArg mk h

theorem Opcode.mnemonic_inj {op op' : Opcode} : op.mnemonic = op'.mnemonic ↔ op = op' := by
  cases op <;> cases op' <;> decide

theorem Opcode.length_mnemonic (op : Opcode) : op.mnemonic.toList.length = 3 := by
  cases op <;> rfl

/-! ## Instructions -/

namespace Instruction

/-- The operands as they stand after the mnemonic. -/
def operandPart (i : Instruction) : List Char :=
  match i.operandTexts.map String.toList with
  | [] => []
  | operands => ' ' :: ' ' :: [',', ' '].intercalate operands

variable {i j : Instruction}

theorem toList_text (i : Instruction) :
    i.text.toList = i.opcode.mnemonic.toList ++ i.operandPart := by
  unfold text operandPart
  cases i.operandTexts with
  | nil => exact (List.append_nil _).symm
  | cons t operands =>
    simp only [String.toList_append, String.toList_intercalate, List.append_assoc, List.map_cons]
    rfl

theorem operandTexts_inj (hop : i.opcode = j.opcode) (h : i.operandTexts = j.operandTexts) :
    i = j := by
  cases i <;> cases j <;>
    simp_all [opcode, operandTexts, Register.name_inj, decimal_inj, UInt8.toNat_inj]

theorem length_operandTexts (i : Instruction) : i.operandTexts.length = i.opcode.operandCount := by
  cases i <;> simp [operandTexts, opcode, Opcode.operandCount_eq]

theorem operandPart_inj (hop : i.opcode = j.opcode) (h : i.operandPart = j.operandPart) :
    i = j := by
  have hlength : (i.operandTexts.map String.toList).length =
      (j.operandTexts.map String.toList).length := by
    rw [List.length_map, List.length_map, length_operandTexts, length_operandTexts, hop]
  have hi := not_mem_operandTexts (x := ',') rfl i
  have hj := not_mem_operandTexts (x := ',') rfl j
  refine operandTexts_inj hop ((List.map_inj_right fun _ _ => String.toList_inj.mp).mp ?_)
  unfold operandPart at h
  generalize i.operandTexts.map String.toList = operands at *
  generalize j.operandTexts.map String.toList = operands' at *
  cases operands with
  | nil => exact (List.length_eq_zero_iff.mp hlength.symm).symm
  | cons t operands =>
    obtain ⟨t', rest, rfl⟩ := List.exists_of_length_succ operands' hlength.symm
    exact intercalate_inj hi hj hlength (List.cons.inj (List.cons.inj h).2).2

/-- **The text of an instruction tells the instruction.** -/
theorem text_inj : i.text = j.text ↔ i = j := by
  refine ⟨fun h => ?_, congrArg _⟩
  have hchars := congrArg String.toList h
  rw [toList_text, toList_text] at hchars
  obtain ⟨hmnemonic, hoperands⟩ := List.append_inj hchars
    (i.opcode.length_mnemonic.trans j.opcode.length_mnemonic.symm)
  exact operandPart_inj (Opcode.mnemonic_inj.mp (String.toList_inj.mp hmnemonic)) hoperands

/-- Besides letters and digits there are commas and spaces only. -/
theorem not_mem_text {x : Char} (hx : x.isAlphanum = false) (hcomma : x ≠ ',') (hspace : x ≠ ' ')
    (i : Instruction) : x ∉ i.text.toList := by
  have hoperands := not_mem_operandTexts hx i
  rw [toList_text, List.mem_append, operandPart]
  rintro (h | h)
  · exact not_mem_mnemonic hx _ h
  · generalize i.operandTexts.map String.toList = operands at *
    cases operands with
    | nil => cases h
    | cons t operands =>
      rw [List.mem_cons, List.mem_cons] at h
      obtain h | h | h := h
      · exact hspace h
      · exact hspace h
      · obtain h | ⟨t', ht', h⟩ := mem_intercalate h
        · simp [hcomma, hspace] at h
        · exact hoperands t' ht' h

end Instruction

/-! ## Lines -/

namespace Listing

/-- **The text of an item tells the item**: an instruction is never shown as a byte is. -/
theorem Item.text_inj {item item' : Item} : item.text = item'.text ↔ item = item' := by
  -- A byte is marked by a full stop.
  have hmark : ∀ i b, (instruction i).text ≠ (byte b).text := by
    intro i b h
    refine Instruction.not_mem_text (x := '.') rfl (by decide) (by decide) i ?_
    have hchars : i.text.toList = (byte b).text.toList := congrArg String.toList h
    rw [hchars, text, String.toList_append]
    exact List.mem_append_left _ List.mem_cons_self
  refine ⟨fun h => ?_, congrArg _⟩
  cases item with
  | instruction i =>
    cases item' with
    | instruction j => exact congrArg instruction (Instruction.text_inj.mp h)
    | byte b => exact absurd h (hmark i b)
  | byte b =>
    cases item' with
    | instruction i => exact absurd h.symm (hmark i b)
    | byte b' =>
      rw [text, text, String.append_right_inj, binary_inj] at h
      exact congrArg byte h

theorem Item.lf_not_mem_text (item : Item) : '\n' ∉ item.text.toList := by
  cases item with
  | instruction i => exact Instruction.not_mem_text rfl (by decide) (by decide) i
  | byte b =>
    rw [text, String.toList_append, List.mem_append]
    rintro (h | h)
    · exact absurd h (by decide)
    · exact not_mem_binary rfl b h

theorem Line.toList_text (line : Line) :
    line.text.toList = padded 16 2 line.address ++ ':' :: ' ' :: line.item.text.toList := by
  rw [text, String.toList_append, String.toList_append, hexDigits, String.toList_ofList,
    List.append_assoc]
  rfl

/-- **The text of a line tells its address and its item.** -/
theorem Line.text_inj {line line' : Line} : line.text = line'.text ↔ line = line' := by
  refine ⟨fun h => ?_, congrArg _⟩
  have hchars := congrArg String.toList h
  have hcolon : ∀ n, ':' ∉ padded 16 2 n := not_mem_padded (by decide) (by decide) rfl 2
  rw [toList_text, toList_text] at hchars
  obtain ⟨haddress, hitem⟩ := append_cons_inj (hcolon _) (hcolon _) hchars
  rw [padded_inj (by decide) (by decide)] at haddress
  rw [List.cons.injEq, String.toList_inj, Item.text_inj] at hitem
  cases line
  cases line'
  exact congrArg₂ mk haddress hitem.2

theorem Line.lf_not_mem_text (line : Line) : '\n' ∉ line.text.toList := by
  rw [toList_text, List.mem_append, List.mem_cons, List.mem_cons]
  rintro (h | h | h | h)
  · exact not_mem_padded (by decide) (by decide) rfl 2 _ h
  · cases h
  · cases h
  · exact line.item.lf_not_mem_text h

end Listing

/-! ## Listings -/

theorem Command.toList_textOf_cons (line : String) (lines : List String) :
    (textOf (line :: lines)).toList = line.toList ++ '\n' :: (textOf lines).toList := by
  rw [textOf, List.map_cons, String.join_cons, String.toList_append, String.toList_append,
    List.append_assoc]
  rfl

/-- **A text tells its lines**, if no line feed is within one. -/
theorem Command.textOf_inj {lines lines' : List String} (h : ∀ l ∈ lines, '\n' ∉ l.toList)
    (h' : ∀ l ∈ lines', '\n' ∉ l.toList) (heq : textOf lines = textOf lines') : lines = lines' := by
  induction lines generalizing lines' with
  | nil =>
    cases lines' with
    | nil => rfl
    | cons l lines' =>
      have hchars := congrArg String.toList heq
      rw [toList_textOf_cons] at hchars
      simp [textOf] at hchars
  | cons l lines ih =>
    have hchars := congrArg String.toList heq
    cases lines' with
    | nil =>
      rw [toList_textOf_cons] at hchars
      simp [textOf] at hchars
    | cons l' lines' =>
      rw [toList_textOf_cons, toList_textOf_cons] at hchars
      obtain ⟨hline, hrest⟩ :=
        append_cons_inj (h l List.mem_cons_self) (h' l' List.mem_cons_self) hchars
      rw [String.toList_inj.mp hline, ih (fun s hs => h s (List.mem_cons_of_mem _ hs))
        (fun s hs => h' s (List.mem_cons_of_mem _ hs)) (String.toList_inj.mp hrest)]

namespace Listing

open Command (textOf)

/-- Different byte sequences have different listings. -/
theorem disassemble_inj {bytes bytes' : List UInt8} :
    disassemble bytes = disassemble bytes' ↔ bytes = bytes' := by
  refine ⟨fun h => ?_, congrArg _⟩
  rw [← (tiles_disassemble bytes).flatMap_bytes, h, (tiles_disassemble bytes').flatMap_bytes]

/-- **A printed listing determines the program.** Two byte sequences of any length have the same
listing only if they are the same, whether the lines are compared one by one or as the text in which
each of them ends with a line feed. Each line tells its address and its item: no instruction is
shown as a byte is, and no two instructions and no two bytes are shown alike. -/
theorem listing_determines :
    (∀ bytes bytes' : List UInt8,
      (disassemble bytes).map Line.text = (disassemble bytes').map Line.text ↔ bytes = bytes') ∧
    (∀ bytes bytes' : List UInt8,
      textOf ((disassemble bytes).map Line.text) = textOf ((disassemble bytes').map Line.text) ↔
        bytes = bytes') ∧
    (∀ line line' : Line, line.text = line'.text ↔
      line.address = line'.address ∧ line.item = line'.item) ∧
    (∀ (i : Instruction) (b : UInt8), (Item.instruction i).text ≠ (Item.byte b).text) ∧
    (∀ i j : Instruction, i.text = j.text ↔ i = j) ∧
    ∀ b b' : UInt8, (Item.byte b).text = (Item.byte b').text ↔ b = b' := by
  have hlines : ∀ bytes bytes' : List UInt8,
      (disassemble bytes).map Line.text = (disassemble bytes').map Line.text ↔ bytes = bytes' := by
    intro bytes bytes'
    rw [List.map_inj_right fun _ _ => Line.text_inj.mp, disassemble_inj]
  have hfree : ∀ lines : List Line, ∀ l ∈ lines.map Line.text, '\n' ∉ l.toList := by
    intro lines l hl
    obtain ⟨line, -, rfl⟩ := List.mem_map.mp hl
    exact line.lf_not_mem_text
  refine ⟨hlines, fun bytes bytes' => ⟨fun h => ?_, ?_⟩, fun line line' => ?_, fun i b h => ?_,
    fun i j => Instruction.text_inj, fun b b' => ?_⟩
  · exact (hlines bytes bytes').mp (Command.textOf_inj (hfree _) (hfree _) h)
  · rintro rfl
    rfl
  · rw [Line.text_inj, Line.mk.injEq]
  · cases Item.text_inj.mp h
  · rw [Item.text_inj, Item.byte.injEq]

example : (disassemble [0x82, 1, 5, 9]).map Line.text =
    ["00: ldi  r1, 5", "03: .byte 0b00001001"] := by cbv

end Listing

end LS8
