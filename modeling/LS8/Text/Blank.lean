import LS8.Text.CharSet

/-!
# White space

The characters with the property `White_Space` of the Unicode standard, and what is left of a text
when they are removed from both of its ends.

* `whiteSpace`, `isBlank`;
* `trimLeft`, `trimRight`, `trim`: the text without the blanks at its ends;
* **`trim_append`**, `exists_trim`: only blanks are removed, and all of them.
-/

set_option autoImplicit false

namespace LS8

/-- The twenty-five characters with the property `White_Space`. -/
def whiteSpace : CharSet where
  ranges :=
    [(0x09, 0x0d), (0x20, 0x20), (0x85, 0x85), (0xa0, 0xa0), (0x1680, 0x1680), (0x2000, 0x200a),
      (0x2028, 0x2029), (0x202f, 0x202f), (0x205f, 0x205f), (0x3000, 0x3000)]

/-- Whether a character is white space. -/
def isBlank (c : Char) : Bool := whiteSpace.contains c

/-- The text from its first character that is not blank. -/
def trimLeft (text : List Char) : List Char := text.dropWhile isBlank

/-- The text up to its last character that is not blank. -/
def trimRight (text : List Char) : List Char := (text.reverse.dropWhile isBlank).reverse

/-- The text between its first and its last character that is not blank. -/
def trim (text : List Char) : List Char := trimRight (trimLeft text)

/-! ## What is removed -/

variable {left text right : List Char}

theorem trimLeft_append (h : ∀ c ∈ left, isBlank c) (text : List Char) :
    trimLeft (left ++ text) = trimLeft text :=
  List.dropWhile_append_of_pos h

theorem trimLeft_eq_self (h : ∀ c, text.head? = some c → isBlank c = false) :
    trimLeft text = text := by
  cases text with
  | nil => rfl
  | cons c text => exact List.dropWhile_cons_of_neg (by simp [h c rfl])

theorem trimRight_append (hr : ∀ c ∈ right, isBlank c)
    (h : ∀ c, text.getLast? = some c → isBlank c = false) : trimRight (text ++ right) = text := by
  have hb : ∀ c ∈ right.reverse, isBlank c := fun c hc => hr c (List.mem_reverse.mp hc)
  have ht : trimLeft text.reverse = text.reverse :=
    trimLeft_eq_self fun c hc => h c (by rwa [List.head?_reverse] at hc)
  rw [trimRight, List.reverse_append, ← trimLeft, trimLeft_append hb, ht, List.reverse_reverse]

/-- **Blanks around a text are cut off.** -/
theorem trim_append (hl : ∀ c ∈ left, isBlank c) (hr : ∀ c ∈ right, isBlank c)
    (hs : ∀ c, text.head? = some c → isBlank c = false)
    (he : ∀ c, text.getLast? = some c → isBlank c = false) :
    trim (left ++ text ++ right) = text := by
  rw [trim, List.append_assoc, trimLeft_append hl]
  cases text with
  | nil =>
    have hn := trimLeft_append hr []
    rw [List.append_nil] at hn
    rw [List.nil_append, hn]
    rfl
  | cons c text =>
    have ht : trimLeft (c :: text ++ right) = c :: text ++ right := trimLeft_eq_self hs
    rw [ht, trimRight_append hr he]

/-- Only blanks are cut off, and all of them at the ends of the text. -/
theorem exists_trim (text : List Char) :
    ∃ left right, text = left ++ trim text ++ right ∧ (∀ c ∈ left, isBlank c) ∧
      (∀ c ∈ right, isBlank c) ∧ (∀ c, (trim text).head? = some c → isBlank c = false) ∧
      ∀ c, (trim text).getLast? = some c → isBlank c = false := by
  have hrest : trimLeft text =
      trim text ++ ((trimLeft text).reverse.takeWhile isBlank).reverse := by
    rw [trim, trimRight, ← List.reverse_append, List.takeWhile_append_dropWhile,
      List.reverse_reverse]
  refine ⟨text.takeWhile isBlank, ((trimLeft text).reverse.takeWhile isBlank).reverse,
    ?_, List.all_eq_true.mp List.all_takeWhile, ?_, ?_, ?_⟩
  · rw [List.append_assoc, ← hrest]
    exact List.takeWhile_append_dropWhile.symm
  · intro c hc
    exact List.all_eq_true.mp List.all_takeWhile c (List.mem_reverse.mp hc)
  · intro c hc
    have hd := List.head?_dropWhile_not isBlank text
    rw [← trimLeft, hrest, List.head?_append, hc] at hd
    exact hd
  · intro c hc
    have hd := List.head?_dropWhile_not isBlank (trimLeft text).reverse
    rw [trim, trimRight, List.getLast?_reverse] at hc
    rw [hc] at hd
    exact hd

end LS8
