import LS8.Text.Alphanumeric
import LS8.Text.Column
import LS8.Text.LineBreak

/-!
# The first line of a wrapped text

A text is wrapped by filling each line with as many pieces as fit. A piece is a word with the spaces
after it, or a part of such a word up to a hyphen. Escape sequences take no room, and a word ends
before the sequences that stand in front of the next one.

* `words`, `hyphenParts`, `wrapPieces`: the text in pieces;
* `fitting`, `firstLine`: the pieces on the first line;
* **`flatten_wrapPieces`**: the pieces put together are the text;
* **`firstLine_isPrefix`**: the text starts with its first line.
-/

set_option autoImplicit false

namespace LS8

/-! ## Words -/

/-- The hyphen and the soft hyphen. No word starts right after one of them. -/
def isHyphen (c : Char) : Bool := c = '-' || c = '\u00ad'

/-- Whether a word starts with `c`, when `before` is shown right before it. -/
def startsWord (k : BreakContext) (before : Option Char) (c : Char) : Bool :=
  match before with
  | none => false
  | some b => !isHyphen b && k.allows (breakClass c)

/-- The words of a marked text. Of the first, the characters `word` have been read, and the hidden
characters `hidden` after them, the last first in both. They belong to the next word if it starts
there. -/
def wordsFrom (k : BreakContext) (before : Option Char) (word hidden : List Char) :
    List (Char × Bool) → List (List Char)
  | [] => [(hidden ++ word).reverse]
  | (c, false) :: rest => wordsFrom k before word (c :: hidden) rest
  | (c, true) :: rest =>
    if startsWord k before c then
      word.reverse :: wordsFrom (k.after (breakClass c)) (some c) (c :: hidden) [] rest
    else wordsFrom (k.after (breakClass c)) (some c) (c :: (hidden ++ word)) [] rest

/-- The words with the last two made one. -/
def mergeLast : List (List Char) → List (List Char)
  | [] => []
  | [word] => [word]
  | [word, last] => [word ++ last]
  | word :: rest => word :: mergeLast rest

/-- The words of a text. If all that is shown of it ends with a hyphen, the last word goes with the
one before it. -/
def words (text : List Char) : List (List Char) :=
  let found := wordsFrom {} none [] [] (marked text)
  if (visible text).getLast?.any isHyphen then mergeLast found else found

theorem flatten_wordsFrom (k : BreakContext) (before : Option Char) (word hidden : List Char)
    (text : List (Char × Bool)) :
    (wordsFrom k before word hidden text).flatten =
      word.reverse ++ hidden.reverse ++ text.map (·.1) := by
  fun_induction wordsFrom k before word hidden text with
  | case1 => simp
  | case2 _ _ _ _ _ _ ih => simp [ih]
  | case3 _ _ _ _ _ _ _ ih => simp [ih]
  | case4 _ _ _ _ _ _ _ ih => simp [ih]

theorem flatten_mergeLast (found : List (List Char)) :
    (mergeLast found).flatten = found.flatten := by
  fun_induction mergeLast found <;> simp_all

theorem flatten_words (text : List Char) : (words text).flatten = text := by
  have h : (wordsFrom {} none [] [] (marked text)).flatten = text := by
    simp [flatten_wordsFrom, map_fst_marked]
  unfold words
  split
  · rw [flatten_mergeLast, h]
  · exact h

/-! ## Parts of a word -/

/-- The parts of a word, which end with its hyphens between letters or numbers. `before` stands
right before the word. -/
def hyphenParts (before : Option Char) : List Char → List (List Char)
  | [] => []
  | c :: word =>
    let parts := hyphenParts (some c) word
    if c = '-' && before.any alphanumeric.contains && word.head?.any alphanumeric.contains then
      [c] :: parts
    else
      match parts with
      | [] => [[c]]
      | part :: parts => (c :: part) :: parts

theorem flatten_hyphenParts (before : Option Char) (word : List Char) :
    (hyphenParts before word).flatten = word := by
  induction word generalizing before with
  | nil => rfl
  | cons c word ih =>
    have h := ih (some c)
    simp only [hyphenParts]
    split
    · simp [h]
    · cases e : hyphenParts (some c) word with
      | nil => simp_all
      | cons part parts => simp_all

/-- The pieces of a text: the parts of its words. -/
def wrapPieces (text : List Char) : List (List Char) := (words text).flatMap (hyphenParts none)

theorem flatten_flatMap_hyphenParts (found : List (List Char)) :
    (found.flatMap (hyphenParts none)).flatten = found.flatten := by
  induction found with
  | nil => rfl
  | cons word found ih => simp [flatten_hyphenParts, ih]

/-- **The pieces put together are the text.** -/
theorem flatten_wrapPieces (text : List Char) : (wrapPieces text).flatten = text := by
  rw [wrapPieces, flatten_flatMap_hyphenParts, flatten_words]

/-! ## The line -/

/-- A text without the spaces at its end. -/
def dropSpaces (text : List Char) : List Char := (text.reverse.dropWhile (· = ' ')).reverse

/-- The pieces that fit on a line of which `used` columns are taken. The spaces at the end of a
piece need no room for themselves, but keep what follows at its distance. -/
def fitting (limit used : Nat) : List (List Char) → List (List Char)
  | [] => []
  | piece :: rest =>
    let body := dropSpaces piece
    let filled := used + columns body
    if filled ≤ limit then piece :: fitting limit (filled + (piece.length - body.length)) rest
    else []

/-- The first line of a text that is wrapped at `limit` columns, without the spaces at its end. -/
def firstLine (limit : Nat) (text : List Char) : List Char :=
  dropSpaces (fitting limit 0 (wrapPieces text)).flatten

theorem fitting_isPrefix (limit used : Nat) (found : List (List Char)) :
    fitting limit used found <+: found := by
  induction found generalizing used with
  | nil => exact List.prefix_rfl
  | cons piece found ih =>
    simp only [fitting]
    split
    · exact List.cons_prefix_cons.mpr ⟨rfl, ih _⟩
    · exact List.nil_prefix

theorem dropSpaces_isPrefix (text : List Char) : dropSpaces text <+: text := by
  have hsuffix := List.dropWhile_suffix (· = ' ') (l := text.reverse)
  rw [dropSpaces, ← List.reverse_suffix, List.reverse_reverse]
  exact hsuffix

/-- **The text starts with its first line.** -/
theorem firstLine_isPrefix (limit : Nat) (text : List Char) : firstLine limit text <+: text := by
  obtain ⟨rest, hrest⟩ := fitting_isPrefix limit 0 (wrapPieces text)
  have hfitting : (fitting limit 0 (wrapPieces text)).flatten <+: text := by
    refine ⟨rest.flatten, ?_⟩
    rw [← List.flatten_append, hrest, flatten_wrapPieces]
  exact (dropSpaces_isPrefix _).trans hfitting

end LS8
