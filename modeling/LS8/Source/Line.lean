/-!
# Lines of a source text

A text is cut after each line feed. The line feed is no part of the line, nor is a carriage return
right before it; a carriage return elsewhere is. Nothing follows the last line feed but another
line, if there is more text.

* `utf8Length`: the length of a text in bytes;
* `pieces`, `chomp`: the cut, and what a piece holds besides the line end;
* `lineTexts`: what stands on the lines;
* `Line`, `lines`: the lines with their numbers and offsets;
* **`flatten_pieces`**: the pieces put together are the text;
* **`pieces_append`**: a text that ends with a line feed is cut apart from what follows it.
-/

set_option autoImplicit false

namespace LS8.Source

/-- The length of a text in bytes, when it is written in UTF-8. -/
def utf8Length (text : List Char) : Nat := text.foldr (fun c n => c.utf8Size + n) 0

@[simp] theorem utf8Length_nil : utf8Length [] = 0 := rfl

@[simp] theorem utf8Length_cons (c : Char) (text : List Char) :
    utf8Length (c :: text) = c.utf8Size + utf8Length text := rfl

@[simp] theorem utf8Length_append (s t : List Char) :
    utf8Length (s ++ t) = utf8Length s + utf8Length t := by
  induction s with
  | nil => simp
  | cons c s ih => simp [ih, Nat.add_assoc]

/-- A character in front of a cut text. -/
def cutBefore (c : Char) (rest : List (List Char)) : List (List Char) :=
  if c = '\n' then [c] :: rest
  else
    match rest with
    | [] => [[c]]
    | piece :: rest => (c :: piece) :: rest

/-- The text, cut after each line feed. -/
def pieces (text : List Char) : List (List Char) := text.foldr cutBefore []

@[simp] theorem pieces_nil : pieces [] = [] := rfl

@[simp] theorem pieces_cons (c : Char) (text : List Char) :
    pieces (c :: text) = cutBefore c (pieces text) := rfl

theorem flatten_cutBefore (c : Char) (rest : List (List Char)) :
    (cutBefore c rest).flatten = c :: rest.flatten := by
  unfold cutBefore
  split
  · rfl
  · cases rest <;> rfl

/-- **Nothing is lost by cutting.** -/
theorem flatten_pieces (text : List Char) : (pieces text).flatten = text := by
  induction text with
  | nil => rfl
  | cons c text ih => rw [pieces_cons, flatten_cutBefore, ih]

theorem pieces_ne_nil {text : List Char} (h : text ≠ []) : pieces text ≠ [] := fun e => by
  have := flatten_pieces text
  rw [e] at this
  exact h this.symm

theorem cutBefore_append {c : Char} {rest : List (List Char)} (h : c = '\n' ∨ rest ≠ [])
    (more : List (List Char)) : cutBefore c (rest ++ more) = cutBefore c rest ++ more := by
  unfold cutBefore
  split
  · rfl
  · rename_i hc
    cases rest with
    | nil => exact absurd rfl (h.resolve_left hc)
    | cons piece rest => rfl

/-- **A text that ends with a line feed is cut apart from what follows it.** -/
theorem pieces_append {s : List Char} (h : s = [] ∨ s.getLast? = some '\n') (t : List Char) :
    pieces (s ++ t) = pieces s ++ pieces t := by
  induction s with
  | nil => rfl
  | cons c s ih =>
    rw [List.cons_append, pieces_cons, pieces_cons]
    by_cases hs : s = []
    · subst hs
      have hc : c = '\n' := by simpa using h
      simp [hc, cutBefore]
    · have hl : s.getLast? = some '\n' := by
        rw [List.getLast?_cons_of_ne_nil hs] at h
        simpa using h
      rw [ih (Or.inr hl), cutBefore_append (Or.inr (pieces_ne_nil hs))]

/-- A piece without the line feed at its end, and without a carriage return right before that. -/
def chomp (piece : List Char) : List Char :=
  match piece.reverse with
  | '\n' :: '\r' :: line => line.reverse
  | '\n' :: line => line.reverse
  | _ => piece

/-- What stands on the lines of a text. -/
def lineTexts (text : List Char) : List (List Char) := (pieces text).map chomp

/-- A line of a source text. -/
structure Line where
  /-- The lines are numbered from one. -/
  number : Nat
  /-- The length of all that stands before the line, in bytes. -/
  offset : Nat
  text : List Char
deriving DecidableEq

/-- The lines of the pieces of a text, from this number and offset on. -/
def linesFrom (number offset : Nat) : List (List Char) → List Line
  | [] => []
  | piece :: rest =>
    ⟨number, offset, chomp piece⟩ :: linesFrom (number + 1) (offset + utf8Length piece) rest

/-- The lines of a text. -/
def lines (text : List Char) : List Line := linesFrom 1 0 (pieces text)

theorem linesFrom_append (number offset : Nat) (ps qs : List (List Char)) :
    linesFrom number offset (ps ++ qs) =
      linesFrom number offset ps
        ++ linesFrom (number + ps.length) (offset + utf8Length ps.flatten) qs := by
  induction ps generalizing number offset with
  | nil => simp [linesFrom]
  | cons p ps ih => simp [linesFrom, ih, Nat.add_assoc, Nat.add_comm 1]

theorem map_text_linesFrom (number offset : Nat) (ps : List (List Char)) :
    (linesFrom number offset ps).map Line.text = ps.map chomp := by
  induction ps generalizing number offset with
  | nil => rfl
  | cons p ps ih => simp [linesFrom, ih]

@[simp] theorem map_text_lines (text : List Char) : (lines text).map Line.text = lineTexts text :=
  map_text_linesFrom 1 0 (pieces text)

end LS8.Source
