/-!
# Escape sequences

Some characters of a text are orders to the terminal that shows it. An escape character hides itself
and the character after it. After a bracket `[`, all is hidden up to a character from `@` to `~`.
After a bracket `]`, all is hidden up to a bell, or up to a backslash right after another escape
character.

* `EscapeState`, `EscapeState.shows`, `EscapeState.next`: how a terminal reads a text;
* `marked`, `visible`: which characters are shown;
* **`map_fst_marked`**: marking a text leaves its characters alone.
-/

set_option autoImplicit false

namespace LS8

/-- The character that starts an escape sequence. -/
def escapeChar : Char := '\x1b'

/-- Where a terminal stands in a text. -/
inductive EscapeState
  /-- Outside of all sequences. -/
  | outside
  /-- Right after the escape character. -/
  | opened
  /-- In a sequence that a character from `@` to `~` ends. -/
  | control
  /-- In a sequence that a bell or a backslash ends; the backslash only if the character before it
  was an escape character, and whether it was is known. -/
  | command (escaped : Bool)
deriving DecidableEq

namespace EscapeState

/-- Whether a character that comes next is shown. -/
def shows (s : EscapeState) (c : Char) : Bool := s = outside && c ≠ escapeChar

/-- Where the terminal stands after a character. -/
def next (c : Char) : EscapeState → EscapeState
  | outside => if c = escapeChar then opened else outside
  | opened => if c = '[' then control else if c = ']' then command false else outside
  | control => if '@' ≤ c ∧ c ≤ '~' then outside else control
  | command escaped =>
    if c = '\x07' ∨ (escaped ∧ c = '\\') then outside else command (c = escapeChar)

end EscapeState

/-- The characters of a text, each with whether it is shown, from this state on. -/
def markedFrom (s : EscapeState) : List Char → List (Char × Bool)
  | [] => []
  | c :: text => (c, s.shows c) :: markedFrom (s.next c) text

/-- The characters of a text, each with whether it is shown. -/
def marked (text : List Char) : List (Char × Bool) := markedFrom .outside text

/-- The characters of a text that are shown. -/
def visible (text : List Char) : List Char := ((marked text).filter (·.2)).map (·.1)

theorem map_fst_markedFrom (s : EscapeState) (text : List Char) :
    (markedFrom s text).map (·.1) = text := by
  induction text generalizing s with
  | nil => rfl
  | cons c text ih => rw [markedFrom, List.map_cons, ih]

/-- **Marking a text leaves its characters alone.** -/
theorem map_fst_marked (text : List Char) : (marked text).map (·.1) = text :=
  map_fst_markedFrom .outside text

end LS8
