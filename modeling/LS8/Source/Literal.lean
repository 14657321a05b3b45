import LS8.Source.Line
import LS8.Text.Blank

/-!
# The line grammar

A line holds at most one byte, written as eight binary digits. Spaces and tabs may stand before and
after it, and a comment from `#` on may end the line.

* `Content`, `content?`: what a line holds, if it is inside the grammar;
* `Span`, `Span.covered?`: a stretch of the source in bytes, and the text there;
* `culprit`: what a line outside the grammar is blamed for;
* **`Span.covered?_append`**: the span of a text covers that text.
-/

set_option autoImplicit false

namespace LS8.Source

/-- What a line inside the grammar holds. -/
inductive Content
  | nothing
  | byte (value : UInt8)
deriving DecidableEq

namespace Content

/-- The bytes of a line: one or none. -/
def bytes : Content → List UInt8
  | nothing => []
  | byte value => [value]

end Content

/-- The characters that separate what stands on a line. -/
def isSpace (c : Char) : Bool := c = ' ' || c = '\t'

/-- The binary digits. -/
def isBit (c : Char) : Bool := c = '0' || c = '1'

/-- The byte that eight binary digits write, the most significant first. -/
def byteOf (digits : List Char) : UInt8 := UInt8.ofNat (Nat.ofDigitChars 2 digits 0)

/-- Whether nothing is left of a line but space and perhaps a comment. -/
def isIdle (rest : List Char) : Bool :=
  match rest.dropWhile isSpace with
  | [] => true
  | c :: _ => c = '#'

/-- What a line holds, if it is inside the grammar. -/
def content? (line : List Char) : Option Content :=
  let rest := line.dropWhile isSpace
  let digits := rest.take 8
  if digits.length = 8 ∧ digits.all isBit then
    if isIdle (rest.drop 8) then some (.byte (byteOf digits)) else none
  else if isIdle rest then some .nothing
  else none

/-! ## Pointing at a line outside the grammar -/

/-- A stretch of a source text, in bytes. -/
structure Span where
  offset : Nat
  length : Nat
deriving DecidableEq

/-- The text after its first `n` bytes, if a character ends there. -/
def dropBytes? : Nat → List Char → Option (List Char)
  | 0, text => some text
  | _ + 1, [] => none
  | n + 1, c :: text =>
    if c.utf8Size ≤ n + 1 then dropBytes? (n + 1 - c.utf8Size) text else none

/-- The first `n` bytes of the text, if a character ends there. -/
def takeBytes? : Nat → List Char → Option (List Char)
  | 0, _ => some []
  | _ + 1, [] => none
  | n + 1, c :: text =>
    if c.utf8Size ≤ n + 1 then (takeBytes? (n + 1 - c.utf8Size) text).map (c :: ·) else none

/-- The text that a span covers, if it starts and ends between characters of the source. -/
def Span.covered? (span : Span) (source : List Char) : Option (List Char) :=
  (dropBytes? span.offset source).bind (takeBytes? span.length)

theorem dropBytes?_cons (c : Char) (n : Nat) (text : List Char) :
    dropBytes? (c.utf8Size + n) (c :: text) = dropBytes? n text := by
  obtain ⟨k, hk⟩ := Nat.exists_eq_add_one_of_ne_zero (Nat.ne_of_gt (Char.utf8Size_pos c))
  rw [hk, Nat.add_right_comm, dropBytes?, hk, if_pos (by omega)]
  congr 1
  omega

theorem takeBytes?_cons (c : Char) (n : Nat) (text : List Char) :
    takeBytes? (c.utf8Size + n) (c :: text) = (takeBytes? n text).map (c :: ·) := by
  obtain ⟨k, hk⟩ := Nat.exists_eq_add_one_of_ne_zero (Nat.ne_of_gt (Char.utf8Size_pos c))
  rw [hk, Nat.add_right_comm, takeBytes?, hk, if_pos (by omega)]
  congr 2
  omega

theorem dropBytes?_append (s t : List Char) : dropBytes? (utf8Length s) (s ++ t) = some t := by
  induction s with
  | nil => exact dropBytes?.eq_1 t
  | cons c s ih => rw [utf8Length_cons, List.cons_append, dropBytes?_cons, ih]

theorem takeBytes?_append (s t : List Char) : takeBytes? (utf8Length s) (s ++ t) = some s := by
  induction s with
  | nil => exact takeBytes?.eq_1 t
  | cons c s ih => rw [utf8Length_cons, List.cons_append, takeBytes?_cons, ih, Option.map_some]

/-- **The span of a text covers that text**, if it starts after all that stands before the text. -/
theorem Span.covered?_append (before text after : List Char) :
    Span.covered? ⟨utf8Length before, utf8Length text⟩ (before ++ (text ++ after)) = some text := by
  rw [Span.covered?, dropBytes?_append, Option.bind_some, takeBytes?_append]

/-- What a line outside the grammar is blamed for: all that stands before the comment, without the
white space around it. If nothing is left, the start of the line is. -/
def culprit (line : Line) : Span :=
  let body := line.text.takeWhile (· ≠ '#')
  let literal := trim body
  if literal.isEmpty then ⟨line.offset, 0⟩
  else ⟨line.offset + utf8Length (body.takeWhile isBlank), utf8Length literal⟩

end LS8.Source
