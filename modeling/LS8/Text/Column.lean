import LS8.Text.Column.Table
import LS8.Text.EscapeSequence

/-!
# Columns of a terminal

How much room a text takes on a line. Most characters take one column, some take two or none, and
what belongs to an escape sequence takes none.

* `columnsOf`, `columns`: the columns of a character and of a text.
-/

set_option autoImplicit false

namespace LS8

/-- The number of columns of one character. -/
def columnsOf (c : Char) : Nat :=
  if zeroWidth.contains c then 0 else if wide.contains c then 2 else 1

/-- The number of columns of a text. -/
def columns (text : List Char) : Nat := (visible text).foldr (fun c n => columnsOf c + n) 0

end LS8
