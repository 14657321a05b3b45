import LS8.Text.Numeral
import LS8.Text.Quoted.Table

/-!
# Quoted text

A text in double quotes, in which every character can be seen: quotes and backslashes are written
after a backslash, the common controls by a letter, and all that has no form of its own by its code
point.

* `escape`, `quoted`: the written form of a character and of a text.
-/

set_option autoImplicit false

namespace LS8

/-- The written form of one character of a quoted text. -/
def escape (c : Char) : List Char :=
  if c = '"' then ['\\', '"']
  else if c = '\\' then ['\\', '\\']
  else if c = '\n' then ['\\', 'n']
  else if c = '\r' then ['\\', 'r']
  else if c = '\t' then ['\\', 't']
  else if c = '\x00' then ['\\', '0']
  else if unprintable.contains c then ['\\', 'u', '\x7b'] ++ padded 16 1 c.toNat ++ ['\x7d']
  else [c]

/-- A text in double quotes. -/
def quoted (text : String) : String :=
  String.ofList ('"' :: (text.toList.flatMap escape ++ ['"']))

end LS8
