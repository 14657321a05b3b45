import LS8.Text.UpperCase.Table

/-!
# Upper case

The upper-case form of a text is that of each of its characters, and a character can have a form of
several characters, as in `ß` and `SS`.

* `CaseRun.upper?`, `upperChar`, `upperCase`: the upper-case form of a code point in a run, of a
  character and of a text.
-/

set_option autoImplicit false

namespace LS8

/-- The upper-case form of a code point of the run. -/
def CaseRun.upper? (run : CaseRun) (code : Nat) : Option Char :=
  if run.first ≤ code ∧ code ≤ run.last ∧ (code - run.first) % run.step = 0 then
    some (Char.ofNat (run.image + (code - run.first)))
  else
    none

/-- The upper-case form of a character; a character without one stands for itself. -/
def upperChar (c : Char) : List Char :=
  match upperExpansions.lookup c with
  | some form => form
  | none =>
    match upperRuns.findSome? fun run => run.upper? c.toNat with
    | some u => [u]
    | none => [c]

/-- The upper-case form of a text. -/
def upperCase (text : List Char) : List Char := text.flatMap upperChar

end LS8
