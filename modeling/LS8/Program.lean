import LS8.Computer
import LS8.IoError
import LS8.Source.Literal

/-!
# Programs

A program is a sequence of bytes that fits into the memory. It is written as a text with one byte on
a line.

* `Program`, `LoadError`;
* `Program.ofLines`, `Program.parse`, `Program.ofFile`: a program from its source text;
* `Computer.ofProgram`: the computer with a program in its memory;
* **`withProgram_bytes`**: a program always fits;
* `registers_of_withProgram`, `bytes_ofProgram`: the registers and the memory of a computer with a
  program.
-/

set_option autoImplicit false

namespace LS8

/-- The bytes of a program. -/
structure Program where
  bytes : List UInt8
  fits : bytes.length ≤ memorySize

/-- Why a program could not be loaded. -/
inductive LoadError
  /-- The file could not be read as text. -/
  | unreadable (path : String) (cause : IoError)
  /-- A line is outside the line grammar. -/
  | badLiteral (line : Nat) (span : Source.Span)
  /-- The program does not fit into the memory. -/
  | tooLarge (size : Nat)
deriving DecidableEq

namespace LoadError

/-- The wording of the error. -/
def message : LoadError → String
  | unreadable path _ => "could not read program " ++ path
  | badLiteral line _ => "invalid byte literal on line " ++ decimal line
  | tooLarge size =>
    "program is " ++ decimal size ++ " bytes long, but the memory only holds "
      ++ decimal memorySize

/-- The wording of what caused the error, if something else did. -/
def cause : LoadError → Option String
  | unreadable _ cause => some cause.message
  | badLiteral _ _ | tooLarge _ => none

/-- What the span of a bad literal is labelled with. -/
def label : String := "expected 8 binary digits"

/-- Advice on bad literals. -/
def help : String := "each line holds one 8 digit binary literal, like 10000010"

end LoadError

namespace Program

/-- The bytes of the lines of a text, unless one of the lines is outside the grammar. The first such
line is to blame. -/
def ofLines : List Source.Line → Except LoadError (List UInt8)
  | [] => .ok []
  | line :: rest =>
    match Source.content? line.text with
    | none => .error (.badLiteral line.number (Source.culprit line))
    | some content => (ofLines rest).map (content.bytes ++ ·)

/-- The program of a source text. Its size is looked at once all lines are inside the grammar. -/
def parse (source : List Char) : Except LoadError Program :=
  match ofLines (Source.lines source) with
  | .error e => .error e
  | .ok bytes =>
    if fits : bytes.length ≤ memorySize then .ok ⟨bytes, fits⟩ else .error (.tooLarge bytes.length)

/-- The program in a file, of which this is what reading it gave. -/
def ofFile (path : String) (content : Except IoError ByteArray) : Except LoadError Program :=
  match content with
  | .error cause => .error (.unreadable path cause)
  | .ok bytes =>
    match String.fromUTF8? bytes with
    | none => .error (.unreadable path .notUtf8)
    | some source => parse source.toList

/-- The number of bytes of a program. -/
def size (p : Program) : Nat := p.bytes.length

/-- Whether a program has no bytes. -/
def isEmpty (p : Program) : Bool := p.bytes.isEmpty

end Program

namespace Computer

/-- The computer with a program at the start of its memory. -/
def ofProgram (p : Program) : Computer :=
  { initial with memory := initial.memory.overlay 0 p.bytes (by simpa using p.fits) }

/-- **A program always fits.** -/
theorem withProgram_bytes (p : Program) : withProgram p.bytes = .ok (ofProgram p) := by
  rw [withProgram, Memory.load_of_fits _ (by simpa using p.fits)]
  rfl

theorem registers_of_withProgram {program : List UInt8} {c : Computer}
    (h : withProgram program = .ok c) : c.registers = Registers.zero := by
  rw [withProgram] at h
  cases hm : initial.memory.load 0 program with
  | error e => simp [hm, Except.map] at h
  | ok m =>
    simp only [hm, Except.map, Except.ok.injEq] at h
    rw [← h]
    rfl

/-- The bytes of a program are followed by zeros. -/
theorem bytes_ofProgram (p : Program) :
    (ofProgram p).memory.bytes =
      p.bytes ++ List.replicate (memorySize - p.bytes.length) 0 := by
  rw [ofProgram, Memory.bytes_overlay, initial, Memory.bytes_zero, List.take_zero, List.nil_append,
    Nat.zero_add, List.drop_replicate]

end Computer

end LS8
