import LS8.Instruction.Decode

/-!
# Listings

A byte sequence is read from its first byte to its last. Where an instruction can be decoded it
takes all its bytes; any other byte stands for itself, and reading goes on right after it.

* `Attempt`, `attempts`: the places where decoding was tried, and what came out;
* **`one_le_stride`**: each attempt is done with a byte at least, so reading comes to an end;
* `Item`, `Line`, `disassemble`: the listing.
-/

set_option autoImplicit false

namespace LS8.Listing

/-- What stands on a line. -/
inductive Item
  | instruction (i : Instruction)
  /-- A byte that starts no instruction. -/
  | byte (b : UInt8)
deriving DecidableEq

namespace Item

/-- An item in assembly. -/
def text : Item → String
  | instruction i => i.text
  | byte b => ".byte " ++ binary b

/-- The bytes of an item. -/
def bytes : Item → List UInt8
  | instruction i => i.encode
  | byte b => [b]

end Item

/-- One line of a listing. -/
structure Line where
  address : Nat
  item : Item
deriving DecidableEq

namespace Line

/-- A line as text: the address in hexadecimal, at least two digits, and the item. -/
def text (line : Line) : String := hexDigits 2 line.address ++ ": " ++ line.item.text

end Line

/-- A place where decoding was tried. -/
structure Attempt where
  address : Nat
  /-- The byte at that place. -/
  first : UInt8
  decoded : Except DecodeError Instruction

namespace Attempt

/-- The line for a place. -/
def line (a : Attempt) : Line :=
  match a.decoded with
  | .ok i => ⟨a.address, .instruction i⟩
  | .error _ => ⟨a.address, .byte a.first⟩

/-- The address and the error of a place without an instruction. -/
def failure? (a : Attempt) : Option (Nat × DecodeError) :=
  match a.decoded with
  | .ok _ => none
  | .error e => some (a.address, e)

end Attempt

/-- How many bytes are done with once decoding has been tried. -/
def stride : Except DecodeError Instruction → Nat
  | .ok i => i.size
  | .error _ => 1

/-- **Each attempt is done with a byte at least.** -/
theorem one_le_stride (decoded : Except DecodeError Instruction) : 1 ≤ stride decoded := by
  cases decoded with
  | ok i => exact i.one_le_size
  | error e => exact Nat.le_refl 1

/-- The places where decoding is tried in a byte sequence whose first byte has this address. -/
def attempts (address : Nat) (bytes : List UInt8) : List Attempt :=
  match bytes with
  | [] => []
  | first :: rest =>
    let decoded := Instruction.decode (first :: rest)
    ⟨address, first, decoded⟩
      :: attempts (address + stride decoded) ((first :: rest).drop (stride decoded))
termination_by bytes.length
decreasing_by
  have hstride := one_le_stride (Instruction.decode (first :: rest))
  rw [List.length_drop, List.length_cons]
  omega

/-- The listing of a byte sequence. -/
def disassemble (bytes : List UInt8) : List Line := (attempts 0 bytes).map Attempt.line

/-- The bytes of a sequence that start no instruction, with the reason. -/
def failures (bytes : List UInt8) : List (Nat × DecodeError) :=
  (attempts 0 bytes).filterMap Attempt.failure?

@[simp] theorem attempts_nil (address : Nat) : attempts address [] = [] := by
  rw [attempts]

theorem attempts_cons (address : Nat) (first : UInt8) (rest : List UInt8) :
    attempts address (first :: rest) =
      ⟨address, first, Instruction.decode (first :: rest)⟩
        :: attempts (address + stride (Instruction.decode (first :: rest)))
          ((first :: rest).drop (stride (Instruction.decode (first :: rest)))) := by
  rw [attempts]

end LS8.Listing
