import LS8.Listing
import LS8.Proofs.Decoding
import Mathlib.Data.List.Chain

/-!
# Listings tile the bytes

The lines of a listing stand for the bytes from the first to the last, each byte being on one line.

* `Item.size`, **`length_bytes`**: how many bytes an item takes;
* `Stands`, `Tiles`: the item that the decoder finds, and lines that stand for all the bytes;
* **`tiles_disassemble`**: the lines of a listing do;
* **`disassemble_tiling`**: the listing has no gap, loses nothing, and holds what is decoded.
-/

set_option autoImplicit false

namespace LS8.Listing

/-- The number of bytes of an item. -/
def Item.size : Item → Nat
  | .instruction i => i.size
  | .byte _ => 1

/-- **An item takes as many bytes as it has.** -/
theorem length_bytes (item : Item) : item.bytes.length = item.size := by
  cases item with
  | instruction i => exact i.length_encode
  | byte b => rfl

theorem bytes_ne_nil (item : Item) : item.bytes ≠ [] := by
  cases item with
  | instruction i => simp [Item.bytes, Instruction.encode]
  | byte b => simp [Item.bytes]

/-- The item is what the decoder finds at the start of the bytes. -/
def Stands (bytes : List UInt8) : Item → Prop
  | .instruction i => Instruction.decode bytes = .ok i
  | .byte b => bytes.head? = some b ∧ ∃ e, Instruction.decode bytes = .error e

/-- The lines stand for the bytes, of which the first has this address. -/
inductive Tiles : Nat → List UInt8 → List Line → Prop
  | nil (address : Nat) : Tiles address [] []
  | cons {address : Nat} {item : Item} {rest : List UInt8} {lines : List Line}
    (stands : Stands (item.bytes ++ rest) item) (tail : Tiles (address + item.size) rest lines) :
    Tiles address (item.bytes ++ rest) (⟨address, item⟩ :: lines)

/-- A decoded instruction stands before what follows it. -/
theorem Tiles.instruction {address : Nat} {i : Instruction} {rest : List UInt8} {lines : List Line}
    (tail : Tiles (address + i.size) rest lines) :
    Tiles address (i.encode ++ rest) (⟨address, .instruction i⟩ :: lines) :=
  @Tiles.cons address (.instruction i) rest lines (Instruction.decode_encode_append i rest) tail

theorem Tiles.byte {address : Nat} {b : UInt8} {rest : List UInt8} {lines : List Line}
    {e : DecodeError} (undecoded : Instruction.decode (b :: rest) = .error e)
    (tail : Tiles (address + 1) rest lines) :
    Tiles address (b :: rest) (⟨address, .byte b⟩ :: lines) :=
  @Tiles.cons address (.byte b) rest lines ⟨rfl, e, undecoded⟩ tail

/-- Decoding on where the last item ended tiles the bytes. -/
theorem tiles_attempts (address : Nat) (bytes : List UInt8) :
    Tiles address bytes ((attempts address bytes).map Attempt.line) := by
  -- An instruction takes several bytes at once, so the induction is on their number.
  induction hn : bytes.length using Nat.strongRecOn generalizing address bytes with
  | ind n ih =>
    cases bytes with
    | nil =>
      rw [attempts_nil]
      exact .nil address
    | cons b rest =>
      rw [List.length_cons] at hn
      rw [attempts_cons, List.map_cons]
      cases hd : Instruction.decode (b :: rest) with
      | error e => exact .byte hd (ih rest.length (by omega) (address + 1) rest rfl)
      | ok i =>
        obtain ⟨tail, ht⟩ := Instruction.decode_eq_ok_iff.mp hd
        have hsize := i.one_le_size
        have hdrop : (b :: rest).drop i.size = tail := by
          rw [← ht, ← i.length_encode, List.drop_left]
        have hlength : tail.length < n := by
          rw [← hdrop, List.length_drop, List.length_cons]
          omega
        have htail := ih tail.length hlength (address + i.size) tail rfl
        rw [stride, hdrop, ← ht]
        exact .instruction htail

/-- **The lines of a listing tile the bytes.** -/
theorem tiles_disassemble (bytes : List UInt8) : Tiles 0 bytes (disassemble bytes) :=
  tiles_attempts 0 bytes

/-! ## What tiles -/

section Tilings

variable {address : Nat} {bytes : List UInt8} {lines : List Line}

theorem Tiles.eq_nil_iff (h : Tiles address bytes lines) : lines = [] ↔ bytes = [] := by
  cases h with
  | nil => simp
  | @cons item _ _ stands tail => simp [bytes_ne_nil]

theorem Tiles.address_head (h : Tiles address bytes lines) :
    ∀ line ∈ lines.head?, line.address = address := by
  cases h with
  | nil => simp
  | cons stands tail => simp

/-- Each line starts where the line before it ends. -/
theorem Tiles.isChain (h : Tiles address bytes lines) :
    lines.IsChain fun line next => next.address = line.address + line.item.size := by
  induction h with
  | nil => exact .nil
  | cons stands tail ih => exact List.isChain_cons.mpr ⟨tail.address_head, ih⟩

theorem Tiles.address_getLast (h : Tiles address bytes lines) :
    ∀ line ∈ lines.getLast?, line.address + line.item.size = address + bytes.length := by
  induction h with
  | nil => simp
  | @cons address item rest lines stands tail ih =>
    intro line hl
    rw [List.length_append, length_bytes, ← Nat.add_assoc]
    by_cases hlines : lines = []
    · have hrest : rest = [] := tail.eq_nil_iff.mp hlines
      subst hlines hrest
      obtain rfl : ⟨address, item⟩ = line := by simpa using hl
      rfl
    · rw [List.getLast?_cons_of_ne_nil hlines] at hl
      exact ih line hl

theorem Tiles.flatMap_bytes (h : Tiles address bytes lines) :
    lines.flatMap (fun line => line.item.bytes) = bytes := by
  induction h with
  | nil => rfl
  | cons stands tail ih => rw [List.flatMap_cons, ih]

/-- On every line stands what the decoder finds there. -/
theorem Tiles.stands (h : Tiles address bytes lines) :
    ∀ line ∈ lines, ∃ offset < bytes.length, line.address = address + offset ∧
      Stands (bytes.drop offset) line.item := by
  induction h with
  | nil => simp
  | @cons address item rest lines stands tail ih =>
    intro line hl
    have hpos := List.length_pos_of_ne_nil (bytes_ne_nil item)
    obtain rfl | hl := List.mem_cons.mp hl
    · refine ⟨0, ?_, rfl, stands⟩
      rw [List.length_append]
      omega
    · obtain ⟨offset, ho, ha, hs⟩ := ih line hl
      refine ⟨item.size + offset, ?_, by rw [ha, Nat.add_assoc], ?_⟩
      · rw [List.length_append, length_bytes]
        omega
      · rw [← length_bytes, List.drop_length_add_append]
        exact hs

/-- The decoder determines the item. -/
theorem Stands.instruction_iff {item : Item} (h : Stands bytes item) (i : Instruction) :
    item = .instruction i ↔ Instruction.decode bytes = .ok i := by
  cases item with
  | instruction j =>
    rw [Stands] at h
    simp [h]
  | byte b =>
    obtain ⟨_, e, he⟩ := h
    simp [he]

theorem Stands.byte_iff {item : Item} (h : Stands bytes item) {b : UInt8}
    (hb : bytes.head? = some b) :
    item = .byte b ↔ ∃ e, Instruction.decode bytes = .error e := by
  cases item with
  | instruction i =>
    rw [Stands] at h
    simp [h]
  | byte c =>
    obtain ⟨hc, e, he⟩ := h
    obtain rfl : c = b := Option.some.inj (hc.symm.trans hb)
    simp [he]

end Tilings

/-- **A listing tiles the bytes and loses nothing.** Its lines lie one after the other from the first
byte to the last, their bytes are those of the input, and what is on a line is what the decoder finds
at its address. -/
theorem disassemble_tiling (bytes : List UInt8) :
    (disassemble bytes = [] ↔ bytes = []) ∧
      (∀ line ∈ (disassemble bytes).head?, line.address = 0) ∧
      ((disassemble bytes).IsChain fun line next => next.address = line.address + line.item.size) ∧
      (∀ line ∈ (disassemble bytes).getLast?, line.address + line.item.size = bytes.length) ∧
      (disassemble bytes).flatMap (fun line => line.item.bytes) = bytes ∧
      ∀ line ∈ disassemble bytes, ∃ h : line.address < bytes.length,
        (∀ i, line.item = .instruction i ↔
          Instruction.decode (bytes.drop line.address) = .ok i) ∧
        (line.item = .byte bytes[line.address] ↔
          ∃ e, Instruction.decode (bytes.drop line.address) = .error e) := by
  have ht := tiles_disassemble bytes
  refine ⟨ht.eq_nil_iff, ht.address_head, ht.isChain, ?_, ht.flatMap_bytes, ?_⟩
  · intro line hl
    rw [ht.address_getLast line hl, Nat.zero_add]
  · intro line hl
    obtain ⟨offset, ho, ha, hs⟩ := ht.stands line hl
    rw [Nat.zero_add] at ha
    subst ha
    refine ⟨ho, hs.instruction_iff, hs.byte_iff ?_⟩
    rw [List.head?_drop, List.getElem?_eq_getElem ho]

end LS8.Listing
