import LS8.Proofs.Codec
import LS8.Proofs.Tiling

/-!
# Assembled code

The bytes of some instructions, one after the other, are listed as these instructions in front of
whatever follows. More generally a listing may be cut wherever no instruction is cut off.

* `Instruction.assemble`, `Instruction.totalSize`: the bytes of several instructions;
* `Line.raised`, `linesOf`: a line further on, and the lines of several instructions;
* **`Tiles.eq_attempts`**: lines that tile the bytes are those of their listing;
* **`Tiles.append`**: what tiles two byte sequences tiles the two together, if no line of the first
  stands for an instruction cut off;
* **`disassemble_append`**, **`disassemble_assemble_append`**: the listings of concatenations;
* **`assembled_code`**: assembled code is listed as it was written, and no two codes are the same.
-/

set_option autoImplicit false

namespace LS8

/-! ## Several instructions -/

namespace Instruction

/-- The bytes of several instructions, one after the other. -/
def assemble (code : List Instruction) : List UInt8 := code.flatMap encode

/-- The number of bytes of several instructions. -/
def totalSize : List Instruction → Nat
  | [] => 0
  | i :: code => i.size + totalSize code

theorem length_assemble (code : List Instruction) : (assemble code).length = totalSize code := by
  induction code with
  | nil => rfl
  | cons i code ih =>
    rw [assemble, List.flatMap_cons, List.length_append, length_encode, totalSize, ← ih]
    rfl

end Instruction

namespace Listing

open Instruction (assemble totalSize)

/-- The same line at an address that is higher by so much. -/
def Line.raised (n : Nat) (line : Line) : Line := { line with address := n + line.address }

/-- The lines of several instructions of which the first has this address. -/
def linesOf (address : Nat) : List Instruction → List Line
  | [] => []
  | i :: code => ⟨address, .instruction i⟩ :: linesOf (address + i.size) code

theorem map_item_linesOf (address : Nat) (code : List Instruction) :
    (linesOf address code).map Line.item = code.map Item.instruction := by
  induction code generalizing address with
  | nil => rfl
  | cons i code ih => rw [linesOf, List.map_cons, List.map_cons, ih]

/-! ## Lines that tile the bytes -/

section Tilings

variable {address : Nat} {a b bytes : List UInt8} {lines la lb : List Line} {item : Item}

/-- **Lines that tile the bytes are those of their listing.** -/
theorem Tiles.eq_attempts (h : Tiles address bytes lines) :
    lines = (attempts address bytes).map Attempt.line := by
  induction h with
  | nil address => rw [attempts_nil, List.map_nil]
  | @cons address item rest lines stands tail ih =>
    cases item with
    | instruction i =>
      have hd : Instruction.decode (i.opcode.byte :: (i.operands ++ rest)) = .ok i := stands
      have hdrop : (i.opcode.byte :: (i.operands ++ rest)).drop i.size = rest := by
        rw [← i.length_encode]
        exact List.drop_left
      rw [Item.bytes, Instruction.encode, List.cons_append, attempts_cons, hd, stride, hdrop,
        List.map_cons, ih]
      rfl
    | byte x =>
      obtain ⟨e, he⟩ := stands.2
      have hd : Instruction.decode (x :: rest) = .error e := he
      rw [Item.bytes, List.singleton_append, attempts_cons, hd, stride, List.drop_one,
        List.tail_cons, List.map_cons, ih]
      rfl

theorem Tiles.eq_disassemble (h : Tiles 0 bytes lines) : lines = disassemble bytes :=
  h.eq_attempts

/-- The lines tile the bytes wherever these stand. -/
theorem Tiles.raised (n : Nat) (h : Tiles address bytes lines) :
    Tiles (n + address) bytes (lines.map (Line.raised n)) := by
  induction h with
  | nil address => exact .nil (n + address)
  | cons stands tail ih =>
    rw [← Nat.add_assoc] at ih
    exact .cons stands ih

/-- The decoder finds the same item before further bytes, unless it lacks some. -/
theorem Stands.append (h : Stands bytes item)
    (hcut : ∀ x, item = .byte x → ∀ op, Instruction.decode bytes ≠ .error (.truncated op))
    (more : List UInt8) : Stands (bytes ++ more) item := by
  cases item with
  | instruction i =>
    have hd : Instruction.decode bytes = .ok i := h
    rw [Stands, Instruction.decode_append_of_complete (by simp [hd]) (by simp [hd]), hd]
  | byte x =>
    obtain ⟨hx, e, he⟩ := h
    have hne : bytes ≠ [] := by
      rintro rfl
      cases hx
    refine ⟨?_, e, ?_⟩
    · rw [List.head?_append_of_ne_nil _ hne, hx]
    · rw [Instruction.decode_append_of_complete (mt Instruction.decode_eq_empty_iff.mp hne)
        (hcut x rfl), he]

/-- **What tiles two byte sequences tiles the two together**, unless some line of the first stands
for an instruction cut off by its end. -/
theorem Tiles.append (ha : Tiles address a la)
    (hcut : ∀ line ∈ la, ∀ x, line.item = .byte x → ∀ op,
      Instruction.decode (a.drop (line.address - address)) ≠ .error (.truncated op))
    (hb : Tiles (address + a.length) b lb) : Tiles address (a ++ b) (la ++ lb) := by
  induction ha with
  | nil address => exact hb
  | @cons address item rest lines stands tail ih =>
    rw [List.append_assoc, List.cons_append]
    refine .cons ?_ (ih ?_ ?_)
    · rw [← List.append_assoc]
      have hhead := hcut _ List.mem_cons_self
      rw [Nat.sub_self, List.drop_zero] at hhead
      exact stands.append hhead b
    · intro line hl
      -- The address of a later line counts from the end of the first item.
      obtain ⟨offset, -, haddress, -⟩ := tail.stands line hl
      have hlater := hcut line (List.mem_cons_of_mem _ hl)
      rw [haddress, Nat.add_assoc, Nat.add_sub_cancel_left, ← length_bytes,
        List.drop_length_add_append] at hlater
      rw [haddress, Nat.add_sub_cancel_left]
      exact hlater
    · rw [List.length_append, length_bytes, ← Nat.add_assoc] at hb
      exact hb

theorem tiles_assemble (address : Nat) (code : List Instruction) :
    Tiles address (assemble code) (linesOf address code) := by
  induction code generalizing address with
  | nil => exact .nil address
  | cons i code ih => exact .instruction (ih (address + i.size))

end Tilings

/-! ## Listings of concatenations -/

/-- **The listing of a concatenation**, where the first part does not end within an instruction. -/
theorem disassemble_append {a : List UInt8}
    (hcut : ∀ line ∈ disassemble a, ∀ x, line.item = .byte x → ∀ op,
      Instruction.decode (a.drop line.address) ≠ .error (.truncated op)) (b : List UInt8) :
    disassemble (a ++ b) = disassemble a ++ (disassemble b).map (Line.raised a.length) := by
  have hb : Tiles (0 + a.length) b ((disassemble b).map (Line.raised a.length)) := by
    rw [Nat.zero_add]
    exact (tiles_disassemble b).raised a.length
  exact ((tiles_disassemble a).append hcut hb).eq_disassemble.symm

theorem disassemble_assemble (code : List Instruction) :
    disassemble (assemble code) = linesOf 0 code :=
  (tiles_assemble 0 code).eq_disassemble.symm

/-- **Assembled code is listed as it was written**, whatever follows it. -/
theorem disassemble_assemble_append (code : List Instruction) (rest : List UInt8) :
    disassemble (assemble code ++ rest) =
      linesOf 0 code ++ (disassemble rest).map (Line.raised (totalSize code)) := by
  rw [← disassemble_assemble, ← Instruction.length_assemble]
  refine disassemble_append (fun line hl x hx => ?_) rest
  -- There is no line with a byte.
  rw [disassemble_assemble] at hl
  have hitem : line.item ∈ code.map Item.instruction := by
    rw [← map_item_linesOf 0]
    exact List.mem_map_of_mem hl
  rw [hx] at hitem
  simp at hitem

theorem assemble_inj {code code' : List Instruction} :
    assemble code = assemble code' ↔ code = code' := by
  refine ⟨fun h => ?_, congrArg assemble⟩
  have hlines : linesOf 0 code = linesOf 0 code' := by
    rw [← disassemble_assemble, h, disassemble_assemble]
  have hitems := congrArg (List.map Line.item) hlines
  rw [map_item_linesOf, map_item_linesOf] at hitems
  exact (List.map_inj_right fun _ _ => Item.instruction.inj).mp hitems

/-- **Assembled code survives disassembly in front of anything.** Its instructions are listed one
after the other, and what follows it is listed as it would be by itself, further on. The same holds
of any two byte sequences if no line of the first stands for an instruction that is cut off. No two
codes have the same bytes. -/
theorem assembled_code :
    (∀ (code : List Instruction) (rest : List UInt8),
      disassemble (assemble code ++ rest) =
        linesOf 0 code ++ (disassemble rest).map (Line.raised (totalSize code))) ∧
    (∀ a b : List UInt8,
      (∀ line ∈ disassemble a, ∀ x, line.item = .byte x → ∀ op,
        Instruction.decode (a.drop line.address) ≠ .error (.truncated op)) →
      disassemble (a ++ b) = disassemble a ++ (disassemble b).map (Line.raised a.length)) ∧
    ∀ code code' : List Instruction, code ≠ code' → assemble code ≠ assemble code' :=
  ⟨disassemble_assemble_append, fun _ b hcut => disassemble_append hcut b,
    fun _ _ => mt assemble_inj.mp⟩

/-- The line of an instruction that is cut off does not stay when the rest of it follows. -/
example : disassemble [Opcode.prn.byte] = [⟨0, .byte Opcode.prn.byte⟩] ∧
    disassemble ([Opcode.prn.byte] ++ [0]) = [⟨0, .instruction (.prn ⟨0⟩)⟩] := by
  cbv

end Listing

end LS8
