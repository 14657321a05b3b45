import LS8.Opcode

/-!
# The dispatch table

The machine finds the opcode of a byte in a table with an entry for every byte. The table is filled
once, from the list of all opcodes, and never changed.

* `DispatchTable`, `DispatchTable.enter`, `DispatchTable.lookup`;
* `dispatchTable`: the table of the machine;
* **`lookup_dispatchTable`**: it knows exactly the bytes of the opcodes.
-/

set_option autoImplicit false

namespace LS8

/-- An entry for every byte: the opcode, if the byte is one. -/
structure DispatchTable where
  entries : Vector (Option Opcode) 256

namespace DispatchTable

/-- A table that knows no byte. -/
def blank : DispatchTable := ⟨Vector.replicate 256 none⟩

/-- The table with an opcode in the place of its byte. -/
def enter (table : DispatchTable) (op : Opcode) : DispatchTable :=
  ⟨table.entries.set op.byte.toNat (some op) op.byte.toNat_lt⟩

/-- The entry of a byte. -/
def lookup (table : DispatchTable) (b : UInt8) : Option Opcode :=
  have inside : b.toNat < 256 := b.toNat_lt
  table.entries[b.toNat]

theorem lookup_blank (b : UInt8) : blank.lookup b = none := by
  simp [blank, lookup]

theorem lookup_enter (table : DispatchTable) (op : Opcode) (b : UInt8) :
    (table.enter op).lookup b = if op.byte = b then some op else table.lookup b := by
  simp only [enter, lookup, Vector.getElem_set, UInt8.toNat_inj]

/-- No two opcodes have the same byte, so it does not matter in which order they are entered. -/
theorem lookup_foldl_enter (ops : List Opcode) (table : DispatchTable) (b : UInt8) :
    (ops.foldl enter table).lookup b = (ops.find? fun op => op.byte = b).or (table.lookup b) := by
  induction ops generalizing table with
  | nil => rfl
  | cons op ops ih =>
    rw [List.foldl_cons, ih, lookup_enter]
    by_cases h : op.byte = b
    · rw [if_pos h, List.find?_cons_of_pos (by simpa using h)]
      cases hf : ops.find? fun op => op.byte = b with
      | none => rfl
      | some op' =>
        have h' : op'.byte = b := by simpa using List.find?_some hf
        rw [Opcode.byte_inj.mp (h'.trans h.symm)]
        rfl
    · rw [if_neg h, List.find?_cons_of_neg (by simpa using h)]

end DispatchTable

/-- The table of the machine. -/
def dispatchTable : DispatchTable := Opcode.all.foldl DispatchTable.enter DispatchTable.blank

/-- **The table knows exactly the bytes of the opcodes.** -/
theorem lookup_dispatchTable (b : UInt8) : dispatchTable.lookup b = Opcode.ofByte b := by
  rw [dispatchTable, DispatchTable.lookup_foldl_enter, DispatchTable.lookup_blank, Option.or_none]
  rfl

end LS8
