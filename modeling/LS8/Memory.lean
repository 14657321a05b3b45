import LS8.Text.Numeral

/-!
# Memory

Two hundred and fifty-six cells of one byte. Addresses are natural numbers, and one past the end is
refused.

* `Memory`, `Memory.zero`, `Memory.bytes`;
* `Memory.read`, `Memory.write`: one cell;
* `Memory.load`: a block, all of it or nothing (`load_of_fits`, `load_of_not_fits`);
* `Memory.Window`, `Memory.window`: some cells that follow one another, cut at the end of the memory;
* `Memory.dump`: the bytes of a window;
* **`read_write`**: a cell holds what was last written to it;
* **`read_overlay_add`**, **`read_overlay_of_outside`**: a block is read back, and the cells outside
  it are as they were;
* **`dump_eq`**: a window shows as many cells as it asks for, if the memory has them.
-/

set_option autoImplicit false

namespace LS8

/-- The number of cells. -/
def memorySize : Nat := 256

/-- Why an access to the memory was refused. -/
inductive MemoryError
  /-- The address is past the end. -/
  | invalidAddress (address : Nat)
  /-- A block of `size` bytes is longer than what is left from its first address on. -/
  | blockTooLarge (start size available : Nat)
deriving DecidableEq

namespace MemoryError

/-- The wording of the error. -/
def message : MemoryError → String
  | invalidAddress address => "invalid address " ++ hexadecimal address
  | blockTooLarge start size available =>
    decimal size ++ " bytes do not fit at address " ++ hexadecimal start ++ " ("
      ++ decimal available ++ " bytes available)"

end MemoryError

/-- The contents of the memory. -/
structure Memory where
  cells : Vector UInt8 memorySize
deriving DecidableEq

namespace Memory

/-- All cells at zero. -/
def zero : Memory := ⟨Vector.replicate memorySize 0⟩

/-- The bytes of the memory, from the first cell to the last. -/
def bytes (m : Memory) : List UInt8 := m.cells.toList

@[simp] theorem length_bytes (m : Memory) : m.bytes.length = memorySize := by
  simp [bytes]

/-- The byte at an address. -/
def read (m : Memory) (address : Nat) : Except MemoryError UInt8 :=
  if h : address < memorySize then .ok m.cells[address] else .error (.invalidAddress address)

/-- The memory after a byte was put at an address. -/
def write (m : Memory) (address : Nat) (value : UInt8) : Except MemoryError Memory :=
  if h : address < memorySize then .ok ⟨m.cells.set address value⟩
  else .error (.invalidAddress address)

/-- The memory with a block of bytes in the place of those from `start` on. -/
def overlay (m : Memory) (start : Nat) (block : List UInt8)
    (fits : start + block.length ≤ memorySize) : Memory where
  cells :=
    ⟨(m.bytes.take start ++ block ++ m.bytes.drop (start + block.length)).toArray, by
      simp only [List.size_toArray, List.length_append, List.length_take, List.length_drop,
        length_bytes]
      omega⟩

/-- The memory after a block of bytes was copied to the cells from `start` on. The end of the block
is not asked for before what is available is known to hold it. -/
def load (m : Memory) (start : Nat) (block : List UInt8) : Except MemoryError Memory :=
  if hstart : memorySize < start then .error (.invalidAddress start)
  else
    let available := memorySize - start
    if hlarge : available < block.length then
      .error (.blockTooLarge start block.length available)
    else .ok (m.overlay start block (by simp only [available] at hlarge; omega))

/-- The greatest address and the greatest count that can be named: both are 64 bits wide. -/
def greatestAddress : Nat := 0xFFFFFFFFFFFFFFFF

/-- The sum of an address and a count. It stops at the greatest address. -/
def saturatingAdd (address count : Nat) : Nat := min (address + count) greatestAddress

/-- Some cells that follow one another, all of them inside the memory. -/
structure Window where
  first : Nat
  /-- The address after the last cell. -/
  stop : Nat
  first_le_stop : first ≤ stop
  stop_le : stop ≤ memorySize

/-- The window of the cells from `start` on, at most `count` of them. The start is cut to the end of
the memory before anything is added to it, and then the sum is. -/
def window (start count : Nat) : Window :=
  let first := min start memorySize
  { first
    stop := min (saturatingAdd first count) memorySize
    first_le_stop := by simp only [first, saturatingAdd, greatestAddress, memorySize]; omega
    stop_le := Nat.min_le_right _ _ }

/-- The bytes of a window. -/
def view (m : Memory) (w : Window) : List UInt8 := m.bytes.extract w.first w.stop

/-- The cells from `start` on, at most `count` of them. -/
def dump (m : Memory) (start count : Nat) : List UInt8 := m.view (window start count)

/-- The number of cells that are not zero, and of all cells. -/
def record (m : Memory) : String :=
  "Memory \x7b non_zero_cells: " ++ decimal (m.bytes.countP (· ≠ 0)) ++ ", total_cells: "
    ++ decimal memorySize ++ " \x7d"

theorem bytes_zero : zero.bytes = List.replicate memorySize 0 := by
  rw [bytes, zero, Vector.toList_replicate]

/-- The block stands in the place of as many bytes as it has. -/
theorem bytes_overlay (m : Memory) (start : Nat) (block : List UInt8)
    (fits : start + block.length ≤ memorySize) :
    (m.overlay start block fits).bytes =
      m.bytes.take start ++ block ++ m.bytes.drop (start + block.length) := by
  rw [bytes, overlay]
  rfl

theorem load_of_fits (m : Memory) {start : Nat} {block : List UInt8}
    (fits : start + block.length ≤ memorySize) :
    m.load start block = .ok (m.overlay start block fits) := by
  rw [load, dif_neg (by omega), dif_neg (by omega)]

theorem load_of_not_fits (m : Memory) {start : Nat} {block : List UInt8}
    (h : ¬ start + block.length ≤ memorySize) :
    m.load start block = .error (if memorySize < start then .invalidAddress start
      else .blockTooLarge start block.length (memorySize - start)) := by
  rw [load]
  split
  · rfl
  · rw [dif_pos (by omega)]

/-- Reading is looking up in the bytes of the memory. -/
theorem read_eq (m : Memory) (a : Nat) :
    m.read a = match m.bytes[a]? with
      | some b => .ok b
      | none => .error (.invalidAddress a) := by
  by_cases h : a < memorySize
  · simp [read, bytes, h]
  · simp [read, bytes, h]

/-- Two memories are the same if all their cells are. -/
theorem ext_read {m m' : Memory} (h : ∀ a, m.read a = m'.read a) : m = m' := by
  obtain ⟨cells⟩ := m
  obtain ⟨cells'⟩ := m'
  congr 1
  apply Vector.ext
  intro a ha
  have hread := h a
  rw [read, read, dif_pos ha, dif_pos ha] at hread
  exact Except.ok.inj hread

theorem read_write {m m' : Memory} {a : Nat} {value : UInt8} (h : m.write a value = .ok m')
    (b : Nat) : m'.read b = if a = b then .ok value else m.read b := by
  unfold write at h
  split at h
  · obtain rfl := Except.ok.inj h
    unfold read
    grind
  · cases h

section Overlay

variable {m : Memory} {start : Nat} {block : List UInt8} {fits : start + block.length ≤ memorySize}

/-- A block is read back. -/
theorem read_overlay_add {i : Nat} (h : i < block.length) :
    (m.overlay start block fits).read (start + i) = .ok block[i] := by
  have hstart : (m.bytes.take start).length = start := by
    rw [List.length_take, length_bytes]
    omega
  rw [read_eq, bytes_overlay, List.append_assoc, List.getElem?_append_right (by omega), hstart,
    Nat.add_sub_cancel_left, List.getElem?_append_left h, List.getElem?_eq_getElem h]

/-- The cells outside a block are as they were. -/
theorem read_overlay_of_outside {a : Nat} (h : a < start ∨ start + block.length ≤ a) :
    (m.overlay start block fits).read a = m.read a := by
  have hstart : (m.bytes.take start).length = start := by
    rw [List.length_take, length_bytes]
    omega
  rw [read_eq, read_eq, bytes_overlay, List.append_assoc]
  obtain hbefore | hafter := h
  · rw [List.getElem?_append_left (by omega), List.getElem?_take_of_lt hbefore]
  · rw [List.getElem?_append_right (by omega), hstart, List.getElem?_append_right (by omega),
      List.getElem?_drop]
    congr 2
    omega

end Overlay

/-- A window shows the cells from its start on, as many as it asks for and the memory has. -/
theorem dump_eq (m : Memory) (start count : Nat) :
    m.dump start count = (m.bytes.drop start).take count := by
  have hlength := m.length_bytes
  simp only [dump, view, window, saturatingAdd, greatestAddress, List.extract_eq_take_drop]
  by_cases h : start ≤ memorySize
  · rw [Nat.min_eq_left h, List.take_eq_take_iff, List.length_drop, hlength]
    simp only [memorySize] at h ⊢
    omega
  · have hpast : memorySize ≤ start := Nat.le_of_not_le h
    rw [Nat.min_eq_right hpast, List.drop_eq_nil_of_le (Nat.le_of_eq hlength),
      List.drop_eq_nil_of_le (hlength ▸ hpast), List.take_nil, List.take_nil]

end Memory

end LS8
