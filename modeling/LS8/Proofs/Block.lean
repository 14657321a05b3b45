import LS8.Memory

/-!
# Blocks

A block of bytes is loaded as a whole or not at all. If there is room for it, loading it comes to the
same as writing its bytes one after the other. An access that is refused leaves no trace.

* `Memory.Access`, `Memory.access`, `Memory.session`: accesses to a memory, one after the other;
* **`isOk_access`**, `access_of_outOfBounds`: an access that is not in bounds is refused, and no other
  is;
* **`session_inBounds`**: the refused accesses have no part in a session;
* `Memory.writes`, **`session_writes`**: the bytes of a block that fits, written one by one;
* **`load_all_or_nothing`**: a block is loaded as a whole or not at all.
-/

set_option autoImplicit false

namespace LS8.Memory

/-! ## One access after the other -/

/-- An access to the memory. -/
inductive Access
  | read (address : Nat)
  | write (address : Nat) (value : UInt8)
  | load (start : Nat) (block : List UInt8)
  | dump (start count : Nat)

/-- Whether an access keeps to the cells that there are. A window is cut to them. -/
def Access.inBounds : Access → Bool
  | read address => address < memorySize
  | write address _ => address < memorySize
  | load start block => start + block.length ≤ memorySize
  | dump _ _ => true

/-- The memory after a change that may have been refused, and why it was, if it was. -/
def changed (m : Memory) :
    Except MemoryError Memory → Memory × Except MemoryError (List UInt8)
  | .ok m' => (m', .ok [])
  | .error e => (m, .error e)

/-- The memory after an access, and the bytes that the access answers or why it was refused. -/
def access (m : Memory) : Access → Memory × Except MemoryError (List UInt8)
  | .read address => (m, (m.read address).map fun value => [value])
  | .write address value => m.changed (m.write address value)
  | .load start block => m.changed (m.load start block)
  | .dump start count => (m, .ok (m.dump start count))

/-- The memory after some accesses, and what they answer. -/
def session (m : Memory) : List Access → Memory × List (Except MemoryError (List UInt8))
  | [] => (m, [])
  | a :: accesses =>
    let rest := (m.access a).1.session accesses
    (rest.1, (m.access a).2 :: rest.2)

theorem isOk_changed (m : Memory) (change : Except MemoryError Memory) :
    (m.changed change).2.isOk = change.isOk := by
  cases change with
  | ok m' => rfl
  | error e => rfl

/-- **An access is refused** if it is not in bounds, and only then. -/
theorem isOk_access (m : Memory) (a : Access) : (m.access a).2.isOk = a.inBounds := by
  cases a with
  | read address =>
    rw [access, read, Access.inBounds]
    split
    next h => exact (decide_eq_true h).symm
    next h => exact (decide_eq_false h).symm
  | write address value =>
    rw [access, isOk_changed, write, Access.inBounds]
    split
    next h => exact (decide_eq_true h).symm
    next h => exact (decide_eq_false h).symm
  | load start block =>
    rw [access, isOk_changed, Access.inBounds]
    by_cases h : start + block.length ≤ memorySize
    · rw [load_of_fits m h]
      exact (decide_eq_true h).symm
    · rw [load_of_not_fits m h]
      exact (decide_eq_false h).symm
  | dump start count => rfl

theorem changed_of_refused (m : Memory) {change : Except MemoryError Memory}
    (h : (m.changed change).2.isOk = false) : (m.changed change).1 = m := by
  cases change with
  | ok m' => cases h
  | error e => rfl

/-- A refused access leaves the memory as it was. -/
theorem access_of_outOfBounds (m : Memory) {a : Access} (h : a.inBounds = false) :
    (m.access a).1 = m := by
  rw [← m.isOk_access a] at h
  cases a with
  | read address => rfl
  | write address value => exact m.changed_of_refused h
  | load start block => exact m.changed_of_refused h
  | dump start count => rfl

theorem isOk_session (m : Memory) (accesses : List Access) :
    (m.session accesses).2.map Except.isOk = accesses.map Access.inBounds := by
  induction accesses generalizing m with
  | nil => rfl
  | cons a accesses ih => rw [session, List.map_cons, List.map_cons, isOk_access, ih]

/-- **The refused accesses have no part in a session**: without them the memory comes to the same,
and so does every other answer. -/
theorem session_inBounds (m : Memory) (accesses : List Access) :
    m.session (accesses.filter Access.inBounds) =
      ((m.session accesses).1, (m.session accesses).2.filter Except.isOk) := by
  induction accesses generalizing m with
  | nil => rfl
  | cons a accesses ih =>
    have hok := m.isOk_access a
    cases h : a.inBounds with
    | true =>
      rw [h] at hok
      rw [List.filter_cons_of_pos h, session, ih, session, List.filter_cons_of_pos hok]
    | false =>
      rw [h] at hok
      rw [List.filter_cons_of_neg (by simp [h]), session, m.access_of_outOfBounds h,
        List.filter_cons_of_neg (by simp [hok]), ih]

/-! ## One byte after the other -/

/-- The bytes of a block are written one by one, the first of them at `start`. -/
def writes (start : Nat) (block : List UInt8) : List Access :=
  (block.zipIdx start).map fun (value, address) => .write address value

theorem exists_write (m : Memory) {a : Nat} (h : a < memorySize) (value : UInt8) :
    ∃ m', m.write a value = .ok m' :=
  ⟨_, dif_pos h⟩

/-- What is written to the cell in front of a block might as well be the first byte of the block. -/
theorem overlay_of_write {m m' : Memory} {start : Nat} {value : UInt8} {block : List UInt8}
    (fits : start + (value :: block).length ≤ memorySize) (h : m.write start value = .ok m')
    (fits' : start + 1 + block.length ≤ memorySize) :
    m'.overlay (start + 1) block fits' = m.overlay start (value :: block) fits := by
  have hlength : (value :: block).length = block.length + 1 := List.length_cons
  apply ext_read
  intro a
  by_cases hout : a < start ∨ start + (value :: block).length ≤ a
  · rw [read_overlay_of_outside hout, read_overlay_of_outside (by omega), read_write h,
      if_neg (by omega)]
  · obtain ⟨i, rfl⟩ := Nat.exists_eq_add_of_le (show start ≤ a by omega)
    have hi : i < (value :: block).length := by omega
    rw [read_overlay_add hi]
    cases i with
    | zero =>
      rw [read_overlay_of_outside (by omega), read_write h, if_pos (Nat.add_zero start).symm]
      rfl
    | succ i =>
      rw [← Nat.add_assoc, Nat.add_right_comm, read_overlay_add (Nat.lt_of_succ_lt_succ hi)]
      rfl

/-- **The bytes of a block that fits**, written one by one, are in the end where the block puts them,
and none of them is refused. -/
theorem session_writes (m : Memory) {start : Nat} {block : List UInt8}
    (fits : start + block.length ≤ memorySize) :
    m.session (writes start block) =
      (m.overlay start block fits, List.replicate block.length (.ok [])) := by
  induction block generalizing m start with
  | nil =>
    have hkept : m.overlay start [] fits = m :=
      ext_read fun a => read_overlay_of_outside (Nat.lt_or_ge a start)
    rw [hkept]
    rfl
  | cons value block ih =>
    have fits' : start + 1 + block.length ≤ memorySize := by
      rw [List.length_cons] at fits
      omega
    obtain ⟨m', hm'⟩ := m.exists_write (show start < memorySize by omega) value
    have hfirst : m.access (.write start value) = (m', .ok []) := by rw [access, hm', changed]
    have hrest : writes start (value :: block) = .write start value :: writes (start + 1) block := by
      rw [writes, List.zipIdx_cons, List.map_cons, writes]
    rw [hrest, session, hfirst, ih m' fits', overlay_of_write fits hm' fits']
    rfl

/-! ## Whole blocks -/

/-- **A block is loaded as a whole or not at all.** If there is room for it, the memory is the one
that comes of writing its bytes one by one, none of which is refused: the block is read back, and all
else is as it was. If there is none, the memory stays as it was. In any session the refused accesses
are those out of bounds, and they might as well not have been made. -/
theorem load_all_or_nothing (m : Memory) :
    (∀ (start : Nat) (block : List UInt8),
      ((∃ m', m.load start block = .ok m') ↔ start + block.length ≤ memorySize) ∧
      (∀ m', m.load start block = .ok m' →
        m.session (writes start block) = (m', List.replicate block.length (.ok [])) ∧
        (∀ i (h : i < block.length), m'.read (start + i) = .ok block[i]) ∧
        ∀ a, a < start ∨ start + block.length ≤ a → m'.read a = m.read a) ∧
      (¬ start + block.length ≤ memorySize →
        m.access (.load start block) =
          (m, .error (if memorySize < start then .invalidAddress start
            else .blockTooLarge start block.length (memorySize - start))))) ∧
    ∀ accesses : List Access,
      (m.session accesses).2.map Except.isOk = accesses.map Access.inBounds ∧
      m.session (accesses.filter Access.inBounds) =
        ((m.session accesses).1, (m.session accesses).2.filter Except.isOk) := by
  refine ⟨fun start block => ?_, fun accesses => ⟨m.isOk_session accesses, m.session_inBounds _⟩⟩
  by_cases fits : start + block.length ≤ memorySize
  · have hload := m.load_of_fits fits
    refine ⟨⟨fun _ => fits, fun _ => ⟨_, hload⟩⟩, fun m' hm' => ?_, fun h => absurd fits h⟩
    obtain rfl : m.overlay start block fits = m' := Except.ok.inj (hload.symm.trans hm')
    exact ⟨m.session_writes fits, fun i h => read_overlay_add h,
      fun a h => read_overlay_of_outside h⟩
  · have hload := m.load_of_not_fits fits
    refine ⟨⟨fun ⟨m', hm'⟩ => ?_, fun h => absurd h fits⟩, fun m' hm' => ?_, fun _ => ?_⟩
    · rw [hload] at hm'
      cases hm'
    · rw [hload] at hm'
      cases hm'
    · rw [access, hload]
      rfl

/-- Written one by one, the front of a block that does not fit stays behind. -/
example : (zero.session (writes 255 [1, 2])).1.bytes.getLast? = some 1 ∧
    (zero.access (.load 255 [1, 2])).1.bytes.getLast? = some 0 := by decide

end LS8.Memory
