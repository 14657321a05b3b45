import LS8.Memory

/-!
# Windows

A window is cut to the memory before its bytes are looked up. The cut takes nothing away that could
be read: what a window shows are the bytes of all its addresses that designate a cell, in order.

* `first_window`, **`stop_window`**: both ends of a window are cut from exact numbers, since the
  start is cut before the count is added to it;
* `Memory.Window.addresses`, **`view_eq_reads`**: a window shows what its addresses read;
* **`filter_range_window`**: its addresses are those that designate a cell;
* **`dump_append`**: two windows in a row are one;
* **`dump_readable`**: a window shows exactly the cells that can be read.
-/

set_option autoImplicit false

namespace LS8.Memory

/-! ## The ends of a window -/

theorem first_window (start count : Nat) : (window start count).first = min start memorySize := rfl

/-- **No sum is too great for its width**, as far as a window can tell: one that is cut off at the
greatest address is past the memory anyway. -/
theorem stop_window (start count : Nat) :
    (window start count).stop = min (start + count) memorySize := by
  change min (saturatingAdd (min start memorySize) count) memorySize = _
  rw [saturatingAdd, greatestAddress, memorySize]
  omega

/-! ## The addresses of a window -/

/-- The addresses of the cells of a window, in order. -/
def Window.addresses (w : Window) : List Nat := List.range' w.first (w.stop - w.first)

/-- **A window shows what its addresses read.** None of them is refused. -/
theorem view_eq_reads (m : Memory) (w : Window) :
    (m.view w).map Except.ok = w.addresses.map m.read := by
  have hbytes := m.length_bytes
  have hfirst := w.first_le_stop
  have hstop := w.stop_le
  apply List.ext_getElem
  · simp only [view, Window.addresses, List.length_map, List.length_take, List.length_drop,
      List.length_range']
    omega
  · intro i hi _
    have hlt : w.first + i < memorySize := by
      simp only [view, List.length_map, List.length_take] at hi
      omega
    have hread : m.read (w.first + i) = .ok m.bytes[w.first + i] := by
      rw [read_eq, List.getElem?_eq_getElem (hbytes.symm ▸ hlt)]
    rw [List.getElem_map, List.getElem_map]
    simp only [view, Window.addresses, List.getElem_take, List.getElem_drop, List.getElem_range',
      Nat.one_mul, hread]

/-- The addresses of the memory are those before a window, those of the window and those after it. -/
theorem range_eq_append (w : Window) :
    List.range memorySize =
      List.range' 0 w.first ++ w.addresses ++ List.range' w.stop (memorySize - w.stop) := by
  obtain ⟨width, hwidth⟩ := Nat.exists_eq_add_of_le w.first_le_stop
  obtain ⟨rest, hrest⟩ := Nat.exists_eq_add_of_le w.stop_le
  have hfront : List.range' 0 w.first ++ List.range' w.first width =
      List.range' 0 (w.first + width) := by
    have h := List.range'_append_1 (s := 0) (m := w.first) (n := width)
    rwa [Nat.zero_add] at h
  have hall : List.range' 0 w.stop ++ List.range' w.stop rest = List.range' 0 (w.stop + rest) := by
    have h := List.range'_append_1 (s := 0) (m := w.stop) (n := rest)
    rwa [Nat.zero_add] at h
  rw [Window.addresses, hwidth, Nat.add_sub_cancel_left, hfront, ← hwidth, hrest,
    Nat.add_sub_cancel_left, hall, List.range_eq_range']

/-- **The addresses of a window** are those between its start and its end that designate a cell. -/
theorem filter_range_window (start count : Nat) :
    ((List.range memorySize).filter fun a => start ≤ a ∧ a < start + count) =
      (window start count).addresses := by
  have hfirst := first_window start count
  have hstop := stop_window start count
  have hcut : (List.range memorySize).filter (fun a => start ≤ a ∧ a < start + count) =
      (List.range memorySize).filter fun a =>
        (window start count).first ≤ a ∧ a < (window start count).stop := by
    apply List.filter_congr
    intro a ha
    rw [List.mem_range] at ha
    rw [decide_eq_decide]
    omega
  rw [hcut, range_eq_append (window start count), List.filter_append, List.filter_append,
    List.filter_eq_nil_iff.mpr ?before, List.filter_eq_self.mpr ?within,
    List.filter_eq_nil_iff.mpr ?after, List.nil_append, List.append_nil]
  case before =>
    intro a ha
    rw [List.mem_range'_1] at ha
    simp only [decide_eq_true_eq]
    omega
  case within =>
    intro a ha
    have hle := (window start count).first_le_stop
    rw [Window.addresses, List.mem_range'_1] at ha
    simp only [decide_eq_true_eq]
    omega
  case after =>
    intro a ha
    rw [List.mem_range'_1] at ha
    simp only [decide_eq_true_eq]
    omega

/-! ## The bytes of a window -/

theorem length_dump (m : Memory) (start count : Nat) :
    (m.dump start count).length = min count (memorySize - min start memorySize) := by
  rw [dump_eq, List.length_take, List.length_drop, length_bytes]
  omega

/-- **Two windows in a row are one.** -/
theorem dump_append (m : Memory) (start count more : Nat) :
    m.dump start count ++ m.dump (start + count) more = m.dump start (count + more) := by
  rw [dump_eq, dump_eq, dump_eq, List.take_add, List.drop_drop]

/-- **A window shows exactly the cells that can be read**: what the addresses from its start to its
end read, in order and without those that designate no cell. Whatever was asked for, its ends are cut
from exact numbers, in order and inside the memory. Two windows in a row are one. -/
theorem dump_readable (m : Memory) (start count : Nat) :
    (m.dump start count).map Except.ok =
        ((List.range memorySize).filter fun a => start ≤ a ∧ a < start + count).map m.read ∧
      (m.dump start count).length = min count (memorySize - min start memorySize) ∧
      (window start count).first = min start memorySize ∧
      (window start count).stop = min (start + count) memorySize ∧
      (window start count).first ≤ (window start count).stop ∧
      (window start count).stop ≤ memorySize ∧
      m.dump start count =
        m.bytes.extract (window start count).first (window start count).stop ∧
      ∀ more, m.dump start count ++ m.dump (start + count) more =
        m.dump start (count + more) := by
  refine ⟨?_, m.length_dump start count, first_window start count, stop_window start count,
    Window.first_le_stop _, Window.stop_le _, rfl, m.dump_append start count⟩
  rw [filter_range_window]
  exact m.view_eq_reads _

end LS8.Memory
