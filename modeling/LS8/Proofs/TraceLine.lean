import LS8.Proofs.Positional
import LS8.Proofs.Printing
import Mathlib.Data.List.Forall2
import Mathlib.Tactic.IntervalCases
import Mathlib.Tactic.FinCases
import Mathlib.Data.Fintype.Basic

/-!
# Trace lines

A trace line has a column for everything that it shows, so it can be read back: two computers with
one trace line have the same program counter, the same general registers and the same bytes at the
program counter. Two runs with the same trace lines read the same instructions.

* `capitalPair`: the two digits of a byte;
* `Computer.Columns`, `columns_trace`: what stands in the columns of a trace line;
* `cellPair_eq_dashes_iff`, `cellPair_inj`: a cell is seen, or that it is missing;
* `Computer.SameSight`, **`trace_eq_iff`**: what a trace line shows;
* `Computer.SameReading`, **`trace_faithful`**: what the trace lines of a run show.
-/

set_option autoImplicit false

namespace LS8

/-! ## Digits -/

/-- The sixteen hexadecimal digits, in upper case. -/
def capitalDigits : List Char :=
  ['0', '1', '2', '3', '4', '5', '6', '7', '8', '9', 'A', 'B', 'C', 'D', 'E', 'F']

/-- A byte as its two digits. -/
def capitalPair (b : UInt8) : List Char :=
  [capitalDigits.getD (b.toNat / 16) '0', capitalDigits.getD (b.toNat % 16) '0']

theorem toUpper_digitChar {k : Nat} (h : k < 16) :
    k.digitChar.toUpper = capitalDigits.getD k '0' := by
  revert k
  decide

theorem toList_hexPair (b : UInt8) : (hexPair b).toList = capitalPair b := by
  have hb := b.toNat_lt
  rw [hexPair, String.toList_ofList, capitalPair, ← toUpper_digitChar (by omega),
    ← toUpper_digitChar (by omega)]
  by_cases hlt : b.toNat < 16
  · rw [padded, Nat.toDigits_of_lt_base hlt, Nat.div_eq_of_lt hlt, Nat.mod_eq_of_lt hlt]
    rfl
  · rw [padded, Nat.toDigits_of_base_le (by decide) (by omega), Nat.toDigits_of_lt_base (by omega)]
    rfl

theorem capitalPair_inj {a b : UInt8} : capitalPair a = capitalPair b ↔ a = b := by
  rw [← toList_hexPair, ← toList_hexPair, String.toList_inj, hexPair_inj]

theorem dashes_ne_capitalPair (b : UInt8) : ['-', '-'] ≠ capitalPair b := by
  have hnot : ∀ k < 16, '-' ≠ capitalDigits.getD k '0' := by decide
  exact fun h => hnot (b.toNat % 16) (by omega) (List.cons.inj (List.cons.inj h).2).1

/-! ## Columns -/

/-- The two characters of a line from a column on. -/
def pairAt (line : String) (column : Nat) : List Char := (line.toList.drop column).take 2

namespace Computer

/-- A cell after the program counter as its two digits, or two dashes. -/
def cellPair (c : Computer) (offset : Nat) : List Char :=
  (c.memory.bytes[c.addressAt offset]?).elim ['-', '-'] capitalPair

theorem toList_cellText (c : Computer) (offset : Nat) :
    (c.cellText offset).toList = c.cellPair offset := by
  rw [cellText, Memory.read_eq, cellPair]
  cases c.memory.bytes[c.addressAt offset]? with
  | some byte => exact toList_hexPair byte
  | none =>
    change "--".toList = ['-', '-']
    rfl

theorem length_cellPair (c : Computer) (offset : Nat) : (c.cellPair offset).length = 2 := by
  rw [cellPair]
  cases c.memory.bytes[c.addressAt offset]? <;> rfl

theorem toList_trace (c : Computer) :
    c.trace.toList = "TRACE: ".toList ++ capitalPair c.registers.pc ++ " | ".toList ++ c.cellPair 0
      ++ " ".toList ++ c.cellPair 1 ++ " ".toList ++ c.cellPair 2 ++ " |".toList
      ++ Register.all.flatMap fun r => " ".toList ++ capitalPair (c.registers.get r) := by
  -- The marks are variables here, because `simp` would look for numerals in them.
  have hmarks : ∀ label bar gap close : String,
      (label ++ hexPair c.registers.pc ++ bar ++ c.cellText 0 ++ gap ++ c.cellText 1 ++ gap
          ++ c.cellText 2 ++ close
          ++ String.join (Register.all.map fun r => gap ++ hexPair (c.registers.get r))).toList =
        label.toList ++ capitalPair c.registers.pc ++ bar.toList ++ c.cellPair 0
          ++ gap.toList ++ c.cellPair 1 ++ gap.toList ++ c.cellPair 2 ++ close.toList
          ++ Register.all.flatMap fun r => gap.toList ++ capitalPair (c.registers.get r) := by
    intro label bar gap close
    simp only [String.toList_append, toList_hexPair, toList_cellText, String.toList_join,
      List.flatMap_map]
  exact hmarks "TRACE: " " | " " " " |"

/-- What stands in the columns of a trace line. -/
structure Columns (c : Computer) (line : String) : Prop where
  length_eq : line.length = 46
  pc : pairAt line 7 = capitalPair c.registers.pc
  cell : ∀ k < 3, pairAt line (12 + 3 * k) = c.cellPair k
  register : ∀ r : Register, pairAt line (23 + 3 * r.index) = capitalPair (c.registers.get r)

theorem columns_trace (c : Computer) : c.Columns c.trace := by
  obtain ⟨x, y, h0⟩ := List.length_eq_two.mp (c.length_cellPair 0)
  obtain ⟨x', y', h1⟩ := List.length_eq_two.mp (c.length_cellPair 1)
  obtain ⟨x'', y'', h2⟩ := List.length_eq_two.mp (c.length_cellPair 2)
  have htrace := c.toList_trace
  refine ⟨?_, ?_, fun k hk => ?_, fun r => ?_⟩
  · rw [← String.length_toList, htrace, h0, h1, h2]
    rfl
  · rw [pairAt, htrace, h0, h1, h2]
    rfl
  · rw [pairAt, htrace]
    interval_cases k
    · rw [h0, h1, h2]
      rfl
    · rw [h0, h1, h2]
      rfl
    · rw [h0, h1, h2]
      rfl
  · obtain ⟨i⟩ := r
    rw [pairAt, htrace, h0, h1, h2]
    fin_cases i <;> rfl

/-! ## What a trace line tells -/

section Sight

variable {c c' : Computer} {k : Nat}

theorem cellPair_of_some {byte : UInt8}
    (h : c.memory.bytes[c.registers.pc.toNat + k]? = some byte) :
    c.cellPair k = capitalPair byte := by
  rw [cellPair, addressAt, h, Option.elim_some]

theorem cellPair_eq_dashes_iff : c.cellPair k = ['-', '-'] ↔ 255 < c.registers.pc.toNat + k := by
  have hsize := c.memory.length_bytes
  rw [memorySize] at hsize
  cases hcell : c.memory.bytes[c.registers.pc.toNat + k]? with
  | some byte =>
    have hlt := (List.getElem?_eq_some_iff.mp hcell).1
    rw [cellPair_of_some hcell]
    exact iff_of_false (dashes_ne_capitalPair byte).symm (by omega)
  | none =>
    have hle := List.getElem?_eq_none_iff.mp hcell
    rw [cellPair, addressAt, hcell]
    exact iff_of_true rfl (by omega)

/-- A cell is seen in a trace line, or that it is missing. -/
theorem cellPair_inj (h : c.cellPair k = c'.cellPair k) :
    c.memory.bytes[c.registers.pc.toNat + k]? = c'.memory.bytes[c'.registers.pc.toNat + k]? := by
  unfold cellPair addressAt at h
  cases hcell : c.memory.bytes[c.registers.pc.toNat + k]? with
  | some byte =>
    cases hcell' : c'.memory.bytes[c'.registers.pc.toNat + k]? with
    | some byte' =>
      rw [hcell, hcell'] at h
      rw [capitalPair_inj.mp h]
    | none =>
      rw [hcell, hcell'] at h
      exact absurd h.symm (dashes_ne_capitalPair byte)
  | none =>
    cases hcell' : c'.memory.bytes[c'.registers.pc.toNat + k]? with
    | some byte' =>
      rw [hcell, hcell'] at h
      exact absurd h (dashes_ne_capitalPair byte')
    | none => rfl

/-- Two computers have the same program counter, the same general registers and the same three cells
from the program counter on, as far as there are cells. -/
structure SameSight (c c' : Computer) : Prop where
  pc : c.registers.pc = c'.registers.pc
  get : ∀ r, c.registers.get r = c'.registers.get r
  cell : ∀ k < 3,
    c.memory.bytes[c.registers.pc.toNat + k]? = c'.memory.bytes[c'.registers.pc.toNat + k]?

/-- **A trace line shows these and nothing else.** -/
theorem trace_eq_iff : c.trace = c'.trace ↔ SameSight c c' := by
  constructor
  · intro h
    have hc := c.columns_trace
    have hc' := c'.columns_trace
    rw [← h] at hc'
    refine ⟨capitalPair_inj.mp (hc.pc.symm.trans hc'.pc), fun r => ?_, fun k hk => ?_⟩
    · exact capitalPair_inj.mp ((hc.register r).symm.trans (hc'.register r))
    · exact cellPair_inj ((hc.cell k hk).symm.trans (hc'.cell k hk))
  · intro h
    have hcell : ∀ k < 3, c.cellPair k = c'.cellPair k := by
      intro k hk
      rw [cellPair, cellPair, addressAt, addressAt, h.cell k hk]
    rw [← String.toList_inj, toList_trace, toList_trace, h.pc, hcell 0 (by decide),
      hcell 1 (by decide), hcell 2 (by decide)]
    simp only [h.get]

theorem SameSight.take_upcoming (h : SameSight c c') : c.upcoming.take 3 = c'.upcoming.take 3 := by
  refine List.ext_getElem? fun k => ?_
  rw [List.getElem?_take, List.getElem?_take, upcoming, upcoming, List.getElem?_drop,
    List.getElem?_drop]
  split
  · next hk => exact h.cell k hk
  · rfl

end Sight

end Computer

namespace Instruction

/-- No instruction is longer than three bytes. -/
theorem decode_take (bytes : List UInt8) : decode (bytes.take 3) = decode bytes := by
  match bytes with
  | [] | [_] | [_, _] => rfl
  | byte :: x :: y :: rest =>
    change decode [byte, x, y] = _
    rw [decode, decode]
    cases Opcode.ofByte byte with
    | none => rfl
    | some op => cases op <;> rfl

end Instruction

namespace Computer

theorem SameSight.decode_eq {c c' : Computer} (h : SameSight c c') :
    Instruction.decode c.upcoming = Instruction.decode c'.upcoming := by
  rw [← Instruction.decode_take, h.take_upcoming, Instruction.decode_take]

/-- Two steps start from computers that look alike, and read the same instruction in the same
bytes. -/
structure SameReading (m m' : Moment) : Prop where
  sight : SameSight m.before m'.before
  bytes : m.before.upcoming.take 3 = m'.before.upcoming.take 3
  instruction : Instruction.decode m.before.upcoming = Instruction.decode m'.before.upcoming

theorem trace_before_eq_iff {m m' : Moment} :
    m.before.trace = m'.before.trace ↔ SameReading m m' :=
  trace_eq_iff.trans ⟨fun h => ⟨h, h.take_upcoming, h.decode_eq⟩, SameReading.sight⟩

/-- **A trace line is a faithful picture.** It has 46 characters. In the column of a cell it shows
two dashes exactly if the memory has no such cell, and otherwise its two digits. Two computers have
the same trace line exactly if they have the same program counter, the same general registers and
the same cells in view. So two runs have the same trace lines exactly if they read, step by step,
the same instructions in the same bytes, with the same registers. -/
theorem trace_faithful {σ τ : Type} [Sink σ] [Sink τ] :
    (∀ c : Computer, c.trace.length = 46) ∧
      (∀ (c : Computer) (k : Fin 3),
        (pairAt c.trace (12 + 3 * k) = ['-', '-'] ↔ 255 < c.registers.pc.toNat + k) ∧
          pairAt c.trace (12 + 3 * k) =
            (c.memory.bytes[c.registers.pc.toNat + k]?).elim ['-', '-'] capitalPair) ∧
      (∀ c c' : Computer, c.trace = c'.trace ↔ SameSight c c') ∧
      ∀ (c c' : Computer) (patience patience' : Nat) (limit limit' : Option UInt64) (sink : σ)
          (sink' : τ),
        (c.moments patience limit sink).map (·.before.trace) =
            (c'.moments patience' limit' sink').map (·.before.trace) ↔
          List.Forall₂ SameReading (c.moments patience limit sink)
            (c'.moments patience' limit' sink') := by
  refine ⟨fun c => c.columns_trace.length_eq, fun c k => ?_, fun c c' => trace_eq_iff, ?_⟩
  · rw [c.columns_trace.cell k k.isLt]
    exact ⟨cellPair_eq_dashes_iff, rfl⟩
  · intro c c' patience patience' limit limit' sink sink'
    rw [← List.forall₂_eq_eq_eq, List.forall₂_map_left_iff, List.forall₂_map_right_iff]
    simp only [trace_before_eq_iff]

end Computer

end LS8
