import LS8.Proofs.Provenance
import LS8.Proofs.Recurrence
import Mathlib.Algebra.Order.BigOperators.Group.Finset
import Mathlib.Algebra.BigOperators.Fin
import Mathlib.Data.Fintype.BigOperators

/-!
# How long a program can run

Nothing is computed, so a register holds zero or the value of one of the loads into it. The memory
has room for so few loads that the registers have fewer contents than the counter can count, and a
machine that halts never has the same contents twice.

* `Memory.loadsInto`, `Memory.choices`: the loads into a register, and the values it can hold;
* **`prod_choices_le`**: how many contents the general registers can have;
* `step_of_ok`, `after_of_succeeds`: a step that succeeds is the same with a sink that never fails;
* `registers_inj`: a machine that halts does not come back to the registers that it had;
* **`halt_le`**: a program that halts does so within `2 ^ 63` steps.
-/

set_option autoImplicit false

namespace LS8

/-! ## The contents of the registers -/

namespace Memory

/-- The addresses of the loads into a register. The last one of them lies three cells before the end
of the memory. -/
def loadsInto (m : Memory) (r : Register) : Finset Nat :=
  (Finset.range 254).filter fun a => (m.dump a 3).take 2 = [Opcode.ldi.byte, r.toByte]

/-- The values that a register can hold. -/
def choices (m : Memory) (r : Register) : Finset UInt8 :=
  insert 0 ((m.loadsInto r).image fun a => (m.dump a 3).getD 2 0)

variable (m : Memory)

theorem mem_choices {r : Register} {value : UInt8} (h : m.Supplies r value) :
    value ∈ m.choices r := by
  obtain rfl | ⟨a, -, ha⟩ := h
  · exact Finset.mem_insert_self 0 _
  · have hsize : (Instruction.ldi r value).size = 3 := by
      change Opcode.ldi.size = 3
      decide
    have hlength := congrArg List.length ha
    rw [dump_eq, List.length_take, List.length_drop, length_bytes, memorySize,
      Instruction.length_encode, hsize] at hlength
    refine Finset.mem_insert_of_mem (Finset.mem_image.mpr ⟨a, ?_, by rw [ha]; rfl⟩)
    exact Finset.mem_filter.mpr ⟨Finset.mem_range.mpr (by omega), by rw [ha]; rfl⟩

theorem card_choices_le (r : Register) : (m.choices r).card ≤ (m.loadsInto r).card + 1 :=
  (Finset.card_insert_le _ _).trans (Nat.add_le_add_right Finset.card_image_le 1)

/-- No address is that of two loads. -/
theorem sum_loadsInto_le : ∑ i : Fin 8, (m.loadsInto ⟨i⟩).card ≤ 254 := by
  have hdisjoint : ((Finset.univ : Finset (Fin 8)) : Set (Fin 8)).PairwiseDisjoint
      fun i => m.loadsInto ⟨i⟩ := by
    intro i _ j _ hij
    refine Finset.disjoint_left.mpr fun a hi hj => hij ?_
    have hboth := (Finset.mem_filter.mp hi).2.symm.trans (Finset.mem_filter.mp hj).2
    have hbyte : Register.toByte ⟨i⟩ = Register.toByte ⟨j⟩ :=
      (List.cons.inj (List.cons.inj hboth).2).1
    have hread := congrArg Register.ofByte hbyte
    rw [Register.ofByte_toByte, Register.ofByte_toByte] at hread
    exact congrArg Register.index (Except.ok.inj hread)
  rw [← Finset.card_biUnion hdisjoint]
  calc
    _ ≤ (Finset.range 254).card := by
      refine Finset.card_le_card (Finset.biUnion_subset.mpr fun i _ => ?_)
      exact Finset.filter_subset _ _
    _ = 254 := Finset.card_range 254

theorem succ_le_two_pow (n : Nat) : n + 1 ≤ 2 ^ (5 + n / 32) := by
  have hq : n / 32 + 1 ≤ 2 ^ (n / 32) := Nat.lt_two_pow_self
  calc
    n + 1 ≤ 2 ^ 5 * (n / 32 + 1) := by omega
    _ ≤ 2 ^ 5 * 2 ^ (n / 32) := Nat.mul_le_mul_left _ hq
    _ = 2 ^ (5 + n / 32) := (Nat.pow_add 2 5 (n / 32)).symm

/-- **The contents that the general registers can have** are few, because the loads are. -/
theorem prod_choices_le : ∏ i : Fin 8, (m.choices ⟨i⟩).card ≤ 2 ^ 47 := by
  have hsum : ∑ i : Fin 8, (5 + (m.loadsInto ⟨i⟩).card / 32) ≤ 47 := by
    have hloads := m.sum_loadsInto_le
    simp only [Fin.sum_univ_eight] at hloads ⊢
    omega
  calc
    _ ≤ ∏ i : Fin 8, 2 ^ (5 + (m.loadsInto ⟨i⟩).card / 32) :=
      Finset.prod_le_prod' fun i _ => (m.card_choices_le ⟨i⟩).trans (succ_le_two_pow _)
    _ = 2 ^ ∑ i : Fin 8, (5 + (m.loadsInto ⟨i⟩).card / 32) := Finset.prod_pow_eq_pow_sum _ _ _
    _ ≤ 2 ^ 47 := Nat.pow_le_pow_right (by decide) hsum

end Memory

namespace Computer

/-! ## Steps that succeed -/

section Steps

variable {σ τ : Type} [Sink σ] [Sink τ] {c : Computer} {sink : σ} {t : τ}

/-- A step that succeeds does the same with a sink that never fails. -/
theorem step_of_ok (h : (c.step sink).result = .ok ()) (ht : Sink.Unfailing t) :
    (c.step t).computer = (c.step sink).computer := by
  have hanswers : ∀ r, Instruction.decode c.upcoming = .ok (.prn r) →
      Answers (fun _ _ => True) sink t (c.registers.get r) := by
    intro r hd
    refine ⟨?_, trivial⟩
    rcases he : Sink.emit sink (c.registers.get r) with ⟨sink', _ | cause⟩
    · exact ht.emit_eq_none _
    · have hrefused := outcome_of_refused (running_of_ok h) hd he
      rw [(Step.outcome_eq_iff.mp hrefused).2.2] at h
      cases h
  obtain ⟨t', -, hstep⟩ := c.step_answers trivial hanswers
  rw [hstep]
  rfl

theorem after_of_succeeds {k : Nat} (h : c.Succeeds sink k) (ht : Sink.Unfailing t) :
    (c.after t k).1 = (c.after sink k).1 := by
  induction k with
  | zero => rfl
  | succ k ih =>
    have hbefore := ih fun j hj => h j (Nat.lt_succ_of_lt hj)
    have hok := h k (Nat.lt_succ_self k)
    rw [after_succ, after_succ, stepAt, hbefore]
    exact step_of_ok hok (unfailing_after ht c k)

/-- **A machine that halts does not come back** to the registers that it had: it would go round for
good. -/
theorem registers_inj {n i j : Nat} (h : c.Succeeds sink n)
    (hh : (c.after sink n).1.state = .halted) (hi : i < n) (hj : j < n)
    (hregisters : (c.after sink i).1.registers = (c.after sink j).1.registers) : i = j := by
  have hu : Sink.Unfailing ({} : ValueSink) := ValueSink.unfailing rfl
  have hsame : ∀ k ≤ n, (c.after ({} : ValueSink) k).1 = (c.after sink k).1 := fun k hk =>
    after_of_succeeds (fun l hl => h l (by omega)) hu
  have hrunning : ∀ k < n, (c.after ({} : ValueSink) k).1.state = .running := fun k hk => by
    rw [hsame k (by omega)]
    exact running_of_ok (h k hk)
  have hforever : ∀ i j, i < j → j < n →
      (c.after sink i).1.registers = (c.after sink j).1.registers → False := by
    intro i j hij hj hregisters
    have hback : i + (j - i) = j := by omega
    have hrecurs : c.Recurs ({} : ValueSink) i (j - i) := by
      refine ⟨by omega, hrunning i (by omega), by rw [hback]; exact hrunning j hj, ?_⟩
      rw [hback, hsame i (by omega), hsame j (by omega), hregisters]
    have hn := hrecurs.running_after hu n
    rw [hsame n (Nat.le_refl n)] at hn
    exact absurd (hn.symm.trans hh) (by decide)
  obtain hlt | heq | hlt := Nat.lt_trichotomy i j
  · exact (hforever i j hlt hj hregisters).elim
  · exact heq
  · exact (hforever j i hlt hi hregisters.symm).elim

end Steps

/-! ## The steps until a halt -/

/-- What the registers of a computer hold, as one value. -/
def contents (c : Computer) : (Fin 8 → UInt8) × Nat × Nat :=
  (fun i => c.registers.get ⟨i⟩, c.registers.pc.toNat, c.registers.flags.bits.toNat)

theorem registers_of_contents {c c' : Computer} (h : c.contents = c'.contents) :
    c.registers = c'.registers := by
  obtain ⟨⟨general, pc, ⟨bits⟩⟩, _, _, _⟩ := c
  obtain ⟨⟨general', pc', ⟨bits'⟩⟩, _, _, _⟩ := c'
  obtain ⟨hget, hrest⟩ := Prod.mk.inj h
  obtain ⟨hpc, hbits⟩ := Prod.mk.inj hrest
  obtain rfl : general = general' := Vector.ext fun i hi => congrFun hget ⟨i, hi⟩
  obtain rfl : pc = pc' := UInt8.toNat_inj.mp hpc
  obtain rfl : bits = bits' := UInt8.toNat_inj.mp hbits
  rfl

/-- **A program that halts does so within `2 ^ 63` steps**, whatever the sinks do. -/
theorem halt_le {σ : Type} [Sink σ] {c : Computer} {sink : σ} {n : Nat} (hc : c.Supplied)
    (h : c.Succeeds sink n) (hh : (c.after sink n).1.state = .halted) : n ≤ 2 ^ 63 := by
  have hmaps : ∀ k ∈ Finset.range n, (c.after sink k).1.contents ∈
      (Fintype.piFinset fun i : Fin 8 => c.memory.choices ⟨i⟩) ×ˢ Finset.range 256 ×ˢ
        Finset.range 256 := by
    intro k _
    have hsupplied := (c.reaches_after sink k).supplied hc
    rw [Finset.mem_product, Finset.mem_product, Fintype.mem_piFinset, Finset.mem_range,
      Finset.mem_range]
    refine ⟨fun i => ?_, UInt8.toNat_lt _, UInt8.toNat_lt _⟩
    rw [← c.memory_after sink k]
    exact Memory.mem_choices _ (hsupplied ⟨i⟩)
  have hinj : Set.InjOn (fun k => (c.after sink k).1.contents) (Finset.range n : Finset Nat) := by
    intro i hi j hj hij
    exact registers_inj h hh (Finset.mem_range.mp hi) (Finset.mem_range.mp hj)
      (registers_of_contents hij)
  have hcard := Finset.card_le_card_of_injOn _ hmaps hinj
  rw [Finset.card_range, Finset.card_product, Finset.card_product, Fintype.card_piFinset,
    Finset.card_range] at hcard
  calc
    n ≤ 2 ^ 47 * (256 * 256) := hcard.trans (Nat.mul_le_mul_right _ c.memory.prod_choices_le)
    _ = 2 ^ 63 := rfl

end Computer

end LS8
