import LS8.Program
import LS8.Proofs.Run
import LS8.Proofs.Tiling

/-!
# Listings and execution

A program is listed from its own bytes and executed from a memory in which they are followed by
zeros. Both find the same instructions, except that an instruction cut off by the end of the program
is completed with zeros by the machine.

* **`decode_padded`**: what decoding makes of zeros behind the program;
* `place`, **`place_succ`**: where the lines of a listing start;
* `Computer.GoesOn`, **`pc_of_goesOn`**: a step that neither halts nor jumps goes on after its
  instruction;
* **`disassemble_execution`**: a listing tells what the machine executes.
-/

set_option autoImplicit false

namespace LS8

/-! ## Zeros behind a program -/

namespace Instruction

theorem decode_append {bytes : List UInt8} {i : Instruction} (h : decode bytes = .ok i)
    (more : List UInt8) : decode (bytes ++ more) = .ok i :=
  decode_eq_ok_iff.mpr ((decode_eq_ok_iff.mp h).trans (List.prefix_append bytes more))

/-- **Zeros behind the bytes** at most complete an instruction that was cut off. -/
theorem decode_padded {bytes : List UInt8} {e : DecodeError} (h : decode bytes = .error e)
    {n : Nat} {i : Instruction} (hi : decode (bytes ++ List.replicate n 0) = .ok i) :
    bytes.length < i.size ∧ i.encode = bytes ++ List.replicate (i.size - bytes.length) 0 := by
  have hp := decode_eq_ok_iff.mp hi
  have hlt : bytes.length < i.size := by
    by_contra hle
    have hpre : i.encode <+: bytes :=
      List.prefix_of_prefix_length_le hp (List.prefix_append _ _) (by rw [length_encode]; omega)
    rw [decode_eq_ok_iff.mpr hpre] at h
    cases h
  refine ⟨hlt, ?_⟩
  have hn := hp.length_le
  rw [length_encode, List.length_append, List.length_replicate] at hn
  calc
    i.encode = (bytes ++ List.replicate n 0).take i.size := by
      rw [← length_encode]
      exact List.prefix_iff_eq_take.mp hp
    _ = bytes ++ List.replicate (i.size - bytes.length) 0 := by
      rw [List.take_append, List.take_of_length_le (Nat.le_of_lt hlt), List.take_replicate,
        Nat.min_eq_left (by omega)]

end Instruction

/-! ## Where the lines start -/

namespace Listing

/-- The address at which so many lines end, and the next one starts if there is one. -/
def place (bytes : List UInt8) (n : Nat) : Nat :=
  ((disassemble bytes)[n]?).elim bytes.length Line.address

theorem Tiles.address_succ {address : Nat} {bytes : List UInt8} {lines : List Line}
    (h : Tiles address bytes lines) {n : Nat} {line : Line} (hl : lines[n]? = some line) :
    (lines[n + 1]?).elim (address + bytes.length) Line.address = line.address + line.item.size := by
  induction h generalizing n with
  | nil => simp at hl
  | @cons address item rest lines stands tail ih =>
    rw [List.getElem?_cons_succ, List.length_append, length_bytes, ← Nat.add_assoc]
    cases n with
    | zero =>
      obtain rfl : ⟨address, item⟩ = line := by simpa using hl
      cases tail with
      | nil => rfl
      | cons => rfl
    | succ n =>
      rw [List.getElem?_cons_succ] at hl
      exact ih hl

theorem place_zero (bytes : List UInt8) : place bytes 0 = 0 := by
  have h := (tiles_disassemble bytes).address_head
  have hnil := (tiles_disassemble bytes).eq_nil_iff
  rw [place]
  cases hd : disassemble bytes with
  | nil =>
    rw [hnil.mp hd]
    rfl
  | cons line lines =>
    rw [hd] at h
    exact h line rfl

/-- **A line starts where the one before it ends.** -/
theorem place_succ {bytes : List UInt8} {n : Nat} {line : Line}
    (h : (disassemble bytes)[n]? = some line) :
    place bytes (n + 1) = line.address + line.item.size := by
  rw [place, ← (tiles_disassemble bytes).address_succ h, Nat.zero_add]

theorem stands_disassemble {bytes : List UInt8} {line : Line} (h : line ∈ disassemble bytes) :
    line.address < bytes.length ∧ Stands (bytes.drop line.address) line.item := by
  obtain ⟨offset, ho, ha, hs⟩ := (tiles_disassemble bytes).stands line h
  rw [Nat.zero_add] at ha
  rw [ha]
  exact ⟨ho, hs⟩

end Listing

/-! ## Steps that go on -/

namespace Computer

/-- The instruction at the program counter is no halt, and no jump that is taken. -/
def GoesOn (c : Computer) : Prop :=
  ∀ i, Instruction.decode c.upcoming = .ok i → i ≠ .hlt ∧ ∀ r, ¬ c.Jumps i r

section Straight

variable {σ : Type} [Sink σ] {c : Computer} {sink : σ}

/-- **A step that is no halt and no jump** goes on after its instruction. -/
theorem pc_of_goesOn (hr : (c.step sink).result = .ok ()) (hg : c.GoesOn) {i : Instruction}
    (hd : Instruction.decode c.upcoming = .ok i) :
    (c.step sink).computer.registers.pc.toNat = c.registers.pc.toNat + i.size := by
  obtain ⟨hh, hj⟩ := hg i hd
  cases rule_step (running_of_ok hr) sink with
  | halt decoded _ => exact absurd (Except.ok.inj (hd.symm.trans decoded)) hh
  | jump decoded jumps _ =>
    obtain rfl := Except.ok.inj (hd.symm.trans decoded)
    exact absurd jumps (hj _)
  | pass decoded _ inside ho =>
    obtain rfl := Except.ok.inj (hd.symm.trans decoded)
    rw [(Step.outcome_eq_iff.mp ho).1]
    exact UInt8.toNat_ofNat_of_lt' inside
  | runOut _ _ _ ho | refuse _ _ ho | undecoded _ ho =>
    rw [(Step.outcome_eq_iff.mp ho).2.2] at hr
    cases hr

end Straight

end Computer

/-! ## Listings tell what is executed -/

namespace Listing

section Execution

variable {p : Program} {line : Line}

theorem drop_bytes_ofProgram (h : line ∈ disassemble p.bytes) :
    (Computer.ofProgram p).memory.bytes.drop line.address =
      p.bytes.drop line.address ++ List.replicate (memorySize - p.bytes.length) 0 := by
  have hlt := (stands_disassemble h).1
  rw [Computer.bytes_ofProgram, List.drop_append_of_le_length (Nat.le_of_lt hlt)]

theorem decode_memory (h : line ∈ disassemble p.bytes) {i : Instruction}
    (hi : line.item = .instruction i) :
    Instruction.decode ((Computer.ofProgram p).memory.bytes.drop line.address) = .ok i := by
  have hs := (stands_disassemble h).2
  rw [hi, Stands] at hs
  rw [drop_bytes_ofProgram h]
  exact Instruction.decode_append hs _

/-- Where the listing has a byte, the machine finds no instruction or one that was cut off. -/
theorem decode_memory_of_byte (h : line ∈ disassemble p.bytes) {b : UInt8}
    (hb : line.item = .byte b) :
    (∃ e, Instruction.decode ((Computer.ofProgram p).memory.bytes.drop line.address) = .error e) ∨
      ∃ i, Instruction.decode ((Computer.ofProgram p).memory.bytes.drop line.address) = .ok i ∧
        p.bytes.length < line.address + i.size ∧
        i.encode = p.bytes.drop line.address ++
          List.replicate (line.address + i.size - p.bytes.length) 0 := by
  obtain ⟨hlt, hs⟩ := stands_disassemble h
  rw [hb, Stands] at hs
  obtain ⟨_, e, he⟩ := hs
  rw [drop_bytes_ofProgram h]
  cases hd : Instruction.decode (p.bytes.drop line.address ++
      List.replicate (memorySize - p.bytes.length) 0) with
  | error e' => exact Or.inl ⟨e', rfl⟩
  | ok i =>
    obtain ⟨hsize, hencode⟩ := Instruction.decode_padded he hd
    rw [List.length_drop] at hsize hencode
    have hzeros : i.size - (p.bytes.length - line.address) =
        line.address + i.size - p.bytes.length := by omega
    rw [hzeros] at hencode
    exact Or.inr ⟨i, rfl, by omega, hencode⟩

variable {σ : Type} [Sink σ] {sink : σ}

/-- **Straight on through the listing**: after so many lines, the program counter is where the next
line starts. -/
theorem pc_after (n : Nat)
    (hlines : ∀ k < n, ∃ line i, (disassemble p.bytes)[k]? = some line ∧
      line.item = .instruction i)
    (hs : (Computer.ofProgram p).Succeeds sink n)
    (hg : ∀ k < n, ((Computer.ofProgram p).after sink k).1.GoesOn) :
    ((Computer.ofProgram p).after sink n).1.registers.pc.toNat = place p.bytes n := by
  induction n with
  | zero => exact (place_zero p.bytes).symm
  | succ n ih =>
    have hpc := ih (fun k hk => hlines k (by omega)) (fun k hk => hs k (by omega))
      fun k hk => hg k (by omega)
    obtain ⟨line, i, hl, hi⟩ := hlines n (Nat.lt_succ_self n)
    have hplace : place p.bytes n = line.address := by
      rw [place, hl]
      rfl
    -- The machine is at the line, so it decodes the instruction that stands there.
    have hd : Instruction.decode ((Computer.ofProgram p).after sink n).1.upcoming = .ok i := by
      rw [Computer.upcoming, Computer.memory_after, hpc, hplace]
      exact decode_memory (List.mem_of_getElem? hl) hi
    have hr := hs n (Nat.lt_succ_self n)
    rw [Computer.after_succ, place_succ hl, hi, ← hplace, ← hpc]
    exact Computer.pc_of_goesOn hr (hg n (Nat.lt_succ_self n)) hd

/-- **A listing tells what the machine executes.** At every instruction of the listing the machine
finds that instruction. Where the listing has a byte, it finds none, or one that the end of the
program cuts off, with zeros for what is missing. And as long as all steps succeed, and none is a
halt or a jump that is taken, it executes one line of the listing after the other. -/
theorem disassemble_execution (bytes : List UInt8) (fits : bytes.length ≤ 256) (sink : σ) :
    ∃ c, Computer.withProgram bytes = .ok c ∧
      (∀ line ∈ disassemble bytes, ∀ i, line.item = .instruction i →
        Instruction.decode (c.memory.bytes.drop line.address) = .ok i) ∧
      (∀ line ∈ disassemble bytes, ∀ b, line.item = .byte b →
        (∃ e, Instruction.decode (c.memory.bytes.drop line.address) = .error e) ∨
          ∃ i, Instruction.decode (c.memory.bytes.drop line.address) = .ok i ∧
            bytes.length < line.address + i.size ∧
            i.encode = bytes.drop line.address ++
              List.replicate (line.address + i.size - bytes.length) 0) ∧
      ∀ n, (∀ k < n, ∃ line i, (disassemble bytes)[k]? = some line ∧
          line.item = .instruction i) →
        c.Succeeds sink n → (∀ k < n, (c.after sink k).1.GoesOn) →
        (c.after sink n).1.registers.pc.toNat =
          ((disassemble bytes)[n]?).elim bytes.length Line.address := by
  refine ⟨Computer.ofProgram ⟨bytes, fits⟩, Computer.withProgram_bytes ⟨bytes, fits⟩, ?_, ?_, ?_⟩
  · intro line hl i hi
    exact decode_memory hl hi
  · intro line hl b hb
    exact decode_memory_of_byte hl hb
  · intro n hlines hs hg
    exact pc_after n hlines hs hg

/-- A program that loads a value, prints it, and ends with the first byte of another printing. -/
def cutPrint : Program where
  bytes := [0x82, 0, 8, 0x47, 0, 0x47]
  fits := by decide

theorem disassemble_cutPrint :
    disassemble cutPrint.bytes =
      [⟨0, .instruction (.ldi ⟨0⟩ 8)⟩, ⟨3, .instruction (.prn ⟨0⟩)⟩,
        ⟨5, .byte Opcode.prn.byte⟩] := by
  cbv

/-- The machine goes through the two instructions and comes to the byte that is left, where it finds
one more instruction. -/
theorem execution_cutPrint :
    cutPrint.bytes.length ≤ 256 ∧
      ∃ c, Computer.withProgram cutPrint.bytes = .ok c ∧ c.Succeeds ({} : ValueSink) 2 ∧
        (c.after ({} : ValueSink) 2).1.registers.pc.toNat = 5 ∧
        Instruction.decode (c.memory.bytes.drop 5) = .ok (.prn ⟨0⟩) ∧
        cutPrint.bytes.length < 5 + (Instruction.prn ⟨0⟩).size := by
  obtain ⟨c, hc, _, hbyte, hpc⟩ :=
    disassemble_execution cutPrint.bytes cutPrint.fits ({} : ValueSink)
  obtain rfl : Computer.ofProgram cutPrint = c :=
    Except.ok.inj ((Computer.withProgram_bytes cutPrint).symm.trans hc)
  rw [disassemble_cutPrint] at hbyte hpc
  have hd : Instruction.decode ((Computer.ofProgram cutPrint).memory.bytes.drop 5) =
      .ok (.prn ⟨0⟩) := by rfl
  have hs : (Computer.ofProgram cutPrint).Succeeds ({} : ValueSink) 2 := by
    intro k hk
    match k, hk with
    | 0, _ | 1, _ => rfl
  have hg : ∀ k < 2, ((Computer.ofProgram cutPrint).after ({} : ValueSink) k).1.GoesOn := by
    intro k hk i hi
    match k, hk with
    | 0, _ | 1, _ =>
      cases hi
      exact ⟨by simp, fun r hr => by cases hr⟩
  refine ⟨cutPrint.fits, _, hc, hs, hpc 2 (fun k hk => ?_) hs hg, hd, ?_⟩
  · match k, hk with
    | 0, _ | 1, _ => exact ⟨_, _, rfl, rfl⟩
  · obtain ⟨e, he⟩ | ⟨i, hi, hlt, _⟩ := hbyte ⟨5, .byte Opcode.prn.byte⟩ (by simp) _ rfl
    · cases hd.symm.trans he
    · cases hd.symm.trans hi
      exact hlt

end Execution

end Listing

end LS8
