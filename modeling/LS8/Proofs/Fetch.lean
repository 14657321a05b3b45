import LS8.Computer.Step
import LS8.Proofs.Decoding

/-!
# Reading an instruction from the memory

The machine reads and checks the operands of an instruction one by one; the decoder looks at none
before all of them are there. Both come to the same instruction, and where one of them finds none
the other finds none either.

* `Computer.upcoming`: the bytes that the decoder is given;
* `Computer.refusal`: the fault of the machine where the decoder fails;
* `fetchOpcode_eq`, **`fetchOperands_eq`**: the two readings agree, errors included;
* `fetch_of_decode`, `decode_of_fetch`: they come to the same instruction;
* `pc_add_size_le`: a decoded instruction lies inside the memory.
-/

set_option autoImplicit false

namespace LS8.Computer

/-! ## The bytes at the program counter -/

/-- The bytes from the program counter to the end of the memory. -/
def upcoming (c : Computer) : List UInt8 := c.memory.bytes.drop c.registers.pc.toNat

/-- The fault of the machine where the decoder fails. Of a cut instruction the operand at the end of
the memory has been checked by the time when the next one is found missing. -/
def refusal (c : Computer) : DecodeError → Fault
  | .empty => .invalidAccess (.invalidAddress memorySize)
  | .unknownOpcode byte => .unknownOpcode byte c.registers.pc
  | .invalidRegister cause => .invalidRegister cause
  | .truncated op =>
    match c.upcoming with
    | [_, x] =>
      if op.operandCount = 2 ∧ 8 ≤ x.toNat then .invalidRegister ⟨x⟩
      else .invalidAccess (.invalidAddress memorySize)
    | _ => .invalidAccess (.invalidAddress memorySize)

theorem pc_add_length_upcoming (c : Computer) :
    c.registers.pc.toNat + c.upcoming.length = memorySize := by
  have h := c.registers.pc.toNat_lt
  rw [upcoming, List.length_drop, Memory.length_bytes, memorySize]
  omega

theorem upcoming_ne_nil (c : Computer) : c.upcoming ≠ [] := fun h => by
  have hl := c.pc_add_length_upcoming
  have hp := c.registers.pc.toNat_lt
  rw [h, List.length_nil, memorySize] at hl
  omega

/-- A first operand that is there is checked before the second one is missed. -/
theorem refusal_of_pair {c : Computer} {byte x : UInt8} (h : c.upcoming = [byte, x]) {op : Opcode}
    (hop : op.operandCount = 2) (hx : 8 ≤ x.toNat) :
    c.refusal (.truncated op) = .invalidRegister ⟨x⟩ := by
  rw [refusal, h]
  exact if_pos ⟨hop, hx⟩

/-- Any other cut instruction is missed at the end of the memory. -/
theorem refusal_of_no_pair {c : Computer} {op : Opcode}
    (h : ∀ byte x, c.upcoming = [byte, x] → op.operandCount = 2 → x.toNat < 8) :
    c.refusal (.truncated op) = .invalidAccess (.invalidAddress memorySize) := by
  rw [refusal]
  split
  · next byte x hu =>
    refine if_neg fun hx => ?_
    have := h byte x hu hx.1
    omega
  · rfl

theorem operand_eq (c : Computer) (offset : Nat) :
    c.operand offset = match c.upcoming[offset]? with
      | some b => .ok b
      | none => .error (.invalidAccess (.invalidAddress (c.addressAt offset))) := by
  rw [operand, Memory.read_eq, upcoming, List.getElem?_drop, addressAt]
  cases c.memory.bytes[c.registers.pc.toNat + offset]? <;> rfl

theorem operand_of_some {c : Computer} {offset : Nat} {b : UInt8}
    (h : c.upcoming[offset]? = some b) : c.operand offset = .ok b := by
  rw [operand_eq, h]

/-- The first cell that is missing is the one after the last. -/
theorem operand_length (c : Computer) :
    c.operand c.upcoming.length = .error (.invalidAccess (.invalidAddress memorySize)) := by
  rw [operand_eq, List.getElem?_eq_none (Nat.le_refl _), addressAt, pc_add_length_upcoming]

theorem registerOperand_of_some {c : Computer} {offset : Nat} {b : UInt8}
    (h : c.upcoming[offset]? = some b) :
    c.registerOperand offset = (Register.ofByte b).mapError .invalidRegister := by
  rw [registerOperand, operand_of_some h]
  rfl

theorem registerOperand_length (c : Computer) :
    c.registerOperand c.upcoming.length = .error (.invalidAccess (.invalidAddress memorySize)) := by
  rw [registerOperand, operand_length]
  rfl

/-! ## The opcode and the operands -/

theorem fetchOpcode_eq {c : Computer} {byte : UInt8} {rest : List UInt8}
    (h : c.upcoming = byte :: rest) :
    c.fetchOpcode = match Opcode.ofByte byte with
      | some op => .ok op
      | none => .error (.unknownOpcode byte c.registers.pc) := by
  have h0 : c.operand 0 = .ok byte := operand_of_some (by rw [h]; rfl)
  rw [fetchOpcode, h0]
  change (match dispatchTable.lookup byte with
    | some op => pure op
    | none => throw (Fault.unknownOpcode byte c.registers.pc)) = _
  rw [lookup_dispatchTable]
  cases Opcode.ofByte byte <;> rfl

theorem mapError_bind {ε ε' α β : Type} (x : Except ε α) (f : α → Except ε β) (g : ε → ε') :
    (x >>= f).mapError g = x.mapError g >>= fun a => (f a).mapError g := by
  cases x <;> rfl

theorem registerOperand_eq_mapError {c : Computer} {offset : Nat} {b : UInt8}
    (h : c.upcoming[offset]? = some b) :
    c.registerOperand offset = (Instruction.registerOperand b).mapError c.refusal := by
  rw [registerOperand_of_some h, Instruction.registerOperand]
  cases Register.ofByte b <;> rfl

/-- Without any operand byte, the first operand is the one that is missing. -/
theorem registerOperand_one_of_single {c : Computer} {byte : UInt8} (h : c.upcoming = [byte])
    (op : Opcode) : c.registerOperand 1 = .error (c.refusal (.truncated op)) := by
  have hm := c.registerOperand_length
  rw [h] at hm
  rw [refusal_of_no_pair fun _ _ hu => by simp [h] at hu]
  exact hm

/-- The instructions with a register as their single operand. -/
theorem fetchRegister_eq {c : Computer} {byte : UInt8} {rest : List UInt8}
    (h : c.upcoming = byte :: rest) {op : Opcode} {make : Register → Instruction}
    (hnil : Instruction.ofOperands op [] = .error (.truncated op))
    (hcons : ∀ r rest, Instruction.ofOperands op (r :: rest) =
      Instruction.registerOperand r >>= fun r => pure (make r)) :
    (c.registerOperand 1 >>= fun r => pure (make r)) =
      (Instruction.ofOperands op rest).mapError c.refusal := by
  cases rest with
  | nil =>
    rw [hnil, registerOperand_one_of_single h op]
    rfl
  | cons r rest =>
    have hr : c.upcoming[1]? = some r := by rw [h]; rfl
    rw [hcons, mapError_bind, registerOperand_eq_mapError hr]
    rfl

/-- The instructions with a register and one more operand. Where only the register is there, it is
checked before the other operand is missed. -/
theorem fetchPair_eq {c : Computer} {byte : UInt8} {rest : List UInt8}
    (h : c.upcoming = byte :: rest) {op : Opcode} (hop : op.operandCount = 2)
    {next : Register → Except Fault Instruction}
    {next' : UInt8 → Register → Except DecodeError Instruction}
    (hnil : Instruction.ofOperands op [] = .error (.truncated op))
    (hone : ∀ x, Instruction.ofOperands op [x] = .error (.truncated op))
    (hcons : ∀ x y rest, Instruction.ofOperands op (x :: y :: rest) =
      Instruction.registerOperand x >>= next' y)
    (hmissing : c.upcoming.length = 2 →
      ∀ r, next r = .error (.invalidAccess (.invalidAddress memorySize)))
    (hnext : ∀ y, c.upcoming[2]? = some y → ∀ r, next r = (next' y r).mapError c.refusal) :
    c.registerOperand 1 >>= next = (Instruction.ofOperands op rest).mapError c.refusal := by
  match rest with
  | [] =>
    rw [hnil, registerOperand_one_of_single h op]
    rfl
  | [x] =>
    have hx : c.upcoming[1]? = some x := by rw [h]; rfl
    have hm := hmissing (by rw [h]; rfl)
    rw [hone, registerOperand_of_some hx]
    cases hb : Register.ofByte x with
    | error e =>
      obtain ⟨hle, rfl⟩ := Register.ofByte_eq_error_iff.mp hb
      simp only [Instruction.mapError_error, refusal_of_pair h hop hle]
      rfl
    | ok r =>
      have hlt := Register.toNat_lt_of_ofByte hb
      have hn : ∀ b y, c.upcoming = [b, y] → op.operandCount = 2 → y.toNat < 8 := by
        intro b y hu _
        rw [h] at hu
        cases hu
        exact hlt
      simp only [Instruction.mapError_ok, Instruction.mapError_error, refusal_of_no_pair hn]
      exact hm r
  | x :: y :: rest =>
    have hx : c.upcoming[1]? = some x := by rw [h]; rfl
    have hy : c.upcoming[2]? = some y := by rw [h]; rfl
    rw [hcons, mapError_bind, registerOperand_eq_mapError hx]
    exact bind_congr (hnext y hy)

/-- **The two readings of the operands agree**, errors included. -/
theorem fetchOperands_eq {c : Computer} {byte : UInt8} {rest : List UInt8}
    (h : c.upcoming = byte :: rest) (op : Opcode) :
    c.fetchOperands op = (Instruction.ofOperands op rest).mapError c.refusal := by
  cases op with
  | hlt => rfl
  | prn | jmp | jeq | jne => exact fetchRegister_eq h rfl fun _ _ => rfl
  | ldi =>
    refine fetchPair_eq h (by decide) rfl (fun _ => rfl) (fun _ _ _ => rfl)
      (fun hl r => ?_) fun y hy r => ?_
    · rw [show c.operand 2 = _ from hl ▸ c.operand_length]
      rfl
    · rw [operand_of_some hy]
      rfl
  | cmp =>
    refine fetchPair_eq h (by decide) rfl (fun _ => rfl) (fun _ _ _ => rfl)
      (fun hl r => ?_) fun y hy r => ?_
    · rw [show c.registerOperand 2 = _ from hl ▸ c.registerOperand_length]
      rfl
    · rw [registerOperand_eq_mapError hy]
      exact (mapError_bind _ (fun b => pure (Instruction.cmp r b)) c.refusal).symm

/-- **The machine reads the instruction that is decoded.** -/
theorem fetch_of_decode {c : Computer} {i : Instruction}
    (hd : Instruction.decode c.upcoming = .ok i) :
    c.fetchOpcode = .ok i.opcode ∧ c.fetchOperands i.opcode = .ok i := by
  obtain ⟨byte, rest, hu⟩ := List.exists_cons_of_ne_nil c.upcoming_ne_nil
  rw [hu, Instruction.decode] at hd
  cases hb : Opcode.ofByte byte with
  | none => simp [hb] at hd
  | some op =>
    simp only [hb] at hd
    obtain ⟨rfl, _⟩ := Instruction.ofOperands_eq_ok_iff.mp hd
    rw [fetchOpcode_eq hu, fetchOperands_eq hu, hb, hd]
    exact ⟨rfl, rfl⟩

/-- **The instruction that the machine reads is decoded.** -/
theorem decode_of_fetch {c : Computer} {op : Opcode} (ho : c.fetchOpcode = .ok op)
    {i : Instruction} (hi : c.fetchOperands op = .ok i) :
    Instruction.decode c.upcoming = .ok i := by
  obtain ⟨byte, rest, hu⟩ := List.exists_cons_of_ne_nil c.upcoming_ne_nil
  rw [fetchOpcode_eq hu] at ho
  rw [fetchOperands_eq hu] at hi
  rw [hu, Instruction.decode]
  cases hb : Opcode.ofByte byte with
  | none => simp [hb] at ho
  | some op' =>
    simp only [hb, Except.ok.injEq] at ho
    subst ho
    cases hd : Instruction.ofOperands op' rest with
    | error e => simp [hd] at hi
    | ok j =>
      simp only [hd, Instruction.mapError_ok, Except.ok.injEq] at hi
      exact hd.trans (congrArg Except.ok hi)

theorem pc_add_size_le {c : Computer} {i : Instruction}
    (h : Instruction.decode c.upcoming = .ok i) : c.registers.pc.toNat + i.size ≤ memorySize := by
  have hp := (Instruction.decode_eq_ok_iff.mp h).length_le
  have hl := c.pc_add_length_upcoming
  rw [i.length_encode] at hp
  omega

end LS8.Computer
