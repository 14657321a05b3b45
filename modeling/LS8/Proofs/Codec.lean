import LS8.Proofs.Decoding

/-!
# The instruction format

Decoding undoes encoding, and where it fails its error says exactly what is wrong with the bytes.
The faults of a byte sequence are looked for in a fixed order: an opcode that is none, operands that
are missing, a register that is none.

* `Opcode.registerCount`, `badRegister?`: the operands that have to be registers, and the first of
  them that is none;
* `Verdict`, **`verdict_iff`**: what is to be said of a byte sequence, and that the decoder says it;
* **`decode_eq_unknownOpcode_iff`**, **`decode_eq_truncated_iff`**,
  **`decode_eq_invalidRegister_iff`**: the errors, one by one;
* **`decode_append_of_complete`**: only where bytes are missing can further bytes make a difference;
* **`instruction_format`**: encoding and decoding are inverse, and the errors are exact.
-/

set_option autoImplicit false

namespace LS8

namespace Opcode

/-- How many of the operands have to be registers. They stand before the others. -/
def registerCount : Opcode → Nat
  | hlt => 0
  | ldi | prn | jmp | jeq | jne => 1
  | cmp => 2

theorem registerCount_le (op : Opcode) : op.registerCount ≤ op.operandCount := by
  cases op <;> decide

theorem ofByte_eq_none_iff {b : UInt8} : ofByte b = none ↔ ∀ op : Opcode, op.byte ≠ b := by
  simp [ofByte, List.find?_eq_none, mem_all]

end Opcode

namespace Instruction

variable {bytes rest : List UInt8} {op : Opcode} {b : UInt8}

/-- The first operand that has to be a register and is none. -/
def badRegister? (op : Opcode) (operands : List UInt8) : Option UInt8 :=
  (operands.take op.registerCount).find? fun operand => 8 ≤ operand.toNat

/-! ## What follows an opcode -/

/-- Too few operands are noticed before any of them is looked at. -/
theorem ofOperands_of_short (h : rest.length < op.operandCount) :
    ofOperands op rest = .error (.truncated op) := by
  rw [Opcode.operandCount_eq] at h
  unfold ofOperands
  split
  case h_8 => rfl
  all_goals
    simp only [List.length_cons] at h
    omega

/-- An instruction with one register among its operands. -/
theorem registerOperand_bind (make : Register → Instruction) (b : UInt8) :
    (registerOperand b >>= fun r => pure (make r)) =
      (fun rs => make (rs.headD ⟨0⟩)) <$> [b].mapM registerOperand := by
  simp

/-- Where none is missing, the operands that have to be registers are read in order. Only what is
made of them depends on the opcode. -/
theorem ofOperands_of_enough (h : op.operandCount ≤ rest.length) :
    ∃ make : List Register → Instruction,
      ofOperands op rest = make <$> (rest.take op.registerCount).mapM registerOperand := by
  rw [Opcode.operandCount_eq] at h
  cases op with
  | hlt => exact ⟨fun _ => .hlt, rfl⟩
  | ldi =>
    obtain _ | ⟨r, _ | ⟨value, tail⟩⟩ := rest
    · simp at h
    · simp at h
    · exact ⟨_, registerOperand_bind (.ldi · value) r⟩
  | cmp =>
    obtain _ | ⟨a, _ | ⟨b, tail⟩⟩ := rest
    · simp at h
    · simp at h
    · refine ⟨fun rs => .cmp (rs.headD ⟨0⟩) (rs.tail.headD ⟨0⟩), ?_⟩
      simp [ofOperands, Opcode.registerCount]
  | prn | jmp | jeq | jne =>
    obtain _ | ⟨r, tail⟩ := rest
    · simp at h
    · exact ⟨_, registerOperand_bind _ r⟩

theorem mapM_registerOperand_of_some {operands : List UInt8} {x : UInt8}
    (h : operands.find? (fun operand => 8 ≤ operand.toNat) = some x) :
    operands.mapM registerOperand = .error (.invalidRegister ⟨x⟩) := by
  induction operands with
  | nil => cases h
  | cons operand operands ih =>
    rw [List.mapM_cons]
    by_cases hbad : 8 ≤ operand.toNat
    · rw [List.find?_cons_of_pos (by simpa using hbad)] at h
      obtain rfl := Option.some.inj h
      rw [registerOperand_eq_error_iff.mpr ⟨hbad, rfl⟩]
      rfl
    · rw [List.find?_cons_of_neg (by simpa using hbad)] at h
      cases hr : registerOperand operand with
      | error e => exact absurd (registerOperand_eq_error_iff.mp hr).1 hbad
      | ok r =>
        rw [ih h]
        rfl

theorem mapM_registerOperand_of_none {operands : List UInt8}
    (h : operands.find? (fun operand => 8 ≤ operand.toNat) = none) :
    ∃ rs, operands.mapM registerOperand = .ok rs := by
  induction operands with
  | nil => exact ⟨[], rfl⟩
  | cons operand operands ih =>
    rw [List.mapM_cons]
    have hgood : ¬ 8 ≤ operand.toNat := by simpa using List.find?_eq_none.mp h operand (by simp)
    rw [List.find?_cons_of_neg (by simpa using hgood)] at h
    cases hr : registerOperand operand with
    | error e => exact absurd (registerOperand_eq_error_iff.mp hr).1 hgood
    | ok r =>
      obtain ⟨rs, hrs⟩ := ih h
      exact ⟨r :: rs, by rw [hrs]; rfl⟩

/-! ## What is to be said of a byte sequence -/

/-- The instruction that a byte sequence starts with, or the first thing that is wrong with it. -/
inductive Verdict : List UInt8 → Except DecodeError Instruction → Prop
  | empty : Verdict [] (.error .empty)
  | unknownOpcode {b : UInt8} {rest : List UInt8} (unknown : ∀ op : Opcode, op.byte ≠ b) :
    Verdict (b :: rest) (.error (.unknownOpcode b))
  | truncated {op : Opcode} {rest : List UInt8} (short : rest.length < op.operandCount) :
    Verdict (op.byte :: rest) (.error (.truncated op))
  | invalidRegister {op : Opcode} {rest : List UInt8} {x : UInt8}
    (enough : op.operandCount ≤ rest.length) (bad : badRegister? op rest = some x) :
    Verdict (op.byte :: rest) (.error (.invalidRegister ⟨x⟩))
  | ok (i : Instruction) (rest : List UInt8) : Verdict (i.encode ++ rest) (.ok i)

theorem decode_byte_cons (op : Opcode) (rest : List UInt8) :
    decode (op.byte :: rest) = ofOperands op rest := by
  rw [decode, Opcode.ofByte_byte]

theorem Verdict.decode_eq {result : Except DecodeError Instruction} (h : Verdict bytes result) :
    decode bytes = result := by
  cases h with
  | empty => rfl
  | unknownOpcode unknown => rw [decode, Opcode.ofByte_eq_none_iff.mpr unknown]
  | truncated short => rw [decode_byte_cons, ofOperands_of_short short]
  | @invalidRegister op rest x enough bad =>
    obtain ⟨make, hmake⟩ := ofOperands_of_enough enough
    rw [decode_byte_cons, hmake, mapM_registerOperand_of_some bad]
    rfl
  | ok i rest => exact decode_encode_append i rest

theorem exists_verdict (bytes : List UInt8) : ∃ result, Verdict bytes result := by
  cases bytes with
  | nil => exact ⟨_, .empty⟩
  | cons b rest =>
    cases hb : Opcode.ofByte b with
    | none => exact ⟨_, .unknownOpcode (Opcode.ofByte_eq_none_iff.mp hb)⟩
    | some op =>
      obtain rfl := Opcode.ofByte_eq_some_iff.mp hb
      rcases Nat.lt_or_ge rest.length op.operandCount with hshort | henough
      · exact ⟨_, .truncated hshort⟩
      · cases hbad : badRegister? op rest with
        | some x => exact ⟨_, .invalidRegister henough hbad⟩
        | none =>
          -- All operands can be read, so there is an instruction, and its bytes stand at the front.
          obtain ⟨make, hmake⟩ := ofOperands_of_enough henough
          obtain ⟨rs, hrs⟩ := mapM_registerOperand_of_none hbad
          have hd : decode (op.byte :: rest) = .ok (make rs) := by
            rw [decode_byte_cons, hmake, hrs]
            rfl
          obtain ⟨tail, ht⟩ := decode_eq_ok_iff.mp hd
          rw [← ht]
          exact ⟨_, .ok (make rs) tail⟩

/-- **The decoder says what is to be said.** -/
theorem verdict_iff {result : Except DecodeError Instruction} :
    Verdict bytes result ↔ decode bytes = result := by
  refine ⟨Verdict.decode_eq, ?_⟩
  rintro rfl
  obtain ⟨result, h⟩ := exists_verdict bytes
  rw [h.decode_eq]
  exact h

/-! ## The errors -/

theorem decode_eq_unknownOpcode_iff {x : UInt8} :
    decode (b :: rest) = .error (.unknownOpcode x) ↔ x = b ∧ ∀ op : Opcode, op.byte ≠ b := by
  rw [← verdict_iff]
  constructor
  · intro h
    cases h with
    | unknownOpcode unknown => exact ⟨rfl, unknown⟩
  · rintro ⟨rfl, unknown⟩
    exact .unknownOpcode unknown

theorem decode_eq_truncated_iff :
    decode (b :: rest) = .error (.truncated op) ↔
      op.byte = b ∧ rest.length < (b >>> 6).toNat := by
  rw [← verdict_iff]
  constructor
  · intro h
    cases h with
    | truncated short => exact ⟨rfl, short⟩
  · rintro ⟨rfl, short⟩
    exact .truncated short

theorem decode_eq_invalidRegister_iff {x : UInt8} :
    decode (b :: rest) = .error (.invalidRegister ⟨x⟩) ↔
      ∃ op : Opcode, op.byte = b ∧ (b >>> 6).toNat ≤ rest.length ∧
        badRegister? op rest = some x := by
  rw [← verdict_iff]
  constructor
  · intro h
    cases h with
    | invalidRegister enough bad => exact ⟨_, rfl, enough, bad⟩
  · rintro ⟨op, rfl, enough, bad⟩
    exact .invalidRegister enough bad

/-! ## Further bytes -/

theorem badRegister?_append (enough : op.operandCount ≤ rest.length) (more : List UInt8) :
    badRegister? op (rest ++ more) = badRegister? op rest := by
  rw [badRegister?, badRegister?,
    List.take_append_of_le_length (Nat.le_trans op.registerCount_le enough)]

/-- **Only where bytes are missing can further bytes make a difference.** -/
theorem decode_append_of_complete (hempty : decode bytes ≠ .error .empty)
    (htruncated : ∀ op, decode bytes ≠ .error (.truncated op)) (more : List UInt8) :
    decode (bytes ++ more) = decode bytes := by
  obtain ⟨result, h⟩ := exists_verdict bytes
  rw [h.decode_eq] at hempty htruncated ⊢
  rw [← verdict_iff]
  cases h with
  | empty => exact absurd rfl hempty
  | unknownOpcode unknown => exact .unknownOpcode unknown
  | truncated short => exact absurd rfl (htruncated _)
  | @invalidRegister op rest x enough bad =>
    have henough := Nat.le_trans enough (List.prefix_append rest more).length_le
    exact .invalidRegister henough ((badRegister?_append enough more).trans bad)
  | ok i rest =>
    rw [List.append_assoc]
    exact .ok i (rest ++ more)

/-- **Encoding and decoding are inverse, and the errors are exact.** An instruction is read back
from its bytes, whatever follows them, and from no others. Of what is wrong with a byte sequence the
error names the first: there are no bytes, the first byte is no opcode, fewer operands follow than
its two high bits say, an operand that has to be a register is none. Only where there are no bytes
or too few can further bytes make a difference. -/
theorem instruction_format :
    (∀ (i : Instruction) (rest : List UInt8),
      decode (i.encode ++ rest) = .ok i ∧ i.encode.length = i.size) ∧
    (∀ (bytes : List UInt8) (i : Instruction),
      decode bytes = .ok i → i.encode = bytes.take i.size) ∧
    (∀ bytes : List UInt8, decode bytes = .error .empty ↔ bytes = []) ∧
    (∀ (b : UInt8) (rest : List UInt8),
      (∀ x, decode (b :: rest) = .error (.unknownOpcode x) ↔
        x = b ∧ ∀ op : Opcode, op.byte ≠ b) ∧
      (∀ op, decode (b :: rest) = .error (.truncated op) ↔
        op.byte = b ∧ rest.length < (b >>> 6).toNat) ∧
      (∀ x, decode (b :: rest) = .error (.invalidRegister ⟨x⟩) ↔
        ∃ op : Opcode, op.byte = b ∧ (b >>> 6).toNat ≤ rest.length ∧
          badRegister? op rest = some x)) ∧
    ∀ bytes : List UInt8, decode bytes ≠ .error .empty →
      (∀ op, decode bytes ≠ .error (.truncated op)) →
        ∀ more, decode (bytes ++ more) = decode bytes := by
  refine ⟨fun i rest => ⟨decode_encode_append i rest, i.length_encode⟩, fun bytes i h => ?_,
    fun bytes => decode_eq_empty_iff, fun b rest => ⟨fun x => decode_eq_unknownOpcode_iff,
      fun op => decode_eq_truncated_iff, fun x => decode_eq_invalidRegister_iff⟩,
    fun bytes => decode_append_of_complete⟩
  rw [← i.length_encode]
  exact List.prefix_iff_eq_take.mp (decode_eq_ok_iff.mp h)

/-- The missing operand is noticed before the one that is no register. -/
example : decode [Opcode.cmp.byte, 9] = .error (.truncated .cmp) := rfl

end Instruction

end LS8
