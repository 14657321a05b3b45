import LS8.Instruction.Decode

/-!
# Decoding and encoding

An instruction is decoded from the bytes that encode it, and from no others.

* `ofOperands_eq_ok_iff`: the operands of the decoded instruction stand at the front;
* **`decode_eq_ok_iff`**: an instruction is decoded exactly if its bytes stand at the front;
* **`decode_eq_empty_iff`**: decoding fails for want of bytes only where there are none.
-/

set_option autoImplicit false

namespace LS8.Instruction

section MapError

variable {ε ε' α : Type}

@[simp] theorem mapError_ok (f : ε → ε') (a : α) : (Except.ok a).mapError f = .ok a := rfl

@[simp] theorem mapError_error (f : ε → ε') (e : ε) :
    (Except.error e : Except ε α).mapError f = .error (f e) := rfl

end MapError

theorem registerOperand_eq_ok_iff {b : UInt8} {r : Register} :
    registerOperand b = .ok r ↔ b = r.toByte := by
  constructor
  · intro h
    rw [registerOperand] at h
    cases hb : Register.ofByte b with
    | error e => simp [hb] at h
    | ok r' =>
      simp only [hb, mapError_ok, Except.ok.injEq] at h
      rw [← h, Register.toByte_of_ofByte hb]
  · rintro rfl
    exact registerOperand_toByte r

theorem registerOperand_eq_error_iff {b : UInt8} {e : DecodeError} :
    registerOperand b = .error e ↔ 8 ≤ b.toNat ∧ e = .invalidRegister ⟨b⟩ := by
  rw [registerOperand]
  cases hb : Register.ofByte b with
  | error cause =>
    obtain ⟨hle, rfl⟩ := Register.ofByte_eq_error_iff.mp hb
    simp [hle, eq_comm]
  | ok r =>
    have hlt := Nat.not_le.mpr (Register.toNat_lt_of_ofByte hb)
    simp [hlt]

theorem bind_eq_ok_iff {ε α β : Type} {x : Except ε α} {f : α → Except ε β} {b : β} :
    x >>= f = .ok b ↔ ∃ a, x = .ok a ∧ f a = .ok b := by
  cases x with
  | error e => simp [bind, Except.bind]
  | ok a => simp [bind, Except.bind]

theorem bind_eq_error_iff {ε α β : Type} {x : Except ε α} {f : α → Except ε β} {e : ε} :
    x >>= f = .error e ↔ x = .error e ∨ ∃ a, x = .ok a ∧ f a = .error e := by
  cases x with
  | error e => simp [bind, Except.bind]
  | ok a => simp [bind, Except.bind]

/-- The operands of the decoded instruction stand at the front. -/
theorem ofOperands_eq_ok_iff {op : Opcode} {bytes : List UInt8} {i : Instruction} :
    ofOperands op bytes = .ok i ↔ i.opcode = op ∧ i.operands <+: bytes := by
  constructor
  · intro h
    unfold ofOperands at h
    split at h <;>
      simp only [bind_eq_ok_iff, registerOperand_eq_ok_iff, pure, Except.pure, Except.ok.injEq,
        reduceCtorEq] at h
    · subst h
      exact ⟨rfl, List.nil_prefix⟩
    · obtain ⟨r, rfl, rfl⟩ := h
      simp [opcode, operands]
    · obtain ⟨r, rfl, rfl⟩ := h
      simp [opcode, operands]
    · obtain ⟨a, rfl, b, rfl, rfl⟩ := h
      simp [opcode, operands]
    · obtain ⟨r, rfl, rfl⟩ := h
      simp [opcode, operands]
    · obtain ⟨r, rfl, rfl⟩ := h
      simp [opcode, operands]
    · obtain ⟨r, rfl, rfl⟩ := h
      simp [opcode, operands]
  · rintro ⟨rfl, rest, rfl⟩
    have := decode_encode_append i rest
    rw [encode, List.cons_append, decode, Opcode.ofByte_byte] at this
    exact this

/-- **An instruction is decoded exactly if its bytes stand at the front.** -/
theorem decode_eq_ok_iff {bytes : List UInt8} {i : Instruction} :
    decode bytes = .ok i ↔ i.encode <+: bytes := by
  constructor
  · intro h
    cases bytes with
    | nil => cases h
    | cons byte rest =>
      rw [decode] at h
      cases hb : Opcode.ofByte byte with
      | none => simp [hb] at h
      | some op =>
        rw [hb] at h
        obtain ⟨rfl, hp⟩ := ofOperands_eq_ok_iff.mp h
        rw [Opcode.ofByte_eq_some_iff.mp hb, encode]
        exact List.cons_prefix_cons.mpr ⟨rfl, hp⟩
  · rintro ⟨rest, rfl⟩
    exact decode_encode_append i rest

/-- **Only where there are no bytes there is nothing to decode.** -/
theorem decode_eq_empty_iff {bytes : List UInt8} : decode bytes = .error .empty ↔ bytes = [] := by
  constructor
  · intro h
    cases bytes with
    | nil => rfl
    | cons byte rest =>
      rw [decode] at h
      cases hb : Opcode.ofByte byte with
      | none => simp [hb] at h
      | some op =>
        simp only [hb, ofOperands] at h
        split at h <;>
          simp [bind_eq_error_iff, registerOperand_eq_error_iff, pure, Except.pure] at h
  · rintro rfl
    rfl

end LS8.Instruction
