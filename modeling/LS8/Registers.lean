import LS8.Flags

/-!
# Registers

Eight general registers of one byte each, the program counter and the flags.

* `Register`: a general register, `Register.ofByte`, `Register.toByte`;
* `Registers`: the contents of all of them, `Registers.get`, `Registers.set`;
* `Registers.text`, `Registers.record`: the two ways in which they are shown;
* **`ofByte_toByte`**, **`get_set`**: a byte designates the register it encodes, and a register
  holds what was last put into it.
-/

set_option autoImplicit false

namespace LS8

/-- A byte that designates no register. -/
structure InvalidRegister where
  index : UInt8
deriving DecidableEq

namespace InvalidRegister

/-- The wording of the error. -/
def message (e : InvalidRegister) : String := "invalid register index " ++ decimal e.index.toNat

end InvalidRegister

/-- A general register. -/
structure Register where
  index : Fin 8
deriving DecidableEq

namespace Register

/-- The eight general registers, in order. -/
def all : List Register := (List.finRange 8).map Register.mk

/-- The register that a byte designates. -/
def ofByte (b : UInt8) : Except InvalidRegister Register :=
  if h : b.toNat < 8 then .ok ⟨⟨b.toNat, h⟩⟩ else .error ⟨b⟩

/-- The byte that designates a register. -/
def toByte (r : Register) : UInt8 := UInt8.ofNat r.index

/-- The name of a register: `r` and its index. -/
def name (r : Register) : String := "r" ++ decimal r.index

theorem toNat_toByte (r : Register) : r.toByte.toNat = r.index := by
  have h := r.index.isLt
  simp only [toByte, UInt8.toNat_ofNat']
  omega

@[simp] theorem ofByte_toByte (r : Register) : ofByte r.toByte = .ok r := by
  have h := r.index.isLt
  simp [ofByte, toNat_toByte, h]

theorem toByte_of_ofByte {b : UInt8} {r : Register} (h : ofByte b = .ok r) : r.toByte = b := by
  unfold ofByte at h
  split at h
  · obtain rfl := Except.ok.inj h
    simp [toByte]
  · cases h

theorem toNat_lt_of_ofByte {b : UInt8} {r : Register} (h : ofByte b = .ok r) : b.toNat < 8 := by
  rw [← toByte_of_ofByte h, toNat_toByte]
  exact r.index.isLt

theorem ofByte_eq_error_iff {b : UInt8} {e : InvalidRegister} :
    ofByte b = .error e ↔ 8 ≤ b.toNat ∧ e = ⟨b⟩ := by
  unfold ofByte
  split <;> simp <;> grind

end Register

/-- The contents of all registers. -/
structure Registers where
  /-- The general registers. -/
  general : Vector UInt8 8
  /-- The program counter: the address of the next instruction. -/
  pc : UInt8
  flags : Flags
deriving DecidableEq

namespace Registers

/-- All registers at zero. -/
def zero : Registers where
  general := Vector.replicate 8 0
  pc := 0
  flags := Flags.empty

/-- The value of a general register. -/
def get (rs : Registers) (r : Register) : UInt8 := rs.general[r.index]

/-- The registers after a value was put into a general one. -/
def set (rs : Registers) (r : Register) (value : UInt8) : Registers :=
  { rs with general := rs.general.set r.index value r.index.isLt }

theorem get_set (rs : Registers) (r s : Register) (value : UInt8) :
    (rs.set r value).get s = if r = s then value else rs.get s := by
  rcases r with ⟨⟨i, hi⟩⟩
  rcases s with ⟨⟨j, hj⟩⟩
  simp [get, set, Vector.getElem_set]

theorem set_set (rs : Registers) (r : Register) (x y : UInt8) :
    (rs.set r x).set r y = rs.set r y := by
  rw [set, set, set, Vector.set_set]

theorem set_get (rs : Registers) (r : Register) : rs.set r (rs.get r) = rs := by
  change { rs with general := rs.general.set r.index rs.general[(r.index : Nat)] _ } = rs
  rw [Vector.set_getElem_self]

@[simp] theorem pc_set (rs : Registers) (r : Register) (value : UInt8) :
    (rs.set r value).pc = rs.pc := rfl

@[simp] theorem flags_set (rs : Registers) (r : Register) (value : UInt8) :
    (rs.set r value).flags = rs.flags := rfl

/-- Every register with its value, in hexadecimal. -/
def text (rs : Registers) : String :=
  String.join (Register.all.map fun r => r.name ++ " = " ++ hexadecimal (rs.get r).toNat ++ " | ")
    ++ "pc = " ++ hexadecimal rs.pc.toNat ++ " | fl = " ++ rs.flags.text

/-- The registers as a record, values in decimal. -/
def record (rs : Registers) : String :=
  "Registers \x7b gp: ["
    ++ ", ".intercalate (Register.all.map fun r => decimal (rs.get r).toNat)
    ++ "], pc: " ++ decimal rs.pc.toNat ++ ", fl: " ++ rs.flags.text ++ " \x7d"

end Registers

end LS8
