import Ebpf.Word

/-!
# Registers

The machine has eleven registers, `r0` to `r10`, each of them 64 bits wide. The register fields of
a word have room for sixteen numbers, so a number is turned into a `Register` by a check, and its
printed name is defined for every number.

* `RegisterFile.get_set_self` and `RegisterFile.get_set_of_ne` say what a write does.
-/

namespace Ebpf

/-- A register of the machine. -/
abbrev Register := Fin 11

/-- The printed name of a register number, whether or not the machine has the register. -/
def registerName (n : Nat) : String := "r" ++ Text.natural n

/-- A number that names no register. -/
structure UnknownRegister where
  /-- The number. -/
  number : Nat
  deriving DecidableEq, Repr

/-- What is reported for a number that names no register. -/
def UnknownRegister.message (e : UnknownRegister) : String :=
  "invalid register: " ++ Text.natural e.number

namespace Register

/-- The register with a number. -/
def ofNat (n : Nat) : Except UnknownRegister Register :=
  if h : n < 11 then .ok ⟨n, h⟩ else .error ⟨n⟩

/-- The name of a register. -/
def name (r : Register) : String := registerName r.val

/-- All registers in order. -/
def all : List Register := List.finRange 11

end Register

/-- The contents of all registers. -/
structure RegisterFile where
  /-- One cell for every register. -/
  cells : Vector Word 11
  deriving DecidableEq, Repr

namespace RegisterFile

/-- All registers zero. -/
def zero : RegisterFile := ⟨Vector.replicate 11 0⟩

/-- The content of a register. -/
def get (regs : RegisterFile) (r : Register) : Word := regs.cells[r]

/-- The registers with one content replaced. -/
def set (regs : RegisterFile) (r : Register) (value : Word) : RegisterFile :=
  ⟨regs.cells.set r value⟩

/-- The content that counts as the result of a program. -/
def returnValue (regs : RegisterFile) : Word := regs.get 0

@[simp] theorem get_zero (r : Register) : zero.get r = 0 := by
  simp [get, zero]

/-- A written register holds what was written. -/
@[simp] theorem get_set_self (regs : RegisterFile) (r : Register) (value : Word) :
    (regs.set r value).get r = value := by
  simp [get, set]

/-- The other registers keep their contents. -/
theorem get_set_of_ne (regs : RegisterFile) {r s : Register} (h : s ≠ r) (value : Word) :
    (regs.set r value).get s = regs.get s := by
  have : r.val ≠ s.val := fun e => h (Fin.ext e.symm)
  simp [get, set, this]

/-- Register files with the same contents are the same. -/
theorem ext_get {a b : RegisterFile} (h : ∀ r, a.get r = b.get r) : a = b := by
  obtain ⟨x⟩ := a
  obtain ⟨y⟩ := b
  have : x = y := Vector.ext fun i hi => h ⟨i, hi⟩
  rw [this]

/-- One line with every register in signed decimal. -/
def dump (regs : RegisterFile) : String :=
  "Regs:" ++ String.join (Register.all.map fun r =>
    " " ++ Register.name r ++ "=" ++ Text.integer (regs.get r).toInt)

/-- The field name of a register in the detailed view; the last one is the frame pointer. -/
def fieldName (r : Register) : String :=
  if r = 10 then Register.name r ++ " (fp)" else Register.name r

/-- The detailed view: every register as sixteen hexadecimal digits. -/
def details (regs : RegisterFile) : String :=
  "RegisterFile \x7b " ++ String.intercalate ", " (Register.all.map fun r =>
    fieldName r ++ ": 0x" ++ Word.hex (regs.get r)) ++ " \x7d"

end RegisterFile
end Ebpf
