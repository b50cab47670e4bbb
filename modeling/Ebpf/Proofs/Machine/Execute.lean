import Mathlib
import Ebpf.Machine
import Ebpf.Proofs.OpcodeLayout

/-!
# Which instructions can be executed

What an instruction does to the registers is decided by its opcode; whether it can be executed at
all is decided by its register fields alone, whatever the registers hold.

* `Instruction.IsExecuted`: arithmetic with one of the nine operations that the machine carries out.
* `Instruction.IsFaulty`: such arithmetic with a register field that it needs and that names no
  register.
* `Instruction.execute_of_isFaulty`: a faulty instruction fails and reports the destination field,
  or the source field if the destination is a register.
* `Instruction.exists_execute_of_not_isFaulty`: any other instruction is executed.
* `Instruction.execute_of_not_isExecuted`: what is not executed leaves the registers alone.
* `Instruction.execute_cases` says once what an instruction that succeeds can do to the registers.
-/

namespace Ebpf

/-! ## Opcodes -/

/-- The operations that the machine carries out. -/
def executedOps : List BinaryOp := [.add, .sub, .mul, .or, .and, .lsh, .rsh, .xor, .mov]

theorem BinaryOp.isExecuted_iff (op : BinaryOp) : op.isExecuted = true ↔ op ∈ executedOps := by
  cases op <;> decide

/-- Arithmetic is on 32 or on 64 bits. -/
theorem OpClass.eq_arithmeticClass_iff {c : OpClass} :
    (∃ width, c = Opcode.arithmeticClass width) ↔ c = .alu ∨ c = .alu64 := by
  constructor
  · rintro ⟨width, rfl⟩
    cases width with
    | w32 => exact Or.inl rfl
    | w64 => exact Or.inr rfl
  · rintro (rfl | rfl)
    · exact ⟨.w32, rfl⟩
    · exact ⟨.w64, rfl⟩

namespace Instruction

/-- The instruction is arithmetic with an operation that the machine carries out. -/
def IsExecuted (i : Instruction) : Prop :=
  (i.opClass = .alu ∨ i.opClass = .alu64) ∧
    ∃ op ∈ executedOps, AluOp.ofOpcode? i.opcodeByte = some (.binary op)

/-- The instruction is arithmetic that the machine carries out, and a register field that it needs
names no register. -/
def IsFaulty (i : Instruction) : Prop :=
  i.IsExecuted ∧
    (11 ≤ i.dst.toNat ∨ Source.ofOpcode i.opcodeByte = .reg ∧ 11 ≤ i.src.toNat)

instance (i : Instruction) : Decidable i.IsExecuted :=
  inferInstanceAs (Decidable (_ ∧ _))

instance (i : Instruction) : Decidable i.IsFaulty :=
  inferInstanceAs (Decidable (_ ∧ _))

/-- The number that a faulty instruction is refused for. -/
def faultyField (i : Instruction) : Nat :=
  if 11 ≤ i.dst.toNat then i.dst.toNat else i.src.toNat

theorem isExecuted_iff {i : Instruction} :
    i.IsExecuted ↔ ∃ width op, op.isExecuted = true ∧
      i.opcode = .arithmetic width (Source.ofOpcode i.opcodeByte) (some (.binary op)) := by
  constructor
  · rintro ⟨hclass, op, hop, hcode⟩
    obtain ⟨width, hwidth⟩ := OpClass.eq_arithmeticClass_iff.2 hclass
    exact ⟨width, op, op.isExecuted_iff.2 hop,
      Opcode.ofByte_eq_arithmetic_iff.2 ⟨hwidth, rfl, hcode⟩⟩
  · rintro ⟨width, op, hop, hcode⟩
    obtain ⟨hwidth, -, hcode⟩ := Opcode.ofByte_eq_arithmetic_iff.1 hcode
    exact ⟨OpClass.eq_arithmeticClass_iff.1 ⟨width, hwidth⟩, op, op.isExecuted_iff.1 hop, hcode⟩

end Instruction

/-! ## Register fields -/

theorem registerOfField_of_lt {field : BitVec 4} (h : field.toNat < 11) :
    registerOfField field = .ok ⟨field.toNat, h⟩ := by
  simp [registerOfField, Register.ofNat, h, Except.mapError]

theorem registerOfField_of_le {field : BitVec 4} (h : 11 ≤ field.toNat) :
    registerOfField field = .error (.noSuchRegister field.toNat) := by
  simp [registerOfField, Register.ofNat, Nat.not_lt.2 h, Except.mapError]

theorem toNat_of_registerOfField {field : BitVec 4} {r : Register}
    (h : registerOfField field = .ok r) : field.toNat = r.val := by
  by_cases hlt : field.toNat < 11
  · rw [registerOfField_of_lt hlt] at h
    cases h
    rfl
  · rw [registerOfField_of_le (Nat.not_lt.1 hlt)] at h
    cases h

namespace Instruction

/-! ## Execution -/

theorem sourceValue_reg_of_lt (i : Instruction) (h : i.src.toNat < 11) (regs : RegisterFile) :
    i.sourceValue .reg regs = .ok (regs.get ⟨i.src.toNat, h⟩) := by
  rw [sourceValue, registerOfField_of_lt h]
  rfl

/-- What is not executed leaves the registers alone. -/
theorem execute_of_not_isExecuted {i : Instruction} (h : ¬ i.IsExecuted) (regs : RegisterFile) :
    i.execute regs = .ok regs := by
  unfold execute
  split
  · rename_i width source op hcode
    split
    · rename_i hop
      obtain ⟨-, rfl, -⟩ := Opcode.ofByte_eq_arithmetic_iff.1 hcode
      exact absurd (isExecuted_iff.2 ⟨width, op, hop, hcode⟩) h
    · rfl
  · rfl

/-- What is executed is an operation on two operands. -/
theorem exists_executeBinary {i : Instruction} (h : i.IsExecuted) :
    ∃ width op, op.isExecuted = true ∧ ∀ regs, i.execute regs =
      i.executeBinary width (Source.ofOpcode i.opcodeByte) op regs := by
  obtain ⟨width, op, hop, hcode⟩ := isExecuted_iff.1 h
  exact ⟨width, op, hop, fun regs => by simp only [execute, hcode, hop, if_true]⟩

/-- A faulty instruction fails, whatever the registers hold. The destination is checked first. -/
theorem execute_of_isFaulty {i : Instruction} (h : i.IsFaulty) (regs : RegisterFile) :
    i.execute regs = .error (.noSuchRegister i.faultyField) := by
  obtain ⟨hexec, hfields⟩ := h
  obtain ⟨width, op, -, hbinary⟩ := exists_executeBinary hexec
  rw [hbinary, executeBinary, faultyField]
  by_cases hdst : 11 ≤ i.dst.toNat
  · rw [registerOfField_of_le hdst, if_pos hdst]
    rfl
  · obtain ⟨hsource, hsrc⟩ := hfields.resolve_left hdst
    rw [registerOfField_of_lt (Nat.not_le.1 hdst), if_neg hdst, hsource, sourceValue,
      registerOfField_of_le hsrc]
    rfl

/-- An instruction that is not faulty is executed, whatever the registers hold. -/
theorem exists_execute_of_not_isFaulty {i : Instruction} (h : ¬ i.IsFaulty)
    (regs : RegisterFile) : ∃ regs', i.execute regs = .ok regs' := by
  by_cases hexec : i.IsExecuted
  · obtain ⟨width, op, -, hbinary⟩ := exists_executeBinary hexec
    have hdst : i.dst.toNat < 11 := Nat.not_le.1 fun hdst => h ⟨hexec, Or.inl hdst⟩
    rw [hbinary, executeBinary, registerOfField_of_lt hdst]
    cases hsource : Source.ofOpcode i.opcodeByte with
    | imm => exact ⟨_, rfl⟩
    | reg =>
      have hsrc : i.src.toNat < 11 := Nat.not_le.1 fun hsrc => h ⟨hexec, Or.inr ⟨hsource, hsrc⟩⟩
      rw [sourceValue, registerOfField_of_lt hsrc]
      exact ⟨_, rfl⟩
  · exact ⟨regs, execute_of_not_isExecuted hexec regs⟩

/-- **What an instruction does.** One that succeeds leaves the registers alone, or it is executed and
replaces the register that its destination field names. -/
theorem execute_cases {i : Instruction} {regs regs' : RegisterFile}
    (h : i.execute regs = .ok regs') :
    (¬ i.IsExecuted ∧ regs' = regs) ∨
    (∃ width op d s,
      i.opcode = .arithmetic width (Source.ofOpcode i.opcodeByte) (some (.binary op)) ∧
      op.isExecuted = true ∧ i.dst.toNat = d.val ∧
      i.sourceValue (Source.ofOpcode i.opcodeByte) regs = .ok s ∧
      regs' = regs.set d (op.evalAt width (regs.get d) s)) := by
  by_cases hexec : i.IsExecuted
  · obtain ⟨width, op, hop, hcode⟩ := isExecuted_iff.1 hexec
    simp only [execute, hcode, hop, if_true, executeBinary] at h
    cases hdst : registerOfField i.dst with
    | error e =>
      rw [hdst] at h
      cases h
    | ok d =>
      cases hs : i.sourceValue (Source.ofOpcode i.opcodeByte) regs with
      | error e =>
        rw [hdst, hs] at h
        cases h
      | ok s =>
        rw [hdst, hs] at h
        cases h
        exact Or.inr ⟨width, op, d, s, hcode, hop, toNat_of_registerOfField hdst, rfl, rfl⟩
  · rw [execute_of_not_isExecuted hexec] at h
    cases h
    exact Or.inl ⟨hexec, rfl⟩

end Instruction
end Ebpf
