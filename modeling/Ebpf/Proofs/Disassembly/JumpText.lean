import Mathlib
import Ebpf.Proofs.OpcodeLayout
import Ebpf.Proofs.Program.Blocks
import Ebpf.Proofs.Statement.Reading

/-!
# The text of a jump identifies it

Two jumps have the same text exactly if they do the same, with two exceptions: whether 32 or 64 bits
are compared is not shown, and a call with a minus sign may be a call of a helper or of a function
of the program.

* `Instruction.SameJump` says when two jumps look the same, and `Instruction.SameCall` when two
  calls do.
* `Instruction.JumpStatement` lists the jumps that have a text, each with its statement.
* `Instruction.jump_text_eq_iff`: the texts are equal exactly if the jumps look the same.
-/

namespace Ebpf
namespace Instruction

/-- A call of a helper, by its number or by its type information. -/
def CallsHelper (i : Instruction) : Prop := i.src = 0 ∨ i.src = 2

/-- A call of a function of the program. -/
def CallsLocal (i : Instruction) : Prop := i.src = 1

/-- A call of a helper that looks like a call of a function of the program: its number is the
distance of the other one and negative. -/
def LooksLocal (i j : Instruction) : Prop :=
  i.CallsHelper ∧ j.CallsLocal ∧ i.imm.toInt = j.offset.toInt ∧ i.imm.toInt < 0

/-- Calls that look the same. -/
def SameCall (i j : Instruction) : Prop :=
  i.CallsHelper ∧ j.CallsHelper ∧ i.imm = j.imm ∨
    i.CallsLocal ∧ j.CallsLocal ∧ i.offset = j.offset ∨ i.LooksLocal j ∨ j.LooksLocal i

/-- The same second operand: both are immediates, or both are registers. -/
def SameOperand (i j : Instruction) : Prop :=
  Source.ofOpcode i.opcodeByte = Source.ofOpcode j.opcodeByte ∧
    match Source.ofOpcode i.opcodeByte with
    | .imm => i.imm = j.imm
    | .reg => i.src = j.src

/-- Jumps that look the same: the operation is the same, and so are the fields that it uses. -/
def SameJump (i j : Instruction) : Prop :=
  JumpOp.ofOpcode? i.opcodeByte = JumpOp.ofOpcode? j.opcodeByte ∧
    match JumpOp.ofOpcode? i.opcodeByte with
    | some .always => i.offset = j.offset
    | some (.compare _) => i.dst = j.dst ∧ i.SameOperand j ∧ i.offset = j.offset
    | some .call => i.SameCall j
    | some .exit => True
    | none => False

/-! ## Statements of jumps -/

/-- The jumps that have a text, by operation, and their statements. -/
inductive JumpStatement (i : Instruction) : JumpOp → Statement → Prop
  | always : JumpStatement i .always (.goto i.offset.toInt)
  | compare {c : Comparison} :
    JumpStatement i (.compare c)
      (.branch i.dst c (i.operand (Source.ofOpcode i.opcodeByte)) i.offset.toInt)
  | callHelper (h : i.CallsHelper) : JumpStatement i .call (.callHelper i.imm.toInt)
  | callLocal (h : i.CallsLocal) : JumpStatement i .call (.callLocal i.offset.toInt)
  | exit : JumpStatement i .exit .exit

theorem jumpStatement_of_callStatement {i : Instruction} {s : Statement}
    (hs : i.callStatement = .ok s) : i.JumpStatement .call s := by
  unfold callStatement at hs
  split at hs
  · rename_i hsrc
    cases hs
    exact .callHelper (.inl (BitVec.eq_of_toNat_eq hsrc))
  · rename_i hsrc
    cases hs
    exact .callHelper (.inr (BitVec.eq_of_toNat_eq hsrc))
  · rename_i hsrc
    cases hs
    exact .callLocal (BitVec.eq_of_toNat_eq hsrc)
  · cases hs

theorem exists_jumpStatement {i : Instruction} {s : Statement} (hi : i.opClass.isJump)
    (hs : i.statement = .ok s) :
    ∃ op, JumpOp.ofOpcode? i.opcodeByte = some op ∧ i.JumpStatement op s := by
  obtain ⟨width, hwidth⟩ := Opcode.isJump_iff.1 hi
  have hop : i.opcode = .jump width _ _ := Opcode.ofByte_eq_jump_iff.2 ⟨hwidth, rfl, rfl⟩
  rw [statement, hop] at hs
  cases hcode : JumpOp.ofOpcode? i.opcodeByte with
  | none =>
    rw [hcode] at hs
    cases hs
  | some op =>
    rw [hcode] at hs
    refine ⟨op, rfl, ?_⟩
    cases op with
    | always => cases hs; exact .always
    | compare c => cases hs; exact .compare
    | call =>
      cases width with
      | w32 => cases hs
      | w64 => exact jumpStatement_of_callStatement hs
    | exit =>
      cases width with
      | w32 => cases hs
      | w64 => cases hs; exact .exit

end Instruction

/-- The operation of the jump that a statement shows. -/
def Statement.jumpOp? : Statement → Option JumpOp
  | .goto _ => some .always
  | .branch _ c _ _ => some (.compare c)
  | .callHelper _ | .callLocal _ => some .call
  | .exit => some .exit
  | _ => none

theorem Statement.jumpOp?_canonical (s : Statement) : s.canonical.jumpOp? = s.jumpOp? := by
  cases s with
  | callLocal distance =>
    by_cases hd : distance < 0
    · rw [canonical_callLocal_of_neg hd]
      rfl
    · rw [canonical_callLocal_of_not_neg hd]
  | _ => rfl

namespace Instruction

theorem JumpStatement.jumpOp?_eq {i : Instruction} {op : JumpOp} {s : Statement}
    (h : i.JumpStatement op s) : s.jumpOp? = some op := by
  cases h <;> rfl

/-! ## Jumps with one operation -/

theorem operand_eq_iff_sameOperand {i j : Instruction} :
    i.operand (Source.ofOpcode i.opcodeByte) = j.operand (Source.ofOpcode j.opcodeByte) ↔
      i.SameOperand j := by
  unfold SameOperand
  cases Source.ofOpcode i.opcodeByte <;> cases Source.ofOpcode j.opcodeByte <;>
    simp [operand, BitVec.toInt_inj]

/-- No call is of both kinds. -/
theorem CallsLocal.not_callsHelper {i : Instruction} (h : i.CallsLocal) : ¬ i.CallsHelper := by
  simp only [CallsLocal] at h
  simp [CallsHelper, h]

theorem CallsHelper.not_callsLocal {i : Instruction} (h : i.CallsHelper) : ¬ i.CallsLocal :=
  fun hlocal => hlocal.not_callsHelper h

/-- A call of a helper and one of a function of the program are read as the same call exactly if the
number and the distance are the same and negative. -/
theorem canonical_callHelper_eq_iff {id distance : Int} :
    (Statement.callHelper id).canonical = (Statement.callLocal distance).canonical ↔
      id = distance ∧ id < 0 := by
  by_cases hd : distance < 0
  · rw [Statement.canonical_callLocal_of_neg hd]
    simp only [Statement.canonical, Statement.callHelper.injEq]
    omega
  · rw [Statement.canonical_callLocal_of_not_neg hd]
    simp only [Statement.canonical, reduceCtorEq, false_iff]
    omega

theorem canonical_callLocal_eq_iff {distance distance' : Int} :
    (Statement.callLocal distance).canonical = (Statement.callLocal distance').canonical ↔
      distance = distance' := by
  constructor
  · intro h
    simp only [Statement.canonical] at h
    split_ifs at h <;> cases h <;> rfl
  · rintro rfl
    rfl

/-- Calls are read as the same call exactly if they look the same. -/
theorem JumpStatement.call_canonical_eq_iff {i j : Instruction} {s t : Statement}
    (hs : i.JumpStatement .call s) (ht : j.JumpStatement .call t) :
    s.canonical = t.canonical ↔ i.SameCall j := by
  unfold SameCall LooksLocal
  cases hs with
  | callHelper hi =>
    cases ht with
    | callHelper hj =>
      simp [hi, hj, hi.not_callsLocal, hj.not_callsLocal, Statement.canonical, BitVec.toInt_inj]
    | callLocal hj =>
      rw [canonical_callHelper_eq_iff]
      simp [hi, hj, hi.not_callsLocal, hj.not_callsHelper]
  | callLocal hi =>
    cases ht with
    | callHelper hj =>
      rw [eq_comm, canonical_callHelper_eq_iff]
      simp [hi, hj, hi.not_callsHelper, hj.not_callsLocal]
    | callLocal hj =>
      rw [canonical_callLocal_eq_iff]
      simp [hi, hj, hi.not_callsHelper, hj.not_callsHelper, BitVec.toInt_inj]

/-- Jumps with one operation are read as the same statement exactly if they look the same. -/
theorem JumpStatement.canonical_eq_iff {i j : Instruction} {op : JumpOp} {s t : Statement}
    (hi : JumpOp.ofOpcode? i.opcodeByte = some op) (hj : JumpOp.ofOpcode? j.opcodeByte = some op)
    (hs : i.JumpStatement op s) (ht : j.JumpStatement op t) :
    s.canonical = t.canonical ↔ i.SameJump j := by
  simp only [SameJump, hi, hj, true_and]
  cases op with
  | always =>
    cases hs
    cases ht
    simp [Statement.canonical, BitVec.toInt_inj]
  | compare c =>
    cases hs
    cases ht
    simp [Statement.canonical, BitVec.toInt_inj, operand_eq_iff_sameOperand]
  | call => exact hs.call_canonical_eq_iff ht
  | exit =>
    cases hs
    cases ht
    simp

/-! ## Texts -/

/-- **The text of a jump identifies it**, but for the width of a comparison and for calls with a
minus sign. -/
theorem jump_text_eq_iff {i j : Instruction} {text text' : String} (hi : i.opClass.isJump)
    (hj : j.opClass.isJump) (htext : i.disassemble = .ok text)
    (htext' : j.disassemble = .ok text') : text = text' ↔ i.SameJump j := by
  obtain ⟨s, hs, rfl⟩ := disassemble_eq_ok_iff.1 htext
  obtain ⟨t, ht, rfl⟩ := disassemble_eq_ok_iff.1 htext'
  obtain ⟨op, hop, hjump⟩ := exists_jumpStatement hi hs
  obtain ⟨op', hop', hjump'⟩ := exists_jumpStatement hj ht
  rw [Statement.render_eq_iff]
  constructor
  · intro h
    -- the canonical statement may be another call, but it is still one with the same operation
    have hshown : s.jumpOp? = t.jumpOp? := by
      rw [← s.jumpOp?_canonical, h, t.jumpOp?_canonical]
    rw [hjump.jumpOp?_eq, hjump'.jumpOp?_eq] at hshown
    obtain rfl := Option.some.inj hshown
    exact (hjump.canonical_eq_iff hop hop' hjump').1 h
  · intro h
    obtain rfl : op = op' := Option.some.inj (hop.symm.trans (h.1.trans hop'))
    exact (hjump.canonical_eq_iff hop hop' hjump').2 h

/-- A call of helper -1 and a call of the function right here, one before the next instruction. -/
theorem jump_text_of_calls_back :
    let i := narrow 0x85000000ffffffff (by decide)
    let j := narrow 0x8510ffff00000000 (by decide)
    i.disassemble = .ok "call -1" ∧ j.disassemble = .ok "call -1" ∧ i.SameJump j := by
  intro i j
  have hi : i.disassemble = .ok "call -1" := by decide +kernel
  have hj : j.disassemble = .ok "call -1" := by decide +kernel
  exact ⟨hi, hj, (jump_text_eq_iff (by decide) (by decide) hi hj).1 rfl⟩

end Instruction
end Ebpf
