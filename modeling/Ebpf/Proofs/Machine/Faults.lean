import Mathlib
import Ebpf.Proofs.Machine.Invariant

/-!
# When a step fails

A step ends in one of three ways, and which one it is can be read off the slot at the program
counter, whatever the registers hold.

* `Instruction.RefusedFor i r`: the instruction is refused for the register number `r`. The
  destination field comes first, and the source field counts only if the source bit selects a
  register.
* `Instruction.IsSteppedOver`: jumps, loads, stores and the arithmetic that has no effect; by
  `Instruction.isSteppedOver_iff` this is everything that is not executed, so it is never refused.
* `Machine.Between.pc_eq_size_iff` and `Machine.Between.slot_eq_insn_iff`: what stands at the
  program counter says what is left to execute.
* `Machine.Reachable.step_fails_exactly`: a step fails at the end and at an instruction that is
  refused, and nowhere else, and a step that fails changes nothing but the state.
-/

namespace Ebpf
namespace Instruction

/-! ## Refused instructions -/

/-- The instruction is arithmetic that the machine carries out, and `r` is a number in its register
fields that names no register: the destination, or else the source if that is a register. -/
def RefusedFor (i : Instruction) (r : Nat) : Prop :=
  i.IsExecuted ∧
    (11 ≤ i.dst.toNat ∧ r = i.dst.toNat ∨
      i.dst.toNat ≤ 10 ∧ Source.ofOpcode i.opcodeByte = .reg ∧ 11 ≤ i.src.toNat ∧
        r = i.src.toNat)

instance (i : Instruction) (r : Nat) : Decidable (i.RefusedFor r) :=
  inferInstanceAs (Decidable (_ ∧ _))

/-- An instruction is refused if it is faulty, and for one number only. -/
theorem refusedFor_iff {i : Instruction} {r : Nat} :
    i.RefusedFor r ↔ i.IsFaulty ∧ r = i.faultyField := by
  unfold RefusedFor IsFaulty faultyField
  by_cases hdst : 11 ≤ i.dst.toNat
  · have hnot : ¬ i.dst.toNat ≤ 10 := by omega
    simp [hdst, hnot]
  · have hle : i.dst.toNat ≤ 10 := by omega
    simp [hdst, hle, and_assoc]

/-! ## Instructions without effect -/

/-- The arithmetic codes that the machine does not carry out; the first stands for the codes that
are not defined. -/
def unexecutedCodes : List (Option AluOp) :=
  [none, some .neg, some .swap, some (.binary .div), some (.binary .mod), some (.binary .arsh)]

/-- The instruction jumps, loads, stores, or has an arithmetic code that is not carried out. -/
def IsSteppedOver (i : Instruction) : Prop :=
  i.opClass.isJump = true ∨ i.opClass.isMemory = true ∨
    AluOp.ofOpcode? i.opcodeByte ∈ unexecutedCodes

instance (i : Instruction) : Decidable i.IsSteppedOver :=
  inferInstanceAs (Decidable (_ ∨ _))

/-- Every arithmetic code is carried out or not. -/
theorem mem_unexecutedCodes_iff (code : Option AluOp) :
    code ∈ unexecutedCodes ↔ ¬ ∃ op ∈ executedOps, code = some (.binary op) := by
  cases code with
  | none => simp [unexecutedCodes]
  | some code =>
    cases code with
    | neg | swap => simp [unexecutedCodes]
    | binary op => cases op <;> simp [unexecutedCodes, executedOps]

/-- What is stepped over is exactly what is not executed. -/
theorem isSteppedOver_iff {i : Instruction} : i.IsSteppedOver ↔ ¬ i.IsExecuted := by
  unfold IsSteppedOver IsExecuted
  rw [mem_unexecutedCodes_iff]
  cases i.opClass <;> simp [OpClass.isJump, OpClass.isMemory]

end Instruction

/-! ## What stands at the program counter -/

namespace Machine

namespace Between

variable {m : Machine} {done todo : List Instruction}

/-- The program counter is at the end when nothing is left. -/
theorem pc_eq_size_iff (h : m.Between done todo) : m.pc = m.program.size ↔ todo = [] := by
  rw [h.program_eq, h.pc_eq, Program.size_ofInstructions, slotTotal_append]
  constructor
  · intro hpc
    have hlen := length_le_slotTotal todo
    exact List.eq_nil_of_length_eq_zero (by omega)
  · rintro rfl
    rfl

/-- An instruction starts at the program counter when it is the first one left. -/
theorem slot_eq_insn_iff (h : m.Between done todo) {i : Instruction} :
    m.program.slots[m.pc]? = some (.insn i) ↔ ∃ rest, todo = i :: rest := by
  rw [h.program_eq, h.pc_eq]
  constructor
  · intro hslot
    cases todo with
    | nil =>
      rw [List.append_nil, Program.slots_at_end] at hslot
      cases hslot
    | cons j rest =>
      rw [Program.slots_at_slotTotal] at hslot
      cases hslot
      exact ⟨rest, rfl⟩
  · rintro ⟨rest, rfl⟩
    exact Program.slots_at_slotTotal done i rest

/-- A step comes to the end of the program exactly if nothing is left. -/
theorem step_eq_endOfProgram_iff (h : m.Between done todo) :
    m.step.1 = .error .endOfProgram ↔ todo = [] := by
  obtain ⟨rfl, hs⟩ | ⟨i, rest, rfl, -, hs⟩ | ⟨i, rest, regs, rfl, -, -, hs⟩ := h.step_cases
  all_goals
    rw [hs]
    simp

/-- A step is refused for a number exactly if the first instruction left is. -/
theorem step_eq_noSuchRegister_iff (h : m.Between done todo) {r : Nat} :
    m.step.1 = .error (.noSuchRegister r) ↔ ∃ i rest, todo = i :: rest ∧ i.RefusedFor r := by
  obtain ⟨rfl, hs⟩ | ⟨i, rest, rfl, hi, hs⟩ | ⟨i, rest, regs, rfl, hi, -, hs⟩ := h.step_cases
  · rw [hs]
    simp
  · rw [hs]
    constructor
    · intro heq
      cases heq
      exact ⟨i, rest, rfl, Instruction.refusedFor_iff.2 ⟨hi, rfl⟩⟩
    · rintro ⟨j, rest', heq, hj⟩
      cases heq
      rw [(Instruction.refusedFor_iff.1 hj).2]
  · rw [hs]
    constructor
    · intro heq
      cases heq
    · rintro ⟨j, rest', heq, hj⟩
      cases heq
      exact absurd (Instruction.refusedFor_iff.1 hj).1 hi

/-- A step on an instruction that is not refused goes on behind it, and leaves the registers alone
if the instruction is not executed. -/
theorem step_of_not_refused {i : Instruction} (h : m.Between done (i :: todo))
    (hi : ∀ r, ¬ i.RefusedFor r) :
    ∃ regs, m.step = (.ok (), m.advance i regs) ∧ (¬ i.IsExecuted → regs = m.registers) := by
  have hfine : ¬ i.IsFaulty := fun hf => hi _ (Instruction.refusedFor_iff.2 ⟨hf, rfl⟩)
  obtain ⟨regs, hregs⟩ := i.exists_execute_of_not_isFaulty hfine m.registers
  refine ⟨regs, h.step_ok hregs, fun hnot => ?_⟩
  rw [Instruction.execute_of_not_isExecuted hnot] at hregs
  exact (Except.ok.inj hregs).symm

end Between

/-! ## One step -/

/-- **A step fails exactly when it must.** Take a machine that has been used in any way at all.

* A step comes to the end of the program exactly if the program counter is there, and then it
  changes nothing but the state, to halted.
* It is refused for a register number exactly if the instruction at the program counter is, and then
  it changes nothing.
* Otherwise there is an instruction at the program counter, and the step goes on behind it; the
  registers keep their contents unless the instruction is executed. No register field is looked at
  in what is stepped over, and of an executed instruction with an immediate only the destination
  is. -/
theorem Reachable.step_fails_exactly {m : Machine} (h : m.Reachable) :
    ((m.step.1 = .error .endOfProgram ↔ m.pc = m.program.size) ∧
      (m.pc = m.program.size → m.step.2 = { m with state := .halted })) ∧
    (∀ r, (m.step.1 = .error (.noSuchRegister r) ↔
        ∃ i, m.program.slots[m.pc]? = some (.insn i) ∧ i.RefusedFor r) ∧
      (m.step.1 = .error (.noSuchRegister r) → m.step.2 = m)) ∧
    (m.pc ≠ m.program.size → ∃ i, m.program.slots[m.pc]? = some (.insn i) ∧
      ((∀ r, ¬ i.RefusedFor r) → ∃ regs,
        m.step = (.ok (), { m with
          registers := regs
          pc := m.pc + i.slotCount
          steps := m.steps + 1
          state := .running }) ∧
        (¬ i.IsExecuted → regs = m.registers)) ∧
      (i.IsSteppedOver → m.step = (.ok (), { m with
          pc := m.pc + i.slotCount
          steps := m.steps + 1
          state := .running })) ∧
      (Source.ofOpcode i.opcodeByte = .imm → i.dst.toNat ≤ 10 → m.step.1 = .ok ())) := by
  obtain ⟨done, todo, hm⟩ := h.aligned
  refine ⟨⟨?_, ?_⟩, fun r => ⟨?_, ?_⟩, ?_⟩
  · rw [hm.step_eq_endOfProgram_iff, hm.pc_eq_size_iff]
  · intro hpc
    obtain rfl := hm.pc_eq_size_iff.1 hpc
    rw [hm.step_nil]
  · rw [hm.step_eq_noSuchRegister_iff]
    simp only [hm.slot_eq_insn_iff, exists_and_right]
  · intro hr
    obtain ⟨-, hs⟩ | ⟨i, rest, -, -, hs⟩ | ⟨i, rest, regs, -, -, -, hs⟩ := hm.step_cases
    · rw [hs] at hr
      cases hr
    · rw [hs]
    · rw [hs] at hr
      cases hr
  · intro hpc
    cases todo with
    | nil => exact absurd (hm.pc_eq_size_iff.2 rfl) hpc
    | cons i rest =>
      refine ⟨i, hm.slot_eq_insn_iff.2 ⟨rest, rfl⟩, hm.step_of_not_refused, ?_, ?_⟩
      · intro hover
        have hnot : ¬ i.IsExecuted := Instruction.isSteppedOver_iff.1 hover
        obtain ⟨regs, hs, hregs⟩ := hm.step_of_not_refused fun r hr => hnot hr.1
        rw [hs, hregs hnot]
        rfl
      · intro himm hdst
        have hfine : ∀ r, ¬ i.RefusedFor r := by
          rintro r ⟨-, ⟨hbig, -⟩ | ⟨-, hreg, -⟩⟩
          · omega
          · rw [himm] at hreg
            cases hreg
        obtain ⟨regs, hs, -⟩ := hm.step_of_not_refused hfine
        rw [hs]

/-- Arithmetic with an undefined code is stepped over, although neither of its fields names a
register. The move behind it is refused for its source. -/
theorem step_fails_at_missing_source :
    ∃ m : Machine, m.Reachable ∧ m.pc = 0 ∧ m.step.1 = .ok () ∧
      m.step.2.registers = m.registers ∧ m.step.2.pc = 1 ∧
      m.step.2.step = (.error (.noSuchRegister 11), m.step.2) := by
  have hm : Reachable (ofProgram (.ofInstructions [.narrow 0xe7ff000000000000 (by decide),
      .narrow 0xbfb1000000000000 (by decide)])) := .ofProgram (.ofInstructions _)
  have hafter := hm.apply .step
  obtain ⟨i, hslot, -, hover, -⟩ := hm.step_fails_exactly.2.2 (by decide)
  have hsame : some (.insn (.narrow 0xe7ff000000000000 (by decide))) = some (Slot.insn i) := hslot
  cases hsame
  have hfirst := hover (by decide)
  obtain ⟨hrefused, hkept⟩ := hafter.step_fails_exactly.2.1 11
  have hsecond := hrefused.2 ⟨.narrow 0xbfb1000000000000 (by decide), rfl, by decide⟩
  exact ⟨_, hm, rfl, congrArg Prod.fst hfirst, congrArg (fun x => x.2.registers) hfirst,
    congrArg (fun x => x.2.pc) hfirst, Prod.ext hsecond (hkept hsecond)⟩

end Machine
end Ebpf
