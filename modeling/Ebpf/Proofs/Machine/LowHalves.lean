import Mathlib
import Ebpf.Proofs.Machine.Printed
import Ebpf.Proofs.Machine.Run
import Ebpf.Proofs.Machine.SideBySide

/-!
# The low halves of the registers

The low 32 bits of the registers go their own way: what is in the high halves reaches them by one
operation only, the right shift on 64 bits. And an operation on 32 bits leaves nothing in a high
half.

* `RegisterFile.LowEq` compares registers modulo `2 ^ 32`.
* `BinaryOp.setWidth_evalAt_congr`: of every other operation, the low half of the result is decided
  by the low halves of the operands. So `Instruction.preserves_lowEq` holds of every instruction but
  that shift, and two runs side by side do the rest.
* `Instruction.Writes` says which register an instruction replaces, and
  `get_executeAll_of_last_write` that the last instruction to do so has the last word.
* `Machine.Between.executeAll_takeWhile`: a run leaves the registers that the instructions before
  the first faulty one leave.
* `Program.Loaded.run_low_halves` puts both together.
-/

namespace Ebpf

/-! ## Equal low halves -/

/-- The registers hold the same modulo `2 ^ 32`. -/
def RegisterFile.LowEq (a b : RegisterFile) : Prop :=
  ∀ r, (a.get r).toInt ≡ (b.get r).toInt [ZMOD 2 ^ 32]

/-- Words are congruent modulo a power of two if as many low bits are the same. -/
theorem toInt_modEq_iff_setWidth_eq {n : Nat} (hn : n ≤ 64) (x y : Word) :
    x.toInt ≡ y.toInt [ZMOD 2 ^ n] ↔ x.setWidth n = y.setWidth n := by
  rw [setWidth_eq_ofInt hn, setWidth_eq_ofInt hn, Int.ModEq, ← toNat_ofInt_eq, ← toNat_ofInt_eq]
  constructor
  · intro h
    exact BitVec.eq_of_toNat_eq (by exact_mod_cast h)
  · intro h
    rw [h]

theorem RegisterFile.lowEq_iff {a b : RegisterFile} :
    a.LowEq b ↔ ∀ r, (a.get r).setWidth 32 = (b.get r).setWidth 32 :=
  forall_congr' fun r => toInt_modEq_iff_setWidth_eq (by decide) (a.get r) (b.get r)

/-! ## Operations on low halves -/

namespace BinaryOp

/-- The low `n` bits of a result are decided by the low `n` bits of the operands. This needs room in
them for a shift amount, and the bits that a right shift brings down come from above. -/
theorem setWidth_eval_congr {w n : Nat} (hn : n ≤ w) (hw : w ∣ 2 ^ n) {op : BinaryOp}
    (hop : op ≠ .rsh) {d d' s s' : BitVec w} (hd : d.setWidth n = d'.setWidth n)
    (hs : s.setWidth n = s'.setWidth n) :
    (op.eval d s).setWidth n = (op.eval d' s').setWidth n := by
  cases op with
  | add => simp only [eval, BitVec.setWidth_add _ _ hn, hd, hs]
  | sub =>
    simp only [eval, BitVec.sub_eq_add_neg, BitVec.setWidth_add _ _ hn,
      BitVec.setWidth_neg_of_le hn, hd, hs]
  | mul => simp only [eval, BitVec.setWidth_mul _ _ hn, hd, hs]
  | or => simp only [eval, BitVec.setWidth_or, hd, hs]
  | and => simp only [eval, BitVec.setWidth_and, hd, hs]
  | xor => simp only [eval, BitVec.setWidth_xor, hd, hs]
  | lsh =>
    have hamount : s.toNat % w = s'.toNat % w := by
      have hlow := congrArg BitVec.toNat hs
      rw [BitVec.toNat_setWidth, BitVec.toNat_setWidth] at hlow
      rw [← Nat.mod_mod_of_dvd s.toNat hw, hlow, Nat.mod_mod_of_dvd _ hw]
    simp only [eval, BitVec.setWidth_shiftLeft_of_le hn, hd, hamount]
  | rsh => exact absurd rfl hop
  | mov => exact hs
  | div | mod | arsh => exact hd

/-- The low half of a result is decided by the low halves of the operands, unless it is a right
shift on 64 bits. -/
theorem setWidth_evalAt_congr {op : BinaryOp} {width : Width} (h : ¬ (width = .w64 ∧ op = .rsh))
    {d d' s s' : Word} (hd : d.setWidth 32 = d'.setWidth 32)
    (hs : s.setWidth 32 = s'.setWidth 32) :
    (op.evalAt width d s).setWidth 32 = (op.evalAt width d' s').setWidth 32 := by
  cases width with
  | w32 => rw [evalAt, evalAt, hd, hs]
  | w64 => exact setWidth_eval_congr (by decide) (by decide) (fun hop => h ⟨rfl, hop⟩) hd hs

/-- That shift brings bits down from the high half. -/
example : (rsh.evalAt .w64 0x100000000 32).setWidth 32 ≠ (rsh.evalAt .w64 0 32).setWidth 32 := by
  decide

end BinaryOp

namespace Instruction

/-- The instruction is a right shift on 64 bits. -/
def ShiftsRight64 (i : Instruction) : Prop :=
  i.opClass = .alu64 ∧ AluOp.ofOpcode? i.opcodeByte = some (.binary .rsh)

instance (i : Instruction) : Decidable i.ShiftsRight64 :=
  inferInstanceAs (Decidable (_ ∧ _))

/-- The second operand of instructions on registers with equal low halves has equal low halves. -/
theorem sourceValue_lowEq {i : Instruction} {source : Source} {a b : RegisterFile} {s t : Word}
    (hab : a.LowEq b) (hs : i.sourceValue source a = .ok s) (ht : i.sourceValue source b = .ok t) :
    s.setWidth 32 = t.setWidth 32 := by
  cases source with
  | imm =>
    cases hs
    cases ht
    rfl
  | reg =>
    simp only [sourceValue] at hs ht
    cases hreg : registerOfField i.src with
    | error e =>
      rw [hreg] at hs
      cases hs
    | ok r =>
      rw [hreg] at hs ht
      cases hs
      cases ht
      exact RegisterFile.lowEq_iff.1 hab r

/-- **Equal low halves stay equal**, whatever is executed, unless it is a right shift on 64 bits. -/
theorem preserves_lowEq {i : Instruction} (h : ¬ i.ShiftsRight64) :
    i.Preserves RegisterFile.LowEq := by
  intro a b a' b' hab ha hb
  obtain ⟨hexec, rfl⟩ | ⟨width, op, d, s, hcode, hop, hd, hs, rfl⟩ := execute_cases ha
  · obtain ⟨-, rfl⟩ | ⟨width, op, d, s, hcode, hop, -⟩ := execute_cases hb
    · exact hab
    · exact absurd (isExecuted_iff.2 ⟨width, op, hop, hcode⟩) hexec
  · obtain ⟨hexec, -⟩ | ⟨width', op', d', t, hcode', -, hd', ht, rfl⟩ := execute_cases hb
    · exact absurd (isExecuted_iff.2 ⟨width, op, hop, hcode⟩) hexec
    · -- both runs read the same operation and the same register off the instruction
      obtain ⟨rfl, rfl⟩ : width = width' ∧ op = op' := by
        rw [hcode] at hcode'
        simpa using hcode'
      obtain rfl : d = d' := Fin.ext (hd.symm.trans hd')
      have hshift : ¬ (width = .w64 ∧ op = .rsh) := by
        rintro ⟨rfl, rfl⟩
        obtain ⟨hclass, -, hop⟩ := Opcode.ofByte_eq_arithmetic_iff.1 hcode
        exact h ⟨hclass, hop⟩
      rw [RegisterFile.lowEq_iff] at hab ⊢
      intro r
      by_cases hr : r = d
      · subst hr
        rw [RegisterFile.get_set_self, RegisterFile.get_set_self]
        exact BinaryOp.setWidth_evalAt_congr hshift (hab r)
          (sourceValue_lowEq (RegisterFile.lowEq_iff.2 hab) hs ht)
      · rw [RegisterFile.get_set_of_ne _ hr, RegisterFile.get_set_of_ne _ hr]
        exact hab r

/-! ## Which register is written -/

/-- The instruction replaces a register. -/
def Writes (i : Instruction) (r : Register) : Prop := i.IsExecuted ∧ i.dst.toNat = r.val

instance (i : Instruction) (r : Register) : Decidable (i.Writes r) :=
  inferInstanceAs (Decidable (_ ∧ _))

/-- A register that is not written keeps its content. -/
theorem get_of_not_writes {i : Instruction} {r : Register} (h : ¬ i.Writes r)
    {regs regs' : RegisterFile} (hregs : i.execute regs = .ok regs') :
    regs'.get r = regs.get r := by
  obtain ⟨-, rfl⟩ | ⟨width, op, d, s, hcode, hop, hd, -, rfl⟩ := execute_cases hregs
  · rfl
  · refine RegisterFile.get_set_of_ne _ ?_ _
    rintro rfl
    exact h ⟨isExecuted_iff.2 ⟨width, op, hop, hcode⟩, hd⟩

/-- A register that is written by an operation on 32 bits holds no more than 32 bits. -/
theorem get_lt_of_writes {i : Instruction} {r : Register} (h : i.Writes r)
    (hclass : i.opClass = .alu) {regs regs' : RegisterFile} (hregs : i.execute regs = .ok regs') :
    (regs'.get r).toNat < 2 ^ 32 := by
  obtain ⟨hexec, hr⟩ := h
  obtain ⟨hnot, -⟩ | ⟨width, op, d, s, hcode, hop, hd, -, rfl⟩ := execute_cases hregs
  · exact absurd hexec hnot
  · obtain rfl : d = r := Fin.ext (hd.symm.trans hr)
    rw [RegisterFile.get_set_self]
    have hwidth : i.opClass = Opcode.arithmeticClass width :=
      (Opcode.ofByte_eq_arithmetic_iff.1 hcode).1
    cases width with
    | w32 => exact op.evalAt_lt .w32 _ _
    | w64 => cases hclass.symm.trans hwidth

end Instruction

/-! ## Many instructions -/

section Many

variable {is after : List Instruction} {i : Instruction} {r : Register}
  {regs regs' : RegisterFile}

theorem executeAll_append (is js : List Instruction) (regs : RegisterFile) :
    executeAll (is ++ js) regs = executeAll is regs >>= executeAll js :=
  List.foldlM_append

/-- A register that no instruction writes keeps its content. -/
theorem get_executeAll_of_not_writes (h : ∀ i ∈ is, ¬ i.Writes r)
    (hregs : executeAll is regs = .ok regs') : regs'.get r = regs.get r := by
  induction is generalizing regs with
  | nil =>
    cases hregs
    rfl
  | cons i is ih =>
    rw [executeAll_cons] at hregs
    obtain ⟨mid, hmid, hrest⟩ := bind_eq_ok_iff.1 hregs
    have hkept : mid.get r = regs.get r := Instruction.get_of_not_writes (h i (by simp)) hmid
    rw [ih (fun j hj => h j (by simp [hj])) hrest, hkept]

/-- The last instruction that writes a register decides what it holds: if that was an operation on
32 bits, it holds no more than 32 bits. -/
theorem get_executeAll_of_last_write (hwrite : i.Writes r) (hclass : i.opClass = .alu)
    (hlast : ∀ j ∈ after, ¬ j.Writes r)
    (hregs : executeAll (is ++ i :: after) regs = .ok regs') : (regs'.get r).toNat < 2 ^ 32 := by
  rw [executeAll_append] at hregs
  obtain ⟨before, -, hregs⟩ := bind_eq_ok_iff.1 hregs
  rw [executeAll_cons] at hregs
  obtain ⟨mid, hmid, hrest⟩ := bind_eq_ok_iff.1 hregs
  rw [get_executeAll_of_not_writes hlast hrest]
  exact Instruction.get_lt_of_writes hwrite hclass hmid

end Many

/-! ## Whole runs -/

namespace Machine

/-- A machine at the start of a program, with contents for its registers. -/
def start (p : Program) (regs : RegisterFile) : Machine := { ofProgram p with registers := regs }

/-- A run leaves the registers that the instructions before the first faulty one leave. -/
theorem Between.executeAll_takeWhile {m : Machine} {done todo : List Instruction}
    (h : m.Between done todo) :
    executeAll (todo.takeWhile fun i => ¬ i.IsFaulty) m.registers = .ok m.run.2.registers := by
  have hok : ∀ i ∈ todo.takeWhile fun i => ¬ i.IsFaulty, ¬ i.IsFaulty := by
    intro i hi
    simpa using List.mem_takeWhile_imp hi
  have hsplit := List.takeWhile_append_dropWhile (p := fun i : Instruction => ¬ i.IsFaulty)
    (l := todo)
  cases hrest : todo.dropWhile fun i => ¬ i.IsFaulty with
  | nil =>
    rw [hrest, List.append_nil] at hsplit
    rw [← hsplit] at h
    obtain ⟨regs, hregs, -, -, hrun, -⟩ := h.run_to_end hok
    rw [hregs, hrun]
    rfl
  | cons i rest =>
    have hi : i.IsFaulty := by
      have hhead := List.head?_dropWhile_not (fun i : Instruction => ¬ i.IsFaulty) todo
      rw [hrest] at hhead
      simpa using hhead
    rw [hrest] at hsplit
    rw [← hsplit] at h
    obtain ⟨regs, hregs, -, -, hrun, -⟩ := h.run_to_fault hok hi
    rw [hregs, hrun]
    rfl

end Machine

namespace Program

/-- The instructions that a run from the start executes: those before the first faulty one. -/
def executed (p : Program) : List Instruction :=
  (p.instructions.map Prod.snd).takeWhile fun i => ¬ i.IsFaulty

/-- **The low halves of the registers go their own way.** Take a program without a right shift on 64
bits, and registers that are congruent modulo `2 ^ 32`. Running the program from either of them to
its end or to the first fault gives the same result and leaves registers that are congruent again.

In any program, a register that was last written by an operation on 32 bits ends between zero and
`2 ^ 32`. -/
theorem Loaded.run_low_halves {p : Program} (loaded : p.Loaded) :
    ((∀ x ∈ p.instructions, ¬ x.2.ShiftsRight64) →
      ∀ a b : RegisterFile, a.LowEq b →
        (Machine.start p a).run.1 = (Machine.start p b).run.1 ∧
        (Machine.start p a).run.2.control = (Machine.start p b).run.2.control ∧
        (Machine.start p a).run.2.registers.LowEq (Machine.start p b).run.2.registers) ∧
    (∀ (a : RegisterFile) (r : Register) (before : List Instruction) (i : Instruction)
        (after : List Instruction),
      p.executed = before ++ i :: after → i.opClass = .alu → i.Writes r →
      (∀ j ∈ after, ¬ j.Writes r) →
        0 ≤ ((Machine.start p a).run.2.registers.get r).toInt ∧
        ((Machine.start p a).run.2.registers.get r).toInt < 2 ^ 32) := by
  constructor
  · intro hshift a b hab
    have halong : Machine.Alongside RegisterFile.LowEq (Machine.start p a) (Machine.start p b) :=
      ⟨rfl, hab⟩
    have hpres : ∀ i, .insn i ∈ p.slots → i.Preserves RegisterFile.LowEq := by
      intro i hi
      obtain ⟨k, hk⟩ := Array.mem_iff_getElem?.1 hi
      exact Instruction.preserves_lowEq (hshift (k, i) (mem_instructions_iff.2 hk))
    obtain ⟨hanswer, hafter⟩ := halong.run hpres
    exact ⟨hanswer, hafter.control_eq, hafter.registers⟩
  · intro a r before i after hsplit hclass hwrite hlast
    obtain ⟨is, rfl⟩ := loaded.exists_instructions
    have hstart : (Machine.start (.ofInstructions is) a).Between [] is :=
      Machine.between_attach { Machine.new with registers := a } is
    have hregs := hstart.executeAll_takeWhile
    rw [executed, instructions_ofInstructions, map_snd_numbered] at hsplit
    rw [hsplit] at hregs
    have hlt := get_executeAll_of_last_write hwrite hclass hlast hregs
    rw [BitVec.toInt_eq_toNat_of_lt (by omega)]
    exact ⟨Int.natCast_nonneg _, by exact_mod_cast hlt⟩

/-- A move on 32 bits, an addition and a left shift by a register on 64 bits, and a move to a
register that does not exist, on registers that differ in a high half. -/
theorem run_low_halves_up_to_missing_register :
    ∃ (p : Program) (a b : RegisterFile), p.Loaded ∧ a.LowEq b ∧
      a.get 2 = 5 ∧ b.get 2 = 0x8000000700000005 ∧
      (Machine.start p b).run.1 = .error (.noSuchRegister 11) ∧
      (Machine.start p a).run.1 = (Machine.start p b).run.1 ∧
      (Machine.start p a).run.2.registers.LowEq (Machine.start p b).run.2.registers ∧
      ((Machine.start p b).run.2.registers.get 1).toInt < 2 ^ 32 := by
  let p : Program := .ofInstructions [.narrow 0xb4010000ffffffff (by decide),
    .narrow 0x0f12000000000000 (by decide), .narrow 0x6f12000000000000 (by decide),
    .narrow 0xb70b000001000000 (by decide)]
  let a : RegisterFile := RegisterFile.zero.set 2 5
  let b : RegisterFile := RegisterFile.zero.set 2 0x8000000700000005
  have loaded : p.Loaded := .ofInstructions _
  have hab : a.LowEq b := RegisterFile.lowEq_iff.2 (by decide)
  have hshift : ∀ x ∈ p.instructions, ¬ x.2.ShiftsRight64 := by decide +kernel
  have hexec : p.executed = [] ++ .narrow 0xb4010000ffffffff (by decide) ::
      [.narrow 0x0f12000000000000 (by decide), .narrow 0x6f12000000000000 (by decide)] := by
    decide +kernel
  obtain ⟨hlow, hlast⟩ := loaded.run_low_halves
  obtain ⟨hanswer, -, hregs⟩ := hlow hshift a b hab
  obtain ⟨-, hlt⟩ := hlast b 1 _ _ _ hexec (by decide) (by decide) (by decide)
  exact ⟨p, a, b, loaded, hab, rfl, rfl, by decide +kernel, hanswer, hregs, hlt⟩

end Program
end Ebpf
