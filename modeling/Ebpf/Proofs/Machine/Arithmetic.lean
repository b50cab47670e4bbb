import Mathlib
import Ebpf.Proofs.Machine.Printed

/-!
# Arithmetic is exact modulo a power of two

A step on arithmetic computes on `w` bits, 64 or 32 of them. What comes out is said here in plain
numbers: both operands are taken modulo `2 ^ w`, and so is the result.

* `BinaryOp.exact` is the result of each operation on numbers below `2 ^ w`.
* `BinaryOp.toNat_eval`: the machine computes that result, with no bit out of place.
* `Width.read` is how a result is read as the content of a register, and `BinaryOp.toInt_evalAt`
  that this is what the register holds.
* `Instruction.secondOperand?` is the second operand as an integer, and
  `Instruction.exists_sourceValue` that the machine takes it modulo `2 ^ w`.
* `Machine.step_computes_exactly` puts these together.
-/

namespace Ebpf

/-! ## Exact results -/

/-- An integer modulo `2 ^ w`. -/
def residue (w : Nat) (x : Int) : Nat := (x % 2 ^ w).toNat

/-- The result of an operation on two numbers below `2 ^ w`. -/
def BinaryOp.exact (op : BinaryOp) (w : Nat) (d s : Nat) : Nat :=
  match op with
  | .add => (d + s) % 2 ^ w
  | .sub => residue w ((d : Int) - s)
  | .mul => d * s % 2 ^ w
  | .or => d ||| s
  | .and => d &&& s
  | .xor => d ^^^ s
  | .lsh => d * 2 ^ (s % w) % 2 ^ w
  | .rsh => d / 2 ^ (s % w)
  | .mov => s
  | .div | .mod | .arsh => d

/-- How a result is read: on 64 bits as a signed number in two's complement, on 32 bits as it is. -/
def Width.read (width : Width) (v : Nat) : Int :=
  match width with
  | .w64 => if v < 2 ^ 63 then v else v - 2 ^ 64
  | .w32 => v

/-- Cutting an integer to `w` bits is taking it modulo `2 ^ w`. -/
theorem toNat_ofInt_eq_residue (w : Nat) (x : Int) : (BitVec.ofInt w x).toNat = residue w x := by
  rw [residue, ← toNat_ofInt_eq, Int.toNat_natCast]

/-- The low bits of a content are the content modulo `2 ^ w`. -/
theorem toNat_setWidth_eq_residue (width : Width) (x : Word) :
    (x.setWidth width.bits).toNat = residue width.bits x.toInt := by
  rw [setWidth_eq_ofInt width.bits_le, toNat_ofInt_eq_residue]

namespace BinaryOp

/-- The difference of two words is that of their numbers, wrapped around. -/
theorem toNat_sub_eq_residue {w : Nat} (d s : BitVec w) :
    (d - s).toNat = residue w ((d.toNat : Int) - s.toNat) := by
  rw [← toNat_ofInt_eq_residue, ofInt_sub, BitVec.ofInt_natCast, BitVec.ofInt_natCast,
    BitVec.ofNat_toNat, BitVec.ofNat_toNat, BitVec.setWidth_eq, BitVec.setWidth_eq]

/-- **The machine computes the exact result.** -/
theorem toNat_eval {w : Nat} (op : BinaryOp) (d s : BitVec w) :
    (op.eval d s).toNat = op.exact w d.toNat s.toNat := by
  cases op with
  | add => exact BitVec.toNat_add d s
  | sub => exact toNat_sub_eq_residue d s
  | mul => exact BitVec.toNat_mul d s
  | or => exact BitVec.toNat_or d s
  | and => exact BitVec.toNat_and d s
  | xor => exact BitVec.toNat_xor d s
  | lsh => rw [eval, exact, BitVec.toNat_shiftLeft, Nat.shiftLeft_eq]
  | rsh => rw [eval, exact, BitVec.toNat_ushiftRight, Nat.shiftRight_eq_div_pow]
  | mov => rfl
  | div | mod | arsh => rfl

/-- A register that has been written holds the exact result, read at the width of the operation. -/
theorem toInt_evalAt (op : BinaryOp) (width : Width) (d s : Word) :
    (op.evalAt width d s).toInt = width.read
      (op.exact width.bits (d.setWidth width.bits).toNat (s.setWidth width.bits).toNat) := by
  have hlt := op.evalAt_lt width d s
  rw [← toNat_eval, ← toNat_evalAt, BitVec.toInt_eq_toNat_cond]
  cases width with
  | w64 =>
    simp only [Width.read]
    split <;> split <;> omega
  | w32 =>
    simp only [Width.bits] at hlt
    exact if_pos (by omega)

end BinaryOp

/-! ## The second operand -/

namespace Instruction

/-- The second operand as an integer: the immediate with its sign, or what the source register
holds. -/
def secondOperand? (i : Instruction) (source : Source) (regs : RegisterFile) : Option Int :=
  match source with
  | .imm => some i.imm.toInt
  | .reg => (regs.content? i.src).map BitVec.toInt

/-- The machine takes the second operand modulo `2 ^ w`. -/
theorem exists_sourceValue (i : Instruction) (source : Source)
    (hsrc : source = .reg → i.src.toNat ≤ 10) (regs : RegisterFile) :
    ∃ (x : Word) (s : Int), i.sourceValue source regs = .ok x ∧
      i.secondOperand? source regs = some s ∧
      ∀ width : Width, (x.setWidth width.bits).toNat = residue width.bits s := by
  cases source with
  | imm =>
    refine ⟨i.imm.signExtend 64, i.imm.toInt, rfl, rfl, fun width => ?_⟩
    rw [setWidth_signExtend_eq width.bits_le, toNat_ofInt_eq_residue]
  | reg =>
    have hlt : i.src.toNat < 11 := Nat.lt_succ_of_le (hsrc rfl)
    refine ⟨regs.get ⟨i.src.toNat, hlt⟩, _, i.sourceValue_reg_of_lt hlt regs, ?_,
      fun width => toNat_setWidth_eq_residue width _⟩
    rw [secondOperand?, regs.content?_of_lt hlt, Option.map_some]

end Instruction

/-! ## One step -/

namespace Machine

/-- **Arithmetic is exact.** Take any machine whose next instruction is arithmetic that is executed,
with register fields that name registers, and let `w` be its width. Both operands, what the
destination holds and the immediate or what the source holds, are taken modulo `2 ^ w`. Then a step
succeeds. It leaves in the destination the exact result of the operation, which is below `2 ^ w`,
read as a signed number if there are 64 bits; all other registers keep their contents. -/
theorem step_computes_exactly {m : Machine} {i : Instruction} (hnext : m.next = .ok i)
    {width : Width} {source : Source} {op : BinaryOp}
    (hcode : i.opcode = .arithmetic width source (some (.binary op))) (hop : op ∈ executedOps)
    {d : Register} (hdst : i.dst.toNat = d.val) (hsrc : source = .reg → i.src.toNat ≤ 10) :
    ∃ (s : Int) (v : Nat) (m' : Machine),
      i.secondOperand? source m.registers = some s ∧
      v = op.exact width.bits (residue width.bits (m.registers.get d).toInt)
        (residue width.bits s) ∧
      v < 2 ^ width.bits ∧
      m.step = (.ok (), m') ∧
      (m'.registers.get d).toInt = width.read v ∧
      ∀ r, r ≠ d → m'.registers.get r = m.registers.get r := by
  obtain ⟨x, s, hx, hs, hlow⟩ := i.exists_sourceValue source hsrc m.registers
  have hstep := step_of_execute hnext
    (Instruction.execute_eq_set hcode (op.isExecuted_iff.2 hop) hdst hx)
  refine ⟨s, _, _, hs, rfl, ?_, hstep, ?_, ?_⟩
  · rw [← toNat_setWidth_eq_residue, ← hlow width, ← BinaryOp.toNat_eval]
    exact BitVec.isLt _
  · rw [advance, RegisterFile.get_set_self, BinaryOp.toInt_evalAt, toNat_setWidth_eq_residue,
      hlow width]
  · intro r hr
    exact RegisterFile.get_set_of_ne m.registers hr _

/-- Minus five subtracted from the greatest number on 64 bits wraps around to a negative one. -/
theorem step_wraps_around :
    ∃ m m' : Machine, (m.registers.get 2).toInt = 2 ^ 63 - 1 ∧
      m.next = .ok (.narrow 0x17020000fbffffff (by decide)) ∧ m.step = (.ok (), m') ∧
      (m'.registers.get 2).toInt = -2 ^ 63 + 4 ∧ m'.registers.get 3 = m.registers.get 3 := by
  let p : Program := .ofInstructions [.narrow 0x17020000fbffffff (by decide)]
  let m : Machine := (ofProgram p).setRegister 2 0x7fffffffffffffff
  have hcode : (Instruction.narrow 0x17020000fbffffff (by decide)).opcode =
      .arithmetic .w64 .imm (some (.binary .sub)) := rfl
  have hmax : (m.registers.get 2).toInt = 2 ^ 63 - 1 := by decide
  obtain ⟨s, v, m', hs, hv, -, hstep, hd, hother⟩ := step_computes_exactly (m := m) rfl hcode
    (by decide) (show _ = (2 : Register).val from rfl) (by decide)
  obtain rfl : -5 = s := Option.some.inj hs
  rw [hv, hmax] at hd
  exact ⟨m, m', hmax, rfl, hstep, hd, hother 3 (by decide)⟩

end Machine
end Ebpf
