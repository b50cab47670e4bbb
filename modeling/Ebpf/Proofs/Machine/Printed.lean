import Mathlib
import Ebpf.Proofs.Machine.Invariant
import Ebpf.Proofs.Statement.Reading
import Ebpf.Proofs.Text.Decimal

/-!
# The text of arithmetic says what it does

An arithmetic instruction is printed as an assignment, and the machine executes what is printed.
What a printed assignment says is written down on its own, of texts and integers and without any bit
vectors:

* `Operator` is an operator as it is printed, together with what it gives on integers, as wide as
  they come out; `Operator.ofCode?` is the operator of each code of arithmetic.
* `Denotes` is the value of a printed operand: a number stands for itself, a register for its
  content, and a masked register for the bits that content and mask have in common.

The machine is compared with that:

* `denotes_render_iff`: the text of an operand has no other value than the operand.
* `BinaryOp.toNat_evalAt_of_represents`: the machine computes what the operator gives, modulo
  `2 ^ w`.
* `Instruction.exists_represents`: the value of the printed operand represents what the machine
  takes as the second operand. For a shift it is the amount itself, although the text masks an
  immediate of 32 bits and the machine one of 64 bits.
* `Instruction.step_assigns_as_printed` puts these together.
-/

namespace Ebpf

/-! ## The meaning of a printed assignment -/

/-- The operator of an assignment. -/
structure Operator where
  /-- What is printed before the equals sign. -/
  symbol : String
  /-- What it gives on integers at a width, before the result is cut to as many bits. -/
  meaning : (w : Nat) → (d v : Int) → Int

/-- The operator of a code of arithmetic, if the machine executes it. The bits of a negative integer
are those of its two's complement. A shift uses its amount as it is; the right shift divides the
number that the low `w` bits of the first operand spell. -/
def Operator.ofCode? : Nat → Option Operator
  | 0x0 => some ⟨"+", fun _ d v => d + v⟩
  | 0x1 => some ⟨"-", fun _ d v => d - v⟩
  | 0x2 => some ⟨"*", fun _ d v => d * v⟩
  | 0x4 => some ⟨"|", fun _ d v => d.lor v⟩
  | 0x5 => some ⟨"&", fun _ d v => d.land v⟩
  | 0x6 => some ⟨"<<", fun _ d v => d * 2 ^ v.toNat⟩
  | 0x7 => some ⟨">>", fun w d v => d % 2 ^ w / 2 ^ v.toNat⟩
  | 0xa => some ⟨"^", fun _ d v => d.xor v⟩
  | 0xb => some ⟨"", fun _ _ v => v⟩
  | _ => none

/-- A code with an operator is that of an operation that the machine executes. -/
theorem Operator.exists_binaryOp_of_ofCode? {code : Nat} {o : Operator}
    (h : ofCode? code = some o) :
    ∃ op : BinaryOp, op.isExecuted = true ∧ code = (AluOp.binary op).code := by
  unfold ofCode? at h
  split at h
  · exact ⟨.add, rfl, rfl⟩
  · exact ⟨.sub, rfl, rfl⟩
  · exact ⟨.mul, rfl, rfl⟩
  · exact ⟨.or, rfl, rfl⟩
  · exact ⟨.and, rfl, rfl⟩
  · exact ⟨.lsh, rfl, rfl⟩
  · exact ⟨.rsh, rfl, rfl⟩
  · exact ⟨.xor, rfl, rfl⟩
  · exact ⟨.mov, rfl, rfl⟩
  · cases h

/-- The value of the text of an operand. -/
inductive Denotes (regs : RegisterFile) : String → Int → Prop where
  | number (k : Int) : Denotes regs (toString k) k
  | register (r : Register) : Denotes regs ("r" ++ toString r.val) (regs.get r).toInt
  | maskedRegister (r : Register) (mask : Nat) :
    Denotes regs ("(r" ++ toString r.val ++ " & " ++ toString mask ++ ")")
      ((regs.get r).toNat &&& mask : Nat)

/-! ## Operands and their texts -/

/-- The content of the register that a field names, if the machine has it. -/
def RegisterFile.content? (regs : RegisterFile) (r : BitVec 4) : Option Word :=
  if h : r.toNat < 11 then some (regs.get ⟨r.toNat, h⟩) else none

theorem RegisterFile.content?_of_lt (regs : RegisterFile) {r : BitVec 4} (h : r.toNat < 11) :
    regs.content? r = some (regs.get ⟨r.toNat, h⟩) := by
  rw [content?, dif_pos h]

theorem RegisterFile.exists_get_of_content? {regs : RegisterFile} {r : BitVec 4} {x : Word}
    (h : regs.content? r = some x) : ∃ s : Register, s.val = r.toNat ∧ regs.get s = x := by
  unfold content? at h
  split at h
  · exact ⟨_, rfl, Option.some.inj h⟩
  · cases h

/-- The value of an operand. -/
def Operand.value? (regs : RegisterFile) : Operand → Option Int
  | .number k => some k
  | .register r => (regs.content? r).map BitVec.toInt
  | .maskedRegister r mask => (regs.content? r).map fun x => ((x.toNat &&& mask : Nat) : Int)

/-- The field that names a register. -/
def Register.field (r : Register) : BitVec 4 := BitVec.ofNat 4 r.val

theorem Register.toNat_field (r : Register) : r.field.toNat = r.val := by
  rw [field, BitVec.toNat_ofNat]
  exact Nat.mod_eq_of_lt (Nat.lt_trans r.isLt (by decide))

theorem Operand.render_number (k : Int) : (number k).render = toString k :=
  Text.integer_eq k

theorem Operand.render_register (r : BitVec 4) : (register r).render = "r" ++ toString r.toNat :=
  rfl

theorem Operand.render_maskedRegister (r : BitVec 4) (mask : Nat) :
    (maskedRegister r mask).render =
      "(r" ++ toString r.toNat ++ " & " ++ toString mask ++ ")" := by
  rw [render, fieldRegister, registerName, Text.natural_eq, Text.natural_eq, ← String.append_assoc]
  rfl

theorem RegisterFile.content?_field (regs : RegisterFile) (r : Register) :
    regs.content? r.field = some (regs.get r) := by
  rw [regs.content?_of_lt (r.toNat_field ▸ r.isLt)]
  exact congrArg (fun s => some (regs.get s)) (Fin.ext r.toNat_field)

/-- No two operands have the same text. -/
theorem Operand.render_injective : Function.Injective Operand.render := by
  intro o o' h
  have hends : Reader.Ends [] := by simp [Reader.Ends]
  have hread := Reader.run_operand o hends
  rw [h, Reader.run_operand o' hends] at hread
  exact (Prod.mk.inj (Option.some.inj hread)).1.symm

/-- A text has a value if it is that of an operand with this value. -/
theorem Denotes.exists_operand {regs : RegisterFile} {text : String} {v : Int}
    (h : Denotes regs text v) : ∃ o : Operand, o.render = text ∧ o.value? regs = some v := by
  cases h with
  | number => exact ⟨.number v, Operand.render_number v, rfl⟩
  | register r =>
    refine ⟨.register r.field, ?_, ?_⟩
    · rw [Operand.render_register, r.toNat_field]
    · rw [Operand.value?, regs.content?_field, Option.map_some]
  | maskedRegister r mask =>
    refine ⟨.maskedRegister r.field mask, ?_, ?_⟩
    · rw [Operand.render_maskedRegister, r.toNat_field]
    · rw [Operand.value?, regs.content?_field, Option.map_some]

/-- **The text of an operand has the value of the operand, and no other.** -/
theorem denotes_render_iff {regs : RegisterFile} {o : Operand} {v : Int} :
    Denotes regs o.render v ↔ o.value? regs = some v := by
  constructor
  · intro h
    obtain ⟨o', hrender, hvalue⟩ := h.exists_operand
    rwa [← Operand.render_injective hrender]
  · intro h
    cases o with
    | number k =>
      obtain rfl : k = v := Option.some.inj h
      rw [Operand.render_number]
      exact .number k
    | register r =>
      obtain ⟨x, hx, rfl⟩ := Option.map_eq_some_iff.1 h
      obtain ⟨s, hs, rfl⟩ := RegisterFile.exists_get_of_content? hx
      rw [Operand.render_register, ← hs]
      exact .register s
    | maskedRegister r mask =>
      obtain ⟨x, hx, rfl⟩ := Option.map_eq_some_iff.1 h
      obtain ⟨s, hs, rfl⟩ := RegisterFile.exists_get_of_content? hx
      rw [Operand.render_maskedRegister, ← hs]
      exact .maskedRegister s mask

/-! ## Integers as bits -/

/-- The bits of an integer that is cut to `w` bits are its low ones. -/
theorem getLsbD_ofInt_eq (w : Nat) (x : Int) (k : Nat) :
    (BitVec.ofInt w x).getLsbD k = (decide (k < w) && x.testBit k) := by
  cases x with
  | ofNat n => simp [Int.testBit, BitVec.getLsbD_ofNat]
  | negSucc n =>
    rw [BitVec.ofInt_negSucc_eq_not_ofNat, BitVec.getLsbD_not, BitVec.getLsbD_ofNat]
    by_cases hk : k < w
    · simp [hk, Int.testBit]
    · simp [hk]

theorem ofInt_lor (w : Nat) (x y : Int) :
    BitVec.ofInt w (x.lor y) = BitVec.ofInt w x ||| BitVec.ofInt w y := by
  refine BitVec.eq_of_getLsbD_eq fun k hk => ?_
  simp only [BitVec.getLsbD_or, getLsbD_ofInt_eq, Int.testBit_lor, hk, decide_true, Bool.true_and]

theorem ofInt_land (w : Nat) (x y : Int) :
    BitVec.ofInt w (x.land y) = BitVec.ofInt w x &&& BitVec.ofInt w y := by
  refine BitVec.eq_of_getLsbD_eq fun k hk => ?_
  simp only [BitVec.getLsbD_and, getLsbD_ofInt_eq, Int.testBit_land, hk, decide_true, Bool.true_and]

theorem ofInt_xor (w : Nat) (x y : Int) :
    BitVec.ofInt w (x.xor y) = BitVec.ofInt w x ^^^ BitVec.ofInt w y := by
  refine BitVec.eq_of_getLsbD_eq fun k hk => ?_
  simp only [BitVec.getLsbD_xor, getLsbD_ofInt_eq, Int.testBit_lxor, hk, decide_true, Bool.true_and]

theorem ofInt_sub (w : Nat) (x y : Int) :
    BitVec.ofInt w (x - y) = BitVec.ofInt w x - BitVec.ofInt w y := by
  rw [Int.sub_eq_add_neg, BitVec.ofInt_add, BitVec.ofInt_neg, BitVec.sub_eq_add_neg]

theorem ofInt_two_pow (w n : Nat) : BitVec.ofInt w (2 ^ n) = BitVec.twoPow w n := by
  apply BitVec.eq_of_toNat_eq
  rw [BitVec.toNat_twoPow]
  norm_cast

theorem toNat_ofInt_eq (w : Nat) (x : Int) : ((BitVec.ofInt w x).toNat : Int) = x % 2 ^ w := by
  rw [BitVec.toNat_ofInt]
  push_cast
  exact Int.toNat_of_nonneg (Int.emod_nonneg x (by positivity))

/-- A shift to the left multiplies. -/
theorem ofInt_mul_two_pow (w : Nat) (x : Int) (n : Nat) :
    BitVec.ofInt w (x * 2 ^ n) = BitVec.ofInt w x <<< n := by
  rw [BitVec.ofInt_mul, ofInt_two_pow, BitVec.shiftLeft_eq_mul_twoPow]

/-- A shift to the right divides the number that the bits spell. -/
theorem ofInt_div_two_pow (w : Nat) (x : Int) (n : Nat) :
    BitVec.ofInt w (x % 2 ^ w / 2 ^ n) = BitVec.ofInt w x >>> n := by
  have hquot : x % 2 ^ w / 2 ^ n = (((BitVec.ofInt w x).toNat / 2 ^ n : Nat) : Int) := by
    rw [← toNat_ofInt_eq]
    push_cast
    rfl
  have hlt : (BitVec.ofInt w x).toNat / 2 ^ n < 2 ^ w :=
    Nat.lt_of_le_of_lt (Nat.div_le_self _ _) (BitVec.isLt _)
  apply BitVec.eq_of_toNat_eq
  rw [hquot, BitVec.ofInt_natCast, BitVec.toNat_ofNat, Nat.mod_eq_of_lt hlt,
    BitVec.toNat_ushiftRight, Nat.shiftRight_eq_div_pow]

/-- Cutting bits off is cutting the integer that they stand for. -/
theorem setWidth_eq_ofInt {n w : Nat} (h : n ≤ w) (x : BitVec w) :
    x.setWidth n = BitVec.ofInt n x.toInt :=
  (BitVec.signExtend_eq_setWidth_of_le x h).symm

/-- Bits that are extended with the sign and cut again stand for the same integer. -/
theorem setWidth_signExtend_eq {n w v : Nat} (h : n ≤ v) (x : BitVec w) :
    (x.signExtend v).setWidth n = BitVec.ofInt n x.toInt := by
  apply BitVec.eq_of_toNat_eq
  have hdvd : (2 ^ n : Int) ∣ 2 ^ v := pow_dvd_pow 2 h
  zify
  rw [BitVec.toNat_setWidth, BitVec.signExtend, toNat_ofInt_eq]
  push_cast
  rw [toNat_ofInt_eq, Int.emod_emod_of_dvd _ hdvd]

/-! ## The machine computes the meaning modulo a power of two -/

theorem Width.bits_le (width : Width) : width.bits ≤ 64 := by
  cases width <;> decide

/-- The width of a word divides the number of its values. -/
theorem Width.bits_dvd (width : Width) : width.bits ∣ 2 ^ width.bits := by
  cases width <;> decide

namespace BinaryOp

variable {op : BinaryOp} {o : Operator}

/-- An operation is printed with the operator of its code. -/
theorem symbol_eq (ho : Operator.ofCode? (AluOp.binary op).code = some o) :
    op.symbol = o.symbol := by
  cases op <;> cases ho <;> rfl

theorem isShift_of_symbol : op.symbol = "<<" ∨ op.symbol = ">>" → op.isShift = true := by
  cases op <;> decide

/-- An operation other than a shift, on integers that are cut to `w` bits. -/
theorem eval_ofInt (ho : Operator.ofCode? (AluOp.binary op).code = some o)
    (hshift : op.isShift = false) (w : Nat) (d v : Int) :
    op.eval (BitVec.ofInt w d) (BitVec.ofInt w v) = BitVec.ofInt w (o.meaning w d v) := by
  cases op with
  | add => cases ho; exact (BitVec.ofInt_add d v).symm
  | sub => cases ho; exact (ofInt_sub w d v).symm
  | mul => cases ho; exact (BitVec.ofInt_mul d v).symm
  | or => cases ho; exact (ofInt_lor w d v).symm
  | and => cases ho; exact (ofInt_land w d v).symm
  | xor => cases ho; exact (ofInt_xor w d v).symm
  | mov => cases ho; rfl
  | lsh | rsh => cases hshift
  | div | mod | arsh => cases ho

/-- A shift of an integer that is cut to `w` bits, by what the machine makes of the amount. -/
theorem eval_ofInt_shift (ho : Operator.ofCode? (AluOp.binary op).code = some o)
    (hshift : op.isShift = true) (w : Nat) (d : Int) (s : BitVec w) :
    op.eval (BitVec.ofInt w d) s = BitVec.ofInt w (o.meaning w d (s.toNat % w : Nat)) := by
  cases op with
  | lsh => cases ho; exact (ofInt_mul_two_pow w d _).symm
  | rsh => cases ho; exact (ofInt_div_two_pow w d _).symm
  | add | sub | mul | or | and | xor | mov => cases hshift
  | div | mod | arsh => cases ho

/-- The integer `v` stands for the second operand `s`: for a shift it is the amount, and for any
other operation it has the same low bits. -/
def Represents (op : BinaryOp) (width : Width) (s : Word) (v : Int) : Prop :=
  if op.isShift then v = (s.toNat % width.bits : Nat)
  else BitVec.ofInt width.bits v = s.setWidth width.bits

/-- The integer that stands for a shift amount is below the width. -/
theorem bounds_of_represents (hshift : op.isShift = true) {width : Width} {s : Word} {v : Int}
    (h : op.Represents width s v) : 0 ≤ v ∧ v < width.bits := by
  rw [Represents, if_pos hshift] at h
  have hbits : 0 < width.bits := by cases width <;> decide
  rw [h]
  exact ⟨Int.natCast_nonneg _, by exact_mod_cast Nat.mod_lt s.toNat hbits⟩

/-- The result at a width is that of the low bits; nothing stands above them. -/
theorem toNat_evalAt (op : BinaryOp) (width : Width) (d s : Word) :
    (op.evalAt width d s).toNat =
      (op.eval (d.setWidth width.bits) (s.setWidth width.bits)).toNat := by
  cases width with
  | w64 => simp [evalAt, Width.bits]
  | w32 =>
    rw [evalAt, BitVec.toNat_setWidth]
    exact Nat.mod_eq_of_lt (Nat.lt_trans (BitVec.isLt _) (by decide))

/-- A result has no more bits than its width, so an operation on 32 bits clears the high half. -/
theorem evalAt_lt (op : BinaryOp) (width : Width) (d s : Word) :
    (op.evalAt width d s).toNat < 2 ^ width.bits := by
  rw [toNat_evalAt]
  exact BitVec.isLt _

/-- **The machine computes what the printed operator gives, modulo `2 ^ w`.** -/
theorem toNat_evalAt_of_represents (ho : Operator.ofCode? (AluOp.binary op).code = some o)
    {width : Width} {s : Word} {v : Int} (h : op.Represents width s v) (d : Word) :
    ((op.evalAt width d s).toNat : Int) =
      o.meaning width.bits d.toInt v % 2 ^ width.bits := by
  rw [toNat_evalAt, ← toNat_ofInt_eq, setWidth_eq_ofInt width.bits_le d]
  by_cases hshift : op.isShift = true
  · rw [Represents, if_pos hshift] at h
    have hamount : (s.setWidth width.bits).toNat % width.bits = s.toNat % width.bits := by
      rw [BitVec.toNat_setWidth, Nat.mod_mod_of_dvd _ width.bits_dvd]
    rw [eval_ofInt_shift ho hshift, hamount, h]
  · rw [Represents, if_neg hshift] at h
    rw [← h, eval_ofInt ho (Bool.eq_false_iff.2 hshift)]

end BinaryOp

/-! ## The printed operand -/

namespace Instruction

/-- The second operand as it is printed. -/
def printedOperand (i : Instruction) (width : Width) (source : Source) (op : BinaryOp) : Operand :=
  if op.isShift then i.shiftAmount width source else i.operand source

/-- An operand from the immediate field is printed as a number. -/
theorem render_printedOperand_imm (i : Instruction) (width : Width) (op : BinaryOp) :
    ∃ k : Int, (i.printedOperand width .imm op).render = toString k := by
  unfold printedOperand
  cases op.isShift <;> exact ⟨_, Operand.render_number _⟩

/-- An operand from a register is printed as the register, perhaps under a mask. -/
theorem render_printedOperand_reg (i : Instruction) (width : Width) (op : BinaryOp) :
    (i.printedOperand width .reg op).render = "r" ++ toString i.src.toNat ∨
      ∃ mask : Nat, (i.printedOperand width .reg op).render =
        "(r" ++ toString i.src.toNat ++ " & " ++ toString mask ++ ")" := by
  unfold printedOperand
  cases op.isShift with
  | false => exact Or.inl (Operand.render_register i.src)
  | true => exact Or.inr ⟨_, Operand.render_maskedRegister i.src _⟩

/-- What the machine executes is printed as an assignment. -/
theorem disassemble_of_isExecuted {i : Instruction} {width : Width} {source : Source}
    {op : BinaryOp} (hcode : i.opcode = .arithmetic width source (some (.binary op)))
    (hop : op.isExecuted = true) :
    i.disassemble = .ok (Statement.assign i.dst op (i.printedOperand width source op)).render := by
  have hdiv : ¬ (op = .div ∧ i.src = 0) := by
    rintro ⟨rfl, -⟩
    cases hop
  have hmod : ¬ (op = .mod ∧ i.src = 0) := by
    rintro ⟨rfl, -⟩
    cases hop
  have hstmt : i.binaryStatement width source op =
      .assign i.dst op (i.printedOperand width source op) := by
    rw [binaryStatement, if_neg hdiv, if_neg hmod, printedOperand]
    split <;> rfl
  simp only [disassemble, statement, hcode, arithmeticStatement, hstmt, Except.map]

/-- An immediate that is extended with its sign keeps its low bits, and no shift amount needs more
of them. -/
theorem toNat_signExtend_imm_mod (i : Instruction) (width : Width) :
    (i.imm.signExtend 64).toNat % width.bits = i.imm.toNat % width.bits := by
  have hlow : (i.imm.signExtend 64).toNat % 2 ^ 32 = i.imm.toNat := by
    have h := setWidth_signExtend_eq (n := 32) (v := 64) (by decide) i.imm
    rw [BitVec.ofInt_toInt] at h
    rw [← BitVec.toNat_setWidth, h]
  have hdvd : width.bits ∣ 2 ^ 32 := by cases width <;> decide
  rw [← hlow, Nat.mod_mod_of_dvd _ hdvd]

/-- A register and the mask of a width have in common what a shift takes of the register. -/
theorem and_mask_eq_mod (width : Width) (n : Nat) : n &&& (width.bits - 1) = n % width.bits := by
  cases width with
  | w32 => exact Nat.and_two_pow_sub_one_eq_mod n 5
  | w64 => exact Nat.and_two_pow_sub_one_eq_mod n 6

/-- **The printed operand represents what the machine takes.** -/
theorem exists_represents (i : Instruction) (width : Width) (source : Source) (op : BinaryOp)
    (hsrc : source = .reg → i.src.toNat < 11) (regs : RegisterFile) :
    ∃ s v, i.sourceValue source regs = .ok s ∧
      (i.printedOperand width source op).value? regs = some v ∧ op.Represents width s v := by
  cases source with
  | imm =>
    refine ⟨i.imm.signExtend 64, ?_⟩
    by_cases hshift : op.isShift = true
    · refine ⟨(i.imm.toNat % width.bits : Nat), rfl, ?_, ?_⟩
      · simp only [printedOperand, hshift, if_true, shiftAmount, Operand.value?]
      · rw [BinaryOp.Represents, if_pos hshift, toNat_signExtend_imm_mod]
    · refine ⟨i.imm.toInt, rfl, ?_, ?_⟩
      · rw [printedOperand, if_neg hshift, operand, Operand.value?]
      · rw [BinaryOp.Represents, if_neg hshift, setWidth_signExtend_eq width.bits_le]
  | reg =>
    have hlt := hsrc rfl
    have hvalue := i.sourceValue_reg_of_lt hlt regs
    refine ⟨regs.get ⟨i.src.toNat, hlt⟩, ?_⟩
    by_cases hshift : op.isShift = true
    · refine ⟨((regs.get ⟨i.src.toNat, hlt⟩).toNat % width.bits : Nat), hvalue, ?_, ?_⟩
      · rw [printedOperand, if_pos hshift, shiftAmount, Operand.value?, regs.content?_of_lt hlt,
          Option.map_some, and_mask_eq_mod]
      · rw [BinaryOp.Represents, if_pos hshift]
    · refine ⟨(regs.get ⟨i.src.toNat, hlt⟩).toInt, hvalue, ?_, ?_⟩
      · rw [printedOperand, if_neg hshift, operand, Operand.value?, regs.content?_of_lt hlt,
          Option.map_some]
      · rw [BinaryOp.Represents, if_neg hshift, setWidth_eq_ofInt width.bits_le]

/-! ## One step -/

/-- What the machine executes, with register fields that name registers, replaces one register. -/
theorem execute_eq_set {i : Instruction} {width : Width} {source : Source} {op : BinaryOp}
    (hcode : i.opcode = .arithmetic width source (some (.binary op))) (hop : op.isExecuted = true)
    {d : Register} (hdst : i.dst.toNat = d.val) {regs : RegisterFile} {s : Word}
    (hs : i.sourceValue source regs = .ok s) :
    i.execute regs = .ok (regs.set d (op.evalAt width (regs.get d) s)) := by
  have hreg : registerOfField i.dst = .ok d := by
    rw [registerOfField_of_lt (hdst ▸ d.isLt)]
    exact congrArg Except.ok (Fin.ext hdst)
  simp only [execute, hcode, hop, if_true, executeBinary, hreg, hs]
  rfl

/-- What a code with an operator stands for in a class of arithmetic. -/
theorem exists_opcode_of_ofCode? {i : Instruction} {w : Nat} {o : Operator}
    (hclass : i.opcodeByte.toNat % 8 = 4 ∧ w = 32 ∨ i.opcodeByte.toNat % 8 = 7 ∧ w = 64)
    (ho : Operator.ofCode? (i.opcodeByte.toNat / 16) = some o) :
    ∃ (width : Width) (op : BinaryOp), width.bits = w ∧ op.isExecuted = true ∧
      Operator.ofCode? (AluOp.binary op).code = some o ∧
      i.opcode = .arithmetic width (Source.ofOpcode i.opcodeByte) (some (.binary op)) := by
  have hwidth : ∃ width : Width, width.bits = w ∧
      OpClass.ofOpcode i.opcodeByte = Opcode.arithmeticClass width := by
    obtain ⟨hclass, rfl⟩ | ⟨hclass, rfl⟩ := hclass
    · exact ⟨.w32, rfl, OpClass.ofOpcode_eq_iff.2 hclass⟩
    · exact ⟨.w64, rfl, OpClass.ofOpcode_eq_iff.2 hclass⟩
  obtain ⟨width, hbits, hclass⟩ := hwidth
  obtain ⟨op, hop, hcode⟩ := Operator.exists_binaryOp_of_ofCode? ho
  rw [hcode] at ho
  exact ⟨width, op, hbits, hop, ho, Opcode.ofByte_eq_arithmetic_iff.2
    ⟨hclass, rfl, AluOp.ofOpcode?_eq_some_iff.2 hcode⟩⟩

/-- **The text of arithmetic says what a step does.** Take an instruction of a class of arithmetic,
with a code that the machine executes and with register fields that name registers. It is printed as
an assignment to its destination: the operator of the code, and behind it a number, the source
register or the source register under a mask. A step on it succeeds, whatever the registers hold. It
puts into the destination what the operator gives on the old content and the one value of the
printed operand, modulo `2 ^ 64` or `2 ^ 32`; a printed shift amount is used as it is. The other
registers keep their contents. -/
theorem step_assigns_as_printed {i : Instruction} {w : Nat} {o : Operator} {d : Register}
    (hclass : i.opcodeByte.toNat % 8 = 4 ∧ w = 32 ∨ i.opcodeByte.toNat % 8 = 7 ∧ w = 64)
    (ho : Operator.ofCode? (i.opcodeByte.toNat / 16) = some o) (hdst : i.dst.toNat = d.val)
    (hsrc : i.opcodeByte.toNat / 8 % 2 = 1 → i.src.toNat ≤ 10) :
    ∃ operand : String,
      i.disassemble = .ok ("r" ++ toString d.val ++ " " ++ o.symbol ++ "= " ++ operand) ∧
      (i.opcodeByte.toNat / 8 % 2 = 0 ∧ (∃ k : Int, operand = toString k) ∨
        i.opcodeByte.toNat / 8 % 2 = 1 ∧ (operand = "r" ++ toString i.src.toNat ∨
          ∃ mask : Nat,
            operand = "(r" ++ toString i.src.toNat ++ " & " ++ toString mask ++ ")")) ∧
      ∀ m : Machine, m.next = .ok i →
        ∃ (v : Int) (m' : Machine),
          (∀ x, Denotes m.registers operand x ↔ x = v) ∧
          (o.symbol = "<<" ∨ o.symbol = ">>" → 0 ≤ v ∧ v < w) ∧
          m.step = (.ok (), m') ∧
          ((m'.registers.get d).toNat : Int) =
            o.meaning w (m.registers.get d).toInt v % 2 ^ w ∧
          ∀ r, r ≠ d → m'.registers.get r = m.registers.get r := by
  obtain ⟨width, op, rfl, hop, ho, hcode⟩ := exists_opcode_of_ofCode? hclass ho
  have hreg : Source.ofOpcode i.opcodeByte = .reg → i.src.toNat < 11 := fun h =>
    Nat.lt_succ_of_le (hsrc (Source.ofOpcode_eq_iff.1 h))
  refine ⟨(i.printedOperand width (Source.ofOpcode i.opcodeByte) op).render, ?_, ?_, ?_⟩
  · rw [disassemble_of_isExecuted hcode hop, Statement.render, fieldRegister, hdst,
      BinaryOp.symbol_eq ho]
    rfl
  · cases hsource : Source.ofOpcode i.opcodeByte with
    | imm =>
      exact Or.inl ⟨Source.ofOpcode_eq_iff.1 hsource, i.render_printedOperand_imm width op⟩
    | reg =>
      exact Or.inr ⟨Source.ofOpcode_eq_iff.1 hsource, i.render_printedOperand_reg width op⟩
  · intro m hnext
    obtain ⟨s, v, hs, hv, hrep⟩ := i.exists_represents width _ op hreg m.registers
    refine ⟨v, _, ?_, ?_, Machine.step_of_execute hnext (execute_eq_set hcode hop hdst hs), ?_, ?_⟩
    · intro x
      rw [denotes_render_iff, hv, Option.some_inj, eq_comm]
    · rw [← BinaryOp.symbol_eq ho]
      intro hshift
      exact BinaryOp.bounds_of_represents (BinaryOp.isShift_of_symbol hshift) hrep
    · rw [Machine.advance, RegisterFile.get_set_self]
      exact BinaryOp.toNat_evalAt_of_represents ho hrep (m.registers.get d)
    · intro r hr
      exact RegisterFile.get_set_of_ne m.registers hr _

/-- A 32-bit shift of a register by itself. Of its content only the low half is shifted, and of the
amount 33 the printed mask leaves 1. -/
theorem step_shifts_register_by_itself :
    ∃ (i : Instruction) (m m' : Machine),
      m.registers.get 1 = 0xffffffff00000021 ∧ m.next = .ok i ∧
      i.disassemble = .ok "r1 <<= (r1 & 31)" ∧
      (∀ x, Denotes m.registers "(r1 & 31)" x ↔ x = 1) ∧
      m.step = (.ok (), m') ∧
      ((m'.registers.get 1).toNat : Int) = (m.registers.get 1).toInt * 2 ^ 1 % 2 ^ 32 ∧
      (m'.registers.get 1).toNat = 0x42 := by
  let i : Instruction := .narrow 0x6c11000000000000 (by decide)
  let m : Machine := (Machine.ofProgram (.ofInstructions [i])).setRegister 1 0xffffffff00000021
  have hcode : i.opcodeByte.toNat = 0x6c := by decide
  have ho : Operator.ofCode? (i.opcodeByte.toNat / 16) =
      some ⟨"<<", fun _ d v => d * 2 ^ v.toNat⟩ := by
    rw [hcode]
    rfl
  obtain ⟨operand, htext, -, hstep⟩ := step_assigns_as_printed (d := 1)
    (Or.inl ⟨by rw [hcode], rfl⟩) ho (by decide) (by decide)
  obtain ⟨v, m', hvalue, -, hm', hget, -⟩ := hstep m rfl
  have hprinted : i.disassemble = .ok "r1 <<= (r1 & 31)" := by decide +kernel
  obtain rfl : operand = "(r1 & 31)" := by
    have h : "r1 <<= " ++ operand = "r1 <<= " ++ "(r1 & 31)" :=
      Except.ok.inj (htext.symm.trans hprinted)
    exact (String.append_right_inj _).1 h
  have hcontent : m.registers.get 1 = 0xffffffff00000021 := rfl
  obtain rfl : 1 = v := by
    have h := @Denotes.maskedRegister m.registers 1 31
    rw [hcontent] at h
    exact (hvalue 1).1 h
  have hshifted : (m.step.2.registers.get 1).toNat = 0x42 := by decide +kernel
  rw [hm'] at hshifted
  exact ⟨i, m, m', hcontent, rfl, hprinted, hvalue, hm', hget, hshifted⟩

end Instruction
end Ebpf
