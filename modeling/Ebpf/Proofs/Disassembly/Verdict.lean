import Mathlib
import Ebpf.Proofs.OpcodeLayout
import Ebpf.Proofs.Program.Blocks

/-!
# Which encodings have a text

Whether an instruction has a text, and if not, whether its encoding is a known gap or not defined,
is decided by its opcode byte, its source field and its immediate. The decision is written down here
as a table of numbers that knows nothing of operations, modes and sizes.

* `Verdict` is what comes of disassembling, without the text; `Verdict.of` is the verdict that is
  actually given.
* `Verdict.ofEncoding` is the table, with one row for each class: `Verdict.arithmetic`,
  `Verdict.jump64`, `Verdict.jump32` and `Verdict.memory` with `Verdict.atomic` below it.
* `Instruction.verdict_eq_ofEncoding`: the table is right for every instruction, and an instruction
  that is not defined is reported by its own word.
-/

namespace Ebpf

/-- What comes of disassembling an instruction. -/
inductive Verdict where
  /-- It has a text. -/
  | text
  /-- Its encoding is defined and has no text; a listing may go on. -/
  | gap (encoding : Unsupported)
  /-- Its encoding is not defined. -/
  | undefined
  deriving DecidableEq, Repr

namespace Verdict

/-- The verdict on a result. -/
def of {α : Type} : Except RenderFault α → Verdict
  | .ok _ => .text
  | .error (.unsupported encoding) => .gap encoding
  | .error (.undefined _ _) => .undefined

@[simp] theorem of_ok {α : Type} (x : α) : of (.ok x) = .text := rfl

@[simp] theorem of_invalid (i : Instruction) (e : Undefined) : of (i.invalid e) = .undefined := rfl

@[simp] theorem of_map {α β : Type} (f : α → β) (x : Except RenderFault α) :
    of (x.map f) = of x := by
  cases x with
  | ok x => rfl
  | error e => cases e <;> rfl

/-! ## The table -/

/-- Arithmetic, by the high four bits of the opcode. -/
def arithmetic (code : Nat) : Verdict :=
  if code ≤ 0xc then .text
  else if code = 0xd then .gap .byteSwap
  else .undefined

/-- A jump that compares 64 bits, by the high four bits of the opcode; a call (8) also by the source
field. -/
def jump64 (code src : Nat) : Verdict :=
  if code ≤ 0xd ∧ (code = 8 → src ≤ 2) then .text else .undefined

/-- A jump that compares 32 bits, by the high four bits of the opcode; there are no calls (8) and
exits (9) among them. -/
def jump32 (code : Nat) : Verdict :=
  if code ≤ 0xd ∧ code ≠ 8 ∧ code ≠ 9 then .text else .undefined

/-- An atomic update; the lowest bit of the immediate asks for the old value too. -/
def update (imm : BitVec 32) (u : AtomicUpdate) : Verdict :=
  if imm.getLsbD 0 then .gap (.atomicFetch u) else .text

/-- An atomic operation, by the class, the size bits (0 is a word and 3 a double word) and the
immediate, the lowest bit of which is not part of the operation. -/
def atomic (kind size : Nat) (imm : BitVec 32) : Verdict :=
  if kind = 3 ∧ (size = 0 ∨ size = 3) then
    match (imm &&& ~~~1#32).toNat with
    | 0x00 => update imm .add
    | 0x40 => update imm .or
    | 0x50 => update imm .and
    | 0xa0 => update imm .xor
    | 0xe0 => .gap .atomicExchange
    | 0xf0 => .gap .atomicCompareExchange
    | _ => .undefined
  else .undefined

/-- A load or store of class `kind` (0 to 3), by the high three bits of the opcode. -/
def memory (kind mode size src : Nat) (imm : BitVec 32) : Verdict :=
  match mode with
  | 0 => if src ≤ 6 then .text else .undefined
  | 1 => .gap .absolutePacketAccess
  | 2 => .gap .indirectPacketAccess
  | 3 => if kind = 0 then .undefined else .text
  | 4 => if kind = 1 then .text else .undefined
  | 6 => atomic kind size imm
  | _ => .undefined

/-- The verdict on an encoding, by the opcode byte, the source field and the immediate. -/
def ofEncoding (opcode src : Nat) (imm : BitVec 32) : Verdict :=
  match opcode % 8 with
  | 4 | 7 => arithmetic (opcode / 16)
  | 5 => jump64 (opcode / 16) src
  | 6 => jump32 (opcode / 16)
  | kind => memory kind (opcode / 32) (opcode / 8 % 4) src imm

end Verdict

namespace Instruction

variable (i : Instruction)

/-! ## Arithmetic and jumps -/

theorem verdict_arithmeticStatement (width : Width) (source : Source) (b : Byte) :
    Verdict.of (i.arithmeticStatement width source (AluOp.ofOpcode? b)) =
      .arithmetic (b.toNat / 16) := by
  cases hop : AluOp.ofOpcode? b with
  | none =>
    have hfree := AluOp.ofOpcode?_eq_none_iff.1 hop
    rw [Verdict.arithmetic, if_neg (by omega), if_neg (by omega)]
    rfl
  | some op =>
    rw [AluOp.ofOpcode?_eq_some_iff.1 hop]
    cases op with
    | binary op => cases op <;> rfl
    | neg | swap => rfl

theorem verdict_callStatement :
    Verdict.of i.callStatement = if i.src.toNat ≤ 2 then .text else .undefined := by
  have hlt : i.src.toNat < 16 := i.src.isLt
  unfold callStatement
  generalize i.src.toNat = kind at *
  interval_cases kind <;> rfl

theorem verdict_jumpStatement64 (source : Source) (b : Byte) :
    Verdict.of (i.jumpStatement .w64 source (JumpOp.ofOpcode? b)) =
      .jump64 (b.toNat / 16) i.src.toNat := by
  cases hop : JumpOp.ofOpcode? b with
  | none =>
    have hfree := JumpOp.ofOpcode?_eq_none_iff.1 hop
    rw [Verdict.jump64, if_neg (by omega)]
    rfl
  | some op =>
    rw [JumpOp.ofOpcode?_eq_some_iff.1 hop]
    cases op with
    | always | exit => rfl
    | call => simp [jumpStatement, JumpOp.code, Verdict.jump64, verdict_callStatement]
    | compare c => cases c <;> rfl

theorem verdict_jumpStatement32 (source : Source) (b : Byte) :
    Verdict.of (i.jumpStatement .w32 source (JumpOp.ofOpcode? b)) = .jump32 (b.toNat / 16) := by
  cases hop : JumpOp.ofOpcode? b with
  | none =>
    have hfree := JumpOp.ofOpcode?_eq_none_iff.1 hop
    rw [Verdict.jump32, if_neg (by omega)]
    rfl
  | some op =>
    rw [JumpOp.ofOpcode?_eq_some_iff.1 hop]
    cases op with
    | always | call | exit => rfl
    | compare c => cases c <;> rfl

/-! ## Loads and stores -/

theorem verdict_wideStatement {kind : MemClass} {size : MemSize}
    (h : i.opcode = .memory kind (some .imm) size) :
    Verdict.of i.wideStatement = if i.src.toNat ≤ 6 then .text else .undefined := by
  obtain ⟨high, hhigh⟩ := exists_highImm?_of_imm h
  have hlt : i.src.toNat < 16 := i.src.isLt
  simp only [wideStatement, hhigh, wideKind?]
  generalize i.src.toNat = source at *
  interval_cases source <;> rfl

/-- Clearing the lowest bit of a number rounds it down to an even one. -/
theorem toNat_and_not_one (imm : BitVec 32) : (imm &&& ~~~1#32).toNat = imm.toNat / 2 * 2 := by
  have hshift : imm &&& ~~~1#32 = imm >>> 1 <<< 1 := by
    ext k hk
    rw [BitVec.getElem_and, BitVec.getElem_not, BitVec.getElem_one, BitVec.getElem_shiftLeft]
    cases k with
    | zero => simp
    | succ k => simp [Nat.add_comm 1 k, BitVec.getLsbD_eq_getElem hk]
  have hlt := imm.isLt
  rw [hshift, BitVec.toNat_shiftLeft, BitVec.toNat_ushiftRight, Nat.shiftLeft_eq,
    Nat.shiftRight_eq_div_pow]
  omega

theorem fetches_eq_getLsbD (imm : BitVec 32) : AtomicOp.fetches imm = imm.getLsbD 0 := by
  rw [AtomicOp.fetches, BitVec.getLsbD, Nat.testBit_zero]

/-- The class and the sizes that an atomic operation may have. -/
theorem atomic_allowed_iff (kind : MemClass) (size : MemSize) :
    kind.opClass.code = 3 ∧ (size.code = 0 ∨ size.code = 3) ↔
      kind = .stx ∧ ¬ (size = .byte ∨ size = .half) := by
  cases kind <;> cases size <;> simp [MemClass.opClass, OpClass.code, MemSize.code]

/-- Of an allowed class and size, an atomic operation goes by its immediate. -/
theorem verdict_atomicStatement_of_allowed {size : MemSize} (h : ¬ (size = .byte ∨ size = .half)) :
    Verdict.of (i.atomicStatement .stx size) = .atomic OpClass.stx.code size.code i.imm := by
  have hallowed : OpClass.stx.code = 3 ∧ (size.code = 0 ∨ size.code = 3) :=
    (atomic_allowed_iff .stx size).2 ⟨rfl, h⟩
  rw [atomicStatement, if_neg h, Verdict.atomic, if_pos hallowed, toNat_and_not_one]
  cases hop : AtomicOp.ofImm? i.imm with
  | none =>
    have hfree : ∀ op : AtomicOp, i.imm.toNat / 2 * 2 ≠ op.code := by
      intro op hcode
      rw [AtomicOp.ofImm?_eq_some_iff.2 hcode] at hop
      cases hop
    show Verdict.undefined = _
    split
    · exact absurd ‹_› (hfree (.update .add))
    · exact absurd ‹_› (hfree (.update .or))
    · exact absurd ‹_› (hfree (.update .and))
    · exact absurd ‹_› (hfree (.update .xor))
    · exact absurd ‹_› (hfree .exchange)
    · exact absurd ‹_› (hfree .compareExchange)
    · rfl
  | some op =>
    rw [AtomicOp.ofImm?_eq_some_iff.1 hop]
    cases op with
    | exchange => rfl
    | compareExchange => rfl
    | update u =>
      have hupdate : Verdict.of (if AtomicOp.fetches i.imm = true then
          .error (.unsupported (.atomicFetch u))
          else .ok (Statement.update size (i.address i.dst) u i.src)) = .update i.imm u := by
        rw [Verdict.update, fetches_eq_getLsbD]
        split <;> rfl
      cases u <;> exact hupdate

theorem verdict_atomicStatement (kind : MemClass) (size : MemSize) :
    Verdict.of (i.atomicStatement kind size) = .atomic kind.opClass.code size.code i.imm := by
  by_cases hsize : size = .byte ∨ size = .half
  · have hnot := mt (atomic_allowed_iff kind size).1 fun h => h.2 hsize
    rw [atomicStatement, if_pos hsize, Verdict.atomic, if_neg hnot, Verdict.of_invalid]
  · by_cases hkind : kind = .stx
    · rw [hkind]
      exact i.verdict_atomicStatement_of_allowed hsize
    · have hnot := mt (atomic_allowed_iff kind size).1 fun h => hkind h.1
      rw [atomicStatement, if_neg hsize, Verdict.atomic, if_neg hnot]
      cases AtomicOp.ofImm? i.imm with
      | none => rfl
      | some op => simp only [ne_eq, hkind, not_false_eq_true, if_true, Verdict.of_invalid]

/-- The table is right for loads and stores. -/
theorem verdict_memory (kind : MemClass) (h : OpClass.ofOpcode i.opcodeByte = kind.opClass) :
    Verdict.of i.statement =
      .memory kind.opClass.code (i.opcodeByte.toNat / 32) (i.opcodeByte.toNat / 8 % 4)
        i.src.toNat i.imm := by
  have hsize : i.opcodeByte.toNat / 8 % 4 = (MemSize.ofOpcode i.opcodeByte).code :=
    MemSize.ofOpcode_eq_iff.1 rfl
  cases hmode : MemMode.ofOpcode? i.opcodeByte with
  | none =>
    have hcode : i.opcode = .memory kind none _ := Opcode.ofByte_eq_memory_iff.2 ⟨h, hmode, rfl⟩
    rw [statement, hcode]
    obtain hfree | hfree := MemMode.ofOpcode?_eq_none_iff.1 hmode
    · rw [hfree]
      rfl
    · rw [hfree]
      rfl
  | some mode =>
    have hcode : i.opcode = .memory kind (some mode) _ :=
      Opcode.ofByte_eq_memory_iff.2 ⟨h, hmode, rfl⟩
    rw [statement, hcode, MemMode.ofOpcode?_eq_some_iff.1 hmode, hsize]
    cases mode with
    | imm => exact i.verdict_wideStatement hcode
    | abs => rfl
    | ind => rfl
    | mem => cases kind <;> rfl
    | memSx => cases kind <;> rfl
    | atomic => exact i.verdict_atomicStatement kind _

/-! ## All instructions -/

/-- If the result is a fault for an encoding that is not defined, it names the word of the
instruction. -/
def Blames {α : Type} (x : Except RenderFault α) : Prop :=
  ∀ w e, x = .error (.undefined w e) → w = i.basic

@[simp] theorem blames_ok {α : Type} (x : α) : i.Blames (.ok x) := by
  intro w e h
  cases h

@[simp] theorem blames_unsupported {α : Type} (u : Unsupported) :
    i.Blames (.error (.unsupported u) : Except RenderFault α) := by
  intro w e h
  cases h

@[simp] theorem blames_invalid (e : Undefined) : i.Blames (i.invalid e) := by
  intro w e h
  cases h
  rfl

theorem blames_statement : i.Blames i.statement := by
  unfold statement
  split
  · unfold arithmeticStatement
    split <;> simp
  · unfold jumpStatement callStatement
    (repeat' split) <;> simp
  · simp
  · unfold wideStatement
    split <;> simp
  · simp
  · simp
  · unfold memoryStatement
    split <;> simp
  · unfold signedStatement
    split <;> simp
  · unfold atomicStatement
    (repeat' split) <;> simp

theorem verdict_statement :
    Verdict.of i.statement = .ofEncoding i.opcodeByte.toNat i.src.toNat i.imm := by
  have hclass : i.opcodeByte.toNat % 8 = (OpClass.ofOpcode i.opcodeByte).code :=
    OpClass.ofOpcode_eq_iff.1 rfl
  rw [Verdict.ofEncoding, hclass]
  cases hc : OpClass.ofOpcode i.opcodeByte with
  | ld => exact i.verdict_memory .ld hc
  | ldx => exact i.verdict_memory .ldx hc
  | st => exact i.verdict_memory .st hc
  | stx => exact i.verdict_memory .stx hc
  | alu | alu64 =>
    simp only [statement, opcode, Opcode.ofByte, hc]
    exact i.verdict_arithmeticStatement _ _ _
  | jmp =>
    simp only [statement, opcode, Opcode.ofByte, hc]
    exact i.verdict_jumpStatement64 _ _
  | jmp32 =>
    simp only [statement, opcode, Opcode.ofByte, hc]
    exact i.verdict_jumpStatement32 _ _

/-- **What comes of an instruction is decided by its opcode, its source field and its immediate.**
The table is right for every instruction, and one that is not defined is reported by its own word. -/
theorem verdict_eq_ofEncoding :
    Verdict.of i.disassemble = .ofEncoding i.opcodeByte.toNat i.src.toNat i.imm ∧
    ∀ w e, i.disassemble = .error (.undefined w e) → w = i.basic := by
  refine ⟨?_, fun w e h => ?_⟩
  · rw [disassemble, Verdict.of_map, verdict_statement]
  · exact i.blames_statement w e (disassemble_eq_error_iff.1 h)

-- An update of a double word that also wants the old value, of a byte, and of a class without them.
example : Verdict.ofEncoding 0xdb 2 0x41 = .gap (.atomicFetch .or) ∧
    Verdict.ofEncoding 0xd3 2 0x40 = .undefined ∧ Verdict.ofEncoding 0xda 2 0x40 = .undefined := by
  decide

end Instruction
end Ebpf
