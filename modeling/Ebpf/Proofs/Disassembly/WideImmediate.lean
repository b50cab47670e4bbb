import Mathlib
import Ebpf.Proofs.OpcodeLayout
import Ebpf.Proofs.Program.Blocks
import Ebpf.Proofs.Program.Numbering

/-!
# A 64-bit immediate survives

A 64-bit number is packed into two words, each of which has the bytes of its half in reverse order.
Loading pairs the words again, and what the instruction stands for and what its text shows is the
number.

* `Instruction.exists_imm64?_toInt`: the immediate is the signed high half and the unsigned low half
  put together, so (`Instruction.imm64?_eq_iff`) it determines both of them.
* `Instruction.disassemble_of_wide_number`: the text of a wide load of a number.
* `Program.wide_immediate_loads_back` puts this together.
-/

namespace Ebpf

/-! ## Both halves of an immediate -/

namespace Instruction

/-- The 64-bit immediate is made of the signed high half and the unsigned low half. -/
theorem exists_imm64?_toInt {i : Instruction} {high : BitVec 32} (h : i.highImm? = some high) :
    ∃ v, i.imm64? = some v ∧ v.toInt = 2 ^ 32 * high.toInt + i.imm.toNat := by
  refine ⟨high ++ i.imm, by rw [imm64?, h, Option.map_some], ?_⟩
  rw [BitVec.toInt_append]
  rfl

/-- **The 64-bit immediate determines both halves.** -/
theorem imm64?_eq_iff {i j : Instruction} (hi : i.isExtended = true) (hj : j.isExtended = true) :
    i.imm64? = j.imm64? ↔ i.imm = j.imm ∧ i.highImm? = j.highImm? := by
  obtain ⟨high, hhigh⟩ := exists_highImm?_of_isExtended hi
  obtain ⟨high', hhigh'⟩ := exists_highImm?_of_isExtended hj
  constructor
  · intro h
    obtain ⟨v, hv, hsum⟩ := exists_imm64?_toInt hhigh
    obtain ⟨v', hv', hsum'⟩ := exists_imm64?_toInt hhigh'
    obtain rfl : v = v' := Option.some.inj (hv.symm.trans (h.trans hv'))
    have hlow := i.imm.isLt
    have hlow' := j.imm.isLt
    have hsame : i.imm = j.imm := BitVec.eq_of_toNat_eq (by omega)
    have hsame' : high = high' := BitVec.eq_of_toInt_eq (by omega)
    exact ⟨hsame, by rw [hhigh, hhigh', hsame']⟩
  · rintro ⟨hlow, hhigh⟩
    rw [imm64?, imm64?, hlow, hhigh]

/-! ## Loads of numbers -/

/-- The text of a wide load of a number. -/
theorem disassemble_of_wide_number {i : Instruction} {kind : MemClass} {size : MemSize}
    {high : BitVec 32} (hop : i.opcode = .memory kind (some .imm) size) (hsrc : i.src = 0)
    (hhigh : i.highImm? = some high) :
    i.disassemble =
      .ok (fieldRegister i.dst ++ " = " ++ (Text.integer (high ++ i.imm).toInt ++ " ll")) := by
  have hkind : i.wideKind? = some .value := by
    rw [wideKind?, hsrc]
    rfl
  rw [disassemble, statement, hop]
  simp only [wideStatement, hhigh, hkind]
  rfl

end Instruction

/-! ## From fields to text -/

namespace Program

/-- A wide word and any other word are a program of one instruction. -/
theorem ofWords_wide {w : Word} (h : w.isWide) (x : Word) :
    ofWords [w, x] = .ok (ofInstructions [.wide w x h]) :=
  ofWords_flatMap_words [.wide w x h]

/-- **A 64-bit immediate survives packing, pairing and disassembly.** A number is packed into the
immediate fields of two words, the opcode of the first one being any load or store in immediate mode
and its source field being zero. Whatever else is in these words, they are loaded as one
instruction, its immediate is the number, and its text shows it in decimal.

The immediates of two instructions with an extension word are the same only if both halves are. -/
theorem wide_immediate_loads_back :
    (∀ (v : BitVec 64) (opcode dst : Byte) (offset : BitVec 16) (x : Word),
      (OpClass.ofOpcode opcode).isMemory = true → MemMode.ofOpcode? opcode = some .imm →
      dst.toNat < 16 → x.imm = v.extractLsb' 32 32 →
      ∃ (p : Program) (i : Instruction),
        ofWords [(Fields.ofBytes opcode dst 0 offset (v.extractLsb' 0 32)).toWord, x] = .ok p ∧
        p.size = 2 ∧ p.insnCount = 1 ∧ p.instructions = [(0, i)] ∧ i.imm64? = some v ∧
        i.disassemble =
          .ok ("r" ++ Text.natural dst.toNat ++ " = " ++ Text.integer v.toInt ++ " ll")) ∧
    (∀ i j : Instruction, i.isExtended = true → j.isExtended = true →
      (i.imm64? = j.imm64? ↔ i.imm = j.imm ∧ i.highImm? = j.highImm?)) := by
  refine ⟨?_, fun i j => Instruction.imm64?_eq_iff⟩
  intro v opcode dst offset x hclass hmode hdst hx
  obtain ⟨kind, hkind⟩ := OpClass.isMemory_iff.1 hclass
  let f : Fields := .ofBytes opcode dst 0 offset (v.extractLsb' 0 32)
  have hop : Opcode.ofByte f.toWord.opcode =
      .memory kind (some .imm) (MemSize.ofOpcode opcode) := by
    rw [f.opcode_toWord]
    exact Opcode.ofByte_eq_memory_iff.2 ⟨hkind, hmode, rfl⟩
  have hwide : f.toWord.isWide = true := Word.isWide_of_imm hop
  let i : Instruction := .wide f.toWord x hwide
  have hvalue : x.imm ++ i.imm = v := by
    have himm : i.imm = v.extractLsb' 0 32 := f.imm_toWord
    rw [hx, himm]
    exact BitVec.extractLsb'_append_extractLsb'
  have hreg : fieldRegister i.dst = "r" ++ Text.natural dst.toNat := by
    have hdst' : i.dst = dst.setWidth 4 := f.dst_toWord
    rw [fieldRegister, hdst', BitVec.toNat_setWidth, Nat.mod_eq_of_lt hdst]
    rfl
  have hsrc : i.src = 0 := f.src_toWord
  have hhigh : i.highImm? = some x.imm := rfl
  have hopcode : i.opcode = .memory kind (some .imm) (MemSize.ofOpcode opcode) := hop
  refine ⟨_, i, ofWords_wide hwide x, rfl, rfl, rfl, ?_, ?_⟩
  · rw [Instruction.imm64?, hhigh, Option.map_some, hvalue]
  · rw [Instruction.disassemble_of_wide_number hopcode hsrc hhigh, hvalue, hreg]
    simp only [String.append_assoc]

/-- The low half is all ones and the high half is 1, so that a signed low half would change the high
one. The opcode is not the usual one, the register is one that the machine does not have, and the
offset and all other fields of the second word are all ones. Whatever has this immediate has these
halves. -/
theorem wide_immediate_of_unsigned_low_half :
    (∃ (p : Program) (i : Instruction), ofWords [0x010fffffffffffff, 0xffffffff01000000] = .ok p ∧
      p.instructions = [(0, i)] ∧ i.imm64? = some 0x1ffffffff ∧
      i.disassemble = .ok "r15 = 8589934591 ll") ∧
    (∀ j : Instruction, j.isExtended = true → j.imm64? = some 0x1ffffffff →
      j.imm = 0xffffffff ∧ j.highImm? = some 1) := by
  refine ⟨?_, ?_⟩
  · obtain ⟨p, i, hload, -, -, hinsns, himm, htext⟩ := wide_immediate_loads_back.1 0x1ffffffff 0x01
      15 0xffff 0xffffffff01000000 (by decide) (by decide) (by decide) (by decide)
    refine ⟨p, i, hload, hinsns, himm, htext.trans ?_⟩
    decide +kernel
  · intro j hj hvalue
    let i : Instruction := .wide 0x010fffffffffffff 0xffffffff01000000 rfl
    have hwhole : i.imm64? = some 0x1ffffffff := by decide
    have hlow : i.imm = 0xffffffff := by decide
    have hhigh : i.highImm? = some 1 := by decide
    rw [← hlow, ← hhigh]
    exact (wide_immediate_loads_back.2 j i hj rfl).1 (hvalue.trans hwhole.symm)

end Program
end Ebpf
