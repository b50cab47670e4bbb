import Mathlib
import Ebpf.Instruction
import Ebpf.Proofs.WordLayout

/-!
# Packing and reading are inverse to each other

A word is packed from an opcode, two register numbers, an offset and an immediate, and it is read
one field at a time. Here the readings are tied to the eight bytes of the word, and packing to the
readings.

* `Word.bytes_eq_readings`: what stands in each byte of a word, and `Fields.bytes_toWord`: in each
  byte of a packed one.
* `Word.toNat_low_regs` and `Word.toNat_high_regs`: the register fields are the halves of the
  register byte.
* `Fields.toWord_ofBytes_eq_iff`: a word is the one packed from given numbers exactly if its
  readings are these numbers, of a register number the remainder by 16.
* `Instruction.ofFields_eq_ok_iff`: which instruction is made of given fields.
* `Word.packing_bijective` puts this together.
-/

namespace Ebpf

/-! ## Bytes of a word -/

/-- Bits cut out of a cut are bits of the whole. -/
theorem extract_extract {n start len start' len' : Nat} (x : BitVec n) (h : start' + len' ≤ len) :
    (x.extractLsb' start len).extractLsb' start' len' = x.extractLsb' (start + start') len' := by
  apply BitVec.eq_of_getLsbD_eq
  intro i hi
  have hin : start' + i < len := by omega
  simp only [BitVec.getLsbD_extractLsb', hi, hin, decide_true, Bool.true_and, Nat.add_assoc]

/-- Four bytes put side by side are cut apart again. -/
theorem extract_append_bytes (a b c d : Byte) :
    (a ++ b ++ c ++ d).extractLsb' 0 8 = d ∧ (a ++ b ++ c ++ d).extractLsb' 8 8 = c ∧
      (a ++ b ++ c ++ d).extractLsb' 16 8 = b ∧ (a ++ b ++ c ++ d).extractLsb' 24 8 = a := by
  have := a.isLt
  have := b.isLt
  have := c.isLt
  have := d.isLt
  refine ⟨?_, ?_, ?_, ?_⟩ <;> apply BitVec.eq_of_toNat_eq <;>
    simp only [toNat_extract_eq, toNat_append_eq] <;> omega

namespace Word

variable (w : Word)

/-- The second byte holds both register fields. -/
theorem regs_eq_append : w.regs = w.src ++ w.dst := by
  rw [src, dst, BitVec.extractLsb'_append_extractLsb'_eq_extractLsb' (by decide)]
  rfl

/-- The offset has its low byte in front. -/
theorem offset_eq_append : w.offset = w.extractLsb' 32 8 ++ w.extractLsb' 40 8 := by
  rw [offset, swapBytes16, extract_extract w (by decide), extract_extract w (by decide)]

/-- The immediate has its low byte in front, and the others behind it in order. -/
theorem imm_eq_append :
    w.imm = w.extractLsb' 0 8 ++ w.extractLsb' 8 8 ++ w.extractLsb' 16 8 ++ w.extractLsb' 24 8 := by
  rw [imm, swapBytes32, extract_extract w (by decide), extract_extract w (by decide),
    extract_extract w (by decide), extract_extract w (by decide)]

/-- **What stands in each byte of a word.** -/
theorem bytes_eq_readings :
    w.bytes = [w.opcode, w.src ++ w.dst, w.offset.extractLsb' 0 8, w.offset.extractLsb' 8 8,
      w.imm.extractLsb' 0 8, w.imm.extractLsb' 8 8, w.imm.extractLsb' 16 8,
      w.imm.extractLsb' 24 8] := by
  obtain ⟨i0, i1, i2, i3⟩ := extract_append_bytes (w.extractLsb' 0 8) (w.extractLsb' 8 8)
    (w.extractLsb' 16 8) (w.extractLsb' 24 8)
  rw [← regs_eq_append, offset_eq_append, BitVec.extractLsb'_append_eq_right,
    BitVec.extractLsb'_append_eq_left, imm_eq_append, i0, i1, i2, i3]
  rfl

/-! ## The register byte -/

/-- The low half of the register byte is the destination. -/
theorem toNat_low_regs : (w.regs &&& 0x0f).toNat = w.dst.toNat := by
  have hmask : (0x0f : Byte).toNat = 2 ^ 4 - 1 := rfl
  have hdst := w.dst.isLt
  rw [BitVec.toNat_and, hmask, Nat.and_two_pow_sub_one_eq_mod, regs_eq_append, toNat_append_eq]
  omega

/-- The high half of the register byte is the source. -/
theorem toNat_high_regs : (w.regs >>> 4).toNat = w.src.toNat := by
  have hdst := w.dst.isLt
  rw [BitVec.toNat_ushiftRight, Nat.shiftRight_eq_div_pow, regs_eq_append, toNat_append_eq]
  omega

end Word

/-! ## Packing and readings -/

namespace Fields

variable {opcode dst src : Byte} {offset : BitVec 16} {imm : BitVec 32}

theorem toWord_eq_iff {f : Fields} {w : Word} : f.toWord = w ↔ w.fields = f := by
  constructor
  · rintro rfl
    exact f.fields_toWord
  · rintro rfl
    exact w.toWord_fields

/-- What stands in each byte of a packed word. -/
theorem bytes_toWord (f : Fields) :
    f.toWord.bytes = [f.opcode, f.src ++ f.dst, f.offset.extractLsb' 0 8, f.offset.extractLsb' 8 8,
      f.imm.extractLsb' 0 8, f.imm.extractLsb' 8 8, f.imm.extractLsb' 16 8,
      f.imm.extractLsb' 24 8] := by
  rw [Word.bytes_eq_readings, opcode_toWord, src_toWord, dst_toWord, offset_toWord, imm_toWord]

/-- Fields are made of given numbers if they are these numbers, of a register number the remainder
by 16. -/
theorem eq_ofBytes_iff {f : Fields} :
    f = ofBytes opcode dst src offset imm ↔
      f.opcode = opcode ∧ f.dst.toNat = dst.toNat % 16 ∧ f.src.toNat = src.toNat % 16 ∧
        f.offset = offset ∧ f.imm = imm := by
  obtain ⟨o, d, s, off, m⟩ := f
  simp only [ofBytes, mk.injEq, ← BitVec.toNat_inj (x := d), ← BitVec.toNat_inj (x := s),
    BitVec.toNat_setWidth]

/-- **A word is the packed one exactly if it reads as what was packed.** -/
theorem toWord_ofBytes_eq_iff {w : Word} :
    (ofBytes opcode dst src offset imm).toWord = w ↔
      w.opcode = opcode ∧ w.dst.toNat = dst.toNat % 16 ∧ w.src.toNat = src.toNat % 16 ∧
        w.offset = offset ∧ w.imm = imm :=
  toWord_eq_iff.trans eq_ofBytes_iff

/-- Of the register numbers only the low halves are packed, and a negative offset and immediate
keep their sign in their last bytes. -/
example : (ofBytes 0x63 0x1a 0xf1 (-4) (-2)).toWord = 0x631afcfffeffffff := by decide

end Fields

namespace Word

/-- Words and fields correspond one to one. -/
theorem fields_bijective : Function.Bijective fields :=
  Function.bijective_iff_has_inverse.2 ⟨Fields.toWord, toWord_fields, Fields.fields_toWord⟩

/-- A word is packed again from its own readings. -/
theorem toWord_ofBytes_readings (w : Word) :
    (Fields.ofBytes w.opcode (w.regs &&& 0x0f) (w.regs >>> 4) w.offset w.imm).toWord = w := by
  rw [Fields.toWord_ofBytes_eq_iff, toNat_low_regs, toNat_high_regs, Nat.mod_eq_of_lt w.dst.isLt,
    Nat.mod_eq_of_lt w.src.isLt]
  exact ⟨rfl, rfl, rfl, rfl, rfl⟩

/-- Words that read alike are the same. -/
theorem eq_iff_readings {w w' : Word} :
    w = w' ↔
      w.opcode = w'.opcode ∧ w.regs = w'.regs ∧ w.offset = w'.offset ∧ w.imm = w'.imm := by
  constructor
  · rintro rfl
    exact ⟨rfl, rfl, rfl, rfl⟩
  · rintro ⟨hop, hregs, hoff, himm⟩
    rw [← toWord_ofBytes_readings w, hop, hregs, hoff, himm, toWord_ofBytes_readings]

end Word

/-! ## Instructions made of fields -/

/-- The instruction made of fields is the one that has these fields and no second word. -/
theorem Instruction.ofFields_eq_ok_iff {f : Fields} {i : Instruction} :
    ofFields f = .ok i ↔ i.extension = none ∧ i.basic.fields = f := by
  obtain ⟨w, x, hx⟩ := i
  rw [← Fields.toWord_eq_iff, ofFields, decode]
  constructor
  · intro h
    split at h
    · cases h
      exact ⟨rfl, rfl⟩
    · simp at h
  · rintro ⟨rfl, rfl⟩
    rw [dif_pos hx]

/-- **Packing and reading are inverse to each other.** Words and fields correspond one to one.

* A word is packed again from its readings, the register numbers being the halves of its register
  byte.
* What is packed is found in the bytes of the word, of numbers with several bytes the low one first,
  and is read back; of a register number the remainder by 16 is.
* The instruction made of given numbers is the one without a second word that reads as these
  numbers.
* Words with the same readings are the same. -/
theorem Word.packing_bijective :
    Function.Bijective Word.fields ∧
    (∀ w : Word,
      (w.regs &&& 0x0f).toNat = w.dst.toNat ∧ (w.regs >>> 4).toNat = w.src.toNat ∧
      (Fields.ofBytes w.opcode (w.regs &&& 0x0f) (w.regs >>> 4) w.offset w.imm).toWord = w) ∧
    (∀ (opcode dst src : Byte) (offset : BitVec 16) (imm : BitVec 32), ∃ w : Word,
      (Fields.ofBytes opcode dst src offset imm).toWord = w ∧
      w.bytes = [opcode, src.setWidth 4 ++ dst.setWidth 4, offset.extractLsb' 0 8,
        offset.extractLsb' 8 8, imm.extractLsb' 0 8, imm.extractLsb' 8 8, imm.extractLsb' 16 8,
        imm.extractLsb' 24 8] ∧
      w.opcode = opcode ∧ w.dst.toNat = dst.toNat % 16 ∧ w.src.toNat = src.toNat % 16 ∧
      w.offset = offset ∧ w.imm = imm) ∧
    (∀ (opcode dst src : Byte) (offset : BitVec 16) (imm : BitVec 32) (i : Instruction),
      Instruction.ofFields (.ofBytes opcode dst src offset imm) = .ok i ↔
        i.extension = none ∧ i.opcodeByte = opcode ∧ i.dst.toNat = dst.toNat % 16 ∧
          i.src.toNat = src.toNat % 16 ∧ i.offset = offset ∧ i.imm = imm) ∧
    (∀ w w' : Word, w = w' ↔
      w.opcode = w'.opcode ∧ w.regs = w'.regs ∧ w.offset = w'.offset ∧ w.imm = w'.imm) := by
  refine ⟨fields_bijective, ?_, ?_, ?_, fun w w' => eq_iff_readings⟩
  · intro w
    exact ⟨w.toNat_low_regs, w.toNat_high_regs, w.toWord_ofBytes_readings⟩
  · intro opcode dst src offset imm
    exact ⟨_, rfl, Fields.bytes_toWord _, Fields.toWord_ofBytes_eq_iff.1 rfl⟩
  · intro opcode dst src offset imm i
    exact Instruction.ofFields_eq_ok_iff.trans (and_congr_right' Fields.eq_ofBytes_iff)

end Ebpf
