import Mathlib
import Ebpf.Word

/-!
# The word layout loses nothing

* `Fields.fields_toWord`: packing fields and taking them apart again gives the same fields, and
  (`Fields.opcode_toWord` and the laws beside it) so does every single reading;
* `Word.toWord_fields`: taking a word apart and packing its fields gives the same word.

Both are arithmetic on the numbers that the words stand for: a field is a quotient by a power of
two cut to its width, and a multi-byte field is reversed in base 256, which undoes itself.
-/

namespace Ebpf

/-! ## Bits as numbers -/

/-- Bits put side by side: the left ones count in units of `2 ^ m`. -/
theorem toNat_append_eq {n m : Nat} (x : BitVec n) (y : BitVec m) :
    (x ++ y).toNat = 2 ^ m * x.toNat + y.toNat := by
  rw [BitVec.toNat_append, Nat.shiftLeft_eq, Nat.mul_comm, ← Nat.two_pow_add_eq_or_of_lt y.isLt]

/-- A run of bits is a quotient cut to its length. -/
theorem toNat_extract_eq {n : Nat} (start len : Nat) (x : BitVec n) :
    (x.extractLsb' start len).toNat = x.toNat / 2 ^ start % 2 ^ len := by
  rw [BitVec.extractLsb'_toNat, Nat.shiftRight_eq_div_pow]

/-! ## Byte order -/

theorem toNat_swapBytes16 (x : BitVec 16) :
    (swapBytes16 x).toNat = x.toNat % 2 ^ 8 * 2 ^ 8 + x.toNat / 2 ^ 8 := by
  have := x.isLt
  simp only [swapBytes16, toNat_append_eq, toNat_extract_eq]
  omega

theorem toNat_swapBytes32 (x : BitVec 32) :
    (swapBytes32 x).toNat = x.toNat % 2 ^ 8 * 2 ^ 24 + x.toNat / 2 ^ 8 % 2 ^ 8 * 2 ^ 16 +
      x.toNat / 2 ^ 16 % 2 ^ 8 * 2 ^ 8 + x.toNat / 2 ^ 24 := by
  have := x.isLt
  simp only [swapBytes32, toNat_append_eq, toNat_extract_eq]
  omega

/-- Swapping two bytes twice changes nothing. -/
@[simp] theorem swapBytes16_swapBytes16 (x : BitVec 16) : swapBytes16 (swapBytes16 x) = x := by
  apply BitVec.eq_of_toNat_eq
  have := x.isLt
  simp only [toNat_swapBytes16]
  omega

/-- A number below `2 ^ 32` is spelled by four digits in base 256. -/
theorem four_bytes {n : Nat} (h : n < 2 ^ 32) :
    ∃ a b c d, a < 256 ∧ b < 256 ∧ c < 256 ∧ d < 256 ∧
      n = a + 2 ^ 8 * b + 2 ^ 16 * c + 2 ^ 24 * d :=
  ⟨n % 256, n / 256 % 256, n / 256 / 256 % 256, n / 256 / 256 / 256, by omega, by omega, by omega,
    by omega, by omega⟩

/-- Swapping reverses the digits in base 256. -/
theorem toNat_swapBytes32_eq {x : BitVec 32} {a b c d : Nat} (ha : a < 256) (hb : b < 256)
    (hc : c < 256) (hx : x.toNat = a + 2 ^ 8 * b + 2 ^ 16 * c + 2 ^ 24 * d) :
    (swapBytes32 x).toNat = d + 2 ^ 8 * c + 2 ^ 16 * b + 2 ^ 24 * a := by
  have h0 : x.toNat % 2 ^ 8 = a := by omega
  have h1 : x.toNat / 2 ^ 8 % 2 ^ 8 = b := by omega
  have h2 : x.toNat / 2 ^ 16 % 2 ^ 8 = c := by omega
  have h3 : x.toNat / 2 ^ 24 = d := by omega
  rw [toNat_swapBytes32, h0, h1, h2, h3]
  omega

/-- Swapping four bytes twice changes nothing. -/
@[simp] theorem swapBytes32_swapBytes32 (x : BitVec 32) : swapBytes32 (swapBytes32 x) = x := by
  obtain ⟨a, b, c, d, ha, hb, hc, hd, hx⟩ := four_bytes x.isLt
  apply BitVec.eq_of_toNat_eq
  rw [toNat_swapBytes32_eq hd hc hb (toNat_swapBytes32_eq ha hb hc hx), hx]

/-! ## Taking words apart and putting them together -/

/-- A word as a number: every field counts from its own place. -/
theorem Fields.toNat_toWord (f : Fields) :
    f.toWord.toNat = f.opcode.toNat * 2 ^ 56 + f.src.toNat * 2 ^ 52 + f.dst.toNat * 2 ^ 48 +
      (swapBytes16 f.offset).toNat * 2 ^ 32 + (swapBytes32 f.imm).toNat := by
  simp only [toWord, toNat_append_eq]
  omega

/-- The fields of a packed word are the fields that were packed. -/
@[simp] theorem Fields.fields_toWord (f : Fields) : f.toWord.fields = f := by
  have h := f.toNat_toWord
  have := f.opcode.isLt
  have := f.src.isLt
  have := f.dst.isLt
  have := (swapBytes16 f.offset).isLt
  have := (swapBytes32 f.imm).isLt
  have hoff : f.toWord.extractLsb' 32 16 = swapBytes16 f.offset := by
    apply BitVec.eq_of_toNat_eq
    rw [toNat_extract_eq]
    omega
  have himm : f.toWord.extractLsb' 0 32 = swapBytes32 f.imm := by
    apply BitVec.eq_of_toNat_eq
    rw [toNat_extract_eq]
    omega
  have hop : f.toWord.opcode = f.opcode := by
    apply BitVec.eq_of_toNat_eq
    rw [Word.opcode, toNat_extract_eq]
    omega
  have hdst : f.toWord.dst = f.dst := by
    apply BitVec.eq_of_toNat_eq
    rw [Word.dst, toNat_extract_eq]
    omega
  have hsrc : f.toWord.src = f.src := by
    apply BitVec.eq_of_toNat_eq
    rw [Word.src, toNat_extract_eq]
    omega
  simp only [Word.fields, hop, hdst, hsrc, Word.offset, Word.imm, hoff, himm,
    swapBytes16_swapBytes16, swapBytes32_swapBytes32]

/-- Packing the fields of a word gives the word back. -/
@[simp] theorem Word.toWord_fields (w : Word) : (w.fields).toWord = w := by
  apply BitVec.eq_of_toNat_eq
  have := w.isLt
  rw [Fields.toNat_toWord]
  simp only [Word.fields, Word.opcode, Word.dst, Word.src, Word.offset, Word.imm,
    swapBytes16_swapBytes16, swapBytes32_swapBytes32, toNat_extract_eq]
  omega

namespace Fields

variable (f : Fields)

@[simp] theorem opcode_toWord : f.toWord.opcode = f.opcode := congrArg opcode f.fields_toWord

@[simp] theorem dst_toWord : f.toWord.dst = f.dst := congrArg dst f.fields_toWord

@[simp] theorem src_toWord : f.toWord.src = f.src := congrArg src f.fields_toWord

@[simp] theorem offset_toWord : f.toWord.offset = f.offset := congrArg offset f.fields_toWord

@[simp] theorem imm_toWord : f.toWord.imm = f.imm := congrArg imm f.fields_toWord

end Fields
end Ebpf
