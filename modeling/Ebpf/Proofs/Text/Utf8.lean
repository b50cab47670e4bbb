import Mathlib
import Ebpf.Text.Utf8

/-!
# UTF-8 that has been written is read again

* `decodeFrom_encodeChar`: in front of anything, the bytes of a character are read as the character.
  The four cases are the four lengths of a character; in each, the first byte says what may follow
  (`start_two`, `start_three`, `start_four`), and that is what was written.
* `decode_encode`: hence a text that has been written is read again.
* `zero_notMem_encode`: no zero byte is written unless the text holds a zero character.
-/

namespace Ebpf
namespace Text
namespace Utf8

/-! ## Bytes behind the first -/

/-- A byte behind the first, with the low six bits of a number. -/
def tailByte (k : Nat) : Byte := BitVec.ofNat 8 (0x80 + k % 0x40)

theorem toNat_tailByte (k : Nat) : (tailByte k).toNat = 0x80 + k % 0x40 := by
  rw [tailByte, BitVec.toNat_ofNat]
  exact Nat.mod_eq_of_lt (by omega)

section Tails

variable {index used owed low high bits k : Nat} {rest : List Byte}

/-- A byte in the range that is asked for gives its six bits. -/
theorem step_tailByte (hlow : low ≤ 0x80 + k % 0x40) (hhigh : 0x80 + k % 0x40 ≤ high) :
    Unfinished.step ⟨used, owed, low, high, bits⟩ (tailByte k) = match owed with
      | 0 => .char (Char.ofNat (bits * 0x40 + k % 0x40))
      | owed + 1 => .more ⟨used + 1, owed, 0x80, 0xbf, bits * 0x40 + k % 0x40⟩ := by
  have hbits : (0x80 + k % 0x40) % 0x40 = k % 0x40 := by omega
  have hrange : ¬ (0x80 + k % 0x40 < low ∨ high < 0x80 + k % 0x40) := by omega
  cases owed <;> simp only [Unfinished.step, toNat_tailByte, hbits, if_neg hrange]

/-- The last byte that is owed completes the character. -/
theorem decodeFrom_last (hlow : low ≤ 0x80 + k % 0x40) (hhigh : 0x80 + k % 0x40 ≤ high) :
    decodeFrom index (some ⟨used, 0, low, high, bits⟩) (tailByte k :: rest) =
      (decodeFrom (index + used + 1) none rest).map
        (Char.ofNat (bits * 0x40 + k % 0x40) :: ·) := by
  simp only [decodeFrom, step_tailByte hlow hhigh]

/-- Any other leaves one byte less to come. -/
theorem decodeFrom_more (hlow : low ≤ 0x80 + k % 0x40) (hhigh : 0x80 + k % 0x40 ≤ high) :
    decodeFrom index (some ⟨used, owed + 1, low, high, bits⟩) (tailByte k :: rest) =
      decodeFrom index (some ⟨used + 1, owed, 0x80, 0xbf, bits * 0x40 + k % 0x40⟩) rest := by
  simp only [decodeFrom, step_tailByte hlow hhigh]

end Tails

/-! ## First bytes -/

theorem start_one {n : Nat} (h : n < 0x80) : start (BitVec.ofNat 8 n) = .char (Char.ofNat n) := by
  have hn : (BitVec.ofNat 8 n).toNat = n := by
    rw [BitVec.toNat_ofNat]
    exact Nat.mod_eq_of_lt (by omega)
  simp only [start, hn, if_pos h]

theorem start_two {q : Nat} (h : 2 ≤ q) (h' : q < 0x20) :
    start (BitVec.ofNat 8 (0xc0 + q)) = .more ⟨1, 0, 0x80, 0xbf, q⟩ := by
  have hall : ∀ q : Fin 0x20, 2 ≤ q.val →
      start (BitVec.ofNat 8 (0xc0 + q)) = .more ⟨1, 0, 0x80, 0xbf, q⟩ := by decide
  exact hall ⟨q, h'⟩ h

/-- Three bytes spell no number that two can spell, and no surrogate. -/
theorem start_three {q : Nat} (h : q < 0x10) :
    start (BitVec.ofNat 8 (0xe0 + q)) =
      .more ⟨1, 1, if q = 0 then 0xa0 else 0x80, if q = 0xd then 0x9f else 0xbf, q⟩ := by
  have hall : ∀ q : Fin 0x10, start (BitVec.ofNat 8 (0xe0 + q)) =
      .more ⟨1, 1, if q.val = 0 then 0xa0 else 0x80, if q.val = 0xd then 0x9f else 0xbf, q⟩ := by
    decide
  exact hall ⟨q, h⟩

/-- Four bytes spell no number that three can spell, and none above the last code point. -/
theorem start_four {q : Nat} (h : q < 5) :
    start (BitVec.ofNat 8 (0xf0 + q)) =
      .more ⟨1, 2, if q = 0 then 0x90 else 0x80, if q = 4 then 0x8f else 0xbf, q⟩ := by
  have hall : ∀ q : Fin 5, start (BitVec.ofNat 8 (0xf0 + q)) =
      .more ⟨1, 2, if q.val = 0 then 0x90 else 0x80, if q.val = 4 then 0x8f else 0xbf, q⟩ := by
    decide
  exact hall ⟨q, h⟩

/-! ## One character -/

/-- A character is no surrogate and not above the last code point. -/
theorem toNat_cases (c : Char) : c.toNat < 0xd800 ∨ 0xdfff < c.toNat ∧ c.toNat < 0x110000 :=
  c.valid

theorem encodeChar_eq (c : Char) :
    encodeChar c =
      if c.toNat < 0x80 then [BitVec.ofNat 8 c.toNat]
      else if c.toNat < 0x800 then [BitVec.ofNat 8 (0xc0 + c.toNat / 0x40), tailByte c.toNat]
      else if c.toNat < 0x10000 then
        [BitVec.ofNat 8 (0xe0 + c.toNat / 0x1000), tailByte (c.toNat / 0x40), tailByte c.toNat]
      else [BitVec.ofNat 8 (0xf0 + c.toNat / 0x40000), tailByte (c.toNat / 0x1000),
        tailByte (c.toNat / 0x40), tailByte c.toNat] :=
  rfl

/-- **The bytes of a character are read as the character**, whatever follows them. -/
theorem decodeFrom_encodeChar (c : Char) (index : Nat) (rest : List Byte) :
    decodeFrom index none (encodeChar c ++ rest) =
      (decodeFrom (index + (encodeChar c).length) none rest).map (c :: ·) := by
  have hvalid := toNat_cases c
  have hc : Char.ofNat c.toNat = c := Char.ofNat_toNat c
  rw [encodeChar_eq]
  generalize c.toNat = n at hvalid hc
  split_ifs with h1 h2 h3
  · simp only [List.singleton_append, decodeFrom, start_one h1, hc, List.length_singleton]
  · have hbits : n / 0x40 * 0x40 + n % 0x40 = n := by omega
    simp only [List.cons_append, List.nil_append]
    rw [decodeFrom, start_two (by omega) (by omega)]
    simp only
    rw [decodeFrom_last (by omega) (by omega), hbits, hc]
    rfl
  · have hbits : (n / 0x1000 * 0x40 + n / 0x40 % 0x40) * 0x40 + n % 0x40 = n := by omega
    simp only [List.cons_append, List.nil_append]
    rw [decodeFrom, start_three (by omega)]
    simp only
    rw [decodeFrom_more (by split_ifs <;> omega) (by split_ifs <;> omega),
      decodeFrom_last (by omega) (by omega), hbits, hc]
    rfl
  · have hbits : ((n / 0x40000 * 0x40 + n / 0x1000 % 0x40) * 0x40 + n / 0x40 % 0x40) * 0x40 +
        n % 0x40 = n := by omega
    simp only [List.cons_append, List.nil_append]
    rw [decodeFrom, start_four (by omega)]
    simp only
    rw [decodeFrom_more (by split_ifs <;> omega) (by split_ifs <;> omega),
      decodeFrom_more (by omega) (by omega), decodeFrom_last (by omega) (by omega), hbits, hc]
    rfl

/-! ## Texts -/

theorem decodeFrom_flatMap_encodeChar (cs : List Char) (index : Nat) :
    decodeFrom index none (cs.flatMap encodeChar) = .ok cs := by
  induction cs generalizing index with
  | nil => rfl
  | cons c cs ih =>
    rw [List.flatMap_cons, decodeFrom_encodeChar, ih]
    rfl

/-- **A text that has been written is read again.** -/
theorem decode_encode (s : String) : decode (encode s) = .ok s := by
  rw [decode, encode, decodeFrom_flatMap_encodeChar]
  exact congrArg Except.ok String.ofList_toList

/-- A zero byte is written for a zero character only. -/
theorem zero_notMem_encodeChar {c : Char} (h : c.toNat ≠ 0) : (0 : Byte) ∉ encodeChar c := by
  have hvalid := toNat_cases c
  have hne : ∀ m, 0 < m → m < 0x100 → (0 : Byte) ≠ BitVec.ofNat 8 m := by
    intro m hpos hlt he
    have hm : 0 = m % 0x100 := congrArg BitVec.toNat he
    omega
  rw [encodeChar_eq]
  generalize c.toNat = n at hvalid h
  split_ifs
  all_goals simp only [List.mem_cons, List.not_mem_nil, or_false, not_or, tailByte]
  · exact hne _ (by omega) (by omega)
  · exact ⟨hne _ (by omega) (by omega), hne _ (by omega) (by omega)⟩
  · exact ⟨hne _ (by omega) (by omega), hne _ (by omega) (by omega), hne _ (by omega) (by omega)⟩
  · exact ⟨hne _ (by omega) (by omega), hne _ (by omega) (by omega), hne _ (by omega) (by omega),
      hne _ (by omega) (by omega)⟩

theorem zero_notMem_encode {s : String} (h : ∀ c ∈ s.toList, c.toNat ≠ 0) :
    (0 : Byte) ∉ encode s := by
  intro hmem
  obtain ⟨c, hc, hbyte⟩ := List.mem_flatMap.1 hmem
  exact zero_notMem_encodeChar (h c hc) hbyte

end Utf8
end Text
end Ebpf
