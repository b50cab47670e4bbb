import Mathlib
import Ebpf.HexDump

/-!
# Hexadecimal dumps are read as they are spelled

* `HexDump.Spells text ws`: apart from white space, wherever it stands, the text is the sixteen
  digits of each word, each digit in either case.
* `HexDump.exists_digits_hex`: the sixteen digits of a word, as numbers; their value is the word.
* `HexDump.word?_of_spellsWord`: digits in any mixture of cases are read as the word that they
  spell.
* `HexDump.words_of_spells`: so a dump that spells words is read as these words, with no fault.

A dump can be put together from parts that spell something (`HexDump.Spells.append`): white space
spells nothing (`HexDump.spells_blank`), and the digits of a word spell it (`HexDump.spells_hex`).
-/

namespace Ebpf
namespace HexDump

/-! ## Spellings -/

/-- White space in a dump: space, tab, line feed, form feed and carriage return. -/
def blanks : List Byte := [0x20, 0x09, 0x0a, 0x0c, 0x0d]

/-- A byte spells a digit, in lower or in upper case. -/
def SpellsDigit (b : Byte) (c : Char) : Prop := b.toNat = c.toNat ∨ b.toNat = c.toUpper.toNat

/-- Without its white space, the text is the digits of the words one after the other. -/
def Spells (text : List Byte) (ws : List Word) : Prop :=
  List.Forall₂ SpellsDigit (text.filter (· ∉ blanks)) (ws.flatMap fun w => w.hex.toList)

/-- The piece is the sixteen digits of the word, each of them in either case. -/
def SpellsWord (piece : List Byte) (w : Word) : Prop :=
  List.Forall₂ SpellsDigit piece w.hex.toList

instance (b : Byte) (c : Char) : Decidable (SpellsDigit b c) :=
  inferInstanceAs (Decidable (_ ∨ _))

instance (text : List Byte) (ws : List Word) : Decidable (Spells text ws) :=
  inferInstanceAs (Decidable (List.Forall₂ _ _ _))

/-- What is removed from a dump is its white space. -/
theorem digits_eq_filter (text : List Byte) : digits text = text.filter (· ∉ blanks) := by
  refine List.filter_congr fun b _ => ?_
  simp [isBlank, blanks, Bool.and_assoc]

/-! ## Digits as numbers -/

@[simp] theorem value_append (ds es : List Nat) :
    value (ds ++ es) = 16 ^ es.length * value ds + value es := by
  induction es using List.reverseRecOn with
  | nil => simp [value]
  | append_singleton es e ih =>
    rw [← List.append_assoc]
    simp only [value, List.foldl_append, List.foldl_cons, List.foldl_nil] at ih ⊢
    rw [ih, List.length_append, List.length_singleton, pow_succ]
    ring

theorem value_replicate_zero (k : Nat) : value (List.replicate k 0) = 0 := by
  induction k with
  | zero => rfl
  | succ k ih => rw [List.replicate_succ', value_append, ih]; rfl

/-- The digits of a number are below sixteen and have the number as their value. -/
theorem exists_digits (n : Nat) : ∃ ds : List Nat, (∀ d ∈ ds, d < 16) ∧
    Nat.toDigits 16 n = ds.map Nat.digitChar ∧ value ds = n := by
  induction n using Nat.strongRecOn with
  | ind n ih =>
    by_cases hn : n < 16
    · exact ⟨[n], by simpa using hn, Nat.toDigits_of_lt_base hn, by simp [value]⟩
    · obtain ⟨ds, hlt, hds, hvalue⟩ := ih (n / 16) (by omega)
      refine ⟨ds ++ [n % 16], ?_, ?_, ?_⟩
      · intro d hd
        rcases List.mem_append.1 hd with hd | hd
        · exact hlt d hd
        · rw [List.mem_singleton.1 hd]
          exact Nat.mod_lt n (by decide)
      · rw [Nat.toDigits_of_base_le (by decide) (Nat.not_lt.1 hn), hds, List.map_append]
        rfl
      · rw [value_append, hvalue]
        simp only [value, List.length_singleton, List.foldl_cons, List.foldl_nil]
        omega

/-- A word is spelled by sixteen digits that have it as their value. -/
theorem exists_digits_hex (w : Word) : ∃ ds : List Nat, (∀ d ∈ ds, d < 16) ∧ ds.length = 16 ∧
    w.hex.toList = ds.map Nat.digitChar ∧ value ds = w.toNat := by
  obtain ⟨ds, hlt, hds, hvalue⟩ := exists_digits w.toNat
  have hlen : ds.length ≤ 16 := by
    rw [← List.length_map Nat.digitChar, ← hds]
    exact (Nat.length_toDigits_le_iff (by decide) (by decide)).2 (by simpa using w.isLt)
  refine ⟨List.replicate (16 - ds.length) 0 ++ ds, ?_, ?_, ?_, ?_⟩
  · intro d hd
    rcases List.mem_append.1 hd with hd | hd
    · rw [List.eq_of_mem_replicate hd]
      decide
    · exact hlt d hd
  · rw [List.length_append, List.length_replicate]
    omega
  · rw [Word.hex, Text.hex, String.toList_ofList, hds, List.leftpad, List.length_map,
      List.map_append, List.map_replicate]
    rfl
  · rw [value_append, value_replicate_zero, Nat.mul_zero, Nat.zero_add, hvalue]

theorem length_hex (w : Word) : w.hex.toList.length = 16 := by
  obtain ⟨ds, -, hlen, hds, -⟩ := exists_digits_hex w
  rw [hds, List.length_map, hlen]

/-! ## Reading -/

/-- The byte of a digit is read as its value, in either case. -/
theorem digit?_digitChar : ∀ d : Fin 16,
    digit? (BitVec.ofNat 8 (Nat.digitChar d).toNat) = some d.val ∧
      digit? (BitVec.ofNat 8 (Nat.digitChar d).toUpper.toNat) = some d.val := by
  decide

theorem digit?_of_spellsDigit {b : Byte} {d : Nat} (hd : d < 16)
    (h : SpellsDigit b (Nat.digitChar d)) : digit? b = some d := by
  have hb : b = BitVec.ofNat 8 b.toNat := by rw [BitVec.ofNat_toNat, BitVec.setWidth_eq]
  obtain h | h := h
  · rw [hb, h]
    exact (digit?_digitChar ⟨d, hd⟩).1
  · rw [hb, h]
    exact (digit?_digitChar ⟨d, hd⟩).2

theorem mapM_digit?_of_forall₂ {piece : List Byte} {ds : List Nat} (hlt : ∀ d ∈ ds, d < 16)
    (h : List.Forall₂ SpellsDigit piece (ds.map Nat.digitChar)) : piece.mapM digit? = some ds := by
  induction ds generalizing piece with
  | nil =>
    cases h
    rfl
  | cons d ds ih =>
    cases h with
    | cons hb hrest =>
      rw [List.mapM_cons, digit?_of_spellsDigit (hlt d List.mem_cons_self) hb,
        ih (fun e he => hlt e (List.mem_cons_of_mem d he)) hrest]
      rfl

/-- Digits in any mixture of cases are read as the word that they spell. -/
theorem word?_of_spellsWord {piece : List Byte} {w : Word} (h : SpellsWord piece w) :
    word? piece = some w := by
  obtain ⟨ds, hlt, -, hds, hvalue⟩ := exists_digits_hex w
  rw [SpellsWord, hds] at h
  rw [word?, mapM_digit?_of_forall₂ hlt h, Option.map_some, hvalue, BitVec.ofNat_toNat,
    BitVec.setWidth_eq]

theorem readPiece_of_spellsWord {piece : List Byte} {w : Word} (h : SpellsWord piece w)
    (index : Nat) : readPiece piece index = .ok w := by
  simp only [readPiece, word?_of_spellsWord h]

/-- Pieces that spell words are read as these words, wherever they stand. -/
theorem map_readPiece_of_forall₂ {pieces : List (List Byte)} {ws : List Word}
    (h : List.Forall₂ SpellsWord pieces ws) (start : Nat) :
    ((pieces.zipIdx start).map fun (piece, index) => readPiece piece index) = ws.map .ok := by
  induction h generalizing start with
  | nil => rfl
  | cons hw _ ih =>
    simp only [List.zipIdx_cons, List.map_cons, readPiece_of_spellsWord hw, ih]

/-- The digits of words, cut after every sixteen, are pieces that spell the words. -/
theorem forall₂_chunks {ws : List Word} {digits : List Byte}
    (h : List.Forall₂ SpellsDigit digits (ws.flatMap fun w => w.hex.toList)) :
    List.Forall₂ SpellsWord (chunks ws.length digitsPerWord digits) ws := by
  induction ws generalizing digits with
  | nil => exact .nil
  | cons w ws ih =>
    have hfirst := List.forall₂_take_append _ _ _ h
    have hrest := List.forall₂_drop_append _ _ _ h
    rw [length_hex] at hfirst hrest
    exact .cons hfirst (ih hrest)

theorem length_of_spells {text : List Byte} {ws : List Word} (h : Spells text ws) :
    (digits text).length = ws.length * digitsPerWord := by
  rw [digits_eq_filter, h.length_eq, List.length_flatMap]
  simp [length_hex, digitsPerWord]

/-- **A dump that spells words is read as these words.** -/
theorem words_of_spells {text : List Byte} {ws : List Word} (h : Spells text ws) :
    words (digits text) = ws.map .ok := by
  rw [words, length_of_spells h, Nat.mul_div_cancel _ (by decide), digits_eq_filter]
  exact map_readPiece_of_forall₂ (forall₂_chunks h) 0

/-! ## Putting dumps together -/

theorem Spells.append {s t : List Byte} {ws vs : List Word} (hs : Spells s ws)
    (ht : Spells t vs) : Spells (s ++ t) (ws ++ vs) := by
  rw [Spells, List.filter_append, List.flatMap_append]
  exact List.rel_append hs ht

/-- White space spells nothing. -/
theorem spells_blank {sep : List Byte} (h : ∀ b ∈ sep, b ∈ blanks) : Spells sep [] := by
  have hnone : sep.filter (· ∉ blanks) = [] := by
    refine List.filter_eq_nil_iff.2 fun b hb => ?_
    simpa using h b hb
  rw [Spells, hnone]
  exact .nil

/-- The bytes of a digit are one byte, which is not white space and spells the digit. -/
theorem encodeChar_digitChar : ∀ d : Fin 16,
    Text.Utf8.encodeChar (Nat.digitChar d) = [BitVec.ofNat 8 (Nat.digitChar d).toNat] ∧
      BitVec.ofNat 8 (Nat.digitChar d).toNat ∉ blanks ∧
      (BitVec.ofNat 8 (Nat.digitChar d).toNat).toNat = (Nat.digitChar d).toNat := by
  decide

/-- The digits of a word spell the word. -/
theorem spells_hex (w : Word) : Spells (Text.Utf8.encode w.hex) [w] := by
  obtain ⟨ds, hlt, -, hds, -⟩ := exists_digits_hex w
  rw [Spells, List.flatMap_singleton, Text.Utf8.encode, hds]
  clear hds
  induction ds with
  | nil => exact .nil
  | cons d ds ih =>
    obtain ⟨hbytes, hnot, hsame⟩ := encodeChar_digitChar ⟨d, hlt d List.mem_cons_self⟩
    rw [List.map_cons, List.flatMap_cons, hbytes, List.singleton_append,
      List.filter_cons_of_pos (by simpa using hnot)]
    exact .cons (Or.inl hsame) (ih fun e he => hlt e (List.mem_cons_of_mem d he))

end HexDump
end Ebpf
