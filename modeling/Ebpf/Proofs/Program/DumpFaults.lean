import Mathlib
import Ebpf.Proofs.Program.Encodings
import Ebpf.Proofs.Program.Grammar

/-!
# Which fault of a dump is reported

A dump may have an odd number of digits, something else than digits in a word, or a wide word
without its extension. The number of digits is looked at first; after that, the fault that is
reported is the one that is met first when the dump is read from left to right.

* `HexDump.IsDigit`: a byte that spells a digit, in either case.
* `HexDump.CutInto`: the pieces of sixteen bytes that a dump without its white space is made of;
  `HexDump.existsUnique_cutInto` says when there are any.
* `HexDump.exists_spellsWord`: sixteen digits spell a word. They have one value
  (`HexDump.eq_of_value_eq`), and this needs no reading.
* `Program.ofHexDump_of_bad`: a dump with an unreadable piece is loaded as what is before the piece,
  and if that makes a program, the piece is the fault.
* `Program.ofHexDump_reports_first_fault`: what is reported, in every case.
-/

namespace Ebpf
namespace HexDump

/-! ## Digits and other bytes -/

/-- The byte spells a digit, in lower or in upper case. -/
def IsDigit (b : Byte) : Prop := ∃ d : Fin 16, SpellsDigit b (Nat.digitChar d)

instance (b : Byte) : Decidable (IsDigit b) :=
  inferInstanceAs (Decidable (∃ _, _))

/-- What is read as a digit spells that digit. -/
theorem spellsDigit_of_digit? :
    ∀ b : Byte, ∀ d ∈ digit? b, d < 16 ∧ SpellsDigit b (Nat.digitChar d) := by
  decide +kernel

theorem digit?_eq_none {b : Byte} (h : ¬ IsDigit b) : digit? b = none := by
  cases hb : digit? b with
  | none => rfl
  | some d =>
    obtain ⟨hd, hspells⟩ := spellsDigit_of_digit? b d hb
    exact absurd ⟨⟨d, hd⟩, hspells⟩ h

/-- Neither signs nor the letter of a prefix nor bytes outside ASCII are digits. -/
theorem IsDigit.lt_and_ne {b : Byte} (h : IsDigit b) :
    b.toNat < 0x80 ∧ b.toNat ≠ '+'.toNat ∧ b.toNat ≠ '-'.toNat ∧ b.toNat ≠ 'x'.toNat := by
  have hlower : ∀ d : Fin 16, (Nat.digitChar d).toNat < 0x80 ∧
      (Nat.digitChar d).toNat ≠ '+'.toNat ∧ (Nat.digitChar d).toNat ≠ '-'.toNat ∧
      (Nat.digitChar d).toNat ≠ 'x'.toNat := by
    decide
  have hupper : ∀ d : Fin 16, (Nat.digitChar d).toUpper.toNat < 0x80 ∧
      (Nat.digitChar d).toUpper.toNat ≠ '+'.toNat ∧
      (Nat.digitChar d).toUpper.toNat ≠ '-'.toNat ∧
      (Nat.digitChar d).toUpper.toNat ≠ 'x'.toNat := by
    decide
  obtain ⟨d, h | h⟩ := h
  · rw [h]
    exact hlower d
  · rw [h]
    exact hupper d

/-! ## Sixteen digits spell a word -/

theorem value_eq_ofDigits (ds : List Nat) : value ds = Nat.ofDigits 16 ds.reverse := by
  rw [value, Nat.ofDigits_eq_foldr, List.foldr_reverse]
  simp only [Nat.cast_id, Nat.add_comm]

theorem value_lt {ds : List Nat} (h : ∀ d ∈ ds, d < 16) : value ds < 16 ^ ds.length := by
  have hlt := Nat.ofDigits_lt_base_pow_length (by decide : 1 < 16)
    (fun d (hd : d ∈ ds.reverse) => h d (List.mem_reverse.1 hd))
  rwa [← value_eq_ofDigits, List.length_reverse] at hlt

/-- As many digits with the same value are the same digits. -/
theorem eq_of_value_eq {ds es : List Nat} (hlen : ds.length = es.length) (hds : ∀ d ∈ ds, d < 16)
    (hes : ∀ e ∈ es, e < 16) (h : value ds = value es) : ds = es := by
  rw [value_eq_ofDigits, value_eq_ofDigits] at h
  have hrev := Nat.ofDigits_inj_of_len_eq (by decide : 1 < 16) (by simpa using hlen)
    (fun d hd => hds d (List.mem_reverse.1 hd)) (fun e he => hes e (List.mem_reverse.1 he)) h
  exact List.reverse_injective hrev

/-- Bytes that are all digits, as numbers. -/
theorem exists_digits_of_isDigit {piece : List Byte} (h : ∀ b ∈ piece, IsDigit b) :
    ∃ ds : List Nat, (∀ d ∈ ds, d < 16) ∧
      List.Forall₂ SpellsDigit piece (ds.map Nat.digitChar) := by
  induction piece with
  | nil => exact ⟨[], by simp, .nil⟩
  | cons b piece ih =>
    obtain ⟨d, hd⟩ := h b List.mem_cons_self
    obtain ⟨ds, hlt, hds⟩ := ih fun c hc => h c (List.mem_cons_of_mem b hc)
    refine ⟨d.val :: ds, ?_, .cons hd hds⟩
    intro e he
    rcases List.mem_cons.1 he with rfl | he
    · exact d.isLt
    · exact hlt e he

/-- **Sixteen digits spell a word.** -/
theorem exists_spellsWord {piece : List Byte} (hlen : piece.length = 16)
    (h : ∀ b ∈ piece, IsDigit b) : ∃ w, SpellsWord piece w := by
  obtain ⟨ds, hlt, hds⟩ := exists_digits_of_isDigit h
  have hcount : ds.length = 16 := by rw [← hlen, hds.length_eq, List.length_map]
  have hvalue : value ds < 2 ^ 64 := by
    have := value_lt hlt
    rwa [hcount] at this
  -- the digits of the word with this value are these very digits
  obtain ⟨es, hes, heslen, hhex, hsame⟩ := exists_digits_hex (BitVec.ofNat 64 (value ds))
  rw [BitVec.toNat_ofNat, Nat.mod_eq_of_lt hvalue] at hsame
  obtain rfl : es = ds := eq_of_value_eq (heslen.trans hcount.symm) hes hlt hsame
  exact ⟨_, by rwa [SpellsWord, hhex]⟩

theorem exists_spellsWords {pieces : List (List Byte)} (hlen : ∀ piece ∈ pieces, piece.length = 16)
    (h : ∀ piece ∈ pieces, ∀ b ∈ piece, IsDigit b) :
    ∃ ws, List.Forall₂ SpellsWord pieces ws := by
  induction pieces with
  | nil => exact ⟨[], .nil⟩
  | cons piece pieces ih =>
    obtain ⟨w, hw⟩ := exists_spellsWord (hlen piece List.mem_cons_self) (h piece List.mem_cons_self)
    obtain ⟨ws, hws⟩ := ih (fun p hp => hlen p (List.mem_cons_of_mem piece hp))
      (fun p hp => h p (List.mem_cons_of_mem piece hp))
    exact ⟨w :: ws, .cons hw hws⟩

/-- A piece with something else than digits is no word. -/
theorem word?_eq_none {piece : List Byte} (h : ∃ b ∈ piece, ¬ IsDigit b) : word? piece = none := by
  have hmap : piece.mapM digit? = none := by
    obtain ⟨b, hb, hnot⟩ := h
    induction piece with
    | nil => cases hb
    | cons c piece ih =>
      rw [List.mapM_cons]
      rcases List.mem_cons.1 hb with rfl | hb
      · rw [digit?_eq_none hnot]
        rfl
      · rw [ih hb]
        cases digit? c <;> rfl
  rw [word?, hmap, Option.map_none]

/-! ## Pieces of a dump -/

/-- Without its white space, the text is these pieces, sixteen bytes each. -/
structure CutInto (text : List Byte) (pieces : List (List Byte)) : Prop where
  /-- Together they are what is not white space. -/
  flatten_eq : pieces.flatten = text.filter (· ∉ blanks)
  /-- Each of them has sixteen bytes. -/
  length_eq : ∀ piece ∈ pieces, piece.length = 16

theorem length_digits (text : List Byte) : (digits text).length = text.countP (· ∉ blanks) := by
  rw [digits_eq_filter, List.countP_eq_length_filter]

namespace CutInto

variable {text : List Byte} {pieces : List (List Byte)}

theorem digits_eq (h : CutInto text pieces) : digits text = pieces.flatten := by
  rw [digits_eq_filter, h.flatten_eq]

theorem length_digits_eq (h : CutInto text pieces) :
    (digits text).length = pieces.length * digitsPerWord := by
  rw [h.digits_eq, length_flatten_of_forall h.length_eq, digitsPerWord]

/-- The pieces are where the reader cuts. -/
theorem chunks_eq (h : CutInto text pieces) :
    chunks ((digits text).length / digitsPerWord) digitsPerWord (digits text) = pieces := by
  rw [h.length_digits_eq, Nat.mul_div_cancel _ (by decide), h.digits_eq]
  exact chunks_flatten h.length_eq

theorem words_eq (h : CutInto text pieces) :
    words (digits text) = pieces.zipIdx.map fun (piece, index) => readPiece piece index := by
  rw [words, h.chunks_eq]

/-- If every piece spells a word, the text spells these words. -/
theorem spells {ws : List Word} (h : CutInto text pieces)
    (hws : List.Forall₂ SpellsWord pieces ws) : Spells text ws := by
  have hrel : List.Forall₂ (List.Forall₂ SpellsDigit) pieces (ws.map fun w => w.hex.toList) :=
    List.forall₂_map_right_iff.2 hws
  rw [Spells, ← h.flatten_eq]
  exact List.rel_flatten hrel

end CutInto

/-- A whole number of words is cut into pieces in one way. -/
theorem existsUnique_cutInto {text : List Byte} (h : 16 ∣ text.countP (· ∉ blanks)) :
    ∃! pieces, CutInto text pieces := by
  rw [← length_digits] at h
  have hlen : (digits text).length = (digits text).length / digitsPerWord * digitsPerWord :=
    (Nat.div_mul_cancel h).symm
  refine ⟨chunks ((digits text).length / digitsPerWord) digitsPerWord (digits text), ⟨?_, ?_⟩, ?_⟩
  · rw [flatten_chunks hlen, digits_eq_filter]
  · exact fun piece hpiece => length_of_mem_chunks hlen hpiece
  · exact fun pieces hpieces => hpieces.chunks_eq.symm

/-- A piece with something else than digits is read as what stands there and where it stands. -/
theorem readPiece_of_bad {bad : List Byte} (h : ∃ b ∈ bad, ¬ IsDigit b) (index : Nat) :
    readPiece bad index = .error ⟨16 * index, Text.Utf8.decodeLossy bad⟩ := by
  rw [readPiece, word?_eq_none h, digitsPerWord, Nat.mul_comm]

/-- Behind pieces that spell words, a piece that does not is read with their number before it. -/
theorem CutInto.words_eq_append {text : List Byte} {before after : List (List Byte)}
    {bad : List Byte} {ws : List Word} (h : CutInto text (before ++ bad :: after))
    (hws : List.Forall₂ SpellsWord before ws) (hbad : ∃ b ∈ bad, ¬ IsDigit b) :
    ∃ rest, words (digits text) =
      ws.map .ok ++ .error ⟨16 * before.length, Text.Utf8.decodeLossy bad⟩ :: rest := by
  rw [h.words_eq, List.zipIdx_append, List.map_append, map_readPiece_of_forall₂ hws]
  simp only [List.zipIdx_cons, List.map_cons, readPiece_of_bad hbad, Nat.zero_add]
  exact ⟨_, rfl⟩

end HexDump

namespace Program

open HexDump

/-! ## Loading pieces -/

/-- A dump with a word that cannot be read is loaded as the words before it, and if they make a
program, that word is the fault. -/
theorem ofHexDump_of_bad {text : List Byte} {before after : List (List Byte)} {bad : List Byte}
    {ws : List Word} (h : CutInto text (before ++ bad :: after))
    (hws : List.Forall₂ SpellsWord before ws) (hbad : ∃ b ∈ bad, ¬ IsDigit b) :
    ofHexDump text = ofWords ws >>= fun _ =>
      .error (.badDigits (16 * before.length) (Text.Utf8.decodeLossy bad)) := by
  have hlen : (digits text).length % digitsPerWord = 0 := by
    rw [h.length_digits_eq, Nat.mul_mod_left]
  obtain ⟨rest, hrest⟩ := h.words_eq_append hws hbad
  simp only [ofHexDump, hlen, if_true, hrest, List.map_append, List.map_cons, List.map_map]
  exact ofReadings_append_unreadable ws _ _

/-- The fault of words is that the last one has no extension. -/
theorem exists_getLast?_of_ofWords_eq_error {ws : List Word} {e : LoadFault}
    (h : ofWords ws = .error e) : ∃ last, ws.getLast? = some last ∧
      e = .missingExtension (ws.length - 1) (BitVec.ofNat 8 (last.toNat / 2 ^ 56)) := by
  obtain ⟨is, w, -, rfl, rfl⟩ := ofWords_eq_error_iff.1 h
  exact ⟨w, List.getLast?_concat, (missingExtension_concat _ w).symm⟩

/-- **The first fault of a dump is reported.** Count the bytes that are not white space. If there is
no whole number of words, this is the fault, whatever the bytes are. Otherwise they are pieces of
sixteen bytes, in one way.

If all bytes are digits, the pieces spell words, these words are loaded, and no word is reported as
unreadable.

If not, take the first piece that has another byte. The pieces before it spell words. If those make
a program, the piece is reported as unreadable, with its place and its text. If they do not, the
last of them is reported for its missing extension. What comes after the piece makes no
difference.

No byte outside ASCII is a digit, nor is a plus sign, a minus sign or the letter x. -/
theorem ofHexDump_reports_first_fault (text : List Byte) :
    (¬ 16 ∣ text.countP (· ∉ blanks) →
      ofHexDump text = .error (.brokenLength (text.countP (· ∉ blanks)) 16)) ∧
    (16 ∣ text.countP (· ∉ blanks) → ∃! pieces, CutInto text pieces) ∧
    (∀ pieces, CutInto text pieces → (∀ piece ∈ pieces, ∀ b ∈ piece, IsDigit b) →
      ∃ ws, List.Forall₂ SpellsWord pieces ws ∧ ofHexDump text = ofWords ws ∧
        ∀ offset word, ofHexDump text ≠ .error (.badDigits offset word)) ∧
    (∀ before bad after, CutInto text (before ++ bad :: after) →
      (∀ piece ∈ before, ∀ b ∈ piece, IsDigit b) → (∃ b ∈ bad, ¬ IsDigit b) →
      ∃ ws, List.Forall₂ SpellsWord before ws ∧
        (∀ p, ofWords ws = .ok p → ofHexDump text =
          .error (.badDigits (16 * before.length) (Text.Utf8.decodeLossy bad))) ∧
        (∀ e, ofWords ws = .error e → ∃ last, ws.getLast? = some last ∧ ofHexDump text =
          .error (.missingExtension (before.length - 1) (BitVec.ofNat 8 (last.toNat / 2 ^ 56)))) ∧
        ∀ text' after', CutInto text' (before ++ bad :: after') →
          ofHexDump text' = ofHexDump text) ∧
    (∀ b, IsDigit b →
      b.toNat < 0x80 ∧ b.toNat ≠ '+'.toNat ∧ b.toNat ≠ '-'.toNat ∧ b.toNat ≠ 'x'.toNat) := by
  refine ⟨?_, existsUnique_cutInto, ?_, ?_, fun b => IsDigit.lt_and_ne⟩
  · intro hlen
    rw [← length_digits, Nat.dvd_iff_mod_eq_zero] at hlen
    rw [← length_digits]
    exact if_neg hlen
  · intro pieces hcut hdigits
    obtain ⟨ws, hws⟩ := exists_spellsWords hcut.length_eq hdigits
    have hload : ofHexDump text = ofWords ws := ofHexDump_of_spells (hcut.spells hws)
    refine ⟨ws, hws, hload, fun offset word hbad => ?_⟩
    obtain ⟨last, -, hfault⟩ := exists_getLast?_of_ofWords_eq_error (hload ▸ hbad)
    cases hfault
  · intro before bad after hcut hdigits hbad
    have hbefore : ∀ piece ∈ before, piece.length = 16 := fun piece hpiece =>
      hcut.length_eq piece (List.mem_append_left _ hpiece)
    obtain ⟨ws, hws⟩ := exists_spellsWords hbefore hdigits
    have hload := ofHexDump_of_bad hcut hws hbad
    refine ⟨ws, hws, ?_, ?_, ?_⟩
    · intro p hp
      rw [hload, hp]
      rfl
    · intro e he
      obtain ⟨last, hlast, rfl⟩ := exists_getLast?_of_ofWords_eq_error he
      refine ⟨last, hlast, ?_⟩
      rw [hload, he, hws.length_eq]
      rfl
    · intro text' after' hcut'
      rw [ofHexDump_of_bad hcut' hws hbad, hload]

/-- A word with a sign and a byte outside ASCII behind a move; and a word with the prefix of a
hexadecimal number where a wide load has its extension. -/
theorem ofHexDump_of_unreadable_words :
    ofHexDump (Text.Utf8.encode "b7010000 00000000\n+70100000000000" ++ [0xff]) =
      .error (.badDigits 16 "+70100000000000\ufffd") ∧
    ofHexDump (Text.Utf8.encode "1801000000000000 0x18000000000000 zzzzzzzzzzzzzzzz") =
      .error (.missingExtension 0 0x18) := by
  constructor
  · obtain ⟨ws, hws, hok, -, -⟩ := (ofHexDump_reports_first_fault
      (Text.Utf8.encode "b7010000 00000000\n+70100000000000" ++ [0xff])).2.2.2.1
        [Text.Utf8.encode "b701000000000000"] (Text.Utf8.encode "+70100000000000" ++ [0xff]) []
        ⟨by decide +kernel, by decide +kernel⟩ (by decide +kernel) (by decide +kernel)
    obtain rfl : [0xb701000000000000] = ws := by
      obtain _ | ⟨hw, _ | _⟩ := hws
      exact congrArg (fun w => [w]) (Option.some.inj (word?_of_spellsWord hw))
    rw [hok _ rfl]
    decide +kernel
  · obtain ⟨ws, hws, -, hcut, -⟩ := (ofHexDump_reports_first_fault
      (Text.Utf8.encode "1801000000000000 0x18000000000000 zzzzzzzzzzzzzzzz")).2.2.2.1
        [Text.Utf8.encode "1801000000000000"] (Text.Utf8.encode "0x18000000000000")
        [Text.Utf8.encode "zzzzzzzzzzzzzzzz"]
        ⟨by decide +kernel, by decide +kernel⟩ (by decide +kernel) (by decide +kernel)
    obtain rfl : [0x1801000000000000] = ws := by
      obtain _ | ⟨hw, _ | _⟩ := hws
      exact congrArg (fun w => [w]) (Option.some.inj (word?_of_spellsWord hw))
    obtain ⟨last, hlast, hload⟩ := hcut _ rfl
    obtain rfl : 0x1801000000000000 = last := Option.some.inj hlast
    exact hload

end Program
end Ebpf
