import Mathlib
import Ebpf.Proofs.HexDump
import Ebpf.Proofs.Program.Blocks
import Ebpf.Proofs.Program.Numbering

/-!
# Words, bytes and dumps are loaded alike

A program can be written down as words, as the bytes of its words or as their digits. Whatever the
words are, loading one of these is loading the others, whether it succeeds or not.

* `Word.ofBytes_bytes` and `Word.bytes_ofBytes`: a word and its eight bytes determine each other;
  `Program.wordsOfBytes_flatMap_bytes` and `Program.flatMap_bytes_wordsOfBytes` say so for many.
* `Program.ofHexDump_of_spells`: a dump that spells words is loaded as these words.
* `Program.loaders_agree` puts the loaders side by side, and says which bytes are those of words.
* `Instruction.spells_raw`: the raw words of an instruction, as a listing shows them, spell its words.
* `Program.Loaded.ofHexDump_of_raw`: so the raw column of a listing is a dump of the program.
-/

namespace Ebpf

/-! ## Words and bytes -/

namespace Word

@[simp] theorem length_bytes (w : Word) : (bytes w).length = 8 := rfl

theorem bigEndian_append_singleton (bs : List Byte) (b : Byte) :
    bigEndian (bs ++ [b]) = 256 * bigEndian bs + b.toNat := by
  rw [bigEndian, List.foldl_append]
  rfl

theorem bigEndian_lt (bs : List Byte) : bigEndian bs < 256 ^ bs.length := by
  induction bs using List.reverseRecOn with
  | nil => exact Nat.one_pos
  | append_singleton bs b ih =>
    have := b.isLt
    rw [bigEndian_append_singleton, List.length_append, List.length_singleton, pow_succ]
    omega

/-- As many bytes that spell the same number are the same bytes. -/
theorem eq_of_bigEndian_eq {bs cs : List Byte} (hlen : bs.length = cs.length)
    (h : bigEndian bs = bigEndian cs) : bs = cs := by
  induction bs using List.reverseRecOn generalizing cs with
  | nil => exact (List.length_eq_zero_iff.1 hlen.symm).symm
  | append_singleton bs b ih =>
    induction cs using List.reverseRecOn with
    | nil => simp at hlen
    | append_singleton cs c _ =>
      have := b.isLt
      have := c.isLt
      simp only [bigEndian_append_singleton] at h
      simp only [List.length_append, List.length_singleton, Nat.add_right_cancel_iff] at hlen
      have hrest : bs = cs := ih hlen (by omega)
      have hlast : b = c := BitVec.eq_of_toNat_eq (by omega)
      rw [hrest, hlast]

/-- A quotient by a power of two is the quotient eight places higher with one more byte behind it. -/
theorem quotient_byte (n k : Nat) : 256 * (n / 2 ^ (k + 8)) + n / 2 ^ k % 2 ^ 8 = n / 2 ^ k := by
  rw [pow_add, ← Nat.div_div_eq_div_mul]
  exact Nat.div_add_mod (n / 2 ^ k) 256

/-- The bytes of a word spell it. -/
theorem bigEndian_bytes (w : Word) : bigEndian (bytes w) = w.toNat := by
  have htop : 256 * 0 + w.toNat / 2 ^ 56 % 2 ^ 8 = w.toNat / 2 ^ 56 := by
    have := w.isLt
    omega
  simp only [bytes, bigEndian, List.foldl_cons, List.foldl_nil, toNat_extract_eq]
  -- from the top byte down, each byte joins the quotient above it
  rw [htop, quotient_byte _ 48, quotient_byte _ 40, quotient_byte _ 32, quotient_byte _ 24,
    quotient_byte _ 16, quotient_byte _ 8, quotient_byte _ 0, pow_zero, Nat.div_one]

/-- The bytes of a word make up the word. -/
@[simp] theorem ofBytes_bytes (w : Word) : ofBytes (bytes w) = w := by
  rw [ofBytes, bigEndian_bytes, BitVec.ofNat_toNat, BitVec.setWidth_eq]

/-- Eight bytes are the bytes of the word that they make up. -/
theorem bytes_ofBytes {bs : List Byte} (h : bs.length = 8) : bytes (ofBytes bs) = bs := by
  refine eq_of_bigEndian_eq (by rw [length_bytes, h]) ?_
  have hlt : bigEndian bs < 2 ^ 64 := by simpa [h] using bigEndian_lt bs
  rw [bigEndian_bytes, ofBytes, BitVec.toNat_ofNat, Nat.mod_eq_of_lt hlt]

end Word

namespace Program

/-- The words of the bytes of words are these words. -/
theorem wordsOfBytes_flatMap_bytes (ws : List Word) :
    wordsOfBytes (ws.flatMap Word.bytes) = ws := by
  have hlen : (ws.flatMap Word.bytes).length / bytesPerWord = ws.length := by
    rw [List.length_flatMap]
    simp [bytesPerWord]
  rw [wordsOfBytes, hlen, bytesPerWord, chunks_flatMap Word.length_bytes, List.map_map]
  exact (List.map_congr_left fun w _ => Word.ofBytes_bytes w).trans (List.map_id ws)

/-- Bytes that are a whole number of words are the bytes of those words. -/
theorem flatMap_bytes_wordsOfBytes {bytes : List Byte} (h : 8 ∣ bytes.length) :
    (wordsOfBytes bytes).flatMap Word.bytes = bytes := by
  have hlen : bytes.length = bytes.length / bytesPerWord * bytesPerWord :=
    (Nat.div_mul_cancel h).symm
  rw [wordsOfBytes, List.flatMap_map]
  have hpieces : (chunks (bytes.length / bytesPerWord) bytesPerWord bytes).flatMap
      (fun piece => Word.bytes (Word.ofBytes piece)) =
      (chunks (bytes.length / bytesPerWord) bytesPerWord bytes).flatMap id :=
    List.flatMap_congr fun piece hpiece => Word.bytes_ofBytes (length_of_mem_chunks hlen hpiece)
  rw [hpieces, List.flatMap_id, flatten_chunks hlen]

/-- The bytes of words are loaded as the words. -/
theorem ofBytes_flatMap_bytes (ws : List Word) : ofBytes (ws.flatMap Word.bytes) = ofWords ws := by
  have hlen : (ws.flatMap Word.bytes).length % bytesPerWord = 0 := by
    rw [List.length_flatMap]
    simp [bytesPerWord]
  rw [ofBytes, if_pos hlen, wordsOfBytes_flatMap_bytes]

/-- Words make a program, or the last one lacks its extension. -/
theorem ofWords_cases (ws : List Word) :
    (∃ p, ofWords ws = .ok p) ∨
      ∃ slot opcode, ofWords ws = .error (.missingExtension slot opcode) := by
  cases h : ofWords ws with
  | ok p => exact Or.inl ⟨p, rfl⟩
  | error e =>
    obtain ⟨is, w, -, -, rfl⟩ := ofWords_eq_error_iff.1 h
    exact Or.inr ⟨_, _, rfl⟩

/-- Bytes are refused for their number exactly if they are no whole number of words. -/
theorem ofBytes_eq_brokenLength_iff (bytes : List Byte) :
    ofBytes bytes = .error (.brokenLength bytes.length 8) ↔ ¬ 8 ∣ bytes.length := by
  rw [Nat.dvd_iff_mod_eq_zero, ofBytes, bytesPerWord]
  constructor
  · intro h hlen
    rw [if_pos hlen] at h
    obtain ⟨p, hp⟩ | ⟨slot, opcode, hw⟩ := ofWords_cases (wordsOfBytes bytes)
    · rw [hp] at h
      cases h
    · rw [hw] at h
      cases h
  · intro hlen
    rw [if_neg hlen]

/-! ## Dumps -/

/-- A dump that spells words is loaded as these words. -/
theorem ofHexDump_of_spells {text : List Byte} {ws : List Word} (h : HexDump.Spells text ws) :
    ofHexDump text = ofWords ws := by
  have hlen : (HexDump.digits text).length % HexDump.digitsPerWord = 0 := by
    rw [HexDump.length_of_spells h, Nat.mul_mod_left]
  simp only [ofHexDump, hlen, if_true, HexDump.words_of_spells h, List.map_map]
  rfl

/-- **The loaders agree.** The bytes of words are loaded as the words, and so is every dump that
spells them, with digits in either case and white space anywhere: the result is the same program, or
the same missing extension. Bytes are refused for their number exactly if they are no whole number
of words, and all others are the bytes of one list of words and no other. -/
theorem loaders_agree :
    (∀ ws : List Word, ofBytes (ws.flatMap Word.bytes) = ofWords ws) ∧
    (∀ (ws : List Word) (text : List Byte), HexDump.Spells text ws →
      ofHexDump text = ofWords ws) ∧
    (∀ ws : List Word, (∃ p, ofWords ws = .ok p) ∨
      ∃ slot opcode, ofWords ws = .error (.missingExtension slot opcode)) ∧
    (∀ bytes : List Byte,
      (ofBytes bytes = .error (.brokenLength bytes.length 8) ↔ ¬ 8 ∣ bytes.length) ∧
      (8 ∣ bytes.length → ∃! ws : List Word, ws.flatMap Word.bytes = bytes)) := by
  refine ⟨ofBytes_flatMap_bytes, fun ws text => ofHexDump_of_spells, ofWords_cases, ?_⟩
  intro bytes
  refine ⟨ofBytes_eq_brokenLength_iff bytes, fun h => ⟨wordsOfBytes bytes, ?_, ?_⟩⟩
  · exact flatMap_bytes_wordsOfBytes h
  · rintro ws rfl
    exact (wordsOfBytes_flatMap_bytes ws).symm

/-- A dump with white space inside words and digits in both cases, of a move and a wide word that
has no extension. -/
theorem dump_of_cut_wide_word :
    ∃ text : List Byte, HexDump.Spells text [0xb701000000000000, 0x180100000000abcd] ∧
      text = Text.Utf8.encode " B701 0000\n00000000180100000000aB\tcD" ∧
      ofHexDump text = .error (.missingExtension 1 0x18) := by
  have h : HexDump.Spells (Text.Utf8.encode " B701 0000\n00000000180100000000aB\tcD")
      [0xb701000000000000, 0x180100000000abcd] := by
    decide +kernel
  refine ⟨_, h, rfl, ?_⟩
  rw [loaders_agree.2.1 _ _ h]
  rfl

end Program

/-! ## The raw column of a listing -/

/-- A text of sixteen lower-case hexadecimal digits. -/
def IsHexWord (s : String) : Prop :=
  s.length = 16 ∧ ∀ c ∈ s.toList, c ∈ "0123456789abcdef".toList

theorem isHexWord_hex (w : Word) : IsHexWord w.hex := by
  obtain ⟨ds, hlt, hlen, hds, -⟩ := HexDump.exists_digits_hex w
  have hdigit : ∀ d : Fin 16, Nat.digitChar d ∈ "0123456789abcdef".toList := by decide
  refine ⟨by rw [← String.length_toList, hds, List.length_map, hlen], ?_⟩
  intro c hc
  rw [hds] at hc
  obtain ⟨d, hd, rfl⟩ := List.mem_map.1 hc
  exact hdigit ⟨d, hlt d hd⟩

namespace Instruction

/-- The raw words of an instruction are one group of digits or two. -/
theorem raw_groups (i : Instruction) :
    IsHexWord i.raw ∨ ∃ s t, IsHexWord s ∧ IsHexWord t ∧ i.raw = s ++ " " ++ t := by
  induction i using byWidth with
  | narrow w h => exact Or.inl (isHexWord_hex w)
  | wide w x h => exact Or.inr ⟨w.hex, x.hex, isHexWord_hex w, isHexWord_hex x, rfl⟩

/-- The raw words of an instruction spell its words. -/
theorem spells_raw (i : Instruction) : HexDump.Spells (Text.Utf8.encode i.raw) i.words := by
  induction i using byWidth with
  | narrow w h => exact HexDump.spells_hex w
  | wide w x h =>
    have hspace : HexDump.Spells (Text.Utf8.encode " ") [] := HexDump.spells_blank (by decide)
    have hraw : Text.Utf8.encode (wide w x h).raw =
        Text.Utf8.encode w.hex ++ Text.Utf8.encode " " ++ Text.Utf8.encode x.hex := by
      simp only [wide, raw, Text.Utf8.encode, String.toList_append, List.flatMap_append]
    rw [hraw]
    exact ((HexDump.spells_hex w).append hspace).append (HexDump.spells_hex x)

end Instruction

namespace HexDump

/-- Texts one after the other, with something before each of them and behind the last. -/
def separated (sep : Nat → List Byte) : List String → List Byte
  | [] => sep 0
  | t :: ts => sep 0 ++ Text.Utf8.encode t ++ separated (fun k => sep (k + 1)) ts

/-- The raw words of instructions, with any white space between them, spell the words of all. -/
theorem spells_separated_raw {sep : Nat → List Byte} (hsep : ∀ k, ∀ b ∈ sep k, b ∈ blanks)
    (is : List Instruction) :
    Spells (separated sep (is.map Instruction.raw)) (is.flatMap Instruction.words) := by
  induction is generalizing sep with
  | nil => exact spells_blank (hsep 0)
  | cons i is ih =>
    have hfirst : Spells (sep 0 ++ Text.Utf8.encode i.raw) i.words :=
      (spells_blank (hsep 0)).append i.spells_raw
    exact hfirst.append (ih fun k => hsep (k + 1))

end HexDump

namespace Program

/-- **The raw column of a listing is a dump of the program.** The raw words of every instruction are
sixteen lower-case digits, or two such groups with a space between them. One after the other, with
any white space or none between them, they are loaded as the program again. -/
theorem Loaded.ofHexDump_of_raw {p : Program} (h : p.Loaded) {sep : Nat → List Byte}
    (hsep : ∀ k, ∀ b ∈ sep k, b ∈ HexDump.blanks) :
    (∀ x ∈ p.instructions, IsHexWord x.2.raw ∨
      ∃ s t, IsHexWord s ∧ IsHexWord t ∧ x.2.raw = s ++ " " ++ t) ∧
    Program.ofHexDump (HexDump.separated sep (p.instructions.map fun x => x.2.raw)) = .ok p := by
  obtain ⟨is, rfl⟩ := h.exists_instructions
  refine ⟨fun x _ => x.2.raw_groups, ?_⟩
  have htexts : (Program.ofInstructions is).instructions.map (fun x => x.2.raw) =
      is.map Instruction.raw := by
    rw [instructions_ofInstructions, ← Function.comp_def, ← List.map_map, map_snd_numbered]
  rw [htexts, ofHexDump_of_spells (HexDump.spells_separated_raw hsep is), ofWords_flatMap_words]

/-- A wide load, a move and an addition, with a line break behind the first and nothing behind the
second. -/
theorem reload_of_wide_load :
    ∃ p : Program, p.Loaded ∧ p.size = 4 ∧
      ofHexDump (HexDump.separated (fun k => if k = 1 then [0x0d, 0x0a] else [])
        ["1801000000000000 00000000000000ff", "b700000007000000", "07000000000000a0"]) = .ok p := by
  let p : Program := .ofInstructions [.wide 0x1801000000000000 0xff rfl,
    .narrow 0xb700000007000000 (by decide), .narrow 0x07000000000000a0 (by decide)]
  let sep : Nat → List Byte := fun k => if k = 1 then [0x0d, 0x0a] else []
  have loaded : p.Loaded := .ofInstructions _
  have hraw : p.instructions.map (fun x => x.2.raw) =
      ["1801000000000000 00000000000000ff", "b700000007000000", "07000000000000a0"] := by
    decide +kernel
  have hsep : ∀ k, ∀ b ∈ sep k, b ∈ HexDump.blanks := by
    intro k
    by_cases hk : k = 1 <;> simp [sep, hk, HexDump.blanks]
  have hload := (loaded.ofHexDump_of_raw hsep).2
  rw [hraw] at hload
  exact ⟨p, loaded, rfl, hload⟩

end Program
end Ebpf
