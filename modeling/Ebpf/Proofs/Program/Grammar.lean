import Mathlib
import Ebpf.Proofs.Program.Blocks

/-!
# Which words make a program

Words make a program exactly if they follow the grammar `(narrow | wide any)*`. Whether a word is
wide is said here of the bits of its top byte, and the grammar knows nothing of instructions.

* `Word.isWide_iff`: the words that the loader takes for wide are the wide words of the grammar.
* `IsBlock.append_inj`: no block is the start of another block, so words can be cut into blocks in
  one way at most (`IsCutting.unique`).
* `exists_isCutting_iff`: the words that can be cut into blocks are those of instructions.
* `Program.ofWords_grammar`: the loader accepts exactly the words that can be cut, and the one thing
  it finds wrong with others is a last wide word that is left over.
-/

namespace Ebpf

/-! ## Wide words -/

/-- The opcode of the word asks for a second word: of the top byte, the low three bits are at most
three and the top three bits are zero. -/
def Word.HasWideOpcode (w : Word) : Prop :=
  w.toNat / 2 ^ 56 % 8 ≤ 3 ∧ w.toNat / 2 ^ 56 / 32 = 0

instance (w : Word) : Decidable w.HasWideOpcode :=
  inferInstanceAs (Decidable (_ ∧ _))

/-- An opcode is wide if its low bits say load or store and its top bits say immediate. -/
theorem Opcode.isWide_ofByte_iff :
    ∀ b : Byte, (ofByte b).isWide = true ↔ b.toNat % 8 ≤ 3 ∧ b.toNat / 32 = 0 := by
  decide

theorem Word.isWide_iff (w : Word) : w.isWide = true ↔ w.HasWideOpcode := by
  have htop : w.toNat / 2 ^ 56 < 2 ^ 8 := by
    have := w.isLt
    omega
  rw [isWide, Opcode.isWide_ofByte_iff, opcode_eq_top, BitVec.toNat_ofNat, Nat.mod_eq_of_lt htop]
  rfl

/-! ## Blocks of words -/

/-- A block: a narrow word, or a wide word and any word behind it. -/
inductive IsBlock : List Word → Prop
  /-- A word that is not wide. -/
  | narrow {w : Word} (h : ¬ w.HasWideOpcode) : IsBlock [w]
  /-- A wide word and one more, which may look like anything. -/
  | wide {w : Word} (h : w.HasWideOpcode) (x : Word) : IsBlock [w, x]

namespace IsBlock

theorem ne_nil {block : List Word} (h : IsBlock block) : block ≠ [] := by
  cases h <;> simp

/-- Where one block ends is decided by its own words, whatever follows. -/
theorem append_inj {block block' rest rest' : List Word} (h : IsBlock block)
    (h' : IsBlock block') (heq : block ++ rest = block' ++ rest') :
    block = block' ∧ rest = rest' := by
  cases h with
  | narrow hw =>
    cases h' with
    | narrow hw' => simpa using heq
    | wide hw' x =>
      obtain rfl := (List.cons.inj heq).1
      exact absurd hw' hw
  | wide hw x =>
    cases h' with
    | narrow hw' =>
      obtain rfl := (List.cons.inj heq).1
      exact absurd hw hw'
    | wide hw' x' => simpa [and_assoc] using heq

end IsBlock

/-- Blocks are the words of one instruction. -/
theorem isBlock_iff {block : List Word} : IsBlock block ↔ ∃ i : Instruction, i.words = block := by
  constructor
  · intro h
    cases h with
    | @narrow w hw => exact ⟨.narrow w (mt w.isWide_iff.1 hw), rfl⟩
    | @wide w hw x => exact ⟨.wide w x (w.isWide_iff.2 hw), rfl⟩
  · rintro ⟨i, rfl⟩
    induction i using Instruction.byWidth with
    | narrow w hw => exact .narrow (mt w.isWide_iff.2 hw)
    | wide w x hw => exact .wide (w.isWide_iff.1 hw) x

/-! ## Cutting words into blocks -/

/-- The words are these blocks, one after the other. -/
structure IsCutting (ws : List Word) (blocks : List (List Word)) : Prop where
  /-- Each of them is a block. -/
  isBlock : ∀ block ∈ blocks, IsBlock block
  /-- Together they are the words. -/
  flatten_eq : blocks.flatten = ws

namespace IsCutting

variable {ws : List Word} {block : List Word} {blocks blocks' : List (List Word)}

theorem eq_nil (h : IsCutting [] blocks) : blocks = [] := by
  cases blocks with
  | nil => rfl
  | cons block rest =>
    have hnil : block = [] := (List.append_eq_nil_iff.1 h.flatten_eq).1
    exact absurd hnil (h.isBlock block List.mem_cons_self).ne_nil

theorem tail (h : IsCutting ws (block :: blocks)) : IsCutting blocks.flatten blocks :=
  ⟨fun b hb => h.isBlock b (List.mem_cons_of_mem block hb), rfl⟩

/-- There is one way at most to cut words into blocks. -/
theorem unique (h : IsCutting ws blocks) (h' : IsCutting ws blocks') : blocks = blocks' := by
  induction blocks generalizing ws blocks' with
  | nil =>
    obtain rfl : [] = ws := h.flatten_eq
    exact h'.eq_nil.symm
  | cons block rest ih =>
    cases blocks' with
    | nil =>
      obtain rfl : [] = ws := h'.flatten_eq
      exact h.eq_nil
    | cons block' rest' =>
      -- both start with the same block, and the rest is the same words again
      have heq : block ++ rest.flatten = block' ++ rest'.flatten :=
        h.flatten_eq.trans h'.flatten_eq.symm
      obtain ⟨rfl, hrest⟩ := (h.isBlock block List.mem_cons_self).append_inj
        (h'.isBlock block' List.mem_cons_self) heq
      rw [ih h.tail (hrest ▸ h'.tail)]

end IsCutting

/-- The words that can be cut into blocks are those of instructions. -/
theorem exists_isCutting_iff {ws : List Word} :
    (∃ blocks, IsCutting ws blocks) ↔
      ∃ is : List Instruction, ws = is.flatMap Instruction.words := by
  constructor
  · rintro ⟨blocks, hblock, rfl⟩
    have hrange : blocks ∈ Set.range (List.map Instruction.words) := by
      rw [Set.range_list_map]
      exact fun block hb => isBlock_iff.1 (hblock block hb)
    obtain ⟨is, rfl⟩ := hrange
    exact ⟨is, rfl⟩
  · rintro ⟨is, rfl⟩
    refine ⟨is.map Instruction.words, ?_, rfl⟩
    intro block hb
    obtain ⟨i, -, rfl⟩ := List.mem_map.1 hb
    exact isBlock_iff.2 ⟨i, rfl⟩

/-! ## What the loader accepts -/

namespace Program

theorem exists_ofWords_iff {ws : List Word} :
    (∃ p, ofWords ws = .ok p) ↔ ∃ is : List Instruction, ws = is.flatMap Instruction.words := by
  constructor
  · rintro ⟨p, hp⟩
    obtain ⟨is, his, -⟩ := ofWords_eq_ok_iff.1 hp
    exact ⟨is, his⟩
  · rintro ⟨is, rfl⟩
    exact ⟨_, ofWords_flatMap_words is⟩

/-- A last wide word stands at the last slot, and its opcode is its top byte. -/
theorem missingExtension_concat (ws : List Word) (w : Word) :
    LoadFault.missingExtension ((ws ++ [w]).length - 1) (BitVec.ofNat 8 (w.toNat / 2 ^ 56)) =
      .missingExtension ws.length w.opcode := by
  rw [List.length_append, List.length_singleton, Nat.add_sub_cancel, Word.opcode_eq_top]

/-- **The loader accepts the grammar `(narrow | wide any)*`.** Words are loaded exactly if they can
be cut into blocks, and there is never more than one way to do so. They are refused exactly if a
wide word stands behind words that are accepted; the fault is then that this last word, at the last
slot, has no extension, and there is no other fault. -/
theorem ofWords_grammar (ws : List Word) :
    ((∃ p, ofWords ws = .ok p) ↔ ∃ blocks, IsCutting ws blocks) ∧
    (∀ blocks blocks', IsCutting ws blocks → IsCutting ws blocks' → blocks = blocks') ∧
    (∀ e, ofWords ws = .error e ↔
      ∃ (accepted : List Word) (w : Word), ws = accepted ++ [w] ∧
        (∃ p, ofWords accepted = .ok p) ∧ w.HasWideOpcode ∧
        e = .missingExtension (ws.length - 1) (BitVec.ofNat 8 (w.toNat / 2 ^ 56))) := by
  refine ⟨?_, fun _ _ => IsCutting.unique, fun e => ?_⟩
  · rw [exists_ofWords_iff, exists_isCutting_iff]
  · rw [ofWords_eq_error_iff]
    constructor
    · rintro ⟨is, w, hw, rfl, rfl⟩
      exact ⟨_, w, rfl, exists_ofWords_iff.2 ⟨is, rfl⟩, w.isWide_iff.1 hw,
        (missingExtension_concat _ w).symm⟩
    · rintro ⟨accepted, w, rfl, hp, hw, rfl⟩
      obtain ⟨is, rfl⟩ := exists_ofWords_iff.1 hp
      exact ⟨is, w, w.isWide_iff.2 hw, rfl, missingExtension_concat _ w⟩

/-- Of words that all look wide, every second one is taken as an extension: two of them make one
block, and of three the last one is left over. -/
theorem ofWords_of_wide_looking_words :
    (∃ p, ofWords [0x1801000000000000, 0x1802000000000000] = .ok p) ∧
    (∀ blocks, IsCutting [0x1801000000000000, 0x1802000000000000] blocks →
      blocks = [[0x1801000000000000, 0x1802000000000000]]) ∧
    ofWords [0x1801000000000000, 0x1802000000000000, 0x0103000000000000] =
      .error (.missingExtension 2 0x01) := by
  have hcut : IsCutting [0x1801000000000000, 0x1802000000000000]
      [[0x1801000000000000, 0x1802000000000000]] :=
    ⟨by simpa using IsBlock.wide (by decide) _, rfl⟩
  obtain ⟨haccept, hunique, -⟩ := ofWords_grammar [0x1801000000000000, 0x1802000000000000]
  refine ⟨haccept.2 ⟨_, hcut⟩, fun blocks h => hunique _ _ h hcut, ?_⟩
  exact ((ofWords_grammar _).2.2 _).2 ⟨_, 0x0103000000000000, rfl, haccept.2 ⟨_, hcut⟩,
    by decide, rfl⟩

end Program
end Ebpf
