import Mathlib
import Ebpf.Proofs.Program.Pairing
import Ebpf.Proofs.WordLayout

/-!
# Programs are made of whole instructions

Whichever way a program comes into being, its slots are blocks: the slot of a narrow instruction,
or the slot of a wide one with its own extension word right behind it.

* `Program.Loaded` lists the ways: words, bytes, a hexadecimal dump, a section of an ELF file, the
  last two also by way of a file, and instructions put together.
* `Program.Loaded.exists_ofWords`: all of them come to loading words, hence
  (`Program.Loaded.exists_instructions`) what is proved of `Program.ofInstructions` holds of every
  loaded program.
* `Blocks` is the shape of the slots; `Blocks.extension_follows` is what it says about an extension
  word: the slot before it holds the instruction it belongs to.
* `Instruction.disassemble_ne_noExtension`: an instruction is never found to lack its extension
  when it is disassembled.
* `Program.Loaded.wellFormed` puts these together.
-/

namespace Ebpf

/-- A computation of two stages succeeds if both of them do. -/
theorem bind_eq_ok_iff {ε α β : Type} {x : Except ε α} {f : α → Except ε β} {b : β} :
    x >>= f = .ok b ↔ ∃ a, x = .ok a ∧ f a = .ok b := by
  cases x with
  | error e => simp [bind, Except.bind]
  | ok a => simp [bind, Except.bind]

/-- A computation of two stages fails if the first does, or else the second. -/
theorem bind_eq_error_iff {ε α β : Type} {x : Except ε α} {f : α → Except ε β} {e : ε} :
    x >>= f = .error e ↔ x = .error e ∨ ∃ a, x = .ok a ∧ f a = .error e := by
  cases x with
  | error e' => simp [bind, Except.bind]
  | ok a => simp [bind, Except.bind]

/-- Stages in a row succeed if each of them does. -/
theorem mapM_eq_ok_iff {ε α β : Type} {f : α → Except ε β} {xs : List α} {ys : List β} :
    xs.mapM f = .ok ys ↔ xs.map f = ys.map .ok := by
  induction xs generalizing ys with
  | nil => simp [pure, Except.pure, eq_comm]
  | cons x xs ih =>
    rw [List.mapM_cons, bind_eq_ok_iff, List.map_cons]
    simp only [bind_eq_ok_iff, ih]
    constructor
    · rintro ⟨y, hy, rest, hrest, h⟩
      cases h
      rw [hy, hrest, List.map_cons]
    · intro h
      obtain ⟨y, rest, rfl, hy, hrest⟩ := List.map_eq_cons_iff.1 h.symm
      exact ⟨y, hy.symm, rest, hrest.symm, rfl⟩

/-! ## Ways to a program -/

/-- A program that has been loaded, or put together from instructions. -/
inductive Program.Loaded : Program → Prop
  /-- Loaded from words. -/
  | ofWords {ws : List Word} {p : Program} (h : Program.ofWords ws = .ok p) : Loaded p
  /-- Loaded from the bytes of words. -/
  | ofBytes {bytes : List Byte} {p : Program} (h : Program.ofBytes bytes = .ok p) : Loaded p
  /-- Loaded from a hexadecimal dump. -/
  | ofHexDump {text : List Byte} {p : Program} (h : Program.ofHexDump text = .ok p) : Loaded p
  /-- Loaded from a section of an ELF file. -/
  | ofSection {data : List Byte} {name : String} {p : Program}
      (h : Program.ofSection data name = .ok p) : Loaded p
  /-- Loaded from a file that holds a hexadecimal dump. -/
  | ofHexDumpFile {contents : Except FileFault (List Byte)} {p : Program}
      (h : Program.ofFile Program.ofHexDump contents = .ok p) : Loaded p
  /-- Loaded from a section of a file that is an ELF file. -/
  | ofSectionFile {contents : Except FileFault (List Byte)} {name : String} {p : Program}
      (h : Program.ofFile (Program.ofSection · name) contents = .ok p) : Loaded p
  /-- Put together from instructions. -/
  | ofInstructions (is : List Instruction) : Loaded (Program.ofInstructions is)

namespace Program

/-- Bytes are loaded through their words. -/
theorem exists_ofWords_of_ofBytes {bytes : List Byte} {p : Program} (h : ofBytes bytes = .ok p) :
    ∃ ws, ofWords ws = .ok p := by
  unfold ofBytes at h
  split at h
  · exact ⟨_, h⟩
  · cases h

/-- A dump is loaded through its words. -/
theorem exists_ofWords_of_ofHexDump {text : List Byte} {p : Program}
    (h : ofHexDump text = .ok p) : ∃ ws, ofWords ws = .ok p := by
  unfold ofHexDump at h
  simp only at h
  split at h
  · exact exists_ofWords_of_ofReadings h
  · cases h

/-- A section is loaded through its contents. -/
theorem exists_ofBytes_of_ofSection {data : List Byte} {name : String} {p : Program}
    (h : ofSection data name = .ok p) : ∃ bytes, ofBytes bytes = .ok p := by
  unfold ofSection at h
  obtain ⟨file, -, h⟩ := bind_eq_ok_iff.1 h
  obtain ⟨found, -, h⟩ := bind_eq_ok_iff.1 h
  cases found with
  | none =>
    obtain ⟨names, -, h⟩ := bind_eq_ok_iff.1 h
    cases h
  | some header =>
    obtain ⟨bytes, -, h⟩ := bind_eq_ok_iff.1 h
    exact ⟨bytes, h⟩

/-- A file is loaded through what has been read from it. -/
theorem exists_load_of_ofFile {load : List Byte → Except LoadFault Program}
    {contents : Except FileFault (List Byte)} {p : Program} (h : ofFile load contents = .ok p) :
    ∃ data, load data = .ok p := by
  obtain ⟨data, -, h⟩ := bind_eq_ok_iff.1 h
  exact ⟨data, h⟩

/-- Every loaded program could have been loaded from words. -/
theorem Loaded.exists_ofWords {p : Program} (h : p.Loaded) : ∃ ws, Program.ofWords ws = .ok p := by
  cases h with
  | ofWords h => exact ⟨_, h⟩
  | ofBytes h => exact exists_ofWords_of_ofBytes h
  | ofHexDump h => exact exists_ofWords_of_ofHexDump h
  | ofSection h =>
    obtain ⟨bytes, hbytes⟩ := exists_ofBytes_of_ofSection h
    exact exists_ofWords_of_ofBytes hbytes
  | ofHexDumpFile h =>
    obtain ⟨text, htext⟩ := exists_load_of_ofFile h
    exact exists_ofWords_of_ofHexDump htext
  | ofSectionFile h =>
    obtain ⟨data, hdata⟩ := exists_load_of_ofFile h
    obtain ⟨bytes, hbytes⟩ := exists_ofBytes_of_ofSection hdata
    exact exists_ofWords_of_ofBytes hbytes
  | ofInstructions is => exact ⟨_, ofWords_flatMap_words is⟩

/-- **Every loaded program is the program of some instructions.** -/
theorem Loaded.exists_instructions {p : Program} (h : p.Loaded) :
    ∃ is : List Instruction, p = .ofInstructions is := by
  obtain ⟨ws, hws⟩ := h.exists_ofWords
  obtain ⟨is, -, his⟩ := ofWords_eq_ok_iff.1 hws
  exact ⟨is, his⟩

end Program

/-! ## Blocks -/

/-- Slots that are blocks of whole instructions. -/
inductive Blocks : List Slot → Prop
  /-- No slots. -/
  | nil : Blocks []
  /-- An instruction without extension, in one slot. -/
  | narrow {i : Instruction} {rest : List Slot} (h : i.extension = none) :
      Blocks rest → Blocks (.insn i :: rest)
  /-- An instruction with an extension and, in a slot of its own, that extension. -/
  | wide {i : Instruction} {x : Word} {rest : List Slot} (h : i.extension = some x) :
      Blocks rest → Blocks (.insn i :: .extension x :: rest)

namespace Blocks

/-- The slots of instructions are blocks. -/
theorem flatMap_slots (is : List Instruction) : Blocks (is.flatMap Instruction.slots) := by
  induction is with
  | nil => exact .nil
  | cons i is ih =>
    induction i using Instruction.byWidth with
    | narrow w h => exact .narrow rfl ih
    | wide w x h => exact .wide rfl ih

/-- An extension word stands right behind the instruction that it belongs to, and that is a wide
one. -/
theorem extension_follows {slots : List Slot} (h : Blocks slots) {k : Nat} {x : Word}
    (hk : slots[k]? = some (.extension x)) :
    ∃ j i, k = j + 1 ∧ slots[j]? = some (.insn i) ∧ i.extension = some x ∧ i.basic.isWide := by
  induction h generalizing k with
  | nil => simp at hk
  | @narrow i rest hi _ ih =>
    obtain _ | k := k
    · simp at hk
    · obtain ⟨j, i', rfl, hj⟩ := ih (by simpa using hk)
      exact ⟨j + 1, i', rfl, by simpa using hj⟩
  | @wide i y rest hi _ ih =>
    obtain _ | _ | k := k
    · simp at hk
    · -- the extension word of this very block
      obtain rfl : y = x := by simpa using hk
      refine ⟨0, i, rfl, rfl, hi, ?_⟩
      rw [← i.isSome_extension, hi, Option.isSome_some]
    · obtain ⟨j, i', rfl, hj⟩ := ih (by simpa using hk)
      exact ⟨j + 2, i', rfl, by simpa using hj⟩

end Blocks

/-! ## Disassembling whole instructions -/

/-- A word with an opcode in immediate mode is wide. -/
theorem Word.isWide_of_imm {w : Word} {kind : MemClass} {size : MemSize}
    (h : Opcode.ofByte w.opcode = .memory kind (some .imm) size) : w.isWide = true := by
  rw [isWide, h]
  rfl

namespace Instruction

theorem exists_highImm?_of_isExtended {i : Instruction} (h : i.isExtended = true) :
    ∃ high, i.highImm? = some high := by
  obtain ⟨x, hx⟩ := Option.isSome_iff_exists.1 h
  exact ⟨x.imm, by rw [highImm?, hx, Option.map_some]⟩

/-- An opcode in immediate mode comes with the second half of its immediate. -/
theorem exists_highImm?_of_imm {i : Instruction} {kind : MemClass} {size : MemSize}
    (h : i.opcode = .memory kind (some .imm) size) : ∃ high, i.highImm? = some high := by
  have hwide : i.basic.isWide = true := Word.isWide_of_imm h
  exact exists_highImm?_of_isExtended (i.isSome_extension.trans hwide)

/-- An instruction has no text exactly if it has no statement. -/
theorem disassemble_eq_error_iff {i : Instruction} {e : RenderFault} :
    i.disassemble = .error e ↔ i.statement = .error e := by
  unfold disassemble
  cases i.statement with
  | error e' => simp [Except.map]
  | ok s => simp [Except.map]

/-- A text of an instruction is the text of its statement. -/
theorem disassemble_eq_ok_iff {i : Instruction} {text : String} :
    i.disassemble = .ok text ↔ ∃ s, i.statement = .ok s ∧ s.render = text := by
  unfold disassemble
  cases i.statement with
  | error e => simp [Except.map]
  | ok s => simp [Except.map]

/-- No instruction is found to lack its extension when it is disassembled. -/
theorem disassemble_ne_noExtension (i : Instruction) (w : Word) :
    i.disassemble ≠ .error (.undefined w .noExtension) := by
  rw [Ne, disassemble_eq_error_iff, statement]
  cases hop : i.opcode with
  | arithmetic width source op =>
    cases op with
    | none => simp [arithmeticStatement, invalid]
    | some op => cases op <;> simp [arithmeticStatement]
  | jump width source op =>
    cases op with
    | none => simp [jumpStatement, invalid]
    | some op =>
      cases op <;> cases width <;> simp [jumpStatement, invalid]
      unfold callStatement
      split <;> simp [invalid]
  | memory kind mode size =>
    cases mode with
    | none => simp [invalid]
    | some mode =>
      cases mode with
      | imm =>
        -- the one mode that looks for an extension
        obtain ⟨high, hhigh⟩ := exists_highImm?_of_imm hop
        simp only [wideStatement, hhigh]
        cases i.wideKind? <;> simp [invalid]
      | abs => simp
      | ind => simp
      | mem => cases kind <;> simp [memoryStatement, invalid]
      | memSx => cases kind <;> simp [signedStatement, invalid]
      | atomic =>
        simp only [atomicStatement]
        split
        · simp [invalid]
        · cases AtomicOp.ofImm? i.imm with
          | none => simp [invalid]
          | some op =>
            simp only
            split
            · simp [invalid]
            · cases op with
              | exchange => simp
              | compareExchange => simp
              | update u => simp only; split <;> simp

end Instruction

/-- The opcode byte is the top byte of a word. -/
theorem Word.opcode_eq_top (w : Word) : opcode w = BitVec.ofNat 8 (w.toNat / 2 ^ 56) := by
  apply BitVec.eq_of_toNat_eq
  rw [opcode, toNat_extract_eq, BitVec.toNat_ofNat]

theorem Instruction.opcodeByte_eq_top (i : Instruction) :
    i.opcodeByte = BitVec.ofNat 8 (i.basic.toNat / 2 ^ 56) :=
  Word.opcode_eq_top i.basic

/-! ## Loaded programs -/

namespace Program

/-- **Every loaded program is made of whole instructions.** Its slots are blocks; each of its
instructions is what its words are decoded to, has an extension exactly if its opcode asks for one,
and is disassembled without ever missing it; and an extension word stands nowhere but behind the
wide instruction that it belongs to, so never in the first slot. -/
theorem Loaded.wellFormed {p : Program} (h : p.Loaded) :
    Blocks p.slots.toList ∧
    (∀ i : Instruction, .insn i ∈ p.slots.toList →
      Instruction.decode i.basic i.extension = .ok i ∧
      i.isExtended = i.needsExtension ∧
      i.opcode = .ofByte (BitVec.ofNat 8 (i.basic.toNat / 2 ^ 56)) ∧
      ∀ w, i.disassemble ≠ .error (.undefined w .noExtension)) ∧
    (∀ (k : Nat) (x : Word), p.slots[k]? = some (.extension x) →
      ∃ j i, k = j + 1 ∧ p.slots[j]? = some (.insn i) ∧ i.extension = some x ∧
        i.basic.isWide) := by
  obtain ⟨is, rfl⟩ := h.exists_instructions
  have hblocks : Blocks (Program.ofInstructions is).slots.toList := Blocks.flatMap_slots is
  refine ⟨hblocks, ?_, ?_⟩
  · intro i _
    refine ⟨i.decode_self, i.isSome_extension, ?_, i.disassemble_ne_noExtension⟩
    rw [Instruction.opcode, i.opcodeByte_eq_top]
  · intro k x hk
    simp only [← Array.getElem?_toList] at hk ⊢
    exact hblocks.extension_follows hk

/-- A wide load whose payload looks like a wide load itself, and a move behind it. -/
theorem wellFormed_of_wide_looking_payload :
    ∃ p : Program,
      ofWords [0x1801000000000000, 0x1802000000000000, 0xb700000007000000] = .ok p ∧
      p.slots[1]? = some (.extension 0x1802000000000000) ∧ Blocks p.slots.toList ∧
      ∃ j i, 1 = j + 1 ∧ p.slots[j]? = some (.insn i) ∧
        i.extension = some 0x1802000000000000 ∧ i.basic.isWide := by
  have hload : ofWords [0x1801000000000000, 0x1802000000000000, 0xb700000007000000] =
      .ok (ofInstructions [.wide 0x1801000000000000 0x1802000000000000 rfl,
        .narrow 0xb700000007000000 (by decide)]) := rfl
  have hwf := (Loaded.ofWords hload).wellFormed
  exact ⟨_, hload, rfl, hwf.1, hwf.2.2 1 _ rfl⟩

end Program
end Ebpf
