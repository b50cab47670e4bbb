import Mathlib
import Ebpf.Proofs.Program.Blocks
import Ebpf.Proofs.Program.Listing
import Ebpf.Proofs.Program.Numbering

/-!
# Slot numbers are word offsets

A program is looked at slot by slot (`Program.get?`), instruction by instruction
(`Program.instructions`), as a number of instructions (`Program.insnCount`) and disassembled
(`Program.disassemble`). All of these number the instructions in the same way, by the words before
them.

* `Program.get?_eq_some_iff` and `Program.get?_eq_none_iff`: what is at a slot, of any program.
* `Program.NumberedByWords` collects what the views have to do with one another.
* `Program.Loaded.numberedByWords`: this holds of every loaded program.
-/

namespace Ebpf
namespace Program

/-! ## Looking at one slot -/

/-- An instruction is found at a slot exactly if it is numbered by this slot. -/
theorem get?_eq_some_iff {p : Program} {k : Nat} {i : Instruction} :
    p.get? k = some i ↔ (k, i) ∈ p.instructions := by
  rw [mem_instructions_iff, get?, Option.bind_eq_some_iff]
  constructor
  · rintro ⟨slot, hslot, hi⟩
    cases slot with
    | insn j =>
      cases hi
      exact hslot
    | extension w => cases hi
  · intro hslot
    exact ⟨.insn i, hslot, rfl⟩

/-- No instruction is found exactly behind the end and at the extension words. -/
theorem get?_eq_none_iff {p : Program} {k : Nat} :
    p.get? k = none ↔ p.size ≤ k ∨ ∃ w, p.slots[k]? = some (.extension w) := by
  rw [get?, Option.bind_eq_none_iff, size, ← Array.getElem?_eq_none_iff]
  cases hslot : p.slots[k]? with
  | none => simp
  | some slot => cases slot <;> simp [Slot.insn?]

/-! ## All views -/

/-- The number of instructions with an extension word. -/
def extendedCount (p : Program) : Nat := p.instructions.countP fun x => x.2.isExtended

/-- Slot numbers are word offsets in every view of the program. -/
structure NumberedByWords (p : Program) : Prop where
  /-- Counting the instructions and going through them comes to the same. -/
  insnCount_eq : p.insnCount = p.instructions.length
  /-- Every instruction takes a slot, and every extended one a second. -/
  insnCount_add : p.insnCount + p.extendedCount = p.size
  /-- The number of an instruction is that of the words of all instructions before it. -/
  index_eq : ∀ (k : Nat) (x : Nat × Instruction), p.instructions[k]? = some x →
    x.1 = ((p.instructions.take k).map fun y => y.2.slotCount).sum
  /-- The first number is zero. -/
  first_eq : ∀ x, p.instructions.head? = some x → x.1 = 0
  /-- Numbers increase. -/
  increasing : p.instructions.Pairwise fun x y => x.1 < y.1
  /-- Behind the last instruction the program ends. -/
  last_eq : ∀ x, p.instructions.getLast? = some x → x.1 + x.2.slotCount = p.size
  /-- At a slot, the instruction is found that is numbered by it. -/
  get?_eq_some : ∀ k i, p.get? k = some i ↔ (k, i) ∈ p.instructions
  /-- Nothing is found behind the end and at the extension words, and nowhere else. -/
  get?_eq_none : ∀ k, p.get? k = none ↔ p.size ≤ k ∨ ∃ w, p.slots[k]? = some (.extension w)
  /-- There is an item for each instruction, with the same number. -/
  disassemble_eq : p.disassemble.map (fun d => (d.index, d.insn)) = p.instructions
  /-- Words give as many items as there are words less the extensions. -/
  length_disassemble : ∀ ws, ofWords ws = .ok p →
    p.disassemble.length = ws.length - p.extendedCount

section OfInstructions

variable (is : List Instruction)

theorem insnCount_ofInstructions : (ofInstructions is).insnCount = is.length := by
  rw [insnCount, ← Array.countP_toList]
  exact countP_flatMap_slots is

theorem extendedCount_ofInstructions :
    (ofInstructions is).extendedCount = is.countP Instruction.isExtended := by
  rw [extendedCount, instructions_ofInstructions, ← map_snd_numbered 0 is, List.countP_map,
    map_snd_numbered]
  rfl

/-- The number of an instruction counts the slots of those that are listed before it. -/
theorem index_eq_of_getElem? {k : Nat} {x : Nat × Instruction}
    (h : (ofInstructions is).instructions[k]? = some x) :
    x.1 = (((ofInstructions is).instructions.take k).map fun y => y.2.slotCount).sum := by
  have htake : ((numbered 0 is).take k).map (fun y => y.2.slotCount) =
      (is.take k).map Instruction.slotCount := by
    rw [← Function.comp_def Instruction.slotCount Prod.snd, ← List.map_map, List.map_take,
      map_snd_numbered]
  rw [instructions_ofInstructions] at h ⊢
  rw [getElem?_numbered] at h
  obtain ⟨i, -, rfl⟩ := Option.map_eq_some_iff.1 h
  rw [htake, Nat.zero_add, slotTotal]

/-- Behind the last instruction, the program ends. -/
theorem last_add_slotCount {x : Nat × Instruction}
    (h : (ofInstructions is).instructions.getLast? = some x) :
    x.1 + x.2.slotCount = (ofInstructions is).size := by
  rw [instructions_ofInstructions] at h
  obtain ⟨before, hbefore⟩ := List.getLast?_eq_some_iff.1 h
  obtain ⟨slot, i⟩ := x
  obtain ⟨his, hslot⟩ := eq_of_numbered_eq hbefore
  rw [size_ofInstructions, his, slotTotal_append, hslot]
  simp

end OfInstructions

/-- **Slot numbers are word offsets in every view of a loaded program.** -/
theorem Loaded.numberedByWords {p : Program} (h : p.Loaded) : p.NumberedByWords := by
  obtain ⟨is, rfl⟩ := h.exists_instructions
  have hcount : (Program.ofInstructions is).insnCount + (Program.ofInstructions is).extendedCount =
      (Program.ofInstructions is).size := by
    rw [insnCount_ofInstructions, extendedCount_ofInstructions, size_ofInstructions,
      slotTotal_eq_length_add_countP]
  have hlength : (Program.ofInstructions is).insnCount =
      (Program.ofInstructions is).instructions.length := by
    rw [insnCount_ofInstructions, instructions_ofInstructions, length_numbered]
  refine ⟨hlength, hcount, fun k x => index_eq_of_getElem? is, ?_, pairwise_instructions is,
    fun x => last_add_slotCount is, fun k i => get?_eq_some_iff, fun k => get?_eq_none_iff, ?_, ?_⟩
  · intro x hx
    rw [List.head?_eq_getElem?] at hx
    exact index_eq_of_getElem? is hx
  · rw [disassemble_eq_map, List.map_map]
    exact List.map_id _
  · intro ws hws
    have hsize : ws.length = (Program.ofInstructions is).size := by
      rw [← words_eq_of_ofWords hws, words, List.length_map]
      rfl
    rw [disassemble_eq_map, List.length_map, ← hlength, hsize, ← hcount, Nat.add_sub_cancel]

/-- A move, a wide load whose payload looks like a wide load, and an exit: four words give three
items, numbered 0, 1 and 3, and nothing is found at slot 2 and from slot 4 on. -/
theorem numberedByWords_of_wide_looking_payload :
    ∃ p : Program,
      ofWords [0xb701000000000000, 0x1801000000000000, 0x1802000000000000, 0x9500000000000000] =
        .ok p ∧
      p.disassemble.length = 4 - 1 ∧ p.instructions.map Prod.fst = [0, 1, 3] ∧ p.get? 2 = none ∧
      ∀ k, 4 ≤ k → p.get? k = none := by
  have hload : ofWords [0xb701000000000000, 0x1801000000000000, 0x1802000000000000,
      0x9500000000000000] = .ok (ofInstructions [.narrow 0xb701000000000000 (by decide),
        .wide 0x1801000000000000 0x1802000000000000 rfl,
        .narrow 0x9500000000000000 (by decide)]) := rfl
  have hviews := (Loaded.ofWords hload).numberedByWords
  refine ⟨_, hload, hviews.length_disassemble _ hload, rfl,
    (hviews.get?_eq_none 2).2 (Or.inr ⟨_, rfl⟩), fun k hk => (hviews.get?_eq_none k).2 (Or.inl hk)⟩

end Program
end Ebpf
