import Mathlib
import Ebpf.Proofs.Program.Pairing

/-!
# Slot numbers

In the program of a list of instructions, an instruction starts behind all slots of the
instructions before it.

* `slotTotal` counts the slots of instructions, and `numbered` gives each instruction its slot;
  `getElem?_numbered` says which one that is.
* `Program.instructions_ofInstructions`: this is how a program numbers its instructions.
* `Program.slots_at_slotTotal` and `Program.slots_at_end`: what stands at such a slot, and at the
  end.
* `Program.countP_take_slots`: how many instructions start before such a slot.
-/

namespace Ebpf

/-! ## Counting slots -/

/-- The number of slots of instructions. -/
def slotTotal (is : List Instruction) : Nat := (is.map Instruction.slotCount).sum

@[simp] theorem slotTotal_nil : slotTotal [] = 0 := rfl

@[simp] theorem slotTotal_cons (i : Instruction) (is : List Instruction) :
    slotTotal (i :: is) = i.slotCount + slotTotal is := by
  simp [slotTotal]

@[simp] theorem slotTotal_append (is js : List Instruction) :
    slotTotal (is ++ js) = slotTotal is + slotTotal js := by
  simp [slotTotal]

namespace Instruction

@[simp] theorem length_slots (i : Instruction) : i.slots.length = i.slotCount := by
  induction i using byWidth with
  | narrow w h => rfl
  | wide w x h => rfl

theorem slotCount_pos (i : Instruction) : 0 < i.slotCount := by
  induction i using byWidth with
  | narrow w h => exact Nat.one_pos
  | wide w x h => exact Nat.two_pos

/-- An instruction starts at one of its slots. -/
theorem countP_slots (i : Instruction) : i.slots.countP (fun slot => slot.insn?.isSome) = 1 := by
  induction i using byWidth with
  | narrow w h => rfl
  | wide w x h => rfl

end Instruction

/-- No instruction goes without a slot. -/
theorem length_le_slotTotal (is : List Instruction) : is.length ≤ slotTotal is := by
  induction is with
  | nil => exact Nat.le_refl 0
  | cons i is ih =>
    have hpos := i.slotCount_pos
    rw [List.length_cons, slotTotal_cons]
    omega

/-- Every instruction takes a slot, and an extended one takes a second. -/
theorem slotTotal_eq_length_add_countP (is : List Instruction) :
    slotTotal is = is.length + is.countP Instruction.isExtended := by
  induction is with
  | nil => rfl
  | cons i is ih =>
    rw [slotTotal_cons, List.length_cons, List.countP_cons, ih, Instruction.slotCount]
    split <;> omega

theorem length_flatMap_slots (is : List Instruction) :
    (is.flatMap Instruction.slots).length = slotTotal is := by
  induction is with
  | nil => rfl
  | cons i is ih =>
    rw [List.flatMap_cons, List.length_append, i.length_slots, ih, slotTotal_cons]

/-- As many instructions start in the slots of instructions as there are instructions. -/
theorem countP_flatMap_slots (is : List Instruction) :
    (is.flatMap Instruction.slots).countP (fun slot => slot.insn?.isSome) = is.length := by
  induction is with
  | nil => rfl
  | cons i is ih =>
    rw [List.flatMap_cons, List.countP_append, i.countP_slots, ih, List.length_cons, Nat.add_comm]

/-! ## Numbering instructions -/

/-- Instructions with their slots; the slot of the first one is given. -/
def numbered (start : Nat) : List Instruction → List (Nat × Instruction)
  | [] => []
  | i :: is => (start, i) :: numbered (start + i.slotCount) is

@[simp] theorem numbered_append (start : Nat) (is js : List Instruction) :
    numbered start (is ++ js) = numbered start is ++ numbered (start + slotTotal is) js := by
  induction is generalizing start with
  | nil => rfl
  | cons i is ih => simp [numbered, ih, Nat.add_assoc]

@[simp] theorem map_snd_numbered (start : Nat) (is : List Instruction) :
    (numbered start is).map Prod.snd = is := by
  induction is generalizing start with
  | nil => rfl
  | cons i is ih => simp [numbered, ih]

@[simp] theorem length_numbered (start : Nat) (is : List Instruction) :
    (numbered start is).length = is.length := by
  rw [← List.length_map Prod.snd, map_snd_numbered]

/-- In a numbering, an instruction has the slot behind those of the instructions before it. -/
theorem eq_of_numbered_eq {start slot : Nat} {is : List Instruction} {i : Instruction}
    {before after : List (Nat × Instruction)}
    (h : numbered start is = before ++ (slot, i) :: after) :
    is = before.map Prod.snd ++ i :: after.map Prod.snd ∧
      slot = start + slotTotal (before.map Prod.snd) := by
  have his : is = before.map Prod.snd ++ i :: after.map Prod.snd := by
    rw [← map_snd_numbered start is, h, List.map_append, List.map_cons]
  refine ⟨his, ?_⟩
  rw [his, numbered_append, numbered] at h
  have hcons := (List.append_inj h (by simp)).2
  exact (congrArg Prod.fst (List.cons.inj hcons).1).symm

/-- The number of an instruction is the first slot and all slots before it. -/
theorem getElem?_numbered (start : Nat) (is : List Instruction) (k : Nat) :
    (numbered start is)[k]? = is[k]?.map fun i => (start + slotTotal (is.take k), i) := by
  induction is generalizing start k with
  | nil => rfl
  | cons i is ih =>
    cases k with
    | zero => rfl
    | succ k => simp [numbered, ih, Nat.add_assoc]

/-- Slot numbers lie between the first slot and the end. -/
theorem bounds_of_mem_numbered {start : Nat} {is : List Instruction} {x : Nat × Instruction}
    (h : x ∈ numbered start is) : start ≤ x.1 ∧ x.1 < start + slotTotal is := by
  induction is generalizing start with
  | nil => cases h
  | cons i is ih =>
    have hpos := i.slotCount_pos
    rw [slotTotal_cons]
    rcases List.mem_cons.1 h with rfl | h
    · simp only
      omega
    · have := ih h
      omega

/-- Slot numbers increase. -/
theorem pairwise_numbered (start : Nat) (is : List Instruction) :
    (numbered start is).Pairwise fun x y => x.1 < y.1 := by
  induction is generalizing start with
  | nil => exact .nil
  | cons i is ih =>
    refine .cons ?_ (ih (start + i.slotCount))
    intro y hy
    have hpos := i.slotCount_pos
    have hle := (bounds_of_mem_numbered hy).1
    simp only
    omega

/-- Numbering the slots and keeping those where an instruction starts numbers the instructions. -/
theorem filterMap_zipIdx_slots (start : Nat) (is : List Instruction) :
    ((is.flatMap Instruction.slots).zipIdx start).filterMap
        (fun (slot, index) => slot.insn?.map fun i => (index, i)) = numbered start is := by
  induction is generalizing start with
  | nil => rfl
  | cons i is ih =>
    rw [List.flatMap_cons, List.zipIdx_append, List.filterMap_append, i.length_slots, ih]
    induction i using Instruction.byWidth with
    | narrow w h => rfl
    | wide w x h => rfl

/-! ## Slots of a program -/

namespace Program

@[simp] theorem size_ofInstructions (is : List Instruction) :
    (ofInstructions is).size = slotTotal is :=
  length_flatMap_slots is

/-- A program numbers its instructions by the slots before them. -/
theorem instructions_ofInstructions (is : List Instruction) :
    (ofInstructions is).instructions = numbered 0 is :=
  filterMap_zipIdx_slots 0 is

theorem pairwise_instructions (is : List Instruction) :
    (ofInstructions is).instructions.Pairwise fun x y => x.1 < y.1 := by
  rw [instructions_ofInstructions]
  exact pairwise_numbered 0 is

/-- An instruction is numbered by the slot where it starts. -/
theorem mem_instructions_iff {p : Program} {k : Nat} {i : Instruction} :
    (k, i) ∈ p.instructions ↔ p.slots[k]? = some (.insn i) := by
  rw [instructions, List.mem_filterMap, ← Array.getElem?_toList]
  constructor
  · rintro ⟨⟨slot, index⟩, hmem, hi⟩
    have hslot := List.mem_zipIdx_iff_getElem?.1 hmem
    cases slot with
    | insn j =>
      simp only [Slot.insn?, Option.map_some, Option.some.injEq, Prod.mk.injEq] at hi
      obtain ⟨rfl, rfl⟩ := hi
      exact hslot
    | extension w => cases hi
  · intro hslot
    exact ⟨(.insn i, k), List.mem_zipIdx_iff_getElem?.2 hslot, rfl⟩

/-- Behind the slots of some instructions, the next instruction starts. -/
theorem slots_at_slotTotal (before : List Instruction) (i : Instruction)
    (after : List Instruction) :
    (ofInstructions (before ++ i :: after)).slots[slotTotal before]? = some (.insn i) := by
  rw [ofInstructions, List.getElem?_toArray, List.flatMap_append, ← length_flatMap_slots,
    List.getElem?_append_right (Nat.le_refl _), Nat.sub_self]
  rfl

/-- Behind the slots of all instructions, there is nothing. -/
theorem slots_at_end (is : List Instruction) :
    (ofInstructions is).slots[slotTotal is]? = none :=
  Array.getElem?_eq_none (length_flatMap_slots is).le

/-- As many instructions start in the slots before an instruction as stand before it. -/
theorem countP_take_slots (before after : List Instruction) :
    ((ofInstructions (before ++ after)).slots.toList.take (slotTotal before)).countP
      (fun slot => slot.insn?.isSome) = before.length := by
  have htake : (ofInstructions (before ++ after)).slots.toList.take (slotTotal before) =
      before.flatMap Instruction.slots := by
    rw [ofInstructions, List.flatMap_append]
    exact List.take_left' (length_flatMap_slots before)
  rw [htake, countP_flatMap_slots]

end Program
end Ebpf
