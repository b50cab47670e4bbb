import Ebpf.Disassembly

/-!
# Programs

A program is a sequence of slots, one for each word. A wide instruction takes two of them: the
first holds the instruction, the second its extension word. Slot numbers are therefore word
offsets, and the slot of an extension word is the number of no instruction.
-/

namespace Ebpf

/-- One word of a program. -/
inductive Slot where
  /-- An instruction starts here. -/
  | insn (i : Instruction)
  /-- The second word of the instruction before. -/
  | extension (w : Word)
  deriving DecidableEq

namespace Slot

/-- The instruction that starts at a slot. -/
def insn? : Slot → Option Instruction
  | .insn i => some i
  | .extension _ => none

/-- The word of a slot. -/
def word : Slot → Word
  | .insn i => i.basic
  | .extension w => w

end Slot

/-- The slots of one instruction. -/
def Instruction.slots (i : Instruction) : List Slot :=
  .insn i :: i.extension.toList.map .extension

/-- A program. -/
structure Program where
  /-- The slots in order. -/
  slots : Array Slot
  deriving DecidableEq

/-- A disassembled instruction of a program. -/
structure Item where
  /-- The slot of the instruction. -/
  index : Nat
  /-- The instruction. -/
  insn : Instruction
  /-- Its text, or why it has none. -/
  result : Except RenderFault String

namespace Program

/-- The program without instructions. -/
def empty : Program := ⟨#[]⟩

/-- The program of instructions in order. -/
def ofInstructions (is : List Instruction) : Program :=
  ⟨(is.flatMap Instruction.slots).toArray⟩

/-- The number of slots. -/
def size (p : Program) : Nat := p.slots.size

/-- Whether there are no slots. -/
def isEmpty (p : Program) : Bool := p.slots.isEmpty

/-- The instruction that starts at a slot. -/
def get? (p : Program) (i : Nat) : Option Instruction :=
  p.slots[i]?.bind Slot.insn?

/-- The instructions in order, each with its slot. -/
def instructions (p : Program) : List (Nat × Instruction) :=
  p.slots.toList.zipIdx.filterMap fun (slot, index) => slot.insn?.map fun i => (index, i)

/-- The number of instructions. -/
def insnCount (p : Program) : Nat :=
  p.slots.countP fun slot => slot.insn?.isSome

/-- The words that the program was made of. -/
def words (p : Program) : List Word := p.slots.toList.map Slot.word

/-- Every instruction disassembled, whether or not those before it have a text. -/
def disassemble (p : Program) : List Item :=
  p.instructions.map fun (index, i) => ⟨index, i, i.disassemble⟩

/-- The number of digits that the largest slot number has. -/
def indexWidth (p : Program) : Nat := Text.decimalWidth (p.size - 1)

end Program
end Ebpf
