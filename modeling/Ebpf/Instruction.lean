import Ebpf.Opcode

/-!
# Instructions

An instruction is one word, or two if its opcode is wide. The second word carries the high half of
a 64-bit immediate in its immediate field; its other fields mean nothing.

That the second word is there exactly when the opcode asks for it is part of the type, so no
function on instructions has to check it again.
-/

namespace Ebpf

/-- An instruction of a program. -/
structure Instruction where
  /-- The word with the opcode. -/
  basic : Word
  /-- The second word of a wide instruction. -/
  extension : Option Word
  /-- The second word is there exactly when the opcode asks for it. -/
  isSome_extension : extension.isSome = basic.isWide
  deriving DecidableEq

/-- Why words make no instruction. -/
inductive InstructionFault where
  /-- The opcode asks for a second word and there is none. -/
  | missingExtension (opcode : Byte)
  /-- There is a second word and the opcode has no use for it. -/
  | unexpectedExtension (opcode : Byte)
  deriving DecidableEq, Repr

/-- The opcode byte as messages spell it. -/
def opcodeText (b : Byte) : String := "0x" ++ Text.hex 2 b.toNat

/-- What is reported for words that make no instruction. -/
def InstructionFault.message : InstructionFault → String
  | .missingExtension b => "opcode " ++ opcodeText b ++ " needs an extension word"
  | .unexpectedExtension b => "opcode " ++ opcodeText b ++ " does not take an extension word"

namespace Instruction

/-- The instruction of one word. -/
def narrow (w : Word) (h : ¬ w.isWide) : Instruction :=
  ⟨w, none, by simpa using h⟩

/-- The instruction of two words. -/
def wide (w x : Word) (h : w.isWide) : Instruction :=
  ⟨w, some x, by simpa using h⟩

/-- The instruction of a word and perhaps a second one. -/
def decode (w : Word) (x : Option Word) : Except InstructionFault Instruction :=
  if h : x.isSome = w.isWide then .ok ⟨w, x, h⟩
  else if x.isSome then .error (.unexpectedExtension w.opcode)
  else .error (.missingExtension w.opcode)

theorem decode_none_of_not_isWide {w : Word} (h : ¬ w.isWide) :
    decode w none = .ok (narrow w h) := by
  rw [decode, dif_pos (by simpa using h)]
  rfl

theorem decode_none_of_isWide {w : Word} (h : w.isWide) :
    decode w none = .error (.missingExtension w.opcode) := by
  simp [decode, h]

theorem decode_some_of_isWide {w : Word} (h : w.isWide) (x : Word) :
    decode w (some x) = .ok (wide w x h) := by
  rw [decode, dif_pos (by simpa using h)]
  rfl

/-- The instruction with given fields and no second word. -/
def ofFields (f : Fields) : Except InstructionFault Instruction :=
  decode f.toWord none

/-! ## Fields -/

/-- The opcode byte. -/
def opcodeByte (i : Instruction) : Byte := i.basic.opcode

/-- The opcode, read by its class. -/
def opcode (i : Instruction) : Opcode := Opcode.ofByte i.opcodeByte

/-- The class of the opcode. -/
def opClass (i : Instruction) : OpClass := OpClass.ofOpcode i.opcodeByte

/-- The destination register field. -/
def dst (i : Instruction) : BitVec 4 := i.basic.dst

/-- The source register field. -/
def src (i : Instruction) : BitVec 4 := i.basic.src

/-- The offset field. -/
def offset (i : Instruction) : BitVec 16 := i.basic.offset

/-- The immediate field. -/
def imm (i : Instruction) : BitVec 32 := i.basic.imm

/-- The immediate field of the second word. -/
def highImm? (i : Instruction) : Option (BitVec 32) := i.extension.map Word.imm

/-- The 64-bit immediate of a wide instruction: the high half comes from the second word. -/
def imm64? (i : Instruction) : Option (BitVec 64) := i.highImm?.map fun high => high ++ i.imm

/-- What the immediate of a wide load stands for, by the source field. -/
def wideKind? (i : Instruction) : Option WideKind := WideKind.ofNat? i.src.toNat

/-- Whether the opcode asks for a second word. -/
def needsExtension (i : Instruction) : Bool := i.basic.isWide

/-- Whether there is a second word. -/
def isExtended (i : Instruction) : Bool := i.extension.isSome

/-- The number of words. -/
def slotCount (i : Instruction) : Nat := if i.isExtended then 2 else 1

/-- The words in order. -/
def words (i : Instruction) : List Word := i.basic :: i.extension.toList

/-! ## Spellings -/

/-- The words in hexadecimal, sixteen digits each. -/
def raw (i : Instruction) : String :=
  match i.extension with
  | none => i.basic.hex
  | some x => i.basic.hex ++ " " ++ x.hex

/-- The detailed view: every field by name. -/
def details (i : Instruction) : String :=
  "Instruction \x7b opcode: " ++ opcodeText i.opcodeByte ++
    ", dst: " ++ Text.natural i.dst.toNat ++
    ", src: " ++ Text.natural i.src.toNat ++
    ", offset: " ++ Text.integer i.offset.toInt ++
    ", imm: " ++ Text.integer i.imm.toInt ++
    (match i.highImm? with
      | none => ""
      | some high => ", next_imm: " ++ Text.integer high.toInt) ++ " \x7d"

end Instruction
end Ebpf
