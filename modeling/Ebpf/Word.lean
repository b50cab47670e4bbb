import Ebpf.Text.Digits

/-!
# Instruction words

An instruction word is eight bytes. From the first byte to the last it holds

```text
  opcode   src dst   offset        imm
  1 byte   4 + 4     2 bytes       4 bytes
           bits      (low first)   (low first)
```

The first byte stands in the highest bits of the word, so the two multi-byte fields appear with
their bytes in reverse order.

* `Word.fields` takes a word apart and `Fields.toWord` puts it together.
* `Word.ofBytes` and `Word.bytes` convert between a word and its eight bytes.
* `Word.hex` is the sixteen-digit spelling.
-/

namespace Ebpf

/-- One byte of a program image. -/
abbrev Byte := BitVec 8

/-- An instruction word, its first byte in the highest bits. -/
abbrev Word := BitVec 64

/-- The fields of an instruction word. -/
structure Fields where
  /-- What the instruction does. -/
  opcode : Byte
  /-- Number of the destination register; 11 to 15 name no register. -/
  dst : BitVec 4
  /-- Number of the source register, or a selector in calls and wide loads. -/
  src : BitVec 4
  /-- Signed distance of a jump or displacement of an address. -/
  offset : BitVec 16
  /-- Signed immediate value. -/
  imm : BitVec 32
  deriving DecidableEq, Repr

/-- The same two bytes in the opposite order. -/
def swapBytes16 (x : BitVec 16) : BitVec 16 :=
  x.extractLsb' 0 8 ++ x.extractLsb' 8 8

/-- The same four bytes in the opposite order. -/
def swapBytes32 (x : BitVec 32) : BitVec 32 :=
  x.extractLsb' 0 8 ++ x.extractLsb' 8 8 ++ x.extractLsb' 16 8 ++ x.extractLsb' 24 8

namespace Word

/-- The opcode byte. -/
def opcode (w : Word) : Byte := w.extractLsb' 56 8

/-- The register byte: the source in its high half, the destination in its low half. -/
def regs (w : Word) : Byte := w.extractLsb' 48 8

/-- The source register field. -/
def src (w : Word) : BitVec 4 := w.extractLsb' 52 4

/-- The destination register field. -/
def dst (w : Word) : BitVec 4 := w.extractLsb' 48 4

/-- The offset field. -/
def offset (w : Word) : BitVec 16 := swapBytes16 (w.extractLsb' 32 16)

/-- The immediate field. -/
def imm (w : Word) : BitVec 32 := swapBytes32 (w.extractLsb' 0 32)

/-- All fields of a word. -/
def fields (w : Word) : Fields where
  opcode := opcode w
  dst := dst w
  src := src w
  offset := offset w
  imm := imm w

/-- The number that bytes spell with the most significant byte first. -/
def bigEndian (bytes : List Byte) : Nat :=
  bytes.foldl (fun n b => 256 * n + b.toNat) 0

/-- The word whose bytes, first to last, are given. -/
def ofBytes (bytes : List Byte) : Word :=
  BitVec.ofNat 64 (bigEndian bytes)

/-- The eight bytes of a word, first to last. -/
def bytes (w : Word) : List Byte :=
  [w.extractLsb' 56 8, w.extractLsb' 48 8, w.extractLsb' 40 8, w.extractLsb' 32 8,
   w.extractLsb' 24 8, w.extractLsb' 16 8, w.extractLsb' 8 8, w.extractLsb' 0 8]

/-- The sixteen lower-case hexadecimal digits of a word. -/
def hex (w : Word) : String := Text.hex 16 w.toNat

end Word

namespace Fields

/-- Fields from whole bytes: of a register number the low four bits count. -/
def ofBytes (opcode dst src : Byte) (offset : BitVec 16) (imm : BitVec 32) : Fields where
  opcode := opcode
  dst := dst.setWidth 4
  src := src.setWidth 4
  offset := offset
  imm := imm

/-- The word with these fields. -/
def toWord (f : Fields) : Word :=
  f.opcode ++ f.src ++ f.dst ++ swapBytes16 f.offset ++ swapBytes32 f.imm

end Fields
end Ebpf
