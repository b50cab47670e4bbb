import Ebpf.Elf.Fault

/-!
# Numbers in ELF files

An ELF file comes in two layouts, for 32 and for 64 bits, and in two byte orders. A `Format` is one
choice of both. Offsets and sizes are numbers below 2^64; a sum that leaves this range is a fault,
and so is a read that leaves the data.
-/

namespace Ebpf
namespace Elf

/-- The order of the bytes of a number. -/
inductive ByteOrder where
  /-- The least significant byte comes first. -/
  | little
  /-- The most significant byte comes first. -/
  | big
  deriving DecidableEq, Repr

/-- The number that bytes spell. -/
def ByteOrder.value : ByteOrder → List Byte → Nat
  | .little, bytes => bytes.foldr (fun b n => b.toNat + 256 * n) 0
  | .big, bytes => Word.bigEndian bytes

/-- The layout of the headers. -/
inductive Layout where
  | elf32
  | elf64
  deriving DecidableEq, Repr

namespace Layout

/-- The bytes of an offset or size. -/
def wordSize : Layout → Nat
  | .elf32 => 4
  | .elf64 => 8

/-- The bytes of the file header. -/
def fileHeaderSize : Layout → Nat
  | .elf32 => 0x34
  | .elf64 => 0x40

/-- The bytes of a section header. -/
def sectionHeaderSize : Layout → Nat
  | .elf32 => 40
  | .elf64 => 64

/-- The bytes of a segment header. -/
def segmentHeaderSize : Layout → Nat
  | .elf32 => 32
  | .elf64 => 56

end Layout

/-- How the numbers of a file are written. -/
structure Format where
  /-- The layout of the headers. -/
  layout : Layout
  /-- The order of the bytes of a number. -/
  order : ByteOrder
  deriving DecidableEq, Repr

/-- The bytes from `start` up to `stop`. -/
def slice (data : List Byte) (start stop : Nat) : Except Fault (List Byte) :=
  if start ≤ stop ∧ stop ≤ data.length then .ok ((data.drop start).take (stop - start))
  else .error (.outOfRange start stop)

/-- The least number that does not fit into 64 bits. -/
def sizeLimit : Nat := 0x1_0000_0000_0000_0000

/-- A number, if it fits into 64 bits. -/
def checked (n : Nat) : Except Fault Nat :=
  if n < sizeLimit then .ok n else .error .overflow

namespace Format

/-- The number in `size` bytes from `start`. -/
def uint (f : Format) (data : List Byte) (start size : Nat) : Except Fault Nat := do
  let stop ← checked (start + size)
  let bytes ← slice data start stop
  return f.order.value bytes

/-- The two-byte number at `start`. -/
def half (f : Format) (data : List Byte) (start : Nat) : Except Fault Nat :=
  f.uint data start 2

/-- The four-byte number at `start`. -/
def word (f : Format) (data : List Byte) (start : Nat) : Except Fault Nat :=
  f.uint data start 4

/-- The offset or size at `start`. -/
def offset (f : Format) (data : List Byte) (start : Nat) : Except Fault Nat :=
  f.uint data start f.layout.wordSize

end Format
end Elf
end Ebpf
