import Ebpf.Elf.Format

/-!
# ELF headers

The first sixteen bytes of a file give its format; the rest of the file header says where the
tables of section and segment headers are. Of every header only the fields that a reader of
sections needs are kept, but all fields of a section header are read, in order, so that one that is
cut off is reported at the first field that does not fit.
-/

namespace Ebpf
namespace Elf

/-- The format that the first sixteen bytes give. -/
def Format.read (data : List Byte) : Except Fault Format := do
  match ← slice data 0 16 with
  | b0 :: b1 :: b2 :: b3 :: layout :: order :: version :: _ =>
    if ¬ (b0 = 0x7f ∧ b1 = 0x45 ∧ b2 = 0x4c ∧ b3 = 0x46) then
      .error (.badMagic b0 b1 b2 b3)
    else if version ≠ 1 then .error (.unsupportedVersion version)
    else if layout ≠ 1 ∧ layout ≠ 2 then .error (.unsupportedClass layout)
    else if order ≠ 1 ∧ order ≠ 2 then .error (.unsupportedByteOrder order)
    else .ok ⟨if layout = 1 then .elf32 else .elf64, if order = 1 then .little else .big⟩
  | _ => .error (.outOfRange 0 16)

/-- The parts of the file header that lead to the tables. -/
structure FileHeader where
  /-- Where the segment headers are; 0 if there are none. -/
  segmentTable : Nat
  /-- Where the section headers are; 0 if there are none. -/
  sectionTable : Nat
  /-- The size of a segment header. -/
  segmentEntry : Nat
  /-- The number of segment headers. -/
  segmentCount : Nat
  /-- The size of a section header. -/
  sectionEntry : Nat
  /-- The number of section headers. -/
  sectionCount : Nat
  /-- The index of the section with the names of the sections; 0 if there is none. -/
  nameTable : Nat
  deriving DecidableEq, Repr

/-- Reads the file header. It is there as a whole or not at all, so a cut is reported for all of
it. -/
def FileHeader.read (f : Format) (data : List Byte) : Except Fault FileHeader := do
  let w := f.layout.wordSize
  let _whole ← slice data 16 f.layout.fileHeaderSize
  let segmentTable ← f.offset data (24 + w)
  let sectionTable ← f.offset data (24 + 2 * w)
  let segmentEntry ← f.half data (30 + 3 * w)
  let segmentCount ← f.half data (32 + 3 * w)
  let sectionEntry ← f.half data (34 + 3 * w)
  let sectionCount ← f.half data (36 + 3 * w)
  let nameTable ← f.half data (38 + 3 * w)
  return {
    segmentTable, sectionTable, segmentEntry, segmentCount, sectionEntry, sectionCount, nameTable
  }

/-- A section header. -/
structure SectionHeader where
  /-- Where the name is in the name table. -/
  name : Nat
  /-- The type of the section. -/
  type : Nat
  /-- The flags of the section. -/
  flags : Nat
  /-- Where the contents start. -/
  offset : Nat
  /-- The size of the contents. -/
  size : Nat
  /-- The index of another section; in the first header, of the name table if it is large. -/
  link : Nat
  /-- Further information; in the first header, the number of segments if it is large. -/
  info : Nat
  deriving DecidableEq, Repr

/-- Reads the section header at `start`. -/
def SectionHeader.read (f : Format) (data : List Byte) (start : Nat) :
    Except Fault SectionHeader := do
  let w := f.layout.wordSize
  let name ← f.word data start
  let type ← f.word data (start + 4)
  let flags ← f.offset data (start + 8)
  let _address ← f.offset data (start + 8 + w)
  let offset ← f.offset data (start + 8 + 2 * w)
  let size ← f.offset data (start + 8 + 3 * w)
  let link ← f.word data (start + 8 + 4 * w)
  let info ← f.word data (start + 12 + 4 * w)
  let _alignment ← f.offset data (start + 16 + 4 * w)
  let _entrySize ← f.offset data (start + 16 + 5 * w)
  return { name, type, flags, offset, size, link, info }

/-- The bytes of the section from where to where. -/
def SectionHeader.range (h : SectionHeader) : Except Fault (Nat × Nat) := do
  return (h.offset, ← checked (h.offset + h.size))

/-- Reads over the header in front of compressed contents, and gives its length. -/
def skipCompressionHeader (f : Format) (data : List Byte) : Except Fault Nat := do
  let w := f.layout.wordSize
  let _kind ← f.word data 0
  match f.layout with
  | .elf32 =>
    let _size ← f.offset data 4
    let _alignment ← f.offset data (4 + w)
    return 4 + 2 * w
  | .elf64 =>
    let _reserved ← f.word data 4
    let _size ← f.offset data 8
    let _alignment ← f.offset data (8 + w)
    return 8 + 2 * w

end Elf
end Ebpf
