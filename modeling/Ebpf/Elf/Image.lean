import Ebpf.Elf.Sections

/-!
# Writing ELF files

A small writer beside the reader: `image` lays sections out as a 64-bit object file in either byte
order. The file header comes first, then the contents of the sections one after the other, then the
table of their names and, at the next multiple of eight, the section headers: an empty one, one for
each section, and one for the name table.
-/

namespace Ebpf
namespace Elf

/-! ## Numbers -/

/-- The low `size` bytes of a number, the least significant byte first. -/
def littleBytes : (size n : Nat) → List Byte
  | 0, _ => []
  | size + 1, n => BitVec.ofNat 8 n :: littleBytes size (n / 256)

/-- The low `size` bytes of a number. -/
def ByteOrder.bytes : ByteOrder → (size n : Nat) → List Byte
  | .little, size, n => littleBytes size n
  | .big, size, n => (littleBytes size n).reverse

/-- The value of the byte that tells the byte order. -/
def ByteOrder.mark : ByteOrder → Byte
  | .little => 1
  | .big => 2

/-! ## Parts of the file -/

/-- A section to be written. -/
structure NamedSection where
  /-- The name. -/
  name : String
  /-- The contents. -/
  contents : List Byte
  deriving DecidableEq, Repr

/-- The name of the name table. -/
def nameTableName : String := ".shstrtab"

/-- A name as the name table holds it. -/
def nameEntry (name : String) : List Byte := Text.Utf8.encode name ++ [0]

/-- The name table of sections: an empty name, theirs, and its own. -/
def nameTableBytes (sections : List NamedSection) : List Byte :=
  0 :: sections.flatMap (fun s => nameEntry s.name) ++ nameEntry nameTableName

/-- The contents of all sections. -/
def contentsBytes (sections : List NamedSection) : List Byte :=
  sections.flatMap NamedSection.contents

/-- The least multiple of eight that is not smaller. -/
def alignUp (n : Nat) : Nat := (n + 7) / 8 * 8

/-- A section header; address, link, information and entry size are zero. -/
def headerBytes (order : ByteOrder) (name type flags offset size alignment : Nat) : List Byte :=
  order.bytes 4 name ++ order.bytes 4 type ++ order.bytes 8 flags ++ order.bytes 8 0 ++
    order.bytes 8 offset ++ order.bytes 8 size ++ order.bytes 4 0 ++ order.bytes 4 0 ++
    order.bytes 8 alignment ++ order.bytes 8 0

/-- The headers of sections whose first name and first contents are at the given places. -/
def sectionHeaderBytes (order : ByteOrder) (name offset : Nat) : List NamedSection → List Byte
  | [] => []
  | s :: rest =>
    headerBytes order name 1 6 offset s.contents.length 8 ++
      sectionHeaderBytes order (name + (nameEntry s.name).length) (offset + s.contents.length) rest

/-- The file header of an object file with section headers at a place. -/
def fileHeaderBytes (order : ByteOrder) (sectionTable count : Nat) : List Byte :=
  [0x7f, 0x45, 0x4c, 0x46, 2, order.mark, 1, 0] ++ List.replicate 8 0 ++
    order.bytes 2 1 ++ order.bytes 2 247 ++ order.bytes 4 1 ++ order.bytes 8 0 ++
    order.bytes 8 0 ++ order.bytes 8 sectionTable ++ order.bytes 4 0 ++ order.bytes 2 64 ++
    order.bytes 2 56 ++ order.bytes 2 0 ++ order.bytes 2 64 ++ order.bytes 2 count ++
    order.bytes 2 (count - 1)

/-! ## The file -/

/-- The object file with sections, its numbers in a byte order. -/
def image (order : ByteOrder) (sections : List NamedSection) : List Byte :=
  let contents := contentsBytes sections
  let names := nameTableBytes sections
  let namesStart := 64 + contents.length
  let table := alignUp (namesStart + names.length)
  let ownName := names.length - (nameEntry nameTableName).length
  fileHeaderBytes order table (sections.length + 2) ++ contents ++ names ++
    List.replicate (table - (namesStart + names.length)) 0 ++
    headerBytes order 0 0 0 0 0 0 ++ sectionHeaderBytes order 1 64 sections ++
    headerBytes order ownName 3 0 namesStart names.length 1

end Elf
end Ebpf
