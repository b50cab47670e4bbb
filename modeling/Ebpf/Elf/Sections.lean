import Ebpf.Chunks
import Ebpf.Elf.Header

/-!
# Sections of an ELF file

`File.parse` finds the table of section headers. Sections are then found by name, in the order of
their headers; the first one with the name counts.

* `File.find?` looks a section up and passes over headers whose names cannot be read;
* `File.sectionNames` lists all names and fails at one that cannot be read;
* `File.contents` gives the bytes of a section.
-/

namespace Ebpf
namespace Elf

/-- The bytes of a table with `count` entries at `start`. -/
def tableBytes (data : List Byte) (start entry count : Nat) : Except Fault (List Byte) := do
  let size ← checked (entry * count)
  let stop ← checked (start + size)
  slice data start stop

/-- The size of an entry, if it is the expected one. -/
def entrySize (expected found : Nat) : Except Fault Nat :=
  if found = expected then .ok expected else .error (.badEntrySize expected found)

/-! ## Tables -/

/-- A table of section headers. -/
structure SectionTable where
  /-- How its numbers are written. -/
  format : Format
  /-- Its bytes. -/
  bytes : List Byte

namespace SectionTable

/-- The header with an index. An index at the end of the table is reported by the field that does
not fit, one beyond it by the index. -/
def get (t : SectionTable) (i : Nat) : Except Fault SectionHeader :=
  if t.bytes.isEmpty then .error (.badOffset i)
  else do
    let start ← checked (i * t.format.layout.sectionHeaderSize)
    if t.bytes.length < start then .error (.badOffset i)
    else SectionHeader.read t.format t.bytes start

/-- All headers in order. -/
def headers (t : SectionTable) : List SectionHeader :=
  let size := t.format.layout.sectionHeaderSize
  (chunks (t.bytes.length / size) size t.bytes).filterMap fun entry =>
    (SectionHeader.read t.format entry 0).toOption

end SectionTable

/-- The name that starts at an offset of a name table; a zero byte ends it. -/
def nameAt (table : List Byte) (offset : Nat) : Except Fault String :=
  if table.isEmpty ∨ table.length < offset then .error (.badOffset offset)
  else
    let rest := table.drop offset
    if rest.contains 0 then
      (Text.Utf8.decode (rest.takeWhile (· ≠ 0))).mapError .badName
    else .error (.missingTerminator offset)

/-! ## Files -/

/-- An ELF file whose header has been read. -/
structure File where
  /-- The whole file. -/
  data : List Byte
  /-- How its numbers are written. -/
  format : Format
  /-- The file header. -/
  header : FileHeader
  /-- The section headers, if there are any. -/
  sections? : Option SectionTable

/-- The number of section headers. A count of zero in the file header means that the first section
header holds the count. -/
def sectionCount (f : Format) (h : FileHeader) (data : List Byte) : Except Fault Nat :=
  if h.sectionCount = 0 then (SectionHeader.read f data h.sectionTable).map SectionHeader.size
  else .ok h.sectionCount

/-- The section headers that a file header leads to. -/
def findSections (f : Format) (h : FileHeader) (data : List Byte) :
    Except Fault (Option SectionTable) :=
  if h.sectionTable = 0 then .ok none
  else do
    let count ← sectionCount f h data
    let entry ← entrySize f.layout.sectionHeaderSize h.sectionEntry
    let bytes ← tableBytes data h.sectionTable entry count
    return some ⟨f, bytes⟩

/-- The number of segment headers. The largest count in the file header means that the first
section header holds the count. -/
def segmentCount (f : Format) (h : FileHeader) (data : List Byte) : Except Fault Nat :=
  if h.segmentCount = 0xffff then
    (SectionHeader.read f data h.sectionTable).map SectionHeader.info
  else .ok h.segmentCount

/-- Checks that the segment headers are where the file header says. -/
def checkSegments (f : Format) (h : FileHeader) (data : List Byte) : Except Fault Unit :=
  if h.segmentTable = 0 then .ok ()
  else do
    let count ← segmentCount f h data
    let entry ← entrySize f.layout.segmentHeaderSize h.segmentEntry
    let _bytes ← tableBytes data h.segmentTable entry count
    return ()

namespace File

/-- Reads the file header and finds the tables. -/
def parse (data : List Byte) : Except Fault File := do
  let format ← Format.read data
  let header ← FileHeader.read format data
  let sections? ← findSections format header data
  checkSegments format header data
  return { data, format, header, sections? }

/-- The index of the section with the names. The largest index in the file header means that the
first section header holds the index. -/
def nameTableIndex (file : File) (t : SectionTable) : Except Fault Nat :=
  if file.header.nameTable = 0xffff then (t.get 0).map SectionHeader.link
  else .ok file.header.nameTable

/-- The names of the sections of a table, if the file has them. -/
def nameTable (file : File) (t : SectionTable) : Except Fault (Option (List Byte)) :=
  if file.header.nameTable = 0 then .ok none
  else do
    let header ← t.get (← file.nameTableIndex t)
    let (start, stop) ← header.range
    return some (← slice file.data start stop)

/-- The section headers and the bytes of their names, if the file has both. -/
def namedSections (file : File) : Except Fault (Option (List SectionHeader × List Byte)) := do
  match file.sections? with
  | none => return none
  | some t =>
    match ← file.nameTable t with
    | none => return none
    | some names => return some (t.headers, names)

/-- The first section with a name. Headers whose names cannot be read are passed over. -/
def find? (file : File) (name : String) : Except Fault (Option SectionHeader) := do
  match ← file.namedSections with
  | none => return none
  | some (headers, names) =>
    return headers.find? fun h => (nameAt names h.name).toOption == some name

/-- The names of all sections in order; those that are empty are left out. -/
def sectionNames (file : File) : Except Fault (List String) := do
  match ← file.namedSections with
  | none => return []
  | some (headers, names) =>
    return (← headers.mapM fun h => nameAt names h.name).filter (· ≠ "")

/-- The type of a section without contents in the file. -/
def noContentsType : Nat := 8

/-- The flag of a section whose contents are compressed, as the number of its bit. -/
def compressedBit : Nat := 11

/-- The contents of a section. Compressed contents are taken as they are, after their header. -/
def contents (file : File) (h : SectionHeader) : Except Fault (List Byte) :=
  if h.type = noContentsType then .ok []
  else do
    let (start, stop) ← h.range
    let bytes ← slice file.data start stop
    if h.flags.testBit compressedBit then
      return bytes.drop (← skipCompressionHeader file.format bytes)
    else return bytes

end File
end Elf
end Ebpf
