import Mathlib
import Ebpf.Program.Load
import Ebpf.Proofs.Elf.Fields
import Ebpf.Proofs.Text.Utf8

/-!
# Files that have been written are loaded again

`image` writes sections as an ELF file, and loading a section of that file gives what was put in, in
either byte order.

* `Writable` collects what the fields of the headers have room for.
* `imageHeaders` are the headers of a file as values, and `image_eq` takes the file apart into its
  pieces, the bytes of the headers being the last one.
* `SectionTable.headers_of_entries` and `SectionTable.get_of_entries`: headers are read from the
  table as they were written.
* `Describes` says of a header that it leads to a section, by the places of its name and its
  contents. `forall₂_describes_image`: the headers of a file lead to its sections, one by one. That
  names are read, that contents are cut out and that numbers fit into their fields follows from that
  alone.
* `parse_image` and `namedSections_image`: the reader finds the headers and the name table.
* `image_loads_back`: so the names are listed, and a section is found by its name and loaded.
-/

namespace Ebpf
namespace Elf

/-! ## What can be written -/

/-- The sections fit into a file: there are not too many of them, no name ends early, and places in
the name table and in the file fit into their fields. -/
structure Writable (order : ByteOrder) (sections : List NamedSection) : Prop where
  /-- Their number is below the numbers with a special meaning. -/
  count_le : sections.length ≤ 65000
  /-- No name holds a zero character. -/
  zero_notMem : ∀ s ∈ sections, ∀ c ∈ s.name.toList, c.toNat ≠ 0
  /-- A place in the name table fits into four bytes. -/
  nameTable_lt : (nameTableBytes sections).length < 2 ^ 32
  /-- A place in the file fits into eight bytes, with room to add. -/
  image_lt : (image order sections).length < 2 ^ 63

/-! ## Headers as values -/

/-- The headers of sections whose first name and first contents are at the given places. -/
def sectionHeaders (name offset : Nat) : List NamedSection → List SectionHeader
  | [] => []
  | s :: rest =>
    { name, type := 1, flags := 6, offset, size := s.contents.length, link := 0, info := 0 } ::
      sectionHeaders (name + (nameEntry s.name).length) (offset + s.contents.length) rest

/-- The header that stands for no section. -/
def nullHeader : SectionHeader :=
  { name := 0, type := 0, flags := 0, offset := 0, size := 0, link := 0, info := 0 }

/-- Where the name table starts. -/
def namesStart (sections : List NamedSection) : Nat := 64 + (contentsBytes sections).length

/-- Where the name of the name table stands in it. -/
def ownName (sections : List NamedSection) : Nat :=
  (nameTableBytes sections).length - (nameEntry nameTableName).length

/-- The header of the name table. -/
def nameTableHeader (sections : List NamedSection) : SectionHeader :=
  { name := ownName sections, type := 3, flags := 0, offset := namesStart sections,
    size := (nameTableBytes sections).length, link := 0, info := 0 }

/-- All headers of a file. -/
def imageHeaders (sections : List NamedSection) : List SectionHeader :=
  nullHeader :: (sectionHeaders 1 64 sections ++ [nameTableHeader sections])

/-- The headers of a file, each with the alignment of its section, which is written but not read. -/
def imageEntries (sections : List NamedSection) : List (SectionHeader × Nat) :=
  (nullHeader, 0) ::
    ((sectionHeaders 1 64 sections).map (fun h => (h, 8)) ++ [(nameTableHeader sections, 1)])

/-- The bytes of a header. -/
def entryBytes (order : ByteOrder) (e : SectionHeader × Nat) : List Byte :=
  headerBytes order e.1.name e.1.type e.1.flags e.1.offset e.1.size e.2

@[simp] theorem length_entryBytes (order : ByteOrder) (e : SectionHeader × Nat) :
    (entryBytes order e).length = 64 := length_headerBytes

@[simp] theorem length_sectionHeaders (name offset : Nat) (sections : List NamedSection) :
    (sectionHeaders name offset sections).length = sections.length := by
  induction sections generalizing name offset with
  | nil => rfl
  | cons s rest ih => simp [sectionHeaders, ih]

theorem map_fst_imageEntries (sections : List NamedSection) :
    (imageEntries sections).map Prod.fst = imageHeaders sections := by
  simp [imageEntries, imageHeaders, Function.comp_def]

@[simp] theorem length_imageEntries (sections : List NamedSection) :
    (imageEntries sections).length = sections.length + 2 := by
  simp [imageEntries]

theorem sectionHeaderBytes_eq_flatMap (order : ByteOrder) (name offset : Nat)
    (sections : List NamedSection) :
    sectionHeaderBytes order name offset sections =
      ((sectionHeaders name offset sections).map fun h => (h, 8)).flatMap (entryBytes order) := by
  induction sections generalizing name offset with
  | nil => rfl
  | cons s rest ih =>
    rw [sectionHeaderBytes, sectionHeaders, List.map_cons, List.flatMap_cons, ih]
    rfl

/-! ## Pieces of a file -/

/-- Where the section headers start. -/
def tableStart (sections : List NamedSection) : Nat :=
  alignUp (namesStart sections + (nameTableBytes sections).length)

/-- **The pieces of a file**, one behind the other. -/
theorem image_eq (order : ByteOrder) (sections : List NamedSection) :
    image order sections =
      fileHeaderBytes order (tableStart sections) (sections.length + 2) ++
        (contentsBytes sections ++ (nameTableBytes sections ++
          (List.replicate (tableStart sections -
              (namesStart sections + (nameTableBytes sections).length)) 0 ++
            (imageEntries sections).flatMap (entryBytes order)))) := by
  simp only [image, sectionHeaderBytes_eq_flatMap, imageEntries, List.flatMap_cons,
    List.flatMap_append, List.flatMap_nil, List.append_assoc, List.append_nil]
  rfl

section Pieces

variable (order : ByteOrder) (sections : List NamedSection)

theorem holdsAt_fileHeader : HoldsAt (image order sections) 0
    (fileHeaderBytes order (tableStart sections) (sections.length + 2)) := by
  have h := HoldsAt.self (image order sections)
  rw [image_eq] at h ⊢
  exact h.left

theorem holdsAt_contents :
    HoldsAt (image order sections) 64 (contentsBytes sections) := by
  have h := HoldsAt.self (image order sections)
  rw [image_eq] at h ⊢
  have h' := h.right.left
  rwa [length_fileHeaderBytes, Nat.zero_add] at h'

theorem holdsAt_names :
    HoldsAt (image order sections) (namesStart sections) (nameTableBytes sections) := by
  have h := HoldsAt.self (image order sections)
  rw [image_eq] at h ⊢
  have h' := h.right.right.left
  rwa [length_fileHeaderBytes, Nat.zero_add] at h'

theorem holdsAt_table : HoldsAt (image order sections) (tableStart sections)
    ((imageEntries sections).flatMap (entryBytes order)) := by
  have h := HoldsAt.self (image order sections)
  rw [image_eq] at h ⊢
  have h' := h.right.right.right.right
  rw [length_fileHeaderBytes, List.length_replicate] at h'
  have hstart : 0 + 64 + (contentsBytes sections).length + (nameTableBytes sections).length +
      (tableStart sections - (namesStart sections + (nameTableBytes sections).length)) =
        tableStart sections := by
    simp only [tableStart, namesStart, alignUp]
    omega
  rwa [hstart] at h'

/-- The pieces of the name table: the empty name, those of the sections, and its own. -/
theorem holdsAt_nameTableBytes :
    HoldsAt (nameTableBytes sections) 0 (nameEntry "") ∧
      HoldsAt (nameTableBytes sections) 1 (sections.flatMap fun s => nameEntry s.name) ∧
      HoldsAt (nameTableBytes sections) (ownName sections) (nameEntry nameTableName) := by
  have hempty : nameEntry "" = [0] := by simp [nameEntry, Text.Utf8.encode]
  have hnames : HoldsAt (nameTableBytes sections) 0
      ([0] ++ (sections.flatMap (fun s => nameEntry s.name) ++ nameEntry nameTableName)) :=
    HoldsAt.self (nameTableBytes sections)
  have hown : ownName sections = 0 + 1 + (sections.flatMap fun s => nameEntry s.name).length := by
    simp only [ownName, nameTableBytes, List.length_append, List.length_cons]
    omega
  rw [hempty, hown]
  exact ⟨hnames.left, hnames.right.left, hnames.right.right⟩

end Pieces

/-! ## The table of headers -/

/-- The numbers of a header fit into the fields that they are written to. -/
structure SectionHeader.Fits (h : SectionHeader) : Prop where
  name : h.name < 256 ^ 4
  type : h.type < 256 ^ 4
  flags : h.flags < 256 ^ 8
  offset : h.offset < 256 ^ 8
  size : h.size < 256 ^ 8
  link : h.link = 0
  info : h.info = 0

/-- A header that fits is read where it was written. -/
theorem SectionHeader.Fits.read {h : SectionHeader} (hfits : h.Fits) {order : ByteOrder}
    {alignment start : Nat} {data : List Byte} (hdata : data.length < sizeLimit)
    (hat : HoldsAt data start (entryBytes order (h, alignment))) :
    SectionHeader.read ⟨.elf64, order⟩ data start = .ok h := by
  rw [SectionHeader.read_of_holdsAt hdata hat hfits.name hfits.type hfits.flags hfits.offset
    hfits.size, ← hfits.link]
  have hinfo : h.link = h.info := hfits.link.trans hfits.info.symm
  obtain ⟨name, type, flags, offset, size, link, info⟩ := h
  obtain rfl : link = info := hinfo
  rfl

/-- **All headers are read as they were written.** -/
theorem SectionTable.headers_of_entries {order : ByteOrder} {entries : List (SectionHeader × Nat)}
    (hfits : ∀ e ∈ entries, e.1.Fits) :
    (SectionTable.mk ⟨.elf64, order⟩ (entries.flatMap (entryBytes order))).headers =
      entries.map Prod.fst := by
  have hcount : (entries.flatMap (entryBytes order)).length / 64 = entries.length := by
    simp [List.length_flatMap]
  have hread : ∀ e ∈ entries,
      (SectionHeader.read ⟨.elf64, order⟩ (entryBytes order e) 0).toOption = some e.1 := by
    intro e he
    have hlen : (entryBytes order e).length < sizeLimit := by
      rw [length_entryBytes]
      decide
    rw [(hfits e he).read hlen (HoldsAt.self (entryBytes order e))]
    rfl
  simp only [SectionTable.headers, Layout.sectionHeaderSize, hcount]
  rw [chunks_flatMap (length_entryBytes order), List.filterMap_map, ← List.filterMap_eq_map]
  exact List.filterMap_congr hread

/-- **A header is found in the table by its index.** -/
theorem SectionTable.get_of_entries {order : ByteOrder} {entries : List (SectionHeader × Nat)}
    {i : Nat} {e : SectionHeader × Nat} (hi : entries[i]? = some e) (hfits : e.1.Fits)
    (hlt : (entries.flatMap (entryBytes order)).length < sizeLimit) :
    (SectionTable.mk ⟨.elf64, order⟩ (entries.flatMap (entryBytes order))).get i = .ok e.1 := by
  obtain ⟨hle, rfl⟩ := List.getElem?_eq_some_iff.1 hi
  have hat : HoldsAt (entries.flatMap (entryBytes order)) (i * 64)
      (entryBytes order entries[i]) := by
    refine ⟨(entries.take i).flatMap (entryBytes order),
      (entries.drop (i + 1)).flatMap (entryBytes order), ?_, ?_⟩
    · rw [List.append_assoc, ← List.flatMap_cons, List.getElem_cons_drop, ← List.flatMap_append,
        List.take_append_drop]
    · simp [List.length_flatMap, Nat.min_eq_left hle.le]
  have hend := hat.end_le
  rw [length_entryBytes] at hend
  have hnonempty : ¬ (entries.flatMap (entryBytes order)).isEmpty = true := by
    rw [List.isEmpty_iff_length_eq_zero]
    omega
  simp only [SectionTable.get, Layout.sectionHeaderSize]
  rw [if_neg hnonempty, checked_of_lt (by omega), ok_bind, if_neg (by omega)]
  exact hfits.read hlt hat

/-! ## Names -/

/-- A name is read where it was written. -/
theorem nameAt_of_holdsAt {table : List Byte} {offset : Nat} {name : String}
    (h : HoldsAt table offset (nameEntry name)) (hzero : ∀ c ∈ name.toList, c.toNat ≠ 0) :
    nameAt table offset = .ok name := by
  obtain ⟨before, after, rfl, rfl⟩ := h
  have hrest : (before ++ nameEntry name ++ after).drop before.length =
      Text.Utf8.encode name ++ 0 :: after := by
    simp [nameEntry]
  have hinside : ¬ ((before ++ nameEntry name ++ after).isEmpty = true ∨
      (before ++ nameEntry name ++ after).length < before.length) := by
    simp [nameEntry]
  have hname : (Text.Utf8.encode name ++ 0 :: after).takeWhile (· ≠ 0) =
      Text.Utf8.encode name := by
    rw [List.takeWhile_append_of_pos]
    · simp
    · intro b hb
      have hb0 : b ≠ 0 := fun h => Text.Utf8.zero_notMem_encode hzero (h ▸ hb)
      exact decide_eq_true hb0
  rw [nameAt, if_neg hinside, hrest, if_pos (by simp), hname, Text.Utf8.decode_encode]
  rfl

/-! ## What headers lead to -/

theorem SectionHeader.range_of_lt {h : SectionHeader} (hlt : h.offset + h.size < sizeLimit) :
    h.range = .ok (h.offset, h.offset + h.size) := by
  rw [SectionHeader.range, checked_of_lt hlt]
  rfl

/-- A header says that its section has contents in the file, which are not compressed, and nothing
beyond the place and the size of them. -/
structure SectionHeader.Plain (h : SectionHeader) : Prop where
  type : h.type < File.noContentsType
  flags : h.flags < 2 ^ File.compressedBit
  link : h.link = 0
  info : h.info = 0

theorem SectionHeader.Plain.of_lt {name type flags offset size : Nat}
    (htype : type < File.noContentsType) (hflags : flags < 2 ^ File.compressedBit) :
    SectionHeader.Plain { name, type, flags, offset, size, link := 0, info := 0 } :=
  ⟨htype, hflags, rfl, rfl⟩

/-- A header leads to a section: its name, which does not end early, and its contents stand at their
places in the name table and in the file. -/
structure Describes (data names : List Byte) (h : SectionHeader) (s : NamedSection) : Prop where
  plain : h.Plain
  zero_notMem : ∀ c ∈ s.name.toList, c.toNat ≠ 0
  name : HoldsAt names h.name (nameEntry s.name)
  size : h.size = s.contents.length
  contents : HoldsAt data h.offset s.contents

namespace Describes

variable {data names : List Byte} {h : SectionHeader} {s : NamedSection}

theorem nameAt_eq (hd : Describes data names h s) : nameAt names h.name = .ok s.name :=
  nameAt_of_holdsAt hd.name hd.zero_notMem

/-- The contents of a section are cut out as they were put in. -/
theorem contents_eq {file : File} (hd : Describes file.data names h s)
    (hdata : file.data.length < sizeLimit) : file.contents h = .ok s.contents := by
  have hend := hd.contents.end_le
  rw [← hd.size] at hend
  have hslice := hd.contents.slice
  rw [← hd.size] at hslice
  have hflag : h.flags.testBit File.compressedBit = false := Nat.testBit_lt_two_pow hd.plain.flags
  rw [File.contents, if_neg (Nat.ne_of_lt hd.plain.type),
    SectionHeader.range_of_lt (Nat.lt_of_le_of_lt hend hdata)]
  simp only [ok_bind, hslice, hflag]
  rfl

/-- Places inside of small data fit into the fields of the header. -/
theorem fits (hd : Describes data names h s) (hdata : data.length < sizeLimit)
    (hnames : names.length < 2 ^ 32) : h.Fits := by
  have hname := hd.name.end_le
  have hcontents := hd.contents.end_le
  have htype := hd.plain.type
  have hflags := hd.plain.flags
  have hsize := hd.size
  simp only [sizeLimit] at hdata
  simp only [File.noContentsType] at htype
  simp only [File.compressedBit] at hflags
  refine ⟨?_, ?_, ?_, ?_, ?_, hd.plain.link, hd.plain.info⟩ <;> omega

variable {headers : List SectionHeader} {sections : List NamedSection}

/-- The names of all sections are read in order. -/
theorem mapM_nameAt (h : List.Forall₂ (Describes data names) headers sections) :
    (headers.mapM fun h => nameAt names h.name) = .ok (sections.map NamedSection.name) := by
  induction h with
  | nil => rfl
  | cons hd _ ih =>
    rw [List.mapM_cons, hd.nameAt_eq, ih]
    rfl

/-- The first header with a name leads to the first section with it. -/
theorem exists_find? (h : List.Forall₂ (Describes data names) headers sections) {name : String}
    {first : NamedSection} (hfirst : sections.find? (fun s => s.name == name) = some first) :
    ∃ header, headers.find? (fun h => (nameAt names h.name).toOption == some name) = some header ∧
      Describes data names header first := by
  induction h with
  | nil => simp at hfirst
  | @cons header s headers sections hd _ ih =>
    have hname : ((nameAt names header.name).toOption == some name) = (s.name == name) := by
      rw [hd.nameAt_eq]
      rfl
    rw [List.find?_cons] at hfirst ⊢
    rw [hname]
    cases hs : s.name == name with
    | true =>
      rw [hs] at hfirst
      obtain rfl : s = first := Option.some.inj hfirst
      exact ⟨header, rfl, hd⟩
    | false =>
      rw [hs] at hfirst
      exact ih hfirst

end Describes

/-- Headers lead to their sections where the names and the contents of these stand one behind the
other. -/
theorem forall₂_describes {data names : List Byte} {sections : List NamedSection}
    (hzero : ∀ s ∈ sections, ∀ c ∈ s.name.toList, c.toNat ≠ 0) {name offset : Nat}
    (hname : HoldsAt names name (sections.flatMap fun s => nameEntry s.name))
    (hcontents : HoldsAt data offset (contentsBytes sections)) :
    List.Forall₂ (Describes data names) (sectionHeaders name offset sections) sections := by
  induction sections generalizing name offset with
  | nil => exact .nil
  | cons s rest ih =>
    rw [List.flatMap_cons] at hname
    rw [contentsBytes, List.flatMap_cons] at hcontents
    have hs : ∀ c ∈ s.name.toList, c.toNat ≠ 0 := hzero s List.mem_cons_self
    have hrest : ∀ s ∈ rest, ∀ c ∈ s.name.toList, c.toNat ≠ 0 :=
      fun s hs => hzero s (List.mem_cons_of_mem _ hs)
    exact .cons
      ⟨.of_lt (by decide) (by decide), hs, hname.left, rfl, hcontents.left⟩
      (ih hrest hname.right hcontents.right)

/-! ## The whole file -/

/-- All sections of a file: an empty one, those that were put in, and the name table. -/
def imageSections (sections : List NamedSection) : List NamedSection :=
  ⟨"", []⟩ :: (sections ++ [⟨nameTableName, nameTableBytes sections⟩])

/-- The table of the headers of a file. -/
def imageTable (order : ByteOrder) (sections : List NamedSection) : SectionTable :=
  ⟨⟨.elf64, order⟩, (imageEntries sections).flatMap (entryBytes order)⟩

/-- The file header of a file. -/
def imageFileHeader (sections : List NamedSection) : FileHeader :=
  { segmentTable := 0, sectionTable := tableStart sections, segmentEntry := 56, segmentCount := 0,
    sectionEntry := 64, sectionCount := sections.length + 2, nameTable := sections.length + 1 }

/-- A file as it is read. -/
def imageFile (order : ByteOrder) (sections : List NamedSection) : File :=
  { data := image order sections, format := ⟨.elf64, order⟩, header := imageFileHeader sections,
    sections? := some (imageTable order sections) }

/-- **Each header of a file leads to its section.** -/
theorem forall₂_describes_image {order : ByteOrder} {sections : List NamedSection}
    (h : Writable order sections) :
    List.Forall₂ (Describes (image order sections) (nameTableBytes sections))
      (imageHeaders sections) (imageSections sections) := by
  obtain ⟨hempty, hnames, hown⟩ := holdsAt_nameTableBytes sections
  have hstart : HoldsAt (image order sections) 0 [] :=
    ⟨[], image order sections, by simp, List.length_nil⟩
  have hzero : ∀ c ∈ nameTableName.toList, c.toNat ≠ 0 := by simp [nameTableName]
  refine .cons ?_ (List.rel_append ?_ (.cons ?_ .nil))
  · exact ⟨.of_lt (by decide) (by decide), by simp, hempty, rfl, hstart⟩
  · exact forall₂_describes h.zero_notMem hnames (holdsAt_contents order sections)
  · exact ⟨.of_lt (by decide) (by decide), hzero, hown, rfl, holdsAt_names order sections⟩

section Writable

variable {order : ByteOrder} {sections : List NamedSection} (h : Writable order sections)

include h

theorem Writable.length_lt : (image order sections).length < sizeLimit :=
  h.image_lt.trans (by decide)

/-- The file header leads to the table of section headers. -/
theorem findSections_image :
    findSections ⟨.elf64, order⟩ (imageFileHeader sections) (image order sections) =
      .ok (some (imageTable order sections)) := by
  have hlt := h.length_lt
  have htable := holdsAt_table order sections
  have hend := htable.end_le
  have hslice := htable.slice
  have hsize : ((imageEntries sections).flatMap (entryBytes order)).length =
      64 * (sections.length + 2) := by
    simp [List.length_flatMap, Nat.mul_comm]
  rw [hsize] at hend hslice
  have hplace : (imageFileHeader sections).sectionTable = tableStart sections := rfl
  have hpos : tableStart sections ≠ 0 := by
    simp only [tableStart, namesStart, alignUp]
    omega
  have hcount : sectionCount ⟨.elf64, order⟩ (imageFileHeader sections) (image order sections) =
      .ok (sections.length + 2) := if_neg (Nat.succ_ne_zero _)
  have hentry : entrySize 64 (imageFileHeader sections).sectionEntry = .ok 64 := if_pos rfl
  have hbytes : tableBytes (image order sections) (tableStart sections) 64 (sections.length + 2) =
      .ok ((imageEntries sections).flatMap (entryBytes order)) := by
    rw [tableBytes, checked_of_lt (by omega), ok_bind, checked_of_lt (by omega), ok_bind, hslice]
  rw [findSections, hplace, if_neg hpos, hcount, ok_bind, Layout.sectionHeaderSize, hentry, ok_bind,
    hbytes]
  rfl

/-- **The reader finds the headers** and the places that the file header names. -/
theorem parse_image : File.parse (image order sections) = .ok (imageFile order sections) := by
  have hheader := holdsAt_fileHeader order sections
  have hlt := h.length_lt
  have hplace : tableStart sections < 256 ^ 8 :=
    Nat.lt_of_le_of_lt ((Nat.le_add_right _ _).trans (holdsAt_table order sections).end_le) hlt
  have hcount : sections.length + 2 < 256 ^ 2 := by
    have hle := h.count_le
    omega
  have hread : FileHeader.read ⟨.elf64, order⟩ (image order sections) =
      .ok (imageFileHeader sections) := FileHeader.read_of_holdsAt hlt hheader hplace hcount
  rw [File.parse, Format.read_of_holdsAt hheader, ok_bind, hread, ok_bind, findSections_image h]
  rfl

theorem fits_of_mem_imageHeaders : ∀ header ∈ imageHeaders sections, header.Fits := by
  have hboth : List.Forall₂ (fun header s => header.Fits ∧
      Describes (image order sections) (nameTableBytes sections) header s)
      (imageHeaders sections) (imageSections sections) :=
    (forall₂_describes_image h).imp fun _ _ hd => ⟨hd.fits h.length_lt h.nameTable_lt, hd⟩
  exact ((List.forall₂_and_left _ _).1 hboth).1

/-- The name table is the contents of the section that the file header names. -/
theorem nameTable_image :
    (imageFile order sections).nameTable (imageTable order sections) =
      .ok (some (nameTableBytes sections)) := by
  have hlt := h.length_lt
  have hcount := h.count_le
  have htable := (holdsAt_table order sections).end_le
  have hnames := holdsAt_names order sections
  have hend := hnames.end_le
  have hfits : (nameTableHeader sections).Fits :=
    fits_of_mem_imageHeaders h _ (by simp [imageHeaders])
  have hlast : (imageEntries sections)[sections.length + 1]? =
      some (nameTableHeader sections, 1) := by
    simp [imageEntries]
  have hget : (imageTable order sections).get (sections.length + 1) =
      .ok (nameTableHeader sections) :=
    SectionTable.get_of_entries hlast hfits (by omega)
  have hrange : (nameTableHeader sections).range =
      .ok (namesStart sections, namesStart sections + (nameTableBytes sections).length) :=
    SectionHeader.range_of_lt (Nat.lt_of_le_of_lt hend hlt)
  have hindex : (imageFile order sections).header.nameTable = sections.length + 1 := rfl
  rw [File.nameTable, File.nameTableIndex, if_neg (by omega), if_neg (by omega), hindex, ok_bind,
    hget, ok_bind, hrange, ok_bind]
  simp only [imageFile, hnames.slice, ok_bind]
  rfl

/-- **The reader finds the headers and their names.** -/
theorem namedSections_image :
    (imageFile order sections).namedSections =
      .ok (some (imageHeaders sections, nameTableBytes sections)) := by
  have hheaders : (imageTable order sections).headers = imageHeaders sections := by
    rw [imageTable, SectionTable.headers_of_entries, map_fst_imageEntries]
    intro e he
    apply fits_of_mem_imageHeaders h
    rw [← map_fst_imageEntries]
    exact List.mem_map_of_mem he
  have hsections : (imageFile order sections).sections? = some (imageTable order sections) := rfl
  simp only [File.namedSections, hsections, nameTable_image h, ok_bind, hheaders]
  rfl

theorem sectionNames_image :
    (imageFile order sections).sectionNames =
      .ok (((imageSections sections).map NamedSection.name).filter (· ≠ "")) := by
  simp only [File.sectionNames, namedSections_image h, ok_bind,
    Describes.mapM_nameAt (forall₂_describes_image h)]
  rfl

/-- The first section with a name is found and its contents are there. -/
theorem exists_find?_image {name : String} {first : NamedSection}
    (hfirst : (imageSections sections).find? (fun s => s.name == name) = some first) :
    ∃ header, (imageFile order sections).find? name = .ok (some header) ∧
      (imageFile order sections).contents header = .ok first.contents := by
  obtain ⟨header, hfind, hd⟩ := Describes.exists_find? (forall₂_describes_image h) hfirst
  refine ⟨header, ?_, ?_⟩
  · simp only [File.find?, namedSections_image h, ok_bind, hfind]
    rfl
  · have hd : Describes (imageFile order sections).data (nameTableBytes sections) header first := hd
    exact hd.contents_eq h.length_lt

end Writable

/-- **Files that have been written are loaded again.** The names of all sections are listed in order
but for the empty ones, with that of the name table at the end. A section that is asked for by its
name is loaded from the contents of the first section that was given this name, whatever the byte
order of the file. -/
theorem image_loads_back {order : ByteOrder} {sections : List NamedSection}
    (h : Writable order sections) :
    Program.sectionNames (image order sections) =
        .ok ((sections.map NamedSection.name).filter (· ≠ "") ++ [".shstrtab"]) ∧
      ∀ name ∈ sections.map NamedSection.name, name ≠ "" →
        ∃ first, sections.find? (fun s => s.name == name) = some first ∧
          Program.ofSection (image order sections) name = Program.ofBytes first.contents := by
  refine ⟨?_, ?_⟩
  · rw [Program.sectionNames, parse_image h, ok_bind, sectionNames_image h]
    simp [imageSections, nameTableName, Program.liftElf, Except.mapError]
  · intro name hmem hname
    obtain ⟨s, hs, rfl⟩ := List.mem_map.1 hmem
    obtain ⟨first, hfirst⟩ : ∃ first, sections.find? (fun x => x.name == s.name) = some first := by
      rw [← Option.isSome_iff_exists, List.find?_isSome]
      exact ⟨s, hs, beq_self_eq_true s.name⟩
    have hall : (imageSections sections).find? (fun x => x.name == s.name) = some first := by
      rw [imageSections, List.find?_cons_of_neg, List.find?_append, hfirst, Option.some_or]
      simpa using hname.symm
    obtain ⟨header, hfind, hcontents⟩ := exists_find?_image h hall
    refine ⟨first, hfirst, ?_⟩
    rw [Program.ofSection, parse_image h]
    simp only [Program.liftElf, Except.mapError, ok_bind, hfind, hcontents]

/-- Sections two of which share a name; one has an empty name, one a name with characters of two
bytes and contents that are not a whole number of words, and one is named like the name table. -/
def sampleSections : List NamedSection :=
  [⟨"xdp", [0x95, 0, 0, 0, 0, 0, 0, 0]⟩, ⟨"", [1, 2, 3]⟩, ⟨"xdp", []⟩, ⟨"größe", [7]⟩,
    ⟨".shstrtab", []⟩]

/-- With the numbers of the file in big-endian order, the first of the two sections is loaded, and
the broken length is reported. -/
theorem sampleSections_load_back :
    Writable .big sampleSections ∧
      Program.sectionNames (image .big sampleSections) =
        .ok ["xdp", "xdp", "größe", ".shstrtab", ".shstrtab"] ∧
      Program.ofSection (image .big sampleSections) "xdp" =
        Program.ofBytes [0x95, 0, 0, 0, 0, 0, 0, 0] ∧
      Program.ofSection (image .big sampleSections) "größe" = .error (.brokenLength 1 8) := by
  have hwritable : Writable .big sampleSections := by
    refine ⟨by decide, by simp [sampleSections], ?_, ?_⟩ <;>
      simp [sampleSections, image, contentsBytes, nameTableBytes, nameEntry, nameTableName,
        sectionHeaderBytes, alignUp, Text.Utf8.encode, Text.Utf8.encodeChar]
  obtain ⟨hnames, hload⟩ := image_loads_back hwritable
  refine ⟨hwritable, ?_, ?_, ?_⟩
  · rw [hnames]
    simp [sampleSections]
  · obtain ⟨first, hfirst, hprogram⟩ := hload "xdp" (by simp [sampleSections]) (by simp)
    have hthis : sampleSections.find? (fun s => s.name == "xdp") =
        some ⟨"xdp", [0x95, 0, 0, 0, 0, 0, 0, 0]⟩ := by
      simp [sampleSections]
    rw [hprogram, ← Option.some.inj (hthis.symm.trans hfirst)]
  · obtain ⟨first, hfirst, hprogram⟩ := hload "größe" (by simp [sampleSections]) (by simp)
    have hthis : sampleSections.find? (fun s => s.name == "größe") = some ⟨"größe", [7]⟩ := by
      simp [sampleSections]
    rw [hprogram, ← Option.some.inj (hthis.symm.trans hfirst)]
    rfl

end Elf
end Ebpf
