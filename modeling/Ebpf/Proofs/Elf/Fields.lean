import Mathlib
import Ebpf.Elf.Image
import Ebpf.Proofs.Program.Encodings

/-!
# Numbers and headers that have been written are read again

A reader of an ELF file looks at places, a writer puts pieces one behind the other. The two meet in
`HoldsAt data start piece`: the piece stands at that place of the data.

* `ByteOrder.value_bytes`: a number is read from its bytes as it was written, in either order.
* `HoldsAt.slice`: a piece is what is cut out at its place.
* `Format.readsFields_of_holdsAt`: of numbers that stand one behind the other, each is read behind
  those before it.
* `SectionHeader.read_of_holdsAt`, `Format.read_of_holdsAt` and `FileHeader.read_of_holdsAt`: a
  header is read where it was written.
-/

namespace Ebpf
namespace Elf

/-! ## Numbers -/

@[simp] theorem length_littleBytes (size n : Nat) : (littleBytes size n).length = size := by
  induction size generalizing n with
  | zero => rfl
  | succ size ih => simp [littleBytes, ih]

namespace ByteOrder

@[simp] theorem length_bytes (order : ByteOrder) (size n : Nat) :
    (order.bytes size n).length = size := by
  cases order with
  | little => exact length_littleBytes size n
  | big => simp [bytes]

/-- The lowest byte and the others, put together. -/
theorem byte_add_rest (n size : Nat) :
    (BitVec.ofNat 8 n).toNat + 256 * (n / 256 % 256 ^ size) = n % 256 ^ (size + 1) := by
  rw [BitVec.toNat_ofNat, pow_succ 256 size, Nat.mul_comm (256 ^ size), Nat.mod_mul]

theorem value_little (size n : Nat) : little.value (littleBytes size n) = n % 256 ^ size := by
  induction size generalizing n with
  | zero => simp [littleBytes, value, Nat.mod_one]
  | succ size ih =>
    have hrest : little.value (littleBytes (size + 1) n) =
        (BitVec.ofNat 8 n).toNat + 256 * little.value (littleBytes size (n / 256)) := rfl
    rw [hrest, ih, byte_add_rest]

/-- Bytes in the other order spell the same number in the other order. -/
theorem value_big_reverse (bytes : List Byte) : big.value bytes.reverse = little.value bytes := by
  induction bytes with
  | nil => rfl
  | cons b bytes ih =>
    have hlittle : little.value (b :: bytes) = b.toNat + 256 * little.value bytes := rfl
    have hbig : big.value (b :: bytes).reverse = 256 * big.value bytes.reverse + b.toNat := by
      rw [List.reverse_cons]
      exact Word.bigEndian_append_singleton bytes.reverse b
    rw [hlittle, hbig, ih, Nat.add_comm]

/-- **A number is read as it was written**, up to what fits into its bytes. -/
theorem value_bytes (order : ByteOrder) (size n : Nat) :
    order.value (order.bytes size n) = n % 256 ^ size := by
  cases order with
  | little => exact value_little size n
  | big => rw [bytes, value_big_reverse, value_little]

end ByteOrder

/-! ## Places -/

/-- A piece stands at a place of the data. -/
def HoldsAt (data : List Byte) (start : Nat) (piece : List Byte) : Prop :=
  ∃ before after, data = before ++ piece ++ after ∧ before.length = start

namespace HoldsAt

variable {data piece a b : List Byte} {start : Nat}

/-- Data stand at their own start. -/
theorem self (data : List Byte) : HoldsAt data 0 data := ⟨[], [], by simp, rfl⟩

theorem left (h : HoldsAt data start (a ++ b)) : HoldsAt data start a := by
  obtain ⟨before, after, rfl, hstart⟩ := h
  exact ⟨before, b ++ after, by simp, hstart⟩

theorem right (h : HoldsAt data start (a ++ b)) : HoldsAt data (start + a.length) b := by
  obtain ⟨before, after, rfl, rfl⟩ := h
  exact ⟨before ++ a, after, by simp, by simp⟩

/-- A piece ends inside the data. -/
theorem end_le (h : HoldsAt data start piece) : start + piece.length ≤ data.length := by
  obtain ⟨before, after, rfl, rfl⟩ := h
  simp only [List.length_append]
  omega

/-- **A piece is what is cut out at its place.** -/
theorem slice (h : HoldsAt data start piece) :
    slice data start (start + piece.length) = .ok piece := by
  have hend := h.end_le
  obtain ⟨before, after, rfl, rfl⟩ := h
  rw [Elf.slice, if_pos ⟨Nat.le_add_right _ _, hend⟩, List.append_assoc, List.drop_left,
    Nat.add_sub_cancel_left, List.take_left]

end HoldsAt

theorem checked_of_lt {n : Nat} (h : n < sizeLimit) : checked n = .ok n := by
  rw [checked, if_pos h]

/-- A stage that succeeds hands on its result. -/
theorem ok_bind {ε α β : Type} (x : α) (f : α → Except ε β) : (Except.ok x >>= f) = f x := rfl

/-! ## Fields -/

/-- Numbers one behind the other, each with its size in bytes. -/
def fieldsBytes (order : ByteOrder) (fields : List (Nat × Nat)) : List Byte :=
  fields.flatMap fun x => order.bytes x.1 x.2

/-- Each of the fields is read where the one before it ends, up to what fits into its bytes. -/
def Format.ReadsFields (f : Format) (data : List Byte) : Nat → List (Nat × Nat) → Prop
  | _, [] => True
  | start, (size, n) :: rest =>
    f.uint data start size = .ok (n % 256 ^ size) ∧ f.ReadsFields data (start + size) rest

/-- **Fields are read where they were written.** -/
theorem Format.readsFields_of_holdsAt (f : Format) {data : List Byte}
    (hdata : data.length < sizeLimit) {start : Nat} {fields : List (Nat × Nat)}
    (h : HoldsAt data start (fieldsBytes f.order fields)) : f.ReadsFields data start fields := by
  induction fields generalizing start with
  | nil => exact trivial
  | cons x fields ih =>
    obtain ⟨size, n⟩ := x
    have hcons : fieldsBytes f.order ((size, n) :: fields) =
        f.order.bytes size n ++ fieldsBytes f.order fields := List.flatMap_cons
    rw [hcons] at h
    have hend := h.left.end_le
    have hslice := h.left.slice
    have hrest := h.right
    rw [ByteOrder.length_bytes] at hend hslice hrest
    refine ⟨?_, ih hrest⟩
    rw [Format.uint, checked_of_lt (by omega), ok_bind, hslice, ok_bind, ByteOrder.value_bytes]
    rfl

/-! ## Headers -/

section Headers

variable {order : ByteOrder} {data : List Byte} {start name type flags offset size alignment : Nat}

@[simp] theorem length_headerBytes :
    (headerBytes order name type flags offset size alignment).length = 64 := by
  simp [headerBytes]

theorem headerBytes_eq_fieldsBytes :
    headerBytes order name type flags offset size alignment =
      fieldsBytes order [(4, name), (4, type), (8, flags), (8, 0), (8, offset), (8, size), (4, 0),
        (4, 0), (8, alignment), (8, 0)] := by
  simp [headerBytes, fieldsBytes]

/-- **A section header is read where it was written**, if its numbers fit into their fields. -/
theorem SectionHeader.read_of_holdsAt (hdata : data.length < sizeLimit)
    (h : HoldsAt data start (headerBytes order name type flags offset size alignment))
    (hname : name < 256 ^ 4) (htype : type < 256 ^ 4) (hflags : flags < 256 ^ 8)
    (hoffset : offset < 256 ^ 8) (hsize : size < 256 ^ 8) :
    SectionHeader.read ⟨.elf64, order⟩ data start =
      .ok { name, type, flags, offset, size, link := 0, info := 0 } := by
  rw [headerBytes_eq_fieldsBytes] at h
  have hread := Format.readsFields_of_holdsAt ⟨.elf64, order⟩ hdata h
  simp only [Format.ReadsFields, Nat.add_assoc, Nat.reduceAdd] at hread
  obtain ⟨rname, rtype, rflags, raddress, roffset, rsize, rlink, rinfo, ralignment, rentry, -⟩ :=
    hread
  simp only [SectionHeader.read, Format.word, Format.offset, Layout.wordSize, Nat.add_assoc,
    Nat.reduceAdd, Nat.reduceMul]
  rw [rname, rtype, rflags, raddress, roffset, rsize, rlink, rinfo, ralignment, rentry,
    Nat.mod_eq_of_lt hname, Nat.mod_eq_of_lt htype, Nat.mod_eq_of_lt hflags,
    Nat.mod_eq_of_lt hoffset, Nat.mod_eq_of_lt hsize]
  rfl

variable {table count : Nat}

@[simp] theorem length_fileHeaderBytes : (fileHeaderBytes order table count).length = 64 := by
  simp [fileHeaderBytes]

theorem fileHeaderBytes_eq_fieldsBytes :
    fileHeaderBytes order table count =
      ([0x7f, 0x45, 0x4c, 0x46, 2, order.mark, 1, 0] ++ List.replicate 8 0) ++
        fieldsBytes order [(2, 1), (2, 247), (4, 1), (8, 0), (8, 0), (8, table), (4, 0), (2, 64),
          (2, 56), (2, 0), (2, 64), (2, count), (2, count - 1)] := by
  simp [fileHeaderBytes, fieldsBytes]

/-- The first bytes of a file give the format that it was written in. -/
theorem Format.read_of_holdsAt (h : HoldsAt data 0 (fileHeaderBytes order table count)) :
    Format.read data = .ok ⟨.elf64, order⟩ := by
  rw [fileHeaderBytes_eq_fieldsBytes] at h
  have hslice : slice data 0 16 = .ok _ := h.left.slice
  rw [Format.read, hslice]
  cases order <;> rfl

/-- **The file header is read as it was written**, if its numbers fit into their fields. -/
theorem FileHeader.read_of_holdsAt (hdata : data.length < sizeLimit)
    (h : HoldsAt data 0 (fileHeaderBytes order table count)) (htable : table < 256 ^ 8)
    (hcount : count < 256 ^ 2) :
    FileHeader.read ⟨.elf64, order⟩ data =
      .ok { segmentTable := 0, sectionTable := table, segmentEntry := 56, segmentCount := 0,
            sectionEntry := 64, sectionCount := count, nameTable := count - 1 } := by
  have hend := h.end_le
  rw [length_fileHeaderBytes] at hend
  have hwhole : slice data 16 64 = .ok ((data.drop 16).take 48) := by
    rw [slice, if_pos ⟨by decide, by omega⟩]
  rw [fileHeaderBytes_eq_fieldsBytes] at h
  have hfields : HoldsAt data 16 _ := h.right
  have hread := Format.readsFields_of_holdsAt ⟨.elf64, order⟩ hdata hfields
  simp only [Format.ReadsFields, Nat.reduceAdd] at hread
  obtain ⟨-, -, -, -, rsegments, rsections, -, -, rsegmentEntry, rsegmentCount, rsectionEntry,
    rsectionCount, rnames, -⟩ := hread
  simp only [FileHeader.read, Format.half, Format.offset, Layout.wordSize, Layout.fileHeaderSize,
    Nat.reduceAdd, Nat.reduceMul]
  rw [hwhole, rsegments, rsections, rsegmentEntry, rsegmentCount, rsectionEntry, rsectionCount,
    rnames, Nat.mod_eq_of_lt htable, Nat.mod_eq_of_lt hcount,
    Nat.mod_eq_of_lt (Nat.lt_of_le_of_lt (Nat.sub_le count 1) hcount)]
  rfl

end Headers

end Elf
end Ebpf
