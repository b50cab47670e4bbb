import Mathlib
import Ebpf.Proofs.Program.Blocks
import Ebpf.Proofs.Program.Listing
import Ebpf.Proofs.Program.Numbering
import Ebpf.Proofs.Text.Decimal

/-!
# The column of slot numbers

The width of the slot numbers of a listing is taken from the number of slots before the first line
is there, and it also counts slots that have no line. It fits every line all the same, so that the
lines are sorted by this column as numbers and as texts.

* `Listing.indexColumn` is the text before the first colon of a line.
* `Listing.exists_line_of_getElem?`: the lines of a listing are those of its instructions, in order.
* `Program.decimalWidth_le_indexWidth`: every slot number fits into the width.
* `Program.Loaded.indexColumn_sorted` puts this together.
-/

namespace Ebpf
namespace Listing

/-! ## Columns -/

/-- The text before the first colon of a line. -/
def indexColumn (line : String) : String := String.ofList (line.toList.takeWhile (· ≠ ':'))

/-- A number is all that stands before the colon behind it. -/
theorem indexColumn_decimal_append (width n : Nat) (rest : String) :
    indexColumn (Text.decimal width n ++ ": " ++ rest) = Text.decimal width n := by
  have hdigits : ∀ c ∈ (Text.decimal width n).toList, decide (c ≠ ':') = true := by
    intro c hc
    have hc := Text.isDigit_decimal width n c hc
    refine decide_eq_true ?_
    rintro rfl
    cases hc
  rw [indexColumn, String.toList_append, String.toList_append, List.append_assoc,
    List.takeWhile_append_of_pos hdigits]
  simp

/-- With slot numbers, the column of a line is the slot of its item, and a colon follows. -/
theorem indexColumn_of_hasLine {style : ListingStyle} {width : Nat} {d : Item} {line : String}
    (hnumbers : style.numbers = true) (h : d.HasLine style width line) :
    indexColumn line = Text.decimal width d.index ∧
      ∃ rest, line = indexColumn line ++ ": " ++ rest := by
  obtain ⟨text, -, rfl⟩ := h
  rw [if_pos hnumbers, String.append_assoc]
  have hcolumn := indexColumn_decimal_append width d.index
    ((if style.rawWords then d.insn.raw ++ " " else "") ++ text)
  exact ⟨hcolumn, _, by rw [hcolumn]⟩

/-! ## Lines and instructions -/

/-- A line that is there is the line of its item. -/
theorem hasLine_of_line_eq_ok {style : ListingStyle} {width : Nat} {x : Nat × Instruction}
    {s : String} (h : line style width x.1 x.2 = .ok s) :
    (Item.ofInstruction x).HasLine style width s := by
  cases hfatal : (Item.ofInstruction x).isFatal style.gaps with
  | true =>
    obtain ⟨e, -, he⟩ := exists_line_of_fatal style width hfatal
    rw [he] at h
    cases h
  | false =>
    obtain ⟨t, ht, hline⟩ := exists_line_of_not_fatal style width hfatal
    obtain rfl : t = s := Except.ok.inj (ht.symm.trans h)
    exact hline

/-- **The lines of a listing are those of its instructions, in order.** -/
theorem exists_line_of_getElem? {style : ListingStyle} {width : Nat}
    {xs : List (Nat × Instruction)} {n : Nat} {s : String}
    (h : (results style width xs)[n]? = some (.ok s)) :
    ∃ x, xs[n]? = some x ∧ line style width x.1 x.2 = .ok s := by
  induction xs generalizing n with
  | nil => cases h
  | cons x rest ih =>
    cases hline : line style width x.1 x.2 with
    | error e =>
      -- the listing ends here, with a failure
      rw [results_cons_of_error hline] at h
      cases n <;> simp at h
    | ok t =>
      rw [results_cons_of_ok hline] at h
      cases n with
      | zero => exact ⟨x, rfl, by simpa [hline] using h⟩
      | succ n => exact ih h

end Listing

namespace Program

/-- A line of a listing shows the instruction with the same number of instructions before it. -/
theorem exists_hasLine_of_given {p : Program} {style : ListingStyle} {n : Nat} {s : String}
    (h : (p.listing style).given n = some (.ok s)) :
    ∃ x, p.instructions[n]? = some x ∧ (Item.ofInstruction x).HasLine style p.indexWidth s := by
  rw [Listing.given_eq_getElem?, toList_listing] at h
  obtain ⟨x, hx, hline⟩ := Listing.exists_line_of_getElem? h
  exact ⟨x, hx, Listing.hasLine_of_line_eq_ok hline⟩

/-- Every slot number fits into the width. -/
theorem decimalWidth_le_indexWidth {p : Program} {x : Nat × Instruction}
    (h : x ∈ p.instructions) : Text.decimalWidth x.1 ≤ p.indexWidth := by
  obtain ⟨hlt, -⟩ := Array.getElem?_eq_some_iff.1 (mem_instructions_iff.1 h)
  exact Text.decimalWidth_mono (Nat.le_sub_one_of_lt hlt)

/-- **The column of slot numbers has one width and is sorted.** In a listing with slot numbers, the
text before the first colon of a line is made of as many digits as the decimal form of the largest
slot has, whether an instruction starts at that slot or not. Read as a number it is the slot of the
instruction that the line shows. Of two lines, the column of the earlier one is smaller, as a number
and as a text. -/
theorem Loaded.indexColumn_sorted {p : Program} (h : p.Loaded) {style : ListingStyle}
    (hnumbers : style.numbers = true) :
    (∀ n line, (p.listing style).given n = some (.ok line) →
      (∃ rest, line = Listing.indexColumn line ++ ": " ++ rest) ∧
      (∀ c ∈ (Listing.indexColumn line).toList, c.isDigit = true) ∧
      (Listing.indexColumn line).length = (Text.natural (p.size - 1)).length ∧
      ∃ x, p.instructions[n]? = some x ∧
        (Item.ofInstruction x).HasLine style (Text.decimalWidth (p.size - 1)) line ∧
        (Listing.indexColumn line).toNat? = some x.1) ∧
    (∀ m n line line', m < n → (p.listing style).given m = some (.ok line) →
      (p.listing style).given n = some (.ok line') →
      (Listing.indexColumn line).length = (Listing.indexColumn line').length ∧
      (∃ a b, (Listing.indexColumn line).toNat? = some a ∧
        (Listing.indexColumn line').toNat? = some b ∧ a < b) ∧
      Listing.indexColumn line < Listing.indexColumn line') := by
  have hshown : ∀ n line, (p.listing style).given n = some (.ok line) →
      ∃ x, p.instructions[n]? = some x ∧ (Item.ofInstruction x).HasLine style p.indexWidth line ∧
        Listing.indexColumn line = Text.decimal p.indexWidth x.1 ∧
        Text.decimalWidth x.1 ≤ p.indexWidth := by
    intro n line hgiven
    obtain ⟨x, hx, hline⟩ := exists_hasLine_of_given hgiven
    exact ⟨x, hx, hline, (Listing.indexColumn_of_hasLine hnumbers hline).1,
      decimalWidth_le_indexWidth (List.mem_of_getElem? hx)⟩
  have hincreasing : p.instructions.Pairwise fun x y => x.1 < y.1 := by
    obtain ⟨is, rfl⟩ := h.exists_instructions
    exact pairwise_instructions is
  refine ⟨?_, ?_⟩
  · intro n line hgiven
    obtain ⟨x, hx, hline, hcolumn, hfits⟩ := hshown n line hgiven
    refine ⟨(Listing.indexColumn_of_hasLine hnumbers hline).2, ?_, ?_, x, hx, hline, ?_⟩
    · rw [hcolumn]
      exact Text.isDigit_decimal p.indexWidth x.1
    · rw [hcolumn, Text.length_decimal hfits, Text.natural, String.length_ofList]
      rfl
    · rw [hcolumn, Text.toNat?_decimal]
  · intro m n line line' hmn hgiven hgiven'
    obtain ⟨x, hx, -, hcolumn, hfits⟩ := hshown m line hgiven
    obtain ⟨y, hy, -, hcolumn', hfits'⟩ := hshown n line' hgiven'
    have hlt : x.1 < y.1 := by
      obtain ⟨hm, rfl⟩ := List.getElem?_eq_some_iff.1 hx
      obtain ⟨hn, rfl⟩ := List.getElem?_eq_some_iff.1 hy
      exact List.pairwise_iff_getElem.1 hincreasing m n hm hn hmn
    rw [hcolumn, hcolumn', Text.length_decimal hfits, Text.length_decimal hfits']
    exact ⟨rfl, ⟨x.1, y.1, Text.toNat?_decimal _ _, Text.toNat?_decimal _ _, hlt⟩,
      Text.decimal_lt_decimal hfits' hlt⟩

/-- Nine moves and a wide load take eleven slots. The largest slot number belongs to the extension
word and is not printed, but every column has its two digits. -/
theorem indexColumn_of_last_extension :
    ∃ p : Program,
      ofWords (List.replicate 9 0xb701000000000000 ++ [0x1801000000000000, 0]) = .ok p ∧
      (p.listing { rawWords := false }).given 8 = some (.ok "08: r1 = 0") ∧
      (p.listing { rawWords := false }).given 9 = some (.ok "09: r1 = 0 ll") ∧
      (Listing.indexColumn "09: r1 = 0 ll").length = (Text.natural (p.size - 1)).length ∧
      Listing.indexColumn "08: r1 = 0" < Listing.indexColumn "09: r1 = 0 ll" := by
  let p : Program := .ofInstructions
    (List.replicate 9 (.narrow 0xb701000000000000 (by decide)) ++ [.wide 0x1801000000000000 0 rfl])
  have hload : ofWords (List.replicate 9 0xb701000000000000 ++ [0x1801000000000000, 0]) = .ok p :=
    rfl
  have height : (p.listing { rawWords := false }).given 8 = some (.ok "08: r1 = 0") := by
    decide +kernel
  have hnine : (p.listing { rawWords := false }).given 9 = some (.ok "09: r1 = 0 ll") := by
    decide +kernel
  have hnumbers : ({ rawWords := false } : ListingStyle).numbers = true := rfl
  obtain ⟨hline, hpair⟩ := (Loaded.ofWords hload).indexColumn_sorted hnumbers
  exact ⟨p, hload, height, hnine, (hline 9 _ hnine).2.2.1,
    (hpair 8 9 _ _ (by decide) height hnine).2.2⟩

end Program
end Ebpf
