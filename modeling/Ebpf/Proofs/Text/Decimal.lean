import Mathlib
import Ebpf.Text.Digits

/-!
# Decimal numbers

Plain numbers are the decimal texts of the standard library (`Text.natural_eq`, `Text.integer_eq`).
Numbers that are written with zeros up to one width are sorted as texts in the order of the numbers.

* `Text.isDigit_decimal`, `Text.length_decimal` and `Text.toNat?_decimal`: such a text is made of
  digits, has the width, and is read as the number.
* `Text.decimalWidth_mono`: a width that has room for a number has room for every smaller one.
* `Text.lt_of_ofDigitChars_lt`: of two texts with as many digits, the one with the smaller value
  comes first; hence `Text.decimal_lt_decimal`.
-/

namespace Ebpf
namespace Text

/-! ## Plain numbers -/

theorem natural_eq (n : Nat) : natural n = toString n := rfl

theorem integer_eq (k : Int) : integer k = toString k := by
  cases k with
  | ofNat n => rfl
  | negSucc n =>
    rw [integer, if_pos (Int.negSucc_lt_zero n)]
    rfl

/-! ## Digits and their value -/

/-- The first digit counts as much as there are digits behind it. -/
theorem ofDigitChars_cons_eq (c : Char) (cs : List Char) :
    Nat.ofDigitChars 10 (c :: cs) 0 =
      10 ^ cs.length * (c.toNat - 48) + Nat.ofDigitChars 10 cs 0 := by
  rw [Nat.ofDigitChars_cons, Nat.ofDigitChars_eq_ofDigitChars_zero, Nat.mul_zero, Nat.zero_add]
  rfl

/-- Digits spell a number that fits into them. -/
theorem ofDigitChars_lt {cs : List Char} (h : ∀ c ∈ cs, c.isDigit = true) :
    Nat.ofDigitChars 10 cs 0 < 10 ^ cs.length := by
  induction cs with
  | nil => simp
  | cons c cs ih =>
    have hrest := ih fun d hd => h d (List.mem_cons_of_mem c hd)
    have hc : c.toNat ≤ 57 := (Char.isDigit_iff_toNat.1 (h c List.mem_cons_self)).2
    have hfirst : 10 ^ cs.length * (c.toNat - 48) ≤ 10 ^ cs.length * 9 :=
      Nat.mul_le_mul_left _ (by omega)
    rw [ofDigitChars_cons_eq, List.length_cons, pow_succ]
    omega

/-- **Of two texts with as many digits, the one with the smaller value comes first.** -/
theorem lt_of_ofDigitChars_lt {cs ds : List Char} (hlen : cs.length = ds.length)
    (hcs : ∀ c ∈ cs, c.isDigit = true) (hds : ∀ d ∈ ds, d.isDigit = true)
    (h : Nat.ofDigitChars 10 cs 0 < Nat.ofDigitChars 10 ds 0) : cs < ds := by
  induction cs generalizing ds with
  | nil =>
    obtain rfl : ds = [] := List.length_eq_zero_iff.1 hlen.symm
    exact absurd h (Nat.lt_irrefl _)
  | cons c cs ih =>
    obtain ⟨d, ds, rfl⟩ := List.exists_cons_of_length_eq_add_one hlen.symm
    have hrest : cs.length = ds.length := Nat.succ.inj hlen
    have hcs' : ∀ x ∈ cs, x.isDigit = true := fun x hx => hcs x (List.mem_cons_of_mem c hx)
    have hds' : ∀ x ∈ ds, x.isDigit = true := fun x hx => hds x (List.mem_cons_of_mem d hx)
    rw [ofDigitChars_cons_eq, ofDigitChars_cons_eq, hrest] at h
    rw [List.cons_lt_cons_iff]
    rcases lt_trichotomy c d with hlt | rfl | hgt
    · exact Or.inl hlt
    · exact Or.inr ⟨rfl, ih hrest hcs' hds' (by omega)⟩
    · -- a greater first digit outweighs all the others
      exfalso
      have hd : 48 ≤ d.toNat := (Char.isDigit_iff_toNat.1 (hds d List.mem_cons_self)).1
      have hdc : d.toNat < c.toNat := hgt
      have hmul : 10 ^ ds.length * (d.toNat - 48 + 1) ≤ 10 ^ ds.length * (c.toNat - 48) :=
        Nat.mul_le_mul_left _ (by omega)
      have hbound := ofDigitChars_lt hds'
      rw [Nat.mul_add, Nat.mul_one] at hmul
      omega

/-! ## Padded numbers -/

/-- A width that has room for a number has room for every smaller one. -/
theorem decimalWidth_mono {m n : Nat} (h : m ≤ n) : decimalWidth m ≤ decimalWidth n := by
  have hpos : 0 < decimalWidth n := List.length_pos_iff.2 Nat.toDigits_ne_nil
  have hn : n < 10 ^ decimalWidth n :=
    (Nat.length_toDigits_le_iff (by decide) hpos).1 (Nat.le_refl _)
  exact (Nat.length_toDigits_le_iff (by decide) hpos).2 (Nat.lt_of_le_of_lt h hn)

theorem toList_decimal (width n : Nat) :
    (decimal width n).toList =
      List.replicate (width - decimalWidth n) '0' ++ Nat.toDigits 10 n := by
  rw [decimal, String.toList_ofList, List.leftpad, decimalWidth]

theorem isDigit_decimal (width n : Nat) : ∀ c ∈ (decimal width n).toList, c.isDigit = true := by
  intro c hc
  rw [toList_decimal] at hc
  rcases List.mem_append.1 hc with hc | hc
  · rw [List.eq_of_mem_replicate hc]
    rfl
  · exact Nat.isDigit_of_mem_toDigits (by decide) (by decide) hc

theorem length_decimal {width n : Nat} (h : decimalWidth n ≤ width) :
    (decimal width n).length = width := by
  rw [← String.length_toList, toList_decimal, List.length_append, List.length_replicate,
    ← decimalWidth, Nat.sub_add_cancel h]

/-- Zeros on the left do not count. -/
theorem ofDigitChars_decimal (width n : Nat) :
    Nat.ofDigitChars 10 (decimal width n).toList 0 = n := by
  rw [toList_decimal, Nat.ofDigitChars_append, Nat.ofDigitChars_replicate_zero, Nat.mul_zero,
    Nat.ofDigitChars_ten_toDigits]

/-- A padded number is read as the number. -/
theorem toNat?_decimal (width n : Nat) : (decimal width n).toNat? = some n := by
  have hdigits := isDigit_decimal width n
  have hne : decimal width n ≠ "" := by
    intro h
    have hnil := congrArg String.toList h
    rw [toList_decimal] at hnil
    exact Nat.toDigits_ne_nil (List.append_eq_nil_iff.1 hnil).2
  have hfilter : (decimal width n).toList.filter (· != '_') = (decimal width n).toList := by
    refine List.filter_eq_self.2 fun c hc => ?_
    have hc := hdigits c hc
    rw [bne_iff_ne]
    rintro rfl
    cases hc
  rw [String.toNat?_eq_some_ofDigitChars (String.isNat_of_isDigit hne hdigits), hfilter,
    ofDigitChars_decimal]

/-- **Numbers of one width are sorted as texts in the order of the numbers.** -/
theorem decimal_lt_decimal {width m n : Nat} (hn : decimalWidth n ≤ width) (h : m < n) :
    decimal width m < decimal width n := by
  have hm : decimalWidth m ≤ width := (decimalWidth_mono h.le).trans hn
  rw [String.lt_iff_toList_lt]
  refine lt_of_ofDigitChars_lt ?_ (isDigit_decimal width m) (isDigit_decimal width n) ?_
  · rw [String.length_toList, String.length_toList, length_decimal hm, length_decimal hn]
  · rwa [ofDigitChars_decimal, ofDigitChars_decimal]

end Text
end Ebpf
