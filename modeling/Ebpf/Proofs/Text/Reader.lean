import Mathlib
import Ebpf.Text.Digits

/-!
# Reading texts back

A reader takes something off the front of a text. The law of a reader says that it gives back what
was written, and leaves what stands behind it as it is.

* `Reader.accept` and `Reader.literal` take a fixed text, `Reader.natural` and `Reader.integer` a
  number, and `Reader.choice` one of several fixed texts.
* `Reader.Ends`: a number ends where no digit follows, so that is asked of what stands behind it
  (`Reader.run_natural`, `Reader.run_integer`, `Reader.run_signed`).
* `Reader.run_choice`: one of several texts is found if none of them is the start of another.
-/

namespace Ebpf

/-- Takes something off the front of a text and leaves the rest. -/
abbrev Reader (α : Type) := StateT (List Char) Option α

namespace Reader

/-! ## Fixed texts -/

/-- Takes a fixed text if it stands at the front, and says whether it did. -/
def accept (s : String) : Reader Bool := fun cs =>
  some ((cs.dropPrefix? s.toList).elim (false, cs) fun rest => (true, rest))

/-- Takes a fixed text that has to stand at the front. -/
def literal (s : String) : Reader Unit := do
  guard (← accept s)

@[simp] theorem run_accept (s : String) (cs : List Char) :
    (accept s).run cs =
      some ((cs.dropPrefix? s.toList).elim (false, cs) fun rest => (true, rest)) := rfl

@[simp] theorem run_guard (b : Bool) (cs : List Char) :
    (guard (b = true) : Reader Unit).run cs = if b then some ((), cs) else none := by
  cases b <;> rfl

@[simp] theorem dropPrefix?_cons_self (c : Char) (cs ds : List Char) :
    (c :: cs).dropPrefix? (c :: ds) = cs.dropPrefix? ds := by
  simp [List.dropPrefix?]

@[simp] theorem dropPrefix?_cons_of_ne {c d : Char} (h : c ≠ d) (cs ds : List Char) :
    (c :: cs).dropPrefix? (d :: ds) = none := by
  simp [List.dropPrefix?, h]

/-! ## Numbers -/

/-- Takes the digits at the front; there has to be one. -/
def natural : Reader Nat := fun cs =>
  let digits := cs.takeWhile Char.isDigit
  if digits = [] then none
  else some (Nat.ofDigitChars 10 digits 0, cs.dropWhile Char.isDigit)

/-- Takes a number that may have a sign. -/
def integer : Reader Int := do
  if ← accept "-" then
    return -(← natural)
  else
    let _ ← accept "+"
    return (← natural)

/-- No digit stands at the front. -/
def Ends (cs : List Char) : Prop := ∀ c ∈ cs.head?, c.isDigit = false

@[simp] theorem ends_cons {c : Char} {cs : List Char} : Ends (c :: cs) ↔ c.isDigit = false := by
  simp [Ends]

theorem isDigit_toDigits (n : Nat) : ∀ c ∈ Nat.toDigits 10 n, c.isDigit = true := by
  intro c hc
  exact Nat.isDigit_of_mem_toDigits (by decide) (by decide) hc

/-- The digits of a number are not empty. -/
theorem exists_cons_toDigits (n : Nat) :
    ∃ c cs, Nat.toDigits 10 n = c :: cs ∧ c.isDigit = true := by
  cases h : Nat.toDigits 10 n with
  | nil => exact absurd h Nat.toDigits_ne_nil
  | cons c cs => exact ⟨c, cs, rfl, isDigit_toDigits n c (by simp [h])⟩

theorem takeWhile_isDigit_append (n : Nat) {rest : List Char} (h : Ends rest) :
    (Nat.toDigits 10 n ++ rest).takeWhile Char.isDigit = Nat.toDigits 10 n := by
  rw [List.takeWhile_append_of_pos (isDigit_toDigits n)]
  cases rest with
  | nil => simp
  | cons c cs => simp [ends_cons.1 h]

theorem dropWhile_isDigit_append (n : Nat) {rest : List Char} (h : Ends rest) :
    (Nat.toDigits 10 n ++ rest).dropWhile Char.isDigit = rest := by
  rw [List.dropWhile_append_of_pos (isDigit_toDigits n)]
  cases rest with
  | nil => simp
  | cons c cs => simp [ends_cons.1 h]

/-- The digits of a number are read as the number. -/
@[simp] theorem run_natural (n : Nat) {rest : List Char} (h : Ends rest) :
    natural.run (Nat.toDigits 10 n ++ rest) = some (n, rest) := by
  show natural (Nat.toDigits 10 n ++ rest) = some (n, rest)
  simp only [natural, takeWhile_isDigit_append n h, dropWhile_isDigit_append n h,
    Nat.toDigits_ne_nil, if_false, Nat.ofDigitChars_ten_toDigits]

/-- No digit is taken for a text that starts with something else. -/
theorem run_accept_toDigits {s : String} {c : Char} {cs : List Char} (hs : s.toList = c :: cs)
    (hc : c.isDigit = false) (n : Nat) (rest : List Char) :
    (accept s).run (Nat.toDigits 10 n ++ rest) = some (false, Nat.toDigits 10 n ++ rest) := by
  obtain ⟨d, ds, hcons, hd⟩ := exists_cons_toDigits n
  have hne : d ≠ c := by
    rintro rfl
    rw [hd] at hc
    cases hc
  simp [hs, hcons, hne]

/-- A number is read back from its plain spelling. -/
@[simp] theorem run_integer (k : Int) {rest : List Char} (h : Ends rest) :
    integer.run ((Text.integer k).toList ++ rest) = some (k, rest) := by
  by_cases hk : k < 0
  · simp [integer, Text.integer, Text.natural, hk, h, abs_of_neg hk]
  · simp [integer, Text.integer, Text.natural, hk, h, -run_accept,
      run_accept_toDigits (s := "-") rfl rfl, run_accept_toDigits (s := "+") rfl rfl,
      abs_of_nonneg (not_lt.1 hk)]

/-- A number is read back from the spelling that always has a sign. -/
@[simp] theorem run_signed (k : Int) {rest : List Char} (h : Ends rest) :
    integer.run ((Text.signed k).toList ++ rest) = some (k, rest) := by
  by_cases hk : k < 0
  · simp [integer, Text.signed, Text.natural, hk, h, abs_of_neg hk]
  · simp [integer, Text.signed, Text.natural, hk, h, abs_of_nonneg (not_lt.1 hk)]

/-- No number is taken for a text that starts neither with a digit nor with a minus sign. -/
theorem run_accept_integer {s : String} {c : Char} {cs : List Char} (hs : s.toList = c :: cs)
    (hc : c.isDigit = false) (hm : c ≠ '-') (k : Int) (rest : List Char) :
    (accept s).run ((Text.integer k).toList ++ rest) =
      some (false, (Text.integer k).toList ++ rest) := by
  by_cases hk : k < 0
  · simp [Text.integer, hk, hs, hm.symm]
  · simpa [Text.integer, Text.natural, hk] using run_accept_toDigits hs hc k.natAbs rest

/-! ## One of several texts -/

/-- Takes the text of the first of `all` whose text stands at the front. -/
def choice {α : Type} (code : α → String) : List α → Reader α
  | [] => failure
  | a :: all => do
    if ← accept (code a) then return a
    else choice code all

/-- What was written is found again if its text and the others do not start one another. -/
theorem run_choice {α : Type} {code : α → String} {all : List α}
    (hfree : ∀ a ∈ all, ∀ b ∈ all, (code a).toList <+: (code b).toList → a = b)
    {a : α} (ha : a ∈ all) (rest : List Char) :
    (choice code all).run ((code a).toList ++ rest) = some (a, rest) := by
  induction all with
  | nil => cases ha
  | cons b all ih =>
    rw [choice, StateT.run_bind, run_accept]
    cases hdrop : ((code a).toList ++ rest).dropPrefix? (code b).toList with
    | some rest' =>
      obtain ⟨p, hp, hpb⟩ := List.dropPrefix?_eq_some_iff.1 hdrop
      obtain rfl : p = (code b).toList := eq_of_beq hpb
      -- both texts stand at the front, so one of them starts the other
      have hab : a = b := by
        obtain h | h := List.prefix_or_prefix_of_prefix (List.prefix_append _ rest)
          (hp ▸ List.prefix_append _ rest')
        · exact hfree a ha b List.mem_cons_self h
        · exact (hfree b List.mem_cons_self a ha h).symm
      subst hab
      obtain rfl := List.append_cancel_left hp
      rfl
    | none =>
      have hne : a ≠ b := by
        rintro rfl
        rw [List.dropPrefix?_append_of_beq rest (beq_self_eq_true _)] at hdrop
        cases hdrop
      exact ih (fun x hx y hy => hfree x (List.mem_cons_of_mem b hx) y (List.mem_cons_of_mem b hy))
        (List.mem_of_ne_of_mem hne ha)

end Reader
end Ebpf
