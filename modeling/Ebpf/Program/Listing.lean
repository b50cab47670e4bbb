import Ebpf.Program

/-!
# Listings

A listing has one line for each instruction:

```text
  07: 1801000000000000 0000000000000000 r1 = 0 ll
  09: 8500000001000000 call 1
```

The slot number is padded to the width of the largest one; it and the raw words can be left out.
An encoding without a text is described in its place, or ends the listing if the style says so;
an encoding that is not defined always ends it.

A `Listing` gives its lines one by one (`Listing.next?`), so that lines can be printed before a
later instruction turns out to be a failure. It goes through the slots of the program and passes
over those of extension words. After a failure it gives nothing more, whatever slots are left.
-/

namespace Ebpf

/-- What to do with an encoding that has no text. -/
inductive GapPolicy where
  /-- Describe it in place of the text. -/
  | describe
  /-- End the listing. -/
  | stop
  deriving DecidableEq, Repr

/-- What the lines of a listing hold. -/
structure ListingStyle where
  /-- Start every line with the slot number. -/
  numbers : Bool := true
  /-- Show the raw words. -/
  rawWords : Bool := true
  /-- What to do with an encoding that has no text. -/
  gaps : GapPolicy := .describe
  deriving DecidableEq, Repr

/-- A listing that has given some of its lines. -/
structure Listing where
  /-- What the lines hold. -/
  style : ListingStyle
  /-- The width of the slot numbers. -/
  width : Nat
  /-- The slots that are still to come, each with its number. -/
  pending : List (Slot × Nat)
  /-- Whether an instruction without a line has been met. -/
  failed : Bool

namespace Listing

/-- The text of an instruction in a listing: a description may stand in for a missing text. -/
def text (policy : GapPolicy) (i : Instruction) : Except RenderFault String :=
  match i.disassemble with
  | .ok t => .ok t
  | .error (.unsupported encoding) =>
    match policy with
    | .describe => .ok encoding.description
    | .stop => .error (.unsupported encoding)
  | .error e => .error e

/-- A line with a given text. -/
def format (style : ListingStyle) (width index : Nat) (i : Instruction) (text : String) :
    String :=
  (if style.numbers then Text.decimal width index ++ ": " else "") ++
    (if style.rawWords then i.raw ++ " " else "") ++ text

/-- The line of an instruction. -/
def line (style : ListingStyle) (width index : Nat) (i : Instruction) :
    Except RenderFault String :=
  (text style.gaps i).map (format style width index i)

/-- The first instruction of numbered slots, with its number, and the slots behind it. -/
def firstInstruction? : List (Slot × Nat) → Option ((Nat × Instruction) × List (Slot × Nat))
  | [] => none
  | (slot, index) :: rest =>
    match slot.insn? with
    | some i => some ((index, i), rest)
    | none => firstInstruction? rest

/-- The next line or the failure that ends the listing, and the listing after it. -/
def next? (l : Listing) : Option (Except RenderFault String × Listing) :=
  if l.failed then none
  else
    match firstInstruction? l.pending with
    | none => none
    | some ((index, i), rest) =>
      match line l.style l.width index i with
      | .ok s => some (.ok s, { l with pending := rest })
      | .error e => some (.error e, { l with pending := rest, failed := true })

theorem length_lt_of_firstInstruction? {slots rest : List (Slot × Nat)} {x : Nat × Instruction}
    (h : firstInstruction? slots = some (x, rest)) : rest.length < slots.length := by
  induction slots with
  | nil => cases h
  | cons slot slots ih =>
    rw [firstInstruction?] at h
    split at h
    · cases h
      exact Nat.lt_succ_self _
    · exact Nat.lt_succ_of_lt (ih h)

/-- The slots that are to come get fewer with every line. -/
theorem length_pending_lt {l l' : Listing} {r : Except RenderFault String}
    (h : l.next? = some (r, l')) : l'.pending.length < l.pending.length := by
  unfold next? at h
  split at h
  · cases h
  · split at h
    · cases h
    · rename_i hfirst
      split at h <;> cases h <;> exact length_lt_of_firstInstruction? hfirst

/-- All that is still to come, lines and perhaps a failure after them. -/
def toList (l : Listing) : List (Except RenderFault String) :=
  match h : l.next? with
  | none => []
  | some (r, l') =>
    have := length_pending_lt h
    r :: l'.toList
termination_by l.pending.length

theorem toList_of_next?_eq_none {l : Listing} (h : l.next? = none) : l.toList = [] := by
  rw [toList]
  split <;> simp_all

theorem toList_of_next?_eq_some {l l' : Listing} {r : Except RenderFault String}
    (h : l.next? = some (r, l')) : l.toList = r :: l'.toList := by
  rw [toList]
  split <;> simp_all

/-- Splits results at the first failure. -/
def untilFailure : List (Except RenderFault String) → List String × Option RenderFault
  | [] => ([], none)
  | .error e :: _ => ([], some e)
  | .ok s :: rest => (s :: (untilFailure rest).1, (untilFailure rest).2)

end Listing

namespace Program

/-- The listing of a program, from its first line. -/
def listing (p : Program) (style : ListingStyle) : Listing where
  style := style
  width := p.indexWidth
  pending := p.slots.toList.zipIdx
  failed := false

/-- All lines of a listing, if it does not fail. -/
def lines (p : Program) (style : ListingStyle) : Except RenderFault (List String) :=
  (p.listing style).toList.mapM id

/-- The lines before a failure, and the failure if there is one. -/
def printed (p : Program) (style : ListingStyle) : List String × Option RenderFault :=
  Listing.untilFailure (p.listing style).toList

end Program
end Ebpf
