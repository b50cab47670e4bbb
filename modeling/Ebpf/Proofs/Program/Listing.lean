import Mathlib
import Ebpf.Program.Listing

/-!
# Listings, line by line

A listing passes over the slots of extension words one call at a time and remembers a failure. What
comes of that can be said without slots and calls, of the instructions alone: without one there is
nothing, with one that has a line there is this line and what the other instructions give, and with
one that has none there is its failure and nothing else.

* `Listing.next?_cases` says once what a call can do;
* `Listing.results` is what instructions give, and `Listing.toList_eq_results` says that a listing
  gives the results of the instructions among the slots that are still to come;
* `Listing.printed` splits the results at a failure.

Disassembling a program goes through all of its instructions and stops at none. A listing is the
start of that, up to the first item that is fatal for it, with every item put on a line:

* `Item.isFatal` says which items end a listing, and `Item.HasLine` which line an item has;
* `Listing.given` is what each call of a listing gives, and `Listing.given_eq_getElem?` says that
  these are its results and nothing behind them;
* `Listing.results_append_of_not_fatal`: up to a fatal item, there is a line for every item;
* `Program.listing_is_formatted_prefix` puts this together, and compares the two policies.
-/

namespace Ebpf
namespace Listing

/-! ## Slots and instructions -/

/-- The instructions among numbered slots, each with its number. -/
def instructionsOf (slots : List (Slot × Nat)) : List (Nat × Instruction) :=
  slots.filterMap fun (slot, index) => slot.insn?.map fun i => (index, i)

theorem instructionsOf_cons_of_none {slot : Slot} (h : slot.insn? = none) (index : Nat)
    (slots : List (Slot × Nat)) :
    instructionsOf ((slot, index) :: slots) = instructionsOf slots := by
  simp [instructionsOf, h]

theorem instructionsOf_cons_of_some {slot : Slot} {i : Instruction} (h : slot.insn? = some i)
    (index : Nat) (slots : List (Slot × Nat)) :
    instructionsOf ((slot, index) :: slots) = (index, i) :: instructionsOf slots := by
  simp [instructionsOf, h]

/-- The instruction that is found first is the first of all, and the others are behind it; if none
is found, there is none. -/
theorem firstInstruction?_cases (slots : List (Slot × Nat)) :
    (firstInstruction? slots = none ∧ instructionsOf slots = []) ∨
    ∃ x rest, firstInstruction? slots = some (x, rest) ∧
      instructionsOf slots = x :: instructionsOf rest := by
  induction slots with
  | nil => exact Or.inl ⟨rfl, rfl⟩
  | cons entry slots ih =>
    obtain ⟨slot, index⟩ := entry
    cases hslot : slot.insn? with
    | none =>
      simp only [firstInstruction?, hslot, instructionsOf_cons_of_none hslot]
      exact ih
    | some i =>
      refine Or.inr ⟨(index, i), slots, ?_, instructionsOf_cons_of_some hslot index slots⟩
      simp only [firstInstruction?, hslot]

/-! ## What instructions give -/

/-- What instructions give, each with its slot: their lines up to one that has none, and then its
failure. -/
def results (style : ListingStyle) (width : Nat) :
    List (Nat × Instruction) → List (Except RenderFault String)
  | [] => []
  | x :: rest =>
    match line style width x.1 x.2 with
    | .ok s => .ok s :: results style width rest
    | .error e => [.error e]

section Results

variable {style : ListingStyle} {width : Nat} {x : Nat × Instruction}
  {rest : List (Nat × Instruction)}

theorem results_cons_of_ok {s : String} (h : line style width x.1 x.2 = .ok s) :
    results style width (x :: rest) = .ok s :: results style width rest := by
  simp only [results, h]

theorem results_cons_of_error {e : RenderFault} (h : line style width x.1 x.2 = .error e) :
    results style width (x :: rest) = [.error e] := by
  simp only [results, h]

/-- The lines of instructions before a failure, and the failure if there is one. -/
def printed (style : ListingStyle) (width : Nat) (xs : List (Nat × Instruction)) :
    List String × Option RenderFault :=
  untilFailure (results style width xs)

theorem printed_nil (style : ListingStyle) (width : Nat) :
    printed style width [] = ([], none) := rfl

theorem printed_cons_of_ok {s : String} (h : line style width x.1 x.2 = .ok s) :
    printed style width (x :: rest) =
      (s :: (printed style width rest).1, (printed style width rest).2) := by
  rw [printed, results_cons_of_ok h, untilFailure]
  rfl

theorem printed_cons_of_error {e : RenderFault} (h : line style width x.1 x.2 = .error e) :
    printed style width (x :: rest) = ([], some e) := by
  rw [printed, results_cons_of_error h, untilFailure]

end Results

/-! ## What a listing gives -/

theorem toList_of_failed {l : Listing} (h : l.failed = true) : l.toList = [] :=
  toList_of_next?_eq_none (by rw [next?, if_pos h])

/-- **What a call can do**, as long as there has been no failure: there is no instruction left; the
first that is left has a line; or it has none, and that is remembered. -/
theorem next?_cases {l : Listing} (h : l.failed = false) :
    (instructionsOf l.pending = [] ∧ l.next? = none) ∨
    ∃ x rest, instructionsOf l.pending = x :: instructionsOf rest ∧
      ((∃ s, line l.style l.width x.1 x.2 = .ok s ∧
          l.next? = some (.ok s, { l with pending := rest })) ∨
        ∃ e, line l.style l.width x.1 x.2 = .error e ∧
          l.next? = some (.error e, { l with pending := rest, failed := true })) := by
  obtain ⟨hfirst, hnone⟩ | ⟨x, rest, hfirst, hcons⟩ := firstInstruction?_cases l.pending
  · exact Or.inl ⟨hnone, by simp [next?, h, hfirst]⟩
  · refine Or.inr ⟨x, rest, hcons, ?_⟩
    cases hline : line l.style l.width x.1 x.2 with
    | ok s => exact Or.inl ⟨s, rfl, by simp [next?, h, hfirst, hline]⟩
    | error e => exact Or.inr ⟨e, rfl, by simp [next?, h, hfirst, hline]⟩

/-- **A listing gives the results of the instructions that are still to come.** -/
theorem toList_eq_results (l : Listing) (h : l.failed = false) :
    l.toList = results l.style l.width (instructionsOf l.pending) := by
  -- The slots get fewer with every call, and a call that fails is the last one.
  induction hn : l.pending.length using Nat.strongRecOn generalizing l with
  | ind n ih =>
    obtain ⟨hnone, hnext⟩ | ⟨x, rest, hfirst, ⟨s, hline, hnext⟩ | ⟨e, hline, hnext⟩⟩ :=
      next?_cases h
    · rw [toList_of_next?_eq_none hnext, hnone, results]
    · have hlt : rest.length < n := hn ▸ length_pending_lt hnext
      rw [toList_of_next?_eq_some hnext, hfirst, results_cons_of_ok hline,
        ih rest.length hlt { l with pending := rest } h rfl]
    · rw [toList_of_next?_eq_some hnext, hfirst, results_cons_of_error hline, toList_of_failed rfl]

/-! ## One call after the other -/

/-- The listing after a number of calls; one that gives nothing stays as it is. -/
def after (l : Listing) : Nat → Listing
  | 0 => l
  | n + 1 =>
    match l.next? with
    | none => l.after n
    | some (_, l') => l'.after n

/-- What a call gives, if `n` calls came before it. -/
def given (l : Listing) (n : Nat) : Option (Except RenderFault String) :=
  (l.after n).next?.map Prod.fst

/-- The calls give the results one by one and after them nothing, however often it is called. -/
theorem given_eq_getElem? (l : Listing) (n : Nat) : l.given n = l.toList[n]? := by
  induction n generalizing l with
  | zero =>
    cases hnext : l.next? with
    | none => simp [given, after, hnext, toList_of_next?_eq_none hnext]
    | some x => simp [given, after, hnext, toList_of_next?_eq_some hnext]
  | succ n ih =>
    cases hnext : l.next? with
    | none =>
      have hstay : l.given (n + 1) = l.given n := by simp only [given, after, hnext]
      rw [hstay, ih, toList_of_next?_eq_none hnext]
      rfl
    | some x =>
      obtain ⟨r, l'⟩ := x
      have hmove : l.given (n + 1) = l'.given n := by simp only [given, after, hnext]
      rw [hmove, ih, toList_of_next?_eq_some hnext, List.getElem?_cons_succ]

end Listing

/-! ## Items and their lines -/

namespace Item

/-- The encoding of the item is not defined. -/
def isUndefined (d : Item) : Bool :=
  match d.result with
  | .error (.undefined _ _) => true
  | _ => false

/-- The encoding of the item is defined and has no text. -/
def isUnsupported (d : Item) : Bool :=
  match d.result with
  | .error (.unsupported _) => true
  | _ => false

/-- The item ends a listing with this policy. -/
def isFatal (policy : GapPolicy) (d : Item) : Bool :=
  d.isUndefined || (policy == .stop && d.isUnsupported)

/-- What a listing shows of an item that it goes on after: its text, or a description in place of
it. -/
def Shows (d : Item) (text : String) : Prop :=
  d.result = .ok text ∨
    ∃ encoding, d.result = .error (.unsupported encoding) ∧ text = encoding.description

/-- The line of an item: if the style asks for it, the slot with zeros up to a width, and the raw
words; then what is shown of the item. -/
def HasLine (style : ListingStyle) (width : Nat) (d : Item) (line : String) : Prop :=
  ∃ text, d.Shows text ∧ line =
    (if style.numbers then Text.decimal width d.index ++ ": " else "") ++
      (if style.rawWords then d.insn.raw ++ " " else "") ++ text

/-- The item of an instruction at a slot. -/
def ofInstruction (x : Nat × Instruction) : Item := ⟨x.1, x.2, x.2.disassemble⟩

end Item

namespace Listing

variable {style : ListingStyle} {x : Nat × Instruction}

/-- An item that is not fatal has a line. -/
theorem exists_line_of_not_fatal (style : ListingStyle) (width : Nat)
    (h : (Item.ofInstruction x).isFatal style.gaps = false) :
    ∃ s, line style width x.1 x.2 = .ok s ∧ (Item.ofInstruction x).HasLine style width s := by
  obtain ⟨index, i⟩ := x
  simp only [Item.isFatal, Item.isUndefined, Item.isUnsupported, Item.ofInstruction] at h
  cases hdis : i.disassemble with
  | ok t =>
    refine ⟨format style width index i t, ?_, t, Or.inl hdis, rfl⟩
    simp only [line, text, hdis, Except.map]
  | error e =>
    rw [hdis] at h
    cases e with
    | undefined w encoding => simp at h
    | unsupported encoding =>
      have hgaps : style.gaps = .describe := by
        cases hg : style.gaps with
        | describe => rfl
        | stop => simp [hg] at h
      refine ⟨format style width index i encoding.description, ?_, encoding.description,
        Or.inr ⟨encoding, hdis, rfl⟩, rfl⟩
      simp only [line, text, hdis, hgaps, Except.map]

/-- A fatal item has no line, for the reason that it has no text. -/
theorem exists_line_of_fatal (style : ListingStyle) (width : Nat)
    (h : (Item.ofInstruction x).isFatal style.gaps = true) :
    ∃ e, (Item.ofInstruction x).result = .error e ∧ line style width x.1 x.2 = .error e := by
  obtain ⟨index, i⟩ := x
  simp only [Item.isFatal, Item.isUndefined, Item.isUnsupported, Item.ofInstruction] at h
  cases hdis : i.disassemble with
  | ok t => simp [hdis] at h
  | error e =>
    rw [hdis] at h
    cases e with
    | undefined w encoding => exact ⟨_, hdis, by simp only [line, text, hdis, Except.map]⟩
    | unsupported encoding =>
      have hgaps : style.gaps = .stop := by simpa using h
      exact ⟨_, hdis, by simp only [line, text, hdis, hgaps, Except.map]⟩

/-- **Up to a fatal item, a listing has a line for every item**, and then goes on with the rest. -/
theorem results_append_of_not_fatal (width : Nat) {before : List (Nat × Instruction)}
    (h : ∀ d ∈ before.map Item.ofInstruction, d.isFatal style.gaps = false)
    (rest : List (Nat × Instruction)) :
    ∃ lines, List.Forall₂ (Item.HasLine style width) (before.map Item.ofInstruction) lines ∧
      results style width (before ++ rest) = lines.map .ok ++ results style width rest := by
  induction before with
  | nil => exact ⟨[], .nil, rfl⟩
  | cons x before ih =>
    have hx : (Item.ofInstruction x).isFatal style.gaps = false := h _ List.mem_cons_self
    obtain ⟨s, hs, hline⟩ := exists_line_of_not_fatal style width hx
    obtain ⟨lines, hlines, hrest⟩ := ih fun d hd => h d (List.mem_cons_of_mem _ hd)
    refine ⟨s :: lines, .cons hline hlines, ?_⟩
    rw [List.cons_append, results_cons_of_ok hs, hrest]
    rfl

/-- Lines that are all there are collected. -/
theorem mapM_ok (lines : List String) :
    (lines.map Except.ok).mapM id = (.ok lines : Except RenderFault (List String)) := by
  induction lines with
  | nil => rfl
  | cons s lines ih =>
    rw [List.map_cons, List.mapM_cons, ih]
    rfl

/-- A failure behind lines is all that is left of them. -/
theorem mapM_ok_append_error (lines : List String) (e : RenderFault) :
    (lines.map Except.ok ++ [Except.error e]).mapM id = .error e := by
  rw [List.mapM_append, mapM_ok]
  rfl

/-! ## The two policies -/

/-- What is shown when a listing may stop at it is shown when it may not. -/
theorem line_describe_of_line_stop {index : Nat} {i : Instruction} {width : Nat} {s : String}
    (h : line { style with gaps := .stop } width index i = .ok s) :
    line { style with gaps := .describe } width index i = .ok s := by
  unfold line text at h ⊢
  cases hdis : i.disassemble with
  | ok t =>
    rw [hdis] at h
    exact h
  | error e =>
    rw [hdis] at h
    cases e <;> cases h

/-- The lines of a listing that stops at gaps are the first ones of the listing that describes
them. -/
theorem printed_stop_isPrefix (style : ListingStyle) (width : Nat)
    (xs : List (Nat × Instruction)) :
    (printed { style with gaps := .stop } width xs).1 <+:
      (printed { style with gaps := .describe } width xs).1 := by
  induction xs with
  | nil => simp [printed_nil]
  | cons x rest ih =>
    cases hstop : line { style with gaps := .stop } width x.1 x.2 with
    | error e =>
      rw [printed_cons_of_error hstop]
      exact List.nil_prefix
    | ok s =>
      rw [printed_cons_of_ok hstop, printed_cons_of_ok (line_describe_of_line_stop hstop)]
      exact List.cons_prefix_cons.2 ⟨rfl, ih⟩

/-- The two listings give the same results exactly if there is no gap before the first encoding that
is not defined. -/
theorem results_stop_eq_results_describe_iff (style : ListingStyle) (width : Nat)
    (xs : List (Nat × Instruction)) :
    results { style with gaps := .stop } width xs =
        results { style with gaps := .describe } width xs ↔
      ∀ d ∈ (xs.map Item.ofInstruction).takeWhile (fun d => !d.isUndefined),
        d.isUnsupported = false := by
  induction xs with
  | nil => simp [results]
  | cons x rest ih =>
    rw [List.map_cons, List.takeWhile_cons]
    by_cases hundefined : (Item.ofInstruction x).isUndefined = true
    · -- both listings end here, for the same reason
      have hfatal : ∀ policy, (Item.ofInstruction x).isFatal policy = true := by
        simp [Item.isFatal, hundefined]
      obtain ⟨e, he, hstop⟩ :=
        exists_line_of_fatal { style with gaps := .stop } width (hfatal .stop)
      obtain ⟨e', he', hdescribe⟩ :=
        exists_line_of_fatal { style with gaps := .describe } width (hfatal .describe)
      obtain rfl : e = e' := Except.error.inj (he.symm.trans he')
      rw [results_cons_of_error hstop, results_cons_of_error hdescribe]
      simp [hundefined]
    · rw [Bool.not_eq_true] at hundefined
      by_cases hgap : (Item.ofInstruction x).isUnsupported = true
      · -- the one listing ends here and the other has a line
        have hfatal : (Item.ofInstruction x).isFatal .stop = true := by
          simp [Item.isFatal, hgap]
        have hshown : (Item.ofInstruction x).isFatal .describe = false := by
          simp [Item.isFatal, hundefined]
        obtain ⟨e, -, hstop⟩ := exists_line_of_fatal { style with gaps := .stop } width hfatal
        obtain ⟨s, hdescribe, -⟩ :=
          exists_line_of_not_fatal { style with gaps := .describe } width hshown
        rw [results_cons_of_error hstop, results_cons_of_ok hdescribe]
        simp [hundefined, hgap]
      · rw [Bool.not_eq_true] at hgap
        have hshown : (Item.ofInstruction x).isFatal .stop = false := by
          simp [Item.isFatal, hundefined, hgap]
        obtain ⟨s, hstop, -⟩ := exists_line_of_not_fatal { style with gaps := .stop } width hshown
        rw [results_cons_of_ok hstop, results_cons_of_ok (line_describe_of_line_stop hstop)]
        simp [ih, hundefined, hgap]

end Listing

namespace Program

theorem disassemble_eq_map (p : Program) :
    p.disassemble = p.instructions.map Item.ofInstruction := rfl

/-- The listing of a program gives the results of its instructions. -/
theorem toList_listing (p : Program) (style : ListingStyle) :
    (p.listing style).toList = Listing.results style p.indexWidth p.instructions :=
  Listing.toList_eq_results (p.listing style) rfl

theorem printed_eq (p : Program) (style : ListingStyle) :
    p.printed style = Listing.printed style p.indexWidth p.instructions := by
  rw [printed, toList_listing, Listing.printed]

/-- **A listing is the start of the disassembly, put on lines.** Go through the items of a program.

If none of them is fatal, the listing gives one line for each and nothing after them, and all lines
together are there.

Otherwise, up to the first fatal item, it gives one line for each, then the fault of that item, and
nothing after it, however often it is called; and that fault is all there is of the lines together.

A line is the slot in decimal, with zeros up to the digits of the largest slot, the raw words, and
the text or the description of the item. With the policy to stop at gaps, the lines are the first
ones of those with the policy to describe them, and both listings give the same exactly if no gap
comes before the first encoding that is not defined. -/
theorem listing_is_formatted_prefix (p : Program) (style : ListingStyle) :
    ((∀ d ∈ p.disassemble, d.isFatal style.gaps = false) →
      ∃ lines, List.Forall₂ (Item.HasLine style (Text.decimalWidth (p.size - 1)))
          p.disassemble lines ∧
        (∀ n, (p.listing style).given n = (lines.map Except.ok)[n]?) ∧
        p.lines style = .ok lines) ∧
    (∀ before d after, p.disassemble = before ++ d :: after →
      (∀ x ∈ before, x.isFatal style.gaps = false) → d.isFatal style.gaps = true →
      ∃ lines e, d.result = .error e ∧
        List.Forall₂ (Item.HasLine style (Text.decimalWidth (p.size - 1))) before lines ∧
        (∀ n, (p.listing style).given n = (lines.map Except.ok ++ [Except.error e])[n]?) ∧
        p.lines style = .error e) ∧
    (p.printed { style with gaps := .stop }).1 <+: (p.printed { style with gaps := .describe }).1 ∧
    ((∀ n, (p.listing { style with gaps := .stop }).given n =
        (p.listing { style with gaps := .describe }).given n) ↔
      ∀ d ∈ p.disassemble.takeWhile (fun d => !d.isUndefined), d.isUnsupported = false) := by
  refine ⟨?_, ?_, ?_, ?_⟩
  · intro hok
    rw [disassemble_eq_map] at hok ⊢
    obtain ⟨lines, hlines, hlist⟩ := Listing.results_append_of_not_fatal p.indexWidth hok []
    rw [List.append_nil, ← toList_listing, Listing.results, List.append_nil] at hlist
    refine ⟨lines, hlines, ?_, ?_⟩
    · intro n
      rw [Listing.given_eq_getElem?, hlist]
    · rw [Program.lines, hlist, Listing.mapM_ok]
  · intro before d after hsplit hok hd
    rw [disassemble_eq_map] at hsplit
    obtain ⟨first, rest, hinsns, rfl, hrest⟩ := List.map_eq_append_iff.1 hsplit
    obtain ⟨x, later, rfl, rfl, rfl⟩ := List.map_eq_cons_iff.1 hrest
    obtain ⟨lines, hlines, hlist⟩ :=
      Listing.results_append_of_not_fatal p.indexWidth hok (x :: later)
    obtain ⟨e, he, hline⟩ := Listing.exists_line_of_fatal style p.indexWidth hd
    rw [← hinsns, ← toList_listing, Listing.results_cons_of_error hline] at hlist
    refine ⟨lines, e, he, hlines, ?_, ?_⟩
    · intro n
      rw [Listing.given_eq_getElem?, hlist]
    · rw [Program.lines, hlist, Listing.mapM_ok_append_error]
  · rw [printed_eq, printed_eq]
    exact Listing.printed_stop_isPrefix style p.indexWidth p.instructions
  · rw [disassemble_eq_map,
      ← Listing.results_stop_eq_results_describe_iff style p.indexWidth p.instructions,
      ← toList_listing, ← toList_listing]
    simp only [Listing.given_eq_getElem?]
    exact List.ext_getElem?_iff.symm

/-- A move, a byte swap, an undefined operation and an exit: the byte swap is described, the
undefined operation ends the listing, and a policy that stops at the byte swap gives something
else. -/
theorem listing_of_gap_and_undefined :
    ∃ (p : Program) (lines : List String), p.disassemble.length = 4 ∧ lines.length = 2 ∧
      (p.printed {}).1 = ["0: b701000000000000 r1 = 0", "1: dc01000010000000 byte swap"] ∧
      (∀ n, (p.listing {}).given n =
        (lines.map Except.ok ++ [.error (.undefined 0xe700000000000000 .arithmeticOp)])[n]?) ∧
      p.lines {} = .error (.undefined 0xe700000000000000 .arithmeticOp) ∧
      ¬ ∀ n, (p.listing { gaps := .stop }).given n = (p.listing {}).given n := by
  let p : Program := .ofInstructions [.narrow 0xb701000000000000 (by decide),
    .narrow 0xdc01000010000000 (by decide), .narrow 0xe700000000000000 (by decide),
    .narrow 0x9500000000000000 (by decide)]
  obtain ⟨-, hfatal, -, hsame⟩ := p.listing_is_formatted_prefix {}
  obtain ⟨lines, e, he, hlines, hgiven, hwhole⟩ :=
    hfatal (p.disassemble.take 2) ⟨2, .narrow 0xe700000000000000 (by decide), _⟩
      (p.disassemble.drop 3) rfl (by decide +kernel) (by decide +kernel)
  obtain rfl : .undefined 0xe700000000000000 .arithmeticOp = e := Except.error.inj he
  refine ⟨p, lines, rfl, hlines.length_eq.symm, by decide +kernel, hgiven, hwhole, ?_⟩
  intro h
  have hgap := hsame.1 h ⟨1, .narrow 0xdc01000010000000 (by decide), _⟩
    (List.mem_cons_of_mem _ List.mem_cons_self)
  cases hgap

end Program
end Ebpf
