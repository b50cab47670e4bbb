import Mathlib
import Ebpf.CommandLine.Command
import Ebpf.Proofs.Machine.Invariant
import Ebpf.Proofs.Program.Listing

/-!
# A run prints the listing

A run goes through the program by its program counter, a listing by its slots, and the two are
written down apart, down to the width of slot numbers and to what stands in for a missing text. They
agree on every program:

* `Machine.after` is the machine after a number of steps, and `CommandLine.traced` are the lines of a
  listing, each with an arrow and followed by the registers after as many steps.
* `CommandLine.turn_cases` says once what a turn of a run can do.
* `CommandLine.executeFrom_of_steps_ok`: as long as all steps succeed, a run prints the listing, and
  it ends where the listing ends.
* `CommandLine.executeFrom_of_step_error`: otherwise it prints the listing up to the instruction
  whose step fails.
* `CommandLine.execute_follows_listing` says both of a whole program.
-/

namespace Ebpf

/-- The machine after a number of steps, whether they succeed or not. -/
def Machine.after (m : Machine) (n : Nat) : Machine := (fun m => m.step.2)^[n] m

@[simp] theorem Machine.after_zero (m : Machine) : m.after 0 = m := rfl

namespace CommandLine

/-- The lines of a listing as a run shows them: each with an arrow in front, and behind it the
registers after the steps so far. -/
def traced (m : Machine) (lines : List String) : List String :=
  lines.zipIdx.flatMap fun (line, j) => ["=> " ++ line, (m.after (j + 1)).registers.dump]

theorem traced_cons (m : Machine) (line : String) (lines : List String) :
    traced m (line :: lines) =
      ["=> " ++ line, m.step.2.registers.dump] ++ traced m.step.2 lines := by
  rw [traced, List.zipIdx_cons', List.flatMap_cons, List.flatMap_map]
  rfl

/-- The style of the listing that a run shows. -/
def traceStyle : ListingStyle := { numbers := true, rawWords := false, gaps := .describe }

/-- A run and a listing that describes gaps show the same of an instruction. -/
theorem shown_eq_text (i : Instruction) : shown i = Listing.text .describe i := by
  unfold shown Listing.text
  cases i.disassemble with
  | ok text => rfl
  | error e => cases e <;> rfl

/-- What cannot be shown has no text, for the same reason. -/
theorem disassemble_of_shown_eq_error {i : Instruction} {e : RenderFault}
    (h : shown i = .error e) : i.disassemble = .error e := by
  unfold shown at h
  cases hdis : i.disassemble with
  | ok text =>
    rw [hdis] at h
    cases h
  | error e' =>
    rw [hdis] at h
    cases e' with
    | unsupported encoding => cases h
    | undefined w encoding => exact h

/-- A line of that listing is the slot and what a run shows. -/
theorem line_traceStyle (width index : Nat) (i : Instruction) :
    Listing.line traceStyle width index i =
      (shown i).map fun text => Text.decimal width index ++ ": " ++ text := by
  rw [shown_eq_text]
  cases h : Listing.text .describe i with
  | error e => simp [Listing.line, traceStyle, h, Except.map]
  | ok t => simp [Listing.line, Listing.format, traceStyle, h, Except.map]

/-- The lines of that listing from an instruction on, and the fault that ends it; `slot` is where the
first of the instructions starts. -/
def listed (width slot : Nat) (is : List Instruction) : List String × Option RenderFault :=
  Listing.printed traceStyle width (numbered slot is)

@[simp] theorem listed_nil (width slot : Nat) : listed width slot [] = ([], none) :=
  Listing.printed_nil traceStyle width

theorem listed_cons_of_ok {width slot : Nat} {i : Instruction} {text : String}
    (h : shown i = .ok text) (rest : List Instruction) :
    listed width slot (i :: rest) =
      ((Text.decimal width slot ++ ": " ++ text) :: (listed width (slot + i.slotCount) rest).1,
        (listed width (slot + i.slotCount) rest).2) :=
  Listing.printed_cons_of_ok (by rw [line_traceStyle, h, Except.map])

theorem listed_cons_of_error {width slot : Nat} {i : Instruction} {e : RenderFault}
    (h : shown i = .error e) (rest : List Instruction) :
    listed width slot (i :: rest) = ([], some e) :=
  Listing.printed_cons_of_error (by rw [line_traceStyle, h, Except.map])

/-! ## One turn -/

section Turns

variable {m : Machine} {done rest todo : List Instruction} {i : Instruction}

/-- At the end of the program, the run is over. -/
theorem turn_nil (h : m.Between done []) (width : Nat) : turn width m = ([], .error none) := by
  rw [turn, h.next_nil]

/-- **What a turn does at an instruction.** If the listing ends there, the run fails with the fault
of the listing. Otherwise the line of the listing is printed, and then the instruction is refused or
executed. -/
theorem turn_cases (h : m.Between done (i :: rest)) (width : Nat) :
    (∃ e, listed width m.pc (i :: rest) = ([], some e) ∧ i.disassemble = .error e ∧
      turn width m = ([], .error (some (.decode m.pc e)))) ∨
    (∃ line, listed width m.pc (i :: rest) = (line :: (listed width (m.pc + i.slotCount) rest).1,
        (listed width (m.pc + i.slotCount) rest).2) ∧
      ((∃ r, m.step.1 = .error (.noSuchRegister r) ∧
          turn width m = (["=> " ++ line], .error (some (.execute m.pc (.noSuchRegister r))))) ∨
        (m.step.1 = .ok () ∧ m.step.2.Between (done ++ [i]) rest ∧
          m.step.2.pc = m.pc + i.slotCount ∧
          turn width m = (["=> " ++ line, m.step.2.registers.dump], .ok m.step.2)))) := by
  cases ht : shown i with
  | error e =>
    exact Or.inl ⟨e, listed_cons_of_error ht rest, disassemble_of_shown_eq_error ht,
      by simp only [turn, h.next_cons, ht]⟩
  | ok text =>
    have harrow : "=> " ++ (Text.decimal width m.pc ++ ": " ++ text) =
        "=> " ++ Text.decimal width m.pc ++ ": " ++ text := by
      simp only [String.append_assoc]
    refine Or.inr ⟨_, listed_cons_of_ok ht rest, ?_⟩
    rw [harrow]
    by_cases hi : i.IsFaulty
    · have hstep := h.step_error (i.execute_of_isFaulty hi m.registers)
      refine Or.inl ⟨i.faultyField, by rw [hstep], ?_⟩
      simp only [turn, h.next_cons, ht, hstep]
    · obtain ⟨regs, hregs⟩ := i.exists_execute_of_not_isFaulty hi m.registers
      have hstep := h.step_ok hregs
      refine Or.inr ⟨by rw [hstep], by rw [hstep]; exact h.advance regs, by rw [hstep]; rfl, ?_⟩
      simp only [turn, h.next_cons, ht, hstep]

/-! ## Whole runs -/

/-- As long as every step succeeds, a run prints the lines of the listing with the registers after
each, and ends where the listing ends: at the end of the program, or with the same fault. -/
theorem executeFrom_of_steps_ok (h : m.Between done todo) (width : Nat)
    (hok : ∀ j < (listed width m.pc todo).1.length, (m.after j).step.1 = .ok ()) :
    ((listed width m.pc todo).2 = none ∧
      executeFrom width m = (traced m (listed width m.pc todo).1, none)) ∨
    (∃ e slot i, (listed width m.pc todo).2 = some e ∧
      (numbered m.pc todo)[(listed width m.pc todo).1.length]? = some (slot, i) ∧
      i.disassemble = .error e ∧
      executeFrom width m = (traced m (listed width m.pc todo).1, some (.decode slot e))) := by
  -- One turn takes one instruction, one line of the listing and one step.
  induction todo generalizing m done with
  | nil =>
    rw [listed_nil]
    exact Or.inl ⟨rfl, executeFrom_of_turn_error (turn_nil h width)⟩
  | cons i rest ih =>
    obtain ⟨e, hlist, hdis, hturn⟩ | ⟨line, hlist, ⟨r, hstep, -⟩ | ⟨-, hbetween, hpc, hturn⟩⟩ :=
      turn_cases h width
    · rw [hlist]
      exact Or.inr ⟨e, m.pc, i, rfl, rfl, hdis, executeFrom_of_turn_error hturn⟩
    · -- the first step would have had to succeed
      have hfirst := hok 0 (by rw [hlist]; exact Nat.succ_pos _)
      rw [Machine.after_zero, hstep] at hfirst
      cases hfirst
    · rw [hlist] at hok ⊢
      have hrest := ih hbetween (by
        rw [hpc]
        exact fun j hj => hok (j + 1) (Nat.succ_lt_succ hj))
      rw [hpc] at hrest
      rw [executeFrom_of_turn_ok hturn, traced_cons]
      obtain ⟨hnone, hrun⟩ | ⟨e, slot, i', hsome, hslot, hdis, hrun⟩ := hrest
      · exact Or.inl ⟨hnone, by rw [hrun]⟩
      · exact Or.inr ⟨e, slot, i', hsome, hslot, hdis, by rw [hrun]⟩

/-- If a step fails, a run prints the lines of the listing up to that of its instruction, and fails
there. -/
theorem executeFrom_of_step_error (h : m.Between done todo) (width : Nat) {a : Nat}
    (ha : a < (listed width m.pc todo).1.length) (hok : ∀ j < a, (m.after j).step.1 = .ok ())
    (hfail : (m.after a).step.1 ≠ .ok ()) :
    ∃ slot i line r, (numbered m.pc todo)[a]? = some (slot, i) ∧
      (listed width m.pc todo).1[a]? = some line ∧
      (m.after a).step.1 = .error (.noSuchRegister r) ∧
      executeFrom width m = (traced m ((listed width m.pc todo).1.take a) ++ ["=> " ++ line],
        some (.execute slot (.noSuchRegister r))) := by
  induction todo generalizing m done a with
  | nil =>
    rw [listed_nil] at ha
    cases ha
  | cons i rest ih =>
    obtain ⟨e, hlist, -, -⟩ | ⟨line, hlist, ⟨r, hstep, hturn⟩ | ⟨hstep, hbetween, hpc, hturn⟩⟩ :=
      turn_cases h width
    · rw [hlist] at ha
      cases ha
    · rw [hlist]
      cases a with
      | zero => exact ⟨m.pc, i, line, r, rfl, rfl, hstep, executeFrom_of_turn_error hturn⟩
      | succ a =>
        have hfirst := hok 0 (Nat.succ_pos a)
        rw [Machine.after_zero, hstep] at hfirst
        cases hfirst
    · rw [hlist] at ha ⊢
      cases a with
      | zero => exact absurd hstep hfail
      | succ a =>
        have hrest := ih hbetween (by rw [hpc]; exact Nat.lt_of_succ_lt_succ ha)
          (fun j hj => hok (j + 1) (Nat.succ_lt_succ hj)) hfail
        rw [hpc] at hrest
        obtain ⟨slot, i', line', r, hslot, hline, hr, hrun⟩ := hrest
        refine ⟨slot, i', line', r, hslot, hline, hr, ?_⟩
        rw [executeFrom_of_turn_ok hturn, hrun, List.take_succ_cons, traced_cons, List.append_assoc]

end Turns

/-- **A run prints the listing of its program.** Take the listing with slot numbers, without raw
words and with descriptions for missing texts, and run the program from zeroed registers.

If every instruction that has a line can be executed, the run prints exactly these lines, each
followed by the registers after as many steps. It succeeds if the listing does; otherwise it fails
with the fault of the listing, at the slot of the instruction that the listing has no line for.

If one of them cannot, the run prints the lines before the first such instruction, each with the
registers, then the line of that instruction, and fails at its slot because of a missing register. -/
theorem execute_follows_listing {p : Program} (loaded : p.Loaded) {lines : List String}
    {failure : Option RenderFault}
    (hlist : p.printed { numbers := true, rawWords := false, gaps := .describe } =
      (lines, failure)) :
    ((∀ j < lines.length, ((Machine.ofProgram p).after j).step.1 = .ok ()) →
      (execute p).1 = traced (Machine.ofProgram p) lines ∧
      (failure = none → (execute p).2 = none) ∧
      (∀ e, failure = some e → ∃ slot i, p.instructions[lines.length]? = some (slot, i) ∧
        i.disassemble = .error e ∧ (execute p).2 = some (.decode slot e) ∧
        (Failure.decode slot e).context = "Failed to decode slot " ++ Text.natural slot ∧
        (Failure.decode slot e).causes = [e.message])) ∧
    (∀ a < lines.length, (∀ j < a, ((Machine.ofProgram p).after j).step.1 = .ok ()) →
      ((Machine.ofProgram p).after a).step.1 ≠ .ok () →
      ∃ slot i line r, p.instructions[a]? = some (slot, i) ∧ lines[a]? = some line ∧
        ((Machine.ofProgram p).after a).step.1 = .error (.noSuchRegister r) ∧
        (execute p).1 = traced (Machine.ofProgram p) (lines.take a) ++ ["=> " ++ line] ∧
        (execute p).2 = some (.execute slot (.noSuchRegister r)) ∧
        (Failure.execute slot (.noSuchRegister r)).context =
          "Failed to execute slot " ++ Text.natural slot ∧
        (Failure.execute slot (.noSuchRegister r)).causes =
          ["invalid register r" ++ Text.natural r]) := by
  obtain ⟨is, rfl⟩ := loaded.exists_instructions
  have hstart : (Machine.ofProgram (.ofInstructions is)).Between [] is :=
    Machine.between_attach Machine.new is
  have hlisted : listed (Program.ofInstructions is).indexWidth 0 is = (lines, failure) := by
    rw [listed, ← Program.instructions_ofInstructions, traceStyle, ← Program.printed_eq]
    exact hlist
  have hpc : (Machine.ofProgram (.ofInstructions is)).pc = 0 := rfl
  rw [Program.instructions_ofInstructions]
  constructor
  · intro hok
    have hrun := executeFrom_of_steps_ok hstart (Program.ofInstructions is).indexWidth
    rw [hpc, hlisted] at hrun
    obtain ⟨hnone, hexec⟩ | ⟨e, slot, i, hsome, hslot, hdis, hexec⟩ := hrun hok
    · obtain rfl : failure = none := hnone
      refine ⟨congrArg Prod.fst hexec, fun _ => congrArg Prod.snd hexec, ?_⟩
      intro e he
      cases he
    · obtain rfl : failure = some e := hsome
      refine ⟨congrArg Prod.fst hexec, ?_, ?_⟩
      · intro hnone
        cases hnone
      · intro e' he
        cases he
        exact ⟨slot, i, hslot, hdis, congrArg Prod.snd hexec, rfl, rfl⟩
  · intro a ha hok hfail
    have hrun := executeFrom_of_step_error hstart (Program.ofInstructions is).indexWidth (a := a)
    rw [hpc, hlisted] at hrun
    obtain ⟨slot, i, line, r, hslot, hline, hr, hexec⟩ := hrun ha hok hfail
    exact ⟨slot, i, line, r, hslot, hline, hr, congrArg Prod.fst hexec, congrArg Prod.snd hexec,
      rfl, rfl⟩

/-- A wide load and a move are shown and executed; a move to a register that does not exist is shown
and refused; the undefined encoding behind it is not reached. -/
theorem execute_up_to_missing_register :
    ∃ p : Program, p.Loaded ∧ (p.printed traceStyle).1.length = 3 ∧
      (execute p).1 =
        ["=> 0: r1 = 0 ll",
          "Regs: r0=0 r1=0 r2=0 r3=0 r4=0 r5=0 r6=0 r7=0 r8=0 r9=0 r10=0",
          "=> 2: r0 = 7",
          "Regs: r0=7 r1=0 r2=0 r3=0 r4=0 r5=0 r6=0 r7=0 r8=0 r9=0 r10=0",
          "=> 3: r11 = 1"] ∧
      (execute p).2 = some (.execute 3 (.noSuchRegister 11)) := by
  let p : Program := .ofInstructions [.wide 0x1801000000000000 0 rfl,
    .narrow 0xb700000007000000 (by decide), .narrow 0xb70b000001000000 (by decide),
    .narrow 0xe700000000000000 (by decide)]
  have hlist : p.printed { numbers := true, rawWords := false, gaps := .describe } =
      (["0: r1 = 0 ll", "2: r0 = 7", "3: r11 = 1"],
        some (.undefined 0xe700000000000000 .arithmeticOp)) := by
    decide +kernel
  have hstep : ((Machine.ofProgram p).after 2).step.1 = .error (.noSuchRegister 11) := by
    decide +kernel
  obtain ⟨slot, i, line, r, hslot, hline, hr, hout, hfail, -⟩ :=
    (execute_follows_listing (.ofInstructions _) hlist).2 2 (by decide) (by decide +kernel)
      (by rw [hstep]; decide)
  obtain rfl : "3: r11 = 1" = line := Option.some.inj hline
  obtain ⟨rfl, -⟩ : 3 = slot ∧ _ = i := Prod.mk.inj (Option.some.inj hslot)
  obtain rfl : 11 = r := StepFault.noSuchRegister.inj (Except.error.inj (hstep.symm.trans hr))
  refine ⟨p, .ofInstructions _, by rw [traceStyle, hlist]; rfl, ?_, hfail⟩
  rw [hout]
  decide +kernel

end CommandLine
end Ebpf
