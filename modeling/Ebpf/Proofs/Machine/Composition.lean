import Mathlib
import Ebpf.Proofs.Machine.LowHalves

/-!
# Programs one after the other

Words that make a program can be put behind others that make one: the program of all of them has
the slots of both. Running it is running the first program and then, on the registers that are left,
the second.

* `outcome` is what a run over instructions comes to, said of instructions and registers alone.
  `outcome_append` is its law for instructions one after the other.
* `Machine.Between.run_eq_outcome`: a run comes to the outcome of the instructions that are left,
  wherever in the program they stand.
* `Machine.runThen` runs a machine, attaches a second program and runs again;
  `Machine.run_append` compares it with one run over both programs.
* `Program.run_ofWords_append` is all of this for programs that have been loaded from words.
-/

namespace Ebpf

/-! ## The outcome of instructions -/

/-- What a run over instructions comes to: their number, or the fault of the first one that cannot
be executed; and the registers that it leaves. -/
def outcome : List Instruction → RegisterFile → Except StepFault Nat × RegisterFile
  | [], regs => (.ok 0, regs)
  | i :: is, regs =>
    match i.execute regs with
    | .error e => (.error e, regs)
    | .ok next => ((outcome is next).1.map (· + 1), (outcome is next).2)

theorem outcome_cons_of_ok {i : Instruction} {regs next : RegisterFile}
    (h : i.execute regs = .ok next) (is : List Instruction) :
    outcome (i :: is) regs = ((outcome is next).1.map (· + 1), (outcome is next).2) := by
  rw [outcome, h]

theorem outcome_cons_of_error {i : Instruction} {regs : RegisterFile} {e : StepFault}
    (h : i.execute regs = .error e) (is : List Instruction) :
    outcome (i :: is) regs = (.error e, regs) := by
  rw [outcome, h]

/-- Instructions behind others start on the registers that those leave, if they are reached. -/
theorem outcome_append (is js : List Instruction) (regs : RegisterFile) :
    outcome (is ++ js) regs =
      match outcome is regs with
      | (.ok n, mid) => ((outcome js mid).1.map (n + ·), (outcome js mid).2)
      | (.error e, mid) => (.error e, mid) := by
  induction is generalizing regs with
  | nil => cases h : (outcome js regs).1 <;> simp [outcome, Except.map, Prod.ext_iff, h]
  | cons i is ih =>
    cases hi : i.execute regs with
    | error e => rw [List.cons_append, outcome_cons_of_error hi, outcome_cons_of_error hi]
    | ok next =>
      rw [List.cons_append, outcome_cons_of_ok hi, outcome_cons_of_ok hi, ih]
      obtain ⟨answer, mid⟩ := outcome is next
      cases answer with
      | error e => rfl
      | ok n =>
        simp only [Except.map]
        cases (outcome js mid).1 with
        | error e => rfl
        | ok k => simp only [Nat.add_right_comm]

/-- The one fault of instructions is that they name a register that does not exist. -/
theorem exists_of_outcome_eq_error {is : List Instruction} {regs : RegisterFile} {e : StepFault}
    (h : (outcome is regs).1 = .error e) : ∃ r, e = .noSuchRegister r := by
  induction is generalizing regs with
  | nil => cases h
  | cons i is ih =>
    by_cases hi : i.IsFaulty
    · rw [outcome_cons_of_error (i.execute_of_isFaulty hi regs)] at h
      exact ⟨_, (Except.error.inj h).symm⟩
    · obtain ⟨next, hnext⟩ := i.exists_execute_of_not_isFaulty hi regs
      rw [outcome_cons_of_ok hnext] at h
      cases hrest : (outcome is next).1 with
      | ok n =>
        rw [hrest] at h
        cases h
      | error e' =>
        rw [hrest] at h
        cases h
        exact ih hrest

namespace Machine

/-! ## A run comes to the outcome of what is left -/

theorem steps_le_step (m : Machine) : m.steps ≤ m.step.2.steps := by
  unfold step
  split
  · exact Nat.le_refl _
  · split
    · exact Nat.le_refl _
    · exact Nat.le_succ _

/-- Steps are never taken back. -/
theorem steps_le_exhaust (m : Machine) : m.steps ≤ m.exhaust.2.steps := by
  obtain ⟨last, hle, hlast⟩ := exists_last_step (P := fun x => m.steps ≤ x.steps)
    (fun x hx => hx.trans x.steps_le_step) (Nat.le_refl m.steps)
  have hstep := last.steps_le_step
  rw [hlast] at hstep
  exact hle.trans hstep

/-- A run that starts with an instruction counts it and goes on behind it. -/
theorem run_of_execute {m : Machine} {i : Instruction} {regs : RegisterFile}
    (hnext : m.next = .ok i) (hregs : i.execute m.registers = .ok regs) :
    m.run = ((m.advance i regs).run.1.map (· + 1), (m.advance i regs).run.2) := by
  have hle := (m.advance i regs).steps_le_exhaust
  rw [run, run, exhaust_of_step_ok (step_of_execute hnext hregs)]
  cases hlast : (m.advance i regs).exhaust with
  | mk e last =>
    cases e with
    | noSuchRegister r => rfl
    | insideInstruction => rfl
    | endOfProgram =>
      have hcount : last.steps - m.steps = last.steps - (m.steps + 1) + 1 := by
        rw [hlast] at hle
        simp only [advance] at hle
        omega
      simp only [Except.map, advance, hcount]

/-- **A run comes to the outcome of the instructions that are left**, wherever in the program they
stand and whatever has been executed before. -/
theorem Between.run_eq_outcome {m : Machine} {done todo : List Instruction}
    (h : m.Between done todo) : (m.run.1, m.run.2.registers) = outcome todo m.registers := by
  induction todo generalizing m done with
  | nil =>
    rw [h.run_nil]
    rfl
  | cons i todo ih =>
    by_cases hi : i.IsFaulty
    · rw [h.run_faulty hi, outcome_cons_of_error (i.execute_of_isFaulty hi _)]
    · obtain ⟨regs, hregs⟩ := i.exists_execute_of_not_isFaulty hi m.registers
      have hrest : ((m.advance i regs).run.1, (m.advance i regs).run.2.registers) =
          outcome todo regs := ih (h.advance regs)
      rw [run_of_execute h.next_cons hregs, outcome_cons_of_ok hregs, ← hrest]

/-! ## Running one program and then another -/

/-- Runs a machine and, if that succeeds, attaches a program and runs again. The instructions of
both runs are counted. -/
def runThen (m : Machine) (q : Program) : Except StepFault Nat × Machine :=
  match m.run with
  | (.error e, m') => (.error e, m')
  | (.ok n, m') =>
    match (m'.attach q).run with
    | (.error e, m'') => (.error e, m'')
    | (.ok k, m'') => (.ok (n + k), m'')

/-- A run from the start comes to the outcome of all instructions. -/
theorem run_start_eq_outcome (is : List Instruction) (regs : RegisterFile) :
    ((start (.ofInstructions is) regs).run.1,
      (start (.ofInstructions is) regs).run.2.registers) = outcome is regs :=
  (between_attach { new with registers := regs } is).run_eq_outcome

/-- **One run over instructions is one run after the other over their parts.** -/
theorem run_append (is js : List Instruction) (regs : RegisterFile) :
    (start (.ofInstructions (is ++ js)) regs).run.1 =
        ((start (.ofInstructions is) regs).runThen (.ofInstructions js)).1 ∧
      (start (.ofInstructions (is ++ js)) regs).run.2.registers =
        ((start (.ofInstructions is) regs).runThen (.ofInstructions js)).2.registers := by
  have hfirst := run_start_eq_outcome is regs
  rw [← Prod.mk.injEq, run_start_eq_outcome, outcome_append, ← hfirst, runThen]
  cases (start (.ofInstructions is) regs).run with
  | mk answer m =>
    cases answer with
    | error e => rfl
    | ok n =>
      -- the second program starts on the registers that the first run has left
      have hsecond : ((m.attach (.ofInstructions js)).run.1,
          (m.attach (.ofInstructions js)).run.2.registers) = outcome js m.registers :=
        (between_attach m js).run_eq_outcome
      simp only [← hsecond]
      cases (m.attach (.ofInstructions js)).run with
      | mk answer m' => cases answer <;> rfl

end Machine

namespace Program

/-- **Loading and running are compositional.** Put words behind words that make a program.

If they make a program as well, so do all of them together, and its slots are those of the two
programs one after the other. From any registers, running it gives the same result and leaves the
same registers as running the first program and then the second on what the first has left: both
numbers of instructions together, or the fault of the run that fails, which is that an instruction
names a register that does not exist.

If they make no program, neither do all of them together: the fault is the same, as many slots later
as there are words before them. -/
theorem run_ofWords_append {a : List Word} {p : Program} (ha : ofWords a = .ok p)
    (b : List Word) :
    (∀ q, ofWords b = .ok q → ∃ whole, ofWords (a ++ b) = .ok whole ∧
      whole.slots = p.slots ++ q.slots ∧
      ∀ regs : RegisterFile,
        (Machine.start whole regs).run.1 = ((Machine.start p regs).runThen q).1 ∧
        (Machine.start whole regs).run.2.registers =
          ((Machine.start p regs).runThen q).2.registers ∧
        ∀ e, (Machine.start whole regs).run.1 = .error e → ∃ r, e = .noSuchRegister r) ∧
    (∀ e, ofWords b = .error e → ∃ slot opcode, e = .missingExtension slot opcode ∧
      ofWords (a ++ b) = .error (.missingExtension (a.length + slot) opcode)) := by
  obtain ⟨is, rfl, rfl⟩ := ofWords_eq_ok_iff.1 ha
  constructor
  · intro q hb
    obtain ⟨js, rfl, rfl⟩ := ofWords_eq_ok_iff.1 hb
    refine ⟨ofInstructions (is ++ js), ?_, ?_, ?_⟩
    · rw [← List.flatMap_append, ofWords_flatMap_words]
    · simp [ofInstructions]
    · intro regs
      obtain ⟨hanswer, hregs⟩ := Machine.run_append is js regs
      refine ⟨hanswer, hregs, fun e he => ?_⟩
      rw [(Prod.mk.inj (Machine.run_start_eq_outcome (is ++ js) regs)).1] at he
      exact exists_of_outcome_eq_error he
  · intro e hb
    obtain ⟨js, w, hw, rfl, rfl⟩ := ofWords_eq_error_iff.1 hb
    refine ⟨_, _, rfl, ?_⟩
    rw [← List.append_assoc, ← List.flatMap_append, ofWords_flatMap_words_cut _ hw,
      List.flatMap_append, List.length_append]

/-- A wide load and a move, then an addition and a move to a register that does not exist: the
second run takes up the registers of the first and is refused, and so is the run over both. -/
theorem run_append_up_to_missing_register :
    ∃ whole : Program,
      ofWords ([0x1801000000000000, 0x1802000000000000, 0xb700000007000000] ++
        [0x0700000005000000, 0xb70b000001000000]) = .ok whole ∧
      (Machine.start whole .zero).run.1 = .error (.noSuchRegister 11) ∧
      (Machine.start whole .zero).run.2.registers = RegisterFile.zero.set 0 12 ∧
      ofWords ([0x1801000000000000, 0x1802000000000000, 0xb700000007000000] ++
        [0x0700000005000000, 0x1803000000000000]) = .error (.missingExtension 4 0x18) := by
  let p : Program := .ofInstructions [.wide 0x1801000000000000 0x1802000000000000 rfl,
    .narrow 0xb700000007000000 (by decide)]
  let q : Program := .ofInstructions [.narrow 0x0700000005000000 (by decide),
    .narrow 0xb70b000001000000 (by decide)]
  have hp : ofWords [0x1801000000000000, 0x1802000000000000, 0xb700000007000000] = .ok p := rfl
  have hq : ofWords [0x0700000005000000, 0xb70b000001000000] = .ok q := rfl
  have hcut : ofWords [0x0700000005000000, 0x1803000000000000] =
      .error (.missingExtension 1 0x18) := rfl
  obtain ⟨whole, hwhole, -, hruns⟩ := (run_ofWords_append hp _).1 q hq
  obtain ⟨hanswer, hregs, -⟩ := hruns .zero
  obtain ⟨slot, opcode, hfault, hload⟩ := (run_ofWords_append hp _).2 _ hcut
  cases hfault
  refine ⟨whole, hwhole, hanswer.trans ?_, hregs.trans ?_, hload⟩
  · decide +kernel
  · decide +kernel

end Program
end Ebpf
