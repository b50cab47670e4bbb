import Mathlib
import Ebpf.Proofs.Machine.Invariant

/-!
# A run is a fold over the instructions that are left

* `executeAll` executes instructions one after the other on the registers alone.
* `Machine.remaining` are the instructions from the program counter on, with their slots;
  `Machine.Between.remaining_eq` says which these are.
* `Machine.Steps` are steps that all succeed, and a run that starts with them goes on behind them
  (`Machine.Steps.exhaust_eq`).
* `Machine.Between.steps_through`: up to a faulty instruction, the machine steps from instruction to
  instruction and its registers are those of `executeAll`.
* `Machine.Reachable.run_eq_fold`: what a run gives and leaves behind, without a faulty instruction
  and with one.
-/

namespace Ebpf

/-- The registers after instructions, one after the other, up to one that cannot be executed. -/
def executeAll (is : List Instruction) (regs : RegisterFile) : Except StepFault RegisterFile :=
  is.foldlM (fun regs i => i.execute regs) regs

@[simp] theorem executeAll_nil (regs : RegisterFile) : executeAll [] regs = .ok regs := rfl

theorem executeAll_cons (i : Instruction) (is : List Instruction) (regs : RegisterFile) :
    executeAll (i :: is) regs = i.execute regs >>= executeAll is := rfl

namespace Machine

/-- The instructions at slots from the program counter on, each with its slot. -/
def remaining (m : Machine) : List (Nat × Instruction) :=
  m.program.instructions.filter fun x => m.pc ≤ x.1

/-- What is left of the program are the instructions that have not been executed. -/
theorem Between.remaining_eq {m : Machine} {done todo : List Instruction}
    (h : m.Between done todo) : m.remaining = numbered m.pc todo := by
  rw [remaining, h.program_eq, Program.instructions_ofInstructions, numbered_append, h.pc_eq,
    Nat.zero_add, List.filter_append]
  have hdone : (numbered 0 done).filter (fun x => slotTotal done ≤ x.1) = [] := by
    refine List.filter_eq_nil_iff.2 ?_
    intro x hx
    have := bounds_of_mem_numbered hx
    simp only [decide_eq_true_eq]
    omega
  have htodo : (numbered (slotTotal done) todo).filter (fun x => slotTotal done ≤ x.1) =
      numbered (slotTotal done) todo := by
    refine List.filter_eq_self.2 ?_
    intro x hx
    exact decide_eq_true (bounds_of_mem_numbered hx).1
  rw [hdone, htodo, List.nil_append]

/-! ## Successful steps -/

/-- A number of steps that all succeed lead from one machine to another. -/
inductive Steps : Nat → Machine → Machine → Prop
  /-- No step. -/
  | zero (m : Machine) : Steps 0 m m
  /-- A step before the others. -/
  | succ {n : Nat} {m m' m'' : Machine} (h : m.step = (.ok (), m')) :
      Steps n m' m'' → Steps (n + 1) m m''

/-- A run goes on behind the steps that it starts with. -/
theorem Steps.exhaust_eq {n : Nat} {m m' : Machine} (h : Steps n m m') :
    m.exhaust = m'.exhaust := by
  induction h with
  | zero m => rfl
  | succ h _ ih => rw [exhaust_of_step_ok h, ih]

/-- The machine after instructions that have left these registers. -/
def pass (m : Machine) (is : List Instruction) (regs : RegisterFile) : Machine :=
  { m with
    registers := regs
    pc := m.pc + slotTotal is
    steps := m.steps + is.length
    state := if is = [] then m.state else .running }

theorem pass_nil (m : Machine) : m.pass [] m.registers = m := rfl

theorem pass_cons (m : Machine) (i : Instruction) (is : List Instruction)
    (r regs : RegisterFile) : m.pass (i :: is) regs = (m.advance i r).pass is regs := by
  simp [pass, advance, Nat.add_assoc, Nat.add_comm 1]

/-- **Steps from instruction to instruction.** As long as no instruction is faulty, every step
succeeds and the registers are those of executing the instructions one after the other. -/
theorem Between.steps_through {m : Machine} {done is rest : List Instruction}
    (h : m.Between done (is ++ rest)) (hok : ∀ i ∈ is, ¬ i.IsFaulty) :
    ∃ regs, executeAll is m.registers = .ok regs ∧ Steps is.length m (m.pass is regs) ∧
      (m.pass is regs).Between (done ++ is) rest := by
  induction is generalizing m done with
  | nil => exact ⟨m.registers, rfl, .zero m, by simpa [pass_nil] using h⟩
  | cons i is ih =>
    obtain ⟨r, hr⟩ := i.exists_execute_of_not_isFaulty (hok i List.mem_cons_self) m.registers
    obtain ⟨regs, hregs, hsteps, hbetween⟩ :=
      ih (h.advance r) (fun j hj => hok j (List.mem_cons_of_mem i hj))
    rw [← pass_cons m i is r] at hsteps hbetween
    refine ⟨regs, ?_, .succ (h.step_ok hr) hsteps, by simpa using hbetween⟩
    rw [executeAll_cons, hr]
    exact hregs

/-! ## Runs -/

theorem run_of_exhaust_end {m m' : Machine} (h : m.exhaust = (.endOfProgram, m')) :
    m.run = (.ok (m'.steps - m.steps), m') := by
  rw [run, h]

theorem run_of_exhaust_noSuchRegister {m m' : Machine} {n : Nat}
    (h : m.exhaust = (.noSuchRegister n, m')) : m.run = (.error (.noSuchRegister n), m') := by
  rw [run, h]

namespace Between

variable {m : Machine} {done is rest : List Instruction} {i : Instruction}

/-- At the end, a run only halts the machine. -/
theorem run_nil (h : m.Between done []) : m.run = (.ok 0, { m with state := .halted }) := by
  rw [run_of_exhaust_end (exhaust_of_step_error h.step_nil), Nat.sub_self]

/-- At a faulty instruction, a run changes nothing. -/
theorem run_faulty (h : m.Between done (i :: rest)) (hi : i.IsFaulty) :
    m.run = (.error (.noSuchRegister i.faultyField), m) :=
  run_of_exhaust_noSuchRegister (exhaust_of_step_error (h.step_error (i.execute_of_isFaulty hi _)))

/-- Without a faulty instruction, a run executes all instructions that are left and halts. -/
theorem run_to_end (h : m.Between done is) (hok : ∀ i ∈ is, ¬ i.IsFaulty) :
    ∃ regs, executeAll is m.registers = .ok regs ∧ Steps is.length m (m.pass is regs) ∧
      (m.pass is regs).step = (.error .endOfProgram, m.run.2) ∧
      m.run = (.ok is.length, { m.pass is regs with state := .halted }) ∧
      m.run.2.run = (.ok 0, m.run.2) := by
  have h' : m.Between done (is ++ []) := by rwa [List.append_nil]
  obtain ⟨regs, hregs, hsteps, hend⟩ := h'.steps_through hok
  have hrun : m.run = (.ok is.length, { m.pass is regs with state := .halted }) := by
    rw [run_of_exhaust_end (hsteps.exhaust_eq.trans (exhaust_of_step_error hend.step_nil))]
    simp [pass]
  refine ⟨regs, hregs, hsteps, ?_, hrun, ?_⟩
  · rw [hrun, hend.step_nil]
  · rw [hrun, hend.halt.run_nil]

/-- With a faulty instruction, a run executes the instructions before it and is refused there. -/
theorem run_to_fault (h : m.Between done (is ++ i :: rest)) (hok : ∀ j ∈ is, ¬ j.IsFaulty)
    (hi : i.IsFaulty) :
    ∃ regs, executeAll is m.registers = .ok regs ∧ Steps is.length m (m.pass is regs) ∧
      (m.pass is regs).step = (.error (.noSuchRegister i.faultyField), m.run.2) ∧
      m.run = (.error (.noSuchRegister i.faultyField), m.pass is regs) ∧
      m.run.2.run = m.run := by
  obtain ⟨regs, hregs, hsteps, hfault⟩ := h.steps_through hok
  have hstep := hfault.step_error (i.execute_of_isFaulty hi _)
  have hrun : m.run = (.error (.noSuchRegister i.faultyField), m.pass is regs) :=
    run_of_exhaust_noSuchRegister (hsteps.exhaust_eq.trans (exhaust_of_step_error hstep))
  refine ⟨regs, hregs, hsteps, ?_, hrun, ?_⟩
  · rw [hrun, hstep]
  · rw [hrun, hfault.run_faulty hi]

end Between

/-- **A run is the fold of the single instructions.** Take any machine that can be reached.

If no instruction that is left is faulty, the loop ends after as many successful steps as there are
instructions left, at the end of the program. The run gives their number, the registers are those
of executing them one after the other, and the machine is halted at the end; a second run gives zero
and changes nothing.

If there is a faulty one, the loop ends at the first of them, after as many successful steps as
there are instructions before it. The run gives the fault of that instruction, the registers are
those of executing the instructions before it, and the machine waits at its slot, running if there
were any; a second run gives the same fault and changes nothing. -/
theorem Reachable.run_eq_fold {m : Machine} (h : m.Reachable) :
    ((∀ x ∈ m.remaining, ¬ x.2.IsFaulty) →
      ∃ regs last, executeAll (m.remaining.map Prod.snd) m.registers = .ok regs ∧
        Steps m.remaining.length m last ∧ last.step = (.error .endOfProgram, m.run.2) ∧
        m.run = (.ok m.remaining.length,
          { m with
            registers := regs
            pc := m.program.size
            steps := m.steps + m.remaining.length
            state := .halted }) ∧
        m.run.2.run = (.ok 0, m.run.2)) ∧
    (∀ before slot i after, m.remaining = before ++ (slot, i) :: after →
      (∀ x ∈ before, ¬ x.2.IsFaulty) → i.IsFaulty →
      ∃ regs last, executeAll (before.map Prod.snd) m.registers = .ok regs ∧
        Steps before.length m last ∧
        last.step = (.error (.noSuchRegister i.faultyField), m.run.2) ∧
        m.run = (.error (.noSuchRegister i.faultyField),
          { m with
            registers := regs
            pc := slot
            steps := m.steps + before.length
            state := if before = [] then m.state else .running }) ∧
        m.run.2.run = m.run) := by
  obtain ⟨done, todo, hm⟩ := h.aligned
  rw [hm.remaining_eq]
  constructor
  · intro hok
    have hok' : ∀ i ∈ todo, ¬ i.IsFaulty := by
      intro i hi
      rw [← map_snd_numbered m.pc todo] at hi
      obtain ⟨x, hx, rfl⟩ := List.mem_map.1 hi
      exact hok x hx
    obtain ⟨regs, hregs, hsteps, hlast, hrun, hagain⟩ := hm.run_to_end hok'
    have hsize : m.program.size = m.pc + slotTotal todo := by
      rw [hm.program_eq, hm.pc_eq, Program.size_ofInstructions, slotTotal_append]
    rw [map_snd_numbered, length_numbered, hsize]
    exact ⟨regs, _, hregs, hsteps, hlast, hrun, hagain⟩
  · intro before slot i after hsplit hok hi
    obtain ⟨rfl, rfl⟩ := eq_of_numbered_eq hsplit
    have hok' : ∀ j ∈ before.map Prod.snd, ¬ j.IsFaulty := by
      intro j hj
      obtain ⟨x, hx, rfl⟩ := List.mem_map.1 hj
      exact hok x hx
    obtain ⟨regs, hregs, hsteps, hlast, hrun, hagain⟩ := hm.run_to_fault hok' hi
    rw [List.length_map] at hsteps
    refine ⟨regs, _, hregs, hsteps, hlast, ?_, hagain⟩
    rw [hrun]
    simp [pass]

/-- A wide load and a move are executed, a move to a register that does not exist is not, and the
move behind it is not reached. -/
theorem run_up_to_missing_register :
    ∃ m : Machine, m.Reachable ∧ m.remaining.length = 4 ∧
      m.run.1 = .error (.noSuchRegister 11) ∧ m.run.2.pc = 3 ∧ m.run.2.steps = 2 ∧
      m.run.2.state = .running ∧ m.run.2.registers = RegisterFile.zero.set 0 7 ∧
      m.run.2.run = m.run := by
  have hm : Reachable (ofProgram (.ofInstructions [
      .wide 0x1801000000000000 0x1802000000000000 rfl, .narrow 0xb700000007000000 (by decide),
      .narrow 0xb70b000001000000 (by decide), .narrow 0xb700000009000000 (by decide)])) :=
    .ofProgram (.ofInstructions _)
  obtain ⟨regs, last, hregs, -, -, hrun, hagain⟩ :=
    hm.run_eq_fold.2 [(0, .wide 0x1801000000000000 0x1802000000000000 rfl),
      (2, .narrow 0xb700000007000000 (by decide))] 3 (.narrow 0xb70b000001000000 (by decide)) _ rfl
      (by decide) (by decide)
  obtain rfl : regs = RegisterFile.zero.set 0 7 := (Except.ok.inj hregs).symm
  exact ⟨_, hm, rfl, congrArg Prod.fst hrun, congrArg (fun r => r.2.pc) hrun,
    congrArg (fun r => r.2.steps) hrun, congrArg (fun r => r.2.state) hrun,
    congrArg (fun r => r.2.registers) hrun, hagain⟩

end Machine
end Ebpf
