import Mathlib
import Ebpf.Proofs.Machine.Execute
import Ebpf.Proofs.Program.Blocks
import Ebpf.Proofs.Program.Numbering

/-!
# Machines stand between instructions

A machine that has been used in any way at all stands between two instructions of its program: some
of them have been executed, the others are still to come, and the program counter, the number of
steps and the state all say the same about where that is.

* `Machine.Between` is this position: the instructions before it and the instructions behind it.
* `Machine.Between.step_cases` says once what a step does there; everything else about steps and
  runs follows from it.
* `Machine.exists_last_step`: a run ends in a step that fails, made by a machine that still has every
  property that steps preserve.
* `Machine.Reachable` lists what can be done with machines, in any order and any number of times.
* `Machine.Reachable.invariant`: in every machine that comes of it, the program counter is at an
  instruction or at the end, and the steps are the instructions before it.
-/

namespace Ebpf
namespace Machine

/-! ## Positions in a program -/

/-- The machine has executed the instructions `done` of its program and comes to `todo` next. -/
structure Between (m : Machine) (done todo : List Instruction) : Prop where
  /-- The program is made of both. -/
  program_eq : m.program = .ofInstructions (done ++ todo)
  /-- The program counter is behind the slots of the first ones. -/
  pc_eq : m.pc = slotTotal done
  /-- Each of the first ones was one step. -/
  steps_eq : m.steps = done.length
  /-- A machine that is ready has executed nothing. -/
  ready : m.state = .ready → done = []
  /-- A machine that is running has executed something. -/
  running : m.state = .running → done ≠ []
  /-- A machine that is halted has executed everything. -/
  halted : m.state = .halted → todo = []

/-- The machine after an instruction that has left these registers. -/
def advance (m : Machine) (i : Instruction) (regs : RegisterFile) : Machine :=
  { m with
    registers := regs, pc := m.pc + i.slotCount, steps := m.steps + 1, state := .running }

/-- An instruction that is next and can be executed is, and the machine moves behind it. -/
theorem step_of_execute {m : Machine} {i : Instruction} {regs : RegisterFile}
    (hnext : m.next = .ok i) (hregs : i.execute m.registers = .ok regs) :
    m.step = (.ok (), m.advance i regs) := by
  simp only [step, hnext, hregs]
  rfl

/-- An attached program is at its start. -/
theorem between_attach (m : Machine) (is : List Instruction) :
    (m.attach (.ofInstructions is)).Between [] is where
  program_eq := rfl
  pc_eq := rfl
  steps_eq := rfl
  ready _ := rfl
  running h := by cases h
  halted h := by cases h

theorem between_new : new.Between [] [] := between_attach new []

namespace Between

variable {m : Machine} {done todo : List Instruction}

/-- Registers have no say in where a machine is. -/
theorem setRegister (h : m.Between done todo) (r : Register) (value : Word) :
    (m.setRegister r value).Between done todo :=
  ⟨h.program_eq, h.pc_eq, h.steps_eq, h.ready, h.running, h.halted⟩

theorem advance {i : Instruction} (h : m.Between done (i :: todo)) (regs : RegisterFile) :
    (m.advance i regs).Between (done ++ [i]) todo where
  program_eq := by simpa [Machine.advance] using h.program_eq
  pc_eq := by simp [Machine.advance, h.pc_eq]
  steps_eq := by simp [Machine.advance, h.steps_eq]
  ready hs := by cases hs
  running _ := by simp
  halted hs := by cases hs

theorem halt (h : m.Between done []) :
    Between { m with state := .halted } done [] where
  program_eq := h.program_eq
  pc_eq := h.pc_eq
  steps_eq := h.steps_eq
  ready hs := by cases hs
  running hs := by cases hs
  halted _ := rfl

/-! ## One step -/

theorem next_nil (h : m.Between done []) : m.next = .error .endOfProgram := by
  rw [next, h.program_eq, h.pc_eq, List.append_nil, Program.slots_at_end]

theorem next_cons {i : Instruction} (h : m.Between done (i :: todo)) : m.next = .ok i := by
  rw [next, h.program_eq, h.pc_eq, Program.slots_at_slotTotal]

/-- At the end, a step halts the machine. -/
theorem step_nil (h : m.Between done []) :
    m.step = (.error .endOfProgram, { m with state := .halted }) := by
  rw [step, h.next_nil]

/-- An instruction that can be executed is, and the machine moves behind it. -/
theorem step_ok {i : Instruction} (h : m.Between done (i :: todo)) {regs : RegisterFile}
    (hregs : i.execute m.registers = .ok regs) : m.step = (.ok (), m.advance i regs) :=
  step_of_execute h.next_cons hregs

/-- An instruction that cannot be executed leaves everything as it is. -/
theorem step_error {i : Instruction} (h : m.Between done (i :: todo)) {e : StepFault}
    (he : i.execute m.registers = .error e) : m.step = (.error e, m) := by
  simp only [step, h.next_cons, he]

/-- **What a step does.** It halts the machine at the end, is refused at a faulty instruction, and
executes any other. -/
theorem step_cases (h : m.Between done todo) :
    (todo = [] ∧ m.step = (.error .endOfProgram, { m with state := .halted })) ∨
    (∃ i rest, todo = i :: rest ∧ i.IsFaulty ∧
      m.step = (.error (.noSuchRegister i.faultyField), m)) ∨
    (∃ i rest regs, todo = i :: rest ∧ ¬ i.IsFaulty ∧ i.execute m.registers = .ok regs ∧
      m.step = (.ok (), m.advance i regs)) := by
  cases todo with
  | nil => exact Or.inl ⟨rfl, h.step_nil⟩
  | cons i rest =>
    by_cases hi : i.IsFaulty
    · exact Or.inr (Or.inl ⟨i, rest, rfl, hi, h.step_error (i.execute_of_isFaulty hi _)⟩)
    · obtain ⟨regs, hregs⟩ := i.exists_execute_of_not_isFaulty hi m.registers
      exact Or.inr (Or.inr ⟨i, rest, regs, rfl, hi, hregs, h.step_ok hregs⟩)

/-- A step ends between two instructions again. -/
theorem exists_step (h : m.Between done todo) :
    ∃ done' todo', m.step.2.Between done' todo' := by
  obtain ⟨rfl, hs⟩ | ⟨i, rest, rfl, -, hs⟩ | ⟨i, rest, regs, rfl, -, -, hs⟩ := h.step_cases
  · rw [hs]
    exact ⟨_, _, h.halt⟩
  · rw [hs]
    exact ⟨_, _, h⟩
  · rw [hs]
    exact ⟨_, _, h.advance regs⟩

/-- No step is caught inside an instruction. -/
theorem step_ne_insideInstruction (h : m.Between done todo) :
    m.step.1 ≠ .error .insideInstruction := by
  obtain ⟨-, hs⟩ | ⟨i, rest, -, -, hs⟩ | ⟨i, rest, regs, -, -, -, hs⟩ := h.step_cases
  all_goals
    rw [hs]
    simp

end Between

/-! ## Whole runs -/

/-- A run ends with a step that fails, and what every step preserves still holds before it. -/
theorem exists_last_step {P : Machine → Prop} (hstep : ∀ m, P m → P m.step.2) {m : Machine}
    (h : P m) : ∃ last, P last ∧ last.step = (.error m.exhaust.1, m.exhaust.2) := by
  fun_induction exhaust m with
  | case1 m m' hs _ ih =>
    have hm' : P m' := by simpa only [hs] using hstep m h
    exact ih hm'
  | case2 m e m' hs => exact ⟨m, h, hs⟩

theorem run_snd (m : Machine) : m.run.2 = m.exhaust.2 := by
  unfold run
  split <;> simp_all

theorem exhaust_eq_of_run_error {m : Machine} {e : StepFault} (h : m.run.1 = .error e) :
    m.exhaust.1 = e := by
  unfold run at h
  split at h
  · cases h
  · simp_all

/-- The machine stands somewhere between two instructions of its program. -/
def Aligned (m : Machine) : Prop := ∃ done todo, m.Between done todo

namespace Aligned

variable {m : Machine}

theorem step (h : m.Aligned) : m.step.2.Aligned := by
  obtain ⟨done, todo, h⟩ := h
  exact h.exists_step

theorem run (h : m.Aligned) : m.run.2.Aligned := by
  obtain ⟨last, hlast, hs⟩ := exists_last_step (fun _ => Aligned.step) h
  rw [run_snd]
  simpa only [hs] using hlast.step

/-- No run is caught inside an instruction. -/
theorem run_ne_insideInstruction (h : m.Aligned) : m.run.1 ≠ .error .insideInstruction := by
  intro hrun
  obtain ⟨last, ⟨done, todo, hlast⟩, hs⟩ := exists_last_step (fun _ => Aligned.step) h
  exact hlast.step_ne_insideInstruction (by rw [hs, exhaust_eq_of_run_error hrun])

end Aligned

/-! ## Everything that can be done with a machine -/

/-- Something that is done with a machine. -/
inductive Operation where
  /-- Attach a program that has been loaded. -/
  | attach (p : Program) (loaded : p.Loaded)
  /-- Execute the next instruction. -/
  | step
  /-- Run to the end or to a step that fails. -/
  | run
  /-- Look at the next instruction. -/
  | peek
  /-- Go on with a copy. -/
  | copy
  /-- Write a register. -/
  | setRegister (r : Register) (value : Word)

/-- The machine after an operation. -/
def Operation.apply (m : Machine) : Operation → Machine
  | .attach p _ => m.attach p
  | .step => m.step.2
  | .run => m.run.2
  | .peek => m
  | .copy => m
  | .setRegister r value => m.setRegister r value

/-- A machine that has come of operations on a new one. -/
inductive Reachable : Machine → Prop
  /-- A new machine. -/
  | new : Reachable new
  /-- A machine made with a program that has been loaded. -/
  | ofProgram {p : Program} (loaded : p.Loaded) : Reachable (ofProgram p)
  /-- A machine after one more operation. -/
  | apply {m : Machine} (op : Operation) : Reachable m → Reachable (op.apply m)

/-- Any loaded program can be attached. -/
theorem aligned_attach (m : Machine) {p : Program} (loaded : p.Loaded) :
    (m.attach p).Aligned := by
  obtain ⟨is, rfl⟩ := loaded.exists_instructions
  exact ⟨[], is, between_attach m is⟩

/-- Operations leave a machine between two instructions. -/
theorem Aligned.apply {m : Machine} (h : m.Aligned) (op : Operation) : (op.apply m).Aligned := by
  cases op with
  | attach p loaded => exact aligned_attach m loaded
  | step => exact h.step
  | run => exact h.run
  | peek => exact h
  | copy => exact h
  | setRegister r value =>
    obtain ⟨done, todo, h⟩ := h
    exact ⟨done, todo, h.setRegister r value⟩

/-- Whatever has been done with it, a machine stands between two instructions. -/
theorem Reachable.aligned {m : Machine} (h : m.Reachable) : m.Aligned := by
  induction h with
  | new => exact ⟨[], [], between_new⟩
  | ofProgram loaded => exact aligned_attach Machine.new loaded
  | apply op _ ih => exact ih.apply op

/-! ## The invariant -/

/-- What the program counter, the number of steps and the state say about each other. -/
structure Consistent (m : Machine) : Prop where
  /-- The program counter is inside the program or at its end. -/
  pc_le : m.pc ≤ m.program.size
  /-- Unless it is at the end, an instruction starts there. -/
  at_insn : m.pc = m.program.size ∨ ∃ i, m.program.slots[m.pc]? = some (.insn i)
  /-- There have been as many steps as instructions start before the program counter. -/
  steps_eq : m.steps = (m.program.slots.toList.take m.pc).countP fun slot => slot.insn?.isSome
  /-- So what can count the slots can count the steps. -/
  steps_le : m.steps ≤ m.program.size
  /-- A machine that is ready is at the start. -/
  ready : m.state = .ready → m.pc = 0 ∧ m.steps = 0
  /-- A machine that is running has made a step. -/
  running : m.state = .running → 1 ≤ m.steps
  /-- A machine that is halted is at the end. -/
  halted : m.state = .halted → m.pc = m.program.size

theorem Between.consistent {m : Machine} {done todo : List Instruction}
    (h : m.Between done todo) : m.Consistent where
  pc_le := by
    rw [h.program_eq, h.pc_eq, Program.size_ofInstructions, slotTotal_append]
    exact Nat.le_add_right _ _
  at_insn := by
    rw [h.program_eq, h.pc_eq]
    cases todo with
    | nil =>
      rw [List.append_nil, Program.size_ofInstructions]
      exact Or.inl rfl
    | cons i rest => exact Or.inr ⟨i, Program.slots_at_slotTotal done i rest⟩
  steps_eq := by rw [h.program_eq, h.pc_eq, Program.countP_take_slots, h.steps_eq]
  steps_le := by
    rw [h.program_eq, h.steps_eq, Program.size_ofInstructions, slotTotal_append]
    exact (length_le_slotTotal done).trans (Nat.le_add_right _ _)
  ready hs := by
    rw [h.pc_eq, h.steps_eq, h.ready hs]
    exact ⟨rfl, rfl⟩
  running hs := by
    rw [h.steps_eq]
    exact List.length_pos_iff.2 (h.running hs)
  halted hs := by rw [h.program_eq, h.pc_eq, h.halted hs, List.append_nil,
    Program.size_ofInstructions]

/-- **The invariant of machines.** Whatever has been done with a machine, in whatever order, it is
consistent, and neither looking at the next instruction nor a step nor a run finds the program
counter on an extension word. -/
theorem Reachable.invariant {m : Machine} (h : m.Reachable) :
    m.Consistent ∧ m.next ≠ .error .insideInstruction ∧
      m.step.1 ≠ .error .insideInstruction ∧ m.run.1 ≠ .error .insideInstruction := by
  obtain ⟨done, todo, hm⟩ := h.aligned
  refine ⟨hm.consistent, ?_, hm.step_ne_insideInstruction, h.aligned.run_ne_insideInstruction⟩
  cases todo with
  | nil => simp [hm.next_nil]
  | cons i rest => simp [hm.next_cons]

/-- A wide load, a move and a move to a register that does not exist: two steps and a third one that
fails. -/
theorem consistent_after_failed_step :
    ∃ m : Machine, m.Reachable ∧ m.pc = 3 ∧ m.steps = 2 ∧ m.state = .running ∧
      m.step.1 = .error (.noSuchRegister 11) ∧ m.Consistent := by
  have loaded : Program.Loaded (.ofInstructions [.wide 0x1801000000000000 0x1802000000000000 rfl,
      .narrow 0xb700000007000000 (by decide), .narrow 0xb70b000001000000 (by decide)]) :=
    .ofInstructions _
  have hm : Reachable ((ofProgram _).step.2.step.2.step.2) :=
    .apply .step (.apply .step (.apply .step (.ofProgram loaded)))
  exact ⟨_, hm, rfl, rfl, rfl, rfl, hm.invariant.1⟩

end Machine
end Ebpf
