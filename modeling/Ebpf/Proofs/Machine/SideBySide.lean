import Mathlib
import Ebpf.Proofs.Machine.Invariant

/-!
# Two machines side by side

Two machines that differ in nothing but their registers stay like that, whatever is done with both
of them: no step looks at what a register holds to find out where to go or whether to fail.

* `Machine.control` is everything about a machine but its registers.
* `Machine.Alongside R` is said of two machines with the same control whose registers are related by
  `R`. The relation is open, so that what is proved here once serves every comparison of two runs.
* `Instruction.Preserves R`: executing the instruction on related registers leaves related
  registers.
* `Machine.Alongside.step` is what one step does to such machines, and from it come
  `Machine.Alongside.exhaust` and `Machine.Alongside.run`.
* `Machine.transcript` is what one sees of a machine while operations are applied to it, and
  `Machine.transcript_eq_of_control_eq` says that the registers leave no trace there.
-/

namespace Ebpf

/-- Executing the instruction takes related registers to related registers. Whether it can be
executed is not asked: that is decided by its fields. -/
def Instruction.Preserves (R : RegisterFile → RegisterFile → Prop) (i : Instruction) : Prop :=
  ∀ ⦃a b a' b' : RegisterFile⦄, R a b → i.execute a = .ok a' → i.execute b = .ok b' → R a' b'

namespace Machine

/-! ## Control -/

/-- Everything about a machine but its registers. -/
structure Control where
  /-- The program. -/
  program : Program
  /-- The slot of the next instruction. -/
  pc : Nat
  /-- The number of instructions executed since the program was attached. -/
  steps : Nat
  /-- Where the machine is in the life of its program. -/
  state : MachineState
  deriving DecidableEq

/-- The machine without its registers. -/
def control (m : Machine) : Control := ⟨m.program, m.pc, m.steps, m.state⟩

/-- What is next is found without the registers. -/
theorem next_eq_of_control_eq {m m' : Machine} (h : m.control = m'.control) :
    m.next = m'.next := by
  have hprogram : m.program = m'.program := congrArg Control.program h
  have hpc : m.pc = m'.pc := congrArg Control.pc h
  rw [next, next, hprogram, hpc]

/-- The instruction that is next stands in a slot of the program. -/
theorem mem_slots_of_next {m : Machine} {i : Instruction} (h : m.next = .ok i) :
    .insn i ∈ m.program.slots := by
  unfold next at h
  split at h
  · rename_i j hslot
    cases h
    exact Array.mem_of_getElem? hslot
  · cases h
  · cases h

/-- No step changes the program. -/
theorem step_program (m : Machine) : m.step.2.program = m.program := by
  unfold step
  split
  · rfl
  · split <;> rfl

/-! ## Related registers -/

/-- Two machines have the same control, and their registers are related. -/
structure Alongside (R : RegisterFile → RegisterFile → Prop) (m m' : Machine) : Prop where
  /-- They differ in nothing but the registers. -/
  control_eq : m.control = m'.control
  /-- The registers are related. -/
  registers : R m.registers m'.registers

namespace Alongside

variable {R : RegisterFile → RegisterFile → Prop} {m m' : Machine}

theorem attach (h : Alongside R m m') (p : Program) : Alongside R (m.attach p) (m'.attach p) :=
  ⟨rfl, h.registers⟩

theorem halt (h : Alongside R m m') :
    Alongside R { m with state := .halted } { m' with state := .halted } := by
  have hc := h.control_eq
  simp only [control, Control.mk.injEq] at hc
  refine ⟨?_, h.registers⟩
  simp only [control, hc]

theorem advance (h : Alongside R m m') (i : Instruction) {a b : RegisterFile} (hab : R a b) :
    Alongside R (m.advance i a) (m'.advance i b) := by
  have hc := h.control_eq
  simp only [control, Control.mk.injEq] at hc
  refine ⟨?_, hab⟩
  simp only [control, Machine.advance, hc]

/-- **One step.** Machines with the same control give the same answer and have the same control
again, and their registers stay related if the instruction preserves that. -/
theorem step (h : Alongside R m m') (hR : ∀ i, m.next = .ok i → i.Preserves R) :
    m.step.1 = m'.step.1 ∧ Alongside R m.step.2 m'.step.2 := by
  have hnext : m.next = m'.next := next_eq_of_control_eq h.control_eq
  cases hm : m.next with
  | error e =>
    have hm' : m'.next = .error e := hnext ▸ hm
    simp only [Machine.step, hm, hm']
    exact ⟨trivial, h.halt⟩
  | ok i =>
    have hm' : m'.next = .ok i := hnext ▸ hm
    -- a faulty instruction is refused by both, any other is executed by both
    by_cases hi : i.IsFaulty
    · simp only [Machine.step, hm, hm', i.execute_of_isFaulty hi]
      exact ⟨trivial, h⟩
    · obtain ⟨a, ha⟩ := i.exists_execute_of_not_isFaulty hi m.registers
      obtain ⟨b, hb⟩ := i.exists_execute_of_not_isFaulty hi m'.registers
      rw [step_of_execute hm ha, step_of_execute hm' hb]
      exact ⟨rfl, h.advance i (hR i hm h.registers ha hb)⟩

/-- Steps up to the first one that fails, if all instructions of the program preserve the
relation. -/
theorem exhaust (h : Alongside R m m') (hR : ∀ i, .insn i ∈ m.program.slots → i.Preserves R) :
    m.exhaust.1 = m'.exhaust.1 ∧ Alongside R m.exhaust.2 m'.exhaust.2 := by
  fun_induction Machine.exhaust m generalizing m' with
  | case1 m next hs _ ih =>
    obtain ⟨hanswer, halong⟩ := h.step fun i hi => hR i (mem_slots_of_next hi)
    have hprogram : next.program = m.program := by
      have hkept := m.step_program
      rwa [hs] at hkept
    rw [hs] at hanswer halong
    have hs' : m'.step = (.ok (), m'.step.2) := Prod.ext hanswer.symm rfl
    rw [exhaust_of_step_ok hs']
    exact ih halong (hprogram ▸ hR)
  | case2 m e last hs =>
    obtain ⟨hanswer, halong⟩ := h.step fun i hi => hR i (mem_slots_of_next hi)
    rw [hs] at hanswer halong
    have hs' : m'.step = (.error e, m'.step.2) := Prod.ext hanswer.symm rfl
    rw [exhaust_of_step_error hs']
    exact ⟨rfl, halong⟩

/-- **A whole run.** Machines with the same control give the same answer and have the same control
again, and their registers are still related. -/
theorem run (h : Alongside R m m') (hR : ∀ i, .insn i ∈ m.program.slots → i.Preserves R) :
    m.run.1 = m'.run.1 ∧ Alongside R m.run.2 m'.run.2 := by
  obtain ⟨hanswer, halong⟩ := h.exhaust hR
  have hsteps : m.steps = m'.steps := congrArg Control.steps h.control_eq
  have hsteps' : m.exhaust.2.steps = m'.exhaust.2.steps :=
    congrArg Control.steps halong.control_eq
  refine ⟨?_, by rwa [run_snd, run_snd]⟩
  cases hlast : m.exhaust with
  | mk e last =>
    cases hlast' : m'.exhaust with
    | mk e' last' =>
      rw [hlast, hlast'] at hanswer hsteps'
      obtain rfl : e = e' := hanswer
      simp only at hsteps'
      cases e <;> simp only [Machine.run, hlast, hlast', hsteps, hsteps']

end Alongside

/-! ## What one sees of a machine -/

/-- What an operation gives back. -/
inductive Answer where
  /-- The instruction that is next. -/
  | instruction (r : Except StepFault Instruction)
  /-- Whether a step succeeded. -/
  | stepped (r : Except StepFault Unit)
  /-- The number of instructions that a run executed. -/
  | ran (r : Except StepFault Nat)
  /-- Nothing. -/
  | nothing
  deriving DecidableEq

namespace Operation

/-- What an operation gives back on a machine. -/
def answer (m : Machine) : Operation → Answer
  | .peek => .instruction m.next
  | .step => .stepped m.step.1
  | .run => .ran m.run.1
  | .attach _ _ | .copy | .setRegister _ _ => .nothing

/-- Two operations are the same, except that they may write different values to a register. -/
inductive SameButValue : Operation → Operation → Prop
  /-- They are the same. -/
  | refl (op : Operation) : SameButValue op op
  /-- They write values to the same register. -/
  | write (r : Register) (v v' : Word) : SameButValue (.setRegister r v) (.setRegister r v')

/-- Operations that differ only in what they write give the same answer on machines that differ only
in their registers, and leave such machines. -/
theorem SameButValue.apply {op op' : Operation} (hop : SameButValue op op') {m m' : Machine}
    (h : m.control = m'.control) :
    op.answer m = op'.answer m' ∧ (op.apply m).control = (op'.apply m').control := by
  -- any registers are related by the relation that holds of all of them
  have halong : Alongside (fun _ _ => True) m m' := ⟨h, trivial⟩
  have hall : ∀ i : Instruction, i.Preserves fun _ _ => True := fun _ _ _ _ _ _ _ _ => trivial
  cases hop with
  | write r v v' => exact ⟨rfl, h⟩
  | refl op =>
    cases op with
    | attach p loaded => exact ⟨rfl, (halong.attach p).control_eq⟩
    | step =>
      obtain ⟨hanswer, hafter⟩ := halong.step fun i _ => hall i
      exact ⟨congrArg Answer.stepped hanswer, hafter.control_eq⟩
    | run =>
      obtain ⟨hanswer, hafter⟩ := halong.run fun i _ => hall i
      exact ⟨congrArg Answer.ran hanswer, hafter.control_eq⟩
    | peek => exact ⟨congrArg Answer.instruction (next_eq_of_control_eq h), h⟩
    | copy => exact ⟨rfl, h⟩
    | setRegister r v => exact ⟨rfl, h⟩

end Operation

/-- What one sees while operations are applied to a machine, one after the other: for each of them
its answer, and the control of the machine behind it. -/
def transcript (m : Machine) : List Operation → List (Answer × Control)
  | [] => []
  | op :: ops => (op.answer m, (op.apply m).control) :: transcript (op.apply m) ops

/-- **Control is independent of data.** Take two machines that differ in nothing but their
registers, and apply the same operations to both; where they write to a register, the values may
differ. Every look at the next instruction, every step and every run gives the same answer on both,
and after every operation they still have the same program, the same program counter, the same
number of steps and the same state. -/
theorem transcript_eq_of_control_eq {m m' : Machine} (h : m.control = m'.control)
    {ops ops' : List Operation} (hops : List.Forall₂ Operation.SameButValue ops ops') :
    m.transcript ops = m'.transcript ops' := by
  induction hops generalizing m m' with
  | nil => rfl
  | cons hop _ ih =>
    obtain ⟨hanswer, hcontrol⟩ := hop.apply h
    rw [transcript, transcript, hanswer, hcontrol, ih hcontrol]

/-- A shift by a register, a wide load and a move to a register that does not exist, on registers
that have nothing in common: both runs are refused at the same slot. -/
theorem transcript_of_unequal_registers :
    ∃ m m' : Machine, (m.registers.get 1 = 3 ∧ m'.registers.get 1 = 0xffffffff00000040) ∧
      m.control = m'.control ∧
      m.transcript [.setRegister 2 0, .step, .run] =
        m'.transcript [.setRegister 2 0x8000000000000000, .step, .run] ∧
      (m'.transcript [.setRegister 2 0x8000000000000000, .step, .run]).map Prod.fst =
        [.nothing, .stepped (.ok ()), .ran (.error (.noSuchRegister 11))] := by
  let m : Machine := ofProgram (.ofInstructions [.narrow 0x6f21000000000000 (by decide),
    .wide 0x1801000000000000 0x1802000000000000 rfl, .narrow 0xb70b000001000000 (by decide)])
  have hsame : List.Forall₂ Operation.SameButValue [.setRegister 2 0, .step, .run]
      [.setRegister 2 0x8000000000000000, .step, .run] :=
    .cons (.write 2 0 0x8000000000000000) (.cons (.refl .step) (.cons (.refl .run) .nil))
  have hcontrol : (m.setRegister 1 3).control = (m.setRegister 1 0xffffffff00000040).control := rfl
  exact ⟨m.setRegister 1 3, m.setRegister 1 0xffffffff00000040, ⟨rfl, rfl⟩, hcontrol,
    transcript_eq_of_control_eq hcontrol hsame, by decide +kernel⟩

end Machine
end Ebpf
