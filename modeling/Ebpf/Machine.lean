import Ebpf.Program

/-!
# The machine

A machine steps through a program from its first slot to its end and executes the arithmetic on
the way. All other instructions are stepped over: jumps do not jump, loads and stores touch nothing,
and neither do divisions, remainders, signed shifts, negations and byte swaps.

```text
            attach            step             step at the end
  (any) ────────────▶ ready ────────▶ running ────────────────▶ halted
```

* `Machine.step` executes one instruction; a step that fails changes nothing, except that the end
  of the program halts the machine.
* `Machine.run` steps until a step fails. It comes to an end because every step that succeeds moves
  on in the program (`Machine.step_pc_lt`).
-/

namespace Ebpf

/-! ## Arithmetic -/

namespace BinaryOp

/-- Whether the machine executes an operation. -/
def isExecuted : BinaryOp → Bool
  | .add | .sub | .mul | .or | .and | .lsh | .rsh | .xor | .mov => true
  | .div | .mod | .arsh => false

/-- The result of an operation on `w` bits. Results wrap around, and of a shift amount only the
remainder by the width counts. What is not executed leaves the first operand as it is. -/
def eval {w : Nat} (op : BinaryOp) (d s : BitVec w) : BitVec w :=
  match op with
  | .add => d + s
  | .sub => d - s
  | .mul => d * s
  | .or => d ||| s
  | .and => d &&& s
  | .lsh => d <<< (s.toNat % w)
  | .rsh => d >>> (s.toNat % w)
  | .xor => d ^^^ s
  | .mov => s
  | .div | .mod | .arsh => d

/-- The result of an operation on registers: an operation on 32 bits takes the low halves of its
operands and clears the high half of the result. -/
def evalAt (op : BinaryOp) (width : Width) (d s : Word) : Word :=
  match width with
  | .w64 => op.eval d s
  | .w32 => (op.eval (d.setWidth 32) (s.setWidth 32)).setWidth 64

end BinaryOp

/-! ## Faults -/

/-- Why a step fails. -/
inductive StepFault where
  /-- The program is at its end. -/
  | endOfProgram
  /-- A register field names no register. -/
  | noSuchRegister (number : Nat)
  /-- The next slot holds an extension word. No machine that has been run from the start of a loaded
  program comes to this. -/
  | insideInstruction
  deriving DecidableEq, Repr

/-- What is reported for a step that fails. -/
def StepFault.message : StepFault → String
  | .endOfProgram => "end of program"
  | .noSuchRegister n => "invalid register " ++ registerName n
  | .insideInstruction => "program counter on an extension slot"

/-! ## Effects on registers -/

/-- The register that a field names. -/
def registerOfField (field : BitVec 4) : Except StepFault Register :=
  (Register.ofNat field.toNat).mapError fun e => .noSuchRegister e.number

namespace Instruction

/-- The content of the second operand; an immediate is extended with its sign. -/
def sourceValue (i : Instruction) (source : Source) (regs : RegisterFile) :
    Except StepFault Word :=
  match source with
  | .imm => .ok (i.imm.signExtend 64)
  | .reg => (registerOfField i.src).map regs.get

/-- The registers after an operation on two operands. The destination is checked before the
source. -/
def executeBinary (i : Instruction) (width : Width) (source : Source) (op : BinaryOp)
    (regs : RegisterFile) : Except StepFault RegisterFile := do
  let dst ← registerOfField i.dst
  let value ← i.sourceValue source regs
  return regs.set dst (op.evalAt width (regs.get dst) value)

/-- The registers after an instruction. -/
def execute (i : Instruction) (regs : RegisterFile) : Except StepFault RegisterFile :=
  match i.opcode with
  | .arithmetic width source (some (.binary op)) =>
    if op.isExecuted then i.executeBinary width source op regs else .ok regs
  | _ => .ok regs

end Instruction

/-! ## The machine -/

/-- Where a machine is in the life of its program. -/
inductive MachineState where
  /-- Nothing has been executed yet. -/
  | ready
  /-- Something has been executed. -/
  | running
  /-- A step has come to the end of the program. -/
  | halted
  deriving DecidableEq, Repr

/-- A machine with a program. -/
structure Machine where
  /-- The program. -/
  program : Program
  /-- The registers. -/
  registers : RegisterFile
  /-- The slot of the next instruction. -/
  pc : Nat
  /-- The number of instructions executed since the program was attached. -/
  steps : Nat
  /-- Where the machine is in the life of its program. -/
  state : MachineState
  deriving DecidableEq

namespace Machine

/-- A machine with an empty program and all registers zero. -/
def new : Machine where
  program := .empty
  registers := .zero
  pc := 0
  steps := 0
  state := .ready

/-- The machine with another program, at its start. Registers keep their contents. -/
def attach (m : Machine) (p : Program) : Machine :=
  { m with program := p, pc := 0, steps := 0, state := .ready }

/-- A machine with a program and all registers zero. -/
def ofProgram (p : Program) : Machine := new.attach p

/-- The machine with one register written. -/
def setRegister (m : Machine) (r : Register) (value : Word) : Machine :=
  { m with registers := m.registers.set r value }

/-- The instruction that is next. -/
def next (m : Machine) : Except StepFault Instruction :=
  match m.program.slots[m.pc]? with
  | some (.insn i) => .ok i
  | some (.extension _) => .error .insideInstruction
  | none => .error .endOfProgram

/-- Executes the next instruction. -/
def step (m : Machine) : Except StepFault Unit × Machine :=
  match m.next with
  | .error e => (.error e, { m with state := .halted })
  | .ok i =>
    match i.execute m.registers with
    | .error e => (.error e, m)
    | .ok regs =>
      (.ok (), { m with
        registers := regs, pc := m.pc + i.slotCount, steps := m.steps + 1, state := .running })

/-- An instruction is next only inside the program. -/
theorem pc_lt_of_next {m : Machine} {i : Instruction} (h : m.next = .ok i) :
    m.pc < m.program.size := by
  unfold next at h
  split at h
  · rename_i hs
    exact (Array.getElem?_eq_some_iff.mp hs).1
  · contradiction
  · contradiction

/-- A step that succeeds keeps the program and moves on in it. -/
theorem step_pc_lt {m m' : Machine} (h : m.step = (.ok (), m')) :
    m'.program.size - m'.pc < m.program.size - m.pc := by
  unfold step at h
  split at h
  · cases h
  · rename_i i hi
    have hpc := pc_lt_of_next hi
    split at h
    · cases h
    · cases h
      have : 0 < i.slotCount := by
        unfold Instruction.slotCount
        split <;> omega
      simp only
      omega

/-- Steps until a step fails; gives the fault and the machine after it. -/
def exhaust (m : Machine) : StepFault × Machine :=
  match h : m.step with
  | (.ok (), m') =>
    have := step_pc_lt h
    m'.exhaust
  | (.error e, m') => (e, m')
termination_by m.program.size - m.pc

theorem exhaust_of_step_ok {m m' : Machine} (h : m.step = (.ok (), m')) :
    m.exhaust = m'.exhaust := by
  rw [exhaust]
  split <;> simp_all

theorem exhaust_of_step_error {m m' : Machine} {e : StepFault} (h : m.step = (.error e, m')) :
    m.exhaust = (e, m') := by
  rw [exhaust]
  split <;> simp_all

/-- Runs to the end of the program and gives the number of instructions executed, or to the first
step that fails for another reason. -/
def run (m : Machine) : Except StepFault Nat × Machine :=
  match m.exhaust with
  | (.endOfProgram, m') => (.ok (m'.steps - m.steps), m')
  | (e, m') => (.error e, m')

end Machine
end Ebpf
