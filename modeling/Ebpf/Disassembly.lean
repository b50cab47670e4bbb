import Ebpf.Instruction
import Ebpf.Statement

/-!
# Disassembly

`Instruction.statement` says what an instruction does, as a statement, and `Instruction.disassemble`
gives the text of that statement. Two things can stand in the way:

* the encoding is defined but has no text here (`Unsupported`); a listing may go on after it;
* the encoding is not defined (`Undefined`).
-/

namespace Ebpf

/-- A defined encoding that has no text. -/
inductive Unsupported where
  | absolutePacketAccess
  | indirectPacketAccess
  | byteSwap
  | atomicExchange
  | atomicCompareExchange
  | atomicFetch (op : AtomicUpdate)
  deriving DecidableEq, Repr

/-- The description of an encoding that has no text. -/
def Unsupported.description : Unsupported → String
  | .absolutePacketAccess => "legacy BPF packet access (absolute)"
  | .indirectPacketAccess => "legacy BPF packet access (indirect)"
  | .byteSwap => "byte swap"
  | .atomicExchange => "atomic exchange"
  | .atomicCompareExchange => "atomic compare and exchange"
  | .atomicFetch op => "atomic fetch-and-" ++ op.name

/-- An encoding that is not defined. -/
inductive Undefined where
  | arithmeticOp
  | jumpOp
  | callOrExitIn32Bit
  | callKind
  | memoryMode
  | wideKind
  /-- A wide load of one word; by `Instruction.isSome_extension` there is none. -/
  | noExtension
  | memoryModeOfClass
  | signedModeOfClass
  | atomicSize
  | atomicOp
  | atomicClass
  deriving DecidableEq, Repr

/-- The description of an encoding that is not defined. -/
def Undefined.description : Undefined → String
  | .arithmeticOp => "undefined arithmetic operation"
  | .jumpOp => "undefined jump operation"
  | .callOrExitIn32Bit => "call and exit are JMP only"
  | .callKind => "undefined call kind"
  | .memoryMode => "undefined memory mode"
  | .wideKind => "undefined immediate source"
  | .noExtension => "64-bit immediate load without extension word"
  | .memoryModeOfClass => "memory mode outside load/store classes"
  | .signedModeOfClass => "sign-extending mode outside LDX"
  | .atomicSize => "atomic operation on byte or half word"
  | .atomicOp => "undefined atomic operation"
  | .atomicClass => "atomic mode outside STX"

/-- Why an instruction has no text. -/
inductive RenderFault where
  /-- The encoding is defined and has no text. -/
  | unsupported (encoding : Unsupported)
  /-- The encoding is not defined. -/
  | undefined (word : Word) (encoding : Undefined)
  deriving DecidableEq, Repr

namespace RenderFault

/-- Whether a listing may go on after the fault. -/
def isRecoverable : RenderFault → Bool
  | .unsupported _ => true
  | .undefined _ _ => false

/-- What is reported for an instruction without text. -/
def message : RenderFault → String
  | .unsupported encoding => "unsupported encoding: " ++ encoding.description
  | .undefined w encoding =>
    "invalid opcode " ++ opcodeText w.opcode ++ " in 0x" ++ w.hex ++ ": " ++ encoding.description

end RenderFault

namespace Instruction

/-- Refuses an instruction whose encoding is not defined. -/
def invalid (i : Instruction) (encoding : Undefined) : Except RenderFault Statement :=
  .error (.undefined i.basic encoding)

/-- The second operand that the source bit selects. -/
def operand (i : Instruction) : Source → Operand
  | .imm => .number i.imm.toInt
  | .reg => .register i.src

/-- The amount of a shift: only as many low bits count as a bit position needs. -/
def shiftAmount (i : Instruction) (width : Width) : Source → Operand
  | .imm => .number (i.imm.toNat % width.bits : Nat)
  | .reg => .maskedRegister i.src (width.bits - 1)

/-- The statement of an operation on two operands. Division and remainder look at the source
field, not at the operand: with a zero there they show the outcome of dividing by zero. -/
def binaryStatement (i : Instruction) (width : Width) (source : Source) (op : BinaryOp) :
    Statement :=
  if op = .div ∧ i.src = 0 then .assign i.dst .mov (.number 0)
  else if op = .mod ∧ i.src = 0 then .assign i.dst .mov (.register i.dst)
  else if op.isShift then .assign i.dst op (i.shiftAmount width source)
  else .assign i.dst op (i.operand source)

/-- The statement of an arithmetic instruction. -/
def arithmeticStatement (i : Instruction) (width : Width) (source : Source) :
    Option AluOp → Except RenderFault Statement
  | none => i.invalid .arithmeticOp
  | some (.binary op) => .ok (i.binaryStatement width source op)
  | some .neg => .ok (.complement i.dst i.src)
  | some .swap => .error (.unsupported .byteSwap)

/-- The statement of a call; the source field tells the kinds of calls apart. -/
def callStatement (i : Instruction) : Except RenderFault Statement :=
  match i.src.toNat with
  | 0 | 2 => .ok (.callHelper i.imm.toInt)
  | 1 => .ok (.callLocal i.offset.toInt)
  | _ => i.invalid .callKind

/-- The statement of a jump. -/
def jumpStatement (i : Instruction) (width : Width) (source : Source) :
    Option JumpOp → Except RenderFault Statement
  | none => i.invalid .jumpOp
  | some .always => .ok (.goto i.offset.toInt)
  | some (.compare c) => .ok (.branch i.dst c (i.operand source) i.offset.toInt)
  | some .call =>
    match width with
    | .w32 => i.invalid .callOrExitIn32Bit
    | .w64 => i.callStatement
  | some .exit =>
    match width with
    | .w32 => i.invalid .callOrExitIn32Bit
    | .w64 => .ok .exit

/-- The value of a wide load with both halves of its immediate. -/
def wideValue (low high : BitVec 32) : WideKind → WideValue
  | .value => .number (high ++ low).toInt
  | .mapByFd => .mapByFd low.toInt
  | .mapValueByFd => .mapValueByFd low.toInt high.toInt
  | .variableAddr => .variableAddr low.toInt
  | .codeAddr => .codeAddr low.toInt
  | .mapByIndex => .mapByIndex low.toInt
  | .mapValueByIndex => .mapValueByIndex low.toInt high.toInt

/-- The statement of a wide load. -/
def wideStatement (i : Instruction) : Except RenderFault Statement :=
  match i.highImm?, i.wideKind? with
  | none, _ => i.invalid .noExtension
  | some _, none => i.invalid .wideKind
  | some high, some source => .ok (.loadWide i.dst (wideValue i.imm high source))

/-- The place in memory that a register field and the offset field name. -/
def address (i : Instruction) (base : BitVec 4) : Address := ⟨base, i.offset.toInt⟩

/-- The statement of a plain load or store. -/
def memoryStatement (i : Instruction) (size : MemSize) :
    MemClass → Except RenderFault Statement
  | .stx => .ok (.store size (i.address i.dst) (.register i.src))
  | .st => .ok (.store size (i.address i.dst) (.number i.imm.toInt))
  | .ldx => .ok (.load i.dst size (i.address i.src))
  | .ld => i.invalid .memoryModeOfClass

/-- The statement of a load that extends the sign. -/
def signedStatement (i : Instruction) (size : MemSize) :
    MemClass → Except RenderFault Statement
  | .ldx => .ok (.loadSigned i.dst size (i.address i.src))
  | _ => i.invalid .signedModeOfClass

/-- The statement of an atomic operation. The size is checked first, then the operation, then the
class. -/
def atomicStatement (i : Instruction) (kind : MemClass) (size : MemSize) :
    Except RenderFault Statement :=
  if size = .byte ∨ size = .half then i.invalid .atomicSize
  else match AtomicOp.ofImm? i.imm with
    | none => i.invalid .atomicOp
    | some op =>
      if kind ≠ .stx then i.invalid .atomicClass
      else match op with
        | .exchange => .error (.unsupported .atomicExchange)
        | .compareExchange => .error (.unsupported .atomicCompareExchange)
        | .update u =>
          if AtomicOp.fetches i.imm then .error (.unsupported (.atomicFetch u))
          else .ok (.update size (i.address i.dst) u i.src)

/-- What an instruction does, as a statement. -/
def statement (i : Instruction) : Except RenderFault Statement :=
  match i.opcode with
  | .arithmetic width source op => i.arithmeticStatement width source op
  | .jump width source op => i.jumpStatement width source op
  | .memory _ none _ => i.invalid .memoryMode
  | .memory _ (some .imm) _ => i.wideStatement
  | .memory _ (some .abs) _ => .error (.unsupported .absolutePacketAccess)
  | .memory _ (some .ind) _ => .error (.unsupported .indirectPacketAccess)
  | .memory kind (some .mem) size => i.memoryStatement size kind
  | .memory kind (some .memSx) size => i.signedStatement size kind
  | .memory kind (some .atomic) size => i.atomicStatement kind size

/-- The text of an instruction. -/
def disassemble (i : Instruction) : Except RenderFault String :=
  i.statement.map Statement.render

end Instruction
end Ebpf
