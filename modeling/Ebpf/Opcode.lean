import Ebpf.Word

/-!
# Opcodes

The opcode byte says what an instruction does. Its low three bits are the class; what the other
five mean depends on it:

```text
                    7 6 5 4    3        2 1 0
  arithmetic, jump  operation  source   class
                    7 6 5      4 3      2 1 0
  load, store       mode       size     class
```

Every reading of the byte (`AluOp.ofOpcode?`, `MemMode.ofOpcode?`, ...) is defined for all 256
bytes, whatever their class; `Opcode.ofByte` picks the readings that belong to the class.
-/

namespace Ebpf

/-- The width of an operation. -/
inductive Width where
  | w32
  | w64
  deriving DecidableEq, Repr

/-- The number of bits. -/
def Width.bits : Width → Nat
  | .w32 => 32
  | .w64 => 64

/-! ## Classes -/

/-- The class of an opcode, its low three bits. -/
inductive OpClass where
  /-- Load of a 64-bit immediate, or legacy packet access. -/
  | ld
  /-- Load from memory to a register. -/
  | ldx
  /-- Store of an immediate. -/
  | st
  /-- Store of a register. -/
  | stx
  /-- Arithmetic on 32 bits. -/
  | alu
  /-- Jump that compares 64 bits. -/
  | jmp
  /-- Jump that compares 32 bits. -/
  | jmp32
  /-- Arithmetic on 64 bits. -/
  | alu64
  deriving DecidableEq, Repr

namespace OpClass

/-- The class of an opcode byte. -/
def ofOpcode (b : Byte) : OpClass :=
  match b.toNat % 8 with
  | 0 => .ld
  | 1 => .ldx
  | 2 => .st
  | 3 => .stx
  | 4 => .alu
  | 5 => .jmp
  | 6 => .jmp32
  | _ => .alu64

/-- The mnemonic of a class. -/
def name : OpClass → String
  | .ld => "ld"
  | .ldx => "ldx"
  | .st => "st"
  | .stx => "stx"
  | .alu => "alu"
  | .jmp => "jmp"
  | .jmp32 => "jmp32"
  | .alu64 => "alu64"

/-- Whether the class is arithmetic. -/
def isArithmetic : OpClass → Bool
  | .alu | .alu64 => true
  | _ => false

/-- Whether the class is a jump. -/
def isJump : OpClass → Bool
  | .jmp | .jmp32 => true
  | _ => false

/-- Whether the class loads or stores. -/
def isMemory : OpClass → Bool
  | .ld | .ldx | .st | .stx => true
  | _ => false

end OpClass

/-! ## Arithmetic and jumps -/

/-- Where the second operand of an arithmetic operation or a jump comes from. -/
inductive Source where
  /-- The immediate field. -/
  | imm
  /-- The register that the source field names. -/
  | reg
  deriving DecidableEq, Repr

/-- The source bit of an opcode byte. -/
def Source.ofOpcode (b : Byte) : Source :=
  if b.toNat / 8 % 2 = 0 then .imm else .reg

/-- An arithmetic operation with two operands, the first of which is replaced by the result. -/
inductive BinaryOp where
  | add
  | sub
  | mul
  | div
  | or
  | and
  | lsh
  | rsh
  | mod
  | xor
  | mov
  | arsh
  deriving DecidableEq, Repr

namespace BinaryOp

/-- The mnemonic of an operation. -/
def name : BinaryOp → String
  | .add => "add"
  | .sub => "sub"
  | .mul => "mul"
  | .div => "div"
  | .or => "or"
  | .and => "and"
  | .lsh => "lsh"
  | .rsh => "rsh"
  | .mod => "mod"
  | .xor => "xor"
  | .mov => "mov"
  | .arsh => "arsh"

/-- What stands before the equals sign of an assignment; a move has nothing there. -/
def symbol : BinaryOp → String
  | .add => "+"
  | .sub => "-"
  | .mul => "*"
  | .div => "/"
  | .or => "|"
  | .and => "&"
  | .lsh => "<<"
  | .rsh => ">>"
  | .mod => "%"
  | .xor => "^"
  | .mov => ""
  | .arsh => "s>>"

/-- Whether the second operand is a shift amount. -/
def isShift : BinaryOp → Bool
  | .lsh | .rsh | .arsh => true
  | _ => false

end BinaryOp

/-- An arithmetic operation. -/
inductive AluOp where
  /-- An operation on two operands. -/
  | binary (op : BinaryOp)
  /-- Negation. -/
  | neg
  /-- Conversion of byte order. -/
  | swap
  deriving DecidableEq, Repr

namespace AluOp

/-- The operation in the high four bits of an opcode byte; two of the sixteen codes are free. -/
def ofOpcode? (b : Byte) : Option AluOp :=
  match b.toNat / 16 with
  | 0x0 => some (.binary .add)
  | 0x1 => some (.binary .sub)
  | 0x2 => some (.binary .mul)
  | 0x3 => some (.binary .div)
  | 0x4 => some (.binary .or)
  | 0x5 => some (.binary .and)
  | 0x6 => some (.binary .lsh)
  | 0x7 => some (.binary .rsh)
  | 0x8 => some .neg
  | 0x9 => some (.binary .mod)
  | 0xa => some (.binary .xor)
  | 0xb => some (.binary .mov)
  | 0xc => some (.binary .arsh)
  | 0xd => some .swap
  | _ => none

/-- The mnemonic of an operation. -/
def name : AluOp → String
  | .binary op => op.name
  | .neg => "neg"
  | .swap => "end"

/-- The assignment operator of an operation with two operands. -/
def symbol? : AluOp → Option String
  | .binary op => some op.symbol
  | _ => none

/-- Whether the operation shifts. -/
def isShift : AluOp → Bool
  | .binary op => op.isShift
  | _ => false

end AluOp

/-- A condition of a jump. -/
inductive Comparison where
  | eq
  | gt
  | ge
  /-- Some bit is set in both operands. -/
  | set
  | ne
  | sgt
  | sge
  | lt
  | le
  | slt
  | sle
  deriving DecidableEq, Repr

namespace Comparison

/-- The mnemonic of a condition. -/
def name : Comparison → String
  | .eq => "jeq"
  | .gt => "jgt"
  | .ge => "jge"
  | .set => "jset"
  | .ne => "jne"
  | .sgt => "jsgt"
  | .sge => "jsge"
  | .lt => "jlt"
  | .le => "jle"
  | .slt => "jslt"
  | .sle => "jsle"

/-- The operator of a condition; signed comparisons are marked. -/
def symbol : Comparison → String
  | .eq => "=="
  | .gt => ">"
  | .ge => ">="
  | .set => "&"
  | .ne => "!="
  | .sgt => "s>"
  | .sge => "s>="
  | .lt => "<"
  | .le => "<="
  | .slt => "s<"
  | .sle => "s<="

end Comparison

/-- A jump operation. -/
inductive JumpOp where
  /-- Jump always. -/
  | always
  /-- Jump if a condition holds. -/
  | compare (c : Comparison)
  /-- Call of a function. -/
  | call
  /-- Return from a function. -/
  | exit
  deriving DecidableEq, Repr

namespace JumpOp

/-- The operation in the high four bits of an opcode byte; two of the sixteen codes are free. -/
def ofOpcode? (b : Byte) : Option JumpOp :=
  match b.toNat / 16 with
  | 0x0 => some .always
  | 0x1 => some (.compare .eq)
  | 0x2 => some (.compare .gt)
  | 0x3 => some (.compare .ge)
  | 0x4 => some (.compare .set)
  | 0x5 => some (.compare .ne)
  | 0x6 => some (.compare .sgt)
  | 0x7 => some (.compare .sge)
  | 0x8 => some .call
  | 0x9 => some .exit
  | 0xa => some (.compare .lt)
  | 0xb => some (.compare .le)
  | 0xc => some (.compare .slt)
  | 0xd => some (.compare .sle)
  | _ => none

/-- The mnemonic of an operation. -/
def name : JumpOp → String
  | .always => "ja"
  | .compare c => c.name
  | .call => "call"
  | .exit => "exit"

/-- The operator of a conditional jump. -/
def symbol? : JumpOp → Option String
  | .compare c => some c.symbol
  | _ => none

end JumpOp

/-! ## Memory -/

/-- A class that loads or stores. -/
inductive MemClass where
  | ld
  | ldx
  | st
  | stx
  deriving DecidableEq, Repr

/-- The class among all classes. -/
def MemClass.opClass : MemClass → OpClass
  | .ld => .ld
  | .ldx => .ldx
  | .st => .st
  | .stx => .stx

/-- How a load or store finds its operand. -/
inductive MemMode where
  /-- The operand is a 64-bit immediate, half of it in a second word. -/
  | imm
  /-- Legacy packet access at a fixed place. -/
  | abs
  /-- Legacy packet access relative to a register. -/
  | ind
  /-- Memory at a register plus an offset. -/
  | mem
  /-- The same, the loaded value extended with its sign. -/
  | memSx
  /-- Atomic update of memory. -/
  | atomic
  deriving DecidableEq, Repr

/-- The mode in the high three bits of an opcode byte; two of the eight codes are free. -/
def MemMode.ofOpcode? (b : Byte) : Option MemMode :=
  match b.toNat / 32 with
  | 0 => some .imm
  | 1 => some .abs
  | 2 => some .ind
  | 3 => some .mem
  | 4 => some .memSx
  | 6 => some .atomic
  | _ => none

/-- The size of a memory operand. -/
inductive MemSize where
  | byte
  | half
  | word
  | double
  deriving DecidableEq, Repr

namespace MemSize

/-- The size bits of an opcode byte. -/
def ofOpcode (b : Byte) : MemSize :=
  match b.toNat / 8 % 4 with
  | 0 => .word
  | 1 => .half
  | 2 => .byte
  | _ => .double

/-- The number of bits, in digits. -/
def digits : MemSize → String
  | .byte => "8"
  | .half => "16"
  | .word => "32"
  | .double => "64"

/-- The type of an unsigned operand. -/
def name (s : MemSize) : String := "u" ++ s.digits

/-- The type of a signed operand. -/
def signedName (s : MemSize) : String := "s" ++ s.digits

end MemSize

/-- An atomic operation that combines memory with a register. -/
inductive AtomicUpdate where
  | add
  | or
  | and
  | xor
  deriving DecidableEq, Repr

namespace AtomicUpdate

/-- The mnemonic of an update. -/
def name : AtomicUpdate → String
  | .add => "add"
  | .or => "or"
  | .and => "and"
  | .xor => "xor"

/-- What stands before the equals sign of an update. -/
def symbol : AtomicUpdate → String
  | .add => "+"
  | .or => "|"
  | .and => "&"
  | .xor => "^"

end AtomicUpdate

/-- An atomic operation. -/
inductive AtomicOp where
  /-- Combine memory with a register. -/
  | update (op : AtomicUpdate)
  /-- Exchange memory and a register. -/
  | exchange
  /-- Exchange if memory holds an expected value. -/
  | compareExchange
  deriving DecidableEq, Repr

namespace AtomicOp

/-- The operation that an immediate names; its lowest bit is not part of the name. -/
def ofImm? (imm : BitVec 32) : Option AtomicOp :=
  match imm.toNat / 2 * 2 with
  | 0x00 => some (.update .add)
  | 0x40 => some (.update .or)
  | 0x50 => some (.update .and)
  | 0xa0 => some (.update .xor)
  | 0xe0 => some .exchange
  | 0xf0 => some .compareExchange
  | _ => none

/-- Whether the old value of the memory is wanted: the lowest bit of the immediate. -/
def fetches (imm : BitVec 32) : Bool := imm.toNat % 2 = 1

/-- The mnemonic of an operation. -/
def name : AtomicOp → String
  | .update op => op.name
  | .exchange => "xchg"
  | .compareExchange => "cmpxchg"

/-- The assignment operator of an update. -/
def symbol? : AtomicOp → Option String
  | .update op => some op.symbol
  | _ => none

end AtomicOp

/-- What the immediate of a wide load stands for. -/
inductive WideKind where
  /-- The value itself. -/
  | value
  /-- A map, by file descriptor. -/
  | mapByFd
  /-- An address in the value of a map given by file descriptor. -/
  | mapValueByFd
  /-- The address of a variable. -/
  | variableAddr
  /-- The address of an instruction. -/
  | codeAddr
  /-- A map, by index. -/
  | mapByIndex
  /-- An address in the value of a map given by index. -/
  | mapValueByIndex
  deriving DecidableEq, Repr

/-- The meaning that a source field selects. -/
def WideKind.ofNat? : Nat → Option WideKind
  | 0 => some .value
  | 1 => some .mapByFd
  | 2 => some .mapValueByFd
  | 3 => some .variableAddr
  | 4 => some .codeAddr
  | 5 => some .mapByIndex
  | 6 => some .mapValueByIndex
  | _ => none

/-! ## The opcode as a whole -/

/-- An opcode byte, read by its class. -/
inductive Opcode where
  /-- Arithmetic; an undefined operation has none. -/
  | arithmetic (width : Width) (source : Source) (op : Option AluOp)
  /-- A jump; an undefined operation has none. -/
  | jump (width : Width) (source : Source) (op : Option JumpOp)
  /-- A load or store; an undefined mode has none. -/
  | memory (kind : MemClass) (mode : Option MemMode) (size : MemSize)
  deriving DecidableEq, Repr

namespace Opcode

/-- Reads an opcode byte by its class. -/
def ofByte (b : Byte) : Opcode :=
  match OpClass.ofOpcode b with
  | .ld => .memory .ld (MemMode.ofOpcode? b) (MemSize.ofOpcode b)
  | .ldx => .memory .ldx (MemMode.ofOpcode? b) (MemSize.ofOpcode b)
  | .st => .memory .st (MemMode.ofOpcode? b) (MemSize.ofOpcode b)
  | .stx => .memory .stx (MemMode.ofOpcode? b) (MemSize.ofOpcode b)
  | .alu => .arithmetic .w32 (Source.ofOpcode b) (AluOp.ofOpcode? b)
  | .jmp => .jump .w64 (Source.ofOpcode b) (JumpOp.ofOpcode? b)
  | .jmp32 => .jump .w32 (Source.ofOpcode b) (JumpOp.ofOpcode? b)
  | .alu64 => .arithmetic .w64 (Source.ofOpcode b) (AluOp.ofOpcode? b)

/-- The class of an opcode. -/
def opClass : Opcode → OpClass
  | .arithmetic .w32 _ _ => .alu
  | .arithmetic .w64 _ _ => .alu64
  | .jump .w32 _ _ => .jmp32
  | .jump .w64 _ _ => .jmp
  | .memory kind _ _ => kind.opClass

/-- Whether an instruction with this opcode goes on in a second word: exactly the loads and stores
in immediate mode do. -/
def isWide : Opcode → Bool
  | .memory _ (some .imm) _ => true
  | _ => false

end Opcode

/-- Whether a word starts an instruction of two words. -/
def Word.isWide (w : Word) : Bool := (Opcode.ofByte w.opcode).isWide

end Ebpf
