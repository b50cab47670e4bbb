import Ebpf.Opcode
import Ebpf.Register

/-!
# Statements

A disassembled instruction is a statement in a small language of assignments, jumps and memory
accesses. `Statement.render` is its text:

```text
  r1 += 5            r2 <<= (r3 & 63)      r4 = ~r5
  goto +3            if r1 s>= -1 goto -2  call 14
  r1 = 7 ll          r1 = map_by_fd(3)     exit
  r1 = *(u8 *)(r2 + 4)
  *(u64 *)(r10 - 8) = r1
  *(u32 *)(r1 + 0) += r2
```

Registers are printed by number, also those that the machine does not have.
-/

namespace Ebpf

/-- The second operand of an assignment or comparison. -/
inductive Operand where
  /-- A number. -/
  | number (k : Int)
  /-- The content of a register. -/
  | register (r : BitVec 4)
  /-- The content of a register and a mask, bit by bit. -/
  | maskedRegister (r : BitVec 4) (mask : Nat)
  deriving DecidableEq, Repr

/-- A place in memory: a register plus an offset. -/
structure Address where
  /-- The register. -/
  base : BitVec 4
  /-- The offset. -/
  offset : Int
  deriving DecidableEq, Repr

/-- The value that a wide load puts into its register. -/
inductive WideValue where
  /-- A number. -/
  | number (k : Int)
  /-- A map, by file descriptor. -/
  | mapByFd (fd : Int)
  /-- An address in the value of a map given by file descriptor. -/
  | mapValueByFd (fd offset : Int)
  /-- The address of a variable. -/
  | variableAddr (id : Int)
  /-- The address of an instruction. -/
  | codeAddr (id : Int)
  /-- A map, by index. -/
  | mapByIndex (index : Int)
  /-- An address in the value of a map given by index. -/
  | mapValueByIndex (index offset : Int)
  deriving DecidableEq, Repr

/-- A disassembled instruction. -/
inductive Statement where
  /-- Combine a register with an operand. -/
  | assign (dst : BitVec 4) (op : BinaryOp) (value : Operand)
  /-- Put the complement of one register into another. -/
  | complement (dst src : BitVec 4)
  /-- Jump by a distance. -/
  | goto (distance : Int)
  /-- Jump by a distance if a register compares to an operand. -/
  | branch (dst : BitVec 4) (condition : Comparison) (value : Operand) (distance : Int)
  /-- Call a helper by number. -/
  | callHelper (id : Int)
  /-- Call a function of the program at a distance. -/
  | callLocal (distance : Int)
  /-- Return. -/
  | exit
  /-- Put a wide value into a register. -/
  | loadWide (dst : BitVec 4) (value : WideValue)
  /-- Load from memory. -/
  | load (dst : BitVec 4) (size : MemSize) (source : Address)
  /-- Load from memory and extend the sign. -/
  | loadSigned (dst : BitVec 4) (size : MemSize) (source : Address)
  /-- Store to memory. -/
  | store (size : MemSize) (target : Address) (value : Operand)
  /-- Combine memory with a register, atomically. -/
  | update (size : MemSize) (target : Address) (op : AtomicUpdate) (src : BitVec 4)
  deriving DecidableEq, Repr

/-- The name that a register field is printed by. -/
def fieldRegister (r : BitVec 4) : String := registerName r.toNat

/-- The text of an operand. -/
def Operand.render : Operand → String
  | .number k => Text.integer k
  | .register r => fieldRegister r
  | .maskedRegister r mask => "(" ++ fieldRegister r ++ " & " ++ Text.natural mask ++ ")"

/-- The text of an address: the sign of the offset stands between its two parts. -/
def Address.render (a : Address) : String :=
  "(" ++ fieldRegister a.base ++ (if a.offset < 0 then " - " else " + ") ++
    Text.natural a.offset.natAbs ++ ")"

/-- The text of a memory operand of a type. -/
def Address.renderAs (type : String) (a : Address) : String :=
  "*(" ++ type ++ " *)" ++ a.render

/-- The text of a wide value. -/
def WideValue.render : WideValue → String
  | .number k => Text.integer k ++ " ll"
  | .mapByFd fd => "map_by_fd(" ++ Text.integer fd ++ ")"
  | .mapValueByFd fd offset =>
    "map_val(map_by_fd(" ++ Text.integer fd ++ ")) + " ++ Text.integer offset
  | .variableAddr id => "var_addr(" ++ Text.integer id ++ ")"
  | .codeAddr id => "code_addr(" ++ Text.integer id ++ ")"
  | .mapByIndex index => "map_by_idx(" ++ Text.integer index ++ ")"
  | .mapValueByIndex index offset =>
    "map_val(map_by_idx(" ++ Text.integer index ++ ")) + " ++ Text.integer offset

/-- The text of a statement. -/
def Statement.render : Statement → String
  | .assign dst op value => fieldRegister dst ++ " " ++ op.symbol ++ "= " ++ value.render
  | .complement dst src => fieldRegister dst ++ " = ~" ++ fieldRegister src
  | .goto distance => "goto " ++ Text.signed distance
  | .branch dst condition value distance =>
    "if " ++ fieldRegister dst ++ " " ++ condition.symbol ++ " " ++ value.render ++ " goto " ++
      Text.signed distance
  | .callHelper id => "call " ++ Text.integer id
  | .callLocal distance => "call " ++ Text.signed distance
  | .exit => "exit"
  | .loadWide dst value => fieldRegister dst ++ " = " ++ value.render
  | .load dst size source => fieldRegister dst ++ " = " ++ source.renderAs size.name
  | .loadSigned dst size source => fieldRegister dst ++ " = " ++ source.renderAs size.signedName
  | .store size target value => target.renderAs size.name ++ " = " ++ value.render
  | .update size target op src =>
    target.renderAs size.name ++ " " ++ op.symbol ++ "= " ++ fieldRegister src

end Ebpf
