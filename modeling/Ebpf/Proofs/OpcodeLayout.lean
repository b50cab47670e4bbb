import Mathlib
import Ebpf.Opcode

/-!
# The layout of an opcode byte

What an opcode means is read off groups of its bits. Here each reading is said to be a number in
such a group, and the numbers of a load or store together make up the byte again.

* `OpClass.code`, `Source.code`, `AluOp.code`, `JumpOp.code`, `MemMode.code` and `MemSize.code` are
  the numbers; `AtomicOp.code` and `WideKind.code` are those in the immediate and the source field
  that an atomic operation and a wide load are found by.
* `Opcode.ofByte_eq_arithmetic_iff`, `Opcode.ofByte_eq_jump_iff` and `Opcode.ofByte_eq_memory_iff`:
  an opcode of a class is made of the readings that belong to the class.
* `Opcode.byte_eq_of_memory`: no two bytes are the same load or store in a defined mode.
-/

namespace Ebpf

/-! ## Numbers of the readings -/

/-- The low three bits of an opcode. -/
def OpClass.code : OpClass → Nat
  | .ld => 0
  | .ldx => 1
  | .st => 2
  | .stx => 3
  | .alu => 4
  | .jmp => 5
  | .jmp32 => 6
  | .alu64 => 7

/-- The bit between the operation and the class of arithmetic or a jump. -/
def Source.code : Source → Nat
  | .imm => 0
  | .reg => 1

/-- The high four bits of arithmetic. -/
def AluOp.code : AluOp → Nat
  | .binary .add => 0x0
  | .binary .sub => 0x1
  | .binary .mul => 0x2
  | .binary .div => 0x3
  | .binary .or => 0x4
  | .binary .and => 0x5
  | .binary .lsh => 0x6
  | .binary .rsh => 0x7
  | .neg => 0x8
  | .binary .mod => 0x9
  | .binary .xor => 0xa
  | .binary .mov => 0xb
  | .binary .arsh => 0xc
  | .swap => 0xd

/-- The high four bits of a jump. -/
def JumpOp.code : JumpOp → Nat
  | .always => 0x0
  | .compare .eq => 0x1
  | .compare .gt => 0x2
  | .compare .ge => 0x3
  | .compare .set => 0x4
  | .compare .ne => 0x5
  | .compare .sgt => 0x6
  | .compare .sge => 0x7
  | .call => 0x8
  | .exit => 0x9
  | .compare .lt => 0xa
  | .compare .le => 0xb
  | .compare .slt => 0xc
  | .compare .sle => 0xd

/-- The high three bits of a load or store. -/
def MemMode.code : MemMode → Nat
  | .imm => 0
  | .abs => 1
  | .ind => 2
  | .mem => 3
  | .memSx => 4
  | .atomic => 6

/-- The two bits between mode and class. -/
def MemSize.code : MemSize → Nat
  | .word => 0
  | .half => 1
  | .byte => 2
  | .double => 3

theorem OpClass.ofOpcode_eq_iff {b : Byte} {c : OpClass} :
    ofOpcode b = c ↔ b.toNat % 8 = c.code := by
  have hlt : b.toNat % 8 < 8 := Nat.mod_lt _ (by decide)
  unfold ofOpcode
  generalize b.toNat % 8 = n at *
  interval_cases n <;> cases c <;> simp [code]

theorem Source.ofOpcode_eq_iff {b : Byte} {source : Source} :
    ofOpcode b = source ↔ b.toNat / 8 % 2 = source.code := by
  have hlt : b.toNat / 8 % 2 < 2 := Nat.mod_lt _ (by decide)
  unfold ofOpcode
  generalize b.toNat / 8 % 2 = n at *
  interval_cases n <;> cases source <;> simp [code]

/-- No byte has more than four bits above the low four. -/
theorem toNat_div_sixteen_lt (b : Byte) : b.toNat / 16 < 16 := by
  have := b.isLt
  omega

theorem AluOp.ofOpcode?_eq_some_iff {b : Byte} {op : AluOp} :
    ofOpcode? b = some op ↔ b.toNat / 16 = op.code := by
  unfold ofOpcode?
  generalize b.toNat / 16 = n
  constructor
  · intro h
    split at h <;> cases h <;> rfl
  · rintro rfl
    cases op with
    | binary op => cases op <;> rfl
    | neg | swap => rfl

/-- The two highest codes of arithmetic are free. -/
theorem AluOp.ofOpcode?_eq_none_iff {b : Byte} : ofOpcode? b = none ↔ 0xe ≤ b.toNat / 16 := by
  have hlt := toNat_div_sixteen_lt b
  unfold ofOpcode?
  generalize b.toNat / 16 = n at *
  interval_cases n <;> simp

theorem JumpOp.ofOpcode?_eq_some_iff {b : Byte} {op : JumpOp} :
    ofOpcode? b = some op ↔ b.toNat / 16 = op.code := by
  unfold ofOpcode?
  generalize b.toNat / 16 = n
  constructor
  · intro h
    split at h <;> cases h <;> rfl
  · rintro rfl
    cases op with
    | compare c => cases c <;> rfl
    | always | call | exit => rfl

/-- The two highest codes of a jump are free. -/
theorem JumpOp.ofOpcode?_eq_none_iff {b : Byte} : ofOpcode? b = none ↔ 0xe ≤ b.toNat / 16 := by
  have hlt := toNat_div_sixteen_lt b
  unfold ofOpcode?
  generalize b.toNat / 16 = n at *
  interval_cases n <;> simp

theorem MemMode.ofOpcode?_eq_some_iff {b : Byte} {mode : MemMode} :
    ofOpcode? b = some mode ↔ b.toNat / 32 = mode.code := by
  have hlt : b.toNat / 32 < 8 := by
    have := b.isLt
    omega
  unfold ofOpcode?
  generalize b.toNat / 32 = n at *
  interval_cases n <;> cases mode <;> simp [code]

/-- Two of the eight modes are free. -/
theorem MemMode.ofOpcode?_eq_none_iff {b : Byte} :
    ofOpcode? b = none ↔ b.toNat / 32 = 5 ∨ b.toNat / 32 = 7 := by
  have hlt : b.toNat / 32 < 8 := by
    have := b.isLt
    omega
  unfold ofOpcode?
  generalize b.toNat / 32 = n at *
  interval_cases n <;> simp

theorem MemSize.ofOpcode_eq_iff {b : Byte} {size : MemSize} :
    ofOpcode b = size ↔ b.toNat / 8 % 4 = size.code := by
  have hlt : b.toNat / 8 % 4 < 4 := Nat.mod_lt _ (by decide)
  unfold ofOpcode
  generalize b.toNat / 8 % 4 = n at *
  interval_cases n <;> cases size <;> simp [code]

/-- The immediate of an atomic operation, without the lowest bit. -/
def AtomicOp.code : AtomicOp → Nat
  | .update .add => 0x00
  | .update .or => 0x40
  | .update .and => 0x50
  | .update .xor => 0xa0
  | .exchange => 0xe0
  | .compareExchange => 0xf0

theorem AtomicOp.ofImm?_eq_some_iff {imm : BitVec 32} {op : AtomicOp} :
    ofImm? imm = some op ↔ imm.toNat / 2 * 2 = op.code := by
  unfold ofImm?
  generalize imm.toNat / 2 * 2 = named
  constructor
  · intro h
    split at h <;> cases h <;> rfl
  · rintro rfl
    cases op with
    | update u => cases u <;> rfl
    | exchange | compareExchange => rfl

/-- The source field that selects the meaning of a wide immediate. -/
def WideKind.code : WideKind → Nat
  | .value => 0
  | .mapByFd => 1
  | .mapValueByFd => 2
  | .variableAddr => 3
  | .codeAddr => 4
  | .mapByIndex => 5
  | .mapValueByIndex => 6

theorem WideKind.ofNat?_eq_some_iff {n : Nat} {kind : WideKind} :
    ofNat? n = some kind ↔ n = kind.code := by
  constructor
  · intro h
    unfold ofNat? at h
    split at h <;> cases h <;> rfl
  · rintro rfl
    cases kind <;> rfl

/-! ## Opcodes by class -/

theorem OpClass.isMemory_iff {c : OpClass} :
    c.isMemory = true ↔ ∃ kind : MemClass, c = kind.opClass := by
  constructor
  · intro h
    cases c with
    | ld => exact ⟨.ld, rfl⟩
    | ldx => exact ⟨.ldx, rfl⟩
    | st => exact ⟨.st, rfl⟩
    | stx => exact ⟨.stx, rfl⟩
    | alu | jmp | jmp32 | alu64 => cases h
  · rintro ⟨kind, rfl⟩
    cases kind <;> rfl

namespace Opcode

/-- Reading an opcode keeps its class. -/
theorem opClass_ofByte (b : Byte) : (ofByte b).opClass = OpClass.ofOpcode b := by
  unfold ofByte
  cases OpClass.ofOpcode b <;> rfl

/-- An opcode loads or stores exactly if its class does, and then mode and size are those in its
upper bits. -/
theorem ofByte_eq_memory_iff {b : Byte} {kind : MemClass} {mode : Option MemMode}
    {size : MemSize} :
    ofByte b = .memory kind mode size ↔
      OpClass.ofOpcode b = kind.opClass ∧ MemMode.ofOpcode? b = mode ∧
        MemSize.ofOpcode b = size := by
  unfold ofByte
  cases OpClass.ofOpcode b <;> cases kind <;> simp [MemClass.opClass]

/-- The class of arithmetic on numbers of a width. -/
def arithmeticClass : Width → OpClass
  | .w32 => .alu
  | .w64 => .alu64

/-- An opcode is arithmetic exactly if its class is, and then the source and the operation are those
in its upper bits. -/
theorem ofByte_eq_arithmetic_iff {b : Byte} {width : Width} {source : Source} {op : Option AluOp} :
    ofByte b = .arithmetic width source op ↔
      OpClass.ofOpcode b = arithmeticClass width ∧ Source.ofOpcode b = source ∧
        AluOp.ofOpcode? b = op := by
  unfold ofByte
  cases OpClass.ofOpcode b <;> cases width <;> simp [arithmeticClass]

/-- The class of a jump that compares numbers of a width. -/
def jumpClass : Width → OpClass
  | .w32 => .jmp32
  | .w64 => .jmp

theorem isJump_iff {c : OpClass} : c.isJump = true ↔ ∃ width, c = jumpClass width := by
  constructor
  · intro h
    cases c with
    | jmp => exact ⟨.w64, rfl⟩
    | jmp32 => exact ⟨.w32, rfl⟩
    | ld | ldx | st | stx | alu | alu64 => cases h
  · rintro ⟨width, rfl⟩
    cases width <;> rfl

/-- An opcode jumps exactly if its class does, and then the source and the operation are those in
its upper bits. -/
theorem ofByte_eq_jump_iff {b : Byte} {width : Width} {source : Source} {op : Option JumpOp} :
    ofByte b = .jump width source op ↔
      OpClass.ofOpcode b = jumpClass width ∧ Source.ofOpcode b = source ∧
        JumpOp.ofOpcode? b = op := by
  unfold ofByte
  cases OpClass.ofOpcode b <;> cases width <;> simp [jumpClass]

/-- Class, mode and size are all there is to the byte of a load or store. -/
theorem byte_eq_of_memory {b b' : Byte} {kind : MemClass} {mode : MemMode} {size : MemSize}
    (h : ofByte b = .memory kind (some mode) size)
    (h' : ofByte b' = .memory kind (some mode) size) : b = b' := by
  simp only [ofByte_eq_memory_iff, OpClass.ofOpcode_eq_iff, MemMode.ofOpcode?_eq_some_iff,
    MemSize.ofOpcode_eq_iff] at h h'
  exact BitVec.eq_of_toNat_eq (by omega)

end Opcode
end Ebpf
