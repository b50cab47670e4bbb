import Mathlib
import Ebpf.Proofs.OpcodeLayout
import Ebpf.Proofs.Program.Blocks
import Ebpf.Proofs.Statement.Reading

/-!
# The text of a load or store identifies it

Two loads or stores have the same text exactly if they do the same: the fields that their mode and
class use agree, and the other fields do not matter.

* `Instruction.SameAccess` and `Instruction.SameWide` say which fields these are, for an access
  through a register and an offset and for a load of a wide value.
* `Instruction.AccessStatement` lists the accesses that have a text, each with its statement.
* `Instruction.memory_text_eq_iff`: the texts are equal exactly in these two cases, and an offset is
  printed as one sign and a magnitude.
-/

namespace Ebpf
namespace Instruction

/-- The same access to memory through a register and an offset: the opcodes are the same, and so are
the fields that mode and class use. -/
def SameAccess (i j : Instruction) : Prop :=
  i.opcodeByte = j.opcodeByte ∧ i.dst = j.dst ∧ i.offset = j.offset ∧
    match i.opcode with
    | .memory .stx (some .mem) _ => i.src = j.src
    | .memory .st (some .mem) _ => i.imm = j.imm
    | .memory .ldx (some .mem) _ => i.src = j.src
    | .memory .ldx (some .memSx) _ => i.src = j.src
    | .memory .stx (some .atomic) _ => i.src = j.src ∧ i.imm = j.imm
    | _ => False

/-- The same wide load: both opcodes are in immediate mode, whatever their classes and sizes, and
the halves of the immediate that the source field asks for are the same. -/
def SameWide (i j : Instruction) : Prop :=
  MemMode.ofOpcode? i.opcodeByte = some .imm ∧ MemMode.ofOpcode? j.opcodeByte = some .imm ∧
    i.src = j.src ∧ i.dst = j.dst ∧
    match i.src.toNat with
    | 0 => i.imm64? = j.imm64?
    | 2 | 6 => i.imm = j.imm ∧ i.highImm? = j.highImm?
    | _ => i.imm = j.imm

/-! ## Wide loads -/

/-- What is written of a wide value: its kind and the halves that count for it. -/
theorem wideValue_eq_iff {low low' high high' : BitVec 32} {kind kind' : WideKind} :
    wideValue low high kind = wideValue low' high' kind' ↔
      kind = kind' ∧
        match kind with
        | .value => high ++ low = high' ++ low'
        | .mapValueByFd | .mapValueByIndex => low = low' ∧ high = high'
        | _ => low = low' := by
  cases kind <;> cases kind' <;> simp [wideValue, BitVec.toInt_inj]

theorem exists_wideStatement {i : Instruction} {kind : MemClass} {size : MemSize} {s : Statement}
    (hop : i.opcode = .memory kind (some .imm) size) (hs : i.statement = .ok s) :
    ∃ high source, i.highImm? = some high ∧ i.src.toNat = source.code ∧
      s = .loadWide i.dst (wideValue i.imm high source) := by
  obtain ⟨high, hhigh⟩ := exists_highImm?_of_imm hop
  rw [statement, hop] at hs
  simp only [wideStatement, hhigh] at hs
  cases hsource : i.wideKind? with
  | none =>
    rw [hsource] at hs
    cases hs
  | some source =>
    rw [hsource] at hs
    cases hs
    exact ⟨high, source, hhigh, WideKind.ofNat?_eq_some_iff.1 hsource, rfl⟩

/-- Statements of wide loads are equal exactly if the loads are the same. -/
theorem statement_eq_iff_sameWide {i j : Instruction} {kind kind' : MemClass}
    {size size' : MemSize} {s t : Statement}
    (hi : i.opcode = .memory kind (some .imm) size) (hs : i.statement = .ok s)
    (hj : j.opcode = .memory kind' (some .imm) size') (ht : j.statement = .ok t) :
    s = t ↔ i.SameWide j := by
  obtain ⟨high, source, hhigh, hcode, rfl⟩ := exists_wideStatement hi hs
  obtain ⟨high', source', hhigh', hcode', rfl⟩ := exists_wideStatement hj ht
  have hmode := (Opcode.ofByte_eq_memory_iff.1 hi).2.1
  have hmode' := (Opcode.ofByte_eq_memory_iff.1 hj).2.1
  have hsrc : i.src = j.src ↔ source = source' := by
    rw [← BitVec.toNat_inj, hcode, hcode']
    cases source <;> cases source' <;> decide
  simp only [SameWide, hmode, hmode', hsrc, hcode, imm64?, hhigh, hhigh', Statement.loadWide.injEq,
    wideValue_eq_iff, true_and, Option.map_some, Option.some.injEq]
  cases source <;> simp [WideKind.code, and_left_comm]

/-! ## Accesses through a register and an offset -/

/-- The accesses that have a text, by class and mode, and their statements. -/
inductive AccessStatement (i : Instruction) (size : MemSize) :
    MemClass → MemMode → Statement → Prop
  | storeRegister :
    AccessStatement i size .stx .mem (.store size (i.address i.dst) (.register i.src))
  | storeNumber :
    AccessStatement i size .st .mem (.store size (i.address i.dst) (.number i.imm.toInt))
  | load : AccessStatement i size .ldx .mem (.load i.dst size (i.address i.src))
  | loadSigned : AccessStatement i size .ldx .memSx (.loadSigned i.dst size (i.address i.src))
  | update {op : AtomicUpdate} (hop : AtomicOp.ofImm? i.imm = some (.update op))
      (hfetch : AtomicOp.fetches i.imm = false) :
    AccessStatement i size .stx .atomic (.update size (i.address i.dst) op i.src)

theorem accessStatement_of_atomicStatement {i : Instruction} {kind : MemClass} {size : MemSize}
    {s : Statement} (hs : i.atomicStatement kind size = .ok s) :
    i.AccessStatement size kind .atomic s := by
  unfold atomicStatement at hs
  by_cases hsize : size = .byte ∨ size = .half
  · rw [if_pos hsize] at hs
    cases hs
  · rw [if_neg hsize] at hs
    cases hop : AtomicOp.ofImm? i.imm with
    | none =>
      rw [hop] at hs
      cases hs
    | some op =>
      simp only [hop] at hs
      by_cases hkind : kind = .stx
      · subst hkind
        cases op with
        | exchange | compareExchange => cases hs
        | update u =>
          cases hfetch : AtomicOp.fetches i.imm with
          | true =>
            rw [hfetch] at hs
            cases hs
          | false =>
            rw [hfetch] at hs
            cases hs
            exact .update hop hfetch
      · rw [if_pos hkind] at hs
        cases hs

theorem accessStatement_of_statement {i : Instruction} {kind : MemClass} {mode : MemMode}
    {size : MemSize} {s : Statement} (hop : i.opcode = .memory kind (some mode) size)
    (hmode : mode ≠ .imm) (hs : i.statement = .ok s) : i.AccessStatement size kind mode s := by
  rw [statement, hop] at hs
  cases mode with
  | imm => exact absurd rfl hmode
  | abs => cases hs
  | ind => cases hs
  | mem =>
    cases kind with
    | ld => cases hs
    | ldx => cases hs; exact .load
    | st => cases hs; exact .storeNumber
    | stx => cases hs; exact .storeRegister
  | memSx =>
    cases kind with
    | ldx => cases hs; exact .loadSigned
    | ld | st | stx => cases hs
  | atomic => exact accessStatement_of_atomicStatement hs

end Instruction

/-- The class, mode and size of the access that a statement shows. -/
def Statement.access? : Statement → Option (MemClass × MemMode × MemSize)
  | .store size _ (.register _) => some (.stx, .mem, size)
  | .store size _ (.number _) => some (.st, .mem, size)
  | .load _ size _ => some (.ldx, .mem, size)
  | .loadSigned _ size _ => some (.ldx, .memSx, size)
  | .update size _ _ _ => some (.stx, .atomic, size)
  | _ => none

namespace Instruction

theorem AccessStatement.access?_eq {i : Instruction} {kind : MemClass} {mode : MemMode}
    {size : MemSize} {s : Statement} (h : i.AccessStatement size kind mode s) :
    s.access? = some (kind, mode, size) := by
  cases h <;> rfl

/-- The immediate of an atomic update without the old value is known by the update. -/
theorem imm_eq_iff_of_update {imm imm' : BitVec 32} {op op' : AtomicUpdate}
    (hop : AtomicOp.ofImm? imm = some (.update op)) (hfetch : AtomicOp.fetches imm = false)
    (hop' : AtomicOp.ofImm? imm' = some (.update op')) (hfetch' : AtomicOp.fetches imm' = false) :
    imm = imm' ↔ op = op' := by
  constructor
  · rintro rfl
    simpa using hop.symm.trans hop'
  · rintro rfl
    simp only [AtomicOp.ofImm?_eq_some_iff, AtomicOp.fetches, decide_eq_false_iff_not] at *
    exact BitVec.eq_of_toNat_eq (by omega)

theorem address_eq_iff {i j : Instruction} {r r' : BitVec 4} :
    i.address r = j.address r' ↔ r = r' ∧ i.offset = j.offset := by
  simp [address, BitVec.toInt_inj]

/-- Statements of accesses with the same opcode are equal exactly if the accesses are the same. -/
theorem AccessStatement.eq_iff_sameAccess {i j : Instruction} {kind : MemClass} {mode : MemMode}
    {size : MemSize} {s t : Statement} (hbyte : i.opcodeByte = j.opcodeByte)
    (hop : i.opcode = .memory kind (some mode) size) (hs : i.AccessStatement size kind mode s)
    (ht : j.AccessStatement size kind mode t) : s = t ↔ i.SameAccess j := by
  unfold SameAccess
  cases hs with
  | storeRegister | storeNumber =>
    cases ht
    simp [hop, hbyte, address_eq_iff, BitVec.toInt_inj, and_assoc]
  | load | loadSigned =>
    cases ht
    simp [hop, hbyte, address_eq_iff, and_comm]
  | update hu hfetch =>
    cases ht with
    | update hu' hfetch' =>
      rw [imm_eq_iff_of_update hu hfetch hu' hfetch']
      simp [hop, hbyte, address_eq_iff, and_assoc, and_comm]

/-! ## Both kinds together -/

/-- A load or store with a text is in a defined mode. -/
theorem exists_mode_of_statement {i : Instruction} {s : Statement} (hi : i.opClass.isMemory)
    (hs : i.statement = .ok s) : ∃ kind mode size, i.opcode = .memory kind (some mode) size := by
  obtain ⟨kind, hkind⟩ := OpClass.isMemory_iff.1 hi
  have hop : i.opcode = .memory kind (MemMode.ofOpcode? i.opcodeByte) _ :=
    Opcode.ofByte_eq_memory_iff.2 ⟨hkind, rfl, rfl⟩
  cases hmode : MemMode.ofOpcode? i.opcodeByte with
  | none =>
    rw [statement, hop, hmode] at hs
    cases hs
  | some mode => exact ⟨kind, mode, _, hmode ▸ hop⟩

/-- A statement shows class, mode and size of an access, and none for a wide load. -/
theorem access?_of_statement {i : Instruction} {kind : MemClass} {mode : MemMode} {size : MemSize}
    {s : Statement} (hop : i.opcode = .memory kind (some mode) size) (hs : i.statement = .ok s) :
    s.access? = if mode = .imm then none else some (kind, mode, size) := by
  by_cases hmode : mode = .imm
  · subst hmode
    obtain ⟨high, source, -, -, rfl⟩ := exists_wideStatement hop hs
    rfl
  · rw [if_neg hmode]
    exact (accessStatement_of_statement hop hmode hs).access?_eq

/-- Equal statements come from wide loads both, or from accesses with one opcode. -/
theorem same_kind_of_statement {i j : Instruction} {kind kind' : MemClass} {mode mode' : MemMode}
    {size size' : MemSize} {s : Statement}
    (hi : i.opcode = .memory kind (some mode) size) (hs : i.statement = .ok s)
    (hj : j.opcode = .memory kind' (some mode') size') (ht : j.statement = .ok s) :
    mode = .imm ∧ mode' = .imm ∨ mode ≠ .imm ∧ (kind, mode, size) = (kind', mode', size') := by
  have haccess := (access?_of_statement hi hs).symm.trans (access?_of_statement hj ht)
  by_cases hmode : mode = .imm
  · by_cases hmode' : mode' = .imm
    · exact .inl ⟨hmode, hmode'⟩
    · rw [if_pos hmode, if_neg hmode'] at haccess
      cases haccess
  · by_cases hmode' : mode' = .imm
    · rw [if_neg hmode, if_pos hmode'] at haccess
      cases haccess
    · rw [if_neg hmode, if_neg hmode'] at haccess
      exact .inr ⟨hmode, Option.some.inj haccess⟩

/-- Statements of loads and stores are equal exactly if the instructions are the same in what counts
for them. -/
theorem memory_statement_eq_iff {i j : Instruction} {s t : Statement} (hi : i.opClass.isMemory)
    (hj : j.opClass.isMemory) (hs : i.statement = .ok s) (ht : j.statement = .ok t) :
    s = t ↔ i.SameAccess j ∨ i.SameWide j := by
  obtain ⟨kind, mode, size, hop⟩ := exists_mode_of_statement hi hs
  obtain ⟨kind', mode', size', hop'⟩ := exists_mode_of_statement hj ht
  constructor
  · rintro rfl
    -- the statement shows the opcode of an access, so no pair of different forms has to be compared
    obtain ⟨rfl, rfl⟩ | ⟨hmode, hsame⟩ := same_kind_of_statement hop hs hop' ht
    · exact .inr ((statement_eq_iff_sameWide hop hs hop' ht).1 rfl)
    · obtain ⟨rfl, rfl, rfl⟩ := hsame
      have hbyte : i.opcodeByte = j.opcodeByte := Opcode.byte_eq_of_memory hop hop'
      exact .inl (((accessStatement_of_statement hop hmode hs).eq_iff_sameAccess hbyte hop
        (accessStatement_of_statement hop' hmode ht)).1 rfl)
  · rintro (hsame | hwide)
    · have hbyte : i.opcodeByte = j.opcodeByte := hsame.1
      have hmode : mode ≠ .imm := by
        rintro rfl
        simp [SameAccess, hop] at hsame
      have hop' : j.opcode = .memory kind (some mode) size := by
        rw [← hop, opcode, opcode, hbyte]
      exact ((accessStatement_of_statement hop hmode hs).eq_iff_sameAccess hbyte hop
        (accessStatement_of_statement hop' hmode ht)).2 hsame
    · obtain rfl : mode = .imm :=
        Option.some.inj ((Opcode.ofByte_eq_memory_iff.1 hop).2.1.symm.trans hwide.1)
      obtain rfl : mode' = .imm :=
        Option.some.inj ((Opcode.ofByte_eq_memory_iff.1 hop').2.1.symm.trans hwide.2.1)
      exact (statement_eq_iff_sameWide hop hs hop' ht).2 hwide

/-! ## Texts -/

/-- The register that an access is relative to: a load reads from its second one. -/
def base (i : Instruction) : BitVec 4 := if i.opClass = .ldx then i.src else i.dst

/-- The address of an access stands in its text. -/
theorem AccessStatement.exists_render {i : Instruction} {kind : MemClass} {mode : MemMode}
    {size : MemSize} {s : Statement} (hkind : i.opClass = kind.opClass)
    (h : i.AccessStatement size kind mode s) :
    ∃ before after, s.render = before ++ (i.address i.base).render ++ after := by
  unfold base
  cases h with
  | storeRegister =>
    refine ⟨"*(" ++ size.name ++ " *)", " = " ++ fieldRegister i.src, ?_⟩
    simp [Statement.render, Address.renderAs, Operand.render, hkind, MemClass.opClass,
      String.append_assoc]
  | storeNumber =>
    refine ⟨"*(" ++ size.name ++ " *)", " = " ++ Text.integer i.imm.toInt, ?_⟩
    simp [Statement.render, Address.renderAs, Operand.render, hkind, MemClass.opClass,
      String.append_assoc]
  | load =>
    refine ⟨fieldRegister i.dst ++ " = " ++ ("*(" ++ size.name ++ " *)"), "", ?_⟩
    simp [Statement.render, Address.renderAs, hkind, MemClass.opClass, String.append_assoc]
  | loadSigned =>
    refine ⟨fieldRegister i.dst ++ " = " ++ ("*(" ++ size.signedName ++ " *)"), "", ?_⟩
    simp [Statement.render, Address.renderAs, hkind, MemClass.opClass, String.append_assoc]
  | @update op =>
    refine ⟨"*(" ++ size.name ++ " *)", " " ++ op.symbol ++ "= " ++ fieldRegister i.src, ?_⟩
    simp [Statement.render, Address.renderAs, hkind, MemClass.opClass, String.append_assoc]

/-- No load or store looks like a call. -/
theorem canonical_of_memory {i : Instruction} {s : Statement} (hi : i.opClass.isMemory)
    (hs : i.statement = .ok s) : s.canonical = s := by
  obtain ⟨kind, mode, size, hop⟩ := exists_mode_of_statement hi hs
  by_cases hmode : mode = .imm
  · subst hmode
    obtain ⟨high, source, -, -, rfl⟩ := exists_wideStatement hop hs
    rfl
  · cases accessStatement_of_statement hop hmode hs <;> rfl

/-- **The text of a load or store identifies it.** Two texts are equal exactly if both instructions
are the same access or the same wide load, and the offset of an access is printed as one sign and a
magnitude, between its base register and a bracket. -/
theorem memory_text_eq_iff {i j : Instruction} {text text' : String} (hi : i.opClass.isMemory)
    (hj : j.opClass.isMemory) (htext : i.disassemble = .ok text)
    (htext' : j.disassemble = .ok text') :
    (text = text' ↔ i.SameAccess j ∨ i.SameWide j) ∧
    (MemMode.ofOpcode? i.opcodeByte ≠ some .imm → ∃ before after,
      text = before ++ ("(" ++ fieldRegister i.base ++
        (if i.offset.toInt < 0 then " - " else " + ") ++ Text.natural i.offset.toInt.natAbs ++
        ")") ++ after) := by
  obtain ⟨s, hs, rfl⟩ := disassemble_eq_ok_iff.1 htext
  obtain ⟨t, ht, rfl⟩ := disassemble_eq_ok_iff.1 htext'
  refine ⟨?_, fun hmode => ?_⟩
  · rw [Statement.render_eq_iff, canonical_of_memory hi hs, canonical_of_memory hj ht]
    exact memory_statement_eq_iff hi hj hs ht
  · obtain ⟨kind, mode, size, hop⟩ := exists_mode_of_statement hi hs
    obtain ⟨hclass, hread, -⟩ := Opcode.ofByte_eq_memory_iff.1 hop
    have haccess : i.AccessStatement size kind mode s :=
      accessStatement_of_statement hop (fun h => hmode (h ▸ hread)) hs
    exact haccess.exists_render hclass

/-- Two stores at the lowest offset, between registers that the machine does not have. They differ
only in their immediates, which are not used. -/
theorem memory_text_of_lowest_offset :
    let i := narrow 0x7bcb008000000000 (by decide)
    let j := narrow 0x7bcb008001000000 (by decide)
    i ≠ j ∧ i.disassemble = .ok "*(u64 *)(r11 - 32768) = r12" ∧
      j.disassemble = .ok "*(u64 *)(r11 - 32768) = r12" ∧ (i.SameAccess j ∨ i.SameWide j) := by
  intro i j
  have hi : i.disassemble = .ok "*(u64 *)(r11 - 32768) = r12" := by decide +kernel
  have hj : j.disassemble = .ok "*(u64 *)(r11 - 32768) = r12" := by decide +kernel
  exact ⟨by decide, hi, hj, (memory_text_eq_iff (by decide) (by decide) hi hj).1.1 rfl⟩

end Instruction
end Ebpf
