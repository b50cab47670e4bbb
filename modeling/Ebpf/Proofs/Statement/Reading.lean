import Mathlib
import Ebpf.Proofs.Text.Reader
import Ebpf.Statement

/-!
# Statements are read back from their texts

The text of a statement says everything about it, with one exception: a call with a minus sign may
be a call of a helper or of a function of the program.

* `Reader.register`, `Reader.operand`, `Reader.address`, `Reader.wide?` and `Reader.statement` read
  the parts of a statement and the whole. Each comes with the law that it gives back what was
  written.
* `Statement.canonical` takes a local call at a negative distance to the helper call with the same
  text, and leaves every other statement as it is.
* `Statement.ofText?_render`: a text is read as the canonical statement.
* `Statement.render_eq_iff`: so statements have the same text exactly if they have the same
  canonical statement.
-/

namespace Ebpf
namespace Reader

/-! ## Operators -/

/-- The operations on two operands. -/
def binaryOps : List BinaryOp :=
  [.add, .sub, .mul, .div, .or, .and, .lsh, .rsh, .mod, .xor, .mov, .arsh]

/-- The conditions of jumps. -/
def comparisons : List Comparison :=
  [.eq, .gt, .ge, .set, .ne, .sgt, .sge, .lt, .le, .slt, .sle]

/-- What can be done to memory: a store or an atomic update. -/
def updates : List (Option AtomicUpdate) := [none, some .add, some .or, some .and, some .xor]

/-- The sizes of memory operands. -/
def sizes : List MemSize := [.byte, .half, .word, .double]

/-- The operator of an assignment to a register. -/
def operator : Reader BinaryOp := choice (fun op => op.symbol ++ "= ") binaryOps

/-- The operator of a comparison. -/
def comparison : Reader Comparison := choice (fun c => c.symbol ++ " ") comparisons

/-- The operator of an assignment to memory; a plain store has none. -/
def update : Reader (Option AtomicUpdate) :=
  choice (fun u => u.elim "" AtomicUpdate.symbol ++ "= ") updates

/-- The size in a memory operand. -/
def size : Reader MemSize := choice (fun s => s.digits ++ " *)") sizes

@[simp] theorem run_operator (op : BinaryOp) (rest : List Char) :
    operator.run (op.symbol.toList ++ '=' :: ' ' :: rest) = some (op, rest) := by
  have hmem : op ∈ binaryOps := by cases op <;> decide
  have hfree : ∀ a ∈ binaryOps, ∀ b ∈ binaryOps,
      (a.symbol ++ "= ").toList <+: (b.symbol ++ "= ").toList → a = b := by decide
  simpa [operator] using run_choice hfree hmem rest

@[simp] theorem run_operator_mov (rest : List Char) :
    operator.run ('=' :: ' ' :: rest) = some (.mov, rest) :=
  run_operator .mov rest

@[simp] theorem run_comparison (c : Comparison) (rest : List Char) :
    comparison.run (c.symbol.toList ++ ' ' :: rest) = some (c, rest) := by
  have hmem : c ∈ comparisons := by cases c <;> decide
  have hfree : ∀ a ∈ comparisons, ∀ b ∈ comparisons,
      (a.symbol ++ " ").toList <+: (b.symbol ++ " ").toList → a = b := by decide
  simpa [comparison] using run_choice hfree hmem rest

@[simp] theorem run_update (u : Option AtomicUpdate) (rest : List Char) :
    update.run ((u.elim "" AtomicUpdate.symbol).toList ++ '=' :: ' ' :: rest) = some (u, rest) := by
  have hmem : u ∈ updates := by
    cases u with
    | none => decide
    | some u => cases u <;> decide
  have hfree : ∀ a ∈ updates, ∀ b ∈ updates, (a.elim "" AtomicUpdate.symbol ++ "= ").toList <+:
      (b.elim "" AtomicUpdate.symbol ++ "= ").toList → a = b := by decide
  simpa [update] using run_choice hfree hmem rest

@[simp] theorem run_update_none (rest : List Char) :
    update.run ('=' :: ' ' :: rest) = some (none, rest) :=
  run_update none rest

@[simp] theorem run_update_some (u : AtomicUpdate) (rest : List Char) :
    update.run (u.symbol.toList ++ '=' :: ' ' :: rest) = some (some u, rest) :=
  run_update (some u) rest

@[simp] theorem run_size (s : MemSize) (rest : List Char) :
    size.run (s.digits.toList ++ ' ' :: '*' :: ')' :: rest) = some (s, rest) := by
  have hmem : s ∈ sizes := by cases s <;> decide
  have hfree : ∀ a ∈ sizes, ∀ b ∈ sizes,
      (a.digits ++ " *)").toList <+: (b.digits ++ " *)").toList → a = b := by decide
  simpa [size] using run_choice hfree hmem rest

/-! ## Operands and addresses -/

/-- A register, by its number. -/
def register : Reader (BitVec 4) := do
  literal "r"
  return BitVec.ofNat 4 (← natural)

/-- The second operand of an assignment or comparison. -/
def operand : Reader Operand := do
  if ← accept "(" then
    let r ← register
    literal " & "
    let mask ← natural
    literal ")"
    return .maskedRegister r mask
  else if ← accept "r" then
    return .register (BitVec.ofNat 4 (← natural))
  else
    return .number (← integer)

/-- A place in memory; the sign of the offset stands between its two parts. -/
def address : Reader Address := do
  literal "("
  let base ← register
  if ← accept " - " then
    let n ← natural
    literal ")"
    return ⟨base, -n⟩
  else
    literal " + "
    let n ← natural
    literal ")"
    return ⟨base, n⟩

@[simp] theorem run_register (r : BitVec 4) {rest : List Char} (h : Ends rest) :
    register.run ((fieldRegister r).toList ++ rest) = some (r, rest) := by
  simp [register, literal, fieldRegister, registerName, Text.natural, h]

@[simp] theorem run_operand (o : Operand) {rest : List Char} (h : Ends rest) :
    operand.run (o.render.toList ++ rest) = some (o, rest) := by
  cases o with
  | number k =>
    simp [operand, Operand.render, h, -run_accept,
      run_accept_integer (s := "(") rfl rfl (by decide),
      run_accept_integer (s := "r") rfl rfl (by decide)]
  | register r => simp [operand, Operand.render, fieldRegister, registerName, Text.natural, h]
  | maskedRegister r mask =>
    simp [operand, Operand.render, literal, Text.natural]

/-- No operand is taken for a text that starts with something else than operands do. -/
theorem run_accept_operand {s : String} {c : Char} {cs : List Char} (hs : s.toList = c :: cs)
    (hc : c ≠ '(' ∧ c ≠ 'r' ∧ c ≠ '-' ∧ c.isDigit = false) (o : Operand) (rest : List Char) :
    (accept s).run (o.render.toList ++ rest) = some (false, o.render.toList ++ rest) := by
  obtain ⟨hparen, hr, hminus, hdigit⟩ := hc
  cases o with
  | number k => exact run_accept_integer hs hdigit hminus k rest
  | register r => simp [Operand.render, fieldRegister, registerName, hs, hr.symm]
  | maskedRegister r mask => simp [Operand.render, hs, hparen.symm]

@[simp] theorem run_address (a : Address) (rest : List Char) :
    address.run (a.render.toList ++ rest) = some (a, rest) := by
  obtain ⟨base, offset⟩ := a
  by_cases hoff : offset < 0
  · simp [address, Address.render, literal, Text.natural, hoff, abs_of_neg hoff]
  · simp [address, Address.render, literal, Text.natural, hoff, abs_of_nonneg (not_lt.1 hoff)]

/-! ## Wide values -/

/-- A number between its brackets, behind the opening one. -/
def enclosed (close : String) : Reader Int := do
  let k ← integer
  literal close
  return k

/-- A map, or a place in the value of a map, behind the start of its name. -/
def mapped : Reader WideValue := do
  if ← accept "by_fd(" then
    return .mapByFd (← enclosed ")")
  else if ← accept "by_idx(" then
    return .mapByIndex (← enclosed ")")
  else if ← accept "val(map_by_fd(" then
    return .mapValueByFd (← enclosed ")) + ") (← integer)
  else
    literal "val(map_by_idx("
    return .mapValueByIndex (← enclosed ")) + ") (← integer)

/-- A wide value that is not a plain number, if there is one. -/
def wide? : Reader (Option WideValue) := do
  if ← accept "map_" then
    return some (← mapped)
  else if ← accept "var_addr(" then
    return some (.variableAddr (← enclosed ")"))
  else if ← accept "code_addr(" then
    return some (.codeAddr (← enclosed ")"))
  else
    return none

@[simp] theorem run_enclosed (k : Int) {rest : List Char} :
    (enclosed ")").run ((Text.integer k).toList ++ ')' :: rest) = some (k, rest) := by
  simp [enclosed, literal]

@[simp] theorem run_enclosed_plus (k : Int) {rest : List Char} :
    (enclosed ")) + ").run ((Text.integer k).toList ++ ')' :: ')' :: ' ' :: '+' :: ' ' :: rest) =
      some (k, rest) := by
  simp [enclosed, literal]

theorem run_wide? {v : WideValue} (hv : ∀ k, v ≠ .number k) {rest : List Char} (h : Ends rest) :
    wide?.run (v.render.toList ++ rest) = some (some v, rest) := by
  cases v with
  | number k => exact absurd rfl (hv k)
  | mapByFd fd =>
    show wide?.run (("map_by_fd(" ++ Text.integer fd ++ ")").toList ++ rest) = _
    simp [wide?, mapped]
  | mapValueByFd fd offset =>
    show wide?.run (("map_val(map_by_fd(" ++ Text.integer fd ++ ")) + " ++
      Text.integer offset).toList ++ rest) = _
    simp [wide?, mapped, h]
  | variableAddr id =>
    show wide?.run (("var_addr(" ++ Text.integer id ++ ")").toList ++ rest) = _
    simp [wide?]
  | codeAddr id =>
    show wide?.run (("code_addr(" ++ Text.integer id ++ ")").toList ++ rest) = _
    simp [wide?]
  | mapByIndex index =>
    show wide?.run (("map_by_idx(" ++ Text.integer index ++ ")").toList ++ rest) = _
    simp [wide?, mapped]
  | mapValueByIndex index offset =>
    show wide?.run (("map_val(map_by_idx(" ++ Text.integer index ++ ")) + " ++
      Text.integer offset).toList ++ rest) = _
    simp [wide?, mapped, literal, h]

/-- No operand is taken for a wide value. -/
theorem run_wide?_operand (o : Operand) (rest : List Char) :
    wide?.run (o.render.toList ++ rest) = some (none, o.render.toList ++ rest) := by
  simp [wide?, -run_accept, run_accept_operand (s := "map_") rfl (by decide),
    run_accept_operand (s := "var_addr(") rfl (by decide),
    run_accept_operand (s := "code_addr(") rfl (by decide)]

/-! ## Statements -/

/-- An operand that is put into a register, or a wide number. -/
def moved (dst : BitVec 4) : Reader Statement := do
  let value ← operand
  if ← accept " ll" then
    let .number k := value | failure
    return .loadWide dst (.number k)
  else
    return .assign dst .mov value

/-- An assignment to a register, behind the register. -/
def assignment (dst : BitVec 4) : Reader Statement := do
  let op ← operator
  if op ≠ .mov then
    return .assign dst op (← operand)
  else if let some value ← wide? then
    return .loadWide dst value
  else if ← accept "~" then
    return .complement dst (← register)
  else if ← accept "*(u" then
    return .load dst (← size) (← address)
  else if ← accept "*(s" then
    return .loadSigned dst (← size) (← address)
  else
    moved dst

/-- An assignment to memory, behind the start of its type. -/
def memory : Reader Statement := do
  let size ← size
  let target ← address
  literal " "
  match ← update with
  | none => return .store size target (← operand)
  | some op => return .update size target op (← register)

/-- A conditional jump, behind its first word. -/
def branch : Reader Statement := do
  let dst ← register
  literal " "
  let condition ← comparison
  let value ← operand
  literal " goto "
  return .branch dst condition value (← integer)

/-- A call, behind its first word; only a plus sign shows that it is a local one. -/
def call : Reader Statement := do
  if ← accept "+" then
    return .callLocal (← natural)
  else
    return .callHelper (← integer)

/-- A statement. -/
def statement : Reader Statement := do
  if ← accept "exit" then
    return .exit
  else if ← accept "goto " then
    return .goto (← integer)
  else if ← accept "call " then
    call
  else if ← accept "if " then
    branch
  else if ← accept "*(u" then
    memory
  else
    let dst ← register
    literal " "
    assignment dst

/-- A statement that starts with a register is an assignment to it. -/
@[simp] theorem run_statement_register (dst : BitVec 4) (rest : List Char) :
    statement.run ((fieldRegister dst).toList ++ ' ' :: rest) = (assignment dst).run rest := by
  simp [statement, literal, register, fieldRegister, registerName, Text.natural]

/-- The value that is put into a register is read as an operand if it starts like one. -/
theorem run_assignment_operand (dst : BitVec 4) (value : Operand) (rest : List Char) :
    (assignment dst).run ('=' :: ' ' :: (value.render.toList ++ rest)) =
      (moved dst).run (value.render.toList ++ rest) := by
  simp [assignment, run_wide?_operand, -run_accept, run_accept_operand (s := "~") rfl (by decide),
    run_accept_operand (s := "*(u") rfl (by decide),
    run_accept_operand (s := "*(s") rfl (by decide)]

@[simp] theorem run_assignment_assign (dst : BitVec 4) (op : BinaryOp) (value : Operand)
    (rest : List Char) :
    (assignment dst).run
        (op.symbol.toList ++ '=' :: ' ' :: (value.render.toList ++ '\n' :: rest)) =
      some (.assign dst op value, '\n' :: rest) := by
  by_cases hop : op = .mov
  · subst hop
    refine (run_assignment_operand dst value _).trans ?_
    simp [moved]
  · simp [assignment, hop]

@[simp] theorem run_assignment_loadWide (dst : BitVec 4) (value : WideValue) (rest : List Char) :
    (assignment dst).run ('=' :: ' ' :: (value.render.toList ++ '\n' :: rest)) =
      some (.loadWide dst value, '\n' :: rest) := by
  by_cases hv : ∃ k, value = .number k
  · obtain ⟨k, rfl⟩ := hv
    have htext : (WideValue.number k).render.toList ++ '\n' :: rest =
        (Operand.number k).render.toList ++ ' ' :: 'l' :: 'l' :: '\n' :: rest := by
      show (Text.integer k ++ " ll").toList ++ _ = (Text.integer k).toList ++ _
      simp
    rw [htext, run_assignment_operand]
    simp [moved]
  · simp [assignment, run_wide? (not_exists.1 hv)]

@[simp] theorem run_call_helper (id : Int) (rest : List Char) :
    call.run ((Text.integer id).toList ++ '\n' :: rest) = some (.callHelper id, '\n' :: rest) := by
  simp [call, -run_accept, run_accept_integer (s := "+") rfl rfl (by decide)]

theorem run_call_local {distance : Int} (h : ¬ distance < 0) (rest : List Char) :
    call.run ((Text.signed distance).toList ++ '\n' :: rest) =
      some (.callLocal distance, '\n' :: rest) := by
  simp [call, Text.signed, Text.natural, h, abs_of_nonneg (not_lt.1 h)]

end Reader

namespace Statement

/-- The statement that the text of a statement is read as: a call with a minus sign is taken for a
call of a helper. -/
def canonical : Statement → Statement
  | .callLocal distance => if distance < 0 then .callHelper distance else .callLocal distance
  | s => s

theorem canonical_callLocal_of_neg {distance : Int} (h : distance < 0) :
    (callLocal distance).canonical = .callHelper distance := if_pos h

theorem canonical_callLocal_of_not_neg {distance : Int} (h : ¬ distance < 0) :
    (callLocal distance).canonical = .callLocal distance := if_neg h

/-- A statement and its canonical statement have the same text. -/
theorem render_canonical (s : Statement) : s.canonical.render = s.render := by
  cases s with
  | callLocal distance =>
    by_cases hd : distance < 0
    · rw [canonical_callLocal_of_neg hd]
      simp [render, Text.integer, Text.signed, hd]
    · rw [canonical_callLocal_of_not_neg hd]
  | _ => rfl

end Statement

namespace Reader

/-- A statement is read back from its text, up to the end of the line, unless it is a call that
looks like another one. -/
theorem run_statement {s : Statement} (h : s.canonical = s) (rest : List Char) :
    statement.run (s.render.toList ++ '\n' :: rest) = some (s, '\n' :: rest) := by
  -- the end of the line is what ends a number in last place
  cases s with
  | assign dst op value => simp [Statement.render]
  | complement dst src => simp [Statement.render, assignment, wide?]
  | goto distance => simp [statement, Statement.render]
  | branch dst condition value distance => simp [statement, Statement.render, literal, branch]
  | callHelper id => simp [statement, Statement.render]
  | callLocal distance =>
    have hd : ¬ distance < 0 := by
      intro hd
      rw [Statement.canonical_callLocal_of_neg hd] at h
      cases h
    simp [statement, Statement.render, run_call_local hd]
  | exit => simp [statement, Statement.render]
  | loadWide dst value => simp [Statement.render]
  | load dst size source =>
    simp [Statement.render, assignment, wide?, Address.renderAs, MemSize.name]
  | loadSigned dst size source =>
    simp [Statement.render, assignment, wide?, Address.renderAs, MemSize.signedName]
  | store size target value =>
    simp [statement, Statement.render, literal, memory, Address.renderAs, MemSize.name]
  | update size target op src =>
    simp [statement, Statement.render, literal, memory, Address.renderAs, MemSize.name]

end Reader

namespace Statement

/-- The statement that a text says. -/
def ofText? (text : String) : Option Statement :=
  match Reader.statement.run (text.toList ++ ['\n']) with
  | some (s, ['\n']) => some s
  | _ => none

theorem canonical_canonical (s : Statement) : s.canonical.canonical = s.canonical := by
  cases s with
  | callLocal distance =>
    by_cases hd : distance < 0
    · rw [canonical_callLocal_of_neg hd]
      rfl
    · rw [canonical_callLocal_of_not_neg hd, canonical_callLocal_of_not_neg hd]
  | _ => rfl

/-- **A text is read as the canonical statement.** -/
theorem ofText?_render (s : Statement) : ofText? s.render = some s.canonical := by
  rw [← s.render_canonical, ofText?, Reader.run_statement s.canonical_canonical []]
  rfl

/-- **The text of a statement identifies it**, up to calls with a minus sign. -/
theorem render_eq_iff {s t : Statement} : s.render = t.render ↔ s.canonical = t.canonical := by
  constructor
  · intro h
    have hread := s.ofText?_render
    rw [h, t.ofText?_render] at hread
    exact (Option.some.inj hread).symm
  · intro h
    rw [← s.render_canonical, ← t.render_canonical, h]

end Statement
end Ebpf
