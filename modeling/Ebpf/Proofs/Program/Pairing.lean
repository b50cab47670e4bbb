import Mathlib
import Ebpf.Program.Load

/-!
# Pairing words loses nothing

Loading words and writing down the words of a program undo each other. Both are compared with a
third thing, a plain list of instructions:

* `exists_instructions_append`: any words are those of some instructions, one after the other, and
  perhaps one more wide word whose extension is missing. Extension words are never looked at.
* `pairWords_append`: the loader turns the words of instructions into their slots and goes on with
  what follows.
* `ofWords_eq_ok_iff`: so the loader accepts exactly the words of lists of instructions, and gives
  the program of those instructions; `ofWords_eq_error_iff` says what it refuses, and how.
* `ofWords_words_inverse`: loading and taking the words are inverse to each other.

Words are paired as they are read, and one of them may turn out not to be readable:

* `ofReadings_append_unreadable`: the words before it are loaded as if they were all there are. If
  they make a program, the word is the fault, and otherwise what is missing before it.
-/

namespace Ebpf

/-! ## Instructions by their number of words -/

namespace Instruction

/-- An instruction has one word or two. -/
@[elab_as_elim]
theorem byWidth {motive : Instruction → Prop} (narrow : ∀ w h, motive (narrow w h))
    (wide : ∀ w x h, motive (wide w x h)) (i : Instruction) : motive i := by
  obtain ⟨w, x, h⟩ := i
  cases x with
  | none => exact narrow w (by simpa using h.symm)
  | some x => exact wide w x (by simpa using h.symm)

@[simp] theorem words_narrow (w : Word) (h : ¬ w.isWide) : (narrow w h).words = [w] := rfl

@[simp] theorem words_wide (w x : Word) (h : w.isWide) : (wide w x h).words = [w, x] := rfl

@[simp] theorem slots_narrow (w : Word) (h : ¬ w.isWide) :
    (narrow w h).slots = [.insn (narrow w h)] := rfl

@[simp] theorem slots_wide (w x : Word) (h : w.isWide) :
    (wide w x h).slots = [.insn (wide w x h), .extension x] := rfl

/-- The slots of an instruction hold its words. -/
theorem map_word_slots (i : Instruction) : i.slots.map Slot.word = i.words := by
  induction i using byWidth with
  | narrow w h => rfl
  | wide w x h => rfl

/-- Every instruction is what its own words are decoded to. -/
theorem decode_self (i : Instruction) : decode i.basic i.extension = .ok i := by
  rw [decode, dif_pos i.isSome_extension]

end Instruction

/-! ## Words and instructions -/

namespace Program

/-- Any words are those of instructions, up to a last wide word without its extension. -/
theorem exists_instructions_append (ws : List Word) :
    ∃ (is : List Instruction) (tail : List Word), ws = is.flatMap Instruction.words ++ tail ∧
      (tail = [] ∨ ∃ w : Word, w.isWide ∧ tail = [w]) := by
  -- A wide word takes the next one along, so the step is over one word or over two.
  induction ws using List.twoStepInduction with
  | nil => exact ⟨[], [], rfl, Or.inl rfl⟩
  | singleton w =>
    by_cases hw : w.isWide
    · exact ⟨[], [w], rfl, Or.inr ⟨w, hw, rfl⟩⟩
    · exact ⟨[.narrow w hw], [], rfl, Or.inl rfl⟩
  | cons_cons w x ws ihTwo ihOne =>
    by_cases hw : w.isWide
    · obtain ⟨is, tail, rfl, htail⟩ := ihTwo
      exact ⟨.wide w x hw :: is, tail, by simp, htail⟩
    · obtain ⟨is, tail, his, htail⟩ := ihOne x
      exact ⟨.narrow w hw :: is, tail, by simp [his], htail⟩

/-- Loading puts the slots of the instructions behind what is there and goes on after them. -/
theorem pairWords_append (slots : Array Slot) (is : List Instruction)
    (rest : List (Except LoadFault Word)) :
    pairWords slots ((is.flatMap Instruction.words).map .ok ++ rest) =
      pairWords (slots ++ (is.flatMap Instruction.slots).toArray) rest := by
  induction is generalizing slots with
  | nil => simp
  | cons i is ih =>
    rw [List.flatMap_cons, List.map_append, List.append_assoc]
    induction i using Instruction.byWidth with
    | narrow w h =>
      rw [Instruction.words_narrow, List.map_singleton, List.singleton_append,
        pairWords_narrow _ _ h, ih]
      simp
    | wide w x h =>
      rw [Instruction.words_wide, List.map_cons, List.map_singleton, List.cons_append,
        List.singleton_append, pairWords_wide _ _ h, ih]
      simp

/-- What is read behind the words of instructions finds their slots in place. -/
theorem ofReadings_append (is : List Instruction) (rest : List (Except LoadFault Word)) :
    ofReadings ((is.flatMap Instruction.words).map .ok ++ rest) =
      (pairWords (is.flatMap Instruction.slots).toArray rest).map Program.mk := by
  rw [ofReadings, pairWords_append, Array.empty_append]

/-- The words of instructions are loaded as the program of these instructions. -/
theorem ofWords_flatMap_words (is : List Instruction) :
    ofWords (is.flatMap Instruction.words) = .ok (ofInstructions is) := by
  have h := ofReadings_append is []
  rw [List.append_nil, pairWords_nil] at h
  exact h

/-- The words of a program are those of its instructions, one after the other. -/
theorem words_ofInstructions (is : List Instruction) :
    (ofInstructions is).words = is.flatMap Instruction.words := by
  simp [words, ofInstructions, List.map_flatMap, Instruction.map_word_slots]

/-- There are as many slots as words. -/
theorem length_slots_eq_length_words (is : List Instruction) :
    (is.flatMap Instruction.slots).length = (is.flatMap Instruction.words).length := by
  rw [← words_ofInstructions, words, List.length_map]
  rfl

/-- A wide word behind the words of instructions has no extension. -/
theorem ofWords_flatMap_words_cut (is : List Instruction) {w : Word} (hw : w.isWide) :
    ofWords (is.flatMap Instruction.words ++ [w]) =
      .error (.missingExtension (is.flatMap Instruction.words).length w.opcode) := by
  rw [ofWords, List.map_append, ofReadings_append, List.map_singleton, pairWords_cut _ hw,
    List.size_toArray, length_slots_eq_length_words]
  rfl

/-! ## Words that cannot be read -/

/-- **A word that cannot be read comes after what is before it.** The words before it are loaded as
if they were all there are. If they make a program, the fault of the word is reported; if the last
of them waits for an extension, this is reported. What comes after the word makes no difference. -/
theorem ofReadings_append_unreadable (ws : List Word) (e : LoadFault)
    (rest : List (Except LoadFault Word)) :
    ofReadings (ws.map .ok ++ .error e :: rest) = ofWords ws >>= fun _ => .error e := by
  obtain ⟨is, tail, rfl, rfl | ⟨w, hw, rfl⟩⟩ := exists_instructions_append ws
  · rw [List.append_nil, ofReadings_append, pairWords_unreadable, ofWords_flatMap_words]
    rfl
  · rw [ofWords_flatMap_words_cut is hw, List.map_append, List.append_assoc, ofReadings_append,
      List.map_singleton, List.singleton_append, pairWords_cut_unreadable _ _ hw,
      List.size_toArray, length_slots_eq_length_words]
    rfl

/-- Readings are all of words, or there is a first one that is a fault. -/
theorem readings_cases (readings : List (Except LoadFault Word)) :
    (∃ ws : List Word, readings = ws.map .ok) ∨
      ∃ (ws : List Word) (e : LoadFault) (rest : List (Except LoadFault Word)),
        readings = ws.map .ok ++ .error e :: rest := by
  induction readings with
  | nil => exact Or.inl ⟨[], rfl⟩
  | cons reading readings ih =>
    cases reading with
    | error e => exact Or.inr ⟨[], e, readings, rfl⟩
    | ok w =>
      obtain ⟨ws, rfl⟩ | ⟨ws, e, rest, rfl⟩ := ih
      · exact Or.inl ⟨w :: ws, rfl⟩
      · exact Or.inr ⟨w :: ws, e, rest, rfl⟩

/-- Nothing is loaded past a word that cannot be read. -/
theorem exists_ofWords_of_ofReadings {readings : List (Except LoadFault Word)} {p : Program}
    (h : ofReadings readings = .ok p) : ∃ ws, ofWords ws = .ok p := by
  obtain ⟨ws, rfl⟩ | ⟨ws, e, rest, rfl⟩ := readings_cases readings
  · exact ⟨ws, h⟩
  · rw [ofReadings_append_unreadable] at h
    cases hws : ofWords ws <;> rw [hws] at h <;> cases h

/-! ## What is loaded and what is refused -/

/-- Loading succeeds exactly on the words of instructions, with the program of these. -/
theorem ofWords_eq_ok_iff {ws : List Word} {p : Program} :
    ofWords ws = .ok p ↔
      ∃ is : List Instruction, ws = is.flatMap Instruction.words ∧ p = ofInstructions is := by
  constructor
  · intro h
    obtain ⟨is, tail, rfl, rfl | ⟨w, hw, rfl⟩⟩ := exists_instructions_append ws
    · rw [List.append_nil, ofWords_flatMap_words] at h
      exact ⟨is, List.append_nil _, (Except.ok.inj h).symm⟩
    · rw [ofWords_flatMap_words_cut is hw] at h
      cases h
  · rintro ⟨is, rfl, rfl⟩
    exact ofWords_flatMap_words is

/-- Loading fails exactly on the words of instructions with one more wide word behind them, and the
fault is that this word has no extension. -/
theorem ofWords_eq_error_iff {ws : List Word} {e : LoadFault} :
    ofWords ws = .error e ↔
      ∃ (is : List Instruction) (w : Word), w.isWide ∧ ws = is.flatMap Instruction.words ++ [w] ∧
        e = .missingExtension (is.flatMap Instruction.words).length w.opcode := by
  constructor
  · intro h
    obtain ⟨is, tail, rfl, rfl | ⟨w, hw, rfl⟩⟩ := exists_instructions_append ws
    · rw [List.append_nil, ofWords_flatMap_words] at h
      cases h
    · rw [ofWords_flatMap_words_cut is hw] at h
      exact ⟨is, w, hw, rfl, (Except.error.inj h).symm⟩
  · rintro ⟨is, w, hw, rfl, rfl⟩
    exact ofWords_flatMap_words_cut is hw

/-- What has been loaded from words has those words. -/
theorem words_eq_of_ofWords {ws : List Word} {p : Program} (h : ofWords ws = .ok p) :
    p.words = ws := by
  obtain ⟨is, rfl, rfl⟩ := ofWords_eq_ok_iff.1 h
  exact words_ofInstructions is

/-- **Loading words is lossless.** A loaded program has the words it was loaded from. In the other
direction, the words of a program of instructions are the basic word and the extension of each, and
loading them gives that program again. So programs loaded from words are equal exactly if the words
are. -/
theorem ofWords_words_inverse :
    (∀ (ws : List Word) (p : Program), ofWords ws = .ok p → p.words = ws) ∧
    (∀ is : List Instruction,
      ofWords (ofInstructions is).words = .ok (ofInstructions is) ∧
      (ofInstructions is).words =
        (is.map fun i => match i.extension with
          | none => [i.basic]
          | some x => [i.basic, x]).flatten) ∧
    (∀ (ws ws' : List Word) (p p' : Program), ofWords ws = .ok p → ofWords ws' = .ok p' →
      (p = p' ↔ ws = ws')) := by
  refine ⟨fun ws p h => words_eq_of_ofWords h, ?_, ?_⟩
  · intro is
    refine ⟨by rw [words_ofInstructions, ofWords_flatMap_words], ?_⟩
    rw [words_ofInstructions, List.flatMap_def]
    refine congrArg List.flatten (List.map_congr_left ?_)
    intro i _
    induction i using Instruction.byWidth with
    | narrow w h => rfl
    | wide w x h => rfl
  · intro ws ws' p p' h h'
    constructor
    · rintro rfl
      rw [← words_eq_of_ofWords h, ← words_eq_of_ofWords h']
    · rintro rfl
      exact Except.ok.inj (h.symm.trans h')

/-- The word behind a wide word is kept as it is, even if it looks like a wide word itself. -/
theorem words_of_wide_looking_payload :
    ∃ p : Program,
      ofWords [0x1801000000000000, 0x1802000000000000, 0xb700000007000000] = .ok p ∧
        p.words = [0x1801000000000000, 0x1802000000000000, 0xb700000007000000] := by
  have h : ofWords [0x1801000000000000, 0x1802000000000000, 0xb700000007000000] =
      .ok (ofInstructions [.wide 0x1801000000000000 0x1802000000000000 rfl,
        .narrow 0xb700000007000000 (by decide)]) := rfl
  exact ⟨_, h, ofWords_words_inverse.1 _ _ h⟩

end Program
end Ebpf
