import Ebpf.Elf.Sections
import Ebpf.HexDump
import Ebpf.Program
import Ebpf.Text.Quoted

/-!
# Loading programs

A program is loaded from words, from the bytes of words, from a dump of words in hexadecimal or
from a section of an ELF file. In the end all of them come to `Program.pairWords`, which goes
through the words from left to right: a wide word takes the next word as its extension, whatever
that is.

A word of a dump may turn out not to be readable when its turn comes. Its fault ends the loading;
but if the word before it waits for an extension, this is what is reported.
-/

namespace Ebpf

/-! ## Faults -/

/-- Why a file cannot be read. -/
structure FileFault where
  /-- What the system says. -/
  description : String
  /-- The number of the fault. -/
  code : Nat
  deriving DecidableEq, Repr

/-- What is reported for a file that cannot be read. -/
def FileFault.message (e : FileFault) : String :=
  e.description ++ " (os error " ++ Text.natural e.code ++ ")"

/-- Why a program cannot be loaded. -/
inductive LoadFault where
  /-- The input is not a whole number of words. -/
  | brokenLength (length width : Nat)
  /-- There is no readable word where an extension word has to be. -/
  | missingExtension (slot : Nat) (opcode : Byte)
  /-- A word of a dump has something else than hexadecimal digits. -/
  | badDigits (offset : Nat) (text : String)
  /-- There is no section with the name. -/
  | noSuchSection (name : String) (available : List String)
  /-- The input is not an ELF file. -/
  | elf (e : Elf.Fault)
  /-- The file cannot be read. -/
  | file (e : FileFault)
  deriving DecidableEq, Repr

namespace LoadFault

/-- The fault of a dump with a word that cannot be read. -/
def ofBadWord (bad : HexDump.BadWord) : LoadFault := .badDigits bad.offset bad.text

/-- What is reported for a program that cannot be loaded. -/
def message : LoadFault → String
  | .brokenLength length width =>
    "input length " ++ Text.natural length ++ " is not a multiple of " ++ Text.natural width
  | .missingExtension slot opcode =>
    "instruction " ++ opcodeText opcode ++ " at slot " ++ Text.natural slot ++
      " is missing its extension word"
  | .badDigits offset text =>
    "invalid hex word " ++ Text.quoted text ++ " at offset " ++ Text.natural offset
  | .noSuchSection name available =>
    "section " ++ Text.quoted name ++ " not found, available sections: " ++
      String.intercalate ", " available
  | .elf e => "malformed ELF file: " ++ e.message
  | .file e => "I/O error: " ++ e.message

/-- The faults behind a fault, as they are reported. -/
def causes : LoadFault → List String
  | .elf e => e.message :: e.causes
  | .file e => [e.message]
  | _ => []

end LoadFault

namespace Program

/-! ## Words -/

/-- Puts words behind the slots of a program that is being loaded, as they are read: a word may come
as the fault for which it cannot be read. -/
def pairWords (slots : Array Slot) : List (Except LoadFault Word) → Except LoadFault (Array Slot)
  | [] => .ok slots
  | .error e :: _ => .error e
  | .ok w :: readings =>
    match Instruction.decode w none with
    | .ok i => pairWords (slots.push (.insn i)) readings
    | .error _ =>
      match readings with
      | [] => .error (.missingExtension slots.size w.opcode)
      | .error _ :: _ => .error (.missingExtension slots.size w.opcode)
      | .ok x :: rest =>
        match Instruction.decode w (some x) with
        | .ok i => pairWords ((slots.push (.insn i)).push (.extension x)) rest
        | .error _ => .error (.missingExtension slots.size w.opcode)

section PairWords

variable (slots : Array Slot) {w : Word} (readings : List (Except LoadFault Word))

@[simp] theorem pairWords_nil : pairWords slots [] = .ok slots := rfl

@[simp] theorem pairWords_unreadable (e : LoadFault) :
    pairWords slots (.error e :: readings) = .error e := rfl

theorem pairWords_narrow (h : ¬ w.isWide) :
    pairWords slots (.ok w :: readings) =
      pairWords (slots.push (.insn (.narrow w h))) readings := by
  rw [pairWords.eq_def]
  simp only [Instruction.decode_none_of_not_isWide h]

theorem pairWords_wide (h : w.isWide) (x : Word) :
    pairWords slots (.ok w :: .ok x :: readings) =
      pairWords ((slots.push (.insn (.wide w x h))).push (.extension x)) readings := by
  simp only [pairWords, Instruction.decode_none_of_isWide h, Instruction.decode_some_of_isWide h]

theorem pairWords_cut (h : w.isWide) :
    pairWords slots [.ok w] = .error (.missingExtension slots.size w.opcode) := by
  simp only [pairWords, Instruction.decode_none_of_isWide h]

theorem pairWords_cut_unreadable (h : w.isWide) (e : LoadFault) :
    pairWords slots (.ok w :: .error e :: readings) =
      .error (.missingExtension slots.size w.opcode) := by
  simp only [pairWords, Instruction.decode_none_of_isWide h]

end PairWords

/-- Loads a program from words as they are read. -/
def ofReadings (readings : List (Except LoadFault Word)) : Except LoadFault Program :=
  (pairWords #[] readings).map Program.mk

/-- Loads a program from words. -/
def ofWords (words : List Word) : Except LoadFault Program := ofReadings (words.map .ok)

/-! ## Bytes -/

/-- The number of bytes of a word. -/
def bytesPerWord : Nat := 8

/-- The words whose bytes follow one another. -/
def wordsOfBytes (bytes : List Byte) : List Word :=
  (chunks (bytes.length / bytesPerWord) bytesPerWord bytes).map Word.ofBytes

/-- Loads a program from the bytes of its words. -/
def ofBytes (bytes : List Byte) : Except LoadFault Program :=
  if bytes.length % bytesPerWord = 0 then ofWords (wordsOfBytes bytes)
  else .error (.brokenLength bytes.length bytesPerWord)

/-! ## Hexadecimal dumps -/

/-- Loads a program from a hexadecimal dump. -/
def ofHexDump (text : List Byte) : Except LoadFault Program :=
  let digits := HexDump.digits text
  if digits.length % HexDump.digitsPerWord = 0 then
    ofReadings ((HexDump.words digits).map fun reading => reading.mapError .ofBadWord)
  else .error (.brokenLength digits.length HexDump.digitsPerWord)

/-! ## ELF sections -/

/-- Lifts the fault of an ELF file. -/
def liftElf {α : Type} (r : Except Elf.Fault α) : Except LoadFault α := r.mapError .elf

/-- The names of the sections of an ELF file. -/
def sectionNames (data : List Byte) : Except LoadFault (List String) :=
  liftElf (Elf.File.parse data >>= Elf.File.sectionNames)

/-- Loads a program from a section of an ELF file. The words of the program have their bytes in one
order, whatever the byte order of the file is. -/
def ofSection (data : List Byte) (name : String) : Except LoadFault Program := do
  let file ← liftElf (Elf.File.parse data)
  match ← liftElf (file.find? name) with
  | none => .error (.noSuchSection name (← liftElf file.sectionNames))
  | some header => ofBytes (← liftElf (file.contents header))

/-! ## Files -/

/-- Loads what has been read from a file. -/
def ofFile (load : List Byte → Except LoadFault Program)
    (contents : Except FileFault (List Byte)) : Except LoadFault Program := do
  load (← contents.mapError .file)

end Program
end Ebpf
