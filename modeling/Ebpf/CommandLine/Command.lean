import Ebpf.CommandLine.Arguments
import Ebpf.CommandLine.Failure

/-!
# Commands

What the program prints. The file has been read before, or the attempt has failed; all the rest is
decided here: loading the program, listing it or running it, and reporting a failure.

A run prints for each instruction its slot and its text behind an arrow, and then the registers.
Like a listing, it describes an encoding that has no text, and ends at one that is not defined.
-/

namespace Ebpf
namespace CommandLine

/-- What a process leaves behind. -/
structure Outcome where
  /-- The exit code. -/
  code : Nat
  /-- What is written to standard output. -/
  out : String
  /-- What is written to standard error. -/
  err : String
  deriving DecidableEq, Repr

/-- Loads the program that the options ask for. -/
def loadProgram (o : Options) (contents : Except FileFault (List Byte)) :
    Except Failure Program :=
  match o.format, o.sectionName with
  | .ascii, _ => (Program.ofFile Program.ofHexDump contents).mapError (.loadDump o.file)
  | .elf, some name =>
    (Program.ofFile (Program.ofSection · name) contents).mapError (.loadSection o.file name)
  | .elf, none => do
    let data ← contents.mapError (.readFile o.file)
    let names ← (Program.sectionNames data).mapError (.parseFile o.file)
    .error (.needsSection names)

/-- What is listed, line by line, and the failure that ends it. -/
def list (p : Program) (style : ListingStyle) : List String × Option Failure :=
  let (lines, failure) := p.printed style
  (lines, failure.map .listing)

/-- What a run shows of an instruction: a description may stand in for a missing text. -/
def shown (i : Instruction) : Except RenderFault String :=
  match i.disassemble with
  | .ok text => .ok text
  | .error (.unsupported encoding) => .ok encoding.description
  | .error e => .error e

/-- What one turn of a run prints, and the machine after it or the end of the run; `width` is the
width of the slot numbers. -/
def turn (width : Nat) (m : Machine) : List String × Except (Option Failure) Machine :=
  match m.next with
  | .error .endOfProgram => ([], .error none)
  | .error e => ([], .error (some (.step e)))
  | .ok i =>
    match shown i with
    | .error e => ([], .error (some (.decode m.pc e)))
    | .ok text =>
      let line := "=> " ++ Text.decimal width m.pc ++ ": " ++ text
      match m.step with
      | (.error e, _) => ([line], .error (some (.execute m.pc e)))
      | (.ok (), m') => ([line, m'.registers.dump], .ok m')

/-- A turn that does not end the run moves on in the program. -/
theorem turn_pc_lt {width : Nat} {m m' : Machine} {lines : List String}
    (h : turn width m = (lines, .ok m')) :
    m'.program.size - m'.pc < m.program.size - m.pc := by
  have : m.step = (.ok (), m') := by
    unfold turn at h
    repeat' split at h
    all_goals cases h
    assumption
  exact Machine.step_pc_lt this

/-- What a run prints from where the machine is, and the failure that ends it. -/
def executeFrom (width : Nat) (m : Machine) : List String × Option Failure :=
  match h : turn width m with
  | (lines, .error failure) => (lines, failure)
  | (lines, .ok m') =>
    have := turn_pc_lt h
    let rest := executeFrom width m'
    (lines ++ rest.1, rest.2)
termination_by m.program.size - m.pc

theorem executeFrom_of_turn_ok {width : Nat} {m m' : Machine} {lines : List String}
    (h : turn width m = (lines, .ok m')) :
    executeFrom width m = (lines ++ (executeFrom width m').1, (executeFrom width m').2) := by
  rw [executeFrom]
  split <;> simp_all

theorem executeFrom_of_turn_error {width : Nat} {m : Machine} {lines : List String}
    {failure : Option Failure} (h : turn width m = (lines, .error failure)) :
    executeFrom width m = (lines, failure) := by
  rw [executeFrom]
  split <;> simp_all

/-- What a run of a program prints, line by line, and the failure that ends it. Slot numbers have as
many digits as the largest one. -/
def execute (p : Program) : List String × Option Failure :=
  executeFrom (Text.decimalWidth (p.size - 1)) (Machine.ofProgram p)

/-- The line that reports what has been loaded. -/
def loadedLine (o : Options) (p : Program) : String :=
  "Loaded " ++ o.file ++ " (" ++ Text.natural p.size ++ " slots, " ++
    Text.natural p.insnCount ++ " instructions)\n"

/-- Lines of output, each of them ended. -/
def unlines (lines : List String) : String :=
  String.join (lines.map (· ++ "\n"))

/-- Works on the program that the options ask for. -/
def run (o : Options) (contents : Except FileFault (List Byte)) : Outcome :=
  match loadProgram o contents with
  | .error failure => ⟨1, "", failure.report⟩
  | .ok p =>
    let loaded := if o.verbose then loadedLine o p else ""
    let (lines, failure) := if o.execute then execute p else list p o.style
    match failure with
    | none => ⟨0, unlines lines, loaded⟩
    | some f => ⟨1, unlines lines, loaded ++ f.report⟩

/-- What is left behind by a call whose arguments ask for nothing. -/
def usage (e : UsageFault) : Outcome :=
  ⟨2, "", "error: " ++ e.message ++ "\n\n" ++ usageText ++
    "\n\nFor more information, try '--help'.\n"⟩

/-- The file that arguments ask for, if they ask for one. -/
def fileOf : Except UsageFault Request → Option String
  | .ok (.run o) => some o.file
  | _ => none

/-- What a call leaves behind, given what its arguments ask for and the file among them. -/
def answer (request : Except UsageFault Request) (contents : Except FileFault (List Byte)) :
    Outcome :=
  match request with
  | .error e => usage e
  | .ok .version => ⟨0, versionText ++ "\n", ""⟩
  | .ok .help => ⟨0, helpText ++ "\n", ""⟩
  | .ok (.run o) => run o contents

end CommandLine
end Ebpf
