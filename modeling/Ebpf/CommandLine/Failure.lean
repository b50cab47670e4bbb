import Ebpf.Machine
import Ebpf.Program.Load

/-!
# Failures of a command

A failure says in which part of the work it happened and what was behind it. The report has the
part in its first line and then the causes, from the outer to the inner: one cause is indented,
several are numbered. The further lines of a cause that has several are indented as far as its
first.
-/

namespace Ebpf
namespace CommandLine

/-- Why a command fails. -/
inductive Failure where
  /-- An ELF file is given and no section. -/
  | needsSection (available : List String)
  /-- The file cannot be read. -/
  | readFile (path : String) (e : FileFault)
  /-- The file is not an ELF file. -/
  | parseFile (path : String) (e : LoadFault)
  /-- The dump cannot be loaded. -/
  | loadDump (path : String) (e : LoadFault)
  /-- The section cannot be loaded. -/
  | loadSection (path name : String) (e : LoadFault)
  /-- The listing ends at an instruction without a text. -/
  | listing (e : RenderFault)
  /-- The run ends at an instruction without a text. -/
  | decode (slot : Nat) (e : RenderFault)
  /-- The run ends at an instruction that cannot be executed. -/
  | execute (slot : Nat) (e : StepFault)
  /-- The run has no next instruction and is not at the end. -/
  | step (e : StepFault)
  deriving DecidableEq, Repr

namespace Failure

/-- The part of the work that fails. -/
def context : Failure → String
  | .needsSection available =>
    "ELF input needs a section name, available sections: " ++ String.intercalate ", " available
  | .readFile path _ => "Failed to read file: " ++ path
  | .parseFile path _ => "Failed to parse ELF file: " ++ path
  | .loadDump path _ => "Failed to load ASCII program: " ++ path
  | .loadSection path name _ => "Failed to load section " ++ name ++ " of " ++ path
  | .listing _ => "Disassembly stopped"
  | .decode slot _ => "Failed to decode slot " ++ Text.natural slot
  | .execute slot _ => "Failed to execute slot " ++ Text.natural slot
  | .step e => e.message

/-- What is behind the failure, from the outer cause to the inner. -/
def causes : Failure → List String
  | .needsSection _ => []
  | .readFile _ e => [e.message]
  | .parseFile _ e | .loadDump _ e | .loadSection _ _ e => e.message :: e.causes
  | .listing e | .decode _ e => [e.message]
  | .execute _ e => [e.message]
  | .step _ => []

end Failure

/-- A text whose further lines are indented. -/
def indentLines (indent text : String) : String :=
  String.join (text.toList.map fun c =>
    if c = '\n' then "\n" ++ indent else String.singleton c)

/-- A number in a field of five columns. -/
def causeNumber (n : Nat) : String :=
  String.ofList ((Nat.toDigits 10 n).leftpad 5 ' ')

/-- The lines for numbered causes. -/
def numberedCauses (causes : List String) : String :=
  String.join (causes.zipIdx.map fun (cause, n) =>
    causeNumber n ++ ": " ++ indentLines "       " cause ++ "\n")

/-- The lines for all causes. -/
def causeLines : List String → String
  | [] => ""
  | [cause] => "\nCaused by:\n    " ++ indentLines "    " cause ++ "\n"
  | causes => "\nCaused by:\n" ++ numberedCauses causes

/-- What is reported for a failure. -/
def Failure.report (f : Failure) : String :=
  "Error: " ++ f.context ++ "\n" ++ causeLines f.causes

end CommandLine
end Ebpf
