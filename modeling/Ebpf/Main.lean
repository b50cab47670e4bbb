import Ebpf.CommandLine.Command

/-!
# The command

Reads the arguments and the file, and prints what `CommandLine.answer` says. Nothing is decided
here.
-/

namespace Ebpf
namespace CommandLine

/-- The fault of a file, from what the system reports. -/
def systemFault : IO.Error → FileFault
  | .noFileOrDirectory _ code details => ⟨details, code.toNat⟩
  | .permissionDenied _ code details => ⟨details, code.toNat⟩
  | .inappropriateType _ code details => ⟨details, code.toNat⟩
  | .invalidArgument _ code details => ⟨details, code.toNat⟩
  | .resourceExhausted _ code details => ⟨details, code.toNat⟩
  | .hardwareFault code details => ⟨details, code.toNat⟩
  | .otherError code details => ⟨details, code.toNat⟩
  | e => ⟨toString e, 5⟩

/-- The bytes of a file. -/
def readFile (path : String) : IO (Except FileFault (List Byte)) := do
  try
    let bytes ← IO.FS.readBinFile path
    return .ok (bytes.toList.map UInt8.toBitVec)
  catch e => return .error (systemFault e)

/-- Prints what a process leaves behind, and gives its exit code. -/
def finish (o : Outcome) : IO UInt32 := do
  IO.print o.out
  IO.eprint o.err
  return o.code.toUInt32

end CommandLine
end Ebpf

open Ebpf.CommandLine in
/-- The command with its arguments. -/
def main (args : List String) : IO UInt32 := do
  let request := parse args
  let contents ←
    match fileOf request with
    | none => pure (.ok [])
    | some path => readFile path
  finish (answer request contents)
