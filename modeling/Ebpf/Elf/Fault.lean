import Ebpf.Text.Utf8

/-!
# Faults of ELF files

Why a file cannot be read as ELF, and how each fault is reported. Places in the file are written in
upper-case hexadecimal without padding.
-/

namespace Ebpf
namespace Elf

/-- A fault of an ELF file. -/
inductive Fault where
  /-- The file does not start with the four bytes of the format. -/
  | badMagic (b0 b1 b2 b3 : Byte)
  /-- The version byte is not 1. -/
  | unsupportedVersion (found : Byte)
  /-- The byte for 32 or 64 bits has another value. -/
  | unsupportedClass (found : Byte)
  /-- The byte for the byte order has another value. -/
  | unsupportedByteOrder (found : Byte)
  /-- A table has entries of an unexpected size. -/
  | badEntrySize (expected found : Nat)
  /-- An index or offset points past the end of its table. -/
  | badOffset (offset : Nat)
  /-- A name goes on to the end of the name table. -/
  | missingTerminator (offset : Nat)
  /-- Bytes lie outside of what there is. -/
  | outOfRange (start stop : Nat)
  /-- A sum or product of offsets and sizes does not fit into 64 bits. -/
  | overflow
  /-- A name is not UTF-8. -/
  | badName (e : Text.Utf8.Fault)
  deriving DecidableEq, Repr

namespace Fault

/-- A place or size as messages spell it. -/
def place (n : Nat) : String := "0x" ++ Text.hexUpper n

/-- What is reported for a fault. -/
def message : Fault → String
  | .badMagic b0 b1 b2 b3 =>
    "Invalid Magic Bytes: [" ++
      String.intercalate ", " ([b0, b1, b2, b3].map fun b => Text.hexUpper b.toNat) ++ "]"
  | .unsupportedVersion b =>
    "Unsupported ELF Version field found: " ++ Text.natural b.toNat ++ " expected: 1"
  | .unsupportedClass b => "Unsupported ELF Class: " ++ Text.natural b.toNat
  | .unsupportedByteOrder b => "Unsupported ELF Endianness: " ++ Text.natural b.toNat
  | .badEntrySize expected found =>
    "Invalid entsize. Expected: " ++ place expected ++ ", Found: " ++ place found
  | .badOffset offset => "Bad offset: " ++ place offset
  | .missingTerminator offset =>
    "Could not find terminating NUL byte starting at offset: " ++ place offset
  | .outOfRange start stop =>
    "Could not read bytes in range [" ++ place start ++ ", " ++ place stop ++ ")"
  | .overflow => "Integer overflow detected"
  | .badName e => e.message

/-- The faults behind a fault, as they are reported. -/
def causes : Fault → List String
  | .badName e => [e.message]
  | _ => []

end Fault
end Elf
end Ebpf
