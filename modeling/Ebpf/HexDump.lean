import Ebpf.Chunks
import Ebpf.Text.Utf8
import Ebpf.Word

/-!
# Hexadecimal dumps

A dump spells words by sixteen hexadecimal digits each, in either case. White space counts nowhere,
not even inside a word.

* `digits` removes the white space;
* `words` reads the words, each on its own, so that one with something else than digits keeps its
  place among the others.
-/

namespace Ebpf
namespace HexDump

/-- White space: the space, the tab, the line feed, the form feed and the carriage return. -/
def isBlank (b : Byte) : Bool :=
  b = 0x20 || b = 0x09 || b = 0x0a || b = 0x0c || b = 0x0d

/-- A dump without its white space. -/
def digits (text : List Byte) : List Byte := text.filter fun b => !isBlank b

/-- The value of a hexadecimal digit in either case. -/
def digit? (b : Byte) : Option Nat :=
  let n := b.toNat
  if 0x30 ≤ n ∧ n ≤ 0x39 then some (n - 0x30)
  else if 0x41 ≤ n ∧ n ≤ 0x46 then some (n - 0x41 + 10)
  else if 0x61 ≤ n ∧ n ≤ 0x66 then some (n - 0x61 + 10)
  else none

/-- The number that digits spell, the most significant digit first. -/
def value (ds : List Nat) : Nat := ds.foldl (fun n d => 16 * n + d) 0

/-- The word that hexadecimal digits spell. -/
def word? (digits : List Byte) : Option Word :=
  (digits.mapM digit?).map fun ds => BitVec.ofNat 64 (value ds)

/-- The number of digits of a word. -/
def digitsPerWord : Nat := 16

/-- A word that cannot be read. -/
structure BadWord where
  /-- Where it stands among the digits. -/
  offset : Nat
  /-- What stands there. -/
  text : String
  deriving DecidableEq, Repr

/-- Reads one piece of a dump; `index` is the number of pieces before it. -/
def readPiece (piece : List Byte) (index : Nat) : Except BadWord Word :=
  match word? piece with
  | some w => .ok w
  | none => .error ⟨index * digitsPerWord, Text.Utf8.decodeLossy piece⟩

/-- The words of a dump in order, those that cannot be read among them. -/
def words (digits : List Byte) : List (Except BadWord Word) :=
  (chunks (digits.length / digitsPerWord) digitsPerWord digits).zipIdx.map fun (piece, index) =>
    readPiece piece index

end HexDump
end Ebpf
