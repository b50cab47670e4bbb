import Ebpf.Word

/-!
# UTF-8

A character takes one to four bytes. The first byte says how many follow and what the second may
be; the later ones are `80` to `BF`. Bytes that start a character and are then broken off are
reported, or replaced, as one part: the longest start of a character that they are.

* `encode` writes a text;
* `decode` reads a text that has to be UTF-8 throughout and says where it is not;
* `decodeLossy` puts one `replacement` for every broken part.
-/

namespace Ebpf
namespace Text
namespace Utf8

/-! ## Writing -/

/-- The bytes of a character. -/
def encodeChar (c : Char) : List Byte :=
  let n := c.toNat
  let tail (k : Nat) : Byte := BitVec.ofNat 8 (0x80 + k % 0x40)
  if n < 0x80 then [BitVec.ofNat 8 n]
  else if n < 0x800 then [BitVec.ofNat 8 (0xc0 + n / 0x40), tail n]
  else if n < 0x10000 then [BitVec.ofNat 8 (0xe0 + n / 0x1000), tail (n / 0x40), tail n]
  else [BitVec.ofNat 8 (0xf0 + n / 0x40000), tail (n / 0x1000), tail (n / 0x40), tail n]

/-- The bytes of a text. -/
def encode (s : String) : List Byte := s.toList.flatMap encodeChar

/-! ## The form of a character -/

/-- A character that has begun: what is read of it and what has to follow. -/
structure Unfinished where
  /-- The bytes read so far. -/
  used : Nat
  /-- The bytes still owed, not counting the next one. -/
  owed : Nat
  /-- The least next byte. -/
  low : Nat
  /-- The greatest next byte. -/
  high : Nat
  /-- The bits of the code point so far. -/
  bits : Nat
  deriving DecidableEq, Repr

/-- What the first byte of a character says. -/
inductive Start where
  /-- It is a character by itself. -/
  | char (c : Char)
  /-- More bytes have to follow. -/
  | more (p : Unfinished)
  /-- No character starts with it. -/
  | invalid
  deriving DecidableEq, Repr

/-- Looks at the first byte of a character. -/
def start (b : Byte) : Start :=
  let n := b.toNat
  if n < 0x80 then .char (Char.ofNat n)
  else if n < 0xc2 then .invalid
  else if n < 0xe0 then .more ⟨1, 0, 0x80, 0xbf, n % 0x20⟩
  else if n = 0xe0 then .more ⟨1, 1, 0xa0, 0xbf, n % 0x10⟩
  else if n = 0xed then .more ⟨1, 1, 0x80, 0x9f, n % 0x10⟩
  else if n < 0xf0 then .more ⟨1, 1, 0x80, 0xbf, n % 0x10⟩
  else if n = 0xf0 then .more ⟨1, 2, 0x90, 0xbf, n % 0x08⟩
  else if n < 0xf4 then .more ⟨1, 2, 0x80, 0xbf, n % 0x08⟩
  else if n = 0xf4 then .more ⟨1, 2, 0x80, 0x8f, n % 0x08⟩
  else .invalid

/-- What the next byte does to a character that has begun. -/
inductive Step where
  /-- It completes the character. -/
  | char (c : Char)
  /-- More bytes have to follow. -/
  | more (p : Unfinished)
  /-- It does not belong to the character. -/
  | broken
  deriving DecidableEq, Repr

/-- Looks at the next byte of a character that has begun. -/
def Unfinished.step (p : Unfinished) (b : Byte) : Step :=
  let bits := p.bits * 0x40 + b.toNat % 0x40
  if b.toNat < p.low ∨ p.high < b.toNat then .broken
  else match p.owed with
    | 0 => .char (Char.ofNat bits)
    | owed + 1 => .more ⟨p.used + 1, owed, 0x80, 0xbf, bits⟩

/-! ## Reading strictly -/

/-- Where a text stops being UTF-8. -/
structure Fault where
  /-- The number of bytes before the broken part. -/
  validUpTo : Nat
  /-- The length of the broken part; none if the text ends inside a character. -/
  length? : Option Nat
  deriving DecidableEq, Repr

/-- What is reported for a text that is not UTF-8. -/
def Fault.message (e : Fault) : String :=
  match e.length? with
  | some n =>
    "invalid utf-8 sequence of " ++ natural n ++ " bytes from index " ++
      natural e.validUpTo
  | none => "incomplete utf-8 byte sequence from index " ++ natural e.validUpTo

/-- Reads characters; `index` is where the current one starts, `pending` what is read of it. -/
def decodeFrom (index : Nat) : Option Unfinished → List Byte → Except Fault (List Char)
  | none, [] => .ok []
  | some _, [] => .error ⟨index, none⟩
  | none, b :: bs =>
    match start b with
    | .char c => (decodeFrom (index + 1) none bs).map (c :: ·)
    | .more p => decodeFrom index (some p) bs
    | .invalid => .error ⟨index, some 1⟩
  | some p, b :: bs =>
    match p.step b with
    | .char c => (decodeFrom (index + p.used + 1) none bs).map (c :: ·)
    | .more q => decodeFrom index (some q) bs
    | .broken => .error ⟨index, some p.used⟩

/-- Reads a text that has to be UTF-8 throughout. -/
def decode (bytes : List Byte) : Except Fault String :=
  (decodeFrom 0 none bytes).map String.ofList

/-! ## Reading with replacements -/

/-- The character that stands for a broken part. -/
def replacement : Char := Char.ofNat 0xfffd

/-- Reads characters, a replacement for every broken part. A byte that breaks off a character may
start the next one. -/
def decodeLossyFrom : Option Unfinished → List Byte → List Char
  | none, [] => []
  | some _, [] => [replacement]
  | none, b :: bs =>
    match start b with
    | .char c => c :: decodeLossyFrom none bs
    | .more p => decodeLossyFrom (some p) bs
    | .invalid => replacement :: decodeLossyFrom none bs
  | some p, b :: bs =>
    match p.step b with
    | .char c => c :: decodeLossyFrom none bs
    | .more q => decodeLossyFrom (some q) bs
    | .broken =>
      replacement ::
        match start b with
        | .char c => c :: decodeLossyFrom none bs
        | .more q => decodeLossyFrom (some q) bs
        | .invalid => replacement :: decodeLossyFrom none bs

/-- Reads any bytes as a text, a replacement for every broken part. -/
def decodeLossy (bytes : List Byte) : String :=
  String.ofList (decodeLossyFrom none bytes)

end Utf8
end Text
end Ebpf
