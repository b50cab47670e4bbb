/-!
# Number spellings

The spellings of numbers that listings and messages are made of.

* `natural` is the plain decimal spelling;
* `decimal` and `hex` pad with zeros on the left to a width and never cut a number that is longer;
* `integer` writes a minus sign only when it has to, `signed` always writes a sign;
* `hexUpper` is the unpadded spelling in capital digits.
-/

namespace Ebpf
namespace Text

/-- The decimal digits of `n`. -/
def natural (n : Nat) : String :=
  String.ofList (Nat.toDigits 10 n)

/-- The decimal digits of `n`, padded with zeros on the left to `width` digits. -/
def decimal (width n : Nat) : String :=
  String.ofList ((Nat.toDigits 10 n).leftpad width '0')

/-- The number of decimal digits of `n`; zero has one. -/
def decimalWidth (n : Nat) : Nat :=
  (Nat.toDigits 10 n).length

/-- The lower-case hexadecimal digits of `n`, padded with zeros on the left to `width` digits. -/
def hex (width n : Nat) : String :=
  String.ofList ((Nat.toDigits 16 n).leftpad width '0')

/-- The upper-case hexadecimal digits of `n`, without padding. -/
def hexUpper (n : Nat) : String :=
  String.ofList ((Nat.toDigits 16 n).map Char.toUpper)

/-- The decimal spelling of an integer: a minus sign in front of a negative number, and no sign in
front of any other. -/
def integer (k : Int) : String :=
  if k < 0 then "-" ++ natural k.natAbs else natural k.natAbs

/-- The decimal spelling of an integer with its sign, `+` also in front of zero. -/
def signed (k : Int) : String :=
  if k < 0 then "-" ++ natural k.natAbs else "+" ++ natural k.natAbs

end Text
end Ebpf
