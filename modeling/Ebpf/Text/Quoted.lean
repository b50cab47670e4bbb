import Ebpf.Text.Digits
import Ebpf.Text.Visible

/-!
# Quoted texts

Messages show a text from the input between double quotes. Inside, a double quote and a backslash
get a backslash, four controls have short names, and whatever cannot be shown by itself is spelled
by its code point: a backslash, the letter `u` and the hexadecimal digits between braces.
-/

namespace Ebpf
namespace Text

/-- The spelling of a character by its code point in hexadecimal. -/
def codePoint (c : Char) : String :=
  "\\u\x7b" ++ hex 1 c.toNat ++ "\x7d"

/-- The spelling of a character inside double quotes. -/
def quotedChar (c : Char) : String :=
  if c = '\x00' then "\\0"
  else if c = '\t' then "\\t"
  else if c = '\n' then "\\n"
  else if c = '\r' then "\\r"
  else if c = '\x22' then "\\\x22"
  else if c = '\\' then "\\\\"
  else if isVisible c then String.singleton c
  else codePoint c

/-- A text between double quotes. -/
def quoted (s : String) : String :=
  "\x22" ++ String.join (s.toList.map quotedChar) ++ "\x22"

end Text
end Ebpf
