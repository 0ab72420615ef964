import Tenancy.Text.Printable
import Tenancy.Text.Hex

/-!
# Quoted text

Text between double quotes with what could not be read off a message escaped: quotes and
backslashes, line ends and tabs, the null character, and every character without a glyph of its
own as its code point in braces.
-/

namespace Tenancy.Text

/-- One character inside quotes. -/
def quotedChar (c : Char) : String :=
  if c = '"' then "\\\""
  else if c = '\\' then "\\\\"
  else if c = '\n' then "\\n"
  else if c = '\r' then "\\r"
  else if c = '\t' then "\\t"
  else if c.toNat = 0 then "\\0"
  else if isPrintable c then String.singleton c
  else "\\u\x7b" ++ hexText c.toNat ++ "\x7d"

/-- The text between quotes. -/
def quoted (s : String) : String :=
  "\"" ++ String.join (s.toList.map quotedChar) ++ "\""

end Tenancy.Text
