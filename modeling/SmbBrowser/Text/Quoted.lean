import SmbBrowser.Text.Hex
import SmbBrowser.Text.Printable

/-! Text between double quotes, with every character that could not be seen written as an escape. -/

namespace SmbBrowser.Text

/-- One character inside quotes: itself, a short escape, or its code point in braces. -/
def quoteChar (c : Char) : String :=
  if c = '"' then "\\\""
  else if c = '\\' then "\\\\"
  else if c = '\n' then "\\n"
  else if c = '\r' then "\\r"
  else if c = '\t' then "\\t"
  else if c.toNat = 0 then "\\0"
  else if isPrintable c then c.toString
  else "\\u\x7b" ++ hex 1 c.toNat ++ "\x7d"

/-- A text in double quotes that shows each of its characters. -/
def quoted (text : String) : String :=
  "\"" ++ String.join (text.toList.map quoteChar) ++ "\""

end SmbBrowser.Text
