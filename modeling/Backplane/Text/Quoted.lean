import Backplane.Text.Numeral
import Backplane.Text.Unprinted

/-!
# Quoted text

Text between quotation marks, for descriptions. Quotation marks and backslashes
have a backslash in front, and what would not show is spelled out: a few
controls by a letter, all else by its code point.
-/

namespace Backplane.Quoted

/-- A character inside quotation marks. -/
def escape (c : Char) : String :=
  if c = '\x00' then "\\0"
  else if c = '\t' then "\\t"
  else if c = '\r' then "\\r"
  else if c = '\n' then "\\n"
  else if c = '"' then "\\\""
  else if c = '\\' then "\\\\"
  else if Unprinted.isUnprinted c then "\\u\x7b" ++ Numeral.hexLower c.toNat ++ "\x7d"
  else String.singleton c

/-- `text` between quotation marks. -/
def quote (text : String) : String := "\"" ++ String.join (text.toList.map escape) ++ "\""

end Backplane.Quoted
