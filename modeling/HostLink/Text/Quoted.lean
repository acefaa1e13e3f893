/-
Texts between quotes, as diagnostics show them.

Quotes, backslashes and the usual control characters are escaped by a letter, and
any other character that leaves no mark of its own by its code in hexadecimal.
-/
import HostLink.Text.Unprintable

namespace HostLink

def hexCode (c : Char) : String := String.ofList (Nat.toDigits 16 c.toNat)

/-- A character between quotes. -/
def escaped (c : Char) : String :=
  if c = '"' then "\\\""
  else if c = '\\' then "\\\\"
  else if c = '\n' then "\\n"
  else if c = '\r' then "\\r"
  else if c = '\t' then "\\t"
  else if c.toNat = 0 then "\\0"
  else if isUnprintable c then "\\u\x7b" ++ hexCode c ++ "\x7d"
  else c.toString

def quoted (text : String) : String := "\"" ++ String.join (text.toList.map escaped) ++ "\""

end HostLink
