/-
Hexadecimal digits, in either case.
-/

namespace HostLink
namespace Digit

def isHex (c : Char) : Bool :=
  c.isDigit || ('a' ≤ c && c ≤ 'f') || ('A' ≤ c && c ≤ 'F')

/-- The value of a digit; only for hexadecimal digits does it mean anything. -/
def value (c : Char) : Nat :=
  if c.isDigit then c.toNat - 48
  else if 'a' ≤ c then c.toNat - 87
  else c.toNat - 55

end Digit
end HostLink
