/-
Exact operations on double precision numbers.

Each operation reads its operands as exact dyadic numbers, computes in the
integers, and rounds at most once.  `rem` never rounds, since the remainder of two
numbers is itself a number of the format.

`toInt32` goes through numbers of the format: the integer part, its remainder
modulo `2 ^ 32`, the same made positive by an addition, and a word.  The addition
could round, but an integer part is a whole number and the sum stays below `2 ^ 32`.
-/
import HostLink.Ieee.Format

namespace HostLink
namespace Ieee

/-- The integer square root, one binary digit of the root at a time. -/
def isqrt (n : Nat) : Nat :=
  if n = 0 then 0
  else
    let root := 2 * isqrt (n / 4)
    if (root + 1) * (root + 1) ≤ n then root + 1 else root
termination_by n
decreasing_by omega

namespace Binary64

/-- How many times `2 ^ unit` the number `± m · 2 ^ q` is, for a unit not above `q`. -/
def multiple (negative : Bool) (m : Nat) (q unit : Int) : Int :=
  let magnitude : Int := m * Nat.pow 2 (q - unit).toNat
  if negative then -magnitude else magnitude

/-- The rounded sum.  A zero sum is negative only if both numbers are, and infinities of
opposite signs have no sum. -/
def add (x y : Binary64) : Binary64 :=
  match x.decode, y.decode with
  | .nan, _ | _, .nan => nan
  | .infinity a, .infinity b => if a = b then x else nan
  | .infinity _, _ => x
  | _, .infinity _ => y
  | .finite a m q, .finite b n r =>
    let unit := min q r
    let sum := multiple a m q unit + multiple b n r unit
    ofDyadic (if sum = 0 then a && b else sum < 0) sum.natAbs unit

/-- The rounded product.  Zero and an infinity have none. -/
def mul (x y : Binary64) : Binary64 :=
  match x.decode, y.decode with
  | .nan, _ | _, .nan => nan
  | .infinity a, .infinity b => infinity (a != b)
  | .infinity a, .finite b n _ => if n = 0 then nan else infinity (a != b)
  | .finite a m _, .infinity b => if m = 0 then nan else infinity (a != b)
  | .finite a m q, .finite b n r => ofDyadic (a != b) (m * n) (q + r)

def abs (x : Binary64) : Binary64 := ⟨x.bits &&& 0x7fffffffffffffff⟩

/-- The integer part of `m · 2 ^ q` toward zero. -/
def wholePart (m : Nat) (q : Int) : Nat := m * Nat.pow 2 q.toNat / Nat.pow 2 (-q).toNat

/-- Whether `m · 2 ^ q` is an integer. -/
def isWhole (m : Nat) (q : Int) : Bool := m * Nat.pow 2 q.toNat % Nat.pow 2 (-q).toNat == 0

/-- Rounds to an integer, a number of the given sign away from zero or toward it.  The
sign is kept, also that of a zero result. -/
def roundWhole (awayFromZero : Bool → Bool) (x : Binary64) : Binary64 :=
  match x.decode with
  | .finite negative m q =>
    let away := awayFromZero negative && !isWhole m q
    ofDyadic negative (wholePart m q + if away then 1 else 0) 0
  | _ => x

def floor : Binary64 → Binary64 := roundWhole fun negative => negative

def ceil : Binary64 → Binary64 := roundWhole fun negative => !negative

def trunc : Binary64 → Binary64 := roundWhole fun _ => false

/-- The square root of `m · 2 ^ q` as a dyadic number one odd unit away from
exact at most: the last bit records whether the root was inexact, which is all
that rounding needs once the root has more bits than the format. -/
def sqrtDyadic (m : Nat) (q : Int) : Nat × Int :=
  let shift := 2 * 64 + (q % 2).toNat
  let radicand := m * Nat.pow 2 shift
  let root := isqrt radicand
  let sticky := if root * root = radicand then 0 else 1
  (2 * root + sticky, (q - shift) / 2 - 1)

/-- The correctly rounded square root; negative numbers have none. -/
def sqrt (x : Binary64) : Binary64 :=
  match x.decode with
  | .nan => nan
  | .infinity negative => if negative then nan else x
  | .finite negative m q =>
    if m = 0 then x
    else if negative then nan
    else
      let root := sqrtDyadic m q
      ofDyadic false root.1 root.2

/-- The remainder of truncating division, with the sign of the dividend. -/
def rem (x y : Binary64) : Binary64 :=
  match x.decode, y.decode with
  | .finite negative m q, .finite _ n r =>
    if n = 0 then nan
    else
      let unit := min q r
      let dividend := m * Nat.pow 2 (q - unit).toNat
      let divisor := n * Nat.pow 2 (r - unit).toNat
      ofDyadic negative (dividend % divisor) unit
  | .finite .., .infinity _ => x
  | _, _ => nan

/-- Whether a number is below zero, which neither zero is. -/
def isNegative (x : Binary64) : Bool :=
  match x.decode with
  | .nan => false
  | .infinity negative => negative
  | .finite negative m _ => negative && m != 0

/-- The remainder moved up by a divisor if it is below zero. -/
def euclideanRem (x y : Binary64) : Binary64 :=
  let remainder := x.rem y
  if remainder.isNegative then remainder.add y.abs else remainder

/-- The integer part as a word, or the word nearest to it; a NaN has zero. -/
def toUInt32 (x : Binary64) : UInt32 :=
  match x.decode with
  | .nan => 0
  | .infinity negative => if negative then 0 else UInt32.ofNat (UInt32.size - 1)
  | .finite negative m q =>
    if negative then 0 else UInt32.ofNat (min (wholePart m q) (UInt32.size - 1))

/-- `2 ^ 32`. -/
def wordModulus : Binary64 := ⟨0x41f0000000000000⟩

/-- The integer part reduced modulo `2 ^ 32` to a signed word; zero for a number
that has no integer part. -/
def toInt32 (x : Binary64) : Int32 :=
  match x.decode with
  | .finite .. => (x.trunc.euclideanRem wordModulus).toUInt32.toInt32
  | _ => 0

end Binary64
end Ieee
end HostLink
