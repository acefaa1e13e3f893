/-
Exponentials and logarithms.

A transcendental value is computed as an integer multiple of `2 ^ (-precision)`
with far more bits than the format has, and rounded once.  Such a value is never
halfway between two numbers of the format, so the extra bits decide the rounding.
The exact cases need no care of their own, since a value within a few units of
the fixed point of a number rounds to that number.  Powers are the exception: a
rational power can lie exactly halfway, and `exactPower` computes those in
integers.  The decimal logarithm is another one: it is defined by a few rounded
steps from the natural one, so it may be off by a unit in the last place.
-/
import HostLink.Ieee.Arithmetic

namespace HostLink
namespace Ieee

/-! ## Fixed point -/

namespace Fixed

/-- Binary places of the fixed-point numbers. -/
def precision : Nat := 320

def one : Int := Nat.pow 2 precision

def mul (x y : Int) : Int := x * y / one

def div (x y : Int) : Int := x * one / y

/-- `m · 2 ^ q`, cut off below the last place. -/
def ofDyadic (m : Nat) (q : Int) : Int :=
  let shift := q + precision
  m * Nat.pow 2 shift.toNat / Nat.pow 2 (-shift).toNat

/-- The rest of an odd power series: `power / k + power · square / (k + 2) + …`. -/
def atanhTerms (square : Int) : Nat → Int → Nat → Int
  | 0, _, _ => 0
  | fuel + 1, power, k => power / k + atanhTerms square fuel (mul power square) (k + 2)

/-- The natural logarithm of a number between `2 / 3` and `3 / 2`, by
`log x = 2 · artanh ((x - 1) / (x + 1))`.  The argument of the series is at most
a fifth, so each term gives more than four bits. -/
def logNearOne (x : Int) : Int :=
  let t := div (x - one) (x + one)
  2 * atanhTerms (mul t t) 80 t 1

/-- The logarithm of two, from that of `4 / 3` and of `3 / 2`. -/
def logTwo : Int := logNearOne (4 * one / 3) + logNearOne (3 * one / 2)

/-- The rest of the exponential series: `term + term · x / k + …`. -/
def expTerms (x : Int) : Nat → Int → Nat → Int
  | 0, _, _ => 0
  | fuel + 1, term, k => term + expTerms x fuel (mul term x / k) (k + 1)

/-- `exp x` as a significand and a power of two: the multiple of `log 2` nearest
below `x` becomes the power, and the series takes the rest. -/
def exp (x : Int) : Int × Int :=
  let power := x / logTwo
  (expTerms (x - power * logTwo) 90 one 1, power)

/-- The natural logarithm of `m · 2 ^ q` for a positive `m`.  The significand is
brought next to one first, so that nothing cancels. -/
def log (m : Nat) (q : Int) : Int :=
  let top := m.log2
  let significand := ofDyadic m (-top)
  if 2 * significand < 3 * one then
    logNearOne significand + (q + top) * logTwo
  else
    logNearOne (significand / 2) + (q + top + 1) * logTwo

/-- The number nearest to `x · 2 ^ power`. -/
def toBinary64 (x : Int) (power : Int) : Binary64 :=
  Binary64.ofDyadic (x < 0) x.natAbs (power - precision)

end Fixed

namespace Binary64

/-- A power of `e` with an exponent past this bound overflows or vanishes. -/
def expBound : Int := 1000 * Fixed.one

/-- The number nearest to `exp x`, for an exponent in fixed point. -/
def expFixed (x : Int) : Binary64 :=
  if x > expBound then infinity false
  else if x < -expBound then zero
  else
    let r := Fixed.exp x
    Fixed.toBinary64 r.1 r.2

/-- A finite magnitude in fixed point, cut off at `2 ^ 64` so that a huge one
stays a small computation; what it feeds is out of range long before. -/
def clampedFixed (negative : Bool) (m : Nat) (q : Int) : Int :=
  let magnitude := if q + m.log2 > 64 then Nat.pow 2 64 * Fixed.one else Fixed.ofDyadic m q
  if negative then -magnitude else magnitude

def exp (x : Binary64) : Binary64 :=
  match x.decode with
  | .nan => nan
  | .infinity negative => if negative then zero else x
  | .finite negative m q => expFixed (clampedFixed negative m q)

/-- A logarithm that is `value m q` at a positive finite `m · 2 ^ q`.  Zero has the
logarithm minus infinity, negative numbers have none. -/
def logWith (value : Nat → Int → Binary64) (x : Binary64) : Binary64 :=
  match x.decode with
  | .nan => nan
  | .infinity negative => if negative then nan else x
  | .finite negative m q =>
    if m = 0 then infinity true
    else if negative then nan
    else value m q

/-- The natural logarithm of a positive `m · 2 ^ q`. -/
def logPositive (m : Nat) (q : Int) : Binary64 := Fixed.toBinary64 (Fixed.log m q) 0

def log : Binary64 → Binary64 := logWith logPositive

def log2 : Binary64 → Binary64 :=
  logWith fun m q => Fixed.toBinary64 (Fixed.div (Fixed.log m q) Fixed.logTwo) 0

/-! ## Decimal logarithms -/

/-- The decimal logarithm of `e`. -/
def decimalE : Binary64 := ⟨0x3fdbcb7b1526e50e⟩

/-- The decimal logarithm of two, cut off so that its product with an exponent is
exact. -/
def decimalTwo : Binary64 := ⟨0x3fd34413509f6000⟩

/-- What is cut off from `decimalTwo`. -/
def decimalTwoRest : Binary64 := ⟨0x3d59fef311f12b36⟩

/-- The decimal logarithm of a positive `m · 2 ^ q`.  A power of two brings the number
between one and two, or between a half and one if it is less than one; the logarithm of
the power is added to the scaled natural logarithm of what is left. -/
def decimalPositive (m : Nat) (q : Int) : Binary64 :=
  let place := q + m.log2
  let power := if place < 0 then place + 1 else place
  let factor := ofDyadic (power < 0) power.natAbs 0
  ((factor.mul decimalTwoRest).add (decimalE.mul (logPositive m (q - power)))).add
    (factor.mul decimalTwo)

def log10 : Binary64 → Binary64 := logWith decimalPositive

/-! ## Powers -/

/-- A positive dyadic number with an odd significand. -/
def oddPart (m : Nat) (q : Int) : Nat → Nat × Int
  | 0 => (m, q)
  | fuel + 1 => if m % 2 = 0 then oddPart (m / 2) (q + 1) fuel else (m, q)

/-- `(m · 2 ^ q) ^ (n · 2 ^ r)` for odd `m` and `n`, when it is a dyadic number
with few enough bits to be a number of the format or halfway between two.  A
binary fraction in the exponent asks for square roots, which have to be exact;
a negative exponent asks for a power of two. -/
def exactPower (m : Nat) (q : Int) (negative : Bool) (n : Nat) (r : Int) :
    Nat → Option (Nat × Int)
  | 0 => none
  | fuel + 1 =>
    if r < 0 then
      let root := isqrt m
      if root * root = m ∧ q % 2 = 0 then exactPower root (q / 2) negative n (r + 1) fuel
      else none
    else
      let exponent := n * Nat.pow 2 r.toNat
      if m = 1 then
        some (1, if negative then -(q * exponent) else q * exponent)
      else if negative ∨ exponent > 64 then none
      else some (Nat.pow m exponent, q * exponent)

/-- Whether `n · 2 ^ r` is an integer, and whether it is odd. -/
def wholeAndOdd (n : Nat) (r : Int) : Bool × Bool :=
  (isWhole n r, isWhole n r && wholePart n r % 2 == 1)

/-- The number nearest to `k · 2 ^ e` for a positive `k`.  Where its leading digit is far
out of the range of the format, no power of two is computed. -/
def ofFarDyadic (k : Nat) (e : Int) : Binary64 :=
  let place := e + k.log2
  if place > 2000 then infinity false
  else if place < -2000 then zero
  else ofDyadic false k e

/-- The number nearest to `± x ^ y` for a positive `x = m · 2 ^ q` other than one
and a nonzero `y`.  Exponents from `2 ^ 70` on leave the range for any base. -/
def powMagnitude (sign : Bool) (m : Nat) (q : Int) (negative : Bool) (n : Nat) (r : Int) :
    Binary64 :=
  let flip (x : Binary64) : Binary64 := if sign then ⟨x.bits ||| 0x8000000000000000⟩ else x
  let base := oddPart m q 64
  let power := oddPart n r 64
  if power.2 > 70 then
    flip (if (Fixed.log m q < 0) == negative then infinity false else zero)
  else
    match exactPower base.1 base.2 negative power.1 power.2 64 with
    | some (k, e) => flip (ofFarDyadic k e)
    | none =>
      let product := Fixed.log m q * (n * Nat.pow 2 r.toNat) / Nat.pow 2 (-r).toNat
      flip (expFixed (if negative then -product else product))

/-- `x ^ y` with the conventions of IEEE 754: the zeroth power is one, one has
every power one, a negative base needs an integral exponent. -/
def pow (x y : Binary64) : Binary64 :=
  let one := ofDyadic false 1 0
  match x.decode, y.decode with
  | _, .finite _ 0 _ => one
  | .nan, _ => nan
  | _, .nan => if x == one then one else nan
  | .infinity _, .infinity negative => if negative then zero else infinity false
  | .infinity negativeBase, .finite negative n r =>
    let odd := (wholeAndOdd n r).2
    let sign := negativeBase && odd
    if negative then (if sign then ⟨0x8000000000000000⟩ else zero) else infinity sign
  | .finite _ m q, .infinity negative =>
    if m = 0 then (if negative then infinity false else zero)
    else
      let magnitude := oddPart m q 64
      if magnitude = (1, 0) then one
      else if (q + m.log2 < 0) == negative then infinity false
      else zero
  | .finite negativeBase m q, .finite negative n r =>
    let parity := wholeAndOdd n r
    let sign := negativeBase && parity.2
    if m = 0 then
      if negative then infinity sign else if sign then ⟨0x8000000000000000⟩ else zero
    else if negativeBase && !parity.1 then nan
    else if oddPart m q 64 = (1, 0) then (if sign then ofDyadic true 1 0 else one)
    else powMagnitude sign m q negative n r

end Binary64
end Ieee
end HostLink
