/-
Binary interchange formats read as exact numbers.

A bit pattern of a format denotes a NaN, an infinity, or `± m · 2 ^ q` for a
natural `m` and an integer `q`.  `decode` gives that reading and `ofRatio` goes
back: it rounds an exact quotient to the nearest pattern, a tie to the even one.
Everything is natural-number arithmetic, so an operation defined through the two
is exact up to one rounding, and no proof has to look inside a machine float.
-/

namespace HostLink
namespace Ieee

/-- A binary interchange format, by the width of its stored significand and of
its exponent field. -/
structure Format where
  fraction : Nat
  exponent : Nat
  deriving DecidableEq, Repr

def binary32 : Format := { fraction := 23, exponent := 8 }

def binary64 : Format := { fraction := 52, exponent := 11 }

/-- What a bit pattern denotes. -/
inductive Datum where
  | nan
  | infinity (negative : Bool)
  | finite (negative : Bool) (m : Nat) (q : Int)
  deriving DecidableEq, Repr

namespace Format

/-- The exponent of the last place of the subnormal numbers, which is the
smallest exponent any pattern has. -/
def minExponent (fmt : Format) : Int := 2 - Nat.pow 2 (fmt.exponent - 1) - fmt.fraction

/-- The exponent field of infinities and NaNs: all ones. -/
def topField (fmt : Format) : Nat := Nat.pow 2 fmt.exponent - 1

def signBit (fmt : Format) : Nat := Nat.pow 2 (fmt.fraction + fmt.exponent)

def infinityBits (fmt : Format) (negative : Bool) : Nat :=
  fmt.topField * Nat.pow 2 fmt.fraction + if negative then fmt.signBit else 0

/-- The quiet NaN with an empty payload. -/
def nanBits (fmt : Format) : Nat :=
  fmt.topField * Nat.pow 2 fmt.fraction + Nat.pow 2 (fmt.fraction - 1)

/-- The exact reading of a pattern. -/
def decode (fmt : Format) (bits : Nat) : Datum :=
  let fraction := bits % Nat.pow 2 fmt.fraction
  let field := bits / Nat.pow 2 fmt.fraction % Nat.pow 2 fmt.exponent
  let negative := bits / fmt.signBit % 2 == 1
  if field = fmt.topField then
    if fraction = 0 then .infinity negative else .nan
  else if field = 0 then
    .finite negative fraction fmt.minExponent
  else
    .finite negative (Nat.pow 2 fmt.fraction + fraction) (fmt.minExponent + (field - 1))

end Format

/-- The quotient of two naturals rounded to the nearest integer, a tie to the
even neighbour. -/
def roundDiv (num den : Nat) : Nat :=
  let quotient := num / den
  let rest := num % den
  if den < 2 * rest ∨ (2 * rest = den ∧ quotient % 2 = 1) then quotient + 1 else quotient

/-- `num / den · 2 ^ (-q)` as a quotient of naturals. -/
def scale (num den : Nat) (q : Int) : Nat × Nat :=
  (num * Nat.pow 2 (-q).toNat, den * Nat.pow 2 q.toNat)

namespace Format

/-- The exponent of the last place when `num / den` is written with a full
significand, bounded below by the subnormal one.  The difference of the two bit
lengths is off by at most one, and the comparison settles it. -/
def lastPlace (fmt : Format) (num den : Nat) : Int :=
  let guess : Int := (num.log2 : Int) - den.log2 - fmt.fraction
  let scaled := scale num den guess
  let full := if scaled.1 < Nat.pow 2 fmt.fraction * scaled.2 then guess - 1 else guess
  max full fmt.minExponent

/-- The pattern nearest to `± num / den`, a tie going to the even significand
and a magnitude past the largest finite number to the infinity.  Consecutive
patterns denote consecutive numbers, so a significand that rounds up to the next
power of two carries into the exponent field by itself. -/
def ofRatio (fmt : Format) (negative : Bool) (num den : Nat) : Nat :=
  let sign := if negative then fmt.signBit else 0
  if num = 0 then sign
  else
    let q := fmt.lastPlace num den
    let scaled := scale num den q
    let steps := (q - fmt.minExponent).toNat * Nat.pow 2 fmt.fraction
    let magnitude := steps + roundDiv scaled.1 scaled.2
    if magnitude ≥ fmt.infinityBits false then fmt.infinityBits negative else sign + magnitude

/-- The pattern nearest to `± m · 2 ^ q`. -/
def ofDyadic (fmt : Format) (negative : Bool) (m : Nat) (q : Int) : Nat :=
  fmt.ofRatio negative (m * Nat.pow 2 q.toNat) (Nat.pow 2 (-q).toNat)

/-- The pattern of a magnitude, if it is finite.  `place` is the place of its leading
digit in some base, counted from the point; far out of the range of both formats it
decides, and the pattern is not computed. -/
def finite? (fmt : Format) (negative : Bool) (place : Int) (bits : Unit → Nat) : Option Nat :=
  if place < -2000 then some (if negative then fmt.signBit else 0)
  else if place > 2000 then none
  else
    let bits := bits ()
    if bits = fmt.infinityBits negative then none else some bits

/-- The pattern nearest to `± m · 2 ^ q`, if it is finite. -/
def ofDyadic? (fmt : Format) (negative : Bool) (m : Nat) (q : Int) : Option Nat :=
  if m = 0 then some (if negative then fmt.signBit else 0)
  else fmt.finite? negative (q + m.log2) fun _ => fmt.ofDyadic negative m q

def ofDecimal? (fmt : Format) (negative : Bool) (m : Nat) (e : Int) : Option Nat :=
  if m = 0 then some (if negative then fmt.signBit else 0)
  else
    fmt.finite? negative (e + m.log2 * 30103 / 100000) fun _ =>
      fmt.ofRatio negative (m * Nat.pow 10 e.toNat) (Nat.pow 10 (-e).toNat)

end Format

/-! ## The two formats as types -/

structure Binary32 where
  bits : UInt32
  deriving DecidableEq, Repr

structure Binary64 where
  bits : UInt64
  deriving DecidableEq, Repr

/-- Numeric equality of two readings: a NaN equals nothing, and the two zeros
are equal.  Distinct patterns otherwise denote distinct numbers. -/
def Datum.numEq : Datum → Datum → Bool
  | .nan, _ => false
  | _, .nan => false
  | .finite _ 0 _, .finite _ 0 _ => true
  | a, b => a == b

namespace Binary32

def decode (x : Binary32) : Datum := binary32.decode x.bits.toNat

def isNaN (x : Binary32) : Bool := x.decode == .nan

def numEq (x y : Binary32) : Bool := x.decode.numEq y.decode

end Binary32

namespace Binary64

def decode (x : Binary64) : Datum := binary64.decode x.bits.toNat

def isNaN (x : Binary64) : Bool := x.decode == .nan

def numEq (x y : Binary64) : Bool := x.decode.numEq y.decode

/-- The number with pattern `n`, read modulo the width. -/
def ofNatBits (n : Nat) : Binary64 := ⟨UInt64.ofNat n⟩

def nan : Binary64 := ofNatBits binary64.nanBits

def infinity (negative : Bool) : Binary64 := ofNatBits (binary64.infinityBits negative)

def zero : Binary64 := ⟨0⟩

def ofRatio (negative : Bool) (num den : Nat) : Binary64 :=
  ofNatBits (binary64.ofRatio negative num den)

def ofDyadic (negative : Bool) (m : Nat) (q : Int) : Binary64 :=
  ofNatBits (binary64.ofDyadic negative m q)

end Binary64

end Ieee
end HostLink
