/-
The shortest decimal that reads back.

A finite number `m · 2 ^ q` is the rounding of every real in an interval around
it, whose ends belong to it when `m` is even.  `shortest` takes the coarsest
grid of decimals `d · 10 ^ k` that has a point in that interval, and on it the
point nearest to the number, the upper one on a tie.  Only the two neighbours of
the number on a grid need a test: a grid point of the interval that lies below
the number is at most the lower neighbour, which then lies in the interval too,
and the same holds above.
-/
import HostLink.Ieee.Format

namespace HostLink
namespace Ieee

/-- The decimal `digits · 10 ^ exponent`. -/
structure Decimal where
  digits : Nat
  exponent : Int
  deriving DecidableEq, Repr

/-- The reals that round to a number, all three over one denominator. -/
structure Rounding where
  low : Nat
  value : Nat
  high : Nat
  den : Nat
  closed : Bool

/-- The interval that rounds to `m · 2 ^ q`.  Below a power of two the numbers
lie twice as dense, except at the bottom of the range. -/
def Rounding.of (fmt : Format) (m : Nat) (q : Int) : Rounding :=
  let unit := 4 * Nat.pow 2 q.toNat
  let den := 4 * Nat.pow 2 (-q).toNat
  let below := if m = Nat.pow 2 fmt.fraction ∧ q ≠ fmt.minExponent then unit / 4 else unit / 2
  let value := m * unit
  { low := value - below, value := value, high := value + unit / 2,
    den := den, closed := m % 2 == 0 }

def Rounding.contains (r : Rounding) (num den : Nat) : Bool :=
  let x := num * r.den
  if r.closed then r.low * den ≤ x && x ≤ r.high * den
  else r.low * den < x && x < r.high * den

/-- The decimal of grid `k` that lies in the interval and is nearest to the
number, if there is one. -/
def Rounding.onGrid (r : Rounding) (k : Int) : Option Decimal :=
  let up := Nat.pow 10 k.toNat
  let down := Nat.pow 10 (-k).toNat
  let num := r.value * down
  let den := r.den * up
  let d := num / den
  let belowIn := r.contains (d * up) down
  let aboveIn := r.contains ((d + 1) * up) down
  if aboveIn && (!belowIn || den ≤ 2 * (num % den)) then some { digits := d + 1, exponent := k }
  else if belowIn then some { digits := d, exponent := k }
  else none

/-- The first grid with a hit, going to ever finer grids. -/
def Rounding.search (r : Rounding) : Nat → Int → Decimal
  | 0, k => { digits := 0, exponent := k }
  | fuel + 1, k =>
    match r.onGrid k with
    | some d => d
    | none => r.search fuel (k - 1)

/-- The shortest decimal that rounds to `m · 2 ^ q`.  The search starts on a grid
coarser than the number itself; seventeen digits always suffice for double
precision, and the rest of the fuel covers the estimate of the first grid. -/
def shortest (fmt : Format) (m : Nat) (q : Int) : Decimal :=
  if m = 0 then { digits := 0, exponent := 0 }
  else (Rounding.of fmt m q).search 24 ((((m.log2 : Int) + q) * 30103).fdiv 100000 + 2)

/-! ## Written forms -/

/-- How a number is written: below which and from which power of ten on the form
with an exponent is used, if at all, and whether an integral value keeps a
fractional digit. -/
structure Layout where
  scientific : Option (Int × Int)
  keepPoint : Bool

/-- The plain form: always positional, without a needless fraction. -/
def plain : Layout := { scientific := none, keepPoint := false }

/-- The form for diagnostics: a magnitude below `1e-4` or from `1e16` on is
written with an exponent, and a positional value always shows a point. -/
def diagnostic : Layout := { scientific := some (-4, 16), keepPoint := true }

def zeros (n : Nat) : String := String.ofList (List.replicate n '0')

/-- Digits with the point moved `exponent` places, without an exponent part. -/
def positional (keepPoint : Bool) (d : Decimal) : String :=
  let text := toString d.digits
  if d.exponent ≥ 0 then
    text ++ zeros d.exponent.toNat ++ (if keepPoint then ".0" else "")
  else
    let places := (-d.exponent).toNat
    if text.length ≤ places then "0." ++ zeros (places - text.length) ++ text
    else
      String.ofList (text.toList.take (text.length - places)) ++ "." ++
        String.ofList (text.toList.drop (text.length - places))

def withExponent (d : Decimal) : String :=
  match (toString d.digits).toList with
  | [] => ""
  | first :: rest =>
    let power := d.exponent + rest.length
    let tail := if rest.isEmpty then "" else "." ++ String.ofList rest
    String.ofList [first] ++ tail ++ "e" ++ toString power

def Layout.magnitude (layout : Layout) (fmt : Format) (m : Nat) (q : Int) : String :=
  let d := shortest fmt m q
  let power := d.exponent + (toString d.digits).length - 1
  match layout.scientific with
  | some (low, high) =>
    if m ≠ 0 ∧ (power < low ∨ high ≤ power) then withExponent d
    else positional layout.keepPoint d
  | none => positional layout.keepPoint d

/-- The text of a number.  A NaN has no sign. -/
def Layout.render (layout : Layout) (fmt : Format) : Datum → String
  | .nan => "NaN"
  | .infinity negative => if negative then "-inf" else "inf"
  | .finite negative m q =>
    (if negative then "-" else "") ++ layout.magnitude fmt m q

def Binary32.render (layout : Layout) (x : Binary32) : String := layout.render binary32 x.decode

def Binary64.render (layout : Layout) (x : Binary64) : String := layout.render binary64 x.decode

end Ieee
end HostLink
