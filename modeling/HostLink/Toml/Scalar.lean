/-
Numbers and dates in TOML.

A scalar without quotes is a run of characters, and `Node.ofScalar?` tells what it
spells.
-/
import HostLink.Ieee.Format
import HostLink.Text.Digit
import HostLink.Toml.Node

namespace HostLink
namespace Toml

/-- Whether some characters are good ones with at most single underscores between
them. -/
def grouped (good : Char → Bool) : List Char → Bool
  | [] => false
  | [c] => good c
  | c :: '_' :: rest => good c && grouped good rest
  | c :: rest => good c && grouped good rest

/-- The value of some digits; underscores do not count. -/
def digitsValue (base : Nat) (cs : List Char) : Nat :=
  (cs.filter (· != '_')).foldl (fun n c => base * n + Digit.value c) 0

def splitSign : List Char → Option Char × List Char
  | '-' :: rest => (some '-', rest)
  | '+' :: rest => (some '+', rest)
  | cs => (none, cs)

/-- Decimal digits without a zero in front. -/
def isDecimal (cs : List Char) : Bool :=
  grouped Char.isDigit cs && (cs == ['0'] || cs.head? != some '0')

/-- The integers are those of 64 bits. -/
def inRange (i : Int) : Bool := -(Nat.pow 2 63) ≤ i && i < Nat.pow 2 63

def integer? (cs : List Char) : Option Int :=
  let value : Option Int :=
    match cs with
    | '0' :: 'x' :: rest => if grouped Digit.isHex rest then some (digitsValue 16 rest) else none
    | '0' :: 'o' :: rest =>
      if grouped (fun c => '0' ≤ c && c ≤ '7') rest then some (digitsValue 8 rest) else none
    | '0' :: 'b' :: rest =>
      if grouped (fun c => c == '0' || c == '1') rest then some (digitsValue 2 rest) else none
    | _ =>
      let (sign, digits) := splitSign cs
      if isDecimal digits then
        let n : Int := digitsValue 10 digits
        some (if sign = some '-' then -n else n)
      else none
  value.filter inRange

/-- An exponent behind the digits of a number, zero if there is none. -/
def exponent? : List Char → Option Int
  | [] => some 0
  | mark :: rest =>
    let (sign, digits) := splitSign rest
    if (mark = 'e' ∨ mark = 'E') ∧ grouped Char.isDigit digits then
      let n : Int := digitsValue 10 digits
      some (if sign = some '-' then -n else n)
    else none

/-- A number with a fraction or an exponent, without its sign, by its digits and the
power of ten they count. -/
def decimal? (cs : List Char) : Option (Nat × Int) :=
  let inDigits (c : Char) : Bool := c.isDigit || c == '_'
  let whole := cs.takeWhile inDigits
  let number (fraction rest : List Char) : Option (Nat × Int) :=
    (exponent? rest).map fun e =>
      (digitsValue 10 (whole ++ fraction), e - (fraction.filter (· != '_')).length)
  if !isDecimal whole then none
  else
    match cs.dropWhile inDigits with
    | [] => none
    | '.' :: rest =>
      let fraction := rest.takeWhile inDigits
      if grouped Char.isDigit fraction then number fraction (rest.dropWhile inDigits) else none
    | rest => number [] rest

/-- Whether some characters are a number with a fraction or an exponent, or one of the
numbers that are not finite.  Where a number is too large, only the negative infinity
may take its place. -/
def isFloat (cs : List Char) : Bool :=
  let (sign, number) := splitSign cs
  if number = ['i', 'n', 'f'] ∨ number = ['n', 'a', 'n'] then true
  else
    (decimal? number).any fun (digits, e) =>
      sign = some '-' || (Ieee.binary64.ofDecimal? false digits e).isSome

/-! ## Dates -/

def two? : List Char → Option Nat
  | [a, b] => if a.isDigit && b.isDigit then some (digitsValue 10 [a, b]) else none
  | _ => none

def isLeapYear (year : Nat) : Bool := (year % 4 == 0 && year % 100 != 0) || year % 400 == 0

def daysInMonth (year month : Nat) : Nat :=
  if month = 2 then (if isLeapYear year then 29 else 28)
  else if [4, 6, 9, 11].contains month then 30
  else 31

def isDay : List Char → Bool
  | [y1, y2, y3, y4, '-', m1, m2, '-', d1, d2] =>
    [y1, y2, y3, y4].all Char.isDigit &&
      match two? [m1, m2], two? [d1, d2] with
      | some month, some day =>
        1 ≤ month && month ≤ 12 && 1 ≤ day &&
          day ≤ daysInMonth (digitsValue 10 [y1, y2, y3, y4]) month
      | _, _ => false
  | _ => false

/-- What follows an hour, a minute, a second and possibly a fraction. -/
def afterTime? : List Char → Option (List Char)
  | h1 :: h2 :: ':' :: m1 :: m2 :: ':' :: s1 :: s2 :: rest =>
    match two? [h1, h2], two? [m1, m2], two? [s1, s2] with
    | some hour, some minute, some second =>
      if hour < 24 && minute < 60 && second ≤ 60 then
        match rest with
        | '.' :: digit :: rest =>
          if digit.isDigit then some (rest.dropWhile Char.isDigit) else none
        | _ => some rest
      else none
    | _, _, _ => none
  | _ => none

/-- Whether some characters are nothing, or a distance from the universal time. -/
def isOffset : List Char → Bool
  | [] => true
  | ['Z'] | ['z'] => true
  | [sign, h1, h2, ':', m1, m2] =>
    (sign == '+' || sign == '-') &&
      match two? [h1, h2], two? [m1, m2] with
      | some hour, some minute => hour < 24 && minute < 60
      | _, _ => false
  | _ => false

def isDate (cs : List Char) : Bool :=
  isDay cs || afterTime? cs == some [] ||
    (isDay (cs.take 10) &&
      match cs.drop 10 with
      | mark :: time =>
        (mark == 'T' || mark == 't' || mark == ' ') && (afterTime? time).any isOffset
      | [] => false)

def Node.ofScalar? (cs : List Char) : Option Node :=
  if cs = "true".toList then some (.boolean true)
  else if cs = "false".toList then some (.boolean false)
  else
    match integer? cs with
    | some i => some (.integer i)
    | none =>
      if isFloat cs then some (.float (String.ofList cs))
      else if isDate cs then some (.date (String.ofList cs))
      else none

end Toml
end HostLink
