/-
Value types and the values a global holds or a host function takes and returns.

Floating point values are bit patterns, so two values are equal as Lean terms
exactly when they have the same bits; `Value.numEq` is the numeric comparison, in
which a NaN differs from itself and the two zeros agree.
-/
import HostLink.Ieee.Shortest

namespace HostLink

inductive ValueType where
  | i32
  | i64
  | f32
  | f64
  | v128
  | externRef
  | funcRef
  deriving DecidableEq, Repr, Inhabited

namespace ValueType

def name : ValueType → String
  | i32 => "I32"
  | i64 => "I64"
  | f32 => "F32"
  | f64 => "F64"
  | v128 => "V128"
  | externRef => "ExternRef"
  | funcRef => "FuncRef"

def all : List ValueType := [i32, i64, f32, f64, v128, externRef, funcRef]

def ofName? (text : String) : Option ValueType := all.find? fun type => type.name == text

instance : ToString ValueType := ⟨name⟩

end ValueType

def bracketed (items : List String) : String := "[" ++ ", ".intercalate items ++ "]"

/-- A runtime value.  References have none. -/
inductive Value where
  | i32 (value : Int32)
  | i64 (value : Int64)
  | f32 (value : Ieee.Binary32)
  | f64 (value : Ieee.Binary64)
  | v128 (value : BitVec 128)
  deriving DecidableEq, Repr

namespace Value

def type : Value → ValueType
  | i32 _ => .i32
  | i64 _ => .i64
  | f32 _ => .f32
  | f64 _ => .f64
  | v128 _ => .v128

/-- The zero of a type; reference types have none. -/
def zero? : ValueType → Option Value
  | .i32 => some (i32 0)
  | .i64 => some (i64 0)
  | .f32 => some (f32 ⟨0⟩)
  | .f64 => some (f64 ⟨0⟩)
  | .v128 => some (v128 0)
  | .externRef | .funcRef => none

def i32? : Value → Option Int32
  | i32 value => some value
  | _ => none

def f64? : Value → Option Ieee.Binary64
  | f64 value => some value
  | _ => none

/-- Numeric equality within one type. -/
def numEq : Value → Value → Bool
  | f32 x, f32 y => x.numEq y
  | f64 x, f64 y => x.numEq y
  | x, y => x == y

/-- The bare number, floats in the given layout. -/
def number (layout : Ieee.Layout) : Value → String
  | i32 value => toString value.toInt
  | i64 value => toString value.toInt
  | f32 value => value.render layout
  | f64 value => value.render layout
  | v128 value => toString value.toNat

def text (value : Value) : String := value.number Ieee.plain

def describe (value : Value) : String :=
  value.type.name ++ "(" ++ value.number Ieee.diagnostic ++ ")"

def describeAll (values : List Value) : String := bracketed (values.map describe)

end Value
end HostLink
