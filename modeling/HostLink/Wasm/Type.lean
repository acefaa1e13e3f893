/-
The types of the WebAssembly binary format.

These are richer than the types linking works with: a reference carries its
nullability and its heap type, and limits carry the width of the index.  The
declared form of a module maps them to `HostLink.ExternType` or refuses them.
-/
import HostLink.ExternType

namespace HostLink
namespace Wasm

/-- The heap types with a code of their own. -/
inductive AbstractHeap where
  | func
  | external
  | any
  | none
  | noExternal
  | noFunc
  | eq
  | struct
  | array
  | i31
  | exn
  | noExn
  | cont
  | noCont
  deriving DecidableEq, Repr

namespace AbstractHeap

def codes : List (UInt8 × AbstractHeap) :=
  [(0x70, func), (0x6f, external), (0x6e, any), (0x71, none), (0x72, noExternal),
   (0x73, noFunc), (0x6d, eq), (0x6b, struct), (0x6a, array), (0x6c, i31),
   (0x69, exn), (0x74, noExn), (0x68, cont), (0x75, noCont)]

def ofCode? (code : UInt8) : Option AbstractHeap := codes.lookup code

def code (heap : AbstractHeap) : UInt8 :=
  ((codes.find? fun entry => entry.2 == heap).map Prod.fst).getD 0

/-- The name between `ref` and the closing bracket. -/
def name : AbstractHeap → String
  | func => "func"
  | external => "extern"
  | any => "any"
  | none => "none"
  | noExternal => "noextern"
  | noFunc => "nofunc"
  | eq => "eq"
  | struct => "struct"
  | array => "array"
  | i31 => "i31"
  | exn => "exn"
  | noExn => "noexn"
  | cont => "cont"
  | noCont => "nocont"

/-- The name of the nullable reference in one word. -/
def shorthand : AbstractHeap → String
  | none => "nullref"
  | noExternal => "nullexternref"
  | noFunc => "nullfuncref"
  | noExn => "nullexnref"
  | noCont => "nullcontref"
  | heap => heap.name ++ "ref"

def all : List AbstractHeap := codes.map Prod.snd

/-- The types directly above another one. -/
def parents : AbstractHeap → List AbstractHeap
  | none => [i31, struct, array]
  | i31 | struct | array => [eq]
  | eq => [any]
  | noFunc => [func]
  | noExternal => [external]
  | noExn => [exn]
  | noCont => [cont]
  | _ => []

/-- The subtype order.  No chain has more than three steps. -/
def subtype (below above : AbstractHeap) : Bool :=
  below == above || below.parents.any fun x =>
    x == above || x.parents.any fun y => y == above || y.parents.contains above

end AbstractHeap

inductive HeapType where
  | abstract (shared : Bool) (heap : AbstractHeap)
  | concrete (index : Nat)
  deriving DecidableEq, Repr

structure RefType where
  nullable : Bool
  heap : HeapType
  deriving DecidableEq, Repr

namespace RefType

def funcRef : RefType := { nullable := true, heap := .abstract false .func }

def externRef : RefType := { nullable := true, heap := .abstract false .external }

def text (type : RefType) : String :=
  match type.heap, type.nullable with
  | .abstract false heap, true => heap.shorthand
  | .abstract false heap, false => "(ref " ++ heap.name ++ ")"
  | .abstract true heap, true => "(shared " ++ heap.shorthand ++ ")"
  | .abstract true heap, false => "(ref (shared " ++ heap.name ++ "))"
  | .concrete index, true => "(ref null (module " ++ toString index ++ "))"
  | .concrete index, false => "(ref (module " ++ toString index ++ "))"

end RefType

inductive ValType where
  | i32
  | i64
  | f32
  | f64
  | v128
  | ref (type : RefType)
  deriving DecidableEq, Repr, Inhabited

/-- Whether a local of the type starts with a value. -/
def ValType.hasDefault : ValType → Bool
  | ref type => type.nullable
  | _ => true

structure FuncType where
  params : List ValType
  results : List ValType
  deriving DecidableEq, Repr, Inhabited

/-! ## Type definitions

A type section may define more than functions, and put types into an order.  Linking
knows function types without that only, so the rest is written but never read. -/

inductive StorageType where
  | i8
  | i16
  | value (type : ValType)
  deriving DecidableEq, Repr

structure FieldType where
  storage : StorageType
  mutable : Bool
  deriving DecidableEq, Repr

/-- What a type describes; a continuation is one of a function type, by index. -/
inductive CompositeType where
  | func (type : FuncType)
  | struct (fields : List FieldType)
  | array (element : FieldType)
  | cont (func : Nat)
  deriving DecidableEq, Repr

/-- A type and its place in the order: the type above it, if it names one, and whether
no type may be put below it. -/
structure TypeDefinition where
  final : Bool
  supertype : Option Nat
  shared : Bool
  composite : CompositeType
  deriving DecidableEq, Repr

/-! ## Types of the other things -/

structure GlobalType where
  content : ValType
  mutable : Bool
  shared : Bool
  deriving DecidableEq, Repr

structure TableType where
  element : RefType
  index64 : Bool
  shared : Bool
  minimum : Nat
  maximum : Option Nat
  deriving DecidableEq, Repr

structure MemoryType where
  index64 : Bool
  shared : Bool
  minimum : Nat
  maximum : Option Nat
  pageSizeLog2 : Option Nat
  deriving DecidableEq, Repr

/-- What an import asks for, function and tag types by index. -/
inductive TypeRef where
  | func (type : Nat)
  | table (type : TableType)
  | memory (type : MemoryType)
  | global (type : GlobalType)
  | tag (type : Nat)
  deriving DecidableEq, Repr

inductive ExternKind where
  | func
  | table
  | memory
  | global
  | tag
  deriving DecidableEq, Repr

def ExternKind.ofCode? : UInt8 → Option ExternKind
  | 0 => some func
  | 1 => some table
  | 2 => some memory
  | 3 => some global
  | 4 => some tag
  | _ => none

def ExternKind.code : ExternKind → UInt8
  | func => 0
  | table => 1
  | memory => 2
  | global => 3
  | tag => 4

end Wasm
end HostLink
