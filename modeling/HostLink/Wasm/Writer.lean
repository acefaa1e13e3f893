/-
Writing bytes.

These are the forms `Reader` takes off the front: shortest LEB128 integers, lists
and names under their length, types under their codes.
-/
import HostLink.Wasm.Reader

namespace HostLink
namespace Wasm
namespace Writer

/-- Unsigned LEB128 in as few bytes as possible. -/
def unsigned (n : Nat) : Bytes :=
  if n < 128 then [UInt8.ofNat n] else UInt8.ofNat (n % 128 + 128) :: unsigned (n / 128)

/-- Signed LEB128 of an integer that takes at most the given number of bytes. -/
def signedWithin : Nat → Int → Bytes
  | 0, _ => []
  | fuel + 1, i =>
    let low := (i % 128).toNat
    if -64 ≤ i ∧ i < 64 then [UInt8.ofNat low]
    else UInt8.ofNat (low + 128) :: signedWithin fuel (i / 128)

def signed (i : Int) : Bytes := signedWithin 10 i

def block (bytes : Bytes) : Bytes := unsigned bytes.length ++ bytes

/-- Items under their number. -/
def list {α : Type} (item : α → Bytes) (items : List α) : Bytes :=
  unsigned items.length ++ items.flatMap item

def name (text : String) : Bytes := block text.toUTF8.toList

/-! ## Types -/

def heapType : HeapType → Bytes
  | .abstract false heap => [heap.code]
  | .abstract true heap => [0x65, heap.code]
  | .concrete index => signed index

/-- A nullable abstract type is its heap type alone; all others lead with a code. -/
def refType (type : RefType) : Bytes :=
  match type.heap, type.nullable with
  | .abstract _ _, true => heapType type.heap
  | _, true => 0x63 :: heapType type.heap
  | _, false => 0x64 :: heapType type.heap

def valType : ValType → Bytes
  | .i32 => [0x7f]
  | .i64 => [0x7e]
  | .f32 => [0x7d]
  | .f64 => [0x7c]
  | .v128 => [0x7b]
  | .ref type => refType type

def funcType (type : FuncType) : Bytes :=
  0x60 :: (list valType type.params ++ list valType type.results)

/-- A flags byte from its bits, the lowest first. -/
def flags : List Bool → UInt8
  | [] => 0
  | bit :: rest => (if bit then 1 else 0) + 2 * flags rest

def fieldType (field : FieldType) : Bytes :=
  let storage :=
    match field.storage with
    | .i8 => [0x78]
    | .i16 => [0x77]
    | .value type => valType type
  storage ++ [flags [field.mutable]]

def compositeType : CompositeType → Bytes
  | .func type => funcType type
  | .struct fields => 0x5f :: list fieldType fields
  | .array element => 0x5e :: fieldType element
  | .cont func => 0x5d :: signed func

/-- A final type that names none above it is its composite type alone. -/
def typeDefinition (type : TypeDefinition) : Bytes :=
  let place :=
    match type.supertype, type.final with
    | none, true => []
    | above, final => (if final then 0x4f else 0x50) :: list unsigned above.toList
  place ++ (if type.shared then [0x65] else []) ++ compositeType type.composite

def typeGroup (types : List TypeDefinition) : Bytes := 0x4e :: list typeDefinition types

def optional (n : Option Nat) : Bytes := (n.map unsigned).getD []

def tableType (type : TableType) : Bytes :=
  refType type.element ++ [flags [type.maximum.isSome, type.shared, type.index64]] ++
    unsigned type.minimum ++ optional type.maximum

def memoryType (type : MemoryType) : Bytes :=
  [flags [type.maximum.isSome, type.shared, type.index64, type.pageSizeLog2.isSome]] ++
    unsigned type.minimum ++ optional type.maximum ++ optional type.pageSizeLog2

def globalType (type : GlobalType) : Bytes :=
  valType type.content ++ [flags [type.mutable, type.shared]]

def typeRef : TypeRef → Bytes
  | .func type => ExternKind.func.code :: unsigned type
  | .table type => ExternKind.table.code :: tableType type
  | .memory type => ExternKind.memory.code :: memoryType type
  | .global type => ExternKind.global.code :: globalType type
  | .tag type => [ExternKind.tag.code, 0] ++ unsigned type

end Writer
end Wasm
end HostLink
