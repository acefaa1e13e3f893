/-
Type definitions in the text format.

Types may be defined one by one or in a group.  A group is more than its members:
only a type on its own may be meant by a signature that is written out elsewhere.
-/
import HostLink.Wasm.Writer
import HostLink.Wat.Signature

namespace HostLink
namespace Wat

open Wasm (FieldType CompositeType TypeDefinition)

inductive TypeGroup where
  | alone (type : TypeDefinition)
  | together (types : List TypeDefinition)
  deriving Repr

namespace TypeGroup

def signature? (type : TypeDefinition) : Option Wasm.FuncType :=
  match type.composite with
  | .func signature => some signature
  | _ => none

def slots : TypeGroup → List TypeSlot
  | alone type => [{ signature := signature? type, alone := true }]
  | together types => types.map fun type => { signature := signature? type, alone := false }

def encode : TypeGroup → Wasm.Bytes
  | alone type => Wasm.Writer.typeDefinition type
  | together types => Wasm.Writer.typeGroup types

end TypeGroup

namespace Items

/-! ## Structures and arrays -/

/-- The packed types, which nothing but a field can have. -/
def packedTypes : List (String × Wasm.StorageType) := [("i8", .i8), ("i16", .i16)]

def storageType (names : Names) : Items Wasm.StorageType := do
  match (← nextKeyword?).bind fun text => packedTypes.lookup text with
  | some type =>
    let _ ← keyword
    pure type
  | none => .value <$> valType names

/-- What a field holds, in a bracket behind its mark if it is mutable. -/
def fieldType (names : Names) : Items FieldType := do
  match ← list? "mut" (storageType names) with
  | some storage => pure { storage := storage, mutable := true }
  | none =>
    let storage ← storageType names
    pure { storage := storage, mutable := false }

/-- The inside of a bracket of fields: one with a name, or any number without. -/
def namedFields (names : Names) : Items (List (Option String × FieldType)) := do
  match ← plainId? with
  | some name =>
    let type ← fieldType names
    pure [(some name, type)]
  | none => List.map (fun type => (none, type)) <$> all (fieldType names)

/-- The fields of a structure; brackets around them are needed for names only, and no
name is given twice. -/
def structFields (names : Names) : Items (List FieldType) := do
  let fields ← all do
    match ← list? "field" (namedFields names) with
    | some fields => pure fields
    | none =>
      let type ← fieldType names
      pure [(none, type)]
  let given := fields.flatten.filterMap Prod.fst
  if given.eraseDups.length = given.length then pure (fields.flatten.map Prod.snd) else fail

/-! ## Definitions -/

def compositeType (names : Names) : Items CompositeType := do
  match ← list? "func" (funcType names) with
  | some type => pure (.func type)
  | none =>
    match ← list? "struct" (structFields names) with
    | some fields => pure (.struct fields)
    | none =>
      match ← list? "array" (fieldType names) with
      | some element => pure (.array element)
      | none =>
        match ← list? "cont" (indexIn names .type) with
        | some func => pure (.cont func)
        | none => fail

/-- A type that takes a given place in the order, in a bracket behind its mark if it is
shared. -/
def placedType (names : Names) (final : Bool) (supertype : Option Nat) :
    Items TypeDefinition := do
  let shared ← list? "shared" (compositeType names)
  let composite ←
    match shared with
    | some composite => pure composite
    | none => compositeType names
  pure { final := final, supertype := supertype, shared := shared.isSome, composite := composite }

/-- A type definition from behind its keyword.  A type that does not say otherwise is
final. -/
def typeDefinition (names : Names) : Items TypeDefinition := do
  let _ ← id?
  let placed : Items TypeDefinition := do
    let final ← keyword? "final"
    let supertype ← indexIn? names .type
    placedType names final supertype
  match ← list? "sub" placed with
  | some type => pure type
  | none => placedType names true none

def typeGroup (names : Names) : Items (List TypeDefinition) :=
  all do
    match ← list? "type" (typeDefinition names) with
    | some type => pure type
    | none => fail

end Items
end Wat
end HostLink
