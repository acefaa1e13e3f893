/-
Types in the text format.

A use of a function type names a type, writes out a signature, or does both, and
then the two have to agree.  A signature that is only written out stands for the
first type on its own that is equal to it, which is added to the module if it has
none.
-/
import HostLink.Wat.Names

namespace HostLink
namespace Wat

open Wasm (AbstractHeap HeapType RefType ValType FuncType)

namespace Items

/-! ## Value types -/

def abstractHeap? (text : String) : Option AbstractHeap :=
  AbstractHeap.all.find? fun heap => heap.name == text

def shorthand? (text : String) : Option AbstractHeap :=
  AbstractHeap.all.find? fun heap => heap.shorthand == text

def abstractBy (find? : String → Option AbstractHeap) : Items AbstractHeap := do
  match find? (← keyword) with
  | some heap => pure heap
  | none => fail

/-- A heap type by name, shared in a bracket, or the index of a type. -/
def heapType (names : Names) : Items HeapType := do
  match ← list? "shared" (abstractBy abstractHeap?) with
  | some heap => pure (.abstract true heap)
  | none =>
    match (← nextKeyword?).bind abstractHeap? with
    | some heap =>
      let _ ← keyword
      pure (.abstract false heap)
    | none => .concrete <$> indexIn names .type

def refType? (names : Names) : Items (Option RefType) := do
  match (← nextKeyword?).bind shorthand? with
  | some heap =>
    let _ ← keyword
    pure (some { nullable := true, heap := .abstract false heap })
  | none =>
    let long : Items RefType := do
      let nullable ← keyword? "null"
      let heap ← heapType names
      pure { nullable := nullable, heap := heap }
    match ← list? "ref" long with
    | some type => pure (some type)
    | none =>
      let heap ← list? "shared" (abstractBy shorthand?)
      pure (heap.map fun heap => { nullable := true, heap := .abstract true heap })

def refType (names : Names) : Items RefType := do
  match ← refType? names with
  | some type => pure type
  | none => fail

def numberTypes : List (String × ValType) :=
  [("i32", .i32), ("i64", .i64), ("f32", .f32), ("f64", .f64), ("v128", .v128)]

def valType (names : Names) : Items ValType := do
  match (← nextKeyword?).bind fun text => numberTypes.lookup text with
  | some type =>
    let _ ← keyword
    pure type
  | none => .ref <$> refType names

/-! ## Types of tables, memories and globals -/

/-- The width of an index, 32 bits unless written. -/
def index64 : Items Bool := do
  if ← keyword? "i32" then pure false else keyword? "i64"

/-- A lower limit and possibly an upper one.  Either may have 64 bits, whether the
index has as many or not. -/
def limits : Items (Nat × Option Nat) := do
  let minimum ← unsigned 64
  let maximum ← if ← atInteger then some <$> unsigned 64 else pure none
  pure (minimum, maximum)

def tableType (names : Names) : Items Wasm.TableType := do
  let shared ← keyword? "shared"
  let index64 ← index64
  let (minimum, maximum) ← limits
  let element ← refType names
  pure { element := element, index64 := index64, shared := shared, minimum := minimum,
         maximum := maximum }

/-- A page size, which is a power of two, by its logarithm. -/
def pageSize? : Items (Option Nat) := do
  match ← list? "pagesize" (unsigned 32) with
  | none => pure none
  | some size => if size = Nat.pow 2 size.log2 then pure (some size.log2) else fail

def memoryType : Items Wasm.MemoryType := do
  let index64 ← index64
  let (minimum, maximum) ← limits
  let shared ← keyword? "shared"
  let pageSizeLog2 ← pageSize?
  pure { index64 := index64, shared := shared, minimum := minimum, maximum := maximum,
         pageSizeLog2 := pageSizeLog2 }

/-- A value type, in a bracket behind its marks if the global is shared or mutable. -/
def globalType (names : Names) : Items Wasm.GlobalType := do
  let shared : Items Wasm.GlobalType := do
    let mutable ← keyword? "mut"
    let type ← valType names
    pure { content := type, mutable := mutable, shared := true }
  match ← list? "shared" shared with
  | some type => pure type
  | none =>
    match ← list? "mut" (valType names) with
    | some type => pure { content := type, mutable := true, shared := false }
    | none =>
      let type ← valType names
      pure { content := type, mutable := false, shared := false }

end Items

/-! ## Function types -/

/-- A parameter or a local, with the name it may have. -/
structure Variable where
  name : Option String
  type : ValType
  deriving Repr

inductive SignaturePart where
  | params (params : List Variable)
  | results (types : List ValType)
  deriving Repr

/-- A use of a function type.  `written` says whether a signature is written out,
be it an empty one. -/
structure TypeUse where
  index : Option Nat := none
  params : List Variable := []
  results : List ValType := []
  written : Bool := false
  deriving Repr

/-- A type of the module as its uses see it: its signature, if it is a function type,
and whether it stands on its own, not in a group. -/
structure TypeSlot where
  signature : Option FuncType
  alone : Bool
  deriving DecidableEq, Repr

/-- Whether a signature that is only written out may mean the type. -/
def TypeSlot.standsFor (slot : TypeSlot) (type : FuncType) : Bool :=
  slot.alone && slot.signature == some type

namespace TypeUse

/-- Takes in a bracket.  No parameters, be they none, may follow a result. -/
def add? (use : TypeUse) : SignaturePart → Option TypeUse
  | .params params =>
    if use.results.isEmpty then
      some { use with params := use.params ++ params, written := true }
    else none
  | .results types => some { use with results := use.results ++ types, written := true }

def type (use : TypeUse) : FuncType :=
  { params := use.params.map Variable.type, results := use.results }

/-- The types of a module after a use, which adds its signature if it names no type
and no type stands for it. -/
def addTo (types : List TypeSlot) (use : TypeUse) : List TypeSlot :=
  if use.index.isSome || types.any fun slot => slot.standsFor use.type then types
  else types ++ [{ signature := some use.type, alone := true }]

def signatureAt? (types : List TypeSlot) (index : Nat) : Option FuncType :=
  types[index]?.bind TypeSlot.signature

/-- The index of the type meant.  A signature beside the name of a type has to be
the one of that type. -/
def resolve? (types : List TypeSlot) (use : TypeUse) : Option Nat :=
  match use.index with
  | none => types.findIdx? fun slot => slot.standsFor use.type
  | some index =>
    if use.written && signatureAt? types index != some use.type then none else some index

/-- The parameters a body sees: those of the named type, without names, if none are
written out. -/
def visible (types : List TypeSlot) (use : TypeUse) : List (Option String) :=
  match use.index with
  | some index =>
    if use.written then use.params.map Variable.name
    else (((signatureAt? types index).map FuncType.params).getD []).map fun _ => none
  | none => use.params.map Variable.name

end TypeUse

namespace Items

/-- The inside of a bracket of parameters or locals: one that is given a name, or any
number of others. -/
def bindings (names : Names) (named : Bool) : Items (List Variable) := do
  let id ← if named then plainId? else pure none
  let note ← if named then nameNote? else pure none
  if id.isSome || note.isSome then
    let type ← valType names
    pure [{ name := id, type := type }]
  else List.map (fun type => { name := none, type := type }) <$> all (valType names)

def signaturePart? (names : Names) (named : Bool) : Items (Option SignaturePart) := do
  match ← list? "param" (bindings names named) with
  | some params => pure (some (.params params))
  | none =>
    let types ← list? "result" (all (valType names))
    pure (types.map .results)

/-- A use of a function type; `named` says whether parameters may have names. -/
def typeUse (names : Names) (named : Bool) : Items TypeUse := do
  let index ← list? "type" (indexIn names .type)
  let parts ← many (signaturePart? names named)
  match parts.foldlM TypeUse.add? { index := index } with
  | some use => pure use
  | none => fail

def funcType (names : Names) : Items FuncType := do
  let use ← typeUse names true
  if use.index.isSome then fail else pure use.type

end Items
end Wat
end HostLink
