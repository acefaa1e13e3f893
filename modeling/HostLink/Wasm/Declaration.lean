/-
From the sections of a module to its declared form.

The sections are read in file order, entry by entry, and every index is looked up in what was
read of the space it belongs to.  The first entry that cannot be decoded, resolved or
represented decides the error, and only a module without such an entry is validated.
-/
import HostLink.Log
import HostLink.Module
import HostLink.Wasm.Frontend

namespace HostLink
namespace Wasm

/-- Something a binary may hold that linking does not support. -/
inductive Feature where
  | memory64
  | customPageSize
  | memoryLimit (value : Nat)
  | tableLimit (value : Nat)
  | referenceType (type : RefType)
  | tagImport (module name : String)
  | tagExport (name : String)
  deriving DecidableEq, Repr

def Feature.text : Feature → String
  | memory64 => "64-bit memories"
  | customPageSize => "custom page sizes"
  | memoryLimit value => "memory limit " ++ toString value ++ " beyond 32 bits"
  | tableLimit value => "table limit " ++ toString value ++ " beyond 32 bits"
  | referenceType type => "reference type " ++ type.text
  | tagImport module name => "exception tag import " ++ module ++ "." ++ name
  | tagExport name => "exception tag export " ++ name

inductive IndexSpace where
  | type
  | function
  | table
  | memory
  | global
  deriving DecidableEq, Repr

def IndexSpace.name : IndexSpace → String
  | type => "type"
  | function => "function"
  | table => "table"
  | memory => "memory"
  | global => "global"

/-- Why a module has no declared form.  The reasons of the front end are in its own words. -/
inductive CompileError where
  | malformed (reason : String)
  | unknownIndex (space : IndexSpace) (index : Nat)
  | unsupported (feature : Feature)
  | invalid (reason : String)
  deriving DecidableEq, Repr

def CompileError.message : CompileError → String
  | malformed reason => "WebAssembly translation error: " ++ reason
  | unknownIndex space index =>
    "WebAssembly translation error: unknown " ++ space.name ++ " " ++ toString index
  | unsupported feature => "Feature " ++ feature.text ++ " is not yet supported"
  | invalid reason => "Validation error: " ++ reason

/-! ## Types -/

/-- Function and external references of either nullability have a linking type;
no other reference has. -/
def ValType.toValueType : ValType → Except CompileError ValueType
  | i32 => .ok .i32
  | i64 => .ok .i64
  | f32 => .ok .f32
  | f64 => .ok .f64
  | v128 => .ok .v128
  | ref type =>
    match type.heap with
    | .abstract _ .func => .ok .funcRef
    | .abstract _ .external => .ok .externRef
    | _ => .error (.unsupported (.referenceType type))

def FuncType.toFunctionType (type : FuncType) : Except CompileError FunctionType := do
  let params ← type.params.mapM ValType.toValueType
  let results ← type.results.mapM ValType.toValueType
  pure { params := params, results := results }

def word (tooLarge : Nat → Feature) (value : Nat) : Except CompileError UInt32 :=
  if value < UInt32.size then .ok (UInt32.ofNat value) else .error (.unsupported (tooLarge value))

def optionalWord (tooLarge : Nat → Feature) : Option Nat → Except CompileError (Option UInt32)
  | none => .ok none
  | some value => some <$> word tooLarge value

def TableType.toLinkType (type : TableType) : Except CompileError HostLink.TableType := do
  let element ← (ValType.ref type.element).toValueType
  let minimum ← word .tableLimit type.minimum
  let maximum ← optionalWord .tableLimit type.maximum
  pure { element := element, minimum := minimum, maximum := maximum }

def MemoryType.toLinkType (type : MemoryType) : Except CompileError HostLink.MemoryType := do
  if type.index64 then throw (.unsupported .memory64)
  if type.pageSizeLog2.isSome then throw (.unsupported .customPageSize)
  let minimum ← word .memoryLimit type.minimum
  let maximum ← optionalWord .memoryLimit type.maximum
  pure { minimum := ⟨minimum⟩, maximum := maximum.map Pages.mk, shared := type.shared }

def GlobalType.toLinkType (type : GlobalType) : Except CompileError HostLink.GlobalType := do
  let content ← type.content.toValueType
  pure { content := content, mutability := if type.mutable then .mutable else .constant }

/-! ## Index spaces -/

/-- The index spaces as far as they are read, and the module.  A function is known by the index
of its type. -/
structure IndexSpaces where
  signatures : Array FunctionType := #[]
  functions : Array Nat := #[]
  tables : Array HostLink.TableType := #[]
  memories : Array HostLink.MemoryType := #[]
  globals : Array HostLink.GlobalType := #[]
  module : ModuleInfo := {}

namespace IndexSpaces

def lookup {α : Type} (space : IndexSpace) (entries : Array α) (index : Nat) :
    Except CompileError α :=
  match entries[index]? with
  | some entry => .ok entry
  | none => .error (.unknownIndex space index)

def signature (s : IndexSpaces) (index : Nat) : Except CompileError FunctionType :=
  lookup .type s.signatures index

/-- The signature of the function at an index, through its type. -/
def function (s : IndexSpaces) (index : Nat) : Except CompileError FunctionType := do
  s.signature (← lookup .function s.functions index)

/-! ## Entries -/

def addType (s : IndexSpaces) (type : FuncType) : Except CompileError IndexSpaces := do
  let signature ← type.toFunctionType
  pure { s with signatures := s.signatures.push signature }

/-- The type of an import, and the spaces with what is imported. -/
def importEntity (s : IndexSpaces) (entry : ImportEntry) :
    Except CompileError (ExternType × IndexSpaces) :=
  match entry.type with
  | .func index => do
    let type ← s.signature index
    pure (.function type, { s with functions := s.functions.push index })
  | .table type => do
    let type ← type.toLinkType
    pure (.table type, { s with tables := s.tables.push type })
  | .memory type => do
    let type ← type.toLinkType
    pure (.memory type, { s with memories := s.memories.push type })
  | .global type => do
    let type ← type.toLinkType
    pure (.global type, { s with globals := s.globals.push type })
  | .tag _ => .error (.unsupported (.tagImport entry.module entry.name))

def addImport (s : IndexSpaces) (entry : ImportEntry) : Except CompileError IndexSpaces := do
  let (type, s) ← s.importEntity entry
  pure { s with module := { s.module with
    imports := s.module.imports ++
      [{ module := entry.module, name := entry.name, type := type }] } }

def addFunction (s : IndexSpaces) (type : Nat) : Except CompileError IndexSpaces :=
  .ok { s with functions := s.functions.push type }

def addTable (s : IndexSpaces) (type : TableType) : Except CompileError IndexSpaces := do
  let type ← type.toLinkType
  pure { s with
    tables := s.tables.push type
    module := { s.module with tables := s.module.tables ++ [type] } }

def addMemory (s : IndexSpaces) (type : MemoryType) : Except CompileError IndexSpaces := do
  let type ← type.toLinkType
  pure { s with
    memories := s.memories.push type
    module := { s.module with memories := s.module.memories ++ [type] } }

def addGlobal (s : IndexSpaces) (type : GlobalType) : Except CompileError IndexSpaces := do
  let type ← type.toLinkType
  pure { s with
    globals := s.globals.push type
    module := { s.module with globals := s.module.globals ++ [type] } }

def exportType (s : IndexSpaces) (entry : ExportEntry) : Except CompileError ExternType :=
  match entry.kind with
  | .func => .function <$> s.function entry.index
  | .table => .table <$> lookup .table s.tables entry.index
  | .memory => .memory <$> lookup .memory s.memories entry.index
  | .global => .global <$> lookup .global s.globals entry.index
  | .tag => .error (.unsupported (.tagExport entry.name))

def addExport (s : IndexSpaces) (entry : ExportEntry) : Except CompileError IndexSpaces := do
  let type ← s.exportType entry
  pure { s with module := { s.module with
    «exports» := s.module.exports ++ [{ name := entry.name, type := type }] } }

/-- The last name of the module that can be read stands. -/
def addName (s : IndexSpaces) : Except String NameEntry → IndexSpaces
  | .ok (.module name) => { s with module := { s.module with name := some name } }
  | _ => s

/-! ## Sections -/

/-- Adds the entries of a section in order, up to one that cannot be decoded. -/
def addEntries {α : Type} (add : IndexSpaces → α → Except CompileError IndexSpaces)
    (s : IndexSpaces) (entries : Entries α) : Except CompileError IndexSpaces :=
  entries.foldlM (fun s entry => entry.mapError .malformed >>= add s) s

def addPayload (s : IndexSpaces) : Payload → Except CompileError IndexSpaces
  | .types entries => addEntries addType s entries
  | .imports entries => addEntries addImport s entries
  | .functions entries => addEntries addFunction s entries
  | .tables entries => addEntries addTable s entries
  | .memories entries => addEntries addMemory s entries
  | .globals entries => addEntries addGlobal s entries
  | .exports entries => addEntries addExport s entries
  | .names entries => .ok (entries.foldl addName s)
  | .other => .ok s

def addReading (s : IndexSpaces) (reading : Reading) : Except CompileError IndexSpaces :=
  reading.payload.mapError .malformed >>= s.addPayload

end IndexSpaces
end Wasm

namespace ModuleInfo

open Wasm

/-- The declared form of a valid module. -/
def translate (frontend : Frontend) (bytes : Bytes) : Except CompileError ModuleInfo := do
  let binary ← (frontend.assemble bytes).mapError .malformed
  let spaces ← (frontend.parse binary).foldlM IndexSpaces.addReading {}
  (frontend.validate binary).mapError .invalid
  pure spaces.module

def load (frontend : Frontend) (bytes : Bytes) : Logged (Except CompileError ModuleInfo) :=
  match translate frontend bytes with
  | .error error => pure (.error error)
  | .ok m => do
    Logged.emit .debug "translated module"
      [("imports", toString m.imports.length), ("exports", toString m.exports.length),
       ("memories", toString m.memories.length)]
    pure (.ok m)

end ModuleInfo
end HostLink
