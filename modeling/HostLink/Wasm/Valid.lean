/-
Validation of a binary.

`Binary.isValid` decides whether a binary is a module of WebAssembly 3.0: its
sections are known and in order, its types and limits make sense, and its
constant expressions and function bodies are typed.  Shared types, custom page
sizes and stack switching are not part of that version.
-/
import HostLink.Wasm.Typing

namespace HostLink
namespace Wasm

namespace Section

/-- The place of a section among the others.  Custom sections have none and may
stand anywhere; an unknown section has none either, and no place is right for it. -/
def place? : Section → Option Nat
  | types _ => some 1
  | imports _ => some 2
  | functions _ => some 3
  | tables _ => some 4
  | memories _ => some 5
  | tags _ => some 6
  | globals _ => some 7
  | exports _ => some 8
  | start _ => some 9
  | elements _ => some 10
  | dataCount _ => some 11
  | code _ => some 12
  | data _ => some 13
  | custom _ _ | unknown _ => none

def isUnknown : Section → Bool
  | unknown _ => true
  | _ => false

def isFaulty : Section → Bool
  | types entries => entries.faulty
  | imports entries => entries.faulty
  | functions entries => entries.faulty
  | tables entries => entries.faulty
  | memories entries => entries.faulty
  | globals entries => entries.faulty
  | exports entries => entries.faulty
  | elements entries => entries.faulty
  | data entries => entries.faulty
  | tags entries => entries.faulty
  | custom _ _ | start _ | code _ | dataCount _ | unknown _ => false

end Section

def increasing : List Nat → Bool
  | x :: y :: rest => x < y && increasing (y :: rest)
  | _ => true

structure Parts where
  types : List TypeEntry := []
  imports : List ImportEntry := []
  functions : List Nat := []
  tables : List TableEntry := []
  memories : List MemoryType := []
  tags : List Nat := []
  globals : List GlobalEntry := []
  exports : List ExportEntry := []
  start : Option Nat := none
  elements : List ElementEntry := []
  dataCount : Option Nat := none
  code : List Bytes := []
  data : List DataEntry := []

namespace Parts

def addSection (p : Parts) : Section → Parts
  | .types entries => { p with types := p.types ++ entries.items }
  | .imports entries => { p with imports := p.imports ++ entries.items }
  | .functions entries => { p with functions := p.functions ++ entries.items }
  | .tables entries => { p with tables := p.tables ++ entries.items }
  | .memories entries => { p with memories := p.memories ++ entries.items }
  | .tags entries => { p with tags := p.tags ++ entries.items }
  | .globals entries => { p with globals := p.globals ++ entries.items }
  | .exports entries => { p with exports := p.exports ++ entries.items }
  | .start func => { p with start := some func }
  | .elements entries => { p with elements := p.elements ++ entries.items }
  | .dataCount count => { p with dataCount := some count }
  | .code bodies => { p with code := p.code ++ bodies }
  | .data entries => { p with data := p.data ++ entries.items }
  | .custom _ _ | .unknown _ => p

/-! ## What expressions can refer to -/

/-- The functions referred to in expressions. -/
def referenced (instrs : List Instr) : List Nat :=
  instrs.filterMap fun
    | .refFunc func => some func
    | _ => none

def referencedItems : ElementItems → List Nat
  | .functions indices => indices
  | .expressions _ values => values.flatMap referenced

/-- The functions named outside of bodies. -/
def declared (p : Parts) : List Nat :=
  (p.exports.filterMap fun entry => if entry.kind = .func then some entry.index else none) ++
    (p.tables.flatMap fun entry => (entry.init.map referenced).getD []) ++
    (p.globals.flatMap fun entry => referenced entry.init) ++
    (p.elements.flatMap fun entry => referencedItems entry.items)

def importedFunctions (p : Parts) : List Nat :=
  p.imports.filterMap fun entry => match entry.type with | .func type => some type | _ => none

def importedTables (p : Parts) : List TableType :=
  p.imports.filterMap fun entry => match entry.type with | .table type => some type | _ => none

def importedMemories (p : Parts) : List MemoryType :=
  p.imports.filterMap fun entry => match entry.type with | .memory type => some type | _ => none

def importedGlobals (p : Parts) : List GlobalType :=
  p.imports.filterMap fun entry => match entry.type with | .global type => some type | _ => none

def importedTags (p : Parts) : List Nat :=
  p.imports.filterMap fun entry => match entry.type with | .tag type => some type | _ => none

/-- The context of expressions that come before all globals of the module. -/
def context (p : Parts) : Context :=
  { types := (p.types.map TypeEntry.type).toArray
    functions := (p.importedFunctions ++ p.functions).toArray
    tables := (p.importedTables ++ p.tables.map TableEntry.type).toArray
    memories := (p.importedMemories ++ p.memories).toArray
    globals := p.importedGlobals.toArray
    declared := p.declared }

/-- The context of bodies and segments, in which all globals are known. -/
def fullContext (p : Parts) : Context :=
  { p.context with
    globals := p.context.globals ++ (p.globals.map GlobalEntry.type).toArray }

/-! ## The rules -/

/-- The most pages of a memory with 32-bit addresses, and with 64-bit ones. -/
def maxPages (index64 : Bool) : Nat := if index64 then Nat.pow 2 48 else Nat.pow 2 16

/-- The most tables, and the most memories, of a module. -/
def maxSpaces : Nat := 100

def withinMaximum (minimum : Nat) (maximum : Option Nat) : Bool :=
  maximum.all fun maximum => minimum ≤ maximum

def validTable (c : Context) (type : TableType) : Bool :=
  c.validHeap type.element.heap && !type.shared && withinMaximum type.minimum type.maximum

/-- Memories keep their limits in range, have the usual page size, and are bounded
if they are shared. -/
def validMemory (type : MemoryType) : Bool :=
  type.pageSizeLog2.isNone && withinMaximum type.minimum type.maximum &&
    type.minimum ≤ maxPages type.index64 && withinMaximum (type.maximum.getD 0)
      (some (maxPages type.index64)) && (!type.shared || type.maximum.isSome)

def validGlobal (c : Context) (type : GlobalType) : Bool :=
  c.validType type.content && !type.shared

/-- A tag takes operands and gives none. -/
def validTag (c : Context) (type : Nat) : Bool :=
  c.types[type]?.any fun signature => signature.results.isEmpty

def validFuncType (c : Context) (entry : TypeEntry) : Bool :=
  !entry.shared && entry.type.params.all c.validType && entry.type.results.all c.validType

def validImport (c : Context) (entry : ImportEntry) : Bool :=
  match entry.type with
  | .func type => type < c.types.size
  | .table type => validTable c type
  | .memory type => validMemory type
  | .global type => validGlobal c type
  | .tag type => validTag c type

/-- A table has a first value for its slots, written out or null. -/
def validTableEntry (c : Context) (entry : TableEntry) : Bool :=
  validTable c entry.type &&
    match entry.init with
    | some init => c.constTyped (.ref entry.type.element) init
    | none => entry.type.element.nullable

/-- The size of what an import or export declares, which counts the types of a
function. -/
def declaredSize : Option FuncType → Nat
  | some signature => 2 + signature.params.length + signature.results.length
  | none => 1

def importSize (c : Context) (entry : ImportEntry) : Nat :=
  match entry.type with
  | .func type | .tag type => declaredSize c.types[type]?
  | _ => declaredSize none

/-- The size of an export; `tags` are the types of the tags. -/
def exportSize (c : Context) (tags : List Nat) (entry : ExportEntry) : Nat :=
  match entry.kind with
  | .func => declaredSize (c.signature? entry.index)
  | .tag => declaredSize (tags[entry.index]?.bind fun type => c.types[type]?)
  | _ => declaredSize none

/-- What the sizes of all imports and exports together, and one more, stay below. -/
def maxDeclaredSize : Nat := 1000000

def withinSize (p : Parts) (c : Context) : Bool :=
  let importsSize := p.imports.foldl (fun size entry => size + importSize c entry) 1
  let tags := p.importedTags ++ p.tags
  p.exports.foldl (fun size entry => size + exportSize c tags entry) importsSize < maxDeclaredSize

def validExport (p : Parts) (c : Context) (entry : ExportEntry) : Bool :=
  match entry.kind with
  | .func => entry.index < c.functions.size
  | .table => entry.index < c.tables.size
  | .memory => entry.index < c.memories.size
  | .global => entry.index < c.globals.size
  | .tag => entry.index < p.importedTags.length + p.tags.length

/-- The start function takes and gives nothing. -/
def validStart (c : Context) (func : Nat) : Bool :=
  c.signature? func == some { params := [], results := [] }

def elementType : ElementItems → RefType
  | .functions _ => { nullable := false, heap := .abstract false .func }
  | .expressions type _ => type

def validElementItems (c : Context) : ElementItems → Bool
  | .functions indices => indices.all fun index => index < c.functions.size
  | .expressions type values =>
    c.validHeap type.heap && values.all fun value => c.constTyped (.ref type) value

def validElement (c : Context) (entry : ElementEntry) : Bool :=
  validElementItems c entry.items &&
    match entry.mode with
    | .active table offset =>
      c.tables[table]?.any fun type =>
        c.refSubtype (elementType entry.items) type.element &&
          c.constTyped (Context.indexType type.index64) offset
    | _ => true

def validData (c : Context) (entry : DataEntry) : Bool :=
  match entry.mode with
  | .active memory offset =>
    c.memories[memory]?.any fun type => c.constTyped (Context.indexType type.index64) offset
  | _ => true

/-- Each body is typed by the signature its function declares. -/
def validCode (p : Parts) (c : Context) : Bool :=
  p.code.length == p.functions.length &&
    (p.functions.zip p.code).all fun (type, body) =>
      c.types[type]?.any fun signature => c.bodyTyped signature body

/-- Globals in order; the initial value of each may refer to those before it. -/
def validGlobals (c : Context) : List GlobalEntry → Bool
  | [] => true
  | entry :: rest =>
    validGlobal c entry.type && c.constTyped entry.type.content entry.init &&
      validGlobals { c with globals := c.globals.push entry.type } rest

def isValid (p : Parts) : Bool :=
  let early := p.context
  let c := p.fullContext
  p.types.all (validFuncType early) &&
    p.imports.all (validImport early) &&
    p.functions.all (fun type => type < early.types.size) &&
    p.tables.all (validTableEntry early) &&
    p.memories.all validMemory &&
    early.tables.size ≤ maxSpaces && early.memories.size ≤ maxSpaces &&
    p.tags.all (validTag early) &&
    validGlobals early p.globals &&
    p.exports.all (p.validExport c) &&
    p.withinSize c &&
    (p.exports.map ExportEntry.name).eraseDups.length == p.exports.length &&
    p.start.all (validStart c) &&
    p.elements.all (validElement c) &&
    p.dataCount.all (fun count => count == p.data.length) &&
    p.validCode c &&
    p.data.all (validData c)

end Parts

namespace Binary

def parts (binary : Binary) : Parts := binary.sections.foldl Parts.addSection {}

/-- Whether the sections are known and each kind stands in its place. -/
def inOrder (binary : Binary) : Bool :=
  binary.sections.all (fun s => !s.isUnknown) &&
    increasing (binary.sections.filterMap Section.place?)

def isValid (binary : Binary) : Bool :=
  binary.version == moduleVersion && binary.isModule && binary.complete && binary.inOrder &&
    binary.sections.all (fun s => !s.isFaulty) && binary.parts.isValid

end Binary
end Wasm

end HostLink
