/-
The fields of a module in the text format.

`Field.ofTree?` reads one field.  The abbreviations are resolved here: a field may
be exported or imported in place, and a table or memory may bring its contents
along, so one written field can stand for several.
-/
import HostLink.Wat.Instr
import HostLink.Wat.ToolNotes
import HostLink.Wat.TypeGroup

namespace HostLink
namespace Wat

open Wasm (Bytes RefType)

/-- What an import asks for or a field defines, by its type. -/
inductive ItemType where
  | func (use : TypeUse)
  | table (type : Wasm.TableType)
  | memory (type : Wasm.MemoryType)
  | global (type : Wasm.GlobalType)
  | tag (use : TypeUse)
  deriving Repr

inductive SegmentMode where
  | active (target : Nat) (offset : List Op)
  | passive
  | declared
  deriving Repr

inductive Elements where
  | functions (indices : List Nat)
  | expressions (type : RefType) (values : List (List Op))
  deriving Repr

/-- The places of custom sections among the others: the number of the section they
stand next to, and on which side. -/
structure Place where
  section_ : Nat
  after : Bool
  deriving DecidableEq, Repr

inductive Field where
  | type (group : TypeGroup)
  | import (module name : String) (type : ItemType)
  | func (use : TypeUse) (locals : List Variable) (body : List Op)
  | table (type : Wasm.TableType) (init : Option (List Op))
  | memory (type : Wasm.MemoryType)
  | global (type : Wasm.GlobalType) (init : List Op)
  | tag (use : TypeUse)
  | export (name : String) (kind : Wasm.ExternKind) (index : Nat)
  | start (func : Nat)
  | elem (mode : SegmentMode) (elements : Elements)
  | data (mode : SegmentMode) (bytes : Bytes)
  | custom (name : String) (place : Place) (bytes : Bytes)
  deriving Repr

namespace Place

/-- The sections by keyword in their order, between the two ends. -/
def keywords : List String :=
  ["first", "type", "import", "func", "table", "memory", "tag", "global", "export", "start",
   "elem", "code", "data", "last"]

def first : Place := { section_ := 0, after := false }

/-- Behind everything, which is where a custom section stands unless it says
otherwise. -/
def last : Place := { section_ := 13, after := true }

end Place

namespace Items

/-! ## What is imported -/

def itemType (names : Names) : Wasm.ExternKind → Items ItemType
  | .func => .func <$> typeUse names true
  | .table => .table <$> tableType names
  | .memory => .memory <$> memoryType
  | .global => .global <$> globalType names
  | .tag => .tag <$> typeUse names true

def kinds : List (String × Wasm.ExternKind × Space) :=
  [("func", .func, .func), ("table", .table, .table), ("memory", .memory, .memory),
   ("global", .global, .global), ("tag", .tag, .tag)]

def kind : Items (Wasm.ExternKind × Space) := do
  match kinds.lookup (← keyword) with
  | some kind => pure kind
  | none => fail

def importField (names : Names) : Items (List Field) := do
  let module ← text
  let name ← text
  let item : Items ItemType := do
    let (kind, _) ← kind
    let _ ← id?
    itemType names kind
  match whole item (← list) with
  | some type => pure [.import module name type]
  | none => fail

def exportField (names : Names) : Items (List Field) := do
  let name ← text
  let item : Items (Wasm.ExternKind × Nat) := do
    let (kind, space) ← kind
    let index ← indexIn names space
    pure (kind, index)
  match whole item (← list) with
  | some (kind, index) => pure [.export name kind index]
  | none => fail

/-! ## Segments -/

/-- The bytes of the constant zero as wide as an index. -/
def zero (index64 : Bool) : List Op :=
  [.plain [if index64 then 0x42 else 0x41, 0]]

/-- Behind its keyword or as `sugar` says, an expression in a bracket. -/
def bracketed (names : Names) (head : String) (sugar : Items (List Op)) : Items (List Op) := do
  match ← list? head (expr names) with
  | some ops => pure ops
  | none => sugar

/-- The table or memory a segment is for, by number or, in a bracket, by use. -/
def target? (names : Names) (head : String) (space : Space) : Items (Option Nat) := do
  if ← atInteger then some <$> indexIn names space else list? head (indexIn names space)

/-! ### Elements -/

def functionIndices (names : Names) : Items Elements :=
  .functions <$> all (indexIn names .func)

/-- Expressions, each in a bracket of its own or as one operation. -/
def expressions (names : Names) (type : RefType) : Items Elements :=
  .expressions type <$> all (bracketed names "item" (operation names))

/-- The elements of a segment: expressions behind their type, or functions by index
behind a keyword, which `bare` allows to leave out. -/
def elements (names : Names) (bare : Bool) : Items Elements := do
  match ← refType? names with
  | some type => expressions names type
  | none =>
    let marked ← keyword? "func"
    if marked || bare then functionIndices names else fail

/-- Whether a bracket is next, and not a reference type. -/
def atOffset (names : Names) : Items Bool := do
  match ← front? with
  | some (.list inside) =>
    let isType := (refType? names [.list inside]).any fun (type, _) => type.isSome
    pure !isType
  | _ => pure false

def atList (head : String) : Items Bool := do pure ((← front?).any fun tree => tree.opens head)

/-- The elements of a segment that does not say which table it is for may be bare. -/
def elemField (names : Names) : Items (List Field) := do
  let _ ← id?
  if ← keyword? "declare" then
    let elements ← elements names false
    pure [.elem .declared elements]
  else if (← atInteger) || (← atOffset names) then
    let bare ← not <$> atList "table"
    let target ← target? names "table" .table
    let offset ← bracketed names "offset" (operation names)
    let elements ← elements names bare
    pure [.elem (.active (target.getD 0) offset) elements]
  else
    let elements ← elements names false
    pure [.elem .passive elements]

/-! ### Data -/

/-- The numbers that data may consist of: how they are marked, and how one is
written. -/
def dataNumbers : List (String × Items Bytes) :=
  [("i8", LittleEndian.encode 1 <$> word 8), ("i16", LittleEndian.encode 2 <$> word 16),
   ("i32", LittleEndian.encode 4 <$> word 32), ("i64", LittleEndian.encode 8 <$> word 64),
   ("f32", LittleEndian.encode 4 <$> float Ieee.binary32),
   ("f64", LittleEndian.encode 8 <$> float Ieee.binary64), ("v128", vector)]

def numbers : Items Bytes := do
  match dataNumbers.lookup (← keyword) with
  | some number => List.flatten <$> all number
  | none => fail

/-- Data up to the end, in strings and in brackets of numbers. -/
def dataBytes : Items Bytes :=
  List.flatten <$> all do
    match ← front? with
    | some (.list _) =>
      match whole numbers (← list) with
      | some bytes => pure bytes
      | none => fail
    | _ => string

/-- Whether data follows without an offset, be it none. -/
def atPassive : Items Bool := do
  match ← front? with
  | none | some (.atom (.string _)) => pure true
  | _ => pure false

def dataField (names : Names) : Items (List Field) := do
  let _ ← id?
  let mode ←
    if ← atPassive then pure .passive
    else do
      let target ← target? names "memory" .memory
      let offset ← bracketed names "offset" (folded names)
      pure (.active (target.getD 0) offset)
  let bytes ← dataBytes
  pure [.data mode bytes]

/-! ## Definitions -/

/-- The exports in place of a definition, as fields of their own. -/
def exportsHere (kind : Wasm.ExternKind) (own : Nat) : Items (List Field) :=
  many do
    let name ← list? "export" text
    pure (name.map fun name => .export name kind own)

def importHere? : Items (Option (String × String)) :=
  list? "import" do
    let module ← text
    let name ← text
    pure (module, name)

/-- A thing that is exported in place, and imported in place or defined. -/
def thing (names : Names) (kind : Wasm.ExternKind) (own : Nat) (definition : Items (List Field)) :
    Items (List Field) := do
  let _ ← id?
  let exports ← exportsHere kind own
  match ← importHere? with
  | some (module, name) =>
    let type ← itemType names kind
    pure (exports ++ [.import module name type])
  | none =>
    let fields ← definition
    pure (exports ++ fields)

def funcField (names : Names) : Items (List Field) := do
  let use ← typeUse names true
  let locals ← many (list? "local" (bindings names true))
  let body ← expr names
  pure [.func use locals.flatten body]

/-- The table around elements, which is as large as they are many. -/
def tableOf (own : Nat) (shared index64 : Bool) (type : RefType) (elements : Elements) :
    List Field :=
  let count :=
    match elements with
    | .functions indices => indices.length
    | .expressions _ values => values.length
  [.table { element := type, index64 := index64, shared := shared, minimum := count,
            maximum := some count } none,
   .elem (.active own (zero index64)) elements]

/-- A table by its elements, with one mark at most in front of their type. -/
def tableByElements? (names : Names) (own : Nat) : Items (Option (List Field)) := do
  let shared ← keyword? "shared"
  let index64 ← if shared then pure false else index64
  match ← refType? names with
  | none => pure none
  | some type =>
    let contents : Items Elements := do
      match ← front? with
      | some (.list _) => expressions names type
      | _ => functionIndices names
    match ← list? "elem" contents with
    | some elements => pure (some (tableOf own shared index64 type elements))
    | none => fail

def tableField (names : Names) (own : Nat) : Items (List Field) := do
  match ← attempt (tableByElements? names own) with
  | some fields => pure fields
  | none =>
    let type ← tableType names
    let init ← if ← atEnd then pure none else some <$> expr names
    pure [.table type init]

def pagesFor (pageSizeLog2 : Option Nat) (bytes : Bytes) : Nat :=
  let size := Nat.pow 2 (pageSizeLog2.getD 16)
  (bytes.length + size - 1) / size

def memoryByContents? (own : Nat) : Items (Option (List Field)) := do
  let index64 ← index64
  let pageSizeLog2 ← pageSize?
  let bytes ← list? "data" dataBytes
  pure (bytes.map fun bytes =>
    let pages := pagesFor pageSizeLog2 bytes
    [.memory { index64 := index64, shared := false, minimum := pages, maximum := some pages,
               pageSizeLog2 := pageSizeLog2 },
     .data (.active own (zero index64)) bytes])

def memoryField (own : Nat) : Items (List Field) := do
  match ← attempt (memoryByContents? own) with
  | some fields => pure fields
  | none =>
    let type ← memoryType
    pure [.memory type]

def globalField (names : Names) : Items (List Field) := do
  let type ← globalType names
  let init ← expr names
  pure [.global type init]

def tagField (names : Names) : Items (List Field) := do
  let use ← typeUse names true
  pure [.tag use]

/-! ## Notes -/

def place (after : Bool) : Items Place := do
  match Place.keywords.idxOf? (← keyword) with
  | some n =>
    if n = 0 ∧ after ∨ n = 13 ∧ !after then fail
    pure { section_ := n, after := after }
  | none => fail

def customField : Items (List Field) := do
  let name ← text
  let before ← list? "before" (place false)
  let after ← if before.isSome then pure none else list? "after" (place true)
  let bytes ← strings
  pure [.custom name ((before <|> after).getD Place.last) bytes]

end Items

namespace Field

open Items

/-- The fields a written field stands for.  `own` tells the index of the thing it
defines in each space. -/
def ofTree? (names : Names) (own : Space → Nat) : Tree → Option (List Field)
  | .list (.atom (.keyword text) :: inside) =>
    let reader : Items (List Field) :=
      match text with
      | "type" => do pure [.type (.alone (← typeDefinition names))]
      | "rec" => do pure [.type (.together (← typeGroup names))]
      | "import" => importField names
      | "export" => exportField names
      | "func" => thing names .func (own .func) (funcField names)
      | "table" => thing names .table (own .table) (tableField names (own .table))
      | "memory" => thing names .memory (own .memory) (memoryField (own .memory))
      | "global" => thing names .global (own .global) (globalField names)
      | "tag" => thing names .tag (own .tag) (tagField names)
      | "start" => do pure [.start (← indexIn names .func)]
      | "elem" => elemField names
      | "data" => dataField names
      | _ => fail
    whole reader inside
  | .note "custom" inside => whole customField inside
  | .note "producers" inside => (whole producers inside).map fun _ => []
  | .note "dylink.0" inside => (whole dynamicLoading inside).map fun _ => []
  | _ => none

def offsetUses : SegmentMode → List TypeUse
  | .active _ offset => offset.flatMap Op.typeUses
  | _ => []

def elementUses : Elements → List TypeUse
  | .functions _ => []
  | .expressions _ values => values.flatten.flatMap Op.typeUses

/-- The uses of function types in a field, in the order in which they may add to the
types of the module. -/
def typeUses : Field → List TypeUse
  | .import _ _ (.func use) | .import _ _ (.tag use) | .tag use => [use]
  | .func use _ body => use :: body.flatMap Op.typeUses
  | .table _ (some init) => init.flatMap Op.typeUses
  | .global _ init => init.flatMap Op.typeUses
  | .elem mode elements => offsetUses mode ++ elementUses elements
  | .data mode _ => offsetUses mode
  | _ => []

def endsImports : Field → Bool
  | .func .. | .table .. | .memory _ | .global .. => true
  | _ => false

def isImport : Field → Bool
  | .import .. => true
  | _ => false

end Field
end Wat
end HostLink
