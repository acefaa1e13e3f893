/-
From the text format to the binary one.

`Assembly.ofText?` reads a text into the fields of a module, and
`Assembly.encode?` writes them as binary sections.  A text may also hold the bytes
of a binary in strings, which stand as they are.
-/
import HostLink.Wasm.Section
import HostLink.Wat.Field

namespace HostLink
namespace Wat

open Wasm (Bytes)
open Wasm.Writer

structure Assembly where
  title : Option String
  fields : List Field

namespace Assembly

/-! ## Reading -/

/-- The fields of each tree; `before` are the things of the trees before it. -/
def fieldsOf (names : Names) : Names → List Tree → Option (List Field)
  | _, [] => some []
  | before, tree :: rest => do
    let first ← Field.ofTree? names before.count tree
    let others ← fieldsOf names (before ++ Names.ofTree tree) rest
    pure (first ++ others)

/-- Whether no import follows a definition. -/
def importsFirst (fields : List Field) : Bool :=
  (fields.dropWhile fun field => !field.endsImports).all fun field => !field.isImport

def ofFields? (title : Option String) (trees : List Tree) : Option Assembly := do
  let names : Names := trees.flatMap Names.ofTree
  let fields ← fieldsOf names [] trees
  if names.distinct && importsFirst fields then some { title := title, fields := fields }
  else none

/-! ## Encoding -/

def groups (assembly : Assembly) : List TypeGroup :=
  assembly.fields.filterMap fun
    | .type group => some group
    | _ => none

/-- The types of the module: those defined, and those added by their uses. -/
def types (assembly : Assembly) : List TypeSlot :=
  (assembly.fields.flatMap Field.typeUses).foldl TypeUse.addTo
    (assembly.groups.flatMap TypeGroup.slots)

/-- The entries of the type section: the groups, and the types added behind them. -/
def typeEntries (assembly : Assembly) : List Bytes :=
  let defined := (assembly.groups.flatMap TypeGroup.slots).length
  assembly.groups.map TypeGroup.encode ++
    ((assembly.types.drop defined).filterMap TypeSlot.signature).map funcType

def itemType? (types : List TypeSlot) : ItemType → Option Wasm.TypeRef
  | .func use => (use.resolve? types).map .func
  | .table type => some (.table type)
  | .memory type => some (.memory type)
  | .global type => some (.global type)
  | .tag use => (use.resolve? types).map .tag

def constant? (types : List TypeSlot) (ops : List Op) : Option Bytes :=
  Op.encodeExpr { types := types, names := [] } ops

/-- The body of a function under its length, its locals one by one. -/
def body? (types : List TypeSlot) (use : TypeUse) (locals : List Variable) (ops : List Op) :
    Option Bytes := do
  let names := use.visible types ++ locals.map Variable.name
  let given := names.filterMap id
  if given.eraseDups.length ≠ given.length then none
  let code ← Op.encodeExpr { types := types, names := names } ops
  pure (block (list (fun v => 1 :: valType v.type) locals ++ code))

/-- The number that tells how a segment is copied, and the target and offset if it
is copied at once. -/
def mode? (types : List TypeSlot) (active passive declared : Nat) :
    SegmentMode → Option Bytes
  | .active target offset =>
    (constant? types offset).map fun offset => unsigned active ++ unsigned target ++ offset
  | .passive => some (unsigned passive)
  | .declared => some (unsigned declared)

def elem? (types : List TypeSlot) (mode : SegmentMode) : Elements → Option Bytes
  | .functions indices =>
    (mode? types 2 1 3 mode).map (· ++ 0 :: list unsigned indices)
  | .expressions type values => do
    let mode ← mode? types 6 5 7 mode
    let values ← values.mapM (constant? types)
    pure (mode ++ refType type ++ list id values)

/-- The entry a field makes, with the number of its section among the keywords of
`Place`. -/
def entry? (types : List TypeSlot) : Field → Option (Nat × Bytes)
  | .type _ => none
  | .import module item type =>
    (itemType? types type).map fun type => (2, name module ++ name item ++ typeRef type)
  | .func use _ _ => (use.resolve? types).map fun index => (3, unsigned index)
  | .table type none => some (4, tableType type)
  | .table type (some init) =>
    (constant? types init).map fun init => (4, [0x40, 0] ++ tableType type ++ init)
  | .memory type => some (5, memoryType type)
  | .tag use => (use.resolve? types).map fun index => (6, 0 :: unsigned index)
  | .global type init => (constant? types init).map fun init => (7, globalType type ++ init)
  | .export item kind index => some (8, name item ++ kind.code :: unsigned index)
  | .start func => some (9, unsigned func)
  | .elem mode elements => (elem? types mode elements).map fun bytes => (10, bytes)
  | .data mode bytes => (mode? types 2 1 1 mode).map fun mode => (12, mode ++ block bytes)
  | .custom .. => none

/-- The entries of all fields; types are written on their own, and custom sections are
sections themselves. -/
def entries? (types : List TypeSlot) : List Field → Option (List (Nat × Bytes))
  | [] => some []
  | .type _ :: rest | .custom .. :: rest => entries? types rest
  | .func use locals ops :: rest => do
    let head ← entry? types (.func use locals ops)
    let code ← body? types use locals ops
    let others ← entries? types rest
    pure (head :: (11, code) :: others)
  | field :: rest => do
    let first ← entry? types field
    let others ← entries? types rest
    pure (first :: others)

def sectionIds : List (Nat × UInt8) :=
  [(1, 1), (2, 2), (3, 3), (4, 4), (5, 5), (6, 13), (7, 6), (8, 7), (9, 8), (10, 9), (11, 10),
   (12, 11)]

/-- A section, which is left out if it has no entries.  Each start function makes a
section of its own, without a count. -/
def section? (entries : List (Nat × Bytes)) (number : Nat) : Bytes :=
  let entries := (entries.filter fun entry => entry.1 == number).map Prod.snd
  match sectionIds.lookup number with
  | none => []
  | some id =>
    if number = 9 then entries.flatMap fun bytes => id :: block bytes
    else if entries.isEmpty then []
    else id :: block (list (fun bytes => bytes) entries)

def custom (title : String) (bytes : Bytes) : Bytes := 0 :: block (name title ++ bytes)

def customsAt (assembly : Assembly) (place : Place) : Bytes :=
  assembly.fields.flatMap fun
    | .custom title here bytes => if here = place then custom title bytes else []
    | _ => []

/-- Whether the module has a custom section for names of its own. -/
def namesItself (assembly : Assembly) : Bool :=
  assembly.fields.any fun
    | .custom title _ _ => title == Wasm.nameSectionName
    | _ => false

/-- The custom section with the name of the module, if it has one and does not name
itself otherwise. -/
def nameSection (assembly : Assembly) : Bytes :=
  match assembly.title with
  | none => []
  | some title =>
    if assembly.namesItself then []
    else custom Wasm.nameSectionName (0 :: block (name title))

def header : Bytes := Wasm.magic ++ [1, 0, 0, 0]

/-- The binary form.  The name of the module comes behind all sections but the
custom ones that stand last. -/
def encode? (assembly : Assembly) : Option Bytes := do
  let entries ← entries? assembly.types assembly.fields
  let all := assembly.typeEntries.map (fun entry => (1, entry)) ++ entries
  let sections := (List.range 13).flatMap fun n =>
    assembly.customsAt ⟨n, false⟩ ++ section? all n ++ assembly.customsAt ⟨n, true⟩
  pure (header ++ sections ++ assembly.nameSection ++ assembly.customsAt ⟨13, false⟩ ++
    assembly.customsAt Place.last)

end Assembly

/-! ## Texts -/

namespace Items

/-- A module from behind its keyword: its name, and the bytes of a binary or
fields. -/
def module : Items Bytes := do
  let id ← plainId?
  let note ← nameNote?
  let bytes? ←
    if ← keyword? "binary" then some <$> strings
    else do pure ((Assembly.ofFields? (note <|> id) (← remaining)).bind Assembly.encode?)
  match bytes? with
  | some bytes => pure bytes
  | none => fail

end Items

def componentHeader : Bytes := Wasm.magic ++ [0x0d, 0, 1, 0]

def componentFields : List String :=
  ["core", "component", "instance", "alias", "type", "canon", "start", "func", "import",
   "export", "value"]

/-- A component from behind its keyword.  No component is a module, so what it holds is
not looked into. -/
def Items.component : Items Bytes := do
  let _ ← id?
  if ← keyword? "binary" then strings
  else
    let fields ← remaining
    if fields.all fun field => componentFields.any field.opens || field matches .note .. then
      pure componentHeader
    else fail

/-- The binary form of some trees: one module or component in its bracket, or the
fields of a module without the bracket. -/
def ofTrees? : List Tree → Option Bytes
  | .list (.atom (.keyword "module") :: inside) :: rest =>
    if rest.isEmpty then Items.whole Items.module inside else none
  | .list (.atom (.keyword "component") :: inside) :: rest =>
    if rest.isEmpty then Items.whole Items.component inside else none
  | trees => (Assembly.ofFields? none trees).bind Assembly.encode?

/-- The binary form of a text.  A text without any token is not a module. -/
def assemble? (text : String) : Option Bytes := do
  let tokens ← Token.scan text
  if tokens.isEmpty then none
  ofTrees? (← Tree.ofTokens? tokens)

end Wat

end HostLink
