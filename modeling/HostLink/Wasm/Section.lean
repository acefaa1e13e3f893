/-
A binary module as a sequence of decoded sections.

`Binary.decode` cuts the bytes into sections and reads the entries of each.  A section that
cannot be cut out or opened ends the sequence, and the entries of a section end at the first
that cannot be decoded.  What comes after a fault is not looked at, so what is read of a
section depends only on the bytes up to its end.

Section kinds, types and instructions are those of WebAssembly 3.0 as far as `Instr` has them.
-/
import HostLink.LittleEndian
import HostLink.Wasm.Instr

namespace HostLink
namespace Wasm

/-- What is said of anything that cannot be decoded. -/
def malformedReason : String := "malformed module"

/-! ## Entries -/

namespace Entries

variable {α : Type}

def items (entries : Entries α) : List α := entries.filterMap Except.toOption

def faulty (entries : Entries α) : Bool := entries.any fun entry => !entry.isOk

end Entries

/-- A function type entry.  Only a final type without a supertype that is alone in
its group describes a function on its own. -/
structure TypeEntry where
  shared : Bool
  type : FuncType
  deriving DecidableEq, Repr

structure TableEntry where
  type : TableType
  init : Option (List Instr)
  deriving Repr

structure GlobalEntry where
  type : GlobalType
  init : List Instr
  deriving Repr

/-- When a segment is copied: at instantiation to an offset, on demand, or never. -/
inductive SegmentMode where
  | active (target : Nat) (offset : List Instr)
  | passive
  | declared
  deriving Repr

inductive ElementItems where
  | functions (indices : List Nat)
  | expressions (type : RefType) (values : List (List Instr))
  deriving Repr

structure ElementEntry where
  mode : SegmentMode
  items : ElementItems
  deriving Repr

/-- A data segment.  Its bytes do not matter to the module's declaration. -/
structure DataEntry where
  mode : SegmentMode
  deriving Repr

namespace Reader

/-- A function type, with the mark that makes it shared. -/
def compositeType : Reader TypeEntry := do
  let first ← byte
  let form ← if first = 0x65 then byte else pure first
  if form ≠ 0x60 then fail
  let type ← funcType
  pure { shared := first == 0x65, type := type }

/-- A composite type, possibly with the empty list of supertypes of a final type. -/
def subType : Reader TypeEntry := do
  if (← peek) = 0x4f then
    let _ ← byte
    if (← u32) ≠ 0 then fail
  compositeType

/-- A type, possibly in a group of one. -/
def typeEntry : Reader TypeEntry := do
  if (← peek) = 0x4e then
    let _ ← byte
    if (← u32) ≠ 1 then fail
  subType

def importEntry : Reader ImportEntry := do
  let module ← name
  let name ← name
  let type ← typeRef
  pure { module := module, name := name, type := type }

def exportEntry : Reader ExportEntry := do
  let name ← name
  match ExternKind.ofCode? (← byte) with
  | some kind =>
    let index ← u32
    pure { name := name, kind := kind, index := index }
  | none => fail

/-! ## Entries with expressions

`bound` is the number of bytes there are at most. -/

/-- A table, after the code `0x40 0x00` one with an initial value. -/
def tableEntry (bound : Nat) : Reader TableEntry := do
  if (← peek) = 0x40 then
    let _ ← byte
    if (← byte) ≠ 0 then fail
    let type ← tableType
    let init ← expr bound
    pure { type := type, init := some init }
  else
    let type ← tableType
    pure { type := type, init := none }

def globalEntry (bound : Nat) : Reader GlobalEntry := do
  let type ← globalType
  let init ← expr bound
  pure { type := type, init := init }

/-- The items of an element segment; the flags say whether they are expressions
and whether their type is written out. -/
def elementItems (bound : Nat) (expressions typed : Bool) : Reader ElementItems := do
  if expressions then
    let type ← if typed then refType else pure RefType.funcRef
    let values ← many (expr bound) (← u32)
    pure (.expressions type values)
  else
    if typed then
      if (← byte) ≠ ExternKind.func.code then fail
    let indices ← many u32 (← u32)
    pure (.functions indices)

def elementEntry (bound : Nat) : Reader ElementEntry := do
  let flags ← u32
  if flags ≥ 8 then fail
  let mode ←
    if flags.testBit 0 then
      pure (if flags.testBit 1 then SegmentMode.declared else .passive)
    else do
      let table ← if flags.testBit 1 then u32 else pure 0
      let offset ← expr bound
      pure (.active table offset)
  let items ← elementItems bound (flags.testBit 2) (flags.testBit 0 || flags.testBit 1)
  pure { mode := mode, items := items }

def dataEntry (bound : Nat) : Reader DataEntry := do
  let flags ← u32
  let mode ←
    match flags with
    | 0 => SegmentMode.active 0 <$> expr bound
    | 1 => pure .passive
    | 2 => do
      let memory ← u32
      let offset ← expr bound
      pure (.active memory offset)
    | _ => fail
  ignore block
  pure { mode := mode }

/-! ## Lists of entries -/

/-- Up to `n` entries.  Bytes left over after the last are a fault, too. -/
def entriesUpTo {α : Type} (item : Reader α) : Nat → Bytes → Entries α
  | 0, bytes => if bytes.isEmpty then [] else [.error malformedReason]
  | n + 1, bytes =>
    match item bytes with
    | none => [.error malformedReason]
    | some (first, rest) => .ok first :: entriesUpTo item n rest

def entries {α : Type} (item : Reader α) (bytes : Bytes) : Option (Entries α) :=
  (u32 bytes).map fun (n, rest) => entriesUpTo item n rest

/-- A single item that fills its section. -/
def whole {α : Type} (item : Reader α) (bytes : Bytes) : Option α :=
  match item bytes with
  | some (value, []) => some value
  | _ => none

end Reader

/-! ## The name section -/

/-- Takes one byte that has no top bit. -/
def smallByte : Bytes → Option Nat × Bytes
  | [] => (none, [])
  | b :: rest => (if b < 0x80 then some b.toNat else none, rest)

/-- The bytes after an unsigned 32-bit integer, also after a malformed one: at
most five, up to the first that ends it. -/
def afterSize : Nat → Bytes → Bytes
  | 0, bytes => bytes
  | _, [] => []
  | fuel + 1, b :: rest => if b < 0x80 then rest else afterSize fuel rest

/-- One subsection of the name section: its id and content if both can be read,
and where reading goes on.  A fault uses up only what was read until then. -/
def nameSubsection (bytes : Bytes) : Option (Nat × Bytes) × Bytes :=
  match smallByte bytes with
  | (none, rest) => (none, rest)
  | (some id, rest) =>
    match Reader.u32 rest with
    | none => (none, afterSize 5 rest)
    | some (size, rest) =>
      match Reader.take size rest with
      | none => (none, rest)
      | some (content, rest) => (some (id, content), rest)

/-- A subsection by its id and content.  The one with id `0` holds the name of the module and
nothing else. -/
def nameEntry? : Nat × Bytes → Option NameEntry
  | (0, content) => (Reader.whole Reader.name content).map .module
  | _ => some .other

def nameEntries : Nat → Bytes → Entries NameEntry
  | 0, _ => []
  | fuel + 1, bytes =>
    if bytes.isEmpty then []
    else
      let (found, rest) := nameSubsection bytes
      let entry :=
        match found.bind nameEntry? with
        | some entry => .ok entry
        | none => .error malformedReason
      entry :: nameEntries fuel rest

def nameSectionName : String := "name"

/-! ## Sections -/

inductive Section where
  | custom (name : String) (content : Bytes)
  | types (entries : Entries TypeEntry)
  | imports (entries : Entries ImportEntry)
  | functions (entries : Entries Nat)
  | tables (entries : Entries TableEntry)
  | memories (entries : Entries MemoryType)
  | globals (entries : Entries GlobalEntry)
  | exports (entries : Entries ExportEntry)
  | start (func : Nat)
  | elements (entries : Entries ElementEntry)
  | code (bodies : List Bytes)
  | data (entries : Entries DataEntry)
  | dataCount (count : Nat)
  | tags (entries : Entries Nat)
  | unknown (id : UInt8)
  deriving Repr

namespace Section

/-- What linking reads of a section. -/
def payload : Section → Payload
  | custom name content =>
    if name = nameSectionName then .names (nameEntries content.length content) else .other
  | types entries => .types (entries.map fun entry => entry.map TypeEntry.type)
  | imports entries => .imports entries
  | functions entries => .functions entries
  | tables entries => .tables (entries.map fun entry => entry.map TableEntry.type)
  | memories entries => .memories entries
  | globals entries => .globals (entries.map fun entry => entry.map GlobalEntry.type)
  | exports entries => .exports entries
  | _ => .other

open Reader

/-- The section with an id of its own other than code, from its content.  The
entries of tags, elements and data are only read by validation. -/
def ofContent (id : UInt8) (content : Bytes) : Option Section :=
  match id with
  | 0 => (name content).map fun (name, rest) => .custom name rest
  | 1 => (entries typeEntry content).map .types
  | 2 => (entries importEntry content).map .imports
  | 3 => (entries u32 content).map .functions
  | 4 => (entries (tableEntry content.length) content).map .tables
  | 5 => (entries memoryType content).map .memories
  | 6 => (entries (globalEntry content.length) content).map .globals
  | 7 => (entries exportEntry content).map .exports
  | 8 => (whole u32 content).map .start
  | 9 => (entries (elementEntry content.length) content).map .elements
  | 11 => (entries (dataEntry content.length) content).map .data
  | 12 => (whole u32 content).map .dataCount
  | 13 => (entries tagType content).map .tags
  | _ => some (.unknown id)

def ofCode (content : Bytes) : Option Section :=
  (whole (do many block (← u32)) content).map .code

def codeId : UInt8 := 10

/-- The section with an id from its content.  Only a module has the sections of a module;
elsewhere all but custom ones are unknown. -/
def ofFrame (isModule : Bool) (id : UInt8) (content : Bytes) : Option Section :=
  if id = 0 then ofContent id content
  else if !isModule then some (.unknown id)
  else if id = codeId then ofCode content
  else ofContent id content

/-- The id and the content of the next section.  The top bit of an id is never set. -/
def frame : Reader (UInt8 × Bytes) := do
  let id ← byte
  if id ≥ 0x80 then fail
  else
    let content ← block
    pure (id, content)

/-- A section, or nothing if it cannot be read, and the number of bytes up to its end if it is
there in full. -/
structure Cut where
  section_ : Option Section
  stop : Option Nat
  deriving Repr

/-- What the bytes from an offset on are cut into, up to a fault. -/
def cuts (isModule : Bool) : Nat → Nat → Bytes → List Cut
  | 0, _, bytes => if bytes.isEmpty then [] else [⟨none, none⟩]
  | fuel + 1, offset, bytes =>
    if bytes.isEmpty then []
    else
      match frame bytes with
      | none => [⟨none, none⟩]
      | some ((id, content), rest) =>
        let stop := offset + (bytes.length - rest.length)
        match ofFrame isModule id content with
        | none => [⟨none, some stop⟩]
        | some found => ⟨some found, some stop⟩ :: cuts isModule fuel stop rest

def Cut.reading (cut : Cut) : Reading :=
  { payload := match cut.section_ with
      | some found => .ok found.payload
      | none => .error malformedReason
    stop := cut.stop }

end Section

/-! ## Binaries -/

def moduleVersion : Nat := 1

/-- A decoded binary: the version, whether it claims to be a module at all, and what it is cut
into. -/
structure Binary where
  version : Nat
  isModule : Bool
  cuts : List Section.Cut
  deriving Repr

namespace Binary

open Reader

/-- The version of a binary, and whether it claims to be a module: two bytes after the magic
ones tell the version, and two tell a module from a component.  Other values of the latter
belong to no format. -/
def header : Reader (Nat × Bool) := do
  let start ← take 4
  if start ≠ magic then fail
  else
    let fields ← take 4
    let kind := LittleEndian.decode (fields.drop 2)
    if kind > 1 then fail else pure (LittleEndian.decode (fields.take 2), kind == 0)

def decode (bytes : Bytes) : Option Binary :=
  (header bytes).map fun ((version, isModule), rest) =>
    { version := version
      isModule := isModule
      cuts := Section.cuts isModule rest.length (bytes.length - rest.length) rest }

def sections (binary : Binary) : List Section := binary.cuts.filterMap Section.Cut.section_

/-- Whether nothing kept a section from being read. -/
def complete (binary : Binary) : Bool := binary.cuts.all fun cut => cut.section_.isSome

end Binary
end Wasm
end HostLink
