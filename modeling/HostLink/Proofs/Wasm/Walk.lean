/-
A module is read one item at a time.

To read a section is to read its items in order (`foldlM_items`).  `Contents.fault?` gives the
rules by which an item is refused, in view of the contents before it, and `Reads` says that some
index spaces hold what the contents mean.  One item is refused if there is a fault, and is added
to the spaces otherwise (`Reads.addItem`); so it is for any number of them (`reads_items`).
-/
import HostLink.Proofs.Wasm.Space

namespace HostLink
namespace Wasm

namespace IndexSpaces

/-- Reads a single item. -/
def addItem (s : IndexSpaces) : Item → Except CompileError IndexSpaces
  | .type type => s.addType type
  | .import_ entry => s.addImport entry
  | .function type => s.addFunction type
  | .table type => s.addTable type
  | .memory type => s.addMemory type
  | .global type => s.addGlobal type
  | .export_ entry => s.addExport entry
  | .names entries => .ok (entries.foldl addName s)
  | .undecodable reason => .error (.malformed reason)

theorem foldlM_entries {α : Type} {item : α → Item}
    {add : IndexSpaces → α → Except CompileError IndexSpaces}
    (hitem : ∀ s a, s.addItem (item a) = add s a) (s : IndexSpaces) (entries : Entries α) :
    (entries.map (.ofEntry item)).foldlM addItem s = addEntries add s entries := by
  rw [List.foldlM_map, addEntries]
  congr 1
  funext s entry
  cases entry with
  | error reason => rfl
  | ok a => exact hitem s a

/-- To read a section is to read its items in order. -/
theorem foldlM_items (s : IndexSpaces) (reading : Reading) :
    reading.items.foldlM addItem s = s.addReading reading := by
  obtain ⟨payload | payload, stop⟩ := reading
  · rfl
  · cases payload with
    | types entries => exact foldlM_entries (fun _ _ => rfl) s entries
    | imports entries => exact foldlM_entries (fun _ _ => rfl) s entries
    | functions entries => exact foldlM_entries (fun _ _ => rfl) s entries
    | tables entries => exact foldlM_entries (fun _ _ => rfl) s entries
    | memories entries => exact foldlM_entries (fun _ _ => rfl) s entries
    | globals entries => exact foldlM_entries (fun _ _ => rfl) s entries
    | «exports» entries => exact foldlM_entries (fun _ _ => rfl) s entries
    | names entries => rfl
    | other => rfl

theorem foldlM_readings (s : IndexSpaces) (readings : List Reading) :
    readings.foldlM addReading s = (items readings).foldlM addItem s := by
  induction readings generalizing s with
  | nil => rfl
  | cons first rest ih =>
    rw [List.foldlM_cons, items, List.flatMap_cons, List.foldlM_append, foldlM_items]
    exact bind_congr fun s => ih s

end IndexSpaces

/-! ## Faults -/

namespace Contents

def unknownType? (c : Contents) (index : Nat) : Option Fault :=
  if index < c.types.length then none else some (.unknownIndex .type index)

def importFault? (c : Contents) (entry : ImportEntry) : Option Fault :=
  match entry.type with
  | .func index => c.unknownType? index
  | .table type => type.fault?
  | .memory type => type.fault?
  | .global type => type.fault?
  | .tag _ => some (.unsupported (.tagImport entry.module entry.name))

/-- An index is looked up among the entities of its kind that were read before. -/
def lookupFault? (c : Contents) (kind : ExternKind) (space : IndexSpace) (index : Nat) :
    Option Fault :=
  match (ofKind kind c.entities)[index]? with
  | none => some (.unknownIndex space index)
  | some (.func type) => c.unknownType? type
  | some _ => none

def exportFault? (c : Contents) (entry : ExportEntry) : Option Fault :=
  match entry.kind with
  | .func => c.lookupFault? .func .function entry.index
  | .table => c.lookupFault? .table .table entry.index
  | .memory => c.lookupFault? .memory .memory entry.index
  | .global => c.lookupFault? .global .global entry.index
  | .tag => some (.unsupported (.tagExport entry.name))

/-- Why an item is refused, if it is: it cannot be decoded, it is of a type that cannot be
linked, or it has an index for which nothing was read. -/
def fault? (c : Contents) : Item → Option Fault
  | .type type => type.fault?
  | .import_ entry => c.importFault? entry
  | .table type => type.fault?
  | .memory type => type.fault?
  | .global type => type.fault?
  | .export_ entry => c.exportFault? entry
  | .undecodable reason => some (.undecodable reason)
  | .function _ | .names _ => none

/-- The first fault among items that are read one after the other. -/
def firstFault? (c : Contents) : List Item → Option Fault
  | [] => none
  | item :: rest => c.fault? item <|> (c.add item).firstFault? rest

theorem not_mem_of_fault {c : Contents} {items : List Item} {item : Item} {found : Fault}
    (hitem : ∀ c, fault? c item = some found) (h : c.firstFault? items = none) : item ∉ items := by
  induction items generalizing c with
  | nil => exact List.not_mem_nil
  | cons first rest ih =>
    obtain ⟨hfirst, hrest⟩ : c.fault? first = none ∧ (c.add first).firstFault? rest = none := by
      simpa [firstFault?] using h
    rintro (_ | ⟨_, hmem⟩)
    · cases hfirst.symm.trans (hitem c)
    · exact ih hrest hmem

end Contents

/-! ## One item -/

/-- Whether index spaces hold what was read. -/
structure Reads (c : Contents) (s : IndexSpaces) : Prop where
  signatures : List.Forall₂ FuncType.Means c.types s.signatures.toList
  functions : ofKind .func c.entities = s.functions.toList.map .func
  tables : List.Forall₂ (Denotes c.types) (ofKind .table c.entities) (s.tables.toList.map .table)
  memories : List.Forall₂ (Denotes c.types) (ofKind .memory c.entities)
    (s.memories.toList.map .memory)
  globals : List.Forall₂ (Denotes c.types) (ofKind .global c.entities)
    (s.globals.toList.map .global)
  imports : List.Forall₂ (DenotesImport c.types) c.imports s.module.imports
  definedTables : List.Forall₂ (Denotes c.types) (ofKind .table c.definitions)
    (s.module.tables.map .table)
  definedMemories : List.Forall₂ (Denotes c.types) (ofKind .memory c.definitions)
    (s.module.memories.map .memory)
  definedGlobals : List.Forall₂ (Denotes c.types) (ofKind .global c.definitions)
    (s.module.globals.map .global)
  exports : List.Forall₂ (DenotesExport c.types (ofKind · c.entities)) c.exports s.module.exports

theorem reads_empty : Reads {} {} :=
  ⟨.nil, rfl, .nil, .nil, .nil, .nil, .nil, .nil, .nil, .nil⟩

namespace Reads

variable {c : Contents} {s : IndexSpaces}

/-! ### What an item adds -/

theorem addType (h : Reads c s) {type : FuncType} {linked : FunctionType}
    (hlinked : type.Means linked) :
    Reads (c.add (.type type)) { s with signatures := s.signatures.push linked } := by
  have hc : c.types <+: (c.add (.type type)).types := List.prefix_append ..
  exact
    { signatures := by simpa using forall₂_concat h.signatures hlinked
      functions := h.functions
      tables := h.tables.imp fun _ _ hd => hd.mono hc
      memories := h.memories.imp fun _ _ hd => hd.mono hc
      globals := h.globals.imp fun _ _ hd => hd.mono hc
      imports := h.imports.imp fun _ _ hd => hd.mono hc
      definedTables := h.definedTables.imp fun _ _ hd => hd.mono hc
      definedMemories := h.definedMemories.imp fun _ _ hd => hd.mono hc
      definedGlobals := h.definedGlobals.imp fun _ _ hd => hd.mono hc
      exports := h.exports.imp fun _ _ hd => hd.mono hc List.prefix_rfl }

/-- Entering an entity keeps the exports that were read. -/
theorem exports_enter (h : Reads c s) (ref : TypeRef) :
    List.Forall₂ (DenotesExport c.types (ofKind · (c.enter ref).entities)) c.exports
      s.module.exports :=
  h.exports.imp fun _ _ hd => hd.mono List.prefix_rfl (List.prefix_append ..)

theorem enter_function (h : Reads c s) (type : Nat) :
    Reads (c.enter (.func type)) { s with functions := s.functions.push type } :=
  { h with
    functions := by simp [h.functions]
    tables := by simpa using h.tables
    memories := by simpa using h.memories
    globals := by simpa using h.globals
    exports := h.exports_enter _ }

theorem enter_table (h : Reads c s) {type : TableType} {linked : HostLink.TableType}
    (hlinked : type.Means linked) :
    Reads (c.enter (.table type)) { s with tables := s.tables.push linked } :=
  { h with
    functions := by simp [h.functions]
    tables := by
      have hd : Denotes c.types (.table type) (.table linked) := ⟨_, rfl, .table hlinked⟩
      simpa using forall₂_concat h.tables hd
    memories := by simpa using h.memories
    globals := by simpa using h.globals
    exports := h.exports_enter _ }

theorem enter_memory (h : Reads c s) {type : MemoryType} {linked : HostLink.MemoryType}
    (hlinked : type.Means linked) :
    Reads (c.enter (.memory type)) { s with memories := s.memories.push linked } :=
  { h with
    functions := by simp [h.functions]
    tables := by simpa using h.tables
    memories := by
      have hd : Denotes c.types (.memory type) (.memory linked) := ⟨_, rfl, .memory hlinked⟩
      simpa using forall₂_concat h.memories hd
    globals := by simpa using h.globals
    exports := h.exports_enter _ }

theorem enter_global (h : Reads c s) {type : GlobalType} {linked : HostLink.GlobalType}
    (hlinked : type.Means linked) :
    Reads (c.enter (.global type)) { s with globals := s.globals.push linked } :=
  { h with
    functions := by simp [h.functions]
    tables := by simpa using h.tables
    memories := by simpa using h.memories
    globals := by
      have hd : Denotes c.types (.global type) (.global linked) := ⟨_, rfl, .global hlinked⟩
      simpa using forall₂_concat h.globals hd
    exports := h.exports_enter _ }

theorem define_function (h : Reads c s) (type : Nat) :
    Reads (c.define (.func type)) { s with functions := s.functions.push type } :=
  { h.enter_function type with
    definedTables := by simpa using h.definedTables
    definedMemories := by simpa using h.definedMemories
    definedGlobals := by simpa using h.definedGlobals }

theorem define_table (h : Reads c s) {type : TableType} {linked : HostLink.TableType}
    (hlinked : type.Means linked) :
    Reads (c.define (.table type)) { s with
      tables := s.tables.push linked
      module := { s.module with tables := s.module.tables ++ [linked] } } :=
  { h.enter_table hlinked with
    definedTables := by
      have hd : Denotes c.types (.table type) (.table linked) := ⟨_, rfl, .table hlinked⟩
      simpa using forall₂_concat h.definedTables hd
    definedMemories := by simpa using h.definedMemories
    definedGlobals := by simpa using h.definedGlobals }

theorem define_memory (h : Reads c s) {type : MemoryType} {linked : HostLink.MemoryType}
    (hlinked : type.Means linked) :
    Reads (c.define (.memory type)) { s with
      memories := s.memories.push linked
      module := { s.module with memories := s.module.memories ++ [linked] } } :=
  { h.enter_memory hlinked with
    definedTables := by simpa using h.definedTables
    definedMemories := by
      have hd : Denotes c.types (.memory type) (.memory linked) := ⟨_, rfl, .memory hlinked⟩
      simpa using forall₂_concat h.definedMemories hd
    definedGlobals := by simpa using h.definedGlobals }

theorem define_global (h : Reads c s) {type : GlobalType} {linked : HostLink.GlobalType}
    (hlinked : type.Means linked) :
    Reads (c.define (.global type)) { s with
      globals := s.globals.push linked
      module := { s.module with globals := s.module.globals ++ [linked] } } :=
  { h.enter_global hlinked with
    definedTables := by simpa using h.definedTables
    definedMemories := by simpa using h.definedMemories
    definedGlobals := by
      have hd : Denotes c.types (.global type) (.global linked) := ⟨_, rfl, .global hlinked⟩
      simpa using forall₂_concat h.definedGlobals hd }

theorem addName (h : Reads c s) (entry : Except String NameEntry) : Reads c (s.addName entry) := by
  rcases entry with reason | name | _
  · exact h
  · exact { h with }
  · exact h

theorem addNames (h : Reads c s) (entries : Entries NameEntry) :
    Reads c (entries.foldl IndexSpaces.addName s) := by
  induction entries generalizing s with
  | nil => exact h
  | cons entry rest ih => exact ih (h.addName entry)

/-! ### Conversions -/

theorem converts_signature (h : Reads c s) (index : Nat) :
    Converts (c.unknownType? index) (fun type => Denotes c.types (.func index) (.function type))
      (s.signature index) := by
  have hlength : c.types.length = s.signatures.size := h.signatures.length_eq
  rw [Contents.unknownType?, IndexSpaces.signature, IndexSpaces.lookup]
  by_cases hindex : index < c.types.length
  · have hsize : index < s.signatures.size := hlength ▸ hindex
    have hmeans := h.signatures.get hindex (by simpa using hsize)
    rw [if_pos hindex, Array.getElem?_eq_getElem hsize]
    refine .ok rfl ⟨.func c.types[index], ?_, .func ?_⟩
    · rw [entityType?, List.getElem?_eq_getElem hindex, Option.map_some]
    · simpa using hmeans
  · rw [if_neg hindex, Array.getElem?_eq_none (hlength ▸ Nat.le_of_not_lt hindex)]
    exact .error rfl rfl

/-- Looking an index up among entities that some types stand for. -/
theorem converts_lookup {α : Type} {wrap : α → ExternType} {kind : ExternKind} {found : Array α}
    (h : List.Forall₂ (Denotes c.types) (ofKind kind c.entities) (found.toList.map wrap))
    (hkind : kind ≠ .func) (space : IndexSpace) (index : Nat) :
    Converts (c.lookupFault? kind space index)
      (fun a => ∃ ref, (ofKind kind c.entities)[index]? = some ref ∧ Denotes c.types ref (wrap a))
      (IndexSpaces.lookup space found index) := by
  have hlength : (ofKind kind c.entities).length = found.size := by
    simpa using h.length_eq
  rw [Contents.lookupFault?, IndexSpaces.lookup]
  by_cases hindex : index < (ofKind kind c.entities).length
  · have hsize : index < found.size := hlength ▸ hindex
    have hdenotes := h.get hindex (by simpa using hsize)
    have hmem : (ofKind kind c.entities)[index] ∈ ofKind kind c.entities :=
      List.getElem_mem hindex
    rw [Array.getElem?_eq_getElem hsize, List.getElem?_eq_getElem hindex]
    refine .ok ?_ ⟨_, rfl, by simpa using hdenotes⟩
    -- Only functions are looked up once more.
    have hsame : (ofKind kind c.entities)[index].kind = kind :=
      of_decide_eq_true (List.mem_filter.mp hmem).2
    cases href : (ofKind kind c.entities)[index] with
    | func type =>
      rw [href] at hsame
      exact absurd hsame.symm hkind
    | table _ | memory _ | global _ | tag _ => rfl
  · have hbehind : (ofKind kind c.entities).length ≤ index := Nat.le_of_not_lt hindex
    rw [Array.getElem?_eq_none (hlength ▸ hbehind), List.getElem?_eq_none hbehind]
    exact .error rfl rfl

theorem converts_function (h : Reads c s) (index : Nat) :
    Converts (c.lookupFault? .func .function index)
      (fun type => ∃ ref, (ofKind .func c.entities)[index]? = some ref ∧
        Denotes c.types ref (.function type))
      (s.function index) := by
  rw [Contents.lookupFault?, IndexSpaces.function, IndexSpaces.lookup, h.functions]
  by_cases hindex : index < s.functions.size
  · have href : (s.functions.toList.map TypeRef.func)[index]? =
        some (.func s.functions[index]) := by
      simp [hindex]
    rw [href, Array.getElem?_eq_getElem hindex]
    exact (h.converts_signature _).mono fun type htype => ⟨_, rfl, htype⟩
  · have href : (s.functions.toList.map TypeRef.func)[index]? = none := by
      simpa using hindex
    rw [href, Array.getElem?_eq_none (Nat.le_of_not_lt hindex)]
    exact .error rfl rfl

theorem converts_export (h : Reads c s) (entry : ExportEntry) :
    Converts (c.exportFault? entry)
      (fun type => ∃ ref, (ofKind entry.kind c.entities)[entry.index]? = some ref ∧
        Denotes c.types ref type)
      (s.exportType entry) := by
  rw [Contents.exportFault?, IndexSpaces.exportType]
  cases entry.kind with
  | func => exact (h.converts_function entry.index).map fun _ htype => htype
  | table =>
    exact (converts_lookup h.tables (by decide) .table entry.index).map fun _ htype => htype
  | memory =>
    exact (converts_lookup h.memories (by decide) .memory entry.index).map fun _ htype => htype
  | global =>
    exact (converts_lookup h.globals (by decide) .global entry.index).map fun _ htype => htype
  | tag => exact .error rfl rfl

theorem converts_import (h : Reads c s) (entry : ImportEntry) :
    Converts (c.importFault? entry)
      (fun found => Denotes c.types entry.type found.1 ∧ Reads (c.enter entry.type) found.2)
      (s.importEntity entry) := by
  rw [Contents.importFault?, IndexSpaces.importEntity]
  cases entry.type with
  | func index =>
    exact (h.converts_signature index).map fun _ hd => ⟨hd, h.enter_function index⟩
  | table type =>
    exact (converts_table type).map fun _ hm => ⟨⟨_, rfl, .table hm⟩, h.enter_table hm⟩
  | memory type =>
    exact (converts_memory type).map fun _ hm => ⟨⟨_, rfl, .memory hm⟩, h.enter_memory hm⟩
  | global type =>
    exact (converts_global type).map fun _ hm => ⟨⟨_, rfl, .global hm⟩, h.enter_global hm⟩
  | tag type => exact .error rfl rfl

/-- An item is refused if there is a fault, and is added otherwise. -/
theorem addItem (h : Reads c s) (item : Item) :
    Converts (c.fault? item) (Reads (c.add item)) (s.addItem item) := by
  cases item with
  | type type => exact (Wasm.converts_signature type).map fun _ hm => h.addType hm
  | import_ entry =>
    refine (h.converts_import entry).map fun found hfound => ?_
    exact { hfound.2 with imports := forall₂_concat hfound.2.imports ⟨rfl, rfl, hfound.1⟩ }
  | function type => exact .ok rfl (h.define_function type)
  | table type => exact (converts_table type).map fun _ hm => h.define_table hm
  | memory type => exact (converts_memory type).map fun _ hm => h.define_memory hm
  | global type => exact (converts_global type).map fun _ hm => h.define_global hm
  | export_ entry =>
    exact (h.converts_export entry).map fun _ hd =>
      { h with exports := forall₂_concat h.exports ⟨rfl, hd⟩ }
  | names entries => exact .ok rfl (h.addNames entries)
  | undecodable reason => exact .error rfl rfl

/-- So it is for any number of items. -/
theorem addItems (h : Reads c s) (items : List Item) :
    Converts (c.firstFault? items) (Reads (items.foldl Contents.add c))
      (items.foldlM IndexSpaces.addItem s) := by
  induction items generalizing c s with
  | nil => exact .ok rfl h
  | cons item rest ih =>
    rw [List.foldlM_cons]
    exact (h.addItem item).bind fun _ hnext => ih hnext

end Reads

/-! ## All items -/

theorem converts_readings (readings : List Reading) :
    Converts (Contents.firstFault? {} (items readings)) (Reads (Contents.ofItems (items readings)))
      (readings.foldlM IndexSpaces.addReading {}) := by
  rw [IndexSpaces.foldlM_readings]
  exact reads_empty.addItems (items readings)

end Wasm
end HostLink
