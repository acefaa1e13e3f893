/-
What the indices of a module stand for.

A front end gives sections with their entries.  Laid end to end these are the items of a module,
one for each entry and one for each thing that could not be decoded, and `Contents` is what the
items make up.

The entities of a kind are numbered from zero: those that are imported, in the order of their
imports, whatever stands between these, and then those that are defined.  `Contents.space` says
so, and `Contents.Describes` what a module declares that has these contents.
-/
import HostLink.Proofs.Wasm.Meaning

namespace HostLink
namespace Wasm

/-! ## Lists -/

theorem getElem?_append_of_eq_some {α : Type} {entries : List α} {i : Nat} {a : α}
    (h : entries[i]? = some a) (more : List α) : (entries ++ more)[i]? = some a := by
  rw [List.getElem?_append_left (List.getElem?_eq_some_iff.mp h).1, h]

theorem forall₂_concat {α β : Type} {related : α → β → Prop} {entries : List α} {others : List β}
    {a : α} {b : β} (h : List.Forall₂ related entries others) (hab : related a b) :
    List.Forall₂ related (entries ++ [a]) (others ++ [b]) :=
  List.rel_append h (.cons hab .nil)

theorem getElem?_of_forall₂ {α β : Type} {related : α → β → Prop} {entries : List α}
    {others : List β} (h : List.Forall₂ related entries others) {i : Nat} {b : β}
    (hb : others[i]? = some b) : ∃ a, entries[i]? = some a ∧ related a b := by
  induction h generalizing i with
  | nil => cases hb
  | @cons first first' rest rest' hfirst _ ih =>
    cases i with
    | zero =>
      obtain rfl := Option.some.inj hb
      exact ⟨first, rfl, hfirst⟩
    | succ i =>
      rw [List.getElem?_cons_succ] at hb ⊢
      exact ih hb

/-! ## Items -/

/-- What there is to be read in a module, one at a time. -/
inductive Item where
  | type (type : FuncType)
  | import_ (entry : ImportEntry)
  | function (type : Nat)
  | table (type : TableType)
  | memory (type : MemoryType)
  | global (type : GlobalType)
  | export_ (entry : ExportEntry)
  | names (entries : Entries NameEntry)
  | undecodable (reason : String)

def Item.ofEntry {α : Type} (item : α → Item) : Except String α → Item
  | .ok entry => item entry
  | .error reason => .undecodable reason

/-- The entries of a section; the name section is one item. -/
def Payload.items : Payload → List Item
  | .types entries => entries.map (.ofEntry .type)
  | .imports entries => entries.map (.ofEntry .import_)
  | .functions entries => entries.map (.ofEntry .function)
  | .tables entries => entries.map (.ofEntry .table)
  | .memories entries => entries.map (.ofEntry .memory)
  | .globals entries => entries.map (.ofEntry .global)
  | .exports entries => entries.map (.ofEntry .export_)
  | .names entries => [.names entries]
  | .other => []

def Reading.items (reading : Reading) : List Item :=
  match reading.payload with
  | .ok payload => payload.items
  | .error reason => [.undecodable reason]

def items (readings : List Reading) : List Item := readings.flatMap Reading.items

/-! ## Entities -/

@[simp] def TypeRef.kind : TypeRef → ExternKind
  | func _ => .func
  | table _ => .table
  | memory _ => .memory
  | global _ => .global
  | tag _ => .tag

/-- Those of some entities that are of a kind. -/
def ofKind (kind : ExternKind) (entities : List TypeRef) : List TypeRef :=
  entities.filter fun ref => ref.kind = kind

@[simp] theorem ofKind_concat (kind : ExternKind) (entities : List TypeRef) (ref : TypeRef) :
    ofKind kind (entities ++ [ref]) =
      if ref.kind = kind then ofKind kind entities ++ [ref] else ofKind kind entities := by
  split <;> simp [ofKind, *, -TypeRef.kind]

def entityType? (types : List FuncType) : TypeRef → Option EntityType
  | .func index => types[index]?.map .func
  | .table type => some (.table type)
  | .memory type => some (.memory type)
  | .global type => some (.global type)
  | .tag _ => none

/-- Whether an entity is of a type that a linking type stands for. -/
def Denotes (types : List FuncType) (ref : TypeRef) (type : ExternType) : Prop :=
  ∃ entity, entityType? types ref = some entity ∧ entity.Means type

def DenotesImport (types : List FuncType) (entry : ImportEntry) (imported : Import) : Prop :=
  imported.module = entry.module ∧ imported.name = entry.name ∧
    Denotes types entry.type imported.type

/-- Whether an export is that of the entity at its index among some others. -/
def DenotesExport (types : List FuncType) (space : ExternKind → List TypeRef)
    (entry : ExportEntry) (exported : Export) : Prop :=
  exported.name = entry.name ∧
    ∃ ref, (space entry.kind)[entry.index]? = some ref ∧ Denotes types ref exported.type

variable {types types' : List FuncType} {ref : TypeRef} {type : ExternType}

theorem Denotes.unique {other : ExternType} (h : Denotes types ref type)
    (hother : Denotes types ref other) : type = other := by
  obtain ⟨entity, hentity, htype⟩ := h
  obtain ⟨entity', hentity', hother⟩ := hother
  obtain rfl : entity = entity' := Option.some.inj (hentity.symm.trans hentity')
  exact htype.unique hother

/-- Further types change nothing about the entities there are. -/
theorem Denotes.mono (h : Denotes types ref type) (htypes : types <+: types') :
    Denotes types' ref type := by
  obtain ⟨entity, hentity, htype⟩ := h
  obtain ⟨more, rfl⟩ := htypes
  refine ⟨entity, ?_, htype⟩
  cases ref with
  | func index =>
    obtain ⟨entry, hentry, rfl⟩ := Option.map_eq_some_iff.mp hentity
    exact Option.map_eq_some_iff.mpr ⟨entry, getElem?_append_of_eq_some hentry more, rfl⟩
  | table _ | memory _ | global _ | tag _ => exact hentity

theorem DenotesImport.mono {entry : ImportEntry} {imported : Import}
    (h : DenotesImport types entry imported) (htypes : types <+: types') :
    DenotesImport types' entry imported :=
  ⟨h.1, h.2.1, h.2.2.mono htypes⟩

/-- Further entities, too, if they come behind those there are. -/
theorem DenotesExport.mono {entities entities' : List TypeRef} {entry : ExportEntry}
    {exported : Export} (h : DenotesExport types (ofKind · entities) entry exported)
    (htypes : types <+: types') (hentities : entities <+: entities') :
    DenotesExport types' (ofKind · entities') entry exported := by
  obtain ⟨hname, ref, href, hdenotes⟩ := h
  obtain ⟨more, rfl⟩ := hentities
  refine ⟨hname, ref, ?_, hdenotes.mono htypes⟩
  show (ofKind entry.kind (entities ++ more))[entry.index]? = some ref
  rw [ofKind, List.filter_append]
  exact getElem?_append_of_eq_some href _

theorem Denotes.kind_iff (h : Denotes types ref type) :
    (ref.kind = .table ↔ type.table?.isSome) ∧ (ref.kind = .memory ↔ type.memory?.isSome) ∧
      (ref.kind = .global ↔ type.global?.isSome) := by
  obtain ⟨entity, hentity, htype⟩ := h
  cases ref with
  | tag index => cases hentity
  | func index =>
    obtain ⟨entry, -, rfl⟩ := Option.map_eq_some_iff.mp hentity
    cases htype
    simp [TypeRef.kind, ExternType.table?, ExternType.memory?, ExternType.global?]
  | table _ | memory _ | global _ =>
    obtain rfl := Option.some.inj hentity
    cases htype
    simp [TypeRef.kind, ExternType.table?, ExternType.memory?, ExternType.global?]

/-! ## Contents -/

structure Contents where
  types : List FuncType := []
  imports : List ImportEntry := []
  definitions : List TypeRef := []
  /-- What is imported or defined, in the order in which it was read. -/
  entities : List TypeRef := []
  exports : List ExportEntry := []

namespace Contents

@[simp] def enter (c : Contents) (ref : TypeRef) : Contents :=
  { c with entities := c.entities ++ [ref] }

@[simp] def define (c : Contents) (ref : TypeRef) : Contents :=
  { c.enter ref with definitions := c.definitions ++ [ref] }

@[simp] def add (c : Contents) : Item → Contents
  | .type type => { c with types := c.types ++ [type] }
  | .import_ entry => { c.enter entry.type with imports := c.imports ++ [entry] }
  | .function type => c.define (.func type)
  | .table type => c.define (.table type)
  | .memory type => c.define (.memory type)
  | .global type => c.define (.global type)
  | .export_ entry => { c with «exports» := c.exports ++ [entry] }
  | .names _ | .undecodable _ => c

def ofItems (items : List Item) : Contents := items.foldl add {}

/-- All entities of a kind in the order of their indices. -/
def space (c : Contents) (kind : ExternKind) : List TypeRef :=
  ofKind kind (c.imports.map ImportEntry.type) ++ ofKind kind c.definitions

/-- Whether a module declares what its contents are, entry by entry. -/
structure Describes (c : Contents) (m : ModuleInfo) : Prop where
  imports : List.Forall₂ (DenotesImport c.types) c.imports m.imports
  tables : List.Forall₂ (Denotes c.types) (ofKind .table c.definitions) (m.tables.map .table)
  memories : List.Forall₂ (Denotes c.types) (ofKind .memory c.definitions)
    (m.memories.map .memory)
  globals : List.Forall₂ (Denotes c.types) (ofKind .global c.definitions) (m.globals.map .global)
  exports : List.Forall₂ (DenotesExport c.types c.space) c.exports m.exports

end Contents
end Wasm
end HostLink
