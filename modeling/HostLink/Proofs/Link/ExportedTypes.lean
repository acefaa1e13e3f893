/-
The types that a module exports its memories and tables with.

A module that was read exports each memory and each table with the type of one that it imports
or defines: the type of an export is that of the entity at its index, whatever the front end
gives.  Configuring replaces
the type of one memory, and of one table of a legacy module, where they are imported or
defined, and leaves the exports as they are.  So the exports keep types that the module had.
The configured module may lack such a type.  It does exactly if it is that of the entity whose
limits were replaced, these were other limits, and no other entity has the type.
-/
import HostLink.Proofs.Link.Configured
import HostLink.Proofs.Wasm.IndexSpaces

namespace HostLink
namespace Wasm

namespace Contents

variable {c : Contents}

/-- Whether every entity is imported or defined. -/
def Accounted (c : Contents) : Prop :=
  ∀ ref ∈ c.entities, (∃ entry ∈ c.imports, entry.type = ref) ∨ ref ∈ c.definitions

theorem Accounted.define (h : c.Accounted) (ref : TypeRef) : (c.define ref).Accounted := by
  intro other hother
  rcases List.mem_append.mp hother with hbefore | hnew
  · exact (h other hbefore).imp_right (List.mem_append_left _)
  · exact .inr (List.mem_append_right _ hnew)

theorem Accounted.add (h : c.Accounted) (item : Item) : (c.add item).Accounted := by
  cases item with
  | function type => exact h.define _
  | table type => exact h.define _
  | memory type => exact h.define _
  | global type => exact h.define _
  | import_ entry =>
    intro ref href
    rcases List.mem_append.mp href with hbefore | hnew
    · refine (h ref hbefore).imp_left fun ⟨other, hother, htype⟩ => ?_
      exact ⟨other, List.mem_append_left _ hother, htype⟩
    · exact .inl ⟨entry, by simp, (List.mem_singleton.mp hnew).symm⟩
  | type _ | export_ _ | names _ | undecodable _ => exact h

theorem accounted_ofItems (items : List Item) : (ofItems items).Accounted := by
  have hrun : ∀ {c : Contents}, c.Accounted → (items.foldl Contents.add c).Accounted := by
    induction items with
    | nil => exact id
    | cons item rest ih => exact fun h => ih (h.add item)
  exact hrun fun _ href => absurd href List.not_mem_nil

end Contents

section Exported

variable {α : Type} {wrap : α → ExternType} {a : α} {types : List α} {exported : Export}
  {c : Contents} {s : IndexSpaces} {kind : ExternKind}

/-- What is exported is imported, or one of the definitions of its kind. -/
theorem Reads.imported_or_defined (h : Reads c s) (hc : c.Accounted)
    (hexported : exported ∈ s.module.exports) (htype : exported.type = wrap a)
    (hwrap : ∀ {a b}, wrap a = wrap b → a = b)
    (hkind : ∀ {ref}, Denotes c.types ref (wrap a) → ref.kind = kind)
    (hdefined : List.Forall₂ (Denotes c.types) (ofKind kind c.definitions) (types.map wrap)) :
    (∃ imported ∈ s.module.imports, imported.type = wrap a) ∨ a ∈ types := by
  obtain ⟨i, hi⟩ := List.mem_iff_getElem?.mp hexported
  obtain ⟨entry, -, -, ref, href, hdenotes⟩ := getElem?_of_forall₂ h.exports hi
  rw [htype] at hdenotes
  rcases hc ref (List.mem_of_mem_filter (List.mem_of_getElem? href)) with
    ⟨entry, hentry, rfl⟩ | hmem
  · obtain ⟨i, hi⟩ := List.mem_iff_getElem?.mp hentry
    obtain ⟨imported, himported, hdescribed⟩ := getElem?_of_forall₂ h.imports.flip hi
    have hsame : Denotes c.types entry.type imported.type := hdescribed.2.2
    exact .inl ⟨imported, List.mem_of_getElem? himported, hsame.unique hdenotes⟩
  · have hofKind : ref ∈ ofKind kind c.definitions :=
      List.mem_filter.mpr ⟨hmem, decide_eq_true (hkind hdenotes)⟩
    obtain ⟨i, hi⟩ := List.mem_iff_getElem?.mp hofKind
    obtain ⟨other, hother, hdefines⟩ := getElem?_of_forall₂ hdefined.flip hi
    obtain ⟨b, hb, rfl⟩ := List.mem_map.mp (List.mem_of_getElem? hother)
    have hsame : Denotes c.types ref (wrap b) := hdefines
    rw [← hwrap (hsame.unique hdenotes)]
    exact .inr hb

end Exported
end Wasm

/-- What configuring makes of the memory that the limits go on. -/
def Config.limitedMemory (config : Config) : Toolchain → MemoryType → MemoryType
  | .standard => config.standardMemory
  | .legacy => config.legacyMemory

namespace ModuleInfo

open Wasm

variable {frontend : Frontend} {bytes : Bytes} {m m' : ModuleInfo} {config : Config}
  {toolchain : Toolchain}

/-! ## Modules that were read -/

/-- The types of all memories of a module, in the order of their indices. -/
def memoryTypes (m : ModuleInfo) : List MemoryType := m.importedMemories ++ m.memories

def tableTypes (m : ModuleInfo) : List TableType := m.importedTables ++ m.tables

/-- Whether a module exports memories and tables only with the types of those it has. -/
structure Consistent (m : ModuleInfo) : Prop where
  memories : ∀ entry ∈ m.exports, ∀ type, entry.type = .memory type → type ∈ m.memoryTypes
  tables : ∀ entry ∈ m.exports, ∀ type, entry.type = .table type → type ∈ m.tableTypes

theorem mem_importedMemories {type : MemoryType} :
    type ∈ m.importedMemories ↔ ∃ imported ∈ m.imports, imported.type = .memory type := by
  rw [importedMemories, List.mem_filterMap]
  refine exists_congr fun imported => and_congr_right fun _ => ?_
  exact ⟨ExternType.eq_memory_of_memory?, fun h => by rw [h]; rfl⟩

theorem mem_importedTables {type : TableType} :
    type ∈ m.importedTables ↔ ∃ imported ∈ m.imports, imported.type = .table type := by
  rw [importedTables, List.mem_filterMap]
  refine exists_congr fun imported => and_congr_right fun _ => ?_
  exact ⟨ExternType.eq_table_of_table?, fun h => by rw [h]; rfl⟩

theorem consistent_of_reads {c : Contents} {s : IndexSpaces} (h : Reads c s)
    (hc : c.Accounted) : s.module.Consistent := by
  refine ⟨fun entry hentry type htype => ?_, fun entry hentry type htype => ?_⟩
  · rw [memoryTypes, List.mem_append, mem_importedMemories]
    exact h.imported_or_defined hc hentry htype ExternType.memory.inj
      (fun h => h.kind_iff.2.1.mpr rfl) h.definedMemories
  · rw [tableTypes, List.mem_append, mem_importedTables]
    exact h.imported_or_defined hc hentry htype ExternType.table.inj
      (fun h => h.kind_iff.1.mpr rfl) h.definedTables

theorem consistent_of_translate (h : translate frontend bytes = .ok m) : m.Consistent := by
  obtain ⟨binary, s, -, -, -, hreads, rfl⟩ := reads_of_translate h
  exact consistent_of_reads hreads (Contents.accounted_ofItems _)

/-! ## Configured modules -/

/-- The memory that the limits of a toolchain go on. -/
def firstMemory? (m : ModuleInfo) : Toolchain → Option MemoryType
  | .standard => m.memories.head?
  | .legacy => m.importedMemories.head?

def otherMemories (m : ModuleInfo) : Toolchain → List MemoryType
  | .standard => m.importedMemories ++ m.memories.tail
  | .legacy => m.importedMemories.tail ++ m.memories

/-- The table that the limits of a toolchain go on. -/
def firstTable? (m : ModuleInfo) : Toolchain → Option TableType
  | .standard => none
  | .legacy => m.importedTables.head?

def otherTables (m : ModuleInfo) : Toolchain → List TableType
  | .standard => m.tableTypes
  | .legacy => m.importedTables.tail ++ m.tables

/-- An entry is the first one or behind it. -/
theorem mem_iff_head? {α : Type} {entries : List α} {a : α} :
    a ∈ entries ↔ a ∈ entries.tail ∨ entries.head? = some a := by
  cases entries with
  | nil => simp
  | cons first rest => simp [eq_comm, or_comm]

theorem mem_memoryTypes_iff (m : ModuleInfo) (toolchain : Toolchain) {type : MemoryType} :
    type ∈ m.memoryTypes ↔
      type ∈ m.otherMemories toolchain ∨ m.firstMemory? toolchain = some type := by
  rw [memoryTypes, List.mem_append]
  cases toolchain with
  | standard =>
    rw [otherMemories, firstMemory?, List.mem_append, or_assoc]
    exact or_congr_right mem_iff_head?
  | legacy =>
    rw [otherMemories, firstMemory?, List.mem_append, or_right_comm]
    exact or_congr_left mem_iff_head?

theorem mem_tableTypes_iff (m : ModuleInfo) (toolchain : Toolchain) {type : TableType} :
    type ∈ m.tableTypes ↔
      type ∈ m.otherTables toolchain ∨ m.firstTable? toolchain = some type := by
  cases toolchain with
  | standard => simp [otherTables, firstTable?]
  | legacy =>
    rw [tableTypes, otherTables, firstTable?, List.mem_append, List.mem_append, or_right_comm]
    exact or_congr_left mem_iff_head?

/-- Replacing the first of some entries takes one of them away if it changes it and it is none
of the others. -/
theorem notMem_replaced_iff {α : Type} {first? : Option α} {others replaced : List α}
    {limit : α → α} {a : α} (hold : a ∈ others ∨ first? = some a)
    (hnew : a ∈ replaced ↔ a ∈ others ∨ first?.map limit = some a) :
    a ∉ replaced ↔ first? = some a ∧ limit a ≠ a ∧ a ∉ others := by
  rw [hnew, not_or]
  constructor
  · rintro ⟨hothers, hlimit⟩
    have hfirst : first? = some a := hold.resolve_left hothers
    rw [hfirst, Option.map_some, Option.some.injEq] at hlimit
    exact ⟨hfirst, hlimit, hothers⟩
  · rintro ⟨hfirst, hlimit, hothers⟩
    rw [hfirst, Option.map_some, Option.some.injEq]
    exact ⟨hothers, hlimit⟩

namespace Limited

theorem exports_eq (h : m.Limited config toolchain m') : m'.exports = m.exports := by
  cases h with
  | standard _ => rfl
  | legacy _ _ _ _ => rfl

/-- The limits go on the first memory, and on no other. -/
theorem memories_eq (h : m.Limited config toolchain m') :
    m'.otherMemories toolchain = m.otherMemories toolchain ∧
      m'.firstMemory? toolchain =
        (m.firstMemory? toolchain).map (config.limitedMemory toolchain) := by
  have hconfigured := configure_of_limited h
  cases h with
  | standard hmemories =>
    constructor
    · rw [otherMemories, otherMemories, hmemories]
      rfl
    · rw [firstMemory?, firstMemory?, hmemories]
      rfl
  | legacy _ _ _ _ =>
    obtain ⟨⟨first, rest, hmemories, hlimited⟩, -⟩ := configure_legacy_eq_ok hconfigured
    constructor
    · rw [otherMemories, otherMemories, hmemories, hlimited]
      rfl
    · rw [firstMemory?, firstMemory?, hmemories, hlimited]
      rfl

theorem tables_eq (h : m.Limited config toolchain m') :
    m'.otherTables toolchain = m.otherTables toolchain ∧
      m'.firstTable? toolchain = (m.firstTable? toolchain).map config.legacyTable := by
  have hconfigured := configure_of_limited h
  cases h with
  | standard _ => exact ⟨rfl, rfl⟩
  | legacy _ _ _ _ =>
    obtain ⟨-, first, rest, htables, hlimited⟩ := configure_legacy_eq_ok hconfigured
    constructor
    · rw [otherTables, otherTables, htables, hlimited]
      rfl
    · rw [firstTable?, firstTable?, htables, hlimited]
      rfl

theorem mem_memoryTypes (h : m.Limited config toolchain m') {type : MemoryType} :
    type ∈ m'.memoryTypes ↔ type ∈ m.otherMemories toolchain ∨
      (m.firstMemory? toolchain).map (config.limitedMemory toolchain) = some type := by
  rw [← h.memories_eq.1, ← h.memories_eq.2]
  exact mem_memoryTypes_iff m' toolchain

theorem mem_tableTypes (h : m.Limited config toolchain m') {type : TableType} :
    type ∈ m'.tableTypes ↔ type ∈ m.otherTables toolchain ∨
      (m.firstTable? toolchain).map config.legacyTable = some type := by
  rw [← h.tables_eq.1, ← h.tables_eq.2]
  exact mem_tableTypes_iff m' toolchain

end Limited

/-- A module with a memory of one to two pages that it exports. -/
def exporting : Bytes :=
  [0x00, 0x61, 0x73, 0x6d, 0x01, 0x00, 0x00, 0x00,
    5, 4, 1, 1, 1, 2,
    7, 5, 1, 1, 0x6d, 2, 0]

/-- The configured form of a module need not be consistent: this one exports a memory of one to
two pages and has one of 240 to 16384. -/
theorem configured_not_consistent : ∃ m m', translate tools exporting = .ok m ∧
    m.configure (Toolchain.detect m) {} = .ok m' ∧ ¬ m'.Consistent := by
  have hm : translate tools exporting =
      .ok
        { «exports» := [⟨"m", .memory ⟨1, some 2, false⟩⟩]
          memories := [⟨1, some 2, false⟩] } := by
    decide +kernel
  refine ⟨_, _, hm, rfl, fun hconsistent => ?_⟩
  have hmem := hconsistent.memories ⟨"m", .memory ⟨1, some 2, false⟩⟩ (by decide)
    ⟨1, some 2, false⟩ rfl
  revert hmem
  decide

/-- Configuring keeps the exports, all of whose types the module that was read has.  The
configured module lacks the type of an exported memory or table exactly if the limits went on
the one that had it, made another type of it, and no other memory or table has it. -/
theorem exports_keep_types (h : translate frontend bytes = .ok m)
    (hconfigured : m.configure (Toolchain.detect m) config = .ok m') :
    m.Consistent ∧ m'.exports = m.exports ∧
      (∀ entry ∈ m'.exports, ∀ type, entry.type = .memory type →
        (type ∉ m'.memoryTypes ↔ m.firstMemory? (Toolchain.detect m) = some type ∧
          config.limitedMemory (Toolchain.detect m) type ≠ type ∧
            type ∉ m.otherMemories (Toolchain.detect m))) ∧
      ∀ entry ∈ m'.exports, ∀ type, entry.type = .table type →
        (type ∉ m'.tableTypes ↔ m.firstTable? (Toolchain.detect m) = some type ∧
          config.legacyTable type ≠ type ∧ type ∉ m.otherTables (Toolchain.detect m)) := by
  have hlimited : m.Limited config (Toolchain.detect m) m' := configure_eq_ok_iff.mp hconfigured
  have hconsistent : m.Consistent := consistent_of_translate h
  refine ⟨hconsistent, hlimited.exports_eq, fun entry hentry type htype => ?_,
    fun entry hentry type htype => ?_⟩
  · rw [hlimited.exports_eq] at hentry
    have hold := hconsistent.memories entry hentry type htype
    exact notMem_replaced_iff ((mem_memoryTypes_iff m _).mp hold) hlimited.mem_memoryTypes
  · rw [hlimited.exports_eq] at hentry
    have hold := hconsistent.tables entry hentry type htype
    exact notMem_replaced_iff ((mem_tableTypes_iff m _).mp hold) hlimited.mem_tableTypes

/-- A module that imports a memory of one to two pages, defines one of three to four, and
exports the two. -/
def exportingBoth : Bytes :=
  [0x00, 0x61, 0x73, 0x6d, 0x01, 0x00, 0x00, 0x00,
    2, 9, 1, 1, 0x61, 1, 0x6d, 2, 1, 1, 2,
    5, 4, 1, 1, 3, 4,
    7, 9, 2, 1, 0x78, 2, 0, 1, 0x79, 2, 1]

/-- Configured, it still has the memory it imports, and none of three to four pages. -/
theorem exports_keep_types_both : ∃ m m', translate tools exportingBoth = .ok m ∧
    m.configure (Toolchain.detect m) {} = .ok m' ∧
    m'.exports = [⟨"x", .memory ⟨1, some 2, false⟩⟩, ⟨"y", .memory ⟨3, some 4, false⟩⟩] ∧
      ⟨1, some 2, false⟩ ∈ m'.memoryTypes ∧ ⟨3, some 4, false⟩ ∉ m'.memoryTypes := by
  have hm : translate tools exportingBoth =
      .ok
        { imports := [⟨"a", "m", .memory ⟨1, some 2, false⟩⟩]
          «exports» := [⟨"x", .memory ⟨1, some 2, false⟩⟩, ⟨"y", .memory ⟨3, some 4, false⟩⟩]
          memories := [⟨3, some 4, false⟩] } := by
    decide +kernel
  obtain ⟨-, hexports, hmemories, -⟩ :=
    exports_keep_types hm (show ModuleInfo.configure _ _ {} = .ok _ from rfl)
  have hfirst := hmemories _ List.mem_cons_self _ rfl
  have hsecond := hmemories _ (List.mem_cons_of_mem _ List.mem_cons_self) _ rfl
  refine ⟨_, _, hm, rfl, hexports, ?_, hsecond.mpr ⟨rfl, by decide, by decide⟩⟩
  by_contra hnot
  exact absurd (hfirst.mp hnot).1 (by decide)

end ModuleInfo
end HostLink
