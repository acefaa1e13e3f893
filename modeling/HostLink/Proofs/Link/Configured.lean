/-
What configuring a module changes.

The limits go on the first memory that a standard module defines, and on the first memory and
the first table that a legacy module imports, wherever the two stand among its imports.
`Limited` gives the configured module as the module it was with just these entries replaced,
and only their minimum and maximum in them.  `Lacks` says which modules are refused and for
what; it leaves no module out that is not `Limited`.

The entries are still the first of their kind once they were edited.  So configuring once more
finds the same ones and nothing to change.
-/
import HostLink.Proofs.Link.Limits
import Mathlib.Tactic.Set

namespace HostLink

namespace Config

/-- The first memory of a standard module with its limits. -/
def standardMemory (config : Config) (type : MemoryType) : MemoryType :=
  { type with
    minimum := ⟨config.standard.initialPages⟩
    maximum := some ⟨config.standard.maximumPages⟩ }

/-- The first imported memory of a legacy module with its limits. -/
def legacyMemory (config : Config) (type : MemoryType) : MemoryType :=
  { type with
    minimum := ⟨config.legacy.initialPages⟩
    maximum := some ⟨config.legacy.maximumPages⟩ }

/-- The first imported table of a legacy module with its limits. -/
def legacyTable (config : Config) (type : TableType) : TableType :=
  { type with
    minimum := config.legacy.tableMinimum
    maximum := some config.legacy.tableMaximum }

end Config

namespace ExternType

variable {type : ExternType}

theorem eq_memory_of_memory? {memoryType : MemoryType} (h : type.memory? = some memoryType) :
    type = .memory memoryType := by
  cases type with
  | memory _ => exact congrArg memory (Option.some.inj h)
  | _ => cases h

theorem eq_table_of_table? {tableType : TableType} (h : type.table? = some tableType) :
    type = .table tableType := by
  cases type with
  | table _ => exact congrArg table (Option.some.inj h)
  | _ => cases h

end ExternType

namespace ModuleInfo

variable {m m' : ModuleInfo} {config : Config} {toolchain : Toolchain} {imports : List Import}

/-! ## First entries of a kind -/

section Places

variable {α : Type} {view : ExternType → Option α} {i : Nat} {first entry new : Import}

theorem FirstAt.cons (hfirst : view first.type = none) (h : FirstAt imports view i entry) :
    FirstAt (first :: imports) view (i + 1) entry := by
  refine ⟨h.stands, h.seen, fun j hj other hother => ?_⟩
  cases j with
  | zero =>
    obtain rfl := Option.some.inj hother
    exact hfirst
  | succ j => exact h.before j (by omega) other hother

/-- If there are entries of a kind, one of them is the first. -/
theorem exists_firstAt (h : imports.filterMap (fun entry => view entry.type) ≠ []) :
    ∃ i entry, FirstAt imports view i entry := by
  induction imports with
  | nil => exact absurd rfl h
  | cons first rest ih =>
    cases hfirst : view first.type with
    | some a => exact ⟨0, first, rfl, by rw [hfirst]; rfl, by omega⟩
    | none =>
      have hskip : (first :: rest).filterMap (fun entry => view entry.type) =
          rest.filterMap fun entry => view entry.type := List.filterMap_cons_none hfirst
      rw [hskip] at h
      obtain ⟨i, entry, hentry⟩ := ih h
      exact ⟨i + 1, entry, hentry.cons hfirst⟩

theorem FirstAt.lt_length (h : FirstAt imports view i entry) : i < imports.length :=
  (List.getElem?_eq_some_iff.mp h.stands).1

/-- An entry that replaces the first of a kind by one of the kind is the first again. -/
theorem FirstAt.set_self (h : FirstAt imports view i entry) (hnew : (view new.type).isSome) :
    FirstAt (imports.set i new) view i new := by
  refine ⟨List.getElem?_set_self h.lt_length, hnew, fun j hj other hother => ?_⟩
  rw [List.getElem?_set_ne (by omega)] at hother
  exact h.before j hj other hother

theorem editFirstImport_eq_none {edit : α → ExternType}
    (h : imports.filterMap (fun entry => view entry.type) = []) :
    editFirstImport (fun type => (view type).map edit) imports = none := by
  cases hedited : editFirstImport (fun type => (view type).map edit) imports with
  | none => rfl
  | some imports' =>
    obtain ⟨before, entry, after, type, rfl, -, hentry, -⟩ :=
      editFirstImport_eq_some_iff.mp hedited
    have hnone := List.filterMap_eq_nil_iff.mp h entry (by simp)
    rw [hnone] at hentry
    cases hentry

end Places

/-! ## Configured modules -/

/-- Whether a module misses the part that the limits of a toolchain go on.  If both parts of a
legacy module are missing, it is the memory that counts. -/
def Lacks (m : ModuleInfo) : Toolchain → RequiredSection → Prop
  | .standard, .definedMemory => m.memories = []
  | .legacy, .importedMemory => m.importedMemories = []
  | .legacy, .importedTable => m.importedMemories ≠ [] ∧ m.importedTables = []
  | _, _ => False

/-- Whether a module is another one with the limits of a toolchain, and the same in all that
these limits do not go on. -/
inductive Limited (m : ModuleInfo) (config : Config) : Toolchain → ModuleInfo → Prop
  | standard {first : MemoryType} {rest : List MemoryType}
      (hmemories : m.memories = first :: rest) :
      Limited m config .standard { m with memories := config.standardMemory first :: rest }
  | legacy {i j : Nat} {memory table : Import} {memoryType : MemoryType} {tableType : TableType}
      (hmemory : FirstAt m.imports ExternType.memory? i memory)
      (hmemoryType : memory.type = .memory memoryType)
      (htable : FirstAt m.imports ExternType.table? j table)
      (htableType : table.type = .table tableType) :
      Limited m config .legacy
        { m with
          imports :=
            (m.imports.set i { memory with type := .memory (config.legacyMemory memoryType) }).set j
              { table with type := .table (config.legacyTable tableType) } }

section Legacy

variable {i j : Nat} {memory table : Import} {memoryType : MemoryType} {tableType : TableType}

theorem index_ne (hmemory : FirstAt imports ExternType.memory? i memory)
    (hmemoryType : memory.type = .memory memoryType)
    (htable : FirstAt imports ExternType.table? j table)
    (htableType : table.type = .table tableType) : i ≠ j := by
  rintro rfl
  obtain rfl : memory = table := Option.some.inj (hmemory.stands.symm.trans htable.stands)
  cases hmemoryType.symm.trans htableType

/-- What configuring a legacy module gives, by the places of its two entries. -/
theorem configure_legacy_eq (hmemory : FirstAt m.imports ExternType.memory? i memory)
    (hmemoryType : memory.type = .memory memoryType)
    (htable : FirstAt m.imports ExternType.table? j table)
    (htableType : table.type = .table tableType) (config : Config) :
    m.configure .legacy config =
      .ok { m with
        imports :=
          (m.imports.set i { memory with type := .memory (config.legacyMemory memoryType) }).set j
            { table with type := .table (config.legacyTable tableType) } } := by
  set newMemory : Import := { memory with type := .memory (config.legacyMemory memoryType) }
  have hmemoryEdit : m.editFirstImportedMemory
      (limitMemory config.legacy.initialPages config.legacy.maximumPages) =
        some { m with imports := m.imports.set i newMemory } :=
    congrArg (Option.map _) (hmemory.editFirstImport_eq (by rw [hmemoryType]; rfl))
  -- The table is still the first one once the memory is edited.
  have hkept : FirstAt (m.imports.set i newMemory) ExternType.table? j table :=
    htable.set hmemory.stands (by rw [hmemoryType]; rfl) rfl
  have htableEdit : ModuleInfo.editFirstImportedTable
      { m with imports := m.imports.set i newMemory }
      (limitTable config.legacy.tableMinimum config.legacy.tableMaximum) = some _ :=
    congrArg (Option.map _) (hkept.editFirstImport_eq (by rw [htableType]; rfl))
  simp only [configure, hmemoryEdit, htableEdit]
  rfl

end Legacy

theorem configure_of_limited (h : m.Limited config toolchain m') :
    m.configure toolchain config = .ok m' := by
  cases h with
  | standard hmemories =>
    simp only [configure, hmemories]
    rfl
  | legacy hmemory hmemoryType htable htableType =>
    exact configure_legacy_eq hmemory hmemoryType htable htableType config

theorem configure_of_lacks {missing : RequiredSection} (h : m.Lacks toolchain missing) :
    m.configure toolchain config = .error missing := by
  cases toolchain with
  | standard =>
    cases missing with
    | definedMemory =>
      have hmemories : m.memories = [] := h
      simp only [configure, hmemories]
    | importedMemory | importedTable => cases h
  | legacy =>
    cases missing with
    | definedMemory => cases h
    | importedMemory =>
      have hmemory : m.editFirstImportedMemory
          (limitMemory config.legacy.initialPages config.legacy.maximumPages) = none :=
        congrArg (Option.map _) (editFirstImport_eq_none h)
      simp only [configure, hmemory]
    | importedTable =>
      simp only [configure]
      split
      · rename_i hmemory
        -- There is a memory to edit, so that it is the table which is missing.
        obtain ⟨i, memory, hfirst⟩ := exists_firstAt h.1
        obtain ⟨memoryType, htype⟩ := Option.isSome_iff_exists.mp hfirst.seen
        have hedited : m.editFirstImportedMemory
            (limitMemory config.legacy.initialPages config.legacy.maximumPages) = some _ :=
          congrArg (Option.map _) (hfirst.editFirstImport_eq htype)
        rw [hmemory] at hedited
        cases hedited
      · rename_i edited hmemory
        have htables : edited.importedTables = [] :=
          (importedMemories_editFirstImportedMemory hmemory).2.trans h.2
        have htable : edited.editFirstImportedTable
            (limitTable config.legacy.tableMinimum config.legacy.tableMaximum) = none :=
          congrArg (Option.map _) (editFirstImport_eq_none htables)
        simp only [htable]

/-- Every module has what the limits go on or lacks it. -/
theorem limited_or_lacks (m : ModuleInfo) (config : Config) (toolchain : Toolchain) :
    (∃ m', m.Limited config toolchain m') ∨ ∃ missing, m.Lacks toolchain missing := by
  cases toolchain with
  | standard =>
    cases hmemories : m.memories with
    | nil => exact .inr ⟨.definedMemory, hmemories⟩
    | cons first rest => exact .inl ⟨_, .standard hmemories⟩
  | legacy =>
    by_cases hmemories : m.importedMemories = []
    · exact .inr ⟨.importedMemory, hmemories⟩
    by_cases htables : m.importedTables = []
    · exact .inr ⟨.importedTable, hmemories, htables⟩
    obtain ⟨i, memory, hmemory⟩ := exists_firstAt hmemories
    obtain ⟨j, table, htable⟩ := exists_firstAt htables
    obtain ⟨memoryType, hmemoryType⟩ := Option.isSome_iff_exists.mp hmemory.seen
    obtain ⟨tableType, htableType⟩ := Option.isSome_iff_exists.mp htable.seen
    exact .inl ⟨_, .legacy hmemory (ExternType.eq_memory_of_memory? hmemoryType) htable
      (ExternType.eq_table_of_table? htableType)⟩

theorem configure_eq_ok_iff :
    m.configure toolchain config = .ok m' ↔ m.Limited config toolchain m' := by
  refine ⟨fun h => ?_, configure_of_limited⟩
  rcases limited_or_lacks m config toolchain with ⟨limited, hlimited⟩ | ⟨missing, hmissing⟩
  · obtain rfl := Except.ok.inj ((configure_of_limited hlimited).symm.trans h)
    exact hlimited
  · cases (configure_of_lacks hmissing).symm.trans h

theorem configure_eq_error_iff {missing : RequiredSection} :
    m.configure toolchain config = .error missing ↔ m.Lacks toolchain missing := by
  refine ⟨fun h => ?_, configure_of_lacks⟩
  rcases limited_or_lacks m config toolchain with ⟨limited, hlimited⟩ | ⟨other, hother⟩
  · cases (configure_of_limited hlimited).symm.trans h
  · obtain rfl := Except.error.inj ((configure_of_lacks hother).symm.trans h)
    exact hother

/-- The limits that a module was given are the ones it would be given. -/
theorem Limited.again (h : m.Limited config toolchain m') : m'.Limited config toolchain m' := by
  cases h with
  | @standard first rest hmemories =>
    exact @standard _ config (config.standardMemory first) rest rfl
  | @legacy i j memory table memoryType tableType hmemory hmemoryType htable htableType =>
    have hne : i ≠ j := index_ne hmemory hmemoryType htable htableType
    set newMemory : Import := { memory with type := .memory (config.legacyMemory memoryType) }
    set newTable : Import := { table with type := .table (config.legacyTable tableType) }
    -- Neither edit touches the other entry or what stands before it.
    have htableLater : FirstAt (m.imports.set i newMemory) ExternType.table? j table :=
      htable.set hmemory.stands (by rw [hmemoryType]; rfl) rfl
    have hmemoryAgain : FirstAt ((m.imports.set i newMemory).set j newTable) ExternType.memory? i
        newMemory :=
      (hmemory.set_self rfl).set htableLater.stands (by rw [htableType]; rfl) rfl
    have htableAgain : FirstAt ((m.imports.set i newMemory).set j newTable) ExternType.table? j
        newTable := htableLater.set_self rfl
    have hsame : (((m.imports.set i newMemory).set j newTable).set i newMemory).set j newTable =
        (m.imports.set i newMemory).set j newTable := by
      rw [List.set_comm newTable newMemory hne.symm, List.set_set, List.set_set]
    have hagain : Limited { m with imports := (m.imports.set i newMemory).set j newTable } config
        .legacy
        { m with
          imports :=
            (((m.imports.set i newMemory).set j newTable).set i newMemory).set j newTable } :=
      @legacy _ config i j newMemory newTable (config.legacyMemory memoryType)
        (config.legacyTable tableType) hmemoryAgain rfl htableAgain rfl
    rwa [hsame] at hagain

theorem Limited.detect_eq (h : m.Limited config toolchain m') :
    Toolchain.detect m' = Toolchain.detect m := by
  cases h with
  | standard hmemories => simp [Toolchain.detect, definesMemory, hmemories]
  | legacy _ _ _ _ => rfl

/-- Configuring fails exactly for the modules that lack what the limits go on.  It gives any
other module with just these limits replaced, which leaves the module of its toolchain and
which configuring again does not change. -/
theorem configure_replaces_limits (m : ModuleInfo) (toolchain : Toolchain) (config : Config) :
    (∀ missing, m.configure toolchain config = .error missing ↔ m.Lacks toolchain missing) ∧
      (∀ m', m.configure toolchain config = .ok m' ↔ m.Limited config toolchain m') ∧
      ∀ m', m.configure toolchain config = .ok m' →
        m'.configure toolchain config = .ok m' ∧ Toolchain.detect m' = Toolchain.detect m := by
  refine ⟨fun missing => configure_eq_error_iff, fun m' => configure_eq_ok_iff, fun m' h => ?_⟩
  have hlimited : m.Limited config toolchain m' := configure_eq_ok_iff.mp h
  exact ⟨configure_of_limited hlimited.again, hlimited.detect_eq⟩

/-- A module that imports two tables, the first in front of its shared memory, and exports both
kinds. -/
def scattered : ModuleInfo :=
  { name := some "scattered"
    imports :=
      [⟨"env", "table", .table ⟨.externRef, 5, none⟩⟩,
       ⟨"env", "abort", .function { params := [], results := [] }⟩,
       ⟨"env", "memory", .memory ⟨2, none, true⟩⟩,
       ⟨"env", "spare", .table ⟨.funcRef, 7, some 8⟩⟩]
    «exports» := [⟨"m", .memory ⟨2, none, true⟩⟩, ⟨"t", .table ⟨.externRef, 5, none⟩⟩]
    tables := [⟨.funcRef, 1, some 2⟩] }

/-- Its first table and its memory get the limits and keep what is no limit. -/
theorem configure_replaces_limits_scattered : ∃ m',
    scattered.configure .legacy {} = .ok m' ∧
      m' = { scattered with
        imports :=
          [⟨"env", "table", .table ⟨.externRef, 40000000, some 60000000⟩⟩,
           ⟨"env", "abort", .function { params := [], results := [] }⟩,
           ⟨"env", "memory", .memory ⟨16384, some 33554432, true⟩⟩,
           ⟨"env", "spare", .table ⟨.funcRef, 7, some 8⟩⟩] } ∧
      m'.configure .legacy {} = .ok m' ∧ Toolchain.detect m' = .legacy := by
  have hconfigured : scattered.configure .legacy {} = .ok { scattered with
      imports :=
        [⟨"env", "table", .table ⟨.externRef, 40000000, some 60000000⟩⟩,
         ⟨"env", "abort", .function { params := [], results := [] }⟩,
         ⟨"env", "memory", .memory ⟨16384, some 33554432, true⟩⟩,
         ⟨"env", "spare", .table ⟨.funcRef, 7, some 8⟩⟩] } := by
    rfl
  obtain ⟨-, -, hlater⟩ := configure_replaces_limits scattered .legacy {}
  obtain ⟨hagain, hdetect⟩ := hlater _ hconfigured
  exact ⟨_, hconfigured, rfl, hagain, hdetect⟩

end ModuleInfo
end HostLink
