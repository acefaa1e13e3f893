/-
The memory and the table that a legacy module imports as its own.

Set-up takes the first memory and the first table among the imports, wherever they stand: it
puts the configured limits on them and creates a memory and a table of just these types.  The
environment exports the two under the names of the imports, over anything its collection
defines there.  So the two imports bind to what was created for them.  They do so for good,
since the instance stays as it is and growing only makes room.
-/
import HostLink.Proofs.Link.Answers
import HostLink.Proofs.Link.Configured
import HostLink.Proofs.Link.Effect
import HostLink.Proofs.Store.Compatibility
import HostLink.Proofs.World.Operation

namespace HostLink

variable {Host : Type}

variable {c c' : Compartment Host} {r r' : Resolver Host} {m m' : ModuleInfo} {config : Config}
  {environment : Environment} {name : String} {entity : Entity} {declared : ExternType}

/-! ## Types that satisfy themselves -/

theorem TableType.satisfies_self {type : TableType} {size : UInt32} (h : type.minimum ≤ size) :
    type.satisfies type (some size) = true :=
  satisfies_iff.mpr ⟨rfl, h, maximumWithin_self _⟩

theorem MemoryType.satisfies_self {type : MemoryType} {size : UInt32}
    (h : type.minimum.count ≤ size) : type.satisfies type (some size) = true :=
  satisfies_iff.mpr ⟨⟨h, maximumWithin_self _⟩, rfl⟩

/-! ## Bindings -/

namespace Environment

/-- Whether an import from `env` finds an object in an environment. -/
structure Binds (environment : Environment) (c : Compartment Host) (name : String)
    (declared : ExternType) (entity : Entity) : Prop where
  exported : ∃ handle found, (Origin.forImport? environment.toolchain "env").bind
      environment.instance? = some handle ∧ c.get? handle = some (found : Instance) ∧
        found.exports.get? name = some entity
  satisfies : entity.satisfies? c declared = some true

theorem Binds.evolves (h : environment.Binds c name declared entity) (hc : c.Evolves c') :
    environment.Binds c' name declared entity := by
  obtain ⟨handle, found, hhandle, hfound, hentity⟩ := h.exported
  obtain ⟨found', hfound', rfl⟩ := hc.get? hfound
  exact ⟨⟨handle, found, hhandle, hfound', hentity⟩, Entity.satisfies?_evolves h.satisfies hc⟩

theorem Binds.find_eq (h : environment.Binds c name declared entity) :
    Resolver.find environment c "env" name declared = .ok entity := by
  obtain ⟨handle, found, hhandle, hfound, hentity⟩ := h.exported
  rw [bind_instance?] at hhandle
  exact Resolver.find_eq_of_finds (.found hhandle hfound hentity h.satisfies)

end Environment

namespace Resolver

theorem answer_eq_find {entry : Import} (henvironment : r.environment = some environment)
    (hcompartment : r.compartment = some c.id) :
    r.answer c entry = find environment c entry.module entry.name entry.type := by
  rw [answer, resolve_value]
  simp only [lookup, henvironment, hcompartment, if_true]

/-! ## The imports of a legacy module -/

/-- The two objects that are made for a legacy module bind its imports of them, whatever its
collection defines under their names. -/
theorem Effect.binds {firstMemory : MemoryType} {moreMemories : List MemoryType}
    {firstTable : TableType} {moreTables : List TableType}
    (h : Effect config r.provider m c c' environment) (htoolchain : environment.toolchain = .legacy)
    (hmemories : m.importedMemories = firstMemory :: moreMemories)
    (htables : m.importedTables = firstTable :: moreTables) :
    ∃ memory table, environment.memory? = some memory ∧ environment.table? = some table ∧
      environment.Binds c' "memory" (.memory (config.legacy.memoryType firstMemory))
        (.memory memory) ∧
      environment.Binds c' "table" (.table (config.legacy.tableType firstTable))
        (.table table) := by
  cases h with
  | standard _ _ => cases htoolchain
  | @legacy _ _ _ _ memory env _ _ hmemories' htables' hadds hmemory henv _ _ =>
    obtain ⟨rfl, rfl⟩ := List.cons.inj (hmemories.symm.trans hmemories')
    obtain ⟨rfl, rfl⟩ := List.cons.inj (htables.symm.trans htables')
    have hfoundEnv : c'.get? (⟨c.id, c.count .instance_⟩ : Handle .instance_) = some env := by
      rw [hadds]
      exact Compartment.get?_plus c _ .instance_ 0
    have hfoundMemory : c'.get? (⟨c.id, c.count .memory⟩ : Handle .memory) = some memory := by
      rw [hadds]
      exact Compartment.get?_plus c _ .memory 0
    have hfoundTable : c'.get? (⟨c.id, c.count .table⟩ : Handle .table) =
        some (.vacant (config.legacy.tableType firstTable)) := by
      rw [hadds]
      exact Compartment.get?_plus c _ .table 0
    have hmemoryExport := henv.added "memory" _ rfl
    have htableExport := henv.added "table" _ rfl
    refine ⟨_, _, rfl, rfl, ⟨⟨_, env, rfl, hfoundEnv, hmemoryExport⟩, ?_⟩,
      ⟨_, env, rfl, hfoundEnv, htableExport⟩, ?_⟩
    · rw [Entity.satisfies?_memory hfoundMemory, hmemory.declared, hmemory.size]
      exact congrArg some (MemoryType.satisfies_self (UInt32.le_refl _))
    · rw [Entity.satisfies?_table hfoundTable]
      exact congrArg some (TableType.satisfies_self (UInt32.le_refl _))

variable {i j : Nat} {memoryType : MemoryType} {tableType : TableType}

open ModuleInfo in
/-- Where the first imported memory and the first imported table stand, there they stand with
their limits in the configured module. -/
theorem configure_legacy_at {memory table : Import}
    (hmemory : FirstAt m.imports ExternType.memory? i memory)
    (hmemoryType : memory.type = .memory memoryType)
    (htable : FirstAt m.imports ExternType.table? j table)
    (htableType : table.type = .table tableType) (h : m.configure .legacy config = .ok m') :
    m'.imports[i]? =
        some { memory with type := .memory (config.legacy.memoryType memoryType) } ∧
      m'.imports[j]? =
        some { table with type := .table (config.legacy.tableType tableType) } := by
  have hne : j ≠ i := (index_ne hmemory hmemoryType htable htableType).symm
  have hj : j < m.imports.length := htable.lt_length
  rw [configure_legacy_eq hmemory hmemoryType htable htableType config] at h
  obtain rfl := Except.ok.inj h
  constructor
  · exact (List.getElem?_set_ne hne).trans (List.getElem?_set_self hmemory.lt_length)
  · exact List.getElem?_set_self (by rwa [List.length_set])

open ModuleInfo in
/-- A legacy module whose first imported memory and first imported table are those of `env` is
given these two, by every provider and configuration that set-up succeeds with.  In the module
set-up gives, both imports resolve to the memory and the table of the environment, and they do
so after any operations, among them those that let the two grow. -/
theorem own_imports_bind [LawfulHostFunctions Host] (hlegacy : Toolchain.detect m = .legacy)
    (hmemory : FirstAt m.imports ExternType.memory? i ⟨"env", "memory", .memory memoryType⟩)
    (htable : FirstAt m.imports ExternType.table? j ⟨"env", "table", .table tableType⟩)
    (hsetUp : (r.setUp c m).value.1 = .ok m') :
    ∃ environment memory table memoryImport tableImport,
      (r.setUp c m).value.2.1.environment = some environment ∧
      environment.memory? = some memory ∧ environment.table? = some table ∧
      m'.imports[i]? = some memoryImport ∧ m'.imports[j]? = some tableImport ∧
      memoryImport =
        ⟨"env", "memory", .memory (r.config.legacy.memoryType memoryType)⟩ ∧
      tableImport = ⟨"env", "table", .table (r.config.legacy.tableType tableType)⟩ ∧
      ∀ r', (r.setUp c m).value.2.1.SameSource r' → ∀ operations,
        r'.answer ((r.setUp c m).value.2.2.run operations) memoryImport = .ok (.memory memory) ∧
          r'.answer ((r.setUp c m).value.2.2.run operations) tableImport = .ok (.table table) := by
  have houtcome := setUp_outcome r c m
  rw [hsetUp] at houtcome
  generalize (r.setUp c m).value.2.1 = r₁ at houtcome ⊢
  generalize (r.setUp c m).value.2.2 = c₁ at houtcome ⊢
  cases houtcome with
  | @ready _ environment _ hphase hvalid hconfigure hprepared =>
    rw [hlegacy] at hconfigure hprepared
    obtain ⟨moreMemories, hmemories⟩ := hmemory.filterMap_eq rfl
    obtain ⟨moreTables, htables⟩ := htable.filterMap_eq rfl
    have htoolchain : environment.toolchain = .legacy := by
      cases hprepared
      rfl
    obtain ⟨memory, table, hmemory?, htable?, hbindsMemory, hbindsTable⟩ :=
      (hprepared.effect hvalid).binds htoolchain hmemories htables
    obtain ⟨hmemoryAt, htableAt⟩ := configure_legacy_at hmemory rfl htable rfl hconfigure
    refine ⟨environment, memory, table, _, _, rfl, hmemory?, htable?, hmemoryAt, htableAt, rfl, rfl,
      fun r' hsource operations => ?_⟩
    have hevolves : c₁.Evolves (c₁.run operations) := Compartment.evolves_run c₁ operations
    have hcompartment : r'.compartment = some (c₁.run operations).id := by
      rw [hsource.compartment, hevolves.id]
    rw [answer_eq_find hsource.environment hcompartment,
      answer_eq_find hsource.environment hcompartment]
    exact ⟨(hbindsMemory.evolves hevolves).find_eq, (hbindsTable.evolves hevolves).find_eq⟩

/-- A module that imports a shared memory and a table of references, between others. -/
def surrounded : ModuleInfo :=
  { imports :=
      [⟨"env", "memory", .global ⟨.i32, .constant⟩⟩,
       ⟨"env", "memory", .memory ⟨1, none, true⟩⟩,
       ⟨"other", "memory", .memory ⟨2, some 3, false⟩⟩,
       ⟨"env", "table", .table ⟨.externRef, 5, some 6⟩⟩,
       ⟨"other", "table", .table ⟨.funcRef, 7, none⟩⟩] }

def growth : List (Compartment.Operation HostOp) :=
  [.grow ⟨⟨0⟩, 1⟩ 1, .growTable ⟨⟨0⟩, 0⟩ 3]

/-- Its memory import finds the memory that was made for it, not the global of the same name,
and its table import finds the table, after both have grown. -/
theorem own_imports_bind_surrounded : ∃ memoryImport tableImport,
    ((withProvider {} shadowing).setUp furnished surrounded).value.2.1.answer
        (((withProvider {} shadowing).setUp furnished surrounded).value.2.2.run growth)
        memoryImport = .ok (.memory ⟨⟨0⟩, 1⟩) ∧
      ((withProvider {} shadowing).setUp furnished surrounded).value.2.1.answer
        (((withProvider {} shadowing).setUp furnished surrounded).value.2.2.run growth)
        tableImport = .ok (.table ⟨⟨0⟩, 0⟩) ∧
      (((((withProvider {} shadowing).setUp furnished surrounded).value.2.2.run growth).get?
        (⟨⟨0⟩, 1⟩ : Handle .memory)).map Memory.size) = some 16385 := by
  have hsetUp : ((withProvider {} shadowing).setUp furnished surrounded).value.1 =
      .ok ((surrounded.configure .legacy {}).toOption.get (by decide +kernel)) := by
    decide +kernel
  have hmemory : ModuleInfo.FirstAt surrounded.imports ExternType.memory? 1
      ⟨"env", "memory", .memory ⟨1, none, true⟩⟩ := by
    refine ⟨rfl, rfl, fun k hk other hother => ?_⟩
    obtain rfl : k = 0 := by omega
    cases hother
    rfl
  have htable : ModuleInfo.FirstAt surrounded.imports ExternType.table? 3
      ⟨"env", "table", .table ⟨.externRef, 5, some 6⟩⟩ := by
    refine ⟨rfl, rfl, fun k hk other hother => ?_⟩
    obtain rfl | rfl | rfl : k = 0 ∨ k = 1 ∨ k = 2 := by omega
    all_goals
      cases hother
      rfl
  obtain ⟨environment, memory, table, memoryImport, tableImport, henvironment, hmemory?, htable?,
    -, -, -, -, hall⟩ := own_imports_bind rfl hmemory htable hsetUp
  have hmade : ((withProvider {} shadowing).setUp furnished surrounded).value.2.1.environment.map
      (fun environment => (environment.memory?, environment.table?)) =
        some (some ⟨⟨0⟩, 1⟩, some ⟨⟨0⟩, 0⟩) := by
    decide +kernel
  rw [henvironment, Option.map_some, hmemory?, htable?] at hmade
  obtain ⟨rfl, rfl⟩ : memory = ⟨⟨0⟩, 1⟩ ∧ table = ⟨⟨0⟩, 0⟩ := by
    simpa using hmade
  obtain ⟨hanswerMemory, hanswerTable⟩ := hall _ (.refl _) growth
  refine ⟨memoryImport, tableImport, hanswerMemory, hanswerTable, ?_⟩
  decide +kernel

end Resolver
end HostLink
