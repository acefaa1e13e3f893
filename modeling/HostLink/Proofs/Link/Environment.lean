/-
The environment that set-up makes.

Configured limits are in order, so the memory and the table of a legacy module can
always be created.  `Made` is all that is done then: the memory and the table are added,
and each collection is instantiated.  Hence the compartment keeps all it had, and each
instance serves the collection it was made of.

`Sound` is the part of it that lasts.  Every instance of the environment exports live
objects of the compartment, whatever becomes of the objects themselves.
-/
import HostLink.Link.Environment
import HostLink.Proofs.Host.Collection
import HostLink.Proofs.Link.Limits

namespace HostLink

variable {Host : Type}

/-- The type of the memory that a legacy module gets for its first imported one. -/
def LegacyLimits.memoryType (limits : LegacyLimits) (type : MemoryType) : MemoryType :=
  ModuleInfo.limitMemory limits.initialPages limits.maximumPages type

def LegacyLimits.tableType (limits : LegacyLimits) (type : TableType) : TableType :=
  ModuleInfo.limitTable limits.tableMinimum limits.tableMaximum type

/-- The modules that a module of a toolchain may import from. -/
def Toolchain.served : Toolchain → List String
  | standard => ["env"]
  | legacy => ["env", "asm2wasm", "global", "global.Math"]

namespace Environment

variable {environment : Environment} {c c' : Compartment Host} {m : ModuleInfo} {config : Config}
  {provider : Provider Host}

/-! ## Soundness -/

/-- Whether each instance of an environment exports live objects of a compartment. -/
structure Sound (environment : Environment) (c : Compartment Host) : Prop where
  exporting : ∀ {origin handle}, environment.instance? origin = some handle →
    Collection.Exporting handle c

theorem Sound.evolves (h : environment.Sound c) (hc : c.Evolves c') : environment.Sound c' :=
  ⟨fun horigin => (h.exporting horigin).evolves hc⟩

/-! ## Names -/

/-- The instances a module may import from, under the names it has for them. -/
def namespaces : Environment → Named (Handle .instance_)
  | standard env => [("env", env)]
  | legacy env operators mathematics _ _ =>
    [("env", env), ("asm2wasm", operators), ("global", mathematics), ("global.Math", mathematics)]

theorem names_namespaces (environment : Environment) :
    environment.namespaces.names = environment.toolchain.served := by
  cases environment <;> rfl

theorem forImport?_eq_none {toolchain : Toolchain} {module : String}
    (h : module ∉ toolchain.served) : Origin.forImport? toolchain module = none := by
  cases toolchain with
  | standard | legacy =>
    unfold Origin.forImport?
    split <;> simp_all [Toolchain.served]

/-- Looking up where a name leads to and then the instance of that is one look at the names. -/
theorem bind_instance? (environment : Environment) (module : String) :
    (Origin.forImport? environment.toolchain module).bind environment.instance? =
      environment.namespaces.get? module := by
  by_cases h : module ∈ environment.toolchain.served
  · cases environment with
    | standard env =>
      obtain rfl : module = "env" := List.mem_singleton.mp h
      rfl
    | legacy env operators mathematics memory table =>
      simp only [toolchain, Toolchain.served, List.mem_cons, List.not_mem_nil, or_false] at h
      rcases h with rfl | rfl | rfl | rfl <;> rfl
  · rw [forImport?_eq_none h, Named.get?_eq_none_iff.mpr (by rwa [names_namespaces])]
    rfl

/-- The instance under any of the names exports live objects. -/
theorem Sound.namespace {module : String} {handle : Handle .instance_}
    (h : environment.Sound c) (hmodule : environment.namespaces.get? module = some handle) :
    Collection.Exporting handle c := by
  rw [← bind_instance?] at hmodule
  obtain ⟨origin, -, horigin⟩ := Option.bind_eq_some_iff.mp hmodule
  exact h.exporting horigin

/-! ## Objects of a legacy module -/

/-- The memory and the table of a configured module are created with the first limits
of the module, which are the configured ones. -/
theorem legacyObjects_eq_ok (hvalid : config.Valid) {m' : ModuleInfo}
    (h : m.configure .legacy config = .ok m') :
    ∃ firstMemory moreMemories firstTable moreTables,
      m.importedMemories = firstMemory :: moreMemories ∧
        m.importedTables = firstTable :: moreTables ∧
        legacyObjects m' =
          .ok ((config.legacy.memoryType firstMemory,
              Memory.zeroed (config.legacy.memoryType firstMemory)),
            (config.legacy.tableType firstTable,
              Table.vacant (config.legacy.tableType firstTable))) := by
  obtain ⟨⟨firstMemory, moreMemories, hfirstMemory, hmemories⟩,
    firstTable, moreTables, hfirstTable, htables⟩ := ModuleInfo.configure_legacy_eq_ok h
  have hmemory : Memory.create (config.legacy.memoryType firstMemory) =
      .ok (Memory.zeroed (config.legacy.memoryType firstMemory)) := by
    refine Memory.create_eq_ok fun maximum hmaximum => ?_
    obtain rfl : (⟨config.legacy.maximumPages⟩ : Pages) = maximum := Option.some.inj hmaximum
    exact hvalid.legacyPages
  have htable : Table.create (α := Handle .function) (config.legacy.tableType firstTable) =
      .ok (Table.vacant (config.legacy.tableType firstTable)) := by
    refine Table.create_eq_ok fun maximum hmaximum => ?_
    obtain rfl : config.legacy.tableMaximum = maximum := Option.some.inj hmaximum
    exact hvalid.tableElements
  refine ⟨firstMemory, moreMemories, firstTable, moreTables, hfirstMemory, hfirstTable, ?_⟩
  simp only [legacyObjects, hmemories, htables]
  simp only [LegacyLimits.memoryType, LegacyLimits.tableType] at hmemory htable ⊢
  simp [bind, Except.bind, pure, Except.pure, hmemory, htable, Except.mapError]

/-! ## Instantiation -/

/-- What is done to a compartment when a legacy environment is made. -/
inductive Made (provider : Provider Host) (memoryObject : Memory)
    (tableObject : Table (Handle .function)) (c c' : Compartment Host)
    (env operators mathematics : Handle .instance_) (memory : Handle .memory)
    (table : Handle .table) : Prop
  | intro {c₁ c₂ c₃ : Compartment Host} {foundEnv foundOperators foundMathematics : Instance}
      (hmemory : memory = ⟨c.id, c.count .memory⟩) (htable : table = ⟨c.id, c.count .table⟩)
      (hadds : c₁ = c.plus { memories := [memoryObject], tables := [tableObject] })
      (henv : provider.legacyEnv.Instantiates
        [("memory", .memory memory), ("table", .table table)] c₁ c₂ env foundEnv)
      (hoperators : provider.operators.Instantiates [] c₂ c₃ operators foundOperators)
      (hmathematics : provider.mathematics.Instantiates [] c₃ c' mathematics foundMathematics) :
      Made provider memoryObject tableObject c c' env operators mathematics memory table

namespace Made

variable {memoryObject : Memory} {tableObject : Table (Handle .function)}
  {env operators mathematics : Handle .instance_} {memory : Handle .memory}
  {table : Handle .table}

theorem kept (h : Made provider memoryObject tableObject c c' env operators mathematics memory
    table) : c.Extends c' := by
  obtain ⟨hmemory, htable, rfl, henv, hoperators, hmathematics⟩ := h
  have hobjects :=
    Compartment.extends_plus c { memories := [memoryObject], tables := [tableObject] }
  exact hobjects.trans (henv.kept.trans (hoperators.kept.trans hmathematics.kept))

theorem memoryAdded (h : Made provider memoryObject tableObject c c' env operators mathematics
    memory table) : memory.index = c.count .memory := by
  obtain ⟨rfl, -, -, -, -, -⟩ := h
  rfl

theorem memoryFound (h : Made provider memoryObject tableObject c c' env operators mathematics
    memory table) : c'.get? memory = some memoryObject := by
  obtain ⟨rfl, htable, rfl, henv, hoperators, hmathematics⟩ := h
  refine (henv.kept.trans (hoperators.kept.trans hmathematics.kept)).get? ?_
  exact Compartment.get?_plus c _ .memory 0

theorem tableFound (h : Made provider memoryObject tableObject c c' env operators mathematics
    memory table) : c'.get? table = some tableObject := by
  obtain ⟨hmemory, rfl, rfl, henv, hoperators, hmathematics⟩ := h
  refine (henv.kept.trans (hoperators.kept.trans hmathematics.kept)).get? ?_
  exact Compartment.get?_plus c _ .table 0

theorem serves_env (h : Made provider memoryObject tableObject c c' env operators mathematics memory
    table) :
    provider.legacyEnv.Serves [("memory", .memory memory), ("table", .table table)] env c' := by
  obtain ⟨rfl, rfl, rfl, henv, hoperators, hmathematics⟩ := h
  refine (henv.serves ?_).mono (hoperators.kept.trans hmathematics.kept)
  set added : Additions Host := { memories := [memoryObject], tables := [tableObject] }
  have hmemory : (c.plus added).get? (⟨c.id, c.count .memory⟩ : Handle .memory) =
      some memoryObject := Compartment.get?_plus c added .memory 0
  have htable : (c.plus added).get? (⟨c.id, c.count .table⟩ : Handle .table) =
      some tableObject := Compartment.get?_plus c added .table 0
  simp [Entity.Live, Entity.type?, hmemory, htable]

theorem serves_operators (h : Made provider memoryObject tableObject c c' env operators mathematics
    memory table) : provider.operators.Serves [] operators c' := by
  obtain ⟨-, -, -, -, hoperators, hmathematics⟩ := h
  exact (hoperators.serves (List.forall_mem_nil _)).mono hmathematics.kept

theorem serves_mathematics
    (h : Made provider memoryObject tableObject c c' env operators mathematics
    memory table) : provider.mathematics.Serves [] mathematics c' := by
  obtain ⟨-, -, -, -, -, hmathematics⟩ := h
  exact hmathematics.serves (List.forall_mem_nil _)

end Made

theorem instantiate_standard (c : Compartment Host) (m : ModuleInfo) (provider : Provider Host) :
    ∃ c' env found, (instantiate c .standard m provider).value = .ok (c', .standard env) ∧
      provider.standardEnv.Instantiates [] c c' env found := by
  obtain ⟨c', env, found, henv, hmade⟩ := provider.standardEnv.instantiate_spec c "env" []
  refine ⟨c', env, found, ?_, hmade⟩
  simp only [instantiate, Logged.value_bind, Logged.value_pure, henv]

/-- Making a legacy environment succeeds as soon as its memory and table exist. -/
theorem instantiate_legacy {memoryType : MemoryType} {tableType : TableType}
    {memoryObject : Memory} {tableObject : Table (Handle .function)}
    (h : legacyObjects m = .ok ((memoryType, memoryObject), (tableType, tableObject)))
    (c : Compartment Host) (provider : Provider Host) :
    ∃ c' env operators mathematics memory table,
      (instantiate c .legacy m provider).value =
          .ok (c', .legacy env operators mathematics memory table) ∧
        Made provider memoryObject tableObject c c' env operators mathematics memory table := by
  set c₁ := c.plus { memories := [memoryObject], tables := [tableObject] } with hadds
  set memory : Handle .memory := ⟨c.id, c.count .memory⟩ with hmemory
  set table : Handle .table := ⟨c.id, c.count .table⟩ with htable
  have hboth : ((c.add .memory memoryObject).1.add .table tableObject) = (c₁, table) := by
    simp only [Compartment.add_eq, Compartment.plus_plus, Compartment.count_plus]
    rfl
  -- The compartments on the way: two objects are added, then three instances.
  obtain ⟨c₂, env, foundEnv, henv, hmadeEnv⟩ := provider.legacyEnv.instantiate_spec c₁ "env"
    [("memory", .memory memory), ("table", .table table)]
  obtain ⟨c₃, operators, foundOperators, hoperators, hmadeOperators⟩ :=
    provider.operators.instantiate_spec c₂ "emAsm2wasm" []
  obtain ⟨c₄, mathematics, foundMathematics, hmathematics, hmadeMathematics⟩ :=
    provider.mathematics.instantiate_spec c₃ "emGlobal" []
  refine ⟨c₄, env, operators, mathematics, memory, table, ?_,
    .intro hmemory htable hadds hmadeEnv hmadeOperators hmadeMathematics⟩
  have hfirst : (c.add .memory memoryObject).2 = memory := rfl
  simp only [instantiate, h, Logged.value_bind, Logged.value_pure, hboth, hfirst, henv,
    hoperators, hmathematics]

end Environment
end HostLink
