/-
What a successful set-up adds.

A standard module gets the objects of one collection and an instance that exports them.  A
legacy module gets a memory and a table, those of three collections, and three instances, the
first of which exports the memory and the table too, in place of anything that its collection
defines under their names.  `Effect` says that this is all: the compartment is the one from
before with these objects added, each behind those of its kind, and nothing else.
-/
import HostLink.Proofs.Host.Signature
import HostLink.Proofs.Link.Pointers
import HostLink.Proofs.Store.Refinement

namespace HostLink

variable {Host : Type}

variable {c c' : Compartment Host} {collection : Collection Host} {extra : Named Entity}

/-! ## Exports -/

namespace Collection

/-- Whether an instance exports the extra objects under their names and, under any other
name, a new object if the collection defines one and nothing if it does not. -/
structure Exports (collection : Collection Host) (extra : Named Entity) (c c' : Compartment Host)
    (found : Instance) : Prop where
  added : ∀ name entity, extra.get? name = some entity → found.exports.get? name = some entity
  defined : ∀ name definition, name ∉ extra.names →
    collection.definitions.get? name = some definition →
      ∃ entity, found.exports.get? name = some entity ∧
        collection.Makes c c' name definition entity
  undefined : ∀ name, name ∉ extra.names → collection.definitions.get? name = none →
    found.exports.get? name = none

variable {handle : Handle .instance_} {found : Instance}

theorem Instantiates.exported (h : collection.Instantiates extra c c' handle found)
    (hnames : extra.names.Nodup) : collection.Exports extra c c' found := by
  obtain ⟨made, hexports, hmade⟩ := h.exports
  refine ⟨fun name entity hentity => ?_, fun name definition hname hdefinition => ?_,
    fun name hname hnone => ?_⟩
  · rw [hexports]
    exact Named.get?_putAll_of_get? hnames hentity
  · obtain ⟨entity, hentity, hmakes⟩ := Named.get?_made hmade hdefinition
    refine ⟨entity, ?_, hmakes⟩
    rw [hexports, Named.get?_putAll_of_notMem hname, hentity]
  · rw [hexports, Named.get?_putAll_of_notMem hname]
    exact Named.get?_made_eq_none hmade hnone

theorem Exports.mono {c₀ c₁ : Compartment Host} (h : collection.Exports extra c c' found)
    (hc : c₀.Extends c) (hc' : c'.Extends c₁) : collection.Exports extra c₀ c₁ found := by
  refine ⟨h.added, fun name definition hname hdefinition => ?_, h.undefined⟩
  obtain ⟨entity, hentity, hmakes⟩ := h.defined name definition hname hdefinition
  exact ⟨entity, hentity, hmakes.mono hc hc'⟩

theorem Exports.set_memory (h : collection.Exports extra c c' found) (memory : Handle .memory)
    (m : Memory) : collection.Exports extra c (c'.set memory m) found := by
  refine ⟨h.added, fun name definition hname hdefinition => ?_, h.undefined⟩
  obtain ⟨entity, hentity, hmakes⟩ := h.defined name definition hname hdefinition
  exact ⟨entity, hentity, hmakes.realizes.set_memory memory m, hmakes.behind⟩

end Collection

/-! ## The memory of a legacy module -/

/-- Whether a memory is the one a legacy module starts with: it has the configured limits, is
shared if the module says so, and is zero but for the block of variables. -/
structure Memory.Primed (m : Memory) (limits : LegacyLimits) (first : MemoryType) : Prop where
  declared : m.declared = { minimum := ⟨limits.initialPages⟩, maximum := some ⟨limits.maximumPages⟩,
                            shared := first.shared }
  size : m.size = ⟨limits.initialPages⟩
  committed : m.committed = limits.globalsAddress.toNat + GlobalsBlock.size
  block : m.read limits.globalsAddress.toUInt64 (UInt64.ofNat GlobalsBlock.size) =
    .ok (GlobalsBlock.initial limits.layout).encode
  zero : ∀ i, ¬ (limits.globalsAddress.toNat ≤ i ∧
    i < limits.globalsAddress.toNat + GlobalsBlock.size) → m.byte i = 0

theorem primed_writeTo {config : Config} (hvalid : config.Valid) {first : MemoryType}
    {patched : Memory}
    (h : (GlobalsBlock.initial config.legacy.layout).writeTo
      (.zeroed (config.legacy.memoryType first)) config.legacy.layout.globalsAddress =
        .ok patched) : patched.Primed config.legacy first := by
  have hlength := GlobalsBlock.length_encode (GlobalsBlock.initial config.legacy.layout)
  have hstart : config.legacy.layout.globalsAddress.toUInt64.toNat =
      config.legacy.globalsAddress.toNat := UInt32.toNat_toUInt64 _
  have hfits : config.legacy.globalsAddress.toNat + GlobalsBlock.size ≤
      (Memory.zeroed (config.legacy.memoryType first)).length := hvalid.globalsInside
  rw [Memory.eq_store_of_write h]
  refine ⟨?_, ?_, ?_, ?_, fun i hi => ?_⟩
  · rw [Memory.declared_store]
    rfl
  · rw [Memory.size_store]
    rfl
  · rw [Memory.committed_store, hlength, hstart]
    exact Nat.zero_max _
  · rw [← hlength]
    exact Memory.read_store_self (by rw [hlength]; decide) (by rw [hlength, hstart]; exact hfits)
  · rw [Memory.byte_store, hlength, hstart, if_neg hi]
    rfl

/-! ## The effect of set-up -/

namespace Resolver

variable {r : Resolver Host} {m m' : ModuleInfo} {config : Config} {provider : Provider Host}
  {toolchain : Toolchain} {environment : Environment}

/-- The objects of a standard module: those of its collection and an instance. -/
def standardAdditions (provider : Provider Host) (env : Instance) : Additions Host :=
  { globals := provider.standardEnv.globals
    functions := provider.standardEnv.functions
    instances := [env] }

/-- The objects of a legacy module: a memory, a table, those of three collections and their
instances. -/
def legacyAdditions (provider : Provider Host) (memory : Memory) (table : Table (Handle .function))
    (env operators mathematics : Instance) : Additions Host :=
  { memories := [memory]
    tables := [table]
    globals := provider.legacyEnv.globals ++ provider.operators.globals ++
      provider.mathematics.globals
    functions := provider.legacyEnv.functions ++ provider.operators.functions ++
      provider.mathematics.functions
    instances := [env, operators, mathematics] }

/-- What making the environment of a module adds to a compartment. -/
inductive Effect (config : Config) (provider : Provider Host) (m : ModuleInfo)
    (c c' : Compartment Host) :
    Environment → Prop
  | standard {env : Instance} (hadds : c' = c.plus (standardAdditions provider env))
      (henv : provider.standardEnv.Exports [] c c' env) :
      Effect config provider m c c' (.standard ⟨c.id, c.count .instance_⟩)
  | legacy {firstMemory : MemoryType} {moreMemories : List MemoryType} {firstTable : TableType}
      {moreTables : List TableType} {memory : Memory} {env operators mathematics : Instance}
      (hmemories : m.importedMemories = firstMemory :: moreMemories)
      (htables : m.importedTables = firstTable :: moreTables)
      (hadds : c' = c.plus (legacyAdditions provider memory
        (.vacant (config.legacy.tableType firstTable)) env operators mathematics))
      (hmemory : memory.Primed config.legacy firstMemory)
      (henv : provider.legacyEnv.Exports
        [("memory", .memory ⟨c.id, c.count .memory⟩), ("table", .table ⟨c.id, c.count .table⟩)]
        c c' env)
      (hoperators : provider.operators.Exports [] c c' operators)
      (hmathematics : provider.mathematics.Exports [] c c' mathematics) :
      Effect config provider m c c'
        (.legacy ⟨c.id, c.count .instance_⟩ ⟨c.id, c.count .instance_ + 1⟩
          ⟨c.id, c.count .instance_ + 2⟩ ⟨c.id, c.count .memory⟩ ⟨c.id, c.count .table⟩)

/-- The objects of a legacy module before its memory is written to. -/
theorem adds_of_made {memory : Handle .memory} {table : Handle .table}
    {memoryObject : Memory} {tableObject : Table (Handle .function)}
    {env operators mathematics : Handle .instance_}
    (h : Environment.Made provider memoryObject tableObject c c' env operators mathematics memory
      table) :
    ∃ foundEnv foundOperators foundMathematics,
      c' = c.plus (legacyAdditions provider memoryObject tableObject foundEnv foundOperators
        foundMathematics) ∧
      memory = ⟨c.id, c.count .memory⟩ ∧ table = ⟨c.id, c.count .table⟩ ∧
      env = ⟨c.id, c.count .instance_⟩ ∧ operators = ⟨c.id, c.count .instance_ + 1⟩ ∧
      mathematics = ⟨c.id, c.count .instance_ + 2⟩ ∧
      provider.legacyEnv.Exports [("memory", .memory memory), ("table", .table table)] c c'
        foundEnv ∧
      provider.operators.Exports [] c c' foundOperators ∧
      provider.mathematics.Exports [] c c' foundMathematics := by
  obtain @⟨c₁, c₂, c₃, foundEnv, foundOperators, foundMathematics, hmemory, htable, hadds, henv,
    hoperators, hmathematics⟩ := h
  have hkept₁ : c.Extends c₁ := by
    rw [hadds]
    exact Compartment.extends_plus c _
  have hkept₂ := hkept₁.trans henv.kept
  have hkept₃ := hkept₂.trans hoperators.kept
  -- Each instantiation adds one instance, behind those there were.
  have hcount₁ : c₁.count .instance_ = c.count .instance_ := by
    rw [hadds, Compartment.count_plus]
    rfl
  have hcount₂ : c₂.count .instance_ = c.count .instance_ + 1 := by
    rw [henv.adds, Compartment.count_plus, hcount₁]
    rfl
  have hcount₃ : c₃.count .instance_ = c.count .instance_ + 2 := by
    rw [hoperators.adds, Compartment.count_plus, hcount₂]
    rfl
  refine ⟨foundEnv, foundOperators, foundMathematics, ?_, hmemory, htable, ?_, ?_, ?_, ?_, ?_, ?_⟩
  · rw [hmathematics.adds, hoperators.adds, henv.adds, hadds]
    simp only [Compartment.plus_plus, legacyAdditions, Collection.additions, Additions.append_def,
      Collection.globals, Collection.functions, List.nil_append, List.append_nil, List.append_assoc,
      List.cons_append]
  · rw [henv.handle, hcount₁, hkept₁.id]
  · rw [hoperators.handle, hcount₂, hkept₂.id]
  · rw [hmathematics.handle, hcount₃, hkept₃.id]
  · have hnames : Named.names [("memory", Entity.memory memory), ("table", .table table)] =
        ["memory", "table"] := rfl
    refine (henv.exported ?_).mono hkept₁ (hoperators.kept.trans hmathematics.kept)
    rw [hnames]
    decide
  · exact (hoperators.exported .nil).mono hkept₂ hmathematics.kept
  · exact (hmathematics.exported .nil).mono hkept₃ (.refl c')

theorem Prepared.effect (hvalid : config.Valid)
    (h : Prepared config provider m c toolchain environment c') :
    Effect config provider m c c' environment := by
  cases h with
  | @standard _ env found hmade =>
    have hadds : c' = c.plus (standardAdditions provider found) := by
      rw [hmade.adds]
      simp only [standardAdditions, Collection.additions, Additions.append_def, Collection.globals,
        Collection.functions, List.nil_append, List.append_nil]
    rw [hmade.handle]
    exact .standard hadds (hmade.exported .nil)
  | @legacy _ _ _ _ patched _ _ _ _ _ _ hmemories htables hmade hpatched =>
    obtain ⟨foundEnv, foundOperators, foundMathematics, hadds, rfl, rfl, rfl, rfl, rfl, henv,
      hoperators, hmathematics⟩ := adds_of_made hmade
    refine .legacy hmemories htables ?_ (primed_writeTo hvalid hpatched) (henv.set_memory _ _)
      (hoperators.set_memory _ _) (hmathematics.set_memory _ _)
    rw [hadds]
    exact Compartment.set_plus_memory c
      (legacyAdditions provider patched _ foundEnv foundOperators foundMathematics) _ _

/-- A successful set-up makes an environment for the toolchain of the module and adds the
objects of that environment, one for each definition of its collections among them.  What
there was before is unchanged and found by the same handles. -/
theorem setUp_adds (hsetUp : (r.setUp c m).value.1 = .ok m') :
    ∃ environment, (r.setUp c m).value.2.1.environment = some environment ∧
      environment.toolchain = .detect m ∧
      Effect r.config r.provider m c (r.setUp c m).value.2.2 environment ∧
      c.Extends (r.setUp c m).value.2.2 ∧
      ∀ collection ∈ r.provider.collections,
        collection.globals.length + collection.functions.length =
          collection.definitions.length := by
  have houtcome := setUp_outcome r c m
  rw [hsetUp] at houtcome
  generalize (r.setUp c m).value.2.1 = r' at houtcome ⊢
  generalize (r.setUp c m).value.2.2 = c' at houtcome ⊢
  cases houtcome with
  | @ready _ environment _ hphase hvalid hconfigure hprepared =>
    refine ⟨environment, rfl, ?_, hprepared.effect hvalid, hprepared.kept,
      fun collection _ => collection.length_additions collection.definitions⟩
    generalize Toolchain.detect m = toolchain at hprepared
    cases hprepared <;> rfl

/-- Default collections of which the first defines a global under the name of the memory. -/
def shadowing : Provider HostOp :=
  { Provider.default .standard with
    legacyEnv := (Collection.legacyEnv .standard).global "memory" (.i32 7) .constant }

/-- A compartment with a memory and an instance. -/
def furnished : Compartment HostOp :=
  { id := ⟨0⟩
    memories := #[.zeroed ⟨1, none, false⟩]
    instances := #[{ name := "env", «exports» := [] }] }

/-- There the environment exports the new memory, not the global and not the memory that was
there before. -/
theorem setUp_adds_shadowing : ∃ env : Instance,
    ((withProvider {} shadowing).setUp furnished legacySample).value.2.2.get?
        (⟨⟨0⟩, 1⟩ : Handle .instance_) = some env ∧
      env.exports.get? "memory" = some (.memory ⟨⟨0⟩, 1⟩) := by
  have hsetUp : ((withProvider {} shadowing).setUp furnished legacySample).value.1 =
      .ok ((legacySample.configure .legacy {}).toOption.get (by decide +kernel)) := by
    decide +kernel
  obtain ⟨environment, -, htoolchain, heffect, -⟩ := setUp_adds hsetUp
  cases heffect with
  | standard _ _ => cases htoolchain
  | @legacy _ _ _ _ memory env _ _ _ _ hadds _ henv _ _ =>
    refine ⟨env, ?_, henv.added "memory" _ rfl⟩
    rw [hadds]
    exact Compartment.get?_plus furnished _ .instance_ 0

end Resolver
end HostLink
