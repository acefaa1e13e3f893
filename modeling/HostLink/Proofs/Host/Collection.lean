/-
What instantiating a collection adds to a compartment.

Each definition gives one new object, `Realizes` says which, and the instance exports
them under the names of their definitions.  Nothing that was in the compartment is
touched, so an object made early is still there, unchanged, when the last one is made.

`Instantiates` is all that an instantiation does: which objects it adds, and what the
instance exports.  `Serves` is what modules see of it later.
-/
import HostLink.Host.Collection
import HostLink.Proofs.Named
import HostLink.Proofs.Store.Addition

namespace HostLink

variable {Host : Type}

/-- Whether an object is the one that a collection makes of a definition. -/
def Realizes (collection : Collection Host) (c : Compartment Host) (name : String)
    (definition : Definition Host) (entity : Entity) : Prop :=
  match definition with
  | .function type host =>
    ∃ handle : Handle .function, entity = .function handle ∧
      c.get? handle = some
        ({ name := collection.name ++ "." ++ name, type := type, host := host } : Function Host)
  | .global value mutability =>
    ∃ handle : Handle .global, entity = .global handle ∧
      c.get? handle = some (Global.ofValue value mutability)

namespace Realizes

variable {collection : Collection Host} {c c' : Compartment Host} {name : String}
  {definition : Definition Host} {entity : Entity}

theorem mono (h : Realizes collection c name definition entity) (hc : c.Extends c') :
    Realizes collection c' name definition entity := by
  cases definition with
  | function type host =>
    obtain ⟨handle, rfl, hget⟩ := h
    exact ⟨handle, rfl, hc.get? hget⟩
  | global value mutability =>
    obtain ⟨handle, rfl, hget⟩ := h
    exact ⟨handle, rfl, hc.get? hget⟩

theorem live (h : Realizes collection c name definition entity) : entity.Live c := by
  cases definition with
  | function type host =>
    obtain ⟨handle, rfl, hget⟩ := h
    simp [Entity.Live, Entity.type?, hget]
  | global value mutability =>
    obtain ⟨handle, rfl, hget⟩ := h
    simp [Entity.Live, Entity.type?, hget]

/-- Operations of a memory do not change what is made of definitions. -/
theorem set_memory (h : Realizes collection c name definition entity) (memory : Handle .memory)
    (m : Memory) : Realizes collection (c.set memory m) name definition entity := by
  cases definition with
  | function type host =>
    obtain ⟨handle, rfl, hget⟩ := h
    exact ⟨handle, rfl, (Compartment.get?_set_of_kind_ne (by decide) c memory m handle).trans hget⟩
  | global value mutability =>
    obtain ⟨handle, rfl, hget⟩ := h
    exact ⟨handle, rfl, (Compartment.get?_set_of_kind_ne (by decide) c memory m handle).trans hget⟩

end Realizes

namespace Collection

variable {collection : Collection Host} {c c' : Compartment Host} {extra : Named Entity}

/-! ## Objects of definitions -/

/-- The function a definition stands for, if it defines one. -/
def function? (collection : Collection Host) : String × Definition Host → Option (Function Host)
  | (name, .function type host) =>
    some { name := collection.name ++ "." ++ name, type := type, host := host }
  | (_, .global ..) => none

def global? : String × Definition Host → Option Global
  | (_, .function ..) => none
  | (_, .global value mutability) => some (Global.ofValue value mutability)

/-- The objects of some definitions. -/
def additions (collection : Collection Host) (definitions : Named (Definition Host)) :
    Additions Host :=
  { globals := definitions.filterMap global?
    functions := definitions.filterMap collection.function? }

def globals (collection : Collection Host) : List Global := collection.definitions.filterMap global?

def functions (collection : Collection Host) : List (Function Host) :=
  collection.definitions.filterMap collection.function?

theorem additions_cons (collection : Collection Host) (first : String × Definition Host)
    (rest : Named (Definition Host)) :
    collection.additions (first :: rest) =
      collection.additions [first] ++ collection.additions rest := by
  simp only [additions, Additions.append_def, ← List.filterMap_append, List.singleton_append,
    List.append_nil]

/-- One object for each definition. -/
theorem length_additions (collection : Collection Host) (definitions : Named (Definition Host)) :
    (collection.additions definitions).globals.length +
      (collection.additions definitions).functions.length = definitions.length := by
  induction definitions with
  | nil => rfl
  | cons first rest ih =>
    simp only [additions] at ih ⊢
    obtain ⟨name, definition⟩ := first
    cases definition with
    | function type host =>
      simp only [List.filterMap_cons, global?, function?, List.length_cons]
      omega
    | global value mutability =>
      simp only [List.filterMap_cons, global?, function?, List.length_cons]
      omega

theorem define_fst (collection : Collection Host) (c : Compartment Host) (name : String)
    (definition : Definition Host) :
    (collection.define c name definition).1 =
    c.plus (collection.additions [(name, definition)]) := by
  cases definition with
  | function type host => exact congrArg Prod.fst (Compartment.add_eq c .function _)
  | global value mutability => exact congrArg Prod.fst (Compartment.add_eq c .global _)

theorem realizes_define (collection : Collection Host) (c : Compartment Host) (name : String)
    (definition : Definition Host) :
    Realizes collection (collection.define c name definition).1 name definition
      (collection.define c name definition).2 := by
  cases definition with
  | function type host => exact ⟨_, rfl, Compartment.get?_add_self c .function _⟩
  | global value mutability => exact ⟨_, rfl, Compartment.get?_add_self c .global _⟩

theorem behind_define (collection : Collection Host) (c : Compartment Host) (name : String)
    (definition : Definition Host) : (collection.define c name definition).2.Behind c := by
  cases definition with
  | function type host => exact ⟨rfl, Nat.le_refl _⟩
  | global value mutability => exact ⟨rfl, Nat.le_refl _⟩

theorem defineAll_fst (collection : Collection Host) (c : Compartment Host)
    (definitions : Named (Definition Host)) :
    (collection.defineAll c definitions).1 = c.plus (collection.additions definitions) := by
  induction definitions generalizing c with
  | nil => exact (Compartment.plus_empty c).symm
  | cons first rest ih =>
    rw [additions_cons, ← Compartment.plus_plus, ← define_fst]
    exact ih _

/-- Whether an object is one that a collection has newly made of a definition. -/
structure Makes (collection : Collection Host) (c c' : Compartment Host) (name : String)
    (definition : Definition Host) (entity : Entity) : Prop where
  realizes : Realizes collection c' name definition entity
  behind : entity.Behind c

theorem Makes.mono {c₀ c₁ : Compartment Host} {name : String} {definition : Definition Host}
    {entity : Entity} (h : collection.Makes c c' name definition entity) (hc : c₀.Extends c)
    (hc' : c'.Extends c₁) : collection.Makes c₀ c₁ name definition entity :=
  ⟨h.realizes.mono hc', h.behind.mono hc⟩

/-- One new object for each definition, in their order and under their names. -/
theorem makes_defineAll (collection : Collection Host) (c : Compartment Host)
    (definitions : Named (Definition Host)) :
    List.Forall₂
      (fun definition made => made.1 = definition.1 ∧
        collection.Makes c (collection.defineAll c definitions).1 definition.1 definition.2 made.2)
      definitions (collection.defineAll c definitions).2 := by
  induction definitions generalizing c with
  | nil => exact .nil
  | cons first rest ih =>
    have hfirst : c.Extends (collection.define c first.1 first.2).1 := by
      rw [define_fst]
      exact Compartment.extends_plus c _
    have hrest : (collection.define c first.1 first.2).1.Extends
        (collection.defineAll (collection.define c first.1 first.2).1 rest).1 := by
      rw [defineAll_fst]
      exact Compartment.extends_plus _ _
    refine .cons ⟨rfl, (realizes_define collection c first.1 first.2).mono hrest,
      behind_define collection c first.1 first.2⟩ ?_
    exact (ih _).imp fun {definition made} h => ⟨h.1, h.2.mono hfirst (.refl _)⟩

/-! ## Instances -/

/-- Whether a handle finds an instance all of whose exports are in the compartment. -/
def Exporting (handle : Handle .instance_) (c : Compartment Host) : Prop :=
  ∃ found : Instance, c.get? handle = some found ∧ ∀ entry ∈ found.exports, entry.2.Live c

theorem Exporting.evolves {handle : Handle .instance_} (h : Exporting handle c)
    (hc : c.Evolves c') : Exporting handle c' := by
  obtain ⟨found, hfound, hlive⟩ := h
  obtain ⟨found', hfound', rfl⟩ := hc.get? hfound
  exact ⟨found, hfound', fun entry hentry => (hlive entry hentry).evolves hc⟩

/-- Whether a handle finds an instance of a collection: a name that is defined, and not
replaced by an extra export, stands for the object of its definition. -/
structure Serves (collection : Collection Host) (extra : Named Entity) (handle : Handle .instance_)
    (c : Compartment Host) : Prop where
  exporting : Exporting handle c
  realizes : ∀ {key definition}, collection.definitions.get? key = some definition →
    key ∉ extra.names → ∃ found : Instance, c.get? handle = some found ∧
      ∃ entity, found.exports.get? key = some entity ∧
        Realizes collection c key definition entity

theorem Serves.mono {handle : Handle .instance_} (h : collection.Serves extra handle c)
    (hc : c.Extends c') : collection.Serves extra handle c' := by
  refine ⟨h.exporting.evolves hc.evolves, fun hget hextra => ?_⟩
  obtain ⟨found, hfound, entity, hentity, hrealizes⟩ := h.realizes hget hextra
  exact ⟨found, hc.get? hfound, entity, hentity, hrealizes.mono hc⟩

/-- Operations of a memory do not change what an instance stands for. -/
theorem Serves.set_memory {handle : Handle .instance_} (h : collection.Serves extra handle c)
    {memory : Handle .memory} {m m' : Memory} (hm : c.get? memory = some m)
    (hevolves : m.Evolves m') : collection.Serves extra handle (c.set memory m') := by
  refine ⟨h.exporting.evolves (Compartment.evolves_set hm hevolves), fun hget hextra => ?_⟩
  obtain ⟨found, hfound, entity, hentity, hrealizes⟩ := h.realizes hget hextra
  refine ⟨found, ?_, entity, hentity, hrealizes.set_memory memory m'⟩
  exact (Compartment.get?_set_of_kind_ne (by decide) c memory m' handle).trans hfound

/-! ## Instantiation -/

/-- What instantiating a collection does: it adds one object for each definition, in their
order, and an instance that exports them, with the extra exports put over them. -/
structure Instantiates (collection : Collection Host) (extra : Named Entity)
    (c c' : Compartment Host) (handle : Handle .instance_) (found : Instance) : Prop where
  adds : c' = c.plus (collection.additions collection.definitions ++ { instances := [found] })
  handle : handle = ⟨c.id, c.count .instance_⟩
  exports : ∃ made : Named Entity, found.exports = made.putAll extra ∧
    List.Forall₂ (fun definition entry => entry.1 = definition.1 ∧
      collection.Makes c c' definition.1 definition.2 entry.2) collection.definitions made

/-- Instantiation as callers see it. -/
theorem instantiate_spec (collection : Collection Host) (c : Compartment Host) (name : String)
    (extra : Named Entity) :
    ∃ c' handle found, (collection.instantiate c name extra).value = (c', handle) ∧
      collection.Instantiates extra c c' handle found := by
  set found : Instance :=
    { name := name
      «exports» := (collection.defineAll c collection.definitions).2.putAll extra } with hfound
  have hadd : (collection.instantiate c name extra).value =
      (collection.defineAll c collection.definitions).1.add .instance_ found := rfl
  have hdefined := defineAll_fst collection c collection.definitions
  rw [hdefined, Compartment.add_eq, Compartment.plus_plus] at hadd
  have hcount : (c.plus (collection.additions collection.definitions)).count .instance_ =
      c.count .instance_ := Compartment.count_plus c _ .instance_
  rw [Compartment.id_plus, hcount] at hadd
  refine ⟨_, _, found, hadd, rfl, rfl, _, rfl, ?_⟩
  have hmade := makes_defineAll collection c collection.definitions
  rw [hdefined] at hmade
  refine hmade.imp fun {definition made} h => ⟨h.1, h.2.mono (.refl c) ?_⟩
  rw [← Compartment.plus_plus]
  exact Compartment.extends_plus _ _

namespace Instantiates

variable {handle : Handle .instance_} {found : Instance}

theorem kept (h : collection.Instantiates extra c c' handle found) : c.Extends c' := by
  rw [h.adds]
  exact Compartment.extends_plus c _

theorem get? (h : collection.Instantiates extra c c' handle found) :
    c'.get? handle = some found := by
  rw [h.adds, h.handle]
  exact Compartment.get?_plus c _ .instance_ 0

/-- The instance that is made serves its collection, if the extra exports were in the
compartment. -/
theorem serves (h : collection.Instantiates extra c c' handle found)
    (hextra : ∀ entry ∈ extra, entry.2.Live c) : collection.Serves extra handle c' := by
  obtain ⟨made, hexports, hmade⟩ := h.exports
  refine ⟨⟨found, h.get?, ?_⟩, fun {key definition} hdefinition hkey => ?_⟩
  · rw [hexports]
    refine Named.of_mem_putAll (P := fun entity : Entity => entity.Live c') ?_ ?_
    · exact Named.of_mem_made (P := fun entity : Entity => entity.Live c') hmade
        fun hentity => hentity.realizes.live
    · exact fun entry hentry => (hextra entry hentry).evolves h.kept.evolves
  · obtain ⟨entity, hentity, hrealizes, -⟩ := Named.get?_made hmade hdefinition
    refine ⟨found, h.get?, entity, ?_, hrealizes⟩
    rw [hexports]
    exact (Named.get?_putAll_of_notMem hkey).trans hentity

/-- All it exports lies behind what there was before the extra exports were made. -/
theorem behind {c₀ : Compartment Host} (h : collection.Instantiates extra c c' handle found)
    (hc : c₀.Extends c) (hextra : ∀ entry ∈ extra, entry.2.Behind c₀) :
    ∀ entry ∈ found.exports, entry.2.Behind c₀ := by
  obtain ⟨made, hexports, hmade⟩ := h.exports
  rw [hexports]
  refine Named.of_mem_putAll (P := fun entity : Entity => entity.Behind c₀) ?_ hextra
  exact Named.of_mem_made (P := fun entity : Entity => entity.Behind c₀) hmade
    fun hentity => hentity.behind.mono hc

end Instantiates

theorem extends_instantiate (collection : Collection Host) (c : Compartment Host) (name : String)
    (extra : Named Entity) : c.Extends (collection.instantiate c name extra).value.1 := by
  obtain ⟨c', handle, found, hvalue, hmade⟩ := collection.instantiate_spec c name extra
  rw [hvalue]
  exact hmade.kept

end Collection
end HostLink
