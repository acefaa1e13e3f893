/-
What becomes of a collection that is instantiated.

`Presents` says it of a collection that was built by edits.  Every name that stands for
something in the end gives one new object, of the type that was declared, also where an extra
export takes its place.  The exports are those names in the order in which they came to stand,
and behind them the names of extra exports that are not among them.  What was in the compartment
is as it was, and nothing is added but the objects and the instance.

The objects are never made again.  A compartment in which they are numbers what it adds behind
them, and another compartment marks its handles as its own.
-/
import HostLink.Proofs.Host.Edits
import HostLink.Proofs.World.Creation
import Mathlib.Data.List.Nodup

namespace HostLink

variable {Host : Type}

variable {c c' d : Compartment Host}

/-! ## Definitions and objects -/

/-- The type that the object of a definition is declared with. -/
def Definition.type : Definition Host → ExternType
  | .function type _ => .function type
  | .global value mutability => .global { content := value.type, mutability := mutability }

theorem Realizes.type? {collection : Collection Host} {name : String} {definition : Definition Host}
    {entity : Entity} (h : Realizes collection c name definition entity) :
    entity.type? c = some definition.type := by
  cases definition with
  | function type host =>
    obtain ⟨handle, rfl, hget⟩ := h
    simp only [Entity.type?, hget, Option.map_some, Definition.type]
  | global value mutability =>
    obtain ⟨handle, rfl, hget⟩ := h
    simp only [Entity.type?, hget, Option.map_some, Definition.type, Global.ofValue]

namespace Entity

variable {entity other : Entity}

def kind (entity : Entity) : Kind := entity.key.1

theorem Behind.compartment_eq (h : entity.Behind c) : entity.compartment = c.id := by
  cases entity with
  | function handle | global handle | table handle | memory handle => exact And.left h

theorem Live.not_behind (h : entity.Live c) : ¬ entity.Behind c := by
  cases entity with
  | function handle | global handle | table handle | memory handle =>
    simp only [Live, type?, Option.isSome_map] at h
    obtain ⟨object, hobject⟩ := Option.isSome_iff_exists.mp h
    exact Compartment.not_behind_of_get? hobject

/-- What is new in a compartment that still has an object, or in another one, is not the object. -/
theorem Live.ne_of_behind (h : entity.Live c) (hother : other.Behind d)
    (hd : c.Evolves d ∨ d.id ≠ c.id) : entity ≠ other := by
  rintro rfl
  rcases hd with hd | hid
  · exact (h.evolves hd).not_behind hother
  · have howner : entity.compartment = c.id := eq_of_beq h.comesFrom
    exact hid (hother.compartment_eq.symm.trans howner)

end Entity

namespace Collection

variable {collection : Collection Host} {extra : Named Entity} {handle : Handle .instance_}
  {found : Instance} {key : String} {entity : Entity}

/-! ## Objects made of definitions -/

/-- The objects made of definitions are those that were put in. -/
theorem keys_defineAll (collection : Collection Host) (c : Compartment Host)
    (definitions : Named (Definition Host)) :
    (collection.defineAll c definitions).2.map (fun entry => entry.2.key) =
      (collection.creations c definitions).map Creation.key := by
  induction definitions generalizing c with
  | nil => rfl
  | cons first rest ih =>
    obtain ⟨name, definition⟩ := first
    have hrest := ih (collection.define c name definition).1
    cases definition with
    | function type host => exact congrArg (List.cons _) hrest
    | global value mutability => exact congrArg (List.cons _) hrest

theorem nodup_defineAll (collection : Collection Host) (c : Compartment Host)
    (definitions : Named (Definition Host)) :
    ((collection.defineAll c definitions).2.map Prod.snd).Nodup := by
  have hkeys := (collection.grows_defineAll c definitions).nodup
  rw [← keys_defineAll] at hkeys
  refine List.Nodup.of_map Entity.key ?_
  rwa [List.map_map]

theorem count_defineAll (collection : Collection Host) (c : Compartment Host)
    (definitions : Named (Definition Host)) (kind : Kind) :
    (collection.defineAll c definitions).1.count kind = c.count kind +
      (collection.defineAll c definitions).2.countP fun entry => entry.2.kind = kind := by
  have hkinds := congrArg (List.countP fun key : (Σ kind, Handle kind) => key.1 = kind)
    (keys_defineAll collection c definitions)
  rw [List.countP_map, List.countP_map] at hkinds
  rw [(collection.grows_defineAll c definitions).count_eq kind]
  exact congrArg _ hkinds.symm

/-- A name that is not an extra export stands for a new object. -/
theorem Instantiates.behind_of_notMem
    (h : collection.Instantiates extra c c' handle found) (hkey : key ∉ extra.names)
    (hentity : found.exports.get? key = some entity) : entity.Behind c := by
  obtain ⟨made, hexports, hmade⟩ := h.exports
  rw [hexports, Named.get?_putAll_of_notMem hkey] at hentity
  exact Named.of_mem_made (P := fun entity : Entity => entity.Behind c) hmade
    (fun hmakes => hmakes.behind) _ (Named.mem_of_get? hentity)

/-! ## Collections built by edits -/

/-- What an instance of a collection that was built by edits exports, and what there is in the
compartment after it was made.  `objects` are those that were made of definitions. -/
structure Presents (label : String) (edits : List (Edit Host)) (extra : Named Entity)
    (c c' : Compartment Host) (objects : Named Entity) (found : Instance) : Prop where
  defined : ∀ key, key ∈ objects.names ↔ (standing? edits key).isSome
  unique : objects.names.Nodup
  order : objects.names.Pairwise (Precedes edits)
  made : ∀ {key definition}, standing? edits key = some definition →
    ∃ entity, objects.get? key = some entity ∧ entity.type? c' = some definition.type ∧
      (built label edits).Makes c c' key definition entity
  distinct : (objects.map Prod.snd).Nodup
  names : found.exports.names = objects.names ++ extra.names.filter (· ∉ objects.names)
  «exports» : ∀ key, found.exports.get? key = (extra.get? key).or (objects.get? key)
  kept : c.Extends c'
  counted : ∀ kind, c'.count kind = c.count kind +
    (objects.countP fun entry => entry.2.kind = kind) + if kind = .instance_ then 1 else 0

theorem presents_instantiate (label : String) (edits : List (Edit Host)) (c : Compartment Host)
    (name : String) (hextra : extra.names.Nodup) :
    Presents label edits extra c ((built label edits).instantiate c name extra).value.1
      ((built label edits).defineAll c (built label edits).definitions).2
      ((built label edits).made c name extra) := by
  set collection := built label edits with hcollection
  set defined := collection.defineAll c collection.definitions with hdefined
  have hmakes := collection.makes_defineAll c collection.definitions
  rw [← hdefined] at hmakes
  have hnames : defined.2.names = collection.definitions.names := Named.names_made hmakes
  have hadd : (collection.instantiate c name extra).value.1 =
      (defined.1.add .instance_ (collection.made c name extra)).1 := rfl
  constructor
  case defined =>
    rw [hnames]
    exact fun key => mem_names_built
  case unique =>
    rw [hnames]
    exact nodup_built label edits
  case order =>
    rw [hnames]
    exact pairwise_built label edits
  case made =>
    intro key definition hstanding
    rw [← get?_built label, ← hcollection] at hstanding
    obtain ⟨entity, hentity, hmakes⟩ := Named.get?_made hmakes hstanding
    have hmakes' := hmakes.mono (.refl c)
      (Compartment.extends_add defined.1 .instance_ (collection.made c name extra))
    exact ⟨entity, hentity, hmakes'.realizes.type?, hmakes'⟩
  case distinct => exact collection.nodup_defineAll c collection.definitions
  case names => exact Named.names_putAll hextra
  case «exports» => exact Named.get?_putAll hextra
  case kept => exact collection.extends_instantiate c name extra
  case counted =>
    intro kind
    rw [hadd, Compartment.count_add, hdefined, count_defineAll]
    exact congrArg _ (if_congr eq_comm rfl rfl)

theorem Presents.live {label : String} {edits : List (Edit Host)} {objects : Named Entity}
    {entry : String × Entity} (h : Presents label edits extra c c' objects found)
    (hentry : entry ∈ objects) : entry.2.Live c' := by
  have hdefined := (h.defined entry.1).mp (List.mem_map_of_mem hentry)
  obtain ⟨definition, hdefinition⟩ := Option.isSome_iff_exists.mp hdefined
  obtain ⟨entity, hentity, -, hmade⟩ := h.made hdefinition
  have hsame : some entry.2 = some entity :=
    (Named.get?_of_mem h.unique hentry).symm.trans hentity
  rw [Option.some.inj hsame]
  exact hmade.realizes.live

/-- Whether no collection exports one of some objects as new when it is instantiated in what the
compartment comes to be, or in another one. -/
def Exclusive (objects : Named Entity) (c : Compartment Host) : Prop :=
  ∀ {d d' : Compartment Host} {collection : Collection Host} {name : String} {extra : Named Entity}
    {handle : Handle .instance_} {found : Instance} {key : String} {entity : Entity},
    c.Evolves d ∨ d.id ≠ c.id → (collection.instantiate d name extra).value = (d', handle) →
    d'.get? handle = some found → key ∉ extra.names → found.exports.get? key = some entity →
    ∀ entry ∈ objects, entry.2 ≠ entity

theorem Presents.exclusive {label : String} {edits : List (Edit Host)} {objects : Named Entity}
    (h : Presents label edits extra c c' objects found) : Exclusive objects c' := by
  intro d d' collection name others handle second key entity hd hvalue hsecond hkey hentity entry
    hentry
  obtain ⟨d'', handle', second', hvalue', hmade⟩ := collection.instantiate_spec d name others
  obtain ⟨rfl, rfl⟩ := Prod.mk.inj (hvalue.symm.trans hvalue')
  obtain rfl := Option.some.inj (hsecond.symm.trans hmade.get?)
  exact (h.live hentry).ne_of_behind (hmade.behind_of_notMem hkey hentity) hd

/-- Instantiating a collection that was built by edits gives a new instance, which presents it
with objects that no other instantiation makes. -/
theorem instantiate_built (label : String) (edits : List (Edit Host)) (c : Compartment Host)
    (name : String) (hextra : extra.names.Nodup) :
    ∃ c' handle found objects,
      ((built label edits).instantiate c name extra).value = (c', handle) ∧
      handle.Behind c ∧ c'.get? handle = some found ∧ found.name = name ∧
      Presents label edits extra c c' objects found ∧ Exclusive objects c' := by
  have hpresents := presents_instantiate label edits c name hextra
  set collection := built label edits with hcollection
  set defined := collection.defineAll c collection.definitions with hdefined
  have hnew : Handle.Behind (defined.1.add .instance_ (collection.made c name extra)).2 c :=
    Handle.Behind.mono ⟨rfl, Nat.le_refl _⟩
      (collection.grows_defineAll c collection.definitions).kept
  exact ⟨_, _, collection.made c name extra, defined.2, rfl, hnew,
    Compartment.get?_add_self defined.1 .instance_ _, rfl, hpresents, hpresents.exclusive⟩

/-- Edits that define a name anew, and one that was removed. -/
def rearranged : List (Edit HostOp) :=
  [.function "exp" [.f64] [.f64] (.unary .exp), .global "base" (.i32 1) .constant,
    .global "limit" (.i32 2) .mutable, .remove "exp", .function "base" [] [] .abort,
    .function "exp" [.f64] [.f64] (.unary .exp), .remove "missing"]

/-- A compartment with a global and a table that can be exported. -/
def furnished : Compartment HostOp :=
  { id := ⟨3⟩, tables := #[.vacant ⟨.funcRef, 1, none⟩], globals := #[.ofValue (.i64 5) .mutable] }

def borrowed : Named Entity := [("table", .table ⟨⟨3⟩, 0⟩), ("base", .global ⟨⟨3⟩, 0⟩)]

/-- What stands for a function in the end is replaced by a global, and the function still made. -/
theorem instantiate_built_rearranged : ∃ c' handle found objects,
    ((built "env" rearranged).instantiate furnished "env" borrowed).value = (c', handle) ∧
      c'.get? handle = some found ∧
      found.exports =
        [("base", .global ⟨⟨3⟩, 0⟩), ("limit", .global ⟨⟨3⟩, 1⟩), ("exp", .function ⟨⟨3⟩, 1⟩),
          ("table", .table ⟨⟨3⟩, 0⟩)] ∧
      c'.count .function = 2 ∧ Presents "env" rearranged borrowed furnished c' objects found ∧
      Exclusive objects c' := by
  have hborrowed : borrowed.names.Nodup := by decide
  obtain ⟨c', handle, found, objects, hvalue, -, hfound, -, hpresents, hexclusive⟩ :=
    instantiate_built "env" rearranged furnished "env" hborrowed
  refine ⟨c', handle, found, objects, hvalue, hfound, ?_, ?_, hpresents, hexclusive⟩
  · obtain ⟨rfl, rfl⟩ := Prod.mk.inj hvalue
    obtain rfl := Option.some.inj hfound
    rfl
  · obtain ⟨rfl, rfl⟩ := Prod.mk.inj hvalue
    rfl

end Collection
end HostLink
