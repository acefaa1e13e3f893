/-
Objects that are put into a compartment.

`Creation` is an object with the handle that was given for it.  `Grows` says that a compartment
has come from another one by putting objects in, one after the other, each sound and each
instance with exports that were there before it.  Then every object is found by its handle, no
two handles are the same, each kind has gained as many objects as were put in, and what was
intact stays so.

Instantiating a collection puts in one object for each definition and the instance; making an
environment does so a few times over.
-/
import HostLink.Proofs.Link.Environment
import HostLink.Proofs.Store.Soundness

namespace HostLink

variable {Host : Type}

variable {c c' c'' : Compartment Host} {kind other : Kind}

/-! ## Intact compartments -/

/-- Whether all that an object exports is in a compartment.  Only instances export. -/
def Kind.Closed : (kind : Kind) → kind.Object Host → Compartment Host → Prop
  | .memory => fun _ _ => True
  | .table => fun _ _ => True
  | .global => fun _ _ => True
  | .function => fun _ _ => True
  | .instance_ => fun found c => ∀ entry ∈ found.exports, entry.2.Live c

theorem Kind.Closed.evolves {object new : kind.Object Host} (h : kind.Closed object c)
    (hobject : kind.Evolves object new) (hc : c.Evolves c') : kind.Closed new c' := by
  cases kind with
  | memory | table | global | function => trivial
  | instance_ =>
    obtain rfl : object = new := hobject
    exact fun entry hentry => (h entry hentry).evolves hc

namespace Compartment

/-- What holds of a compartment whose objects were made by their constructors and changed by
their operations. -/
structure Intact (c : Compartment Host) : Prop where
  sound : ∀ {kind} {handle : Handle kind} {object}, c.get? handle = some object →
    kind.Sound object
  closed : ∀ {kind} {handle : Handle kind} {object}, c.get? handle = some object →
    kind.Closed object c

theorem get?_empty (id : CompartmentId) (handle : Handle kind) :
    (empty id : Compartment Host).get? handle = none := by
  simp only [get?]
  split
  · cases kind <;> rfl
  · rfl

theorem intact_empty (id : CompartmentId) : (empty id : Compartment Host).Intact := by
  refine ⟨fun {kind handle object} h => ?_, fun {kind handle object} h => ?_⟩
  · rw [get?_empty] at h
    cases h
  · rw [get?_empty] at h
    cases h

end Compartment

/-! ## Creations -/

/-- An object that was put into a compartment, and the handle that was given for it. -/
structure Creation (Host : Type) where
  kind : Kind
  handle : Handle kind
  object : kind.Object Host

def Creation.key (x : Creation Host) : Σ kind, Handle kind := ⟨x.kind, x.handle⟩

def Entity.key : Entity → Σ kind, Handle kind
  | function handle => ⟨.function, handle⟩
  | global handle => ⟨.global, handle⟩
  | table handle => ⟨.table, handle⟩
  | memory handle => ⟨.memory, handle⟩

theorem Entity.live_of_key {entity : Entity} {x : Creation Host} {object : x.kind.Object Host}
    (hkey : entity.key = x.key) (h : c.get? x.handle = some object) : entity.Live c := by
  obtain ⟨kind, handle, first⟩ := x
  cases entity with
  | function _ | global _ | table _ | memory _ =>
    cases hkey
    simp only [Live, type?, h, Option.map_some, Option.isSome_some]

namespace Compartment

/-- The creation that putting an object in is. -/
def newly (c : Compartment Host) (kind : Kind) (object : kind.Object Host) : Creation Host :=
  ⟨kind, (c.add kind object).2, object⟩

/-- A handle that finds something after an object was put in found it before, unless it is
the handle given for that object. -/
theorem get?_add_cases {object : other.Object Host} {handle : Handle kind}
    {found : kind.Object Host} (h : (c.add other object).1.get? handle = some found) :
    c.get? handle = some found ∨ ⟨kind, handle, found⟩ = c.newly other object := by
  obtain ⟨hid, hindex⟩ := get?_eq_some_iff.mp h
  rw [id_add] at hid
  by_cases hkind : kind = other
  · subst hkind
    simp only [add, objects_withObjects, Array.getElem?_push] at hindex
    split at hindex
    · rename_i hlast
      obtain rfl := Option.some.inj hindex
      obtain ⟨compartment, index⟩ := handle
      obtain rfl : index = (c.objects kind).size := hlast
      obtain rfl : compartment = c.id := hid
      exact .inr rfl
    · exact .inl (get?_eq_some_iff.mpr ⟨hid, hindex⟩)
  · refine .inl (get?_eq_some_iff.mpr ⟨hid, ?_⟩)
    rwa [add, objects_withObjects_of_ne c hkind] at hindex

theorem count_add (c : Compartment Host) (kind other : Kind) (object : kind.Object Host) :
    (c.add kind object).1.count other = c.count other + if kind = other then 1 else 0 := by
  rw [add_eq, count_plus]
  by_cases hkind : kind = other
  · subst hkind
    cases kind <;> rfl
  · rw [if_neg hkind]
    cases kind <;> cases other <;> first | exact absurd rfl hkind | rfl

theorem not_behind_of_get? {handle : Handle kind} {object : kind.Object Host}
    (h : c.get? handle = some object) : ¬ handle.Behind c := by
  intro hbehind
  obtain ⟨-, hindex⟩ := get?_eq_some_iff.mp h
  have hlt : handle.index < c.count kind := (Array.getElem?_eq_some_iff.mp hindex).1
  exact Nat.lt_irrefl _ (Nat.lt_of_lt_of_le hlt hbehind.2)

/-! ## Growth -/

/-- Whether a compartment has come from another one by putting objects in, in their order. -/
inductive Grows : Compartment Host → List (Creation Host) → Compartment Host → Prop
  | refl (c : Compartment Host) : Grows c [] c
  | add {c c' : Compartment Host} {kind : Kind} {object : kind.Object Host}
    {rest : List (Creation Host)}
      (hsound : kind.Sound object) (hclosed : kind.Closed object c)
      (h : Grows (c.add kind object).1 rest c') : Grows c (c.newly kind object :: rest) c'

namespace Grows

variable {first rest : List (Creation Host)} {x : Creation Host}

theorem single {object : kind.Object Host} (hsound : kind.Sound object)
    (hclosed : kind.Closed object c) :
    c.Grows [c.newly kind object] (c.add kind object).1 :=
  .add hsound hclosed (.refl _)

theorem trans (h : c.Grows first c') (h' : c'.Grows rest c'') :
    c.Grows (first ++ rest) c'' := by
  induction h with
  | refl c => exact h'
  | add hsound hclosed _ ih => exact .add hsound hclosed (ih h')

theorem kept (h : c.Grows first c') : c.Extends c' := by
  induction h with
  | refl c => exact .refl c
  | add _ _ _ ih => exact (extends_add _ _ _).trans ih

theorem get? (h : c.Grows first c') (hx : x ∈ first) : c'.get? x.handle = some x.object := by
  induction h with
  | refl c => cases hx
  | @add c _ kind object rest _ _ hrest ih =>
    rcases List.mem_cons.mp hx with rfl | hx
    · exact hrest.kept.get? (get?_add_self c kind object)
    · exact ih hx

theorem behind (h : c.Grows first c') (hx : x ∈ first) : x.handle.Behind c := by
  induction h with
  | refl c => cases hx
  | @add c _ kind object rest _ _ hrest ih =>
    rcases List.mem_cons.mp hx with rfl | hx
    · exact ⟨rfl, Nat.le_refl _⟩
    · exact (ih hx).mono (extends_add c kind object)

theorem key_ne {y : Creation Host} {object : y.kind.Object Host} (h : c.Grows first c')
    (hx : x ∈ first) (hy : c.get? y.handle = some object) : x.key ≠ y.key := by
  intro hkey
  have hbehind := h.behind hx
  obtain ⟨kind, handle, _⟩ := x
  obtain ⟨kind', handle', _⟩ := y
  cases hkey
  exact not_behind_of_get? hy hbehind

theorem nodup (h : c.Grows first c') : (first.map Creation.key).Nodup := by
  induction h with
  | refl c => exact .nil
  | @add c _ kind object rest _ _ hrest ih =>
    rw [List.map_cons, List.nodup_cons]
    refine ⟨fun hmem => ?_, ih⟩
    obtain ⟨y, hy, hkey⟩ := List.mem_map.mp hmem
    exact hrest.key_ne (y := c.newly kind object) hy (get?_add_self c kind object) hkey

theorem count_eq (h : c.Grows first c') (kind : Kind) :
    c'.count kind = c.count kind + first.countP fun x => x.kind = kind := by
  induction h with
  | refl c => rfl
  | @add c c' other object rest _ _ _ ih =>
    rw [ih, count_add, List.countP_cons, newly]
    by_cases hkind : other = kind
    · simp only [hkind, if_true, decide_true]
      omega
    · simp only [hkind, if_false, decide_false, Bool.false_eq_true]
      omega

theorem intact (h : c.Grows first c') (hc : c.Intact) : c'.Intact := by
  induction h with
  | refl c => exact hc
  | @add c _ kind object rest hsound hclosed _ ih =>
    -- What was there exports what is there still, and what is new is closed by itself.
    have hevolves := (extends_add c kind object).evolves
    refine ih ⟨fun hget => ?_, fun hget => ?_⟩
    · rcases get?_add_cases hget with hold | hnew
      · exact hc.sound hold
      · cases hnew
        exact hsound
    · rcases get?_add_cases hget with hold | hnew
      · exact (hc.closed hold).evolves (.refl _) hevolves
      · cases hnew
        exact hclosed.evolves (.refl _) hevolves

end Grows
end Compartment

/-! ## Collections -/

namespace Collection

def creation (collection : Collection Host) (c : Compartment Host) (name : String) :
    Definition Host → Creation Host
  | .function type host =>
    c.newly .function { name := collection.name ++ "." ++ name, type := type, host := host }
  | .global value mutability => c.newly .global (Global.ofValue value mutability)

def creations (collection : Collection Host) :
    Compartment Host → Named (Definition Host) → List (Creation Host)
  | _, [] => []
  | c, (name, definition) :: rest =>
    collection.creation c name definition ::
      collection.creations (collection.define c name definition).1 rest

/-- The instance that instantiating a collection makes. -/
def made (collection : Collection Host) (c : Compartment Host) (name : String)
    (extra : Named Entity) :
    Instance :=
  { name := name
    «exports» := (collection.defineAll c collection.definitions).2.putAll extra }

/-- All that instantiating a collection puts in. -/
def issued (collection : Collection Host) (c : Compartment Host) (name : String)
    (extra : Named Entity) :
    List (Creation Host) :=
  collection.creations c collection.definitions ++
    [⟨.instance_, (collection.instantiate c name extra).value.2, collection.made c name extra⟩]

theorem grows_defineAll (collection : Collection Host) (c : Compartment Host)
    (definitions : Named (Definition Host)) :
    c.Grows (collection.creations c definitions) (collection.defineAll c definitions).1 := by
  induction definitions generalizing c with
  | nil => exact .refl c
  | cons first rest ih =>
    obtain ⟨name, definition⟩ := first
    have hrest := ih (collection.define c name definition).1
    cases definition with
    | function type host => exact .add trivial trivial hrest
    | global value mutability => exact .add rfl trivial hrest

theorem grows_instantiate (collection : Collection Host) (c : Compartment Host) (name : String)
    {extra : Named Entity} (hextra : ∀ entry ∈ extra, entry.2.Live c) :
    c.Grows (collection.issued c name extra) (collection.instantiate c name extra).value.1 := by
  have hdefined := collection.grows_defineAll c collection.definitions
  refine hdefined.trans (.single trivial ?_)
  -- What is exported was just defined, or was there before.
  refine Named.of_mem_putAll (P := fun entity : Entity => entity.Live _) ?_ ?_
  · exact Named.of_mem_made (P := fun entity : Entity => entity.Live _)
      (collection.makes_defineAll c collection.definitions) fun hentity => hentity.realizes.live
  · exact fun entry hentry => (hextra entry hentry).evolves hdefined.kept.evolves

end Collection

/-! ## Environments -/

namespace Environment

/-- All that making an environment puts in, which is nothing if it fails. -/
def issued (c : Compartment Host) (m : ModuleInfo) (provider : Provider Host) :
    Toolchain → List (Creation Host)
  | .standard => provider.standardEnv.issued c "env" []
  | .legacy =>
    match legacyObjects m with
    | .error _ => []
    | .ok ((_, memoryObject), (_, tableObject)) =>
      let (c₁, memory) := c.add .memory memoryObject
      let (c₂, table) := c₁.add .table tableObject
      let extra := [("memory", Entity.memory memory), ("table", .table table)]
      let c₃ := (provider.legacyEnv.instantiate c₂ "env" extra).value.1
      let c₄ := (provider.operators.instantiate c₃ "emAsm2wasm" []).value.1
      c.newly .memory memoryObject :: c₁.newly .table tableObject ::
        (provider.legacyEnv.issued c₂ "env" extra ++
          (provider.operators.issued c₃ "emAsm2wasm" [] ++
            provider.mathematics.issued c₄ "emGlobal" []))

theorem sound_of_legacyObjects {m : ModuleInfo} {memoryType : MemoryType} {tableType : TableType}
    {memory : Memory} {table : Table (Handle .function)}
    (h : legacyObjects m = .ok ((memoryType, memory), (tableType, table))) :
    memory.Backed ∧ table.Backed := by
  simp only [legacyObjects] at h
  cases hmemories : m.importedMemories with
  | nil =>
    rw [hmemories] at h
    cases h
  | cons firstMemory moreMemories =>
    cases htables : m.importedTables with
    | nil =>
      rw [hmemories, htables] at h
      cases h
    | cons firstTable moreTables =>
      simp only [hmemories, htables, bind, Except.bind, pure, Except.pure] at h
      cases hmemory : Memory.create firstMemory with
      | error error =>
        rw [hmemory] at h
        cases h
      | ok madeMemory =>
        cases htable : Table.create (α := Handle .function) firstTable with
        | error error =>
          rw [hmemory, htable] at h
          cases h
        | ok madeTable =>
          rw [hmemory, htable] at h
          cases h
          exact ⟨Memory.backed_of_create hmemory, Table.backed_of_create htable⟩

theorem grows_instantiate (c : Compartment Host) (toolchain : Toolchain) (m : ModuleInfo)
    (provider : Provider Host) :
    c.Grows (issued c m provider toolchain)
      (match (instantiate c toolchain m provider).value with
        | .ok (c, _) => c
        | .error _ => c) := by
  cases toolchain with
  | standard => exact provider.standardEnv.grows_instantiate c "env" (List.forall_mem_nil _)
  | legacy =>
    cases hobjects : legacyObjects m with
    | error error =>
      simp only [issued, instantiate, hobjects, Logged.value_pure]
      exact .refl c
    | ok objects =>
      obtain ⟨⟨memoryType, memoryObject⟩, tableType, tableObject⟩ := objects
      obtain ⟨hmemory, htable⟩ := sound_of_legacyObjects hobjects
      simp only [issued, instantiate, hobjects, Logged.value_bind, Logged.value_pure]
      refine .add hmemory trivial (.add htable trivial ?_)
      refine (provider.legacyEnv.grows_instantiate _ "env" ?_).trans
        ((provider.operators.grows_instantiate _ "emAsm2wasm" (List.forall_mem_nil _)).trans
          (provider.mathematics.grows_instantiate _ "emGlobal" (List.forall_mem_nil _)))
      -- The memory and the table are what is exported beside the collection.
      have hmemoryFound := (Compartment.extends_add (c.add .memory memoryObject).1 .table
        tableObject).get? (Compartment.get?_add_self c .memory memoryObject)
      have htableFound :=
        Compartment.get?_add_self (c.add .memory memoryObject).1 .table tableObject
      intro entry hentry
      rcases List.mem_cons.mp hentry with rfl | hentry
      · exact Entity.live_of_key (x := c.newly .memory memoryObject) rfl hmemoryFound
      · obtain rfl := List.mem_singleton.mp hentry
        exact Entity.live_of_key (x := (c.add .memory memoryObject).1.newly .table tableObject) rfl
          htableFound

end Environment
end HostLink
