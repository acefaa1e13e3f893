/-
How compartments change.

A compartment gains objects at the end of their list, and an object changes by
operations of its own.  `Extends` says that objects were added and nothing else was
done, `Evolves` that the objects there were may have changed too, each by its own
operations.  Both are kept by the handle: what a handle finds, it finds again.

What a handle finds after a compartment evolved still satisfies the types it satisfied
before, since signatures, global types and maxima are fixed and sizes never shrink.
-/
import HostLink.Proofs.Store.Memory
import HostLink.Store.Compartment

namespace HostLink

variable {Host : Type}

/-! ## Tables and globals -/

namespace Table

variable {α : Type} {t t' : Table α}

/-- A table of the declared minimum size with no slot filled. -/
def vacant (type : TableType) : Table α :=
  { declared := type, size := type.minimum, elements := .empty }

theorem create_eq_ok {type : TableType}
    (h : ∀ maximum, type.maximum = some maximum → type.minimum ≤ maximum) :
    create (α := α) type = .ok (vacant type) := by
  simp only [create]
  split
  · rename_i maximum hmaximum
    rw [if_neg (UInt32.not_lt.mpr (h maximum hmaximum))]
    rfl
  · rfl

/-- Setting a slot changes what is stored, if anything. -/
theorem eq_stored_of_set {index : UInt32} {value : Option α} (h : t.set index value = .ok t') :
    ∃ elements, t' = { t with elements := elements } := by
  simp only [Table.set] at h
  split at h
  · split at h
    · exact ⟨_, (Except.ok.inj h).symm⟩
    · split at h <;> exact ⟨_, (Except.ok.inj h).symm⟩
  · cases h

/-- One operation of a table that changes it. -/
inductive Step {α : Type} : Table α → Table α → Prop where
  | set {t t' : Table α} {index : UInt32} {value : Option α} (h : t.set index value = .ok t') :
      Step t t'
  | grow {t t' : Table α} {delta previous : UInt32} (h : t.grow delta = .ok (t', previous)) :
      Step t t'

/-- What a table becomes by operations of its own. -/
abbrev Evolves {α : Type} : Table α → Table α → Prop := Relation.ReflTransGen Step

/-- One operation keeps the declared type and takes no slots away. -/
theorem Step.frame (h : t.Step t') : t'.declared = t.declared ∧ t.size ≤ t'.size := by
  cases h with
  | set h =>
    obtain ⟨elements, rfl⟩ := eq_stored_of_set h
    exact ⟨rfl, UInt32.le_refl _⟩
  | grow h =>
    simp only [Table.grow] at h
    split at h
    · rename_i hgrow
      cases h
      refine ⟨rfl, ?_⟩
      rw [UInt32.le_iff_toNat_le, UInt32.toNat_add, Nat.mod_eq_of_lt hgrow.1]
      exact Nat.le_add_right _ _
    · cases h

theorem Evolves.frame (h : t.Evolves t') : t'.declared = t.declared ∧ t.size ≤ t'.size := by
  induction h with
  | refl => exact ⟨rfl, UInt32.le_refl _⟩
  | tail _ hstep ih => exact ⟨hstep.frame.1.trans ih.1, UInt32.le_trans ih.2 hstep.frame.2⟩

end Table

namespace Global

variable {g g' : Global}

/-- One operation of a global that changes it. -/
inductive Step : Global → Global → Prop where
  | set {g g' : Global} {value : Value} (h : g.set value = .ok g') : Step g g'

/-- What a global becomes by operations of its own. -/
abbrev Evolves : Global → Global → Prop := Relation.ReflTransGen Step

theorem Step.type_eq (h : g.Step g') : g'.type = g.type := by
  cases h with
  | set h =>
    simp only [Global.set] at h
    split at h
    · cases h
    · split at h <;> cases h
      rfl

theorem Evolves.type_eq (h : g.Evolves g') : g'.type = g.type := by
  induction h with
  | refl => rfl
  | tail _ hstep ih => exact hstep.type_eq.trans ih

end Global

/-- What an object of a kind becomes by operations of its own.  Functions and instances
have none. -/
def Kind.Evolves : (kind : Kind) → kind.Object Host → kind.Object Host → Prop
  | .memory => Memory.Evolves
  | .table => Table.Evolves
  | .global => Global.Evolves
  | .function => Eq
  | .instance_ => Eq

namespace Kind.Evolves

theorem refl {kind : Kind} (object : kind.Object Host) : kind.Evolves object object := by
  cases kind with
  | memory => exact Relation.ReflTransGen.refl
  | table => exact Relation.ReflTransGen.refl
  | global => exact Relation.ReflTransGen.refl
  | function => rfl
  | instance_ => rfl

theorem trans {kind : Kind} {x y z : kind.Object Host} (hxy : kind.Evolves x y)
    (hyz : kind.Evolves y z) : kind.Evolves x z := by
  cases kind with
  | memory => exact Relation.ReflTransGen.trans hxy hyz
  | table => exact Relation.ReflTransGen.trans hxy hyz
  | global => exact Relation.ReflTransGen.trans hxy hyz
  | function => exact Eq.trans hxy hyz
  | instance_ => exact Eq.trans hxy hyz

end Kind.Evolves

/-! ## Adding and changing objects -/

namespace Compartment

variable {c c' : Compartment Host} {kind other : Kind}

@[simp] theorem id_withObjects (c : Compartment Host) (kind : Kind)
    (objects : Array (kind.Object Host)) :
    (c.withObjects kind objects).id = c.id := by
  cases kind <;> rfl

@[simp] theorem errnoLocation_withObjects (c : Compartment Host) (kind : Kind)
    (objects : Array (kind.Object Host)) :
    (c.withObjects kind objects).errnoLocation = c.errnoLocation := by
  cases kind <;> rfl

@[simp] theorem id_add (c : Compartment Host) (kind : Kind) (object : kind.Object Host) :
    (c.add kind object).1.id = c.id := id_withObjects c kind _

@[simp] theorem id_set (c : Compartment Host) (handle : Handle kind) (object : kind.Object Host) :
    (c.set handle object).id = c.id := by
  simp only [set]
  split
  · exact id_withObjects c kind _
  · rfl

theorem get?_eq_some_iff {handle : Handle kind} {object : kind.Object Host} :
    c.get? handle = some object ↔
      handle.compartment = c.id ∧ (c.objects kind)[handle.index]? = some object := by
  simp [get?, owns]

theorem owns_of_get? {handle : Handle kind} {object : kind.Object Host}
    (h : c.get? handle = some object) : c.owns handle = true := by
  simp [owns, (get?_eq_some_iff.mp h).1]

/-- Whether a handle carries the number of a compartment and is in range in it. -/
def Has (c : Compartment Host) (handle : Handle kind) : Prop :=
  handle.compartment = c.id ∧ handle.index < c.count kind

theorem has_iff {handle : Handle kind} : c.Has handle ↔ ∃ object, c.get? handle = some object := by
  constructor
  · rintro ⟨hid, hlt⟩
    exact ⟨_, get?_eq_some_iff.mpr ⟨hid, Array.getElem?_eq_getElem hlt⟩⟩
  · rintro ⟨object, hobject⟩
    obtain ⟨hid, hindex⟩ := get?_eq_some_iff.mp hobject
    exact ⟨hid, (Array.getElem?_eq_some_iff.mp hindex).1⟩

theorem has_of_get? {handle : Handle kind} {object : kind.Object Host}
    (h : c.get? handle = some object) : c.Has handle := has_iff.mpr ⟨object, h⟩

/-- The handle given for a new object finds it. -/
theorem get?_add_self (c : Compartment Host) (kind : Kind) (object : kind.Object Host) :
    (c.add kind object).1.get? (c.add kind object).2 = some object := by
  rw [get?_eq_some_iff]
  simp [add, count]

/-- A changed object is found by its handle. -/
theorem get?_set_self {handle : Handle kind} {object : kind.Object Host}
    (h : c.get? handle = some object) (new : kind.Object Host) :
    (c.set handle new).get? handle = some new := by
  obtain ⟨hid, hindex⟩ := get?_eq_some_iff.mp h
  have hlt : handle.index < (c.objects kind).size := (Array.getElem?_eq_some_iff.mp hindex).1
  rw [get?_eq_some_iff, id_set]
  refine ⟨hid, ?_⟩
  simp [set, owns_of_get? h, hlt]

/-- Changing an object of one kind does not show at handles of another kind. -/
theorem get?_set_of_kind_ne (h : other ≠ kind) (c : Compartment Host) (handle : Handle kind)
    (object : kind.Object Host) (handle' : Handle other) :
    (c.set handle object).get? handle' = c.get? handle' := by
  have hobjects : (c.set handle object).objects other = c.objects other := by
    simp only [set]
    split
    · exact objects_withObjects_of_ne c h _
    · rfl
  have howns : (c.set handle object).owns handle' = c.owns handle' := by
    simp only [owns, id_set]
  simp only [get?, howns, hobjects]

/-! ## Extension -/

/-- Whether a compartment has come from another one by adding objects. -/
structure Extends (c c' : Compartment Host) : Prop where
  id : c'.id = c.id
  errno : c'.errnoLocation = c.errnoLocation
  kept : ∀ (kind : Kind) (i : Nat) (object : kind.Object Host),
    (c.objects kind)[i]? = some object → (c'.objects kind)[i]? = some object

namespace Extends

theorem refl (c : Compartment Host) : c.Extends c := ⟨rfl, rfl, fun _ _ _ h => h⟩

theorem trans {c₁ c₂ c₃ : Compartment Host} (h₁ : c₁.Extends c₂) (h₂ : c₂.Extends c₃) :
    c₁.Extends c₃ :=
  ⟨h₂.id.trans h₁.id, h₂.errno.trans h₁.errno,
    fun kind i object h => h₂.kept kind i object (h₁.kept kind i object h)⟩

theorem get? (h : c.Extends c') {handle : Handle kind} {object : kind.Object Host}
    (hget : c.get? handle = some object) : c'.get? handle = some object := by
  rw [get?_eq_some_iff] at hget ⊢
  exact ⟨hget.1.trans h.id.symm, h.kept kind _ _ hget.2⟩

end Extends

theorem extends_add (c : Compartment Host) (kind : Kind) (object : kind.Object Host) :
    c.Extends (c.add kind object).1 := by
  refine ⟨id_add c kind object, errnoLocation_withObjects c kind _, ?_⟩
  intro other i old hold
  by_cases hkind : other = kind
  · subst hkind
    have hlt : i < (c.objects other).size := (Array.getElem?_eq_some_iff.mp hold).1
    simp only [add, objects_withObjects, Array.getElem?_push, if_neg (Nat.ne_of_lt hlt), hold]
  · simp only [add, objects_withObjects_of_ne c hkind, hold]

/-- Changing an object that was added keeps what there was before. -/
theorem Extends.set_added (h : c.Extends c') {handle : Handle kind}
    (hadded : c.count kind ≤ handle.index) (object : kind.Object Host) :
    c.Extends (c'.set handle object) := by
  simp only [set]
  split
  · refine ⟨(id_withObjects c' kind _).trans h.id,
      (errnoLocation_withObjects c' kind _).trans h.errno,
      fun other i old hold => ?_⟩
    by_cases hkind : other = kind
    · subst hkind
      have hlt : i < (c.objects other).size := (Array.getElem?_eq_some_iff.mp hold).1
      have hne : handle.index ≠ i := fun e => absurd hlt (by rw [← e]; exact Nat.not_lt.mpr hadded)
      rw [objects_withObjects, Array.getElem?_setIfInBounds_ne hne]
      exact h.kept other i old hold
    · rw [objects_withObjects_of_ne c' hkind]
      exact h.kept other i old hold
  · exact h

/-! ## Evolution -/

/-- Whether a compartment has come from another one by adding objects and by operations
of its objects. -/
structure Evolves (c c' : Compartment Host) : Prop where
  id : c'.id = c.id
  object : ∀ (kind : Kind) (i : Nat) (object : kind.Object Host),
    (c.objects kind)[i]? = some object →
      ∃ object', (c'.objects kind)[i]? = some object' ∧ kind.Evolves object object'

theorem Extends.evolves (h : c.Extends c') : c.Evolves c' :=
  ⟨h.id, fun kind i object hobject => ⟨object, h.kept kind i object hobject, .refl object⟩⟩

namespace Evolves

theorem refl (c : Compartment Host) : c.Evolves c := (Extends.refl c).evolves

theorem trans {c₁ c₂ c₃ : Compartment Host} (h₁ : c₁.Evolves c₂) (h₂ : c₂.Evolves c₃) :
    c₁.Evolves c₃ := by
  refine ⟨h₂.id.trans h₁.id, fun kind i object hobject => ?_⟩
  obtain ⟨object₂, hobject₂, hevolves₂⟩ := h₁.object kind i object hobject
  obtain ⟨object₃, hobject₃, hevolves₃⟩ := h₂.object kind i object₂ hobject₂
  exact ⟨object₃, hobject₃, hevolves₂.trans hevolves₃⟩

/-- What a handle finds, it finds again, changed by operations of its own only. -/
theorem get? (h : c.Evolves c') {handle : Handle kind} {object : kind.Object Host}
    (hget : c.get? handle = some object) :
    ∃ object', c'.get? handle = some object' ∧ kind.Evolves object object' := by
  obtain ⟨hid, hobject⟩ := get?_eq_some_iff.mp hget
  obtain ⟨object', hobject', hevolves⟩ := h.object kind _ _ hobject
  exact ⟨object', get?_eq_some_iff.mpr ⟨hid.trans h.id.symm, hobject'⟩, hevolves⟩

theorem count_le (h : c.Evolves c') (kind : Kind) : c.count kind ≤ c'.count kind := by
  refine Nat.le_of_not_lt fun hlt => ?_
  obtain ⟨object', hobject', -⟩ := h.object kind _ _ (Array.getElem?_eq_getElem hlt)
  exact Nat.lt_irrefl _ (Array.getElem?_eq_some_iff.mp hobject').1

end Evolves

theorem Has.evolves {handle : Handle kind} (h : c.Has handle) (hc : c.Evolves c') :
    c'.Has handle :=
  ⟨h.1.trans hc.id.symm, Nat.lt_of_lt_of_le h.2 (hc.count_le kind)⟩

theorem evolves_set {handle : Handle kind} {object new : kind.Object Host}
    (hget : c.get? handle = some object) (hnew : kind.Evolves object new) :
    c.Evolves (c.set handle new) := by
  refine ⟨id_set c handle new, fun other i old hold => ?_⟩
  obtain ⟨-, hindex⟩ := get?_eq_some_iff.mp hget
  simp only [set, if_pos (owns_of_get? hget)]
  by_cases hkind : other = kind
  · subst hkind
    rw [objects_withObjects]
    by_cases hi : handle.index = i
    · -- The object that was changed.
      subst hi
      have hlt : handle.index < (c.objects other).size := (Array.getElem?_eq_some_iff.mp hold).1
      obtain rfl : object = old := Option.some.inj (hindex.symm.trans hold)
      exact ⟨new, by simp [hlt], hnew⟩
    · exact ⟨old, by rw [Array.getElem?_setIfInBounds_ne hi, hold], .refl old⟩
  · rw [objects_withObjects_of_ne c hkind]
    exact ⟨old, hold, .refl old⟩

end Compartment

/-! ## Exported objects -/

/-- Whether a handle finds in a compartment what it found in an earlier one, changed by
operations of its own only. -/
def Handle.Continues {kind : Kind} (handle : Handle kind) (c c' : Compartment Host) : Prop :=
  ∃ object object', c.get? handle = some object ∧ c'.get? handle = some object' ∧
    kind.Evolves object object'

namespace Entity

variable {entity : Entity} {c c' : Compartment Host} {declared type : ExternType}

/-- Whether an exported object is still the one it was in an earlier compartment. -/
def Continues (entity : Entity) (c c' : Compartment Host) : Prop :=
  match entity with
  | function handle => handle.Continues c c'
  | global handle => handle.Continues c c'
  | table handle => handle.Continues c c'
  | memory handle => handle.Continues c c'

/-- Whether the object is in a compartment. -/
def Live (entity : Entity) (c : Compartment Host) : Prop := (entity.type? c).isSome

theorem Live.comesFrom (h : entity.Live c) : entity.comesFrom c = true := by
  cases entity with
  | function handle | global handle | table handle | memory handle =>
    simp only [Live, type?, Option.isSome_map] at h
    obtain ⟨object, hobject⟩ := Option.isSome_iff_exists.mp h
    simp [comesFrom, Entity.compartment, (Compartment.get?_eq_some_iff.mp hobject).1]

theorem Live.continues (h : entity.Live c) (hc : c.Evolves c') : entity.Continues c c' := by
  cases entity with
  | function handle | global handle | table handle | memory handle =>
    simp only [Live, type?, Option.isSome_map] at h
    obtain ⟨object, hobject⟩ := Option.isSome_iff_exists.mp h
    obtain ⟨object', hobject', hevolves⟩ := hc.get? hobject
    exact ⟨object, object', hobject, hobject', hevolves⟩

theorem Live.evolves (h : entity.Live c) (hc : c.Evolves c') : entity.Live c' := by
  cases entity with
  | function handle | global handle | table handle | memory handle =>
    simp only [Live, type?, Option.isSome_map] at h ⊢
    obtain ⟨object, hobject⟩ := Option.isSome_iff_exists.mp h
    obtain ⟨object', hobject', -⟩ := hc.get? hobject
    rw [hobject']
    rfl

theorem live_of_satisfies? {b : Bool} (h : entity.satisfies? c declared = some b) :
    entity.Live c := by
  simp only [satisfies?, Option.map_eq_some_iff] at h
  obtain ⟨type, htype, -⟩ := h
  simp [Live, htype]

/-- Whether a live object satisfies a declared type is decided. -/
theorem Live.satisfies?_isSome (h : entity.Live c) (declared : ExternType) :
    (entity.satisfies? c declared).isSome := by
  simpa [satisfies?, Live] using h

end Entity

/-! ## Satisfied types -/

theorem TableType.satisfies_mono {exported declared : TableType} {size size' : UInt32}
    (hsize : size ≤ size') (h : exported.satisfies declared (some size) = true) :
    exported.satisfies declared (some size') = true := by
  simp only [satisfies, Option.getD_some, Bool.and_eq_true, decide_eq_true_eq] at h ⊢
  exact ⟨⟨h.1.1, UInt32.le_trans h.1.2 hsize⟩, h.2⟩

theorem MemoryType.satisfies_mono {exported declared : MemoryType} {size size' : UInt32}
    (hsize : size ≤ size') (h : exported.satisfies declared (some size) = true) :
    exported.satisfies declared (some size') = true := by
  simp only [satisfies, Option.getD_some, Bool.and_eq_true, decide_eq_true_eq] at h ⊢
  exact ⟨⟨UInt32.le_trans h.1.1 hsize, h.1.2⟩, h.2⟩

/-- A table or memory that satisfies a type at one size does so at any larger one. -/
theorem ExternType.satisfies_mono {exported declared : ExternType} {size size' : UInt32}
    (hsize : size ≤ size') (h : exported.satisfies declared (some size) = true) :
    exported.satisfies declared (some size') = true := by
  cases exported with
  | function x => cases declared <;> exact h
  | global x => cases declared <;> exact h
  | table x =>
    cases declared with
    | table y => exact TableType.satisfies_mono hsize h
    | function y | global y | memory y => exact h
  | memory x =>
    cases declared with
    | memory y => exact MemoryType.satisfies_mono hsize h
    | function y | global y | table y => exact h

namespace Entity

variable {entity : Entity} {c c' : Compartment Host} {declared : ExternType}

theorem satisfies?_function {handle : Handle .function} {f : Function Host}
    (h : c.get? handle = some f) :
    (function handle).satisfies? c declared =
      some ((ExternType.function f.type).satisfies declared none) := by
  simp [satisfies?, type?, runtimeSize?, h]

theorem satisfies?_global {handle : Handle .global} {g : Global}
    (h : c.get? handle = some g) :
    (global handle).satisfies? c declared =
      some ((ExternType.global g.type).satisfies declared none) := by
  simp [satisfies?, type?, runtimeSize?, h]

/-- What a table satisfies depends on its declared type and its current size. -/
theorem satisfies?_table {handle : Handle .table} {t : Table (Handle .function)}
    (h : c.get? handle = some t) :
    (table handle).satisfies? c declared =
      some ((ExternType.table t.declared).satisfies declared (some t.size)) := by
  simp only [satisfies?, type?, runtimeSize?, h, Option.map_some]
  cases declared <;> rfl

theorem satisfies?_memory {handle : Handle .memory} {m : Memory}
    (h : c.get? handle = some m) :
    (memory handle).satisfies? c declared =
      some ((ExternType.memory m.declared).satisfies declared (some m.size.count)) := by
  simp only [satisfies?, type?, runtimeSize?, h, Option.map_some]
  cases declared <;> rfl

/-- An object that satisfies a type satisfies it for good. -/
theorem satisfies?_evolves (h : entity.satisfies? c declared = some true)
    (hc : c.Evolves c') : entity.satisfies? c' declared = some true := by
  have hlive : entity.Live c := live_of_satisfies? h
  cases entity with
  | function handle =>
    obtain ⟨f, f', hf, hf', rfl⟩ := hlive.continues hc
    rw [satisfies?_function hf] at h
    rw [satisfies?_function hf', h]
  | global handle =>
    obtain ⟨g, g', hg, hg', hevolves⟩ := hlive.continues hc
    rw [satisfies?_global hg] at h
    rw [satisfies?_global hg', Global.Evolves.type_eq hevolves, h]
  | table handle =>
    obtain ⟨t, t', ht, ht', hevolves⟩ := hlive.continues hc
    obtain ⟨hdeclared, hsize⟩ := Table.Evolves.frame hevolves
    rw [satisfies?_table ht, Option.some.injEq] at h
    rw [satisfies?_table ht', hdeclared, ExternType.satisfies_mono hsize h]
  | memory handle =>
    obtain ⟨m, m', hm, hm', hevolves⟩ := hlive.continues hc
    obtain ⟨hdeclared, hsize⟩ := Memory.Evolves.frame hevolves
    rw [satisfies?_memory hm, Option.some.injEq] at h
    rw [satisfies?_memory hm', hdeclared, ExternType.satisfies_mono hsize h]

end Entity
end HostLink
