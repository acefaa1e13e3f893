/-
What holds of a compartment after any operations.

`Performed` says what one operation can do: put objects in, change the object of one handle by
operations of its own, or note where an error number is kept.  It is read off the operations
once.  From it follows, step by step, what a run leaves: every handle that was given finds the
object it was given for, which only the operations on that handle have changed; no handle was
given twice; the counts are those of the objects put in; and the compartment is intact.

A run is `Feasible` if its writes take their bytes from slices and if what an instance exports
was put in before it.
-/
import HostLink.Proofs.Host.Footprint
import HostLink.Proofs.World.Creation
import HostLink.Proofs.World.Operation
import Mathlib.Data.List.Induction

namespace HostLink
namespace Compartment

variable {c c' : Compartment HostOp} {kind other : Kind} {ε : Type}

/-! ## What an operation does -/

/-- The handle whose object an operation changes, if it changes one. -/
def Operation.target? : Operation HostOp → Option (Σ kind, Handle kind)
  | .write memory _ _ | .fill memory _ _ _ | .copyWithin memory _ _ _ | .grow memory _ =>
    some ⟨.memory, memory⟩
  | .setSlot table _ _ | .growTable table _ => some ⟨.table, table⟩
  | .setGlobal global _ => some ⟨.global, global⟩
  | .call _ memory _ => memory.map fun memory => ⟨.memory, memory⟩
  | _ => none

/-- The objects an operation is given to be exported by a new instance. -/
def Operation.handedOver : Operation HostOp → List Entity
  | .addInstance instance_ => instance_.exports.map Prod.snd
  | .instantiate _ _ extra => extra.map Prod.snd
  | _ => []

/-- Whether the bytes an operation writes fit in a slice. -/
def Operation.Short : Operation HostOp → Prop
  | .write _ _ bytes => bytes.length < UInt64.size
  | _ => True

def createdBy (c : Compartment HostOp) (kind : Kind) :
    Except ε (kind.Object HostOp) → List (Creation HostOp)
  | .ok object => [c.newly kind object]
  | .error _ => []

/-- The objects an operation puts in, with the handles it gives for them. -/
def created (c : Compartment HostOp) : Operation HostOp → List (Creation HostOp)
  | .createMemory type => c.createdBy .memory (Memory.create type)
  | .createTable type => c.createdBy .table (Table.create type)
  | .createGlobal type value => c.createdBy .global (Global.create type value)
  | .addGlobal value mutability => [c.newly .global (Global.ofValue value mutability)]
  | .addFunction f => [c.newly .function f]
  | .addInstance instance_ => [c.newly .instance_ instance_]
  | .instantiate collection name extra => collection.issued c name extra
  | .makeEnvironment toolchain m provider => Environment.issued c m provider toolchain
  | _ => []

/-- What an operation can do to a compartment. -/
inductive Performed (c : Compartment HostOp) (operation : Operation HostOp) :
    Compartment HostOp → Prop
  | grown {c' : Compartment HostOp} (h : c.Grows (c.created operation) c') :
    Performed c operation c'
  | changed {kind : Kind} {handle : Handle kind} {object new : kind.Object HostOp}
      (hcreated : c.created operation = []) (htarget : operation.target? = some ⟨kind, handle⟩)
      (hget : c.get? handle = some object) (hadvances : kind.Advances HostOp object new) :
      Performed c operation (c.set handle new)
  | noted {location : UInt32} (hcreated : c.created operation = []) :
      Performed c operation { c with errnoLocation := some location }

variable {operation : Operation HostOp}

theorem performed_self (hcreated : c.created operation = []) : c.Performed operation c :=
  .grown (hcreated ▸ .refl c)

theorem grows_addCreated {created : Except ε (kind.Object HostOp)}
    (hsound : ∀ object, created = .ok object → kind.Sound object)
    (hclosed : ∀ object, kind.Closed object c) :
    c.Grows (c.createdBy kind created) (c.addCreated kind created) := by
  cases created with
  | error error => exact .refl c
  | ok object => exact .single (hsound object rfl) (hclosed object)

theorem performed_change {handle : Handle kind}
    {change : kind.Object HostOp → Except ε (kind.Object HostOp)}
    (hcreated : c.created operation = []) (htarget : operation.target? = some ⟨kind, handle⟩)
    (hchange : ∀ object new, change object = .ok new → kind.Advances HostOp object new) :
    c.Performed operation (c.change handle change) := by
  unfold Compartment.change
  split
  · rename_i object hobject
    split
    · rename_i new hnew
      exact .changed hcreated htarget hobject (hchange object new hnew)
    · exact performed_self hcreated
  · exact performed_self hcreated

theorem performed_change_map {α : Type} {handle : Handle kind}
    {change : kind.Object HostOp → Except ε α} {result : α → kind.Object HostOp}
    (hcreated : c.created operation = []) (htarget : operation.target? = some ⟨kind, handle⟩)
    (hchange : ∀ object answer, change object = .ok answer →
      kind.Advances HostOp object (result answer)) :
    c.Performed operation (c.change handle fun object => (change object).map result) := by
  refine performed_change hcreated htarget fun object new hnew => ?_
  cases hanswer : change object with
  | error error =>
    rw [hanswer] at hnew
    cases hnew
  | ok answer =>
    rw [hanswer] at hnew
    obtain rfl := Except.ok.inj hnew
    exact hchange object answer hanswer

/-- What every operation does, given a slice to write and objects of the compartment to be
exported. -/
theorem performed (hshort : operation.Short)
    (hlive : ∀ entity ∈ operation.handedOver, entity.Live c) :
    c.Performed operation (c.perform operation) := by
  cases operation with
  | createMemory type =>
    exact .grown (grows_addCreated (fun _ h => Memory.backed_of_create h) fun _ => trivial)
  | createTable type =>
    exact .grown (grows_addCreated (fun _ h => Table.backed_of_create h) fun _ => trivial)
  | createGlobal type value =>
    exact .grown (grows_addCreated (fun _ h => Global.typed_of_create h) fun _ => trivial)
  | addGlobal value mutability => exact .grown (.single rfl trivial)
  | addFunction f => exact .grown (.single trivial trivial)
  | addInstance instance_ =>
    refine .grown (.single trivial fun entry hentry => hlive entry.2 ?_)
    exact List.mem_map_of_mem hentry
  | write memory offset bytes =>
    exact performed_change rfl rfl fun _ _ h => Memory.advances_write hshort h
  | fill memory offset value length =>
    exact performed_change rfl rfl fun _ _ h => Memory.advances_fill h
  | copyWithin memory source target length =>
    exact performed_change_map rfl rfl fun _ _ h => Memory.advances_copyWithin h
  | grow memory delta => exact performed_change_map rfl rfl fun _ _ h => Memory.advances_grow h
  | setSlot table index value => exact performed_change rfl rfl fun _ _ h => Table.advances_set h
  | growTable table delta => exact performed_change_map rfl rfl fun _ _ h => Table.advances_grow h
  | setGlobal global value => exact performed_change rfl rfl fun _ _ h => Global.advances_set h
  | setErrnoLocation location => exact .noted rfl
  | call function memory arguments =>
    have htouches := Function.touches_call c function memory arguments
    simp only [perform]
    generalize (HostM.exec (Function.call function memory arguments) c).2 = c' at htouches ⊢
    cases htouches with
    | untouched => exact performed_self rfl
    | touched hmemory hget hadvances =>
      subst hmemory
      exact .changed rfl rfl hget hadvances
  | instantiate collection name extra =>
    refine .grown (collection.grows_instantiate c name fun entry hentry => hlive entry.2 ?_)
    exact List.mem_map_of_mem hentry
  | makeEnvironment toolchain m provider =>
    exact .grown (Environment.grows_instantiate c toolchain m provider)

/-! ## What an operation keeps -/

theorem get?_set_of_key_ne {handle : Handle kind} {changed : Handle other}
    (hne : (⟨kind, handle⟩ : Σ kind, Handle kind) ≠ ⟨other, changed⟩) (c : Compartment HostOp)
    (object : other.Object HostOp) : (c.set changed object).get? handle = c.get? handle := by
  have howns : (c.set changed object).owns handle = c.owns handle := by
    simp only [owns, id_set]
  by_cases hkind : kind = other
  · subst hkind
    by_cases hchanged : c.owns changed = true
    · by_cases hhandle : c.owns handle = true
      · -- Two handles of one compartment and one kind differ in their place.
        have hindex : changed.index ≠ handle.index := by
          intro hindex
          have hid : changed.compartment = handle.compartment :=
            (eq_of_beq hchanged).trans (eq_of_beq hhandle).symm
          have hsame : changed = handle := by
            cases changed
            cases handle
            exact congrArg₂ Handle.mk hid hindex
          exact hne (hsame ▸ rfl)
        have hobjects : ((c.set changed object).objects kind)[handle.index]? =
            (c.objects kind)[handle.index]? := by
          rw [set, if_pos hchanged, objects_withObjects, Array.getElem?_setIfInBounds_ne hindex]
        rw [get?, get?, howns, hobjects]
      · rw [get?, get?, howns, if_neg hhandle, if_neg hhandle]
    · -- A handle of another compartment changes nothing.
      rw [set, if_neg hchanged]
  · exact get?_set_of_kind_ne hkind c changed object handle

/-- A handle that finds something after an object was changed found it before, unless it is
the handle of that object. -/
theorem get?_set_cases {changed : Handle other} {object new : other.Object HostOp}
    {handle : Handle kind} {found : kind.Object HostOp} (hget : c.get? changed = some object)
    (h : (c.set changed new).get? handle = some found) :
    c.get? handle = some found ∨ (⟨kind, handle, found⟩ : Creation HostOp) =
    ⟨other, changed, new⟩ := by
  by_cases hkey : (⟨kind, handle⟩ : Σ kind, Handle kind) = ⟨other, changed⟩
  · cases hkey
    rw [get?_set_self hget] at h
    obtain rfl := Option.some.inj h
    exact .inr rfl
  · rw [get?_set_of_key_ne hkey] at h
    exact .inl h

theorem count_set (c : Compartment HostOp) (handle : Handle other) (object : other.Object HostOp)
    (kind : Kind) : (c.set handle object).count kind = c.count kind := by
  simp only [count, set]
  split
  · by_cases hkind : kind = other
    · subst hkind
      rw [objects_withObjects, Array.size_setIfInBounds]
    · rw [objects_withObjects_of_ne c hkind]
  · rfl

theorem get?_note (c : Compartment HostOp) (location : UInt32) (handle : Handle kind) :
    get? { c with errnoLocation := some location } handle = c.get? handle := by
  cases kind <;> rfl

namespace Performed

theorem get?_of_target_ne {handle : Handle kind} {object : kind.Object HostOp}
    (h : c.Performed operation c') (htarget : operation.target? ≠ some ⟨kind, handle⟩)
    (hget : c.get? handle = some object) : c'.get? handle = some object := by
  cases h with
  | grown h => exact h.kept.get? hget
  | @changed other changed _ new _ htarget' _ _ =>
    have hne : (⟨kind, handle⟩ : Σ kind, Handle kind) ≠ ⟨other, changed⟩ := by
      intro hkey
      rw [hkey] at htarget
      exact htarget htarget'
    rwa [get?_set_of_key_ne hne]
  | noted _ => rwa [get?_note]

variable {x : Creation HostOp}

theorem get?_created (h : c.Performed operation c') (hx : x ∈ c.created operation) :
    c'.get? x.handle = some x.object := by
  cases h with
  | grown h => exact h.get? hx
  | changed hcreated _ _ _ | noted hcreated =>
    rw [hcreated] at hx
    cases hx

theorem nodup (h : c.Performed operation c') :
    ((c.created operation).map Creation.key).Nodup := by
  cases h with
  | grown h => exact h.nodup
  | changed hcreated _ _ _ | noted hcreated =>
    rw [hcreated]
    exact .nil

theorem key_ne {y : Creation HostOp} {object : y.kind.Object HostOp} (h : c.Performed operation c')
    (hx : x ∈ c.created operation) (hy : c.get? y.handle = some object) : x.key ≠ y.key := by
  cases h with
  | grown h => exact h.key_ne hx hy
  | changed hcreated _ _ _ | noted hcreated =>
    rw [hcreated] at hx
    cases hx

theorem count_eq (h : c.Performed operation c') (kind : Kind) :
    c'.count kind = c.count kind + (c.created operation).countP fun x => x.kind = kind := by
  cases h with
  | grown h => exact h.count_eq kind
  | changed hcreated _ _ _ =>
    rw [hcreated, count_set]
    rfl
  | noted hcreated =>
    rw [hcreated]
    cases kind <;> rfl

theorem intact (h : c.Performed operation c') (hevolves : c.Evolves c') (hc : c.Intact) :
    c'.Intact := by
  cases h with
  | grown h => exact h.intact hc
  | @changed kind handle object new _ _ hget hadvances =>
    refine ⟨fun hfound => ?_, fun hfound => ?_⟩
    · rcases get?_set_cases hget hfound with hold | hnew
      · exact hc.sound hold
      · cases hnew
        exact hadvances.sound (hc.sound hget)
    · rcases get?_set_cases hget hfound with hold | hnew
      · exact (hc.closed hold).evolves (.refl _) hevolves
      · cases hnew
        exact (hc.closed hget).evolves hadvances.evolves hevolves
  | noted _ =>
    refine ⟨fun hfound => ?_, fun hfound => ?_⟩
    · rw [get?_note] at hfound
      exact hc.sound hfound
    · rw [get?_note] at hfound
      exact (hc.closed hfound).evolves (.refl _) hevolves

end Performed

/-! ## Feasible runs -/

variable {operations earlier later : List (Operation HostOp)} {x : Creation HostOp}

/-- The objects that some operations put in, in their order. -/
def creations : Compartment HostOp → List (Operation HostOp) → List (Creation HostOp)
  | _, [] => []
  | c, first :: rest => c.created first ++ creations (c.perform first) rest

theorem creations_append (c : Compartment HostOp) (earlier later : List (Operation HostOp)) :
    c.creations (earlier ++ later) = c.creations earlier ++ (c.run earlier).creations later := by
  induction earlier generalizing c with
  | nil => rfl
  | cons first rest ih =>
    have hrest := ih (c.perform first)
    simp only [List.cons_append, creations, hrest, List.append_assoc]
    rfl

theorem creations_concat (c : Compartment HostOp) (earlier : List (Operation HostOp))
    (operation : Operation HostOp) :
    c.creations (earlier ++ [operation]) =
      c.creations earlier ++ (c.run earlier).created operation := by
  rw [creations_append]
  simp only [creations, List.append_nil]

theorem exists_of_mem_creations (hx : x ∈ c.creations operations) :
    ∃ earlier operation later, operations = earlier ++ operation :: later ∧
      x ∈ (c.run earlier).created operation := by
  induction operations generalizing c with
  | nil => cases hx
  | cons first rest ih =>
    rcases List.mem_append.mp hx with hx | hx
    · exact ⟨[], first, rest, rfl, hx⟩
    · obtain ⟨earlier, operation, later, rfl, hcreated⟩ := ih hx
      exact ⟨first :: earlier, operation, later, rfl, hcreated⟩

/-- Whether operations can be had in this order: what is written fits in a slice, and what is
exported was put in before. -/
def Feasible (c : Compartment HostOp) (operations : List (Operation HostOp)) : Prop :=
  ∀ earlier operation later, operations = earlier ++ operation :: later →
    operation.Short ∧
      ∀ entity ∈ operation.handedOver, entity.key ∈ (c.creations earlier).map Creation.key

theorem Feasible.of_append (h : c.Feasible (earlier ++ later)) : c.Feasible earlier := by
  intro first operation rest heq
  refine h first operation (rest ++ later) ?_
  rw [heq, List.append_assoc]
  rfl

theorem feasible_nil (c : Compartment HostOp) : c.Feasible [] := by
  intro earlier operation later heq
  exact absurd heq.symm (List.append_ne_nil_of_right_ne_nil earlier (List.cons_ne_nil _ _))

theorem Feasible.concat (h : c.Feasible earlier) (hshort : operation.Short)
    (hissued : ∀ entity ∈ operation.handedOver,
      entity.key ∈ (c.creations earlier).map Creation.key) :
    c.Feasible (earlier ++ [operation]) := by
  intro first other rest heq
  rcases List.eq_nil_or_concat rest with rfl | ⟨between, last, rfl⟩
  · obtain ⟨rfl, hlast⟩ := List.append_inj' heq rfl
    obtain rfl : operation = other := List.singleton_inj.mp hlast
    exact ⟨hshort, hissued⟩
  · rw [List.concat_eq_append, ← List.cons_append, ← List.append_assoc] at heq
    exact h first other between (List.append_inj' heq rfl).1

theorem performed_next (h : c.Feasible (earlier ++ [operation]))
    (hfound : ∀ x ∈ c.creations earlier, ∃ object, (c.run earlier).get? x.handle = some object) :
    (c.run earlier).Performed operation (c.run (earlier ++ [operation])) := by
  obtain ⟨hshort, hissued⟩ := h earlier operation [] rfl
  rw [run_append]
  refine performed hshort fun entity hentity => ?_
  obtain ⟨x, hx, hkey⟩ := List.mem_map.mp (hissued entity hentity)
  obtain ⟨object, hobject⟩ := hfound x hx
  exact Entity.live_of_key hkey.symm hobject

theorem found_of_mem_creations (h : c.Feasible operations) (hx : x ∈ c.creations operations) :
    ∃ object, (c.run operations).get? x.handle = some object := by
  -- What is handed over to the last operation was given before, so the earlier operations say
  -- that it is there, and the last one does what operations do.
  induction operations using List.reverseRecOn generalizing x with
  | nil => cases hx
  | append_singleton earlier operation ih =>
    rw [creations_concat, List.mem_append] at hx
    have hperformed := performed_next h fun _ hy => ih h.of_append hy
    rcases hx with hx | hx
    · obtain ⟨object, hobject⟩ := ih h.of_append hx
      have hevolves := evolves_run (c.run earlier) [operation]
      rw [← run_append] at hevolves
      obtain ⟨object', hobject', -⟩ := hevolves.get? hobject
      exact ⟨object', hobject'⟩
    · exact ⟨x.object, hperformed.get?_created hx⟩

theorem Feasible.performed (h : c.Feasible (earlier ++ [operation])) :
    (c.run earlier).Performed operation (c.run (earlier ++ [operation])) :=
  performed_next h fun _ hx => found_of_mem_creations h.of_append hx

/-- What every operation of a feasible run keeps holds after it. -/
theorem feasible_induction {P : List (Operation HostOp) → Prop} (hnil : P [])
    (hstep : ∀ {earlier operation}, c.Feasible earlier →
      (c.run earlier).Performed operation (c.run (earlier ++ [operation])) →
        P earlier → P (earlier ++ [operation]))
    (h : c.Feasible operations) : P operations := by
  induction operations using List.reverseRecOn with
  | nil => exact hnil
  | append_singleton earlier operation ih => exact hstep h.of_append h.performed (ih h.of_append)

/-! ## Facts about feasible runs -/

/-- An object goes on, and stays as it is if no operation is one on its handle. -/
theorem Feasible.lasts {handle : Handle kind} {object : kind.Object HostOp}
    (h : c.Feasible (earlier ++ later)) (hget : (c.run earlier).get? handle = some object) :
    ∃ object', (c.run (earlier ++ later)).get? handle = some object' ∧
      kind.Evolves object object' ∧
      ((∀ operation ∈ later, operation.target? ≠ some ⟨kind, handle⟩) → object' = object) := by
  have hevolves := evolves_run (c.run earlier) later
  rw [← run_append] at hevolves
  obtain ⟨object', hobject', hobjects⟩ := hevolves.get? hget
  refine ⟨object', hobject', hobjects, fun htargets => ?_⟩
  have hkept : (c.run (earlier ++ later)).get? handle = some object := by
    clear hevolves hobject' hobjects
    -- Each operation in turn is not one on the handle.
    induction later using List.reverseRecOn with
    | nil => rwa [List.append_nil]
    | append_singleton between operation ih =>
      rw [← List.append_assoc] at h ⊢
      refine h.performed.get?_of_target_ne (htargets operation (by simp)) ?_
      exact ih h.of_append fun other hother => htargets other (List.mem_append_left _ hother)
  exact Option.some.inj (hobject'.symm.trans hkept)

theorem Feasible.nodup (h : c.Feasible operations) :
    ((c.creations operations).map Creation.key).Nodup := by
  refine feasible_induction (P := fun operations =>
    ((c.creations operations).map Creation.key).Nodup) .nil ?_ h
  intro earlier operation hfeasible hperformed hnodup
  rw [creations_concat, List.map_append, List.nodup_append]
  refine ⟨hnodup, hperformed.nodup, ?_⟩
  intro key hkey key' hkey' heq
  obtain ⟨y, hy, rfl⟩ := List.mem_map.mp hkey
  obtain ⟨x, hx, rfl⟩ := List.mem_map.mp hkey'
  obtain ⟨object, hobject⟩ := found_of_mem_creations hfeasible hy
  exact hperformed.key_ne hx hobject heq.symm

theorem Feasible.count_eq (h : c.Feasible operations) (kind : Kind) :
    (c.run operations).count kind =
      c.count kind + (c.creations operations).countP fun x => x.kind = kind := by
  refine feasible_induction (P := fun operations => (c.run operations).count kind =
    c.count kind + (c.creations operations).countP fun x => x.kind = kind) rfl ?_ h
  intro earlier operation _ hperformed hcount
  rw [creations_concat, List.countP_append, hperformed.count_eq, hcount, Nat.add_assoc]

theorem Feasible.intact (h : c.Feasible operations) (hc : c.Intact) :
    (c.run operations).Intact := by
  refine feasible_induction (P := fun operations => (c.run operations).Intact) hc ?_ h
  intro earlier operation _ hperformed hintact
  have hevolves := evolves_run (c.run earlier) [operation]
  rw [← run_append] at hevolves
  exact hperformed.intact hevolves hintact

/-! ## The representation invariant -/

/-- What holds of a compartment after operations on an empty one. -/
structure Represented (id : CompartmentId) (operations : List (Operation HostOp)) : Prop where
  /-- Every handle that was given finds the object it was given for, changed by operations of its
  own, and only if there were any on that handle. -/
  found : ∀ earlier operation later, operations = earlier ++ operation :: later →
    ∀ x ∈ ((empty id).run earlier).created operation, ∃ object,
      ((empty id).run operations).get? x.handle = some object ∧
        x.kind.Evolves x.object object ∧
        ((∀ other ∈ later, other.target? ≠ some x.key) → object = x.object)
  /-- No handle was given twice. -/
  distinct : (((empty id).creations operations).map Creation.key).Nodup
  /-- There are as many objects of a kind as were put in. -/
  counted : ∀ kind, ((empty id).run operations).count kind =
    ((empty id).creations operations).countP fun x => x.kind = kind
  /-- There never were more. -/
  growing : ∀ earlier later, operations = earlier ++ later → ∀ kind,
    ((empty id).run earlier).count kind ≤ ((empty id).run operations).count kind
  /-- A constant global has its first value. -/
  constant : ∀ (handle : Handle .global) (g : Global),
    ⟨.global, handle, g⟩ ∈ (empty id).creations operations → g.type.mutability = .constant →
      ((empty id).run operations).get? handle = some g
  /-- A global has a value of its type. -/
  typed : ∀ (handle : Handle .global) (g : Global),
    ((empty id).run operations).get? handle = some g → g.value.type = g.type.content
  /-- A memory keeps to its limits, and what backs it lies in its size. -/
  memories : ∀ (handle : Handle .memory) (m : Memory),
    ((empty id).run operations).get? handle = some m → m.Backed
  /-- So does a table. -/
  tables : ∀ (handle : Handle .table) (t : Table (Handle .function)),
    ((empty id).run operations).get? handle = some t → t.Backed
  /-- What an instance exports is in the compartment and has a type. -/
  «exports» : ∀ (handle : Handle .instance_) (found : Instance),
    ((empty id).run operations).get? handle = some found → ∀ entry ∈ found.exports,
      entry.2.comesFrom ((empty id).run operations) = true ∧
        (entry.2.type? ((empty id).run operations)).isSome

theorem Feasible.found (h : c.Feasible operations)
    (heq : operations = earlier ++ operation :: later)
    (hx : x ∈ (c.run earlier).created operation) :
    ∃ object, (c.run operations).get? x.handle = some object ∧
      x.kind.Evolves x.object object ∧
      ((∀ other ∈ later, other.target? ≠ some x.key) → object = x.object) := by
  rw [List.append_cons] at heq
  subst heq
  exact h.lasts (h.of_append.performed.get?_created hx)

theorem Feasible.constant {handle : Handle .global} {g : Global} (h : c.Feasible operations)
    (hg : ⟨.global, handle, g⟩ ∈ c.creations operations)
    (hconstant : g.type.mutability = .constant) : (c.run operations).get? handle = some g := by
  obtain ⟨earlier, operation, later, heq, hcreated⟩ := exists_of_mem_creations hg
  obtain ⟨g', hg', hevolves, -⟩ := h.found heq hcreated
  have hsame : g' = g := Global.Evolves.eq_of_constant hevolves hconstant
  rw [← hsame]
  exact hg'

/-- A compartment represents what was put into it, after any feasible run. -/
theorem representation {id : CompartmentId} (h : (empty id).Feasible operations) :
    Represented id operations := by
  have hintact := h.intact (intact_empty id)
  refine
    { found := fun earlier operation later heq x hx => h.found heq hx
      distinct := h.nodup
      counted := fun kind => ?_
      growing := fun earlier later heq kind => ?_
      constant := fun handle g hg hconstant => h.constant hg hconstant
      typed := fun _ _ hget => hintact.sound hget
      memories := fun _ _ hget => hintact.sound hget
      tables := fun _ _ hget => hintact.sound hget
      «exports» := fun handle found hget entry hentry => ?_ }
  · have hempty : (empty id : Compartment HostOp).count kind = 0 := by
      cases kind <;> rfl
    rw [h.count_eq, hempty, Nat.zero_add]
  · rw [heq, run_append]
    exact (evolves_run _ later).count_le kind
  · have hlive : entry.2.Live ((empty id).run operations) := hintact.closed hget entry hentry
    exact ⟨hlive.comesFrom, hlive⟩

/-- A memory is exported by the instance of a collection, brings the host down by a copy, and
grows. -/
def session : List (Operation HostOp) :=
  [.createMemory ⟨1, some 2, false⟩,
    .instantiate .standardEnv "env" [("memory", .memory ⟨⟨0⟩, 0⟩)],
    .copyWithin ⟨⟨0⟩, 0⟩ 8 0 4, .grow ⟨⟨0⟩, 0⟩ 1]

/-- Its first handle finds the memory that was created, within its limits, and what the
instance exports is there. -/
theorem representation_session :
    (∃ m : Memory, ((empty ⟨0⟩).run session).get? (⟨⟨0⟩, 0⟩ : Handle .memory) = some m ∧
      Memory.Evolves (.zeroed ⟨1, some 2, false⟩) m ∧ m.Backed ∧ m.size = 2) ∧
    ∃ found : Instance,
      ((empty ⟨0⟩).run session).get? (⟨⟨0⟩, 0⟩ : Handle .instance_) = some found ∧
        found.exports.length = 5 ∧
        ∀ entry ∈ found.exports, (entry.2.type? ((empty ⟨0⟩).run session)).isSome := by
  have hcreated : (empty ⟨0⟩).Feasible (session.take 1) :=
    (feasible_nil _).concat trivial (List.forall_mem_nil _)
  have hinstantiated : (empty ⟨0⟩).Feasible (session.take 2) := by
    refine hcreated.concat trivial fun entity hentity => ?_
    obtain rfl := List.mem_singleton.mp hentity
    exact List.mem_singleton.mpr rfl
  have hcopied : (empty ⟨0⟩).Feasible (session.take 3) :=
    hinstantiated.concat trivial (List.forall_mem_nil _)
  have hfeasible : (empty ⟨0⟩).Feasible session :=
    hcopied.concat trivial (List.forall_mem_nil _)
  have hrepresented := representation hfeasible
  constructor
  · obtain ⟨m, hm, hevolves, -⟩ := hrepresented.found [] _ _ rfl
      ((empty ⟨0⟩).newly .memory (.zeroed ⟨1, some 2, false⟩)) (List.mem_singleton.mpr rfl)
    have hsize : (((empty ⟨0⟩).run session).get? (⟨⟨0⟩, 0⟩ : Handle .memory)).map
        Memory.size = some 2 := by
      decide +kernel
    have hm' : ((empty ⟨0⟩).run session).get? (⟨⟨0⟩, 0⟩ : Handle .memory) = some m := hm
    rw [hm'] at hsize
    exact ⟨m, hm', hevolves, hrepresented.memories _ m hm', Option.some.inj hsize⟩
  · have hlength : (((empty ⟨0⟩).run session).get? (⟨⟨0⟩, 0⟩ : Handle .instance_)).map
        (fun found => found.exports.length) = some 5 := by
      decide +kernel
    obtain ⟨found, hfound, hfive⟩ := Option.map_eq_some_iff.mp hlength
    exact ⟨found, hfound, hfive, fun entry hentry =>
      (hrepresented.exports _ found hfound entry hentry).2⟩

end Compartment
end HostLink
