/-
What can be done with a compartment.

An operation creates objects, changes one of them, calls a host function or instantiates
a collection.  One that fails, or that is given a handle which finds nothing, leaves the
compartment as it was.  There are two exceptions: a copy that brings the host down leaves
what it had committed, and a call leaves what the function left.  Operations that only
read are left out.

Every operation lets its compartment evolve, if the host functions that are called are
lawful: no object is lost, and none changes but by the operations of its own kind.
-/
import HostLink.Proofs.Host.Call
import HostLink.Proofs.Link.Environment

namespace HostLink
namespace Compartment

variable {Host : Type}

variable {kind : Kind} {ε : Type} {c : Compartment Host}

/-! ## Parts of operations -/

/-- Adds an object that may fail to be created. -/
def addCreated (c : Compartment Host) (kind : Kind) (created : Except ε (kind.Object Host)) :
    Compartment Host :=
  match created with
  | .ok object => (c.add kind object).1
  | .error _ => c

/-- Changes the object of a handle. -/
def change (c : Compartment Host) (handle : Handle kind)
    (operation : kind.Object Host → Except ε (kind.Object Host)) : Compartment Host :=
  match c.get? handle with
  | some object =>
    match operation object with
    | .ok new => c.set handle new
    | .error _ => c
  | none => c

theorem evolves_addCreated (c : Compartment Host) (kind : Kind)
    (created : Except ε (kind.Object Host)) :
    c.Evolves (c.addCreated kind created) := by
  cases created with
  | error error => exact .refl c
  | ok object => exact (extends_add c kind object).evolves

theorem evolves_change {handle : Handle kind}
    {operation : kind.Object Host → Except ε (kind.Object Host)}
    (h : ∀ object new, operation object = .ok new → kind.Evolves object new) :
    c.Evolves (c.change handle operation) := by
  unfold change
  split
  · rename_i object hobject
    split
    · rename_i new hnew
      exact evolves_set hobject (h object new hnew)
    · exact .refl c
  · exact .refl c

/-- A change by one of the results of an operation. -/
theorem evolves_change_map {α : Type} {handle : Handle kind}
    {operation : kind.Object Host → Except ε α} {result : α → kind.Object Host}
    (h : ∀ object answer, operation object = .ok answer → kind.Evolves object (result answer)) :
    c.Evolves (c.change handle fun object => (operation object).map result) := by
  refine evolves_change fun object new hnew => ?_
  cases hanswer : operation object with
  | error error =>
    rw [hanswer] at hnew
    cases hnew
  | ok answer =>
    rw [hanswer] at hnew
    cases hnew
    exact h object answer hanswer

/-! ## Operations -/

/-- An operation on a compartment, with its arguments. -/
inductive Operation (Host : Type) where
  | createMemory (type : MemoryType)
  | createTable (type : TableType)
  | createGlobal (type : GlobalType) (value : Value)
  | addGlobal (value : Value) (mutability : Mutability)
  | addFunction (f : Function Host)
  | addInstance (instance_ : Instance)
  | write (memory : Handle .memory) (offset : UInt64) (bytes : List UInt8)
  | fill (memory : Handle .memory) (offset : UInt64) (value : UInt8) (length : UInt64)
  | copyWithin (memory : Handle .memory) (source target length : UInt64)
  | grow (memory : Handle .memory) (delta : Pages)
  | setSlot (table : Handle .table) (index : UInt32) (value : Option (Handle .function))
  | growTable (table : Handle .table) (delta : UInt32)
  | setGlobal (global : Handle .global) (value : Value)
  | setErrnoLocation (location : UInt32)
  | call (function : Handle .function) (memory : Option (Handle .memory)) (arguments : List Value)
  | instantiate (collection : Collection Host) (name : String) (extra : Named Entity)
  | makeEnvironment (toolchain : Toolchain) (m : ModuleInfo) (provider : Provider Host)

/-- The compartment after an operation. -/
def perform [HostFunctions Host] (c : Compartment Host) : Operation Host → Compartment Host
  | .createMemory type => c.addCreated .memory (Memory.create type)
  | .createTable type => c.addCreated .table (Table.create type)
  | .createGlobal type value => c.addCreated .global (Global.create type value)
  | .addGlobal value mutability => (c.add .global (Global.ofValue value mutability)).1
  | .addFunction f => (c.add .function f).1
  | .addInstance instance_ => (c.add .instance_ instance_).1
  | .write memory offset bytes => c.change memory fun m => Memory.write m offset bytes
  | .fill memory offset value length => c.change memory fun m => Memory.fill m offset value length
  | .copyWithin memory source target length =>
    c.change memory fun m => (Memory.copyWithin m source target length).map Memory.Copy.memory
  | .grow memory delta => c.change memory fun m => (Memory.grow m delta).map Prod.fst
  | .setSlot table index value => c.change table fun t => Table.set t index value
  | .growTable table delta => c.change table fun t => (Table.grow t delta).map Prod.fst
  | .setGlobal global value => c.change global fun g => Global.set g value
  | .setErrnoLocation location => { c with errnoLocation := some location }
  | .call function memory arguments => (HostM.exec (Function.call function memory arguments) c).2
  | .instantiate collection name extra => (collection.instantiate c name extra).value.1
  | .makeEnvironment toolchain m provider =>
    match (Environment.instantiate c toolchain m provider).value with
    | .ok (c, _) => c
    | .error _ => c

end Compartment

namespace Environment

/-- Making an environment adds objects, and nothing if it fails. -/
theorem extends_of_instantiate {c c' : Compartment Host} {toolchain : Toolchain} {m : ModuleInfo}
    {provider : Provider Host} {environment : Environment}
    (h : (instantiate c toolchain m provider).value = .ok (c', environment)) : c.Extends c' := by
  cases toolchain with
  | standard =>
    obtain ⟨c₁, env, found, henv, hmade⟩ := instantiate_standard c m provider
    cases henv.symm.trans h
    exact hmade.kept
  | legacy =>
    cases hobjects : legacyObjects m with
    | error error =>
      simp only [instantiate, hobjects, Logged.value_pure] at h
      cases h
    | ok objects =>
      obtain ⟨⟨memoryType, memory⟩, tableType, table⟩ := objects
      obtain ⟨c₁, env, operators, mathematics, _, _, henv, hmade⟩ :=
        instantiate_legacy hobjects c provider
      cases henv.symm.trans h
      exact hmade.kept

end Environment

namespace Compartment

/-- An operation lets its compartment evolve. -/
theorem evolves_perform [LawfulHostFunctions Host] (c : Compartment Host)
    (operation : Operation Host) : c.Evolves (c.perform operation) := by
  cases operation with
  | createMemory type => exact evolves_addCreated c .memory _
  | createTable type => exact evolves_addCreated c .table _
  | createGlobal type value => exact evolves_addCreated c .global _
  | addGlobal value mutability => exact (extends_add c .global _).evolves
  | addFunction f => exact (extends_add c .function f).evolves
  | addInstance instance_ => exact (extends_add c .instance_ instance_).evolves
  | write memory offset bytes => exact evolves_change fun _ _ h => .single (.write h)
  | fill memory offset value length => exact evolves_change fun _ _ h => .single (.fill h)
  | copyWithin memory source target length =>
    refine evolves_change_map fun m copy h => ?_
    cases copy with
    | done m' => exact .single (.copy h)
    | crash m' => exact .single (.crash h)
  | grow memory delta => exact evolves_change_map fun _ _ h => .single (.grow h)
  | setSlot table index value => exact evolves_change fun _ _ h => .single (.set h)
  | growTable table delta => exact evolves_change_map fun _ _ h => .single (.grow h)
  | setGlobal global value => exact evolves_change fun _ _ h => .single (.set h)
  | setErrnoLocation location => exact ⟨rfl, fun kind i object h => ⟨object, h, .refl object⟩⟩
  | call function memory arguments =>
    exact (Function.evolving_call function memory arguments).evolves c
  | instantiate collection name extra =>
    exact (collection.extends_instantiate c name extra).evolves
  | makeEnvironment toolchain m provider =>
    simp only [perform]
    split
    · rename_i h
      exact (Environment.extends_of_instantiate h).evolves
    · exact .refl c

/-! ## Runs -/

/-- The compartment after some operations, one after the other. -/
def run [HostFunctions Host] (c : Compartment Host) (operations : List (Operation Host)) :
    Compartment Host :=
  operations.foldl perform c

theorem run_append [HostFunctions Host] (c : Compartment Host)
    (earlier later : List (Operation Host)) :
    c.run (earlier ++ later) = (c.run earlier).run later := List.foldl_append

theorem evolves_run [LawfulHostFunctions Host] (c : Compartment Host)
    (operations : List (Operation Host)) : c.Evolves (c.run operations) := by
  induction operations generalizing c with
  | nil => exact .refl c
  | cons first rest ih => exact (evolves_perform c first).trans (ih _)

end Compartment
end HostLink
