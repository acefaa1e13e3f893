/-
Compartments.

A compartment owns the objects of one linking session in one array for each kind.
Objects are added at the end and never removed, so a handle stays good.  Looking up
a handle of another compartment finds nothing; whoever relies on finding something
crashes then.
-/
import HostLink.Named
import HostLink.Store.Global
import HostLink.Store.Handle
import HostLink.Store.Memory
import HostLink.Store.Table
import HostLink.Text.Quoted

namespace HostLink

variable {Host : Type}

/-- A function of the host, with a signature it is called under.  What stands for its
behaviour is left open. -/
structure Function (Host : Type) where
  name : String
  type : FunctionType
  host : Host
  deriving DecidableEq, Repr

def Function.describe (f : Function Host) : String :=
  "VMFunction \x7b name: " ++ quoted f.name ++ ", ty: " ++ f.type.describe ++ ", .. \x7d"

/-- A set of exported objects under a name. -/
structure Instance where
  name : String
  «exports» : Named Entity
  deriving DecidableEq, Repr

abbrev Kind.Object (Host : Type) : Kind → Type
  | .memory => Memory
  | .table => Table (Handle .function)
  | .global => Global
  | .function => Function Host
  | .instance_ => Instance

structure Compartment (Host : Type) where
  id : CompartmentId
  memories : Array Memory := #[]
  tables : Array (Table (Handle .function)) := #[]
  globals : Array Global := #[]
  functions : Array (Function Host) := #[]
  instances : Array Instance := #[]
  /-- The address at which a legacy module keeps its error number, once known. -/
  errnoLocation : Option UInt32 := none

namespace Compartment

def objects (c : Compartment Host) : (kind : Kind) → Array (kind.Object Host)
  | .memory => c.memories
  | .table => c.tables
  | .global => c.globals
  | .function => c.functions
  | .instance_ => c.instances

def withObjects (c : Compartment Host) :
    (kind : Kind) → Array (kind.Object Host) → Compartment Host
  | .memory, memories => { c with memories := memories }
  | .table, tables => { c with tables := tables }
  | .global, globals => { c with globals := globals }
  | .function, functions => { c with functions := functions }
  | .instance_, instances => { c with instances := instances }

@[simp] theorem objects_withObjects (c : Compartment Host) (kind : Kind)
    (new : Array (kind.Object Host)) : (c.withObjects kind new).objects kind = new := by
  cases kind <;> rfl

theorem objects_withObjects_of_ne (c : Compartment Host) {kind other : Kind} (h : other ≠ kind)
    (new : Array (kind.Object Host)) :
    (c.withObjects kind new).objects other = c.objects other := by
  cases kind <;> cases other <;> simp_all [objects, withObjects]

def count (c : Compartment Host) (kind : Kind) : Nat := (c.objects kind).size

def add (c : Compartment Host) (kind : Kind) (object : kind.Object Host) :
    Compartment Host × Handle kind :=
  (c.withObjects kind ((c.objects kind).push object),
   { compartment := c.id, index := c.count kind })

/-- Whether a handle may be used with the compartment. -/
def owns (c : Compartment Host) {kind : Kind} (handle : Handle kind) : Bool :=
  handle.compartment == c.id

def get? (c : Compartment Host) {kind : Kind} (handle : Handle kind) : Option (kind.Object Host) :=
  if c.owns handle then (c.objects kind)[handle.index]? else none

def set (c : Compartment Host) {kind : Kind} (handle : Handle kind) (object : kind.Object Host) :
    Compartment Host :=
  if c.owns handle then c.withObjects kind ((c.objects kind).setIfInBounds handle.index object)
  else c

def empty (id : CompartmentId) : Compartment Host := { id := id }

end Compartment

namespace Entity

/-- Whether the object may be used with a compartment. -/
def comesFrom (entity : Entity) (c : Compartment Host) : Bool := entity.compartment == c.id

/-- The current type of the object, if it is in the compartment. -/
def type? (entity : Entity) (c : Compartment Host) : Option ExternType :=
  match entity with
  | function handle => (c.get? handle).map fun f : Function Host => .function f.type
  | global handle => (c.get? handle).map fun g : Global => .global g.type
  | table handle => (c.get? handle).map fun t : Table (Handle .function) => .table t.type
  | memory handle => (c.get? handle).map fun m : Memory => .memory m.type

def runtimeSize? (entity : Entity) (c : Compartment Host) : Option UInt32 :=
  match entity with
  | table handle => (c.get? handle).map fun t : Table (Handle .function) => t.size
  | memory handle => (c.get? handle).map fun m : Memory => m.size.count
  | function _ | global _ => none

/-- Whether the object may stand for an import declared with a type; nothing is said
of an object of another compartment. -/
def satisfies? (entity : Entity) (c : Compartment Host) (declared : ExternType) : Option Bool :=
  (entity.type? c).map fun type => type.satisfies declared (entity.runtimeSize? c)

end Entity
end HostLink
