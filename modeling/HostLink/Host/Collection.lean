/-
Collections of host functions and globals.

A collection holds definitions, not objects.  Each instantiation makes new objects
of all of them in a compartment and exports them under their names.
-/
import HostLink.Log
import HostLink.Store.Compartment

namespace HostLink

variable {Host : Type}

inductive Definition (Host : Type) where
  | function (type : FunctionType) (host : Host)
  | global (value : Value) (mutability : Mutability)
  deriving DecidableEq, Repr

structure Collection (Host : Type) where
  name : String
  definitions : Named (Definition Host) := []
  deriving DecidableEq, Repr

namespace Collection

def function (collection : Collection Host) (name : String) (params results : List ValueType)
    (host : Host) : Collection Host :=
  { collection with
    definitions := collection.definitions.put name
      (.function { params := params, results := results } host) }

def global (collection : Collection Host) (name : String) (value : Value)
    (mutability : Mutability) : Collection Host :=
  { collection with definitions := collection.definitions.put name (.global value mutability) }

def remove (collection : Collection Host) (name : String) : Collection Host :=
  { collection with definitions := collection.definitions.remove name }

def contains (collection : Collection Host) (name : String) : Bool :=
  collection.definitions.contains name

/-- The name and the names defined, as diagnostics show a collection. -/
def describe (collection : Collection Host) : String :=
  "IntrinsicModule \x7b name: " ++ quoted collection.name ++ ", exports: " ++
    bracketed (collection.definitions.names.map quoted) ++ " \x7d"

def define (collection : Collection Host) (c : Compartment Host) (name : String) :
    Definition Host → Compartment Host × Entity
  | .function type host =>
    let (c, handle) := c.add .function
      { name := collection.name ++ "." ++ name, type := type, host := host }
    (c, .function handle)
  | .global value mutability =>
    let (c, handle) := c.add .global (Global.ofValue value mutability)
    (c, .global handle)

def defineAll (collection : Collection Host) (c : Compartment Host) :
    Named (Definition Host) → Compartment Host × Named Entity
  | [] => (c, [])
  | (name, definition) :: rest =>
    let (c, entity) := collection.define c name definition
    let (c, others) := collection.defineAll c rest
    (c, (name, entity) :: others)

/-- Makes the objects of the collection and an instance under the given name that
exports them.  `extra` is exported beside them, and in place of a definition of the
same name. -/
def instantiate (collection : Collection Host) (c : Compartment Host) (name : String)
    (extra : Named Entity) : Logged (Compartment Host × Handle .instance_) := do
  Logged.emit .debug "instantiating intrinsic module"
    [("module", collection.name), ("debug_name", name),
     ("definitions", toString collection.definitions.length), ("extra", toString extra.length)]
  let (c, defined) := collection.defineAll c collection.definitions
  pure (c.add .instance_ { name := name, «exports» := defined.putAll extra })

end Collection
end HostLink
