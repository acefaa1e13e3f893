/-
Handles.

An object lives in the compartment it was created in and is referred to by a
handle: the compartment, the kind of object, and its place among those of its kind.
A handle owns nothing.
-/

namespace HostLink

/-- What tells compartments apart. -/
structure CompartmentId where
  number : Nat
  deriving DecidableEq, Repr

inductive Kind where
  | memory
  | table
  | global
  | function
  | instance_
  deriving DecidableEq, Repr

structure Handle (kind : Kind) where
  compartment : CompartmentId
  index : Nat
  deriving DecidableEq, Repr

/-- An object that can be exported, by its handle. -/
inductive Entity where
  | function (handle : Handle .function)
  | global (handle : Handle .global)
  | table (handle : Handle .table)
  | memory (handle : Handle .memory)
  deriving DecidableEq, Repr

def Entity.compartment : Entity → CompartmentId
  | function handle => handle.compartment
  | global handle => handle.compartment
  | table handle => handle.compartment
  | memory handle => handle.compartment

end HostLink
