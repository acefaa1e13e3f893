/-
The objects a module may import, in one compartment.

A standard module gets an instance of one collection.  A legacy module gets its memory
and table and instances of three collections, the first of which exports the two.
-/
import HostLink.Host.Defaults
import HostLink.Link.Limits

namespace HostLink

variable {Host : Type}

inductive SetupError where
  | missingSection (section_ : RequiredSection)
  | alreadySetUp
  | memory (error : MemoryError)
  | table (error : TableError)
  | config (error : ConfigError)
  deriving DecidableEq, Repr

def SetupError.message : SetupError → String
  | missingSection section_ => "module has no " ++ section_.name ++ " to configure"
  | alreadySetUp => "the resolver has already been set up"
  | memory error => "legacy memory set-up failed: " ++ error.message
  | table error => "legacy table set-up failed: " ++ error.message
  | config error => error.message

inductive Environment where
  | standard (env : Handle .instance_)
  | legacy (env operators mathematics : Handle .instance_) (memory : Handle .memory)
      (table : Handle .table)
  deriving DecidableEq, Repr

namespace Environment

def toolchain : Environment → Toolchain
  | standard _ => .standard
  | legacy .. => .legacy

def instance? : Environment → Origin → Option (Handle .instance_)
  | standard env, .standardEnv => some env
  | legacy env .., .legacyEnv => some env
  | legacy _ operators .., .operators => some operators
  | legacy _ _ mathematics .., .mathematics => some mathematics
  | _, _ => none

def memory? : Environment → Option (Handle .memory)
  | standard _ => none
  | legacy _ _ _ memory _ => some memory

def table? : Environment → Option (Handle .table)
  | standard _ => none
  | legacy _ _ _ _ table => some table

def compartment : Environment → CompartmentId
  | standard env => env.compartment
  | legacy env .. => env.compartment

/-- Creates the memory and table of a legacy module by its first imports of them,
before any of the two is put into a compartment. -/
def legacyObjects (m : ModuleInfo) :
    Except SetupError ((MemoryType × Memory) × (TableType × Table (Handle .function))) := do
  let memoryType ←
    match m.importedMemories with
    | [] => throw (.missingSection .importedMemory)
    | type :: _ => pure type
  let tableType ←
    match m.importedTables with
    | [] => throw (.missingSection .importedTable)
    | type :: _ => pure type
  let memory ← (Memory.create memoryType).mapError .memory
  let table ← (Table.create tableType).mapError .table
  pure ((memoryType, memory), (tableType, table))

/-- Makes the objects for a module, whose limits have to be configured already. -/
def instantiate (c : Compartment Host) (toolchain : Toolchain) (m : ModuleInfo)
    (provider : Provider Host) : Logged (Except SetupError (Compartment Host × Environment)) :=
  match toolchain with
  | .standard => do
    let (c, env) ← provider.standardEnv.instantiate c "env" []
    pure (.ok (c, .standard env))
  | .legacy =>
    match legacyObjects m with
    | .error error => pure (.error error)
    | .ok ((memoryType, memory), (tableType, table)) => do
      Logged.emit .debug "created legacy memory and table"
        [("memory", memoryType.text), ("table", tableType.text)]
      let (c, memory) := c.add .memory memory
      let (c, table) := c.add .table table
      let (c, env) ← provider.legacyEnv.instantiate c "env"
        [("memory", .memory memory), ("table", .table table)]
      let (c, operators) ← provider.operators.instantiate c "emAsm2wasm" []
      let (c, mathematics) ← provider.mathematics.instantiate c "emGlobal" []
      pure (.ok (c, .legacy env operators mathematics memory table))

end Environment
end HostLink
