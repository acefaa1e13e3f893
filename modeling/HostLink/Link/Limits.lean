/-
The limits a configuration puts on a module before it is instantiated.
-/
import HostLink.Link.Config
import HostLink.Link.Toolchain

namespace HostLink

/-- The part of a module the limits of its toolchain apply to. -/
inductive RequiredSection where
  | definedMemory
  | importedMemory
  | importedTable
  deriving DecidableEq, Repr

def RequiredSection.name : RequiredSection → String
  | definedMemory => "defined memory"
  | importedMemory => "imported memory"
  | importedTable => "imported table"

namespace ModuleInfo

def limitMemory (initial maximum : UInt32) (type : MemoryType) : MemoryType :=
  { type with minimum := ⟨initial⟩, maximum := some ⟨maximum⟩ }

def limitTable (minimum maximum : UInt32) (type : TableType) : TableType :=
  { type with minimum := minimum, maximum := some maximum }

/-- The module with the limits of a toolchain: on its first defined memory, or on its
first imported memory and its first imported table.  Fails with the first of them
that is missing. -/
def configure (m : ModuleInfo) (toolchain : Toolchain) (config : Config) :
    Except RequiredSection ModuleInfo :=
  match toolchain with
  | .standard =>
    let limits := config.standard
    match m.memories with
    | [] => .error .definedMemory
    | first :: rest =>
      .ok { m with memories := limitMemory limits.initialPages limits.maximumPages first :: rest }
  | .legacy =>
    let limits := config.legacy
    match m.editFirstImportedMemory (limitMemory limits.initialPages limits.maximumPages) with
    | none => .error .importedMemory
    | some m =>
      match m.editFirstImportedTable (limitTable limits.tableMinimum limits.tableMaximum) with
      | none => .error .importedTable
      | some m => .ok m

end ModuleInfo
end HostLink
