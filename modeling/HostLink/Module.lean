/-
The declared form of a module: what it imports, exports and defines, before
anything is instantiated.

Imported memories and tables are not listed apart; they are entries of the import
list, and the views below pick them out.
-/
import HostLink.ExternType

namespace HostLink

/-- An import, by the module and name it is taken from and its declared type. -/
structure Import where
  module : String
  name : String
  type : ExternType
  deriving DecidableEq, Repr

structure Export where
  name : String
  type : ExternType
  deriving DecidableEq, Repr

structure ModuleInfo where
  name : Option String := none
  imports : List Import := []
  exports : List Export := []
  memories : List MemoryType := []
  tables : List TableType := []
  globals : List GlobalType := []
  deriving DecidableEq, Repr, Inhabited

namespace ModuleInfo

def importedMemories (m : ModuleInfo) : List MemoryType :=
  m.imports.filterMap fun entry => entry.type.memory?

def importedTables (m : ModuleInfo) : List TableType :=
  m.imports.filterMap fun entry => entry.type.table?

def import? (m : ModuleInfo) (module name : String) : Option Import :=
  m.imports.find? fun entry => entry.module == module && entry.name == name

/-- Changes the first import whose type `edit` applies to; `none` if there is no
such import. -/
def editFirstImport (edit : ExternType → Option ExternType) :
    List Import → Option (List Import)
  | [] => none
  | entry :: rest =>
    match edit entry.type with
    | some type => some ({ entry with type := type } :: rest)
    | none => (editFirstImport edit rest).map (entry :: ·)

def editFirstImportedMemory (m : ModuleInfo) (edit : MemoryType → MemoryType) :
    Option ModuleInfo :=
  (editFirstImport (fun type => type.memory?.map (.memory ∘ edit)) m.imports).map
    fun imports => { m with imports := imports }

def editFirstImportedTable (m : ModuleInfo) (edit : TableType → TableType) :
    Option ModuleInfo :=
  (editFirstImport (fun type => type.table?.map (.table ∘ edit)) m.imports).map
    fun imports => { m with imports := imports }

def definesMemory (m : ModuleInfo) : Bool := !m.memories.isEmpty

end ModuleInfo
end HostLink
