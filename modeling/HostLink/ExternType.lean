/-
The types of what a module imports and exports, and when an export may stand for
an import.

`satisfies` is the rule a link applies: kinds never cross, functions and globals
have to agree exactly, and a table or memory has to be at least as large and at
least as tightly bounded as the import asks.  The size compared is the current
one when the object already exists.
-/
import HostLink.Pages
import HostLink.Value

namespace HostLink

structure FunctionType where
  params : List ValueType
  results : List ValueType
  deriving DecidableEq, Repr, Inhabited

inductive Mutability where
  | constant
  | mutable
  deriving DecidableEq, Repr, Inhabited

structure GlobalType where
  content : ValueType
  mutability : Mutability
  deriving DecidableEq, Repr, Inhabited

/-- A table type; sizes are in elements. -/
structure TableType where
  element : ValueType
  minimum : UInt32
  maximum : Option UInt32
  deriving DecidableEq, Repr, Inhabited

structure MemoryType where
  minimum : Pages
  maximum : Option Pages
  shared : Bool
  deriving DecidableEq, Repr, Inhabited

inductive ExternKind where
  | function
  | global
  | table
  | memory
  deriving DecidableEq, Repr

inductive ExternType where
  | function (type : FunctionType)
  | global (type : GlobalType)
  | table (type : TableType)
  | memory (type : MemoryType)
  deriving DecidableEq, Repr, Inhabited

/-! ## Texts -/

def FunctionType.text (type : FunctionType) : String :=
  bracketed (type.params.map ValueType.name) ++ " -> " ++
    bracketed (type.results.map ValueType.name)

def FunctionType.describe (type : FunctionType) : String :=
  "FunctionType \x7b params: " ++ bracketed (type.params.map ValueType.name) ++
    ", results: " ++ bracketed (type.results.map ValueType.name) ++ " \x7d"

def Mutability.text : Mutability → String
  | constant => "constant"
  | mutable => "mutable"

def GlobalType.text (type : GlobalType) : String :=
  type.content.name ++ " (" ++ type.mutability.text ++ ")"

def TableType.text (type : TableType) : String :=
  type.element.name ++ " (" ++ toString type.minimum ++ ".." ++
    (type.maximum.map toString).getD "" ++ ")"

def MemoryType.text (type : MemoryType) : String :=
  (if type.shared then "shared" else "not shared") ++ " (" ++ type.minimum.describe ++ ".." ++
    (type.maximum.map Pages.describe).getD "" ++ ")"

def ExternKind.name : ExternKind → String
  | function => "function"
  | global => "global"
  | table => "table"
  | memory => "memory"

namespace ExternType

def kind : ExternType → ExternKind
  | function _ => .function
  | global _ => .global
  | table _ => .table
  | memory _ => .memory

def body : ExternType → String
  | function type => type.text
  | global type => type.text
  | table type => type.text
  | memory type => type.text

def text (type : ExternType) : String := type.kind.name ++ " " ++ type.body

instance : ToString ExternType := ⟨text⟩

def function? : ExternType → Option FunctionType
  | function type => some type
  | _ => none

def global? : ExternType → Option GlobalType
  | global type => some type
  | _ => none

def table? : ExternType → Option TableType
  | table type => some type
  | _ => none

def memory? : ExternType → Option MemoryType
  | memory type => some type
  | _ => none

end ExternType

/-! ## Compatibility -/

/-- Whether an exported maximum keeps within a declared one.  A declaration
without a maximum accepts anything; one with a maximum needs an export that is
bounded at least as tightly. -/
def maximumWithin (exported declared : Option UInt32) : Bool :=
  match exported, declared with
  | _, none => true
  | some exported, some declared => exported ≤ declared
  | none, some _ => false

/-- Whether an exported table may stand for a declared one, at the given current
size if it has one. -/
def TableType.satisfies (exported declared : TableType) (size : Option UInt32) : Bool :=
  exported.element == declared.element &&
    declared.minimum ≤ size.getD exported.minimum &&
    maximumWithin exported.maximum declared.maximum

/-- Whether an exported memory may stand for a declared one, at the given current
size in pages if it has one. -/
def MemoryType.satisfies (exported declared : MemoryType) (size : Option UInt32) : Bool :=
  declared.minimum.count ≤ size.getD exported.minimum.count &&
    maximumWithin (exported.maximum.map Pages.count) (declared.maximum.map Pages.count) &&
    exported.shared == declared.shared

/-- Whether an export of this type may stand for an import declared with the
other.  `size` is the current size of an existing table or memory, which may
exceed its minimum. -/
def ExternType.satisfies (exported declared : ExternType) (size : Option UInt32) : Bool :=
  match exported, declared with
  | .function x, .function y => x == y
  | .global x, .global y => x == y
  | .table x, .table y => x.satisfies y size
  | .memory x, .memory y => x.satisfies y size
  | _, _ => false

end HostLink
