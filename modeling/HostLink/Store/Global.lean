/-
Globals: a value of a declared type, which may be constant.
-/
import HostLink.ExternType

namespace HostLink

inductive GlobalError where
  | typeMismatch (expected given : ValueType)
  | immutable
  deriving DecidableEq, Repr

def GlobalError.message : GlobalError → String
  | typeMismatch expected given =>
    "global of type " ++ expected.name ++ " cannot hold a value of type " ++ given.name
  | immutable => "cannot set a constant global"

structure Global where
  type : GlobalType
  value : Value
  deriving DecidableEq, Repr

namespace Global

def create (type : GlobalType) (value : Value) : Except GlobalError Global :=
  if value.type = type.content then .ok { type := type, value := value }
  else .error (.typeMismatch type.content value.type)

def ofValue (value : Value) (mutability : Mutability) : Global :=
  { type := { content := value.type, mutability := mutability }, value := value }

/-- Gives a mutable global another value of its type. -/
def set (g : Global) (value : Value) : Except GlobalError Global :=
  match g.type.mutability with
  | .constant => .error .immutable
  | .mutable =>
    if value.type = g.type.content then .ok { g with value := value }
    else .error (.typeMismatch g.type.content value.type)

end Global
end HostLink
