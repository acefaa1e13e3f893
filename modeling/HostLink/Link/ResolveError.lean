/-
The ways an import can fail to resolve.
-/
import HostLink.ExternType

namespace HostLink

inductive ResolveError where
  | unrecognizedModule (module name : String)
  | missingImport (module name : String) (expected : ExternType)
  | typeMismatch (module name : String) (expected actual : ExternType)
  | notReady (module name : String)
  | foreignCompartment (module name : String)
  deriving DecidableEq, Repr

namespace ResolveError

def import_ : ResolveError → String × String
  | unrecognizedModule module name
  | missingImport module name _
  | typeMismatch module name _ _
  | notReady module name
  | foreignCompartment module name => (module, name)

def message : ResolveError → String
  | unrecognizedModule module name =>
    "unrecognised module \"" ++ module ++ "\" for import " ++ module ++ "." ++ name
  | missingImport module name expected =>
    "missing import " ++ module ++ "." ++ name ++ " " ++ expected.text
  | typeMismatch module name expected actual =>
    "resolved import " ++ module ++ "." ++ name ++ " to a " ++ actual.text ++
      ", but was expecting " ++ expected.text
  | notReady module name =>
    "the resolver has no environment to resolve " ++ module ++ "." ++ name ++ " against"
  | foreignCompartment module name =>
    "import " ++ module ++ "." ++ name ++ " was resolved against a foreign compartment"

end ResolveError
end HostLink
