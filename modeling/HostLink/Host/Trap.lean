/-
Traps: the ways a host call can end early that the guest gets to see.
-/
import HostLink.Store.Memory
import HostLink.Store.Table

namespace HostLink

inductive Trap where
  | abort (reason : String)
  | memory (error : MemoryError)
  | table (error : TableError)
  | noMemory
  | badSignature (expected : FunctionType) (given : List ValueType)
  deriving DecidableEq, Repr

def Trap.message : Trap → String
  | abort reason => "abort: " ++ reason
  | memory error => error.message
  | table error => error.message
  | noMemory => "function requires a linear memory but none was provided"
  | badSignature expected given =>
    "signature mismatch: expected " ++ expected.text ++ ", got " ++
      bracketed (given.map ValueType.name)

end HostLink
