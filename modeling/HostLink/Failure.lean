/-
The ways an operation can fail.

An error is an answer.  A crash is not: the host itself goes down.  Operations that
have to find an object by its handle crash if the compartment does not own it, so
that they never do is something to be proved rather than built in.
-/

namespace HostLink

inductive Failure (ε : Type) where
  | error (error : ε)
  | crash
  deriving DecidableEq, Repr

namespace Failure

def error? {ε : Type} : Failure ε → Option ε
  | error e => some e
  | crash => none

def isCrash {ε : Type} : Failure ε → Bool
  | error _ => false
  | crash => true

end Failure
end HostLink
