/-
Log events as data.

An operation that logs returns its events beside its value, in the order in which
they were emitted.  Two operations in sequence have the events of the first
followed by those of the second, which is all `Logged` adds to a plain value.
-/

namespace HostLink

inductive Level where
  | error
  | info
  | debug
  | trace
  deriving DecidableEq, Repr

namespace Level

def name : Level → String
  | error => "ERROR"
  | info => "INFO"
  | debug => "DEBUG"
  | trace => "TRACE"

def detail : Level → Nat
  | error => 0
  | info => 1
  | debug => 2
  | trace => 3

end Level

/-- One log line: a message with named fields. -/
structure Event where
  level : Level
  message : String
  fields : List (String × String) := []
  deriving DecidableEq, Repr

/-- A value with the events emitted on the way to it. -/
structure Logged (α : Type) where
  value : α
  events : List Event := []

namespace Logged

instance : Monad Logged where
  pure a := { value := a }
  bind x f :=
    let y := f x.value
    { value := y.value, events := x.events ++ y.events }

@[simp] theorem value_pure {α : Type} (a : α) : (pure a : Logged α).value = a := rfl

@[simp] theorem events_pure {α : Type} (a : α) : (pure a : Logged α).events = [] := rfl

@[simp] theorem value_bind {α β : Type} (x : Logged α) (f : α → Logged β) :
    (x >>= f).value = (f x.value).value := rfl

@[simp] theorem events_bind {α β : Type} (x : Logged α) (f : α → Logged β) :
    (x >>= f).events = x.events ++ (f x.value).events := rfl

def emit (level : Level) (message : String) (fields : List (String × String) := []) :
    Logged Unit :=
  { value := (), events := [{ level := level, message := message, fields := fields }] }

end Logged
end HostLink
