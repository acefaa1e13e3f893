/-
Calling host functions.

What a host function does is up to whoever defines it: `HostFunctions` asks for nothing
but that it can be run on its arguments, with its compartment and the memory of its
caller.  `Function.call` checks the arguments against the signature before that and the
results after it.  `HostOp.run` is what the functions do that a linker comes with; one of
them under a signature that does not suit it fails one of the two checks or complains
about its arguments itself.
-/
import HostLink.Failure
import HostLink.Host.Op
import HostLink.Host.Trap
import HostLink.Ieee.Elementary
import HostLink.LittleEndian
import HostLink.Log
import HostLink.Store.Compartment

namespace HostLink

variable {Host : Type}

/-- What may change the compartment, log, and stop early. -/
abbrev HostM (Host α : Type) := ExceptT (Failure Trap) (StateT (Compartment Host) Logged) α

namespace HostM

def trap {α : Type} (t : Trap) : HostM Host α := throw (.error t)

def crash {α : Type} : HostM Host α := throw .crash

def log (level : Level) (message : String) (fields : List (String × String) := []) :
    HostM Host Unit :=
  liftM (Logged.emit level message fields)

/-- The memory a call is given, if the compartment owns it. -/
def callerMemory (memory : Option (Handle .memory)) : HostM Host (Handle .memory × Memory) := do
  let c ← get
  match memory with
  | none => trap .noMemory
  | some handle =>
    if c.owns handle then
      match c.get? handle with
      | some m => pure (handle, m)
      | none => crash
    else trap .noMemory

def changeMemory (memory : Option (Handle .memory))
    (change : Memory → Except MemoryError Memory) : HostM Host Unit := do
  let (handle, m) ← callerMemory memory
  match change m with
  | .ok m => modify fun c => c.set handle m
  | .error error => trap (.memory error)

def copyMemory (memory : Option (Handle .memory)) (source target length : UInt64) :
    HostM Host Unit := do
  let (handle, m) ← callerMemory memory
  match m.copyWithin source target length with
  | .ok (.done m) => modify fun c => c.set handle m
  | .ok (.crash m) => do
    modify fun c => c.set handle m
    crash
  | .error error => trap (.memory error)

end HostM

/-- Functions of the host, each of which can be run on arguments for a caller. -/
class HostFunctions (Host : Type) where
  /-- The memory is that of the caller, if it has one. -/
  run : Host → Option (Handle .memory) → List Value → HostM Host (List Value)

/-- The address a 32-bit integer stands for: it is read without a sign. -/
def address (value : Int32) : UInt64 := value.toUInt32.toUInt64

namespace UnaryOp

def apply : UnaryOp → Ieee.Binary64 → Ieee.Binary64
  | exp => Ieee.Binary64.exp
  | log => Ieee.Binary64.log
  | sqrt => Ieee.Binary64.sqrt
  | floor => Ieee.Binary64.floor
  | ceil => Ieee.Binary64.ceil
  | abs => Ieee.Binary64.abs
  | log10 => Ieee.Binary64.log10
  | log2 => Ieee.Binary64.log2

end UnaryOp

namespace IntegerOp

/-- Division and remainder that never fail: a zero divisor gives zero, and the one
quotient that is out of range wraps. -/
def apply (op : IntegerOp) (x y : Int32) : Int32 :=
  if y = 0 then 0
  else
    match op with
    | signedDiv => x / y
    | signedRem => x % y
    | unsignedDiv => (x.toUInt32 / y.toUInt32).toInt32
    | unsignedRem => (x.toUInt32 % y.toUInt32).toInt32

end IntegerOp

namespace HostOp

open HostM

def unexpectedArguments (name : String) (arguments : List Value) : Trap :=
  .abort (name ++ " called with unexpected arguments " ++ Value.describeAll arguments)

def maxInt32 : Nat := Nat.pow 2 31 - 1

def copy (memory : Option (Handle .memory)) (event : String) (target source length : Int32) :
    HostM HostOp (List Value) := do
  log .debug event
    [("dest", toString target), ("src", toString source), ("len", toString length)]
  copyMemory memory (address source) (address target) (address length)
  pure [.i32 target]

/-- Keeps an error number where the guest said it keeps it.  Until it has, the number
is dropped. -/
def storeErrno (memory : Option (Handle .memory)) (value : Int32) : HostM HostOp (List Value) := do
  match (← get).errnoLocation with
  | some location =>
    log .debug "emscripten::___setErrNo"
      [("value", toString value), ("location", toString location)]
    changeMemory memory fun m =>
      m.write location.toUInt64 (LittleEndian.encode 4 value.toUInt32.toNat)
  | none =>
    log .debug "emscripten::___setErrNo without an errno location" [("value", toString value)]
  pure [.i32 value]

def run (op : HostOp) (memory : Option (Handle .memory)) (arguments : List Value) :
    HostM HostOp (List Value) :=
  match op, arguments with
  | memcpy, [.i32 target, .i32 source, .i32 length] =>
    copy memory "env::memcpy" target source length
  | memmove, [.i32 target, .i32 source, .i32 length] =>
    copy memory "env::memmove" target source length
  | memset, [.i32 target, .i32 value, .i32 length] => do
    log .debug "env::memset"
      [("dest", toString target), ("value", toString value), ("len", toString length)]
    changeMemory memory fun m => m.fill (address target) value.toUInt32.toUInt8 (address length)
    pure [.i32 target]
  | abort, _ => do
    log .debug "env::abort"
    trap (.abort "abort() called")
  | abortCode, [.i32 code] => do
    log .debug "emscripten::abort" [("code", toString code)]
    trap (.abort ("abort(" ++ toString code ++ ")"))
  | abortStackOverflow, [.i32 allocation] => do
    log .debug "emscripten::abortStackOverflow" [("allocation", toString allocation)]
    trap (.abort ("stack overflow while allocating " ++ toString allocation ++ " bytes"))
  | enlargeMemory, _ => do
    log .debug "emscripten::enlargeMemory"
    pure [.i32 0]
  | totalMemory, _ => do
    let (_, m) ← callerMemory memory
    log .debug "emscripten::getTotalMemory" [("total", toString m.length)]
    pure [.i32 (Int32.ofNat (min m.length maxInt32))]
  | abortOnCannotGrow, _ => do
    log .debug "emscripten::abortOnCannotGrowMemory"
    trap (.abort "Cannot enlarge memory arrays!")
  | setErrno, [.i32 value] => storeErrno memory value
  | errnoLocation, _ => do
    let location := (← get).errnoLocation.getD 0
    log .debug "emscripten::___errno_location" [("location", toString location)]
    pure [.i32 location.toInt32]
  | lock, arguments => do
    log .debug "emscripten::___lock" [("args", Value.describeAll arguments)]
    pure []
  | unlock, arguments => do
    log .debug "emscripten::___unlock" [("args", Value.describeAll arguments)]
    pure []
  | memcpyBig, [.i32 target, .i32 source, .i32 length] =>
    copy memory "emscripten::_emscripten_memcpy_big" target source length
  | unary op, [.f64 x] => pure [.f64 (op.apply x)]
  | pow, [.f64 x, .f64 y] => pure [.f64 (x.pow y)]
  | floatRem, [.f64 x, .f64 y] => do
    log .debug "emscripten::f64-rem"
    pure [.f64 (x.rem y)]
  | floatToInt, [.f64 x] => pure [.i32 x.toInt32]
  | integer op, [.i32 x, .i32 y] => pure [.i32 (op.apply x y)]
  | debugger, _ => do
    log .debug "emscripten::debugger"
    pure []
  | op, arguments => trap (unexpectedArguments op.name arguments)

end HostOp

instance : HostFunctions HostOp where
  run := HostOp.run

@[simp] theorem HostFunctions.run_hostOp (op : HostOp) (memory : Option (Handle .memory))
    (arguments : List Value) : run op memory arguments = op.run memory arguments := rfl

namespace Function

/-- Fails unless some values have the types a signature declares for them. -/
def checkTypes (signature : FunctionType) (declared : List ValueType) (values : List Value) :
    HostM Host Unit := do
  let given := values.map Value.type
  if given ≠ declared then HostM.trap (.badSignature signature given)

def call [HostFunctions Host] (handle : Handle .function) (memory : Option (Handle .memory))
    (arguments : List Value) : HostM Host (List Value) := do
  match (← get).get? handle with
  | none => HostM.crash
  | some (f : Function Host) => do
    HostM.log .trace "calling host function"
      [("name", f.name), ("args", Value.describeAll arguments)]
    checkTypes f.type f.type.params arguments
    let results ← HostFunctions.run f.host memory arguments
    checkTypes f.type f.type.results results
    pure results

end Function
end HostLink
