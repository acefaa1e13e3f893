/-
The functions a linker comes with, by name.

Each of them is a value of a closed type rather than a Lean function, so that what a
call of one can do is a case distinction over this list.  Whoever brings functions of
another kind has another type for them.
-/
import HostLink.Value

namespace HostLink

inductive UnaryOp where
  | exp
  | log
  | sqrt
  | floor
  | ceil
  | abs
  | log10
  | log2
  deriving DecidableEq, Repr

inductive IntegerOp where
  | signedDiv
  | unsignedDiv
  | signedRem
  | unsignedRem
  deriving DecidableEq, Repr

inductive HostOp where
  -- for all modules
  | memcpy
  | memmove
  | memset
  | abort
  -- the environment of legacy modules
  | abortCode
  | abortStackOverflow
  | enlargeMemory
  | totalMemory
  | abortOnCannotGrow
  | setErrno
  | errnoLocation
  | lock
  | unlock
  | memcpyBig
  -- operators
  | unary (op : UnaryOp)
  | pow
  | floatRem
  | floatToInt
  | integer (op : IntegerOp)
  | debugger
  deriving DecidableEq, Repr

namespace UnaryOp

def name : UnaryOp → String
  | exp => "exp"
  | log => "log"
  | sqrt => "sqrt"
  | floor => "floor"
  | ceil => "ceil"
  | abs => "abs"
  | log10 => "llvm_log10_f64"
  | log2 => "llvm_log2_f64"

end UnaryOp

namespace IntegerOp

def name : IntegerOp → String
  | signedDiv => "i32s-div"
  | unsignedDiv => "i32u-div"
  | signedRem => "i32s-rem"
  | unsignedRem => "i32u-rem"

end IntegerOp

/-- The name a function complains under. -/
def HostOp.name : HostOp → String
  | memcpy => "memcpy"
  | memmove => "memmove"
  | memset => "memset"
  | abort | abortCode => "abort"
  | abortStackOverflow => "abortStackOverflow"
  | enlargeMemory => "enlargeMemory"
  | totalMemory => "getTotalMemory"
  | abortOnCannotGrow => "abortOnCannotGrowMemory"
  | setErrno => "___setErrNo"
  | errnoLocation => "___errno_location"
  | lock => "___lock"
  | unlock => "___unlock"
  | memcpyBig => "_emscripten_memcpy_big"
  | unary op => op.name
  | pow => "pow"
  | floatRem => "f64-rem"
  | floatToInt => "f64-to-int"
  | integer op => op.name
  | debugger => "debugger"

end HostLink
