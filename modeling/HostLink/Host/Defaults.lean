/-
The collections a linker comes with.

A standard module finds only memory primitives.  A legacy module finds the C runtime,
whose pointers depend on the layout of its memory, the operators its intermediate
language has and WebAssembly lacks, and mathematics.
-/
import HostLink.Host.Collection
import HostLink.Host.Layout
import HostLink.Host.Op

namespace HostLink

/-- Where the objects come from that modules are linked with. -/
structure Provider (Host : Type) where
  standardEnv : Collection Host
  legacyEnv : Collection Host
  operators : Collection Host
  mathematics : Collection Host
  deriving DecidableEq, Repr

namespace Collection

def standardEnv : Collection HostOp :=
  { name := "env" : Collection HostOp }
    |>.function "memcpy" [.i32, .i32, .i32] [.i32] .memcpy
    |>.function "memmove" [.i32, .i32, .i32] [.i32] .memmove
    |>.function "memset" [.i32, .i32, .i32] [.i32] .memset
    |>.function "abort" [] [] .abort

/-- The C runtime of a legacy module.  The pointers hold the addresses of variables,
not their values. -/
def legacyEnv (layout : Layout) : Collection HostOp :=
  let constant (value : Int32) (name : String) (collection : Collection HostOp) :
      Collection HostOp :=
    collection.global name (.i32 value) .constant
  let pointer (offset : UInt32) : String → Collection HostOp → Collection HostOp :=
    constant (layout.globalsField offset).toInt32
  { name := "env" : Collection HostOp }
    |> constant layout.stackTop.toInt32 "STACKTOP"
    |> constant layout.stackMax.toInt32 "STACK_MAX"
    |> pointer GlobalsBlock.dynamicTopOffset "DYNAMICTOP_PTR"
    |> pointer GlobalsBlock.tempDoubleOffset "tempDoublePtr"
    |> pointer GlobalsBlock.stderrOffset "_stderr"
    |> pointer GlobalsBlock.stdinOffset "_stdin"
    |> pointer GlobalsBlock.stdoutOffset "_stdout"
    |> constant 0 "tableBase"
    |> constant 0 "memoryBase"
    |> constant 0 "ABORT"
    |> constant invalidArgument "EINVAL"
    |>.function "abort" [.i32] [] .abortCode
    |>.function "abortStackOverflow" [.i32] [] .abortStackOverflow
    |>.function "enlargeMemory" [] [.i32] .enlargeMemory
    |>.function "getTotalMemory" [] [.i32] .totalMemory
    |>.function "abortOnCannotGrowMemory" [] [.i32] .abortOnCannotGrow
    |>.function "___setErrNo" [.i32] [.i32] .setErrno
    |>.function "___errno_location" [] [.i32] .errnoLocation
    |>.function "___lock" [.i32] [] .lock
    |>.function "___unlock" [.i32] [] .unlock
    |>.function "_emscripten_memcpy_big" [.i32, .i32, .i32] [.i32] .memcpyBig
    |>.function "_llvm_log10_f64" [.f64] [.f64] (.unary .log10)
    |>.function "_llvm_log2_f64" [.f64] [.f64] (.unary .log2)

def operators : Collection HostOp :=
  { name := "asm2wasm" : Collection HostOp }
    |>.function "f64-rem" [.f64, .f64] [.f64] .floatRem
    |>.function "f64-to-int" [.f64] [.i32] .floatToInt
    |>.function "i32s-div" [.i32, .i32] [.i32] (.integer .signedDiv)
    |>.function "i32u-div" [.i32, .i32] [.i32] (.integer .unsignedDiv)
    |>.function "i32s-rem" [.i32, .i32] [.i32] (.integer .signedRem)
    |>.function "i32u-rem" [.i32, .i32] [.i32] (.integer .unsignedRem)
    |>.function "debugger" [] [] .debugger

def mathematics : Collection HostOp :=
  { name := "global" : Collection HostOp }
    |>.global "NaN" (.f64 .nan) .constant
    |>.global "Infinity" (.f64 (.infinity false)) .constant
    |>.function "pow" [.f64, .f64] [.f64] .pow
    |>.function "exp" [.f64] [.f64] (.unary .exp)
    |>.function "log" [.f64] [.f64] (.unary .log)
    |>.function "sqrt" [.f64] [.f64] (.unary .sqrt)
    |>.function "floor" [.f64] [.f64] (.unary .floor)
    |>.function "ceil" [.f64] [.f64] (.unary .ceil)
    |>.function "abs" [.f64] [.f64] (.unary .abs)

end Collection

def Provider.default (layout : Layout) : Provider HostOp :=
  { standardEnv := Collection.standardEnv
    legacyEnv := Collection.legacyEnv layout
    operators := Collection.operators
    mathematics := Collection.mathematics }

end HostLink
