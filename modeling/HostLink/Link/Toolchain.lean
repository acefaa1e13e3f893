/-
The toolchain a module was built with, and what it may import from.
-/
import HostLink.Module

namespace HostLink

/-- A standard module defines its memory; a legacy one imports its memory and a table,
and expects the C runtime. -/
inductive Toolchain where
  | standard
  | legacy
  deriving DecidableEq, Repr

namespace Toolchain

def name : Toolchain → String
  | standard => "standard"
  | legacy => "emscripten"

def describe : Toolchain → String
  | standard => "Standard"
  | legacy => "Emscripten"

/-- A module that defines a memory is taken for a standard one. -/
def detect (m : ModuleInfo) : Toolchain := if m.definesMemory then standard else legacy

end Toolchain

/-- The collections imports are taken from. -/
inductive Origin where
  | standardEnv
  | legacyEnv
  | operators
  | mathematics
  deriving DecidableEq, Repr

namespace Origin

def forImport? : Toolchain → String → Option Origin
  | .standard, "env" => some standardEnv
  | .legacy, "env" => some legacyEnv
  | .legacy, "asm2wasm" => some operators
  | .legacy, "global" => some mathematics
  | .legacy, "global.Math" => some mathematics
  | _, _ => none

def name : Origin → String
  | standardEnv | legacyEnv => "env"
  | operators => "asm2wasm"
  | mathematics => "global"

end Origin
end HostLink
