/-
The configuration of a linker.

Each setting has a default.  A configuration is valid if no minimum exceeds its
maximum and the fixed addresses of legacy modules lie in the memory they start with.
-/
import HostLink.Host.Layout

namespace HostLink

def version : String := "0.3.0"

/-! ## Named sizes -/

def pagesPerMiB : Nat := 16

def pagesPerGiB : Nat := 1024 * pagesPerMiB

/-- The smallest memory, in pages, that the static data of a legacy module fits in. -/
def minimumStaticPages : Nat := 128

/-! ## Settings -/

structure StandardLimits where
  initialPages : UInt32 := 240
  maximumPages : UInt32 := 16384
  deriving DecidableEq, Repr

structure LegacyLimits where
  initialPages : UInt32 := 16384
  maximumPages : UInt32 := 33554432
  tableMinimum : UInt32 := 40000000
  tableMaximum : UInt32 := 60000000
  stackTop : UInt32 := Layout.standard.stackTop
  stackMax : UInt32 := Layout.standard.stackMax
  globalsAddress : UInt32 := Layout.standard.globalsAddress
  deriving DecidableEq, Repr

structure Config where
  standard : StandardLimits := {}
  legacy : LegacyLimits := {}
  deriving DecidableEq, Repr

def LegacyLimits.layout (limits : LegacyLimits) : Layout :=
  { stackTop := limits.stackTop, stackMax := limits.stackMax,
    globalsAddress := limits.globalsAddress }

def LegacyLimits.initialBytes (limits : LegacyLimits) : Nat :=
  (Pages.mk limits.initialPages).bytes

/-- Why there is no configuration, or no text of one.  The reasons are those of whoever reads
files, and reads and writes TOML. -/
inductive ConfigError where
  | unreadable (path reason : String)
  /-- The text is not a configuration. -/
  | malformed (reason : String)
  | unwritable (reason : String)
  | invalidRange (name : String) (minimum maximum : UInt32)
  | outsideMemory (name : String) (address : UInt32) (size : Nat)
  deriving DecidableEq, Repr

def ConfigError.message : ConfigError → String
  | unreadable path _ => "could not read resolver config " ++ path
  | malformed reason => "invalid resolver config: " ++ reason
  | unwritable reason => "could not serialize resolver config: " ++ reason
  | invalidRange name minimum maximum =>
    name ++ ": minimum " ++ toString minimum ++ " is larger than maximum " ++ toString maximum
  | outsideMemory name address size =>
    name ++ " (0x" ++ String.ofList (Nat.toDigits 16 address.toNat) ++
      ") does not fit in the initial legacy memory of " ++ toString size ++ " bytes"

/-- The error behind a configuration error, if it comes from another one. -/
def ConfigError.cause? : ConfigError → Option String
  | unreadable _ reason | malformed reason | unwritable reason => some reason
  | invalidRange .. | outsideMemory .. => none

namespace Config

def checkRange (name : String) (minimum maximum : UInt32) : Except ConfigError Unit :=
  if maximum < minimum then .error (.invalidRange name minimum maximum) else .ok ()

/-- Fails unless so many bytes fit behind an address of the initial legacy memory. -/
def checkAddress (limits : LegacyLimits) (name : String) (address : UInt32) (length : Nat) :
    Except ConfigError Unit :=
  if limits.initialBytes < address.toNat + length then
    .error (.outsideMemory name address limits.initialBytes)
  else .ok ()

/-- Fails at the first rule that is broken. -/
def validate (config : Config) : Except ConfigError Unit := do
  checkRange "standard memory pages" config.standard.initialPages config.standard.maximumPages
  let legacy := config.legacy
  checkRange "emscripten memory pages" legacy.initialPages legacy.maximumPages
  checkRange "emscripten table elements" legacy.tableMinimum legacy.tableMaximum
  checkRange "emscripten stack" legacy.stackTop legacy.stackMax
  checkAddress legacy "mutable_globals_address" legacy.globalsAddress GlobalsBlock.size
  checkAddress legacy "stack_max" legacy.stackMax 0

end Config
end HostLink
