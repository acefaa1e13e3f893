/-
What is asked of the tools that read modules.

Three tools stand between the bytes of a module and its declared form: an assembler, which
gives the binary that a text stands for, a parser, which cuts a binary into sections and reads
their entries, and a validator.  `Frontend` is what linking sees of them.  Nothing is said here
of how they work; what is relied on is said where it is relied on.
-/
import HostLink.Wasm.Type

namespace HostLink
namespace Wasm

abbrev Bytes := List UInt8

/-! ## What a parser gives -/

structure ImportEntry where
  module : String
  name : String
  type : TypeRef
  deriving DecidableEq, Repr

structure ExportEntry where
  name : String
  kind : ExternKind
  index : Nat
  deriving DecidableEq, Repr

/-- What the name section names; only the name of the module is of use. -/
inductive NameEntry where
  | module (name : String)
  | other
  deriving DecidableEq, Repr

/-- The entries of a section in file order.  One that cannot be decoded has the reason in its
place. -/
abbrev Entries (α : Type) := List (Except String α)

/-- A section of a binary with its entries, as far as linking reads them. -/
inductive Payload where
  | types (entries : Entries FuncType)
  | imports (entries : Entries ImportEntry)
  | functions (entries : Entries Nat)
  | tables (entries : Entries TableType)
  | memories (entries : Entries MemoryType)
  | globals (entries : Entries GlobalType)
  | exports (entries : Entries ExportEntry)
  | names (entries : Entries NameEntry)
  | other

/-- A section that the parser has come to, or the reason why it cannot go on, and the number of
bytes up to the end of the section if that is there in full. -/
structure Reading where
  payload : Except String Payload
  stop : Option Nat

structure Frontend where
  assemble : Bytes → Except String Bytes
  parse : Bytes → List Reading
  validate : Bytes → Except String Unit

/-! ## What can be relied on -/

def magic : Bytes := [0x00, 0x61, 0x73, 0x6d]

namespace Payload

/-- The place of a section among those that linking reads; the name section may stand
anywhere. -/
def place? : Payload → Option Nat
  | types _ => some 1
  | imports _ => some 2
  | functions _ => some 3
  | tables _ => some 4
  | memories _ => some 5
  | globals _ => some 6
  | exports _ => some 7
  | names _ | other => none

end Payload

/-- The place of the section that was come to. -/
def Reading.place? (reading : Reading) : Option Nat :=
  match reading.payload with
  | .ok payload => payload.place?
  | .error _ => none

namespace Frontend

/-- The assembler takes what starts like a binary for one. -/
def KeepsBinaries (frontend : Frontend) : Prop :=
  ∀ bytes, magic <+: bytes → frontend.assemble bytes = .ok bytes

/-- The parser reads from front to back: what it has read up to the end of a section does not
depend on what follows.  Sections stand behind the header of a binary. -/
structure FrontToBack (frontend : Frontend) : Prop where
  header : ∀ {bytes reading stop}, reading ∈ frontend.parse bytes → reading.stop = some stop →
    magic.length ≤ stop
  prefix_ : ∀ {bytes other before reading after stop},
    frontend.parse bytes = before ++ reading :: after → reading.stop = some stop →
      other.take stop = bytes.take stop →
        ∃ after', frontend.parse other = before ++ reading :: after'

/-- The validator accepts no section that is repeated or stands in a wrong place. -/
def RejectsDisorder (frontend : Frontend) : Prop :=
  ∀ bytes, frontend.validate bytes = .ok () →
    ((frontend.parse bytes).filterMap Reading.place?).Pairwise (· < ·)

end Frontend
end Wasm
end HostLink
