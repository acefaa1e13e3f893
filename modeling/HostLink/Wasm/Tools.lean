/-
The front end that the program brings along.

It stands in for the tools of a full WebAssembly implementation.  The text format and the
instructions are covered as far as modules for linking need them; a function body with an
instruction that `Instr` does not have is refused, also if it is valid elsewhere.
-/
import HostLink.Wasm.Valid
import HostLink.Wat.Assembly

namespace HostLink
namespace Wasm

def invalidReason : String := "invalid module"

/-- What starts like a binary is one, and anything else has to be a text. -/
def assemble (bytes : Bytes) : Except String Bytes :=
  if magic.isPrefixOf bytes then .ok bytes
  else
    match (String.fromUTF8? ⟨bytes.toArray⟩).bind Wat.assemble? with
    | some binary => .ok binary
    | none => .error malformedReason

def parse (bytes : Bytes) : List Reading :=
  match Binary.decode bytes with
  | some binary => binary.cuts.map Section.Cut.reading
  | none => [{ payload := .error malformedReason, stop := none }]

def validate (bytes : Bytes) : Except String Unit :=
  if (Binary.decode bytes).any Binary.isValid then .ok () else .error invalidReason

def tools : Frontend := { assemble := assemble, parse := parse, validate := validate }

end Wasm
end HostLink
