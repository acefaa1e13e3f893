/-
The reader and the writer that the program brings along.

The reader covers TOML 1.0.  Of what can be written, the writer has tables of integers only,
which is what configurations consist of.
-/
import HostLink.Toml.Document

namespace HostLink
namespace Toml

def malformedReason : String := "malformed document"

def misshapenReason : String := "unexpected key or value"

def read (text : String) : Except String Entries :=
  match read? text with
  | some nodes => .ok (tableValues nodes)
  | none => .error malformedReason

def unwritableReason (key : String) : String := "cannot write the value of " ++ key

def entryLine : String × Value → Except String String
  | (key, .integer i) => .ok (key ++ " = " ++ toString i)
  | (key, _) => .error (unwritableReason key)

def sectionLines : String × Value → Except String (List String)
  | (title, .table entries) => do
    let assignments ← entries.mapM entryLine
    pure (("[" ++ title ++ "]") :: assignments)
  | (key, _) => .error (unwritableReason key)

/-- Tables with a blank line in between. -/
def write (entries : Entries) : Except String String := do
  let sections ← entries.mapM sectionLines
  pure ("\n".intercalate (sections.flatMap (· ++ [""])))

def tools : Format :=
  { read := read, refusal := fun _ => misshapenReason, write := write }

end Toml
end HostLink
