/-
Notes that tools leave in a module.

They say what a module was made with and how it is loaded dynamically.  Neither
bears on what it declares, so only their form is checked.
-/
import HostLink.Wat.Items

namespace HostLink
namespace Wat
namespace Items

def ignoring {α : Type} (item : Items α) : Items Unit := do
  let _ ← item

/-- One of some lists, each by its keyword and what follows it. -/
def oneOf (lists : List (String × Items Unit)) : Items Unit := do
  let inside : Items Unit := do
    match lists.lookup (← keyword) with
    | some reader => reader
    | none => fail
  match whole inside (← list) with
  | some () => pure ()
  | none => fail

/-- The tools a module was made with, each by name and version. -/
def producers : Items Unit :=
  let tool : Items Unit := do
    let _ ← text
    ignoring text
  ignoring (all (oneOf [("language", tool), ("sdk", tool), ("processed-by", tool)]))

/-! ## Dynamic loading -/

def symbolFlags : List String :=
  ["binding-weak", "binding-local", "visibility-hidden", "undefined", "exported",
   "explicit-name", "no-strip", "tls", "absolute"]

/-- A flag by keyword, or some by number. -/
def symbolFlag : Items Unit := do
  if ← atInteger then ignoring (unsigned 32)
  else if symbolFlags.contains (← keyword) then pure ()
  else fail

/-- A size and an alignment. -/
def extent : Items Unit := do
  let _ ← unsigned 32
  ignoring (unsigned 32)

def dynamicLoading : Items Unit :=
  let names : Items Unit := ignoring (all text)
  let flags : Items Unit := ignoring (all symbolFlag)
  let space : Items Unit := do
    let _ ← list? "memory" extent
    ignoring (list? "table" extent)
  let exported : Items Unit := do
    let _ ← text
    flags
  let imported : Items Unit := do
    let _ ← text
    exported
  ignoring (all (oneOf [("mem-info", space), ("needed", names), ("export-info", exported),
    ("import-info", imported), ("runtime-path", names)]))

end Items
end Wat
end HostLink
