/-
Taking items off the front of a list of trees.

`Items.whole` runs a reader on the inside of a bracket and demands that nothing
is left over, so each construct is described by what stands in its bracket.
-/
import HostLink.Wat.Tree
import HostLink.Wasm.Type

namespace HostLink
namespace Wat

abbrev Items (α : Type) := StateT (List Tree) Option α

namespace Items

def fail {α : Type} : Items α := fun _ => none

def atEnd : Items Bool := fun trees => some (trees.isEmpty, trees)

def remaining : Items (List Tree) := fun trees => some (trees, [])

/-- The tree at the front, left in place. -/
def front? : Items (Option Tree) := fun trees => some (trees.head?, trees)

/-- What a reader makes of a list of trees if it uses all of them. -/
def whole {α : Type} (reader : Items α) (trees : List Tree) : Option α :=
  match reader trees with
  | some (value, []) => some value
  | _ => none

def nextKeyword? : Items (Option String)
  | .atom (.keyword text) :: rest => some (some text, .atom (.keyword text) :: rest)
  | trees => some (none, trees)

def keyword : Items String
  | .atom (.keyword text) :: rest => some (text, rest)
  | _ => none

def keyword? (text : String) : Items Bool
  | .atom (.keyword found) :: rest =>
    some (if found = text then (true, rest) else (false, .atom (.keyword found) :: rest))
  | trees => some (false, trees)

/-- Reads the inside of a bracket at the front that opens with a given keyword. -/
def list? {α : Type} (head : String) (reader : Items α) : Items (Option α)
  | .list (.atom (.keyword found) :: inside) :: rest =>
    if found = head then (whole reader inside).map fun value => (some value, rest)
    else some (none, .list (.atom (.keyword found) :: inside) :: rest)
  | trees => some (none, trees)

def list : Items (List Tree)
  | .list inside :: rest => some (inside, rest)
  | _ => none

/-- Takes nothing if the reader finds nothing. -/
def attempt {α : Type} (reader : Items (Option α)) : Items (Option α) := fun trees =>
  match reader trees with
  | some (none, _) => some (none, trees)
  | result => result

def manyWithin {α : Type} (item : Items (Option α)) : Nat → Items (List α)
  | 0 => pure []
  | fuel + 1 => do
    match ← item with
    | none => pure []
    | some first =>
      let rest ← manyWithin item fuel
      pure (first :: rest)

/-- Items as long as there are any; each takes a tree at least. -/
def many {α : Type} (item : Items (Option α)) : Items (List α) := fun trees =>
  manyWithin item trees.length trees

def all {α : Type} (item : Items α) : Items (List α) :=
  many do if ← atEnd then pure none else some <$> item

/-! ## Strings and names -/

def string : Items (List UInt8)
  | .atom (.string bytes) :: rest => some (bytes, rest)
  | _ => none

/-- All strings up to the end, joined. -/
def strings : Items (List UInt8) := List.flatten <$> all string

def text : Items String := do
  match String.fromUTF8? ⟨(← string).toArray⟩ with
  | some text => pure text
  | none => fail

/-- The name a note gives to the thing it stands in. -/
def nameNote? : Items (Option String)
  | .note "name" inside :: rest => (whole text inside).map fun name => (some name, rest)
  | trees => some (none, trees)

def plainId? : Items (Option String)
  | .atom (.id name) :: rest => some (some name, rest)
  | trees => some (none, trees)

/-- An identifier, if there is one, and a note on the name behind it. -/
def id? : Items (Option String) := do
  let id ← plainId?
  let _ ← nameNote?
  pure id

/-! ## Numbers -/

def unsigned (width : Nat) : Items Nat
  | .atom (.integer false n) :: rest => if n < Nat.pow 2 width then some (n, rest) else none
  | _ => none

/-- An integer of `width` bits as a natural number; it may be written with a sign
or without. -/
def word (width : Nat) : Items Nat
  | .atom (.integer negative n) :: rest =>
    if negative then
      if n ≤ Nat.pow 2 (width - 1) then some ((Nat.pow 2 width - n) % Nat.pow 2 width, rest)
      else none
    else if n < Nat.pow 2 width then some (n, rest)
    else none
  | _ => none

def atInteger : Items Bool
  | .atom (.integer negative n) :: rest => some (true, .atom (.integer negative n) :: rest)
  | trees => some (false, trees)

end Items
end Wat
end HostLink
