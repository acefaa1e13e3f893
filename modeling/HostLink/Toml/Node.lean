/-
What a TOML document is read into.

A table remembers how it came to be, since that decides whether a later line may add
to it.
-/
import HostLink.Toml.Format

namespace HostLink
namespace Toml

/-- How a table came to be. -/
inductive TableKind where
  /-- Between braces; it is closed. -/
  | inline
  /-- By a header of its own. -/
  | header
  /-- On the way to the table of a header. -/
  | implied
  /-- On the way of a dotted key. -/
  | dotted
  deriving DecidableEq, Repr

inductive Node where
  | string (text : String)
  | integer (value : Int)
  | float (text : String)
  | boolean (value : Bool)
  | date (text : String)
  | array (items : List Node)
  | table (kind : TableKind) (entries : List (String × Node))
  | tables (elements : List (List (String × Node)))
  deriving Repr

abbrev Nodes := Named Node

namespace Nodes

/-- Opens the table at a path and changes its entries.  Tables on the way that do not
exist are made, of the given kind.  A dotted key only passes through tables made by
dotted keys; a header passes through any table but an inline one, and through an array
of tables by its last element. -/
def change (kind : TableKind) (edit : Nodes → Option Nodes) :
    List String → Nodes → Option Nodes
  | [], entries => edit entries
  | key :: path, entries => do
    let value ←
      match entries.get? key with
      | none => (change kind edit path []).map (.table kind)
      | some (.table found inside) =>
        if found = .inline ∨ (kind = .dotted ∧ found ≠ .dotted) then none
        else (change kind edit path inside).map (.table found)
      | some (.tables elements) =>
        match elements.getLast? with
        | some inside =>
          if kind = .dotted then none
          else (change kind edit path inside).map fun inside =>
            .tables (elements.dropLast ++ [inside])
        | none => none
      | some _ => none
    pure (entries.put key value)

/-- Gives a key its first value. -/
def define (key : String) (value : Node) (entries : Nodes) : Option Nodes :=
  if entries.contains key then none else some (entries.put key value)

def assign (path : List String) (key : String) (value : Node) (entries : Nodes) :
    Option Nodes :=
  change .dotted (define key value) path entries

/-- Opens the table of a header, which may exist only on the way to another one. -/
def openTable (key : String) (entries : Nodes) : Option Nodes :=
  match entries.get? key with
  | none => some (entries.put key (.table .header []))
  | some (.table .implied inside) => some (entries.put key (.table .header inside))
  | some _ => none

/-- Opens a further element of an array of tables. -/
def openElement (key : String) (entries : Nodes) : Option Nodes :=
  match entries.get? key with
  | none => some (entries.put key (.tables [[]]))
  | some (.tables elements) => some (entries.put key (.tables (elements ++ [[]])))
  | some _ => none

end Nodes

/-! ## Values

The elements of an array of tables are tables in an array. -/

mutual

def Node.value : Node → Value
  | .string text => .string text
  | .integer i => .integer i
  | .float text => .float text
  | .boolean b => .boolean b
  | .date text => .date text
  | .array items => .array (arrayValues items)
  | .table _ entries => .table (tableValues entries)
  | .tables elements => .array (elementValues elements)

def arrayValues : List Node → List Value
  | [] => []
  | item :: rest => item.value :: arrayValues rest

def tableValues : List (String × Node) → List (String × Value)
  | [] => []
  | (key, node) :: rest => (key, node.value) :: tableValues rest

def elementValues : List (List (String × Node)) → List Value
  | [] => []
  | entries :: rest => .table (tableValues entries) :: elementValues rest

end

end Toml
end HostLink
