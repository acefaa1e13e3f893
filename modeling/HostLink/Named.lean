/-
Ordered entries under names.

The order is the one in which the names first came.  Giving a name another value
keeps its place, and a name that was removed comes back at the end.
-/

namespace HostLink

/-- Entries under names. -/
abbrev Named (α : Type) := List (String × α)

namespace Named

variable {α : Type}

def get? : Named α → String → Option α
  | [], _ => none
  | (name, value) :: rest, key => if name = key then some value else get? rest key

def contains (entries : Named α) (key : String) : Bool := (entries.get? key).isSome

def put : Named α → String → α → Named α
  | [], key, value => [(key, value)]
  | (name, old) :: rest, key, value =>
    if name = key then (name, value) :: rest else (name, old) :: put rest key value

def remove (entries : Named α) (key : String) : Named α :=
  entries.filter fun entry => entry.1 != key

/-- Gives further names their values, one after the other. -/
def putAll (entries others : Named α) : Named α :=
  others.foldl (fun entries entry => entries.put entry.1 entry.2) entries

/-- The entries of a list in which a name may come again. -/
def ofList (entries : List (String × α)) : Named α := putAll [] entries

def names (entries : Named α) : List String := entries.map Prod.fst

end Named
end HostLink
