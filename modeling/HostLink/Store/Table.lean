/-
Tables of functions.

Like a memory, a table has a size and stores less than that: the slots up to the highest one
ever filled are in a buffer, and the others are empty.  `α` is what a slot refers to a
function by.
-/
import HostLink.Store.Buffer
import HostLink.ExternType

namespace HostLink

inductive TableError where
  | minimumTooLarge (minimum maximum : UInt32)
  | outOfBounds (index size : UInt32)
  | couldNotGrow (current delta : UInt32)
  deriving DecidableEq, Repr

def TableError.message : TableError → String
  | minimumTooLarge minimum maximum =>
    "table minimum (" ++ toString minimum ++ ") is greater than its maximum (" ++
      toString maximum ++ ")"
  | outOfBounds index size =>
    "table index " ++ toString index ++ " is out of bounds for a table of " ++
      toString size ++ " elements"
  | couldNotGrow current delta =>
    "the table could not grow from " ++ toString current ++ " by " ++ toString delta ++ " elements"

structure Table (α : Type) where
  declared : TableType
  size : UInt32
  elements : Buffer (Option α)

namespace Table

variable {α : Type}

def create (type : TableType) : Except TableError (Table α) :=
  match type.maximum with
  | some maximum =>
    if maximum < type.minimum then .error (.minimumTooLarge type.minimum maximum)
    else .ok { declared := type, size := type.minimum, elements := .empty }
  | none => .ok { declared := type, size := type.minimum, elements := .empty }

/-- The declared type with the minimum raised to the current size. -/
def type (t : Table α) : TableType := { t.declared with minimum := t.size }

/-- What a slot holds.  One that is not stored is empty. -/
def slot (t : Table α) (index : UInt32) : Option α := (t.elements.get? index.toNat).join

def get (t : Table α) (index : UInt32) : Except TableError (Option α) :=
  if index < t.size then .ok (t.slot index) else .error (.outOfBounds index t.size)

/-- Sets a slot.  One behind the buffer is appended to it, unless it would be empty anyway. -/
def set (t : Table α) (index : UInt32) (value : Option α) : Except TableError (Table α) :=
  if index < t.size then
    if h : index.toNat < t.elements.length then
      .ok { t with elements := t.elements.set index.toNat value h }
    else if value.isNone then .ok t
    else
      let longer := t.elements.resize (index.toNat + 1) none
      .ok { t with elements := longer.set index.toNat value (Nat.lt_succ_self _) }
  else .error (.outOfBounds index t.size)

def grow (t : Table α) (delta : UInt32) : Except TableError (Table α × UInt32) :=
  if t.size.toNat + delta.toNat < UInt32.size ∧
      t.declared.maximum.all fun maximum => t.size + delta ≤ maximum then
    .ok ({ t with size := t.size + delta }, t.size)
  else .error (.couldNotGrow t.size delta)

end Table
end HostLink
