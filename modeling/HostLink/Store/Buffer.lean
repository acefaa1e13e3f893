/-
Growable buffers.

What a memory or a table has stored is a buffer: as many cells as its length says, and
nothing behind the last of them.  A cell is accessed by an index in bounds.  Longer runs of
cells are changed as slices, whose ends are checked before a cell is touched; an operation on
a slice takes the check as its argument.

The cells are a function of their index rather than an array, because buffers of gigabytes
of which a few cells were touched are the usual case.
-/
namespace HostLink

structure Buffer (α : Type) where
  length : Nat
  cell : Fin length → α

namespace Buffer

variable {α : Type}

def empty : Buffer α := { length := 0, cell := nofun }

def get? (b : Buffer α) (i : Nat) : Option α :=
  if h : i < b.length then some (b.cell ⟨i, h⟩) else none

def set (b : Buffer α) (i : Nat) (value : α) (_ : i < b.length) : Buffer α :=
  { b with cell := fun j => if j.val = i then value else b.cell j }

/-- Gives the buffer a new length.  New cells at its end hold the given value. -/
def resize (b : Buffer α) (length : Nat) (value : α) : Buffer α :=
  { length, cell := fun i => if h : i.val < b.length then b.cell ⟨i, h⟩ else value }

/-- Whether the cells from a start to before a last one are a slice of the buffer. -/
structure HasSlice (b : Buffer α) (start last : Nat) : Prop where
  ordered : start ≤ last
  inside : last ≤ b.length

/-- Gives the cells of a slice the values of a list of the same length. -/
def overwrite (b : Buffer α) (start : Nat) (values : List α)
    (_ : b.HasSlice start (start + values.length)) : Buffer α :=
  { b with
    cell := fun i =>
      if h : start ≤ i.val ∧ i.val - start < values.length then values[i.val - start]
      else b.cell i }

/-- Gives all cells of a slice one value. -/
def fill (b : Buffer α) (start last : Nat) (value : α) (_ : b.HasSlice start last) : Buffer α :=
  { b with cell := fun i => if start ≤ i.val ∧ i.val < last then value else b.cell i }

/-- Whether a slice may be copied to a target: it is one, and so are the cells there. -/
structure CanCopy (b : Buffer α) (start last target : Nat) : Prop where
  slice : b.HasSlice start last
  room : target ≤ b.length - (last - start)

theorem canCopy_iff {b : Buffer α} {start last target : Nat} :
    b.CanCopy start last target ↔
      (start ≤ last ∧ last ≤ b.length) ∧ target ≤ b.length - (last - start) :=
  ⟨fun h => ⟨⟨h.slice.ordered, h.slice.inside⟩, h.room⟩, fun h => ⟨⟨h.1.1, h.1.2⟩, h.2⟩⟩

instance (b : Buffer α) (start last target : Nat) : Decidable (b.CanCopy start last target) :=
  decidable_of_iff' _ canCopy_iff

/-- Copies a slice to a target, which may overlap it; it is read before anything is written. -/
def copyWithin (b : Buffer α) (start last target : Nat) (can : b.CanCopy start last target) :
    Buffer α :=
  { b with
    cell := fun i =>
      if h : target ≤ i.val ∧ i.val - target < last - start then
        b.cell ⟨start + (i.val - target), by have := can.slice.inside; omega⟩
      else b.cell i }

def toList (b : Buffer α) : List α := List.ofFn b.cell

end Buffer
end HostLink
