/-
Linear memories.

A memory is sized in pages, but only the bytes below the highest offset ever written are
committed: they are stored in a buffer, which a write makes longer if it ends behind it.  The
other bytes read as zero.

An access that does not fit fails and leaves the memory as it was.  A copy is the one
operation that can do worse.  It commits its target, moves what of the source was committed
before that, and fills up with zeros; and moving the empty slice at a source that starts
behind the buffer even then brings the host down.
-/
import HostLink.Store.Buffer
import HostLink.ExternType

namespace HostLink

inductive MemoryError where
  | couldNotGrow (current delta : Pages)
  | minimumTooLarge (minimum maximum : Pages)
  | outOfBounds (offset length : UInt64) (size : Nat)
  deriving DecidableEq, Repr

def MemoryError.message : MemoryError → String
  | couldNotGrow current delta =>
    "The memory could not grow: current size " ++ current.describe ++
      ", requested increase: " ++ delta.describe
  | minimumTooLarge minimum maximum =>
    "The minimum requested (" ++ minimum.describe ++
      ") memory is greater than the maximum allowed memory (" ++ maximum.describe ++ ")"
  | outOfBounds offset length size =>
    "out of bounds memory access at offset " ++ toString offset ++ " (length " ++
      toString length ++ "), memory size is " ++ toString size ++ " bytes"

structure Memory where
  declared : MemoryType
  size : Pages
  /-- The committed bytes. -/
  data : Buffer UInt8

namespace Memory

def create (type : MemoryType) : Except MemoryError Memory :=
  match type.maximum with
  | some maximum =>
    if maximum.count < type.minimum.count then .error (.minimumTooLarge type.minimum maximum)
    else .ok { declared := type, size := type.minimum, data := .empty }
  | none => .ok { declared := type, size := type.minimum, data := .empty }

/-- The declared type with the minimum raised to the current size. -/
def type (m : Memory) : MemoryType := { m.declared with minimum := m.size }

def length (m : Memory) : Nat := m.size.bytes

/-- The sum of an offset and a length, unless it wraps. -/
def endOf? (offset length : UInt64) : Option UInt64 :=
  if offset.toNat + length.toNat < UInt64.size then some (offset + length) else none

def checkBounds (m : Memory) (offset length : UInt64) : Except MemoryError Unit :=
  match endOf? offset length with
  | some last =>
    if last.toNat ≤ m.length then .ok () else .error (.outOfBounds offset length m.length)
  | none => .error (.outOfBounds offset length m.length)

/-- How many bytes are stored. -/
def committed (m : Memory) : Nat := m.data.length

/-- The buffer with everything below an end in it. -/
def backing (m : Memory) (last : Nat) : Buffer UInt8 :=
  if m.data.length < last then m.data.resize last 0 else m.data

theorem le_length_backing (m : Memory) (last : Nat) : last ≤ (m.backing last).length := by
  rw [backing]
  split
  · exact Nat.le_refl last
  · rename_i h
    exact Nat.le_of_not_lt h

/-- Commits everything below an end. -/
def commit (m : Memory) (last : Nat) : Memory := { m with data := m.backing last }

/-- The byte at an offset.  What was not committed is zero. -/
def byte (m : Memory) (place : Nat) : UInt8 :=
  if h : place < m.data.length then m.data.cell ⟨place, h⟩ else 0

def read (m : Memory) (offset length : UInt64) : Except MemoryError (List UInt8) := do
  m.checkBounds offset length
  pure ((List.range length.toNat).map fun i => m.byte (offset.toNat + i))

def write (m : Memory) (offset : UInt64) (bytes : List UInt8) : Except MemoryError Memory := do
  m.checkBounds offset (UInt64.ofNat bytes.length)
  if bytes.isEmpty then pure m
  else
    let last := offset.toNat + bytes.length
    pure { m with
      data := (m.backing last).overwrite offset.toNat bytes
        ⟨Nat.le_add_right _ _, m.le_length_backing last⟩ }

def fill (m : Memory) (offset : UInt64) (value : UInt8) (length : UInt64) :
    Except MemoryError Memory := do
  m.checkBounds offset length
  if length = 0 then pure m
  else
    let last := offset.toNat + length.toNat
    pure { m with
      data := (m.backing last).fill offset.toNat last value
        ⟨Nat.le_add_right _ _, m.le_length_backing last⟩ }

/-- How many bytes at a source are committed, out of so many. -/
def committedFrom (m : Memory) (source length : UInt64) : Nat :=
  -- The natural difference is zero where the source starts behind the buffer.
  min (m.data.length - source.toNat) length.toNat

/-- How a copy within bounds ends. -/
inductive Copy where
  | done (memory : Memory)
  | crash (memory : Memory)

/-- Copies a range to another one, which may overlap it. -/
def copyWithin (m : Memory) (source target length : UInt64) : Except MemoryError Copy := do
  m.checkBounds source length
  m.checkBounds target length
  if length = 0 then pure (.done m)
  else
    let moved := m.committedFrom source length
    let last := target.toNat + length.toNat
    if h : (m.backing last).CanCopy source.toNat (source.toNat + moved) target.toNat then
      let data := (m.backing last).copyWithin source.toNat (source.toNat + moved) target.toNat h
      pure (.done { m with
        data := data.fill (target.toNat + moved) last 0
          ⟨Nat.add_le_add_left (Nat.min_le_right _ _) _, m.le_length_backing last⟩ })
    else pure (.crash (m.commit last))

/-- Adds pages at the end and gives the previous size too. -/
def grow (m : Memory) (delta : Pages) : Except MemoryError (Memory × Pages) :=
  match m.size.add? delta with
  | some size =>
    if m.declared.maximum.any fun maximum => maximum.count < size.count then
      .error (.couldNotGrow m.size delta)
    else .ok ({ m with size := size }, m.size)
  | none => .error (.couldNotGrow m.size delta)

end Memory
end HostLink
