/-
Memories read as flat arrays.

`Memory.Flat` is what the users of a memory have in mind: a list of all its bytes, zero at
first, of which an access sees or replaces a range, and which growing makes longer.  It knows
nothing of what is committed.  Offsets and lengths are added as natural numbers, so no sum
wraps, and an operation that fails changes nothing.

`Memory.flat` reads a memory as such an array.  Under that reading a range of a memory is a
slice, and a store replaces a slice.
-/
import HostLink.Proofs.Store.Memory

namespace HostLink
namespace Memory

/-! ## Operations -/

/-- An operation of a memory with its arguments.  What is written has a length of 64 bits. -/
inductive Operation where
  | read (offset length : UInt64)
  | write (offset : UInt64) (bytes : List UInt8) (short : bytes.length < UInt64.size)
  | fill (offset : UInt64) (value : UInt8) (length : UInt64)
  | copy (source target length : UInt64)
  | grow (delta : Pages)

inductive Answer where
  | bytes (bytes : List UInt8)
  | done
  | previous (size : Pages)
  deriving DecidableEq, Repr

/-- The end of a range, if there is anything in it. -/
def endOfRange (offset length : Nat) : Option Nat :=
  if length = 0 then none else some (offset + length)

/-- The end of the range an operation writes to, if it writes anything. -/
def Operation.last? : Operation → Option Nat
  | write offset bytes _ => endOfRange offset.toNat bytes.length
  | fill offset _ length => endOfRange offset.toNat length.toNat
  | copy _ target length => endOfRange target.toNat length.toNat
  | read .. | grow _ => none

/-- The ends of the ranges that a run has written to. -/
def touched (run : List (Operation × Except MemoryError Answer)) : List Nat :=
  run.filterMap fun entry => if entry.2.isOk then entry.1.last? else none

/-- The largest of them, or zero if nothing was written. -/
def reach (run : List (Operation × Except MemoryError Answer)) : Nat := (touched run).foldr max 0

/-! ## Flat arrays -/

/-- All bytes of a memory, with what it was declared as and its size. -/
structure Flat where
  declared : MemoryType
  size : Pages
  bytes : List UInt8
  deriving DecidableEq, Repr

namespace Flat

def zero (type : MemoryType) : Flat :=
  { declared := type, size := type.minimum, bytes := List.replicate type.minimum.bytes 0 }

def Covers (f : Flat) (offset length : Nat) : Prop := offset + length ≤ f.bytes.length

instance (f : Flat) (offset length : Nat) : Decidable (f.Covers offset length) :=
  inferInstanceAs (Decidable (_ ≤ _))

def slice (f : Flat) (offset length : Nat) : List UInt8 := (f.bytes.drop offset).take length

/-- Puts new bytes in the place of as many old ones. -/
def splice (f : Flat) (offset : Nat) (new : List UInt8) : Flat :=
  { f with bytes := f.bytes.take offset ++ new ++ f.bytes.drop (offset + new.length) }

/-- Whether the array may become so much larger. -/
def Growable (f : Flat) (delta : Pages) : Prop :=
  f.size.count.toNat + delta.count.toNat < UInt32.size ∧
    ∀ maximum ∈ f.declared.maximum,
      f.size.count.toNat + delta.count.toNat ≤ maximum.count.toNat

instance (f : Flat) (delta : Pages) : Decidable (f.Growable delta) :=
  inferInstanceAs (Decidable (_ ∧ _))

def enlarge (f : Flat) (delta : Pages) : Flat :=
  { f with
    size := ⟨f.size.count + delta.count⟩
    bytes := f.bytes ++ List.replicate delta.bytes 0 }

def outside (f : Flat) (offset length : UInt64) : MemoryError :=
  .outOfBounds offset length f.bytes.length

/-- The answer of a flat array to an operation, and what it becomes.  An operation that
fails changes nothing. -/
def perform (f : Flat) : Operation → Except MemoryError Answer × Flat
  | .read offset length =>
    if f.Covers offset.toNat length.toNat then
      (.ok (.bytes (f.slice offset.toNat length.toNat)), f)
    else (.error (f.outside offset length), f)
  | .write offset bytes _ =>
    if f.Covers offset.toNat bytes.length then (.ok .done, f.splice offset.toNat bytes)
    else (.error (f.outside offset (UInt64.ofNat bytes.length)), f)
  | .fill offset value length =>
    if f.Covers offset.toNat length.toNat then
      (.ok .done, f.splice offset.toNat (List.replicate length.toNat value))
    else (.error (f.outside offset length), f)
  | .copy source target length =>
    if f.Covers source.toNat length.toNat then
      if f.Covers target.toNat length.toNat then
        (.ok .done, f.splice target.toNat (f.slice source.toNat length.toNat))
      else (.error (f.outside target length), f)
    else (.error (f.outside source length), f)
  | .grow delta =>
    if f.Growable delta then (.ok (.previous f.size), f.enlarge delta)
    else (.error (.couldNotGrow f.size delta), f)

def run : Flat → List Operation → List (Except MemoryError Answer) × Flat
  | f, [] => ([], f)
  | f, operation :: rest =>
    let (answer, f) := f.perform operation
    let (answers, f) := f.run rest
    (answer :: answers, f)

end Flat

variable {m : Memory} {type : MemoryType} {start count : Nat}

/-! ## Reading a memory as an array -/

def contents (m : Memory) : List UInt8 := (List.range m.length).map m.byte

def flat (m : Memory) : Flat := { declared := m.declared, size := m.size, bytes := m.contents }

@[simp] theorem length_contents (m : Memory) : m.contents.length = m.length := by
  simp [contents]

theorem getElem?_contents (m : Memory) (i : Nat) :
    m.contents[i]? = if i < m.length then some (m.byte i) else none := by
  by_cases hi : i < m.length
  · simp [contents, hi]
  · simp [contents, hi]

theorem slice_flat (h : start + count ≤ m.length) :
    m.flat.slice start count = (List.range count).map fun i => m.byte (start + i) := by
  apply List.ext_getElem?
  intro i
  show ((m.contents.drop start).take count)[i]? = _
  by_cases hi : i < count
  · have hlength : start + i < m.length := by omega
    rw [List.getElem?_take_of_lt hi, List.getElem?_drop, getElem?_contents, if_pos hlength]
    simp [hi]
  · rw [List.getElem?_eq_none (by simp; omega), List.getElem?_eq_none (by simp; omega)]

/-- A store replaces its range. -/
theorem flat_store {value : Nat → UInt8} (h : start + count ≤ m.length) :
    (m.store start count value).flat =
      m.flat.splice start ((List.range count).map value) := by
  have hbytes : (m.store start count value).contents =
      m.contents.take start ++ (List.range count).map value ++ m.contents.drop (start + count) := by
    apply List.ext_getElem?
    intro i
    have htake : (m.contents.take start).length = start := by
      rw [List.length_take, length_contents]
      omega
    rw [getElem?_contents, length_store, byte_store, List.append_assoc]
    rcases Nat.lt_or_ge i start with hbefore | hstart
    · have houtside : ¬ (start ≤ i ∧ i < start + count) := by omega
      rw [List.getElem?_append_left (htake.symm ▸ hbefore), List.getElem?_take_of_lt hbefore,
        getElem?_contents, if_neg houtside]
    · rw [List.getElem?_append_right (htake.symm ▸ hstart), htake]
      rcases Nat.lt_or_ge i (start + count) with hinside | hbehind
      · rw [List.getElem?_append_left (by simp; omega), if_pos (by omega), if_pos ⟨hstart, hinside⟩]
        have hdistance : i - start < count := by omega
        simp [hdistance]
      · have houtside : ¬ (start ≤ i ∧ i < start + count) := by omega
        have hdistance : start + count + (i - start - count) = i := by omega
        rw [List.getElem?_append_right (by simp; omega), List.length_map, List.length_range,
          List.getElem?_drop, hdistance, getElem?_contents, if_neg houtside]
  simp only [flat, Flat.splice, hbytes, declared_store, size_store, List.length_map,
    List.length_range]

theorem map_getD_range (bytes : List UInt8) :
    (List.range bytes.length).map (fun i => bytes.getD i 0) = bytes := by
  apply List.ext_getElem
  · simp
  · intro i _ hi
    simp [hi]

/-- A store of bytes puts them in the place of the old ones. -/
theorem flat_store_bytes {bytes : List UInt8} (h : start + bytes.length ≤ m.length) :
    (m.store start bytes.length fun i => bytes.getD i 0).flat = m.flat.splice start bytes := by
  rw [flat_store h, map_getD_range]

theorem flat_zeroed (type : MemoryType) : (zeroed type).flat = Flat.zero type := by
  have hbytes : (zeroed type).contents = List.replicate type.minimum.bytes 0 := by
    have hbyte : (zeroed type).byte = fun _ => 0 := funext fun i => byte_zeroed type i
    rw [contents, hbyte, List.map_const', List.length_range]
    rfl
  simp only [flat, Flat.zero, hbytes]
  rfl

end Memory
end HostLink
