/-
Reading bytes from the front.

A reader takes an item off a byte list, or fails.  The integers are LEB128: seven
bits a byte, the least significant first, a set top bit asking for more.  An
encoding may be longer than needed but not longer than the width of its integer,
and the bits past the width have to be absent.
-/
import HostLink.Wasm.Frontend

namespace HostLink
namespace Wasm

abbrev Reader (α : Type) := StateT Bytes Option α

namespace Reader

def fail {α : Type} : Reader α := fun _ => none

def byte : Reader UInt8
  | [] => none
  | b :: rest => some (b, rest)

/-- The next byte, left in place. -/
def peek : Reader UInt8
  | [] => none
  | b :: rest => some (b, b :: rest)

def take (n : Nat) : Reader Bytes := fun bytes =>
  let front := bytes.take n
  if front.length = n then some (front, bytes.drop n) else none

/-- Unsigned LEB128 from bit `place` on, with at most `fuel` bytes. -/
def unsignedFrom (width : Nat) : Nat → Nat → Reader Nat
  | 0, _ => fail
  | fuel + 1, place => fun
    | [] => none
    | b :: rest =>
      let low := b.toNat % 128 * Nat.pow 2 place
      if low ≥ Nat.pow 2 width then none
      else if b.toNat < 128 then some (low, rest)
      else (unsignedFrom width fuel (place + 7) rest).map fun (high, rest) => (low + high, rest)

def unsigned (width : Nat) : Reader Nat := unsignedFrom width ((width + 6) / 7) 0

def u32 : Reader Nat := unsigned 32

def u64 : Reader Nat := unsigned 64

/-- Signed LEB128 from bit `place` on; the top bit of the last byte is the sign. -/
def signedFrom : Nat → Nat → Reader Int
  | 0, _ => fail
  | fuel + 1, place => fun
    | [] => none
    | b :: rest =>
      let low := b.toNat % 128
      if b.toNat < 128 then
        let value : Int := if low < 64 then low else (low : Int) - 128
        some (value * Nat.pow 2 place, rest)
      else
        (signedFrom fuel (place + 7) rest).map fun (high, rest) =>
          (low * Nat.pow 2 place + high, rest)

/-- A signed integer of the given width.  The bits past the width have to repeat
the sign, so the value decides. -/
def signed (width : Nat) : Reader Int := do
  let value ← signedFrom ((width + 6) / 7) 0
  if -(Nat.pow 2 (width - 1)) ≤ value ∧ value < Nat.pow 2 (width - 1) then pure value else fail

/-- A length that may not exceed a bound. -/
def size (bound : Nat) : Reader Nat := do
  let n ← u32
  if n ≤ bound then pure n else fail

/-- Bytes under a length. -/
def block : Reader Bytes := do
  let n ← u32
  take n

/-- The longest name in bytes. -/
def maxNameSize : Nat := 100000

def name : Reader String := do
  let n ← size maxNameSize
  let bytes ← take n
  match String.fromUTF8? ⟨bytes.toArray⟩ with
  | some text => pure text
  | none => fail

def many {α : Type} (item : Reader α) : Nat → Reader (List α)
  | 0 => pure []
  | n + 1 => do
    let first ← item
    let rest ← many item n
    pure (first :: rest)

/-! ## Types -/

/-- Type indices have twenty bits. -/
def maxTypeIndex : Nat := Nat.pow 2 20 - 1

/-- A heap type: a code, a shared code, or a type index as a signed integer. -/
def heapType : Reader HeapType := do
  let first ← peek
  if first = 0x65 then
    let _ ← byte
    match AbstractHeap.ofCode? (← byte) with
    | some heap => pure (.abstract true heap)
    | none => fail
  else
    match AbstractHeap.ofCode? first with
    | some heap =>
      let _ ← byte
      pure (.abstract false heap)
    | none =>
      let index ← signed 33
      if 0 ≤ index ∧ index ≤ maxTypeIndex then pure (.concrete index.toNat) else fail

/-- A reference type.  Without one of the two leading codes it is a heap type and nullable.  A
type index in this place is read like any other heap type: a global of the content type `0x00` is
refused as one of an unsupported reference, and not as malformed. -/
def refType : Reader RefType := do
  let first ← peek
  if first = 0x63 ∨ first = 0x64 then
    let _ ← byte
    let heap ← heapType
    pure { nullable := first == 0x63, heap := heap }
  else
    let heap ← heapType
    pure { nullable := true, heap := heap }

def numberType? : UInt8 → Option ValType
  | 0x7f => some .i32
  | 0x7e => some .i64
  | 0x7d => some .f32
  | 0x7c => some .f64
  | 0x7b => some .v128
  | _ => none

def valType : Reader ValType := do
  match numberType? (← peek) with
  | some type =>
    let _ ← byte
    pure type
  | none =>
    let type ← refType
    pure (.ref type)

/-- The most parameters, and the most results, of a function. -/
def maxArity : Nat := 1000

def funcType : Reader FuncType := do
  let params ← many valType (← size maxArity)
  let results ← many valType (← size maxArity)
  pure { params := params, results := results }

def limit (index64 : Bool) : Reader Nat := if index64 then u64 else u32

def optional {α : Type} (present : Bool) (item : Reader α) : Reader (Option α) :=
  if present then some <$> item else pure none

def flag (flags : UInt8) (i : Nat) : Bool := flags.toNat.testBit i

def tableType : Reader TableType := do
  let element ← refType
  let flags ← byte
  if flags ≥ 8 then fail
  let index64 := flag flags 2
  let minimum ← limit index64
  let maximum ← optional (flag flags 0) (limit index64)
  pure { element := element, index64 := index64, shared := flag flags 1,
         minimum := minimum, maximum := maximum }

def memoryType : Reader MemoryType := do
  let flags ← byte
  if flags ≥ 16 then fail
  let index64 := flag flags 2
  let minimum ← limit index64
  let maximum ← optional (flag flags 0) (limit index64)
  let pageSizeLog2 ← optional (flag flags 3) u32
  pure { index64 := index64, shared := flag flags 1, minimum := minimum, maximum := maximum,
         pageSizeLog2 := pageSizeLog2 }

def globalType : Reader GlobalType := do
  let content ← valType
  let flags ← byte
  if flags ≥ 4 then fail
  pure { content := content, mutable := flag flags 0, shared := flag flags 1 }

/-- A tag: an attribute byte that has to be zero, and its type. -/
def tagType : Reader Nat := do
  if (← byte) ≠ 0 then fail
  u32

def typeRef : Reader TypeRef := do
  match ExternKind.ofCode? (← byte) with
  | some .func => .func <$> u32
  | some .table => .table <$> tableType
  | some .memory => .memory <$> memoryType
  | some .global => .global <$> globalType
  | some .tag => .tag <$> tagType
  | none => fail

end Reader
end Wasm
end HostLink
