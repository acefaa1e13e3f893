/-
Where a legacy module expects things in its memory.

The C runtime of such a module keeps its stack between two fixed addresses and a
block of variables at a third one.  `GlobalsBlock` is that block; it takes 32 bytes,
of which two gaps of four are padding.
-/
import HostLink.Ieee.Format
import HostLink.LittleEndian
import HostLink.Log
import HostLink.Store.Memory

namespace HostLink

/-- Addresses in the memory of a legacy module. -/
structure Layout where
  stackTop : UInt32 := 64 * 0x10000
  stackMax : UInt32 := 256 * 0x10000
  globalsAddress : UInt32 := 63 * 0x10000
  deriving DecidableEq, Repr

namespace Layout

def standard : Layout := {}

def globalsField (layout : Layout) (offset : UInt32) : UInt32 := layout.globalsAddress + offset

end Layout

def invalidArgument : Int32 := 22

inductive Stream where
  | stderr
  | stdin
  | stdout
  deriving DecidableEq, Repr

def Stream.number : Stream → Int32
  | stderr => 1
  | stdin => 2
  | stdout => 3

/-- The variables the C runtime reads and writes through memory. -/
structure GlobalsBlock where
  dynamicTop : UInt32
  tempDouble : Ieee.Binary64
  stderr : Int32
  stdin : Int32
  stdout : Int32
  deriving DecidableEq, Repr

namespace GlobalsBlock

def size : Nat := 32

/-! ## Offsets of the fields -/

def dynamicTopOffset : UInt32 := 0

def tempDoubleOffset : UInt32 := 8

def stderrOffset : UInt32 := 16

def stdinOffset : UInt32 := 20

def stdoutOffset : UInt32 := 24

/-! ## Contents -/

/-- The first contents: the heap begins at the top of the stack. -/
def initial (layout : Layout) : GlobalsBlock :=
  { dynamicTop := layout.stackMax
    tempDouble := .zero
    stderr := Stream.stderr.number
    stdin := Stream.stdin.number
    stdout := Stream.stdout.number }

def encode (block : GlobalsBlock) : List UInt8 :=
  let word (w : UInt32) := LittleEndian.encode 4 w.toNat
  let padding := LittleEndian.encode 4 0
  word block.dynamicTop ++ padding ++ LittleEndian.encode 8 block.tempDouble.bits.toNat ++
    word block.stderr.toUInt32 ++ word block.stdin.toUInt32 ++ word block.stdout.toUInt32 ++ padding

/-- The contents of a block of bytes.  Padding is not looked at. -/
def decode (bytes : List UInt8) : GlobalsBlock :=
  let word (offset : UInt32) :=
    UInt32.ofNat (LittleEndian.decode ((bytes.drop offset.toNat).take 4))
  { dynamicTop := word dynamicTopOffset
    tempDouble := .ofNatBits (LittleEndian.decode ((bytes.drop tempDoubleOffset.toNat).take 8))
    stderr := (word stderrOffset).toInt32
    stdin := (word stdinOffset).toInt32
    stdout := (word stdoutOffset).toInt32 }

/-- Whether two blocks hold the same numbers; a NaN is not the same as itself. -/
def numEq (x y : GlobalsBlock) : Bool :=
  x.dynamicTop == y.dynamicTop && x.tempDouble.numEq y.tempDouble && x.stderr == y.stderr &&
    x.stdin == y.stdin && x.stdout == y.stdout

def writeTo (block : GlobalsBlock) (m : Memory) (address : UInt32) : Except MemoryError Memory :=
  m.write address.toUInt64 block.encode

def readFrom (m : Memory) (address : UInt32) : Except MemoryError GlobalsBlock :=
  (m.read address.toUInt64 (UInt64.ofNat size)).map decode

/-- Writes the first contents where the layout wants them, all or nothing. -/
def patch (m : Memory) (layout : Layout) : Logged (Except MemoryError (Memory × GlobalsBlock)) :=
  let block := initial layout
  match block.writeTo m layout.globalsAddress with
  | .error error => pure (.error error)
  | .ok m => do
    Logged.emit .debug "patched mutable globals"
      [("address", toString layout.globalsAddress), ("dynamictop_ptr", toString block.dynamicTop)]
    pure (.ok (m, block))

end GlobalsBlock
end HostLink
