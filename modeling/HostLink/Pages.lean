/-
Memory sizes in WebAssembly pages.

A page count is a 32-bit word and is not capped at the 65536 pages a 32-bit
address space has, since a legacy memory is given a ceiling far above that.
-/

namespace HostLink

def pageSize : Nat := 0x10000

structure Pages where
  count : UInt32
  deriving DecidableEq, Repr, Inhabited

namespace Pages

instance : OfNat Pages n := ⟨⟨OfNat.ofNat n⟩⟩

def bytes (pages : Pages) : Nat := pages.count.toNat * pageSize

def add? (x y : Pages) : Option Pages :=
  if x.count.toNat + y.count.toNat < UInt32.size then some ⟨x.count + y.count⟩ else none

def describe (pages : Pages) : String := toString pages.count ++ " pages"

end Pages

def describeBytes (bytes : Nat) : String := toString bytes ++ " bytes"

end HostLink
