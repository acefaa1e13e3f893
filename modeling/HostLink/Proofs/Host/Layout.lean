/-
The block of variables in a memory.

The block takes as many bytes as it says it does, so a memory it lies in takes it as
one write.  Each variable is found again by reading from the block at its offset.

The host computes the addresses of the variables with 32-bit words.  A sum that wraps
gives an address far before the block, and in a memory that is zero everywhere else the
number found there is zero; `number?_globalsField` has both cases.
-/
import HostLink.Host.Layout
import HostLink.Proofs.Store.Memory

namespace HostLink

theorem LittleEndian.encode_zero (count : Nat) : encode count 0 = List.replicate count 0 := by
  induction count with
  | zero => rfl
  | succ count ih =>
    rw [List.replicate_succ, ← ih]
    rfl

theorem LittleEndian.decode_replicate_zero (count : Nat) :
    decode (List.replicate count 0) = 0 := by
  rw [← encode_zero, decode_encode, Nat.zero_mod]

theorem LittleEndian.decode_word (word : UInt32) : decode (encode 4 word.toNat) = word.toNat := by
  rw [decode_encode]
  exact Nat.mod_eq_of_lt word.toNat_lt

/-- The number at an address, if the memory reaches that far. -/
def Memory.number? (m : Memory) (address length : UInt64) : Option Nat :=
  (m.read address length).toOption.map LittleEndian.decode

/-! ## Streams -/

/-- The name under which a module imports the pointer to a stream. -/
def Stream.symbol : Stream → String
  | stderr => "_stderr"
  | stdin => "_stdin"
  | stdout => "_stdout"

/-- The offset of the variable of a stream. -/
def Stream.offset : Stream → UInt32
  | stderr => GlobalsBlock.stderrOffset
  | stdin => GlobalsBlock.stdinOffset
  | stdout => GlobalsBlock.stdoutOffset

namespace GlobalsBlock

variable {m patched : Memory} {layout : Layout} {block : GlobalsBlock} {base : UInt32}
  {address length : UInt64} {type : MemoryType}

@[simp] theorem length_encode (block : GlobalsBlock) : block.encode.length = size := by
  simp [encode, size]

theorem evolves_writeTo (h : block.writeTo m base = .ok patched) : m.Evolves patched :=
  .single (.write h)

theorem encode_short (block : GlobalsBlock) : block.encode.length < UInt64.size := by
  rw [length_encode]
  decide

theorem writeTo_eq_ok (h : base.toNat + size ≤ m.length) :
    block.writeTo m base =
      .ok (m.store base.toNat size fun i => block.encode.getD i 0) := by
  have hfits : base.toUInt64.toNat + block.encode.length ≤ m.length := by
    rwa [length_encode, UInt32.toNat_toUInt64]
  have hwrite := Memory.write_eq_ok block.encode_short hfits
  rwa [length_encode, UInt32.toNat_toUInt64] at hwrite

/-- Patching writes the first contents, if the block lies in the memory. -/
theorem patch_spec (h : layout.globalsAddress.toNat + size ≤ m.length) :
    ∃ patched, (initial layout).writeTo m layout.globalsAddress = .ok patched ∧
      (patch m layout).value = .ok (patched, initial layout) := by
  have hwrite : (initial layout).writeTo m layout.globalsAddress = .ok _ := writeTo_eq_ok h
  refine ⟨_, hwrite, ?_⟩
  simp only [patch, hwrite, Logged.value_bind, Logged.value_pure]

/-! ## Variables in a memory -/

/-- A variable is found at its offset from the start of the block. -/
theorem number?_inside (hpatched : block.writeTo m base = .ok patched)
    (hfits : base.toNat + size ≤ m.length) {offset : Nat}
    (haddress : address.toNat = base.toNat + offset) (hoffset : offset + length.toNat ≤ size) :
    patched.number? address length =
      some (LittleEndian.decode ((block.encode.drop offset).take length.toNat)) := by
  rw [Memory.eq_store_of_write hpatched, UInt32.toNat_toUInt64, Memory.number?,
    Memory.read_store_inside (by omega) (by rw [length_encode]; omega)
      (by rw [length_encode]; omega)]
  have hdistance : address.toNat - base.toNat = offset := by omega
  rw [hdistance]
  rfl

/-- Before the block a memory that was zero is zero. -/
theorem number?_before (hpatched : block.writeTo (.zeroed type) base = .ok patched)
    (hfits : base.toNat + size ≤ (Memory.zeroed type).length)
    (haddress : address.toNat + length.toNat ≤ base.toNat) :
    patched.number? address length = some 0 := by
  rw [Memory.eq_store_of_write hpatched, UInt32.toNat_toUInt64, Memory.number?,
    Memory.read_store_outside haddress, Memory.read_zeroed (by omega)]
  exact congrArg some (LittleEndian.decode_replicate_zero _)

/-- The number a pointer of the host points at: the variable, unless the address wraps. -/
theorem number?_globalsField
    (hpatched : block.writeTo (.zeroed type) layout.globalsAddress = .ok patched)
    (hfits : layout.globalsAddress.toNat + size ≤ (Memory.zeroed type).length)
    {offset : UInt32} (hoffset : offset.toNat + length.toNat ≤ size) :
    patched.number? (layout.globalsField offset).toUInt64 length =
      some (if layout.globalsAddress.toNat + offset.toNat < UInt32.size then
        LittleEndian.decode ((block.encode.drop offset.toNat).take length.toNat) else 0) := by
  have hbase : layout.globalsAddress.toNat < UInt32.size := layout.globalsAddress.toNat_lt
  have hfield : (layout.globalsField offset).toUInt64.toNat =
      (layout.globalsAddress.toNat + offset.toNat) % UInt32.size := by
    rw [Layout.globalsField, UInt32.toNat_toUInt64, UInt32.toNat_add]
  rw [size] at hoffset
  split
  · rename_i hsum
    rw [Nat.mod_eq_of_lt hsum] at hfield
    exact number?_inside hpatched hfits hfield hoffset
  · rename_i hwraps
    refine number?_before hpatched hfits ?_
    rw [UInt32.size] at hbase hfield hwraps
    have hsum : layout.globalsAddress.toNat + offset.toNat =
        (layout.globalsAddress.toNat + offset.toNat - 4294967296) + 4294967296 := by omega
    rw [hsum, Nat.add_mod_right, Nat.mod_eq_of_lt (by omega)] at hfield
    omega

/-! ## Variables in a block -/

/-- The number of a stream in a block. -/
def stream (block : GlobalsBlock) : Stream → Int32
  | .stderr => block.stderr
  | .stdin => block.stdin
  | .stdout => block.stdout

theorem stream_initial (layout : Layout) (stream : Stream) :
    (initial layout).stream stream = stream.number := by
  cases stream <;> rfl

theorem decode_dynamicTop (block : GlobalsBlock) :
    LittleEndian.decode ((block.encode.drop dynamicTopOffset.toNat).take 4) =
      block.dynamicTop.toNat :=
  LittleEndian.decode_word block.dynamicTop

theorem decode_tempDouble (block : GlobalsBlock) :
    LittleEndian.decode ((block.encode.drop tempDoubleOffset.toNat).take 8) =
      block.tempDouble.bits.toNat := by
  have hbytes : (block.encode.drop tempDoubleOffset.toNat).take 8 =
      LittleEndian.encode 8 block.tempDouble.bits.toNat := rfl
  rw [hbytes, LittleEndian.decode_encode]
  exact Nat.mod_eq_of_lt block.tempDouble.bits.toNat_lt

theorem decode_stream (block : GlobalsBlock) (stream : Stream) :
    LittleEndian.decode ((block.encode.drop stream.offset.toNat).take 4) =
      (block.stream stream).toUInt32.toNat := by
  have hbytes : (block.encode.drop stream.offset.toNat).take 4 =
      LittleEndian.encode 4 (block.stream stream).toUInt32.toNat := by
    cases stream <;> rfl
  rw [hbytes, LittleEndian.decode_word]

end GlobalsBlock
end HostLink
