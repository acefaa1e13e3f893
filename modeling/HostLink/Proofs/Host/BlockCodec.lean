/-
The block of variables as bytes, and in a memory.

A block is five variables and two gaps.  Encoding puts each variable at its offset and zero
in the gaps; decoding looks at the variables only.  So decoding undoes encoding, and encoding
undoes decoding as far as the gaps were zero.  `cleared` has both cases in it.

Variables are compared as words, the scratch variable by its pattern.  Compared as a number
it would differ from itself if it is a NaN (`numEq_self_iff`).

In a memory a block is one access.  It takes the whole range or, if that does not lie in the
memory, nothing of it.
-/
import HostLink.Proofs.Host.Layout
import HostLink.Proofs.Store.Refinement

namespace HostLink

namespace LittleEndian

variable {bytes : List UInt8} {offset count : Nat}

theorem length_range (h : offset + count ≤ bytes.length) :
    ((bytes.drop offset).take count).length = count := by
  rw [List.length_take, List.length_drop]
  omega

theorem decode_range_lt (h : offset + count ≤ bytes.length) :
    decode ((bytes.drop offset).take count) < Nat.pow 256 count := by
  have hlt := decode_lt ((bytes.drop offset).take count)
  rwa [length_range h] at hlt

/-- A number that was read from a range is written as the bytes of the range. -/
theorem encode_range (h : offset + count ≤ bytes.length) :
    encode count (decode ((bytes.drop offset).take count)) = (bytes.drop offset).take count :=
  encode_decode (length_range h)

end LittleEndian

/-- A number is the same as itself, unless it is none. -/
theorem Ieee.Datum.numEq_self_iff (x : Ieee.Datum) : x.numEq x ↔ x ≠ .nan := by
  match x with
  | .nan => simp [Ieee.Datum.numEq]
  | .infinity _ => simp [Ieee.Datum.numEq]
  | .finite _ 0 _ => simp [Ieee.Datum.numEq]
  | .finite _ (_ + 1) _ => simp [Ieee.Datum.numEq]

namespace GlobalsBlock

variable {block : GlobalsBlock} {bytes : List UInt8} {start offset count : Nat}
  {m : Memory} {address : UInt32}

/-! ## Decoding what was encoded -/

theorem decode_encode (block : GlobalsBlock) : decode block.encode = block := by
  have hdouble : Ieee.Binary64.ofNatBits block.tempDouble.bits.toNat = block.tempDouble := by
    rw [Ieee.Binary64.ofNatBits, UInt64.ofNat_toNat]
  have hstream (stream : Stream) :
      (UInt32.ofNat
        (LittleEndian.decode ((block.encode.drop stream.offset.toNat).take 4))).toInt32 =
          block.stream stream := by
    rw [decode_stream, UInt32.ofNat_toNat]
    rfl
  have hstderr := hstream .stderr
  have hstdin := hstream .stdin
  have hstdout := hstream .stdout
  simp only [Stream.offset] at hstderr hstdin hstdout
  simp only [decode, decode_dynamicTop, decode_tempDouble, UInt32.ofNat_toNat, hdouble, hstderr,
    hstdin, hstdout]
  rfl

/-- As numbers a block differs from itself if it holds a NaN. -/
theorem numEq_self_iff (block : GlobalsBlock) :
    block.numEq block ↔ ¬ block.tempDouble.isNaN := by
  have hself := block.tempDouble.decode.numEq_self_iff
  simpa [numEq, Ieee.Binary64.numEq, Ieee.Binary64.isNaN] using hself

/-! ## Encoding what was decoded -/

/-- Whether a byte of a block belongs to no variable. -/
def Padding (i : Nat) : Prop := 4 ≤ i ∧ i < 8 ∨ 28 ≤ i ∧ i < 32

instance (i : Nat) : Decidable (Padding i) := inferInstanceAs (Decidable (_ ∨ _))

/-- A part of a block with its padding set to zero. -/
def clearedFrom (start : Nat) (bytes : List UInt8) : List UInt8 :=
  bytes.mapIdx fun i b => if Padding (start + i) then 0 else b

/-- A block with its padding set to zero. -/
def cleared (bytes : List UInt8) : List UInt8 := clearedFrom 0 bytes

theorem clearedFrom_append (start : Nat) (front back : List UInt8) :
    clearedFrom start (front ++ back) =
      clearedFrom start front ++ clearedFrom (start + front.length) back := by
  simp only [clearedFrom, List.mapIdx_append, Nat.add_assoc, Nat.add_comm front.length]

theorem clearedFrom_eq_self (h : ∀ i, i < bytes.length → ¬ Padding (start + i)) :
    clearedFrom start bytes = bytes := by
  apply List.ext_getElem (by simp [clearedFrom])
  intro i _ hi
  simp only [clearedFrom, List.getElem_mapIdx, if_neg (h i hi)]

theorem clearedFrom_eq_zeros (h : ∀ i, i < bytes.length → Padding (start + i)) :
    clearedFrom start bytes = List.replicate bytes.length 0 := by
  apply List.ext_getElem (by simp [clearedFrom])
  intro i _ hi
  rw [List.length_replicate] at hi
  simp only [clearedFrom, List.getElem_mapIdx, if_pos (h i hi), List.getElem_replicate]

/-- The part of a block from an offset on, taken apart behind its first bytes. -/
theorem clearedFrom_drop (h : offset + count ≤ bytes.length) :
    clearedFrom offset (bytes.drop offset) =
      clearedFrom offset ((bytes.drop offset).take count) ++
        clearedFrom (offset + count) (bytes.drop (offset + count)) := by
  have hparts := clearedFrom_append offset ((bytes.drop offset).take count)
    ((bytes.drop offset).drop count)
  rwa [List.take_append_drop, LittleEndian.length_range h, List.drop_drop] at hparts

/-- A variable comes first. -/
theorem clearedFrom_variable (count : Nat) (h : offset + count ≤ bytes.length)
    (hkept : ∀ i, i < count → ¬ Padding (offset + i)) :
    clearedFrom offset (bytes.drop offset) =
      LittleEndian.encode count (LittleEndian.decode ((bytes.drop offset).take count)) ++
        clearedFrom (offset + count) (bytes.drop (offset + count)) := by
  have hlength := LittleEndian.length_range h
  rw [clearedFrom_drop h, clearedFrom_eq_self (hlength.symm ▸ hkept), LittleEndian.encode_range h]

/-- A gap comes first. -/
theorem clearedFrom_padding (count : Nat) (h : offset + count ≤ bytes.length)
    (hpadding : ∀ i, i < count → Padding (offset + i)) :
    clearedFrom offset (bytes.drop offset) =
      LittleEndian.encode count 0 ++
        clearedFrom (offset + count) (bytes.drop (offset + count)) := by
  have hlength := LittleEndian.length_range h
  rw [clearedFrom_drop h, clearedFrom_eq_zeros (hlength.symm ▸ hpadding), hlength,
    LittleEndian.encode_zero]

/-- A block with its padding set to zero, part by part. -/
theorem cleared_eq (h : bytes.length = 32) :
    cleared bytes =
      LittleEndian.encode 4 (LittleEndian.decode ((bytes.drop 0).take 4)) ++
        (LittleEndian.encode 4 0 ++
        (LittleEndian.encode 8 (LittleEndian.decode ((bytes.drop 8).take 8)) ++
        (LittleEndian.encode 4 (LittleEndian.decode ((bytes.drop 16).take 4)) ++
        (LittleEndian.encode 4 (LittleEndian.decode ((bytes.drop 20).take 4)) ++
        (LittleEndian.encode 4 (LittleEndian.decode ((bytes.drop 24).take 4)) ++
        LittleEndian.encode 4 0))))) := by
  have hstart : cleared bytes = clearedFrom 0 (bytes.drop 0) := rfl
  have hend : clearedFrom 32 (bytes.drop 32) = [] := by
    rw [List.drop_eq_nil_of_le (Nat.le_of_eq h)]
    rfl
  rw [hstart, clearedFrom_variable 4 (by omega) (by decide),
    clearedFrom_padding 4 (by omega) (by decide),
    clearedFrom_variable 8 (by omega) (by decide),
    clearedFrom_variable 4 (by omega) (by decide),
    clearedFrom_variable 4 (by omega) (by decide),
    clearedFrom_variable 4 (by omega) (by decide),
    clearedFrom_padding 4 (by omega) (by decide), hend, List.append_nil]

theorem encode_decode (h : bytes.length = size) : (decode bytes).encode = cleared bytes := by
  have hword (offset : UInt32) (hoffset : offset.toNat + 4 ≤ bytes.length) :
      (UInt32.ofNat (LittleEndian.decode ((bytes.drop offset.toNat).take 4))).toNat =
        LittleEndian.decode ((bytes.drop offset.toNat).take 4) :=
    UInt32.toNat_ofNat_of_lt' (LittleEndian.decode_range_lt hoffset)
  have hdynamicTop := hword dynamicTopOffset (h ▸ by decide)
  have hstderr := hword stderrOffset (h ▸ by decide)
  have hstdin := hword stdinOffset (h ▸ by decide)
  have hstdout := hword stdoutOffset (h ▸ by decide)
  have htempDouble :
      (UInt64.ofNat (LittleEndian.decode ((bytes.drop tempDoubleOffset.toNat).take 8))).toNat =
        LittleEndian.decode ((bytes.drop tempDoubleOffset.toNat).take 8) :=
    UInt64.toNat_ofNat_of_lt' (LittleEndian.decode_range_lt (h ▸ by decide))
  rw [cleared_eq h]
  simp only [encode, decode, Ieee.Binary64.ofNatBits, UInt32.toUInt32_toInt32, hdynamicTop,
    htempDouble, hstderr, hstdin, hstdout, List.append_assoc]
  rfl

theorem getElem?_cleared (bytes : List UInt8) (i : Nat) :
    (cleared bytes)[i]? = bytes[i]?.map fun b => if Padding i then 0 else b := by
  simp only [cleared, clearedFrom, List.getElem?_mapIdx, Nat.zero_add]

/-- Nothing is lost of a block whose padding is zero, and of no other. -/
theorem cleared_eq_self_iff (h : bytes.length = size) :
    cleared bytes = bytes ↔ ∀ i, Padding i → bytes[i]? = some 0 := by
  constructor
  · intro hcleared i hpadding
    have hi : i < bytes.length := by
      rw [h, size]
      cases hpadding <;> omega
    rw [← hcleared, getElem?_cleared, List.getElem?_eq_getElem hi, Option.map_some, if_pos hpadding]
  · intro hzero
    apply List.ext_getElem?
    intro i
    rw [getElem?_cleared]
    by_cases hpadding : Padding i
    · rw [hzero i hpadding, Option.map_some, if_pos hpadding]
    · simp only [if_neg hpadding, Option.map_id']

/-! ## Blocks in a memory -/

/-- Writing a block, as an operation of a memory. -/
def writing (block : GlobalsBlock) (address : UInt32) : Memory.Operation :=
  .write address.toUInt64 block.encode block.encode_short

theorem perform_writing (m : Memory) (block : GlobalsBlock) (address : UInt32) :
    m.perform (block.writing address) =
      some (m.settle ((block.writeTo m address).map fun m => (.done, m))) :=
  rfl

theorem not_covers (h : ¬ address.toNat + size ≤ m.length) :
    ¬ m.Covers address.toUInt64 (UInt64.ofNat size) := by
  intro hcovers
  exact h hcovers

theorem writeTo_eq_error (h : ¬ address.toNat + size ≤ m.length) :
    block.writeTo m address =
      .error (.outOfBounds address.toUInt64 (UInt64.ofNat size) m.length) := by
  have houtside : ¬ m.Covers address.toUInt64 (UInt64.ofNat block.encode.length) := by
    rw [length_encode]
    exact not_covers h
  have hwrite := Memory.write_eq_error houtside
  rwa [length_encode] at hwrite

theorem readFrom_eq_error (h : ¬ address.toNat + size ≤ m.length) :
    readFrom m address =
      .error (.outOfBounds address.toUInt64 (UInt64.ofNat size) m.length) := by
  rw [readFrom, Memory.read_eq_error (not_covers h)]
  rfl

/-- A block that was written is read back. -/
theorem readFrom_store (h : address.toNat + size ≤ m.length) :
    readFrom (m.store address.toNat size fun i => block.encode.getD i 0) address = .ok block := by
  have hfits : address.toUInt64.toNat + block.encode.length ≤ m.length := by
    rwa [length_encode, UInt32.toNat_toUInt64]
  have hread := Memory.read_store_self block.encode_short hfits
  rw [length_encode, UInt32.toNat_toUInt64] at hread
  rw [readFrom, hread]
  exact congrArg Except.ok (decode_encode block)

theorem flat_store (h : address.toNat + size ≤ m.length) :
    (m.store address.toNat size fun i => block.encode.getD i 0).flat =
      m.flat.splice address.toNat block.encode := by
  have hfits : address.toNat + block.encode.length ≤ m.length := by
    rwa [length_encode]
  have hflat := Memory.flat_store_bytes hfits
  rwa [length_encode] at hflat

/-- Decoding undoes encoding; encoding undoes decoding up to the padding, so exactly if that
is zero.  Any memory takes a block where it fits, gives it back, and keeps all other bytes.
Where it does not fit, writing and reading it fail in the same way and the memory is as
before. -/
theorem codec (block : GlobalsBlock) :
    decode block.encode = block ∧
      (∀ bytes, bytes.length = size →
        (decode bytes).encode = cleared bytes ∧
          ((decode bytes).encode = bytes ↔ ∀ i, Padding i → bytes[i]? = some 0)) ∧
      ∀ (m : Memory) (address : UInt32),
        if address.toNat + size ≤ m.length then
          ∃ m', m.perform (block.writing address) = some (.ok .done, m') ∧
            block.writeTo m address = .ok m' ∧ readFrom m' address = .ok block ∧
            m'.flat = m.flat.splice address.toNat block.encode ∧
            ∀ i, i < address.toNat ∨ address.toNat + size ≤ i → m'.byte i = m.byte i
        else
          m.perform (block.writing address) =
              some (.error (.outOfBounds address.toUInt64 32 m.length), m) ∧
            block.writeTo m address = .error (.outOfBounds address.toUInt64 32 m.length) ∧
            readFrom m address = .error (.outOfBounds address.toUInt64 32 m.length) := by
  refine ⟨decode_encode block, ?_, ?_⟩
  · intro bytes hlength
    rw [encode_decode hlength]
    exact ⟨rfl, cleared_eq_self_iff hlength⟩
  · intro m address
    rw [perform_writing]
    split
    · rename_i hfits
      rw [writeTo_eq_ok hfits]
      refine ⟨_, rfl, rfl, readFrom_store hfits, flat_store hfits, ?_⟩
      intro i hi
      rw [Memory.byte_store, if_neg (by omega)]
    · rename_i hfits
      rw [writeTo_eq_error hfits]
      exact ⟨rfl, rfl, readFrom_eq_error hfits⟩

/-- A block with a NaN for a number. -/
def unnumbered : GlobalsBlock :=
  { initial .standard with tempDouble := .ofNatBits 0x7ff0000000000001 }

/-- Bytes with something in the gaps, and the last place for a block in a page. -/
theorem codec_page :
    (decode (List.replicate 32 0xff)).encode =
        List.replicate 4 0xff ++ List.replicate 4 0 ++ List.replicate 20 0xff ++
          List.replicate 4 0 ∧
      ¬ unnumbered.numEq unnumbered ∧
      (∃ m, unnumbered.writeTo (.zeroed ⟨⟨1⟩, none, false⟩) 65504 = .ok m ∧
        readFrom m 65504 = .ok unnumbered) ∧
      unnumbered.writeTo (.zeroed ⟨⟨1⟩, none, false⟩) 65505 =
        .error (.outOfBounds 65505 32 65536) := by
  obtain ⟨-, hbytes, hmemory⟩ := codec unnumbered
  have hlast := hmemory (.zeroed ⟨⟨1⟩, none, false⟩) 65504
  have hbehind := hmemory (.zeroed ⟨⟨1⟩, none, false⟩) 65505
  rw [if_pos (by decide)] at hlast
  rw [if_neg (by decide)] at hbehind
  obtain ⟨m, -, hwrite, hread, -⟩ := hlast
  exact ⟨(hbytes (List.replicate 32 0xff) (by decide)).1, by decide, ⟨m, hwrite, hread⟩,
    hbehind.2.1⟩

end GlobalsBlock
end HostLink
