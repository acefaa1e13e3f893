/-
Numbers as bytes, the least significant first.
-/

namespace HostLink
namespace LittleEndian

/-- The lowest `count` bytes of a number. -/
def encode : Nat → Nat → List UInt8
  | 0, _ => []
  | count + 1, n => UInt8.ofNat (n % 256) :: encode count (n / 256)

def decode (bytes : List UInt8) : Nat :=
  bytes.foldr (fun b rest => b.toNat + 256 * rest) 0

@[simp] theorem length_encode (count n : Nat) : (encode count n).length = count := by
  induction count generalizing n with
  | zero => rfl
  | succ count ih => simp [encode, ih]

/-- Reading gives back what was written, as far as it fits. -/
theorem decode_encode (count n : Nat) : decode (encode count n) = n % Nat.pow 256 count := by
  induction count generalizing n with
  | zero => simp [encode, decode, Nat.mod_one]
  | succ count ih =>
    have h := ih (n / 256)
    simp only [decode] at h
    simp only [encode, decode, List.foldr_cons, h, Nat.pow_eq]
    rw [Nat.pow_succ', Nat.mod_mul]
    simp [UInt8.toNat_ofNat']

theorem decode_lt (bytes : List UInt8) : decode bytes < Nat.pow 256 bytes.length := by
  induction bytes with
  | nil => exact Nat.one_pos
  | cons b rest ih =>
    have hb : b.toNat < 256 := b.toNat_lt
    simp only [decode, List.foldr_cons, List.length_cons, Nat.pow_eq, Nat.pow_succ'] at ih ⊢
    omega

/-- Writing gives back what was read, if it is as long. -/
theorem encode_decode {count : Nat} {bytes : List UInt8} (h : bytes.length = count) :
    encode count (decode bytes) = bytes := by
  subst h
  induction bytes with
  | nil => rfl
  | cons b rest ih =>
    have hb : b.toNat < 256 := b.toNat_lt
    have hfirst : (b.toNat + 256 * decode rest) % 256 = b.toNat := by omega
    have hrest : (b.toNat + 256 * decode rest) / 256 = decode rest := by omega
    show UInt8.ofNat ((b.toNat + 256 * decode rest) % 256) ::
      encode rest.length ((b.toNat + 256 * decode rest) / 256) = b :: rest
    rw [hfirst, hrest, ih, UInt8.ofNat_toNat]

end LittleEndian
end HostLink
