/-
Numbers converted to words.

The integer part of a number, its remainder and the sum that makes the remainder positive are
whole numbers again, and each of them is exact.  An integer part has no more bits than the
number it is the part of, and whatever comes after the remainder is below `2 ^ 32`.  So the
conversion is followed on naturals: `Denotes` says that a number is a natural one but for its
sign, and there is a lemma for each step.

What comes out in the end is the integer part, reduced to a signed word.
-/
import HostLink.Ieee.Arithmetic
import HostLink.Proofs.Ieee.Canonical
import Mathlib.Algebra.Order.Floor.Semifield

namespace HostLink
namespace Ieee

/-! ## Integer parts of rational numbers -/

/-- The integer next to a rational number on the side of zero. -/
def integerPart (v : ℚ) : Int := if 0 ≤ v then ⌊v⌋ else ⌈v⌉

theorem integerPart_neg (v : ℚ) : integerPart (-v) = -integerPart v := by
  rcases lt_trichotomy v 0 with hv | rfl | hv
  · rw [integerPart, integerPart, if_pos (by linarith), if_neg (not_le.mpr hv), Int.floor_neg]
  · rfl
  · rw [integerPart, integerPart, if_neg (by linarith), if_pos hv.le, Int.ceil_neg]

/-- The quotient of two integers that is rounded toward zero. -/
theorem integerPart_div (a b : Int) : integerPart (a / b) = a.tdiv b := by
  have hnatural : ∀ m n : Nat,
      integerPart (((m : Int) : ℚ) / ((n : Int) : ℚ)) = (m : Int).tdiv n := by
    intro m n
    rw [Int.cast_natCast, Int.cast_natCast, integerPart, if_pos (by positivity),
      ← Int.natCast_floor_eq_floor (by positivity), Nat.floor_div_eq_div]
    rfl
  rcases Int.eq_nat_or_neg a with ⟨m, rfl | rfl⟩ <;> rcases Int.eq_nat_or_neg b with ⟨n, rfl | rfl⟩
  · exact hnatural m n
  · rw [Int.tdiv_neg, Int.cast_neg, div_neg, integerPart_neg, hnatural]
  · rw [Int.neg_tdiv, Int.cast_neg (m : Int), neg_div, integerPart_neg, hnatural]
  · rw [Int.neg_tdiv, Int.tdiv_neg, Int.neg_neg, Int.cast_neg, Int.cast_neg, neg_div_neg_eq,
      hnatural]

/-! ## Units -/

/-- A number as a multiple of a smaller unit. -/
theorem mul_two_zpow_sub (m : Nat) {q unit : Int} (h : unit ≤ q) :
    ((m * Nat.pow 2 (q - unit).toNat : Nat) : ℚ) * 2 ^ unit = m * 2 ^ q := by
  obtain ⟨steps, hsteps⟩ := Int.eq_ofNat_of_zero_le (Int.sub_nonneg_of_le h)
  obtain rfl : q = steps + unit := by omega
  rw [hsteps, Int.toNat_natCast, Nat.pow_eq, zpow_add₀ two_ne_zero, zpow_natCast]
  push_cast
  ring

/-- A remainder may be taken in any unit. -/
theorem mod_mul_two_zpow {a b n d : Nat} {unit : Int} (ha : (a : ℚ) * 2 ^ unit = n)
    (hb : (b : ℚ) * 2 ^ unit = d) : ((a % b : Nat) : ℚ) * 2 ^ unit = (n % d : Nat) := by
  have hquotient : a / b = n / d := by
    rw [← Nat.floor_div_eq_div (K := ℚ) a b, ← Nat.floor_div_eq_div (K := ℚ) n d, ← ha, ← hb,
      mul_div_mul_right _ _ (by positivity)]
  have hleft : (a : ℚ) = b * (n / d : Nat) + (a % b : Nat) := by
    rw [← hquotient]
    exact_mod_cast (Nat.div_add_mod a b).symm
  have hright : (n : ℚ) = d * (n / d : Nat) + (n % d : Nat) := by
    exact_mod_cast (Nat.div_add_mod n d).symm
  rw [hleft, hright, ← hb] at ha
  linarith

/-- Whole numbers that fit into the bits of a significand need no rounding. -/
theorem exists_canonical {n : Nat} (hn : n < 2 ^ 53) :
    ∃ m q, binary64.Canonical m q ∧ (m : ℚ) * 2 ^ q = n := by
  by_cases hzero : n = 0
  · refine ⟨0, binary64.minExponent, ⟨by decide, le_refl _, by decide, .inr rfl⟩, ?_⟩
    rw [hzero, Nat.cast_zero, zero_mul]
  · have hbits : n.log2 < 53 := (Nat.log2_lt hzero).mpr hn
    obtain ⟨shift, hshift⟩ := Nat.exists_eq_add_of_le (Nat.le_of_lt_succ hbits)
    have hmin : binary64.minExponent ≤ -shift := by
      have hvalue : binary64.minExponent = -1074 := by decide
      omega
    have hmax : -shift ≤ binary64.maxExponent := by
      have hvalue : binary64.maxExponent = 971 := by decide
      omega
    have hfraction : binary64.fraction = n.log2 + shift := hshift
    have hlow : 2 ^ binary64.fraction ≤ n * 2 ^ shift := by
      rw [hfraction, Nat.pow_add]
      exact Nat.mul_le_mul_right _ (Nat.log2_self_le hzero)
    have hhigh : n * 2 ^ shift < 2 ^ (binary64.fraction + 1) := by
      rw [hfraction, Nat.add_right_comm, Nat.pow_add]
      exact Nat.mul_lt_mul_of_pos_right Nat.lt_log2_self (Nat.two_pow_pos shift)
    refine ⟨n * 2 ^ shift, -shift, ⟨hhigh, hmin, hmax, .inl hlow⟩, ?_⟩
    rw [Nat.cast_mul, mul_assoc, Nat.cast_pow, Nat.cast_ofNat, ← zpow_natCast,
      ← zpow_add₀ two_ne_zero, add_neg_cancel, zpow_zero, mul_one]

namespace Binary64

variable {x y : Binary64} {negative : Bool} {m n d : Nat} {q : Int}

/-! ## Integer parts -/

theorem wholePart_eq_floor (m : Nat) (q : Int) : wholePart m q = ⌊(m : ℚ) * 2 ^ q⌋₊ := by
  rw [wholePart, ← Nat.floor_div_eq_div (K := ℚ), Nat.pow_eq, Nat.pow_eq]
  push_cast
  rw [mul_div_assoc, two_pow_toNat_div]

theorem wholePart_eq (h : (m : ℚ) * 2 ^ q = n) : wholePart m q = n := by
  rw [wholePart_eq_floor, h, Nat.floor_natCast]

/-! ## Numbers that are whole -/

theorem decode_ofDyadic (h : binary64.Canonical m q) {m' : Nat} {q' : Int}
    (hvalue : (m' : ℚ) * 2 ^ q' = m * 2 ^ q) (negative : Bool) :
    (ofDyadic negative m' q').decode = .finite negative m q := by
  have hlt : binary64.pattern negative m q < 2 ^ 64 := Format.pattern_lt h negative
  rw [ofDyadic, Format.ofDyadic_eq_pattern h hvalue, decode, ofNatBits,
    UInt64.toNat_ofNat_of_lt' hlt]
  exact Format.decode_pattern h negative

/-- Whether a number is a natural number but for its sign. -/
def Denotes (x : Binary64) (negative : Bool) (n : Nat) : Prop :=
  ∃ m q, x.decode = .finite negative m q ∧ (m : ℚ) * 2 ^ q = n

theorem denotes_ofDyadic (hvalue : (m : ℚ) * 2 ^ q = n) (hn : n < 2 ^ 53) (negative : Bool) :
    (ofDyadic negative m q).Denotes negative n := by
  obtain ⟨m', q', hcanonical, hvalue'⟩ := exists_canonical hn
  exact ⟨m', q', decode_ofDyadic hcanonical (hvalue.trans hvalue'.symm) negative, hvalue'⟩

theorem canonical_of_decode (h : x.decode = .finite negative m q) : binary64.Canonical m q :=
  Format.canonical_of_decode (by decide) h

theorem denotes_trunc (h : x.decode = .finite negative m q) :
    x.trunc.Denotes negative (wholePart m q) := by
  have htrunc : x.trunc = ofDyadic negative (wholePart m q) 0 := by
    simp [trunc, roundWhole, h]
  have hcanonical := canonical_of_decode h
  rw [htrunc]
  rcases Int.le_total 0 q with hq | hq
  -- Without places behind the point the number is its own integer part.
  · have hwhole : ((wholePart m q : Nat) : ℚ) = m * 2 ^ q := by
      obtain ⟨places, rfl⟩ := Int.eq_ofNat_of_zero_le hq
      have hnatural : (m : ℚ) * 2 ^ (places : Int) = ((m * 2 ^ places : Nat) : ℚ) := by
        push_cast
        rw [zpow_natCast]
      rw [wholePart_eq hnatural, hnatural]
    refine ⟨m, q, decode_ofDyadic hcanonical ?_ negative, hwhole.symm⟩
    rw [zpow_zero, mul_one, hwhole]
  · refine denotes_ofDyadic (by rw [zpow_zero, mul_one]) ?_ negative
    have hle : wholePart m q ≤ m := by
      rw [wholePart, Int.toNat_of_nonpos hq, Nat.pow_eq, Nat.pow_zero, Nat.mul_one]
      exact Nat.div_le_self _ _
    exact hle.trans_lt hcanonical.short

theorem denotes_rem {negative' : Bool} (hx : x.Denotes negative n) (hy : y.Denotes negative' d)
    (hd : d ≠ 0) (hlt : d ≤ 2 ^ 53) : (x.rem y).Denotes negative (n % d) := by
  obtain ⟨m, q, hdecode, hm⟩ := hx
  obtain ⟨k, r, hdecode', hk⟩ := hy
  have hkne : k ≠ 0 := by
    rintro rfl
    rw [Nat.cast_zero, zero_mul] at hk
    exact hd (by exact_mod_cast hk.symm)
  have hdividend := mul_two_zpow_sub m (Int.min_le_left q r)
  have hdivisor := mul_two_zpow_sub k (Int.min_le_right q r)
  simp only [rem, hdecode, hdecode', if_neg hkne]
  refine denotes_ofDyadic (mod_mul_two_zpow (hdividend.trans hm) (hdivisor.trans hk)) ?_ negative
  exact (Nat.mod_lt n (Nat.pos_of_ne_zero hd)).trans_le hlt

theorem isNegative_of_denotes (h : x.Denotes negative n) :
    x.isNegative = (negative && n != 0) := by
  obtain ⟨m, q, hdecode, hm⟩ := h
  have hzero : m = 0 ↔ n = 0 := by
    have hvalue : (m : ℚ) * 2 ^ q = 0 ↔ (n : ℚ) = 0 := by rw [hm]
    rw [mul_eq_zero, or_iff_left (by positivity)] at hvalue
    exact_mod_cast hvalue
  simp only [isNegative, hdecode, bne, Bool.beq_eq_decide_eq, hzero]

/-- What is below zero, but not by a whole divisor, is positive after an addition. -/
theorem denotes_add (hx : x.Denotes true n) (hy : y.Denotes false d) (hnd : n < d)
    (hlt : d < 2 ^ 53) : (x.add y).Denotes false (d - n) := by
  obtain ⟨m, q, hdecode, hm⟩ := hx
  obtain ⟨k, r, hdecode', hk⟩ := hy
  have hbelow := (mul_two_zpow_sub m (Int.min_le_left q r)).trans hm
  have habove := (mul_two_zpow_sub k (Int.min_le_right q r)).trans hk
  have hsum : multiple true m q (min q r) + multiple false k r (min q r) =
      ((k * Nat.pow 2 (r - min q r).toNat : Nat) : Int) -
        (m * Nat.pow 2 (q - min q r).toNat : Nat) := by
    simp only [multiple, if_true, Bool.false_eq_true, if_false, Nat.cast_mul]
    omega
  simp only [add, hdecode, hdecode', hsum]
  generalize min q r = unit at hbelow habove ⊢
  generalize m * Nat.pow 2 (q - unit).toNat = a at hbelow ⊢
  generalize k * Nat.pow 2 (r - unit).toNat = b at habove ⊢
  have hab : a < b := by
    have hunit : (0 : ℚ) < 2 ^ unit := by positivity
    rw [← Nat.cast_lt (α := ℚ), ← mul_lt_mul_iff_left₀ hunit, hbelow, habove]
    exact_mod_cast hnd
  have hmagnitude : ((b : Int) - a).natAbs = b - a := by omega
  rw [if_neg (by omega), hmagnitude, decide_eq_false (by omega)]
  refine denotes_ofDyadic ?_ ((Nat.sub_le d n).trans_lt hlt) false
  rw [Nat.cast_sub hab.le, Nat.cast_sub hnd.le, sub_mul, habove, hbelow]

/-! ## Steps of the conversion -/

theorem denotes_wordModulus : wordModulus.Denotes false (2 ^ 32) := by
  have hdecode : wordModulus.decode = .finite false (2 ^ 52) (-20) := by decide
  refine ⟨_, _, hdecode, ?_⟩
  norm_num

theorem abs_wordModulus : wordModulus.abs = wordModulus := by
  decide

/-- The remainder of a whole number lies in the range of words.  Only a zero may have kept its
sign. -/
theorem denotes_euclideanRem (h : x.Denotes negative n) :
    ∃ sign word, (x.euclideanRem wordModulus).Denotes sign word ∧ (sign = true → word = 0) ∧
      (word : Int) = (if negative then -(n : Int) else n) % 2 ^ 32 := by
  have hrem := denotes_rem h denotes_wordModulus (by decide) (by decide)
  have hnegative := isNegative_of_denotes hrem
  cases hbelow : (x.rem wordModulus).isNegative with
  | false =>
    have hkept : x.euclideanRem wordModulus = x.rem wordModulus := by simp [euclideanRem, hbelow]
    have hzero : negative = true → n % 2 ^ 32 = 0 := by
      rintro rfl
      simpa [hbelow] using hnegative
    refine ⟨negative, n % 2 ^ 32, by rw [hkept]; exact hrem, hzero, ?_⟩
    split
    · have := hzero ‹_›
      omega
    · omega
  | true =>
    have hmoved : x.euclideanRem wordModulus = (x.rem wordModulus).add wordModulus := by
      simp [euclideanRem, hbelow, abs_wordModulus]
    obtain ⟨rfl, hrest⟩ : negative = true ∧ n % 2 ^ 32 ≠ 0 := by
      simpa [hbelow] using hnegative
    have hadd := denotes_add hrem denotes_wordModulus (Nat.mod_lt n (by decide)) (by decide)
    refine ⟨false, 2 ^ 32 - n % 2 ^ 32, by rw [hmoved]; exact hadd, nofun, ?_⟩
    rw [if_pos rfl]
    omega

theorem toUInt32_of_denotes {word : Nat} (h : x.Denotes negative word)
    (hsign : negative = true → word = 0) (hword : word < 2 ^ 32) :
    x.toUInt32 = UInt32.ofNat word := by
  obtain ⟨m, q, hdecode, hm⟩ := h
  have hclamped : min word (UInt32.size - 1) = word := Nat.min_eq_left (Nat.le_pred_of_lt hword)
  simp only [toUInt32, hdecode, wholePart_eq hm, hclamped]
  split
  · rename_i hnegative
    rw [hsign hnegative]
    rfl
  · rfl

/-- A finite number becomes its integer part, reduced to a signed word. -/
theorem toInt32_eq (h : x.decode = .finite negative m q) :
    x.toInt32 = Int32.ofInt (if negative then -(wholePart m q : Int) else wholePart m q) := by
  obtain ⟨sign, word, hdenotes, hsign, hword⟩ := denotes_euclideanRem (denotes_trunc h)
  have hlt : word < 2 ^ 32 := by omega
  simp only [toInt32, h, toUInt32_of_denotes hdenotes hsign hlt]
  rw [UInt32.toInt32_ofNat', ← Int32.toInt_inj, Int32.toInt_ofNat', Int32.toInt_ofInt, hword]
  exact Int.emod_bmod _ _

/-! ## Patterns as rational numbers -/

def sign (x : Binary64) : Nat := x.bits.toNat / 2 ^ 63

def exponentField (x : Binary64) : Nat := x.bits.toNat / 2 ^ 52 % 2 ^ 11

def fractionField (x : Binary64) : Nat := x.bits.toNat % 2 ^ 52

/-- The fraction with the bit that is not stored.  Subnormal numbers have none. -/
def significand (x : Binary64) : Nat :=
  if x.exponentField = 0 then x.fractionField else 2 ^ 52 + x.fractionField

/-- The exponent of the last bit of the significand. -/
def exponent (x : Binary64) : Int := max x.exponentField 1 - 1075

/-- The rational number that a pattern encodes, if its exponent field is not full. -/
def value (x : Binary64) : ℚ := (-1) ^ x.sign * (x.significand * 2 ^ x.exponent)

/-- The integer part of this number, from the fields. -/
def truncated (x : Binary64) : Int :=
  (-1) ^ x.sign *
    ((x.significand * 2 ^ x.exponent.toNat / 2 ^ (-x.exponent).toNat : Nat) : Int)

theorem sign_cases (x : Binary64) : x.sign = 0 ∨ x.sign = 1 := by
  have hbits := x.bits.toNat_lt
  rw [sign]
  omega

/-- A pattern is read by its fields. -/
theorem decode_eq (x : Binary64) :
    x.decode =
      if x.exponentField = 2047 then
        if x.fractionField = 0 then .infinity (x.sign == 1) else .nan
      else .finite (x.sign == 1) x.significand x.exponent := by
  have hread : x.decode =
      if x.exponentField = 2047 then
        if x.fractionField = 0 then .infinity (x.sign % 2 == 1) else .nan
      else if x.exponentField = 0 then .finite (x.sign % 2 == 1) x.fractionField (-1074)
      else .finite (x.sign % 2 == 1) (2 ^ 52 + x.fractionField)
        (-1074 + (x.exponentField - 1)) := rfl
  have hsign : x.sign % 2 = x.sign := by
    have := x.sign_cases
    omega
  rw [hread, hsign]
  split
  · rfl
  · by_cases hfield : x.exponentField = 0
    · have hexponent : x.exponent = -1074 := by simp [exponent, hfield]
      rw [if_pos hfield, significand, if_pos hfield, hexponent]
    · have hexponent : x.exponent = -1074 + (x.exponentField - 1) := by
        rw [exponent]
        omega
      rw [if_neg hfield, significand, if_neg hfield, hexponent]

theorem integerPart_mul_two_zpow (m : Nat) (q : Int) :
    integerPart (m * 2 ^ q) = wholePart m q := by
  have hpos : (0 : ℚ) ≤ m * 2 ^ q := by positivity
  rw [integerPart, if_pos hpos, wholePart_eq_floor, Int.natCast_floor_eq_floor hpos]

theorem integerPart_value (x : Binary64) : integerPart x.value = x.truncated := by
  have hwhole := integerPart_mul_two_zpow x.significand x.exponent
  rcases x.sign_cases with hsign | hsign
  · rw [value, truncated, hsign, pow_zero, pow_zero, one_mul, one_mul, hwhole]
    rfl
  · rw [value, truncated, hsign, pow_one, pow_one, neg_one_mul, neg_one_mul, integerPart_neg,
      hwhole]
    rfl

/-- A pattern with a full exponent field becomes zero, any other its integer part, reduced to a
signed word. -/
theorem toInt32_eq_truncated (x : Binary64) :
    x.toInt32 = if x.exponentField = 2047 then 0 else Int32.ofInt x.truncated := by
  have hdecode := x.decode_eq
  split
  · rename_i hfull
    rw [if_pos hfull] at hdecode
    by_cases hfraction : x.fractionField = 0
    · simp only [toInt32, hdecode, if_pos hfraction]
    · simp only [toInt32, hdecode, if_neg hfraction]
  · rename_i hfinite
    rw [if_neg hfinite] at hdecode
    rw [toInt32_eq hdecode, truncated]
    rcases x.sign_cases with hsign | hsign
    · rw [hsign, pow_zero, one_mul]
      rfl
    · rw [hsign, pow_one, neg_one_mul]
      rfl

end Binary64
end Ieee
end HostLink
