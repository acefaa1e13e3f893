/-
Numbers that survive rounding.

A finite pattern is read as `± m · 2 ^ q` for one significand and one exponent of all that have
this value: the significand fills its bits, or the exponent is the smallest there is.  Such a
pair is canonical, and there is a pattern for each, so a canonical pair is what `decode` finds
in the pattern it has.

Rounding looks for the last place of a quotient and counts how often it goes into the quotient.
If the quotient is the value of a canonical pair, then the last place is its exponent, and it
goes into the quotient without rest.  Hence nothing is rounded, and what is decoded is the pair.
-/
import HostLink.Ieee.Format
import Mathlib.Algebra.Order.Field.Power
import Mathlib.Data.Rat.Floor
import Mathlib.Tactic.FieldSimp
import Mathlib.Tactic.Linarith
import Mathlib.Tactic.Positivity
import Mathlib.Tactic.Ring

namespace HostLink
namespace Ieee

/-! ## Powers of two -/

/-- A power as the quotient of two natural ones, one of which is one. -/
theorem two_pow_toNat_div (q : Int) : (2 : ℚ) ^ q.toNat / 2 ^ (-q).toNat = 2 ^ q := by
  rcases Int.le_total 0 q with hq | hq
  · obtain ⟨n, rfl⟩ := Int.eq_ofNat_of_zero_le hq
    simp
  · obtain ⟨n, hn⟩ := Int.eq_ofNat_of_zero_le (Int.neg_nonneg_of_nonpos hq)
    obtain rfl : q = -(n : Int) := by omega
    simp

theorem two_zpow_lt_iff {a b : Int} : (2 : ℚ) ^ a < 2 ^ b ↔ a < b :=
  zpow_lt_zpow_iff_right₀ one_lt_two

/-- The bit length of a number, as a pair of bounds. -/
theorem log2_bounds {n : Nat} (hn : n ≠ 0) :
    (2 : ℚ) ^ (n.log2 : Int) ≤ n ∧ (n : ℚ) < 2 ^ ((n.log2 : Int) + 1) := by
  constructor
  · rw [zpow_natCast]
    exact_mod_cast Nat.log2_self_le hn
  · have hlt : n < 2 ^ (n.log2 + 1) := Nat.lt_log2_self
    have hpow : (2 : ℚ) ^ ((n.log2 : Int) + 1) = ((2 ^ (n.log2 + 1) : Nat) : ℚ) := by
      push_cast
      exact_mod_cast zpow_natCast (2 : ℚ) (n.log2 + 1)
    rw [hpow]
    exact_mod_cast hlt

/-! ## Quotients -/

variable {num den : Nat}

/-- A quotient without rest is not rounded. -/
theorem roundDiv_mul (m : Nat) (hden : den ≠ 0) : roundDiv (m * den) den = m := by
  have hpos : 0 < den := Nat.pos_of_ne_zero hden
  have hquotient : m * den / den = m := Nat.mul_div_cancel m hpos
  have hrest : m * den % den = 0 := Nat.mul_mod_left m den
  simp only [roundDiv, hquotient, hrest]
  rw [if_neg]
  omega

theorem scale_snd_pos (num : Nat) (hden : den ≠ 0) (q : Int) : 0 < (scale num den q).2 :=
  Nat.mul_pos (Nat.pos_of_ne_zero hden) (Nat.two_pow_pos _)

/-- Scaling divides by the power. -/
theorem scale_ratio (num den : Nat) (q : Int) :
    ((scale num den q).1 : ℚ) / (scale num den q).2 = num / den * 2 ^ (-q) := by
  have hpow := two_pow_toNat_div (-q)
  rw [neg_neg] at hpow
  simp only [scale, Nat.pow_eq, Nat.cast_mul, Nat.cast_pow, Nat.cast_ofNat]
  rw [mul_div_mul_comm, hpow]

/-! ## Canonical pairs -/

namespace Format

variable {fmt : Format} {m : Nat} {q : Int}

/-- The exponent of the last place of the largest numbers. -/
def maxExponent (fmt : Format) : Int := fmt.minExponent + fmt.topField - 2

/-- Whether a significand and an exponent are those that a pattern is read as. -/
structure Canonical (fmt : Format) (m : Nat) (q : Int) : Prop where
  short : m < 2 ^ (fmt.fraction + 1)
  low : fmt.minExponent ≤ q
  high : q ≤ fmt.maxExponent
  normal : 2 ^ fmt.fraction ≤ m ∨ q = fmt.minExponent

/-- The pattern of a canonical pair. -/
def pattern (fmt : Format) (negative : Bool) (m : Nat) (q : Int) : Nat :=
  (if negative then fmt.signBit else 0) +
    ((q - fmt.minExponent).toNat * 2 ^ fmt.fraction + m)

theorem signBit_eq (fmt : Format) : fmt.signBit = 2 ^ fmt.exponent * 2 ^ fmt.fraction := by
  rw [signBit, Nat.pow_eq, Nat.pow_add, Nat.mul_comm]

/-- The pattern without its sign is below those of infinities and NaNs. -/
theorem Canonical.magnitude_lt (h : fmt.Canonical m q) :
    (q - fmt.minExponent).toNat * 2 ^ fmt.fraction + m < fmt.topField * 2 ^ fmt.fraction := by
  obtain ⟨hshort, hlow, hhigh, -⟩ := h
  rw [Nat.pow_succ] at hshort
  rw [maxExponent] at hhigh
  have hsteps : (q - fmt.minExponent).toNat + 2 ≤ fmt.topField := by omega
  have hmul := Nat.mul_le_mul_right (2 ^ fmt.fraction) hsteps
  rw [Nat.add_mul] at hmul
  omega

theorem pattern_lt (h : fmt.Canonical m q) (negative : Bool) :
    fmt.pattern negative m q < 2 * fmt.signBit := by
  have htop : fmt.topField * 2 ^ fmt.fraction ≤ fmt.signBit := by
    rw [signBit_eq]
    exact Nat.mul_le_mul_right _ (Nat.sub_le _ _)
  have hmagnitude := h.magnitude_lt
  rw [pattern]
  split <;> omega

/-- What is read in a pattern whose fields are known. -/
theorem decode_fields (fmt : Format) (negative : Bool) {field fraction : Nat}
    (hfield : field < 2 ^ fmt.exponent) (hfraction : fraction < 2 ^ fmt.fraction) :
    fmt.decode ((if negative then fmt.signBit else 0) + (field * 2 ^ fmt.fraction + fraction)) =
      if field = fmt.topField then
        if fraction = 0 then .infinity negative else .nan
      else if field = 0 then
        .finite negative fraction fmt.minExponent
      else
        .finite negative (2 ^ fmt.fraction + fraction) (fmt.minExponent + (field - 1)) := by
  have hsign := fmt.signBit_eq
  have hunit : 0 < 2 ^ fmt.fraction := Nat.two_pow_pos _
  have hfields : 0 < 2 ^ fmt.exponent := Nat.two_pow_pos _
  -- The sign and the field above the fraction are one number, whose digits they are.
  generalize hbits : (if negative then fmt.signBit else 0) + (field * 2 ^ fmt.fraction + fraction) =
    bits
  obtain ⟨sign, hsigned, hsmall⟩ : ∃ sign : Nat,
      bits = (sign * 2 ^ fmt.exponent + field) * 2 ^ fmt.fraction + fraction ∧
        (sign % 2 == 1) = negative := by
    cases negative with
    | false => exact ⟨0, by rw [← hbits]; simp, rfl⟩
    | true => exact ⟨1, by rw [← hbits, hsign]; simp; ring, rfl⟩
  have hlow : bits % 2 ^ fmt.fraction = fraction := by
    rw [hsigned, Nat.mul_comm, Nat.mul_add_mod, Nat.mod_eq_of_lt hfraction]
  have habove : bits / 2 ^ fmt.fraction = sign * 2 ^ fmt.exponent + field := by
    rw [hsigned, Nat.mul_comm, Nat.mul_add_div hunit, Nat.div_eq_of_lt hfraction, Nat.add_zero]
  have hmiddle : bits / 2 ^ fmt.fraction % 2 ^ fmt.exponent = field := by
    rw [habove, Nat.mul_comm, Nat.mul_add_mod, Nat.mod_eq_of_lt hfield]
  have htop : bits / fmt.signBit = sign := by
    rw [hsign, Nat.mul_comm, ← Nat.div_div_eq_div_mul, habove, Nat.mul_comm,
      Nat.mul_add_div hfields, Nat.div_eq_of_lt hfield, Nat.add_zero]
  simp only [decode, Nat.pow_eq, hlow, hmiddle, htop, hsmall]

/-- A canonical pair is read in its pattern. -/
theorem decode_pattern (h : fmt.Canonical m q) (negative : Bool) :
    fmt.decode (fmt.pattern negative m q) = .finite negative m q := by
  obtain ⟨hshort, hlow, hhigh, hnormal⟩ := h
  have htop : fmt.topField < 2 ^ fmt.exponent :=
    Nat.sub_lt (Nat.two_pow_pos _) Nat.one_pos
  rw [Nat.pow_succ] at hshort
  rw [maxExponent] at hhigh
  by_cases hm : m < 2 ^ fmt.fraction
  -- A number that does not fill its bits has the smallest exponent, and its field is zero.
  · obtain rfl : q = fmt.minExponent := hnormal.resolve_left (Nat.not_le.mpr hm)
    have hfields := decode_fields fmt negative (Nat.two_pow_pos fmt.exponent) hm
    rw [pattern, Int.sub_self, Int.toNat_zero, hfields, if_neg (by omega), if_pos rfl]
  -- Any other has a bit in front, which counts the field up by one.
  · obtain ⟨fraction, rfl⟩ := Nat.exists_eq_add_of_le (Nat.not_lt.mp hm)
    obtain ⟨steps, hsteps⟩ := Int.eq_ofNat_of_zero_le (Int.sub_nonneg_of_le hlow)
    have hfield : steps + 1 < 2 ^ fmt.exponent := by omega
    have hfraction : fraction < 2 ^ fmt.fraction := by omega
    have hfields := decode_fields fmt negative hfield hfraction
    have hpattern : steps * 2 ^ fmt.fraction + (2 ^ fmt.fraction + fraction) =
        (steps + 1) * 2 ^ fmt.fraction + fraction := by
      ring
    have hexponent : fmt.minExponent + (((steps + 1 : Nat) : Int) - 1) = q := by omega
    rw [pattern, hsteps, Int.toNat_natCast, hpattern, hfields,
      if_neg (by omega), if_neg (Nat.succ_ne_zero steps), hexponent]

/-- Whatever is read in a pattern is canonical. -/
theorem canonical_of_decode (htwo : 2 ≤ fmt.topField) {bits : Nat} {negative : Bool}
    (h : fmt.decode bits = .finite negative m q) : fmt.Canonical m q := by
  have hfraction : bits % 2 ^ fmt.fraction < 2 ^ fmt.fraction := Nat.mod_lt _ (Nat.two_pow_pos _)
  have hfield : bits / 2 ^ fmt.fraction % 2 ^ fmt.exponent < fmt.topField + 1 := by
    rw [topField, Nat.pow_eq, Nat.sub_add_cancel (Nat.two_pow_pos _)]
    exact Nat.mod_lt _ (Nat.two_pow_pos _)
  simp only [decode, Nat.pow_eq] at h
  split at h
  · split at h <;> cases h
  · split at h
    · cases h
      refine ⟨?_, le_refl _, ?_, .inr rfl⟩
      · rw [Nat.pow_succ]
        omega
      · rw [maxExponent]
        omega
    · cases h
      refine ⟨?_, ?_, ?_, .inl (Nat.le_add_right _ _)⟩
      · rw [Nat.pow_succ]
        omega
      · omega
      · rw [maxExponent]
        omega

/-! ## Rounding -/

/-- The last place is that of a full significand, or the smallest. -/
theorem exists_lastPlace (fmt : Format) (hnum : num ≠ 0) (hden : den ≠ 0) :
    ∃ full : Int, fmt.lastPlace num den = max full fmt.minExponent ∧
      (2 : ℚ) ^ (fmt.fraction + full) ≤ num / den ∧
        (num : ℚ) / den < 2 ^ (fmt.fraction + full + 1) := by
  obtain ⟨hnumLow, hnumHigh⟩ := log2_bounds hnum
  obtain ⟨hdenLow, hdenHigh⟩ := log2_bounds hden
  have hdenPos : (0 : ℚ) < den := by exact_mod_cast Nat.pos_of_ne_zero hden
  generalize hguess : (num.log2 : Int) - den.log2 - fmt.fraction = guess
  have habove : (num : ℚ) / den < 2 ^ (fmt.fraction + guess + 1) := by
    have hexponent : fmt.fraction + guess + 1 = (num.log2 : Int) + 1 - den.log2 := by omega
    rw [hexponent, zpow_sub₀ two_ne_zero]
    exact div_lt_div₀ hnumHigh hdenLow (by positivity) (by positivity)
  have hbelow : (2 : ℚ) ^ (fmt.fraction + guess - 1) ≤ num / den := by
    have hexponent : fmt.fraction + guess - 1 = (num.log2 : Int) - (den.log2 + 1) := by omega
    rw [hexponent, zpow_sub₀ two_ne_zero]
    exact div_le_div₀ (by positivity) hnumLow hdenPos hdenHigh.le
  -- The comparison in the definition tells on which side of the guess the quotient lies.
  have hcompare : (scale num den guess).1 < Nat.pow 2 fmt.fraction * (scale num den guess).2 ↔
      (num : ℚ) / den < 2 ^ (fmt.fraction + guess) := by
    have hpos : (0 : ℚ) < (scale num den guess).2 := by
      exact_mod_cast scale_snd_pos num hden guess
    rw [← Nat.cast_lt (α := ℚ), Nat.cast_mul, ← div_lt_iff₀ hpos, scale_ratio, zpow_neg,
      ← div_eq_mul_inv, div_lt_iff₀ (by positivity), Nat.pow_eq, Nat.cast_pow, Nat.cast_ofNat,
      ← zpow_natCast, ← zpow_add₀ two_ne_zero]
  rw [lastPlace]
  simp only [hguess, hcompare]
  split
  · rename_i hless
    refine ⟨guess - 1, rfl, ?_, ?_⟩
    · rwa [← Int.add_sub_assoc]
    · rwa [← Int.add_sub_assoc, Int.sub_add_cancel]
  · rename_i hmore
    exact ⟨guess, rfl, not_lt.mp hmore, habove⟩

/-- The last place of the value of a canonical pair is its exponent. -/
theorem lastPlace_eq (h : fmt.Canonical m q) (hm : m ≠ 0) (hden : den ≠ 0)
    (hvalue : (num : ℚ) / den = m * 2 ^ q) : fmt.lastPlace num den = q := by
  have hvaluePos : (0 : ℚ) < m * 2 ^ q := by
    have hmPos : (0 : ℚ) < m := by exact_mod_cast Nat.pos_of_ne_zero hm
    positivity
  have hnum : num ≠ 0 := by
    rintro rfl
    rw [Nat.cast_zero, zero_div] at hvalue
    exact absurd hvalue.symm hvaluePos.ne'
  obtain ⟨full, hplace, hlow, hhigh⟩ := exists_lastPlace fmt hnum hden
  rw [hvalue] at hlow hhigh
  have hle : full ≤ q := by
    have hshort : (m : ℚ) * 2 ^ q < 2 ^ ((fmt.fraction : Int) + 1 + q) := by
      rw [zpow_add₀ two_ne_zero]
      refine mul_lt_mul_of_pos_right ?_ (by positivity)
      exact_mod_cast h.short
    have := two_zpow_lt_iff.mp (hlow.trans_lt hshort)
    omega
  rcases h.normal with hnormal | hsmallest
  · have hge : q ≤ full := by
      have hfull : (2 : ℚ) ^ ((fmt.fraction : Int) + q) ≤ m * 2 ^ q := by
        rw [zpow_add₀ two_ne_zero]
        refine mul_le_mul_of_nonneg_right ?_ (by positivity)
        exact_mod_cast hnormal
      have := two_zpow_lt_iff.mp (hfull.trans_lt hhigh)
      omega
    have := h.low
    omega
  · omega

/-- The value of a canonical pair is rounded to its pattern. -/
theorem ofRatio_eq_pattern (h : fmt.Canonical m q) (hden : den ≠ 0)
    (hvalue : (num : ℚ) / den = m * 2 ^ q) (negative : Bool) :
    fmt.ofRatio negative num den = fmt.pattern negative m q := by
  have hdenCast : (den : ℚ) ≠ 0 := by exact_mod_cast hden
  by_cases hm : m = 0
  · subst hm
    have hnum : num = 0 := by
      rw [Nat.cast_zero, zero_mul, div_eq_zero_iff] at hvalue
      exact_mod_cast hvalue.resolve_right hdenCast
    obtain rfl : q = fmt.minExponent :=
      h.normal.resolve_left (Nat.not_le.mpr (Nat.two_pow_pos _))
    simp [ofRatio, pattern, hnum]
  · have hplace := lastPlace_eq h hm hden hvalue
    have hnum : num ≠ 0 := by
      rintro rfl
      rw [Nat.cast_zero, zero_div, eq_comm, mul_eq_zero] at hvalue
      rcases hvalue with hzero | hzero
      · exact hm (by exact_mod_cast hzero)
      · exact absurd hzero (by positivity)
    have hscaled : (scale num den q).1 = m * (scale num den q).2 := by
      have hpos : ((scale num den q).2 : ℚ) ≠ 0 := by
        exact_mod_cast (scale_snd_pos num hden q).ne'
      have hratio := scale_ratio num den q
      rw [hvalue, mul_assoc, ← zpow_add₀ two_ne_zero, add_neg_cancel, zpow_zero, mul_one,
        div_eq_iff hpos] at hratio
      exact_mod_cast hratio
    have hround : roundDiv (scale num den q).1 (scale num den q).2 = m := by
      rw [hscaled]
      exact roundDiv_mul m (scale_snd_pos num hden q).ne'
    have hmagnitude : ¬ (q - fmt.minExponent).toNat * 2 ^ fmt.fraction + m ≥
        fmt.infinityBits false := by
      simpa [infinityBits] using h.magnitude_lt
    simp only [ofRatio, if_neg hnum, hplace, hround, Nat.pow_eq, if_neg hmagnitude]
    rfl

theorem ofDyadic_eq_pattern (h : fmt.Canonical m q) {m' : Nat} {q' : Int}
    (hvalue : (m' : ℚ) * 2 ^ q' = m * 2 ^ q) (negative : Bool) :
    fmt.ofDyadic negative m' q' = fmt.pattern negative m q := by
  refine ofRatio_eq_pattern h (Nat.two_pow_pos _).ne' ?_ negative
  rw [← hvalue, Nat.pow_eq]
  push_cast
  rw [mul_div_assoc, two_pow_toNat_div]

end Format
end Ieee
end HostLink
