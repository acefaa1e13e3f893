/-
Decimal numbers as TOML scalars.

The digits a number is printed with are read as that number: they have no sign, no base in
front, no underscores and, unless the number is zero, no zero in front.
-/
import HostLink.Toml.Scalar
import Mathlib.Data.List.Basic

namespace HostLink
namespace Toml

variable {c : Char} {cs : List Char} {n : Nat}

/-! ## Digits -/

theorem ne_of_isDigit {other : Char} (hc : c.isDigit) (hother : other.isDigit = false) :
    c ≠ other := by
  rintro rfl
  rw [hother] at hc
  cases hc

/-- The digits of a number, in decimal. -/
def digits (n : Nat) : List Char := Nat.toDigits 10 n

theorem toList_toString (n : Nat) : (toString n).toList = digits n := by
  rw [Nat.toString_eq_ofList_toDigits, String.toList_ofList, digits]

theorem isDigit_of_mem_digits (hc : c ∈ digits n) : c.isDigit :=
  Nat.isDigit_of_mem_toDigits (by decide) (by decide) hc

theorem digits_ne_nil (n : Nat) : digits n ≠ [] := Nat.toDigits_ne_nil

/-- A number but zero has no zero in front. -/
theorem head?_digits (hn : n ≠ 0) : (digits n).head? ≠ some '0' := by
  induction n using Nat.strongRecOn with
  | _ n ih =>
    by_cases hsmall : n < 10
    · have hdigit : ∀ d < 10, d ≠ 0 → some (Nat.digitChar d) ≠ some '0' := by decide
      rw [digits, Nat.toDigits_of_lt_base hsmall]
      exact hdigit n hsmall hn
    -- The digits in front are those of the quotient, which is not zero either.
    · have hhead := ih (n / 10) (by omega) (by omega)
      obtain ⟨first, rest, hdigits⟩ := List.exists_cons_of_ne_nil (digits_ne_nil (n / 10))
      rw [digits] at hdigits hhead ⊢
      rw [Nat.toDigits_of_base_le (by decide) (by omega), hdigits]
      rwa [hdigits] at hhead

/-! ## Integers -/

theorem grouped_of_forall (hcs : cs ≠ []) (hall : ∀ c ∈ cs, c.isDigit) :
    grouped Char.isDigit cs = true := by
  induction cs with
  | nil => exact absurd rfl hcs
  | cons first rest ih =>
    have hfirst := hall first List.mem_cons_self
    cases rest with
    | nil => simpa [grouped] using hfirst
    | cons second rest =>
      have hrest := fun c hc => hall c (List.mem_cons_of_mem first hc)
      have hsecond : second ≠ '_' := ne_of_isDigit (hrest second List.mem_cons_self) (by decide)
      have hgrouped := ih (List.cons_ne_nil _ _) hrest
      unfold grouped
      split <;> simp_all

theorem digitsValue_digits (n : Nat) : digitsValue 10 (digits n) = n := by
  have hplain : (digits n).filter (· != '_') = digits n := by
    rw [List.filter_eq_self]
    exact fun c hc => by simpa using ne_of_isDigit (isDigit_of_mem_digits hc) (by decide)
  have hvalue : ∀ sum : Nat, ∀ c ∈ digits n,
      10 * sum + Digit.value c = 10 * sum + (c.toNat - '0'.toNat) := fun sum c hc => by
    rw [Digit.value, if_pos (isDigit_of_mem_digits hc)]
    rfl
  rw [digitsValue, hplain, List.foldl_ext _ _ _ hvalue, ← Nat.ofDigitChars_eq_foldl, digits,
    Nat.ofDigitChars_ten_toDigits]

theorem isDecimal_digits (n : Nat) : isDecimal (digits n) = true := by
  have hgrouped := grouped_of_forall (digits_ne_nil n) fun _ => isDigit_of_mem_digits
  rw [isDecimal, hgrouped, Bool.true_and]
  by_cases hn : n = 0
  · subst hn
    decide
  · simp [head?_digits hn]

/-- Words are integers of the format. -/
theorem inRange_word (n : UInt32) : inRange n.toNat := by
  have hlt : n.toNat < 4294967296 := n.toNat_lt
  have hbound : Nat.pow 2 63 = 9223372036854775808 := rfl
  simp only [inRange, hbound, Bool.and_eq_true, decide_eq_true_eq]
  omega

/-- The first two digits are no sign and no base. -/
theorem integer?_digits (hn : inRange n) : integer? (digits n) = some (n : Int) := by
  have hdecimal := isDecimal_digits n
  have hvalue := digitsValue_digits n
  have hall : ∀ c ∈ digits n, c.isDigit := fun _ => isDigit_of_mem_digits
  generalize digits n = cs at hdecimal hvalue hall
  unfold integer?
  split
  · simp at hall
  · simp at hall
  · simp at hall
  · have hsign : splitSign cs = (none, cs) := by
      unfold splitSign
      split
      · simp at hall
      · simp at hall
      · rfl
    simp [hsign, hdecimal, hvalue, hn]

theorem ofScalar?_digits (hn : inRange n) :
    Node.ofScalar? (digits n) = some (.integer n) := by
  have hall : ∀ c ∈ digits n, c.isDigit := fun _ => isDigit_of_mem_digits
  have htrue : digits n ≠ "true".toList := fun h => by
    rw [h] at hall
    simp at hall
  have hfalse : digits n ≠ "false".toList := fun h => by
    rw [h] at hall
    simp at hall
  rw [Node.ofScalar?, if_neg htrue, if_neg hfalse, integer?_digits hn]

end Toml
end HostLink
