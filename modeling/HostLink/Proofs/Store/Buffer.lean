/-
What the operations of a buffer do to its cells.

A buffer is what its indices are told by `get?`, bounds included (`ext_get?`), so an operation
is described by the cells it leaves.
-/
import HostLink.Store.Buffer

namespace HostLink
namespace Buffer

variable {α : Type} {b b' : Buffer α} {start last target : Nat} {values : List α}

theorem get?_of_lt {i : Nat} (h : i < b.length) : b.get? i = some (b.cell ⟨i, h⟩) := dif_pos h

theorem get?_eq_none_iff {i : Nat} : b.get? i = none ↔ b.length ≤ i := by
  by_cases h : i < b.length
  · simp [get?_of_lt h, h]
  · simp [get?, h, Nat.le_of_not_lt h]

theorem get?_of_le {i : Nat} (h : b.length ≤ i) : b.get? i = none := get?_eq_none_iff.mpr h

/-- A buffer is told by its cells. -/
theorem ext_get? (h : ∀ i, b.get? i = b'.get? i) : b = b' := by
  have hlength : b.length = b'.length := by
    apply Nat.le_antisymm
    · exact get?_eq_none_iff.mp ((h _).trans (get?_of_le (Nat.le_refl _)))
    · exact get?_eq_none_iff.mp ((h _).symm.trans (get?_of_le (Nat.le_refl _)))
  obtain ⟨length, cell⟩ := b
  obtain ⟨length', cell'⟩ := b'
  obtain rfl : length = length' := hlength
  congr 1
  funext i
  have hcell := h i
  rw [get?_of_lt i.isLt, get?_of_lt i.isLt] at hcell
  exact Option.some.inj hcell

theorem get?_set {index : Nat} {value : α} (h : index < b.length) (i : Nat) :
    (b.set index value h).get? i = if i = index then some value else b.get? i := by
  by_cases hi : i < b.length
  · rw [get?_of_lt (show i < (b.set index value h).length from hi), get?_of_lt hi]
    simp only [set]
    split <;> rfl
  · rw [get?_of_le (show (b.set index value h).length ≤ i from Nat.le_of_not_lt hi),
      get?_of_le (Nat.le_of_not_lt hi), if_neg (by omega)]

theorem get?_resize {length : Nat} {value : α} (i : Nat) :
    (b.resize length value).get? i =
      if i < length then some ((b.get? i).getD value) else none := by
  by_cases hi : i < length
  · rw [get?_of_lt (show i < (b.resize length value).length from hi), if_pos hi]
    by_cases hold : i < b.length
    · simp [resize, hold, get?_of_lt hold]
    · simp [resize, hold, get?_of_le (Nat.le_of_not_lt hold)]
  · rw [get?_of_le (show (b.resize length value).length ≤ i from Nat.le_of_not_lt hi), if_neg hi]

theorem get?_overwrite (h : b.HasSlice start (start + values.length)) (i : Nat) :
    (b.overwrite start values h).get? i =
      if start ≤ i ∧ i < start + values.length then values[i - start]? else b.get? i := by
  by_cases hi : i < b.length
  · rw [get?_of_lt (show i < (b.overwrite start values h).length from hi), get?_of_lt hi]
    by_cases hrange : start ≤ i ∧ i < start + values.length
    · have hinside : start ≤ i ∧ i - start < values.length := by omega
      rw [if_pos hrange, List.getElem?_eq_getElem hinside.2]
      exact congrArg some (dif_pos hinside)
    · have houtside : ¬ (start ≤ i ∧ i - start < values.length) := by omega
      rw [if_neg hrange]
      exact congrArg some (dif_neg houtside)
  · have hlast := h.inside
    rw [get?_of_le (show (b.overwrite start values h).length ≤ i from Nat.le_of_not_lt hi),
      get?_of_le (Nat.le_of_not_lt hi), if_neg (by omega)]

theorem get?_fill {value : α} (h : b.HasSlice start last) (i : Nat) :
    (b.fill start last value h).get? i =
      if start ≤ i ∧ i < last then some value else b.get? i := by
  by_cases hi : i < b.length
  · rw [get?_of_lt (show i < (b.fill start last value h).length from hi), get?_of_lt hi]
    simp only [fill]
    split <;> rfl
  · have hlast := h.inside
    rw [get?_of_le (show (b.fill start last value h).length ≤ i from Nat.le_of_not_lt hi),
      get?_of_le (Nat.le_of_not_lt hi), if_neg (by omega)]

theorem get?_copyWithin (can : b.CanCopy start last target) (i : Nat) :
    (b.copyWithin start last target can).get? i =
      if target ≤ i ∧ i < target + (last - start) then b.get? (start + (i - target))
      else b.get? i := by
  have hlast := can.slice.inside
  have hstart := can.slice.ordered
  have htarget := can.room
  by_cases hi : i < b.length
  · rw [get?_of_lt (show i < (b.copyWithin start last target can).length from hi), get?_of_lt hi]
    by_cases hrange : target ≤ i ∧ i < target + (last - start)
    · have hinside : target ≤ i ∧ i - target < last - start := by omega
      rw [if_pos hrange, get?_of_lt (show start + (i - target) < b.length by omega)]
      exact congrArg some (dif_pos hinside)
    · have houtside : ¬ (target ≤ i ∧ i - target < last - start) := by omega
      rw [if_neg hrange]
      exact congrArg some (dif_neg houtside)
  · rw [get?_of_le (show (b.copyWithin start last target can).length ≤ i from Nat.le_of_not_lt hi),
      get?_of_le (Nat.le_of_not_lt hi), if_neg (by omega)]

/-! ## Buffers as lists -/

@[simp] theorem length_toList (b : Buffer α) : b.toList.length = b.length := List.length_ofFn

@[simp] theorem getElem?_toList (b : Buffer α) (i : Nat) : b.toList[i]? = b.get? i := by
  rw [toList, List.getElem?_ofFn]
  rfl

end Buffer
end HostLink
