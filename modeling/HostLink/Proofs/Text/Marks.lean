/-
Texts that are taken apart at marks.

A text that was put together from parts can be taken apart again if a mark behind a part shows
where it ends.  The part must not have the mark itself.  For then the first mark of the whole
text is the one behind the part, and two texts that are equal have equal parts.

Cutting a text at all marks of one kind gives its fragments.  Fragments lose nothing, so equal
fragments are those of equal texts.
-/
import Mathlib.Data.List.Basic

namespace HostLink

variable {mark : Char} {a b r s separator : String} {items items' : List String}

/-! ## Texts without a mark -/

theorem notMem_intercalate (hseparator : mark ∉ separator.toList)
    (hitems : ∀ item ∈ items, mark ∉ item.toList) :
    mark ∉ (separator.intercalate items).toList := by
  induction items with
  | nil => simp
  | cons first rest ih =>
    have hrest := ih fun item hitem => hitems item (List.mem_cons_of_mem first hitem)
    have hfirst := hitems first List.mem_cons_self
    cases rest with
    | nil => simpa using hfirst
    | cons second rest =>
      rw [String.intercalate_cons_cons]
      simp only [String.toList_append, List.mem_append, hfirst, hseparator, hrest, or_self,
        not_false_eq_true]

theorem notMem_toString (hmark : mark.isDigit = false) (n : Nat) :
    mark ∉ (toString n).toList := by
  rw [Nat.toString_eq_ofList_toDigits, String.toList_ofList]
  intro hdigit
  have := Nat.isDigit_of_mem_toDigits (by decide) (by decide) hdigit
  simp [hmark] at this

theorem toString_inj {m n : Nat} (h : toString m = toString n) : m = n := by
  rw [Nat.toString_eq_ofList_toDigits, Nat.toString_eq_ofList_toDigits] at h
  have hdigits := congrArg (fun digits => Nat.ofDigitChars 10 digits 0) (String.ofList_injective h)
  simpa only [Nat.ofDigitChars_ten_toDigits] using hdigits

/-! ## The first mark -/

/-- Lists are taken apart at the first item of a kind. -/
theorem append_cons_inj_of_first {α : Type} {P : α → Prop} {l l' rest rest' : List α} {x x' : α}
    (hl : ∀ y ∈ l, ¬ P y) (hl' : ∀ y ∈ l', ¬ P y) (hx : P x) (hx' : P x')
    (h : l ++ x :: rest = l' ++ x' :: rest') : l = l' ∧ x = x' ∧ rest = rest' := by
  rcases List.append_eq_append_iff.mp h with ⟨between, rfl, hbehind⟩ | ⟨between, rfl, hbehind⟩
  · cases between with
    | nil => simpa using hbehind
    | cons first between =>
      obtain ⟨rfl, -⟩ := List.cons.inj hbehind
      exact absurd hx (hl' x (by simp))
  · cases between with
    | nil => simpa [eq_comm] using hbehind
    | cons first between =>
      obtain ⟨rfl, -⟩ := List.cons.inj hbehind
      exact absurd hx' (hl x' (by simp))

/-- They are taken apart at the last one as well. -/
theorem append_cons_inj_of_last {α : Type} {P : α → Prop} {l l' rest rest' : List α} {x x' : α}
    (hrest : ∀ y ∈ rest, ¬ P y) (hrest' : ∀ y ∈ rest', ¬ P y) (hx : P x) (hx' : P x')
    (h : l ++ x :: rest = l' ++ x' :: rest') : l = l' ∧ x = x' ∧ rest = rest' := by
  have hreverse : rest.reverse ++ x :: l.reverse = rest'.reverse ++ x' :: l'.reverse := by
    simpa using congrArg List.reverse h
  obtain ⟨hbehind, rfl, hbefore⟩ := append_cons_inj_of_first
    (fun y hy => hrest y (List.mem_reverse.mp hy))
    (fun y hy => hrest' y (List.mem_reverse.mp hy)) hx hx' hreverse
  exact ⟨List.reverse_inj.mp hbefore, rfl, List.reverse_inj.mp hbehind⟩

/-- A separator is found by the mark it begins with, if no part has that mark. -/
theorem append_separator_inj (mark : Char) (hseparator : separator.toList.head? = some mark)
    (ha : mark ∉ a.toList) (hb : mark ∉ b.toList)
    (h : a ++ (separator ++ r) = b ++ (separator ++ s)) : a = b ∧ r = s := by
  obtain ⟨tail, htail⟩ := List.head?_eq_some_iff.mp hseparator
  rw [← String.toList_inj] at h
  simp only [String.toList_append, htail, List.cons_append] at h
  obtain ⟨hparts, -, hrest⟩ := append_cons_inj_of_first (P := (· = mark))
    (fun c hc hmark => ha (hmark ▸ hc)) (fun c hc hmark => hb (hmark ▸ hc)) rfl rfl h
  rw [List.append_cancel_left_eq, String.toList_inj] at hrest
  exact ⟨String.toList_inj.mp hparts, hrest⟩

/-- One of two texts that begin the same text begins the other one. -/
theorem exists_append_of_append_eq (h : a ++ r = b ++ s) :
    (∃ t, b = a ++ t) ∨ ∃ t, a = b ++ t := by
  rw [← String.toList_inj, String.toList_append, String.toList_append] at h
  rcases List.append_eq_append_iff.mp h with ⟨more, hb, -⟩ | ⟨more, ha, -⟩
  · exact .inl ⟨String.ofList more, by rw [← String.toList_inj]; simpa using hb⟩
  · exact .inr ⟨String.ofList more, by rw [← String.toList_inj]; simpa using ha⟩

/-- A text that has a mark is cut at the first one. -/
theorem exists_append_separator (separator : String) (hseparator : separator.toList = [mark])
    (h : mark ∈ a.toList) : ∃ r s, a = r ++ (separator ++ s) ∧ mark ∉ r.toList := by
  obtain ⟨before, behind, hlist, hbefore⟩ := List.eq_append_cons_of_mem h
  refine ⟨String.ofList before, String.ofList behind, ?_, by rwa [String.toList_ofList]⟩
  rw [← String.toList_inj]
  simpa [hseparator] using hlist

/-- Whether an item of a list can be told from no item at all, and from two. -/
def Plain (mark : Char) (item : String) : Prop := item ≠ "" ∧ mark ∉ item.toList

theorem intercalate_eq_empty_iff (hitems : ∀ item ∈ items, Plain mark item) :
    separator.intercalate items = "" ↔ items = [] := by
  cases items with
  | nil => simp
  | cons first rest =>
    have hfirst := (hitems first List.mem_cons_self).1
    cases rest with
    | nil => simpa using hfirst
    | cons second rest => simp [String.intercalate_cons_cons, hfirst]

/-- The items of a list are read in the joined text. -/
theorem intercalate_inj (mark : Char) (hseparator : separator.toList.head? = some mark)
    (hitems : ∀ item ∈ items, Plain mark item) (hitems' : ∀ item ∈ items', Plain mark item)
    (h : separator.intercalate items = separator.intercalate items') : items = items' := by
  induction items generalizing items' with
  | nil => exact ((intercalate_eq_empty_iff hitems').mp h.symm).symm
  | cons first rest ih =>
    cases items' with
    | nil => exact (intercalate_eq_empty_iff hitems).mp h
    | cons first' rest' =>
      obtain ⟨-, hfirst⟩ := hitems first List.mem_cons_self
      obtain ⟨-, hfirst'⟩ := hitems' first' List.mem_cons_self
      have hmark : mark ∈ separator.toList := List.mem_of_mem_head? hseparator
      cases rest with
      | nil =>
        cases rest' with
        | nil => simpa using h
        | cons second' rest' =>
          rw [String.intercalate_singleton, String.intercalate_cons_cons] at h
          exact absurd (by simp [h, hmark]) hfirst
      | cons second rest =>
        cases rest' with
        | nil =>
          rw [String.intercalate_singleton, String.intercalate_cons_cons] at h
          exact absurd (by simp [← h, hmark]) hfirst'
        | cons second' rest' =>
          rw [String.intercalate_cons_cons, String.intercalate_cons_cons, String.append_assoc,
            String.append_assoc] at h
          obtain ⟨rfl, hrest⟩ := append_separator_inj mark hseparator hfirst hfirst' h
          rw [ih (fun item hitem => hitems item (List.mem_cons_of_mem _ hitem))
            (fun item hitem => hitems' item (List.mem_cons_of_mem _ hitem)) hrest]

/-! ## Fragments -/

/-- What the marks of a text leave of it. -/
def fragments (mark : Char) (text : String) : List String :=
  (text.toList.splitOn mark).map String.ofList

theorem fragments_eq_singleton (h : mark ∉ a.toList) : fragments mark a = [a] := by
  rw [fragments, List.splitOn_eq_singleton h, List.map_singleton, String.ofList_toList]

theorem fragments_append (hseparator : separator.toList = [mark]) (a b : String) :
    fragments mark (a ++ (separator ++ b)) = fragments mark a ++ fragments mark b := by
  simp only [fragments, String.toList_append, hseparator, List.singleton_append]
  rw [List.splitOn_append_cons_self, List.map_append]

theorem fragments_inj (h : fragments mark a = fragments mark b) : a = b := by
  have hsplit : a.toList.splitOn mark = b.toList.splitOn mark :=
    List.map_injective_iff.mpr (fun _ _ => String.ofList_injective) h
  have hjoin : ∀ text : String, [mark].intercalate (text.toList.splitOn mark) = text.toList :=
    fun text => List.intercalate_splitOn mark
  rw [← String.toList_inj, ← hjoin a, hsplit, hjoin b]

/-- A fragment has no characters that its text does not have. -/
theorem mem_of_mem_fragments {fragment : String} {c : Char} (h : fragment ∈ fragments mark a)
    (hc : c ∈ fragment.toList) : c ∈ a.toList := by
  obtain ⟨characters, hmem, rfl⟩ := List.mem_map.mp h
  have hjoin : [mark].intercalate (a.toList.splitOn mark) = a.toList :=
    List.intercalate_splitOn mark
  rw [String.toList_ofList] at hc
  rw [← hjoin]
  generalize a.toList.splitOn mark = parts at hmem
  induction parts with
  | nil => cases hmem
  | cons first rest ih =>
    cases rest with
    | nil =>
      obtain rfl := List.mem_singleton.mp hmem
      rwa [List.intercalate_singleton]
    | cons second rest =>
      rw [List.intercalate_cons_cons]
      rcases List.mem_cons.mp hmem with rfl | hrest
      · exact List.mem_append_left _ (List.mem_append_left _ hc)
      · exact List.mem_append_right _ (ih hrest)

end HostLink
