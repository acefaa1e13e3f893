/-
Look-up in ordered entries, and their order.

Three facts carry what is said of exports.  An entry found under a name is one of the
entries, so what holds of all entries holds of the one found.  Adding further entries
leaves the value of every name they do not have.  Entries made one for one from others,
under the same names, are found where the others are.

The names keep their order.  A name that is given again stays where it is, a new one goes to
the end, and one that is removed leaves the others as they are.
-/
import HostLink.Named
import Mathlib.Data.List.Forall2

namespace HostLink
namespace Named

variable {α : Type} {entries others : Named α} {key name : String} {value : α}

theorem mem_of_get? (h : entries.get? key = some value) : (key, value) ∈ entries := by
  induction entries with
  | nil => simp [get?] at h
  | cons entry rest ih =>
    obtain ⟨first, old⟩ := entry
    by_cases hname : first = key
    · simp only [get?, if_pos hname, Option.some.injEq] at h
      simp [hname, h]
    · simp only [get?, if_neg hname] at h
      exact List.mem_cons_of_mem _ (ih h)

theorem get?_put (entries : Named α) (name key : String) (value : α) :
    (entries.put name value).get? key = if name = key then some value else entries.get? key := by
  induction entries with
  | nil => rfl
  | cons entry rest ih =>
    obtain ⟨first, old⟩ := entry
    by_cases hname : first = name
    · subst hname
      simp only [put, ↓reduceIte, get?]
      split <;> rfl
    · simp only [put, if_neg hname, get?, ih]
      split
      · rename_i hkey
        rw [if_neg fun e => hname (hkey.trans e.symm)]
      · rfl

/-- Entries added under other names do not change what a name stands for. -/
theorem get?_putAll_of_notMem (h : key ∉ others.names) :
    (entries.putAll others).get? key = entries.get? key := by
  induction others generalizing entries with
  | nil => rfl
  | cons entry rest ih =>
    simp only [names, List.map_cons, List.mem_cons, not_or] at h
    have hrest : ((entries.put entry.1 entry.2).putAll rest).get? key
        = (entries.put entry.1 entry.2).get? key := ih h.2
    have hfirst : entry.1 ≠ key := fun e => h.1 e.symm
    rw [putAll] at hrest ⊢
    rw [List.foldl_cons, hrest, get?_put, if_neg hfirst]

/-- Entries added last are found, if no two of them have one name. -/
theorem get?_putAll_of_get? (hnames : others.names.Nodup) (h : others.get? key = some value) :
    (entries.putAll others).get? key = some value := by
  induction others generalizing entries with
  | nil => cases h
  | cons first rest ih =>
    obtain ⟨hfirst, hrest⟩ := List.nodup_cons.mp hnames
    show ((entries.put first.1 first.2).putAll rest).get? key = some value
    by_cases hkey : first.1 = key
    · simp only [get?, if_pos hkey] at h
      rw [get?_putAll_of_notMem (hkey ▸ hfirst), get?_put, if_pos hkey, h]
    · simp only [get?, if_neg hkey] at h
      exact ih hrest h

/-! ## New names -/

theorem get?_eq_none_iff : entries.get? key = none ↔ key ∉ entries.names := by
  induction entries with
  | nil => simp [get?, names]
  | cons entry rest ih =>
    by_cases hkey : entry.1 = key
    · simp [get?, names, hkey]
    · simp only [get?, if_neg hkey, ih, names, List.map_cons, List.mem_cons, not_or,
        show key ≠ entry.1 from fun e => hkey e.symm, not_false_eq_true, true_and]

theorem get?_append_of_notMem (h : key ∉ entries.names) :
    Named.get? (entries ++ others) key = others.get? key := by
  induction entries with
  | nil => rfl
  | cons entry rest ih =>
    simp only [names, List.map_cons, List.mem_cons, not_or] at h
    rw [List.cons_append, get?, if_neg fun e => h.1 e.symm]
    exact ih h.2

/-- A new name is added at the end. -/
theorem put_append_of_notMem (h : key ∉ entries.names) :
    Named.put (entries ++ others) key value = entries ++ others.put key value := by
  induction entries with
  | nil => rfl
  | cons entry rest ih =>
    simp only [names, List.map_cons, List.mem_cons, not_or] at h
    rw [List.cons_append, put, if_neg fun e => h.1 e.symm, ih h.2, List.cons_append]

theorem put_of_notMem (h : key ∉ entries.names) :
    entries.put key value = entries ++ [(key, value)] := by
  have hend : Named.put (entries ++ []) key value = entries ++ Named.put [] key value :=
    put_append_of_notMem h
  rwa [List.append_nil] at hend

/-- Of names that come once each, every one is found with the value it comes with. -/
theorem get?_of_mem (hnames : entries.names.Nodup) (h : (key, value) ∈ entries) :
    entries.get? key = some value := by
  induction entries with
  | nil => cases h
  | cons entry rest ih =>
    obtain ⟨hfirst, hrest⟩ := List.nodup_cons.mp hnames
    rcases List.mem_cons.mp h with rfl | hmem
    · exact if_pos rfl
    · have hne : entry.1 ≠ key := fun e => hfirst (e ▸ List.mem_map_of_mem hmem)
      rw [get?, if_neg hne]
      exact ih hrest hmem

/-- The order of entries with distinct names does not matter. -/
theorem get?_of_perm (h : entries.Perm others) (hnames : others.names.Nodup) (key : String) :
    entries.get? key = others.get? key := by
  cases hentry : entries.get? key with
  | none =>
    have hnone : key ∉ others.names := fun hmem =>
      get?_eq_none_iff.mp hentry ((h.map Prod.fst).mem_iff.mpr hmem)
    exact (get?_eq_none_iff.mpr hnone).symm
  | some value => exact (get?_of_mem hnames (h.mem_iff.mp (mem_of_get? hentry))).symm

/-- Entries with names of their own are found before those they are added to. -/
theorem get?_putAll (hnames : others.names.Nodup) (key : String) :
    (entries.putAll others).get? key = (others.get? key).or (entries.get? key) := by
  cases hother : others.get? key with
  | none => exact get?_putAll_of_notMem (get?_eq_none_iff.mp hother)
  | some value => exact get?_putAll_of_get? hnames hother

/-! ## Order -/

theorem names_put_of_mem (h : key ∈ entries.names) :
    (entries.put key value).names = entries.names := by
  induction entries with
  | nil => cases h
  | cons entry rest ih =>
    by_cases hkey : entry.1 = key
    · simp only [put, if_pos hkey, names, List.map_cons]
    · have hrest : key ∈ names rest := (List.mem_cons.mp h).resolve_left fun e => hkey e.symm
      simp only [put, if_neg hkey, names, List.map_cons]
      exact congrArg _ (ih hrest)

theorem names_put (entries : Named α) (key : String) (value : α) :
    (entries.put key value).names =
      if key ∈ entries.names then entries.names else entries.names ++ [key] := by
  split
  · rename_i hkey
    exact names_put_of_mem hkey
  · rename_i hkey
    rw [put_of_notMem hkey, names, List.map_append]
    rfl

theorem names_remove (entries : Named α) (key : String) :
    (entries.remove key).names = entries.names.filter (· ≠ key) := by
  rw [names, remove, names, List.filter_map]
  refine congrArg _ (List.filter_congr fun entry _ => ?_)
  simp [bne, beq_eq_decide]

theorem get?_remove (entries : Named α) (name key : String) :
    (entries.remove name).get? key = if name = key then none else entries.get? key := by
  induction entries with
  | nil => simp [remove, get?]
  | cons entry rest ih =>
    rw [remove] at ih
    by_cases hname : entry.1 = name
    · rw [remove, List.filter_cons_of_neg (by simpa using hname), ih, get?, hname]
      split
      · rfl
      · rfl
    · rw [remove, List.filter_cons_of_pos (by simpa using hname), get?, get?, ih]
      split
      · rename_i hkey
        rw [if_neg fun e => hname (hkey.trans e.symm)]
      · rfl

theorem nodup_names_put (h : entries.names.Nodup) : (entries.put key value).names.Nodup := by
  rw [names_put]
  split
  · exact h
  · rename_i hkey
    refine List.nodup_append.mpr ⟨h, List.nodup_cons.mpr ⟨List.not_mem_nil, List.nodup_nil⟩, ?_⟩
    rintro name hname _ hlast rfl
    exact hkey (List.mem_singleton.mp hlast ▸ hname)

theorem nodup_names_remove (h : entries.names.Nodup) : (entries.remove key).names.Nodup := by
  rw [names_remove]
  exact h.filter _

/-- Entries with names of their own are added behind, less the names that were there. -/
theorem names_putAll (hnames : others.names.Nodup) :
    (entries.putAll others).names =
      entries.names ++ others.names.filter (· ∉ entries.names) := by
  induction others generalizing entries with
  | nil => simp [putAll, names]
  | cons first rest ih =>
    obtain ⟨hfirst, hrest⟩ := List.nodup_cons.mp hnames
    have hputAll : entries.putAll (first :: rest) = (entries.put first.1 first.2).putAll rest := rfl
    have hothers : names (first :: rest) = first.1 :: names rest := rfl
    rw [hputAll, ih hrest, hothers, names_put]
    by_cases hmem : first.1 ∈ entries.names
    · rw [if_pos hmem, List.filter_cons_of_neg (by simpa using hmem)]
    · rw [if_neg hmem, List.filter_cons_of_pos (by simpa using hmem), List.append_assoc,
        List.singleton_append]
      -- None of the rest has the name that was added.
      have hsame : (names rest).filter (· ∉ entries.names ++ [first.1]) =
          (names rest).filter (· ∉ entries.names) := by
        refine List.filter_congr fun name hname => ?_
        have hne : name ≠ first.1 := fun e => hfirst (e ▸ hname)
        simp [hne]
      rw [hsame]

/-! ## Properties of values -/

theorem of_mem_put {P : α → Prop} (hentries : ∀ entry ∈ entries, P entry.2) (hvalue : P value) :
    ∀ entry ∈ entries.put name value, P entry.2 := by
  induction entries with
  | nil => simpa [put] using hvalue
  | cons first rest ih =>
    have hrest := ih fun entry hentry => hentries entry (List.mem_cons_of_mem _ hentry)
    intro entry hentry
    by_cases hname : first.1 = name
    · simp only [put, if_pos hname, List.mem_cons] at hentry
      rcases hentry with rfl | hentry
      · exact hvalue
      · exact hentries entry (List.mem_cons_of_mem _ hentry)
    · simp only [put, if_neg hname, List.mem_cons] at hentry
      rcases hentry with rfl | hentry
      · exact hentries _ List.mem_cons_self
      · exact hrest entry hentry

/-- What holds of all values of two lists of entries holds of those of their union. -/
theorem of_mem_putAll {P : α → Prop} (hentries : ∀ entry ∈ entries, P entry.2)
    (hothers : ∀ entry ∈ others, P entry.2) : ∀ entry ∈ entries.putAll others, P entry.2 := by
  induction others generalizing entries with
  | nil => exact hentries
  | cons first rest ih =>
    have hput : ∀ entry ∈ entries.put first.1 first.2, P entry.2 :=
      of_mem_put hentries (hothers first List.mem_cons_self)
    exact ih hput fun entry hentry => hothers entry (List.mem_cons_of_mem _ hentry)

/-! ## Entries made from others -/

section Made

variable {β : Type} {R : String → α → β → Prop} {made : Named β}

theorem of_mem_made {P : β → Prop}
    (h : List.Forall₂ (fun x y => y.1 = x.1 ∧ R x.1 x.2 y.2) entries made)
    (hP : ∀ {name value result}, R name value result → P result) :
    ∀ entry ∈ made, P entry.2 := by
  induction h with
  | nil => exact fun entry hentry => absurd hentry List.not_mem_nil
  | cons hfirst _ ih =>
    intro entry hentry
    rcases List.mem_cons.mp hentry with rfl | hentry
    · exact hP hfirst.2
    · exact ih entry hentry

theorem names_made (h : List.Forall₂ (fun x y => y.1 = x.1 ∧ R x.1 x.2 y.2) entries made) :
    made.names = entries.names := by
  induction h with
  | nil => rfl
  | cons hfirst _ ih =>
    simp only [names, List.map_cons, hfirst.1] at ih ⊢
    rw [ih]

theorem get?_made (h : List.Forall₂ (fun x y => y.1 = x.1 ∧ R x.1 x.2 y.2) entries made)
    (hget : entries.get? key = some value) :
    ∃ result, made.get? key = some result ∧ R key value result := by
  induction h with
  | nil => simp [get?] at hget
  | @cons first result rest others hfirst _ ih =>
    obtain ⟨hname, hresult⟩ := hfirst
    by_cases hkey : first.1 = key
    · subst hkey
      simp only [get?, ↓reduceIte, Option.some.injEq] at hget
      subst hget
      exact ⟨result.2, by simp [get?, hname], hresult⟩
    · simp only [get?, if_neg hkey] at hget
      obtain ⟨found, hfound, hR⟩ := ih hget
      exact ⟨found, by simp only [get?, hname, if_neg hkey, hfound], hR⟩

theorem get?_made_eq_none (h : List.Forall₂ (fun x y => y.1 = x.1 ∧ R x.1 x.2 y.2) entries made)
    (hget : entries.get? key = none) : made.get? key = none := by
  induction h with
  | nil => rfl
  | @cons first result rest others hfirst _ ih =>
    by_cases hkey : first.1 = key
    · simp [get?, hkey] at hget
    · simp only [get?, if_neg hkey] at hget
      simp only [get?, hfirst.1, if_neg hkey, ih hget]

end Made
end Named
end HostLink
