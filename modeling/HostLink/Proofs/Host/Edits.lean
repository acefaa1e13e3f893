/-
Collections that are built up by edits.

An edit defines a function or a global under a name, or removes what the name stands for.  What
a name stands for in the end is settled by the last edit of it, `standing?`.  Where it stands
among the others is settled by the edit that it has been defined since, `StandsSince`: a
definition that takes the place of another one does not count, and what was before a removal
does not either.  The names of a collection stand in the order of these edits.
-/
import HostLink.Host.Collection
import HostLink.Proofs.Named
import Mathlib.Data.List.Induction

namespace HostLink
namespace Collection

variable {Host : Type}

/-! ## Edits -/

inductive Edit (Host : Type) where
  | function (name : String) (params results : List ValueType) (host : Host)
  | global (name : String) (value : Value) (mutability : Mutability)
  | remove (name : String)
  deriving DecidableEq, Repr

def Edit.name : Edit Host → String
  | function name .. => name
  | global name .. => name
  | remove name => name

/-- What the name of an edit stands for after it. -/
def Edit.definition? : Edit Host → Option (Definition Host)
  | function _ params results host => some (.function { params := params, results := results } host)
  | global _ value mutability => some (.global value mutability)
  | remove _ => none

def edit (collection : Collection Host) : Edit Host → Collection Host
  | .function name params results host => collection.function name params results host
  | .global name value mutability => collection.global name value mutability
  | .remove name => collection.remove name

/-- The collection that some edits make of an empty one. -/
def built (label : String) (edits : List (Edit Host)) : Collection Host :=
  edits.foldl edit { name := label }

/-! ## What names stand for -/

variable {label key : String} {edits : List (Edit Host)} {i : Nat}

/-- What a name stands for after some edits. -/
def standing? (edits : List (Edit Host)) (key : String) : Option (Definition Host) :=
  (edits.reverse.find? fun edit => edit.name = key).bind Edit.definition?

/-- Whether a name has been standing for something since an edit, and not before. -/
structure StandsSince (edits : List (Edit Host)) (key : String) (i : Nat) : Prop where
  within : i < edits.length
  before : standing? (edits.take i) key = none
  ever : ∀ k, i < k → k ≤ edits.length → (standing? (edits.take k) key).isSome

theorem standing?_concat (edits : List (Edit Host)) (edit : Edit Host) (key : String) :
    standing? (edits ++ [edit]) key =
      if edit.name = key then edit.definition? else standing? edits key := by
  rw [standing?, List.reverse_append, List.reverse_singleton, List.singleton_append]
  by_cases hkey : edit.name = key
  · rw [List.find?_cons_of_pos (by simpa using hkey), if_pos hkey]
    rfl
  · rw [List.find?_cons_of_neg (by simpa using hkey), if_neg hkey]
    rfl

theorem built_concat (label : String) (edits : List (Edit Host)) (last : Edit Host) :
    built label (edits ++ [last]) = (built label edits).edit last := by
  rw [built, List.foldl_append]
  rfl

theorem get?_edit (collection : Collection Host) (edit : Edit Host) (key : String) :
    (collection.edit edit).definitions.get? key =
      if edit.name = key then edit.definition? else collection.definitions.get? key := by
  cases edit with
  | function name params results host => exact Named.get?_put _ _ _ _
  | global name value mutability => exact Named.get?_put _ _ _ _
  | remove name => exact Named.get?_remove _ _ _

theorem names_edit (collection : Collection Host) (edit : Edit Host) :
    (collection.edit edit).definitions.names =
      if edit.definition?.isSome then
        if edit.name ∈ collection.definitions.names then collection.definitions.names
        else collection.definitions.names ++ [edit.name]
      else collection.definitions.names.filter (· ≠ edit.name) := by
  cases edit with
  | function name params results host => exact Named.names_put _ _ _
  | global name value mutability => exact Named.names_put _ _ _
  | remove name => exact Named.names_remove _ _

/-- A name stands in a collection for what the last edit of it says. -/
theorem get?_built (label : String) (edits : List (Edit Host)) (key : String) :
    (built label edits).definitions.get? key = standing? edits key := by
  induction edits using List.reverseRecOn with
  | nil => rfl
  | append_singleton edits last ih => rw [built_concat, get?_edit, standing?_concat, ih]

theorem mem_names_built :
    key ∈ (built label edits).definitions.names ↔ (standing? edits key).isSome := by
  rw [← get?_built label, ← Option.ne_none_iff_isSome, ne_eq, Named.get?_eq_none_iff, not_not]

theorem nodup_built (label : String) (edits : List (Edit Host)) :
    (built label edits).definitions.names.Nodup := by
  induction edits using List.reverseRecOn with
  | nil => exact .nil
  | append_singleton edits last ih =>
    rw [built_concat]
    cases last with
    | function name params results host => exact Named.nodup_names_put ih
    | global name value mutability => exact Named.nodup_names_put ih
    | remove name => exact Named.nodup_names_remove ih

/-! ## Where names stand -/

/-- One more edit that leaves a name standing does not change since when it stands. -/
theorem StandsSince.concat (h : StandsSince edits key i) {last : Edit Host}
    (hlast : (standing? (edits ++ [last]) key).isSome) :
    StandsSince (edits ++ [last]) key i := by
  have hlength : (edits ++ [last]).length = edits.length + 1 := List.length_append
  refine ⟨by have := h.within; omega, ?_, fun k hk hle => ?_⟩
  · rw [List.take_append_of_le_length (by have := h.within; omega)]
    exact h.before
  · by_cases hend : k = edits.length + 1
    · rw [hend, ← hlength, List.take_length]
      exact hlast
    · rw [List.take_append_of_le_length (by omega)]
      exact h.ever k hk (by omega)

theorem standsSince_last {last : Edit Host} (hbefore : standing? edits key = none)
    (hlast : (standing? (edits ++ [last]) key).isSome) :
    StandsSince (edits ++ [last]) key edits.length := by
  have hlength : (edits ++ [last]).length = edits.length + 1 := List.length_append
  refine ⟨by omega, ?_, fun k hk hle => ?_⟩
  · rw [List.take_left]
    exact hbefore
  · obtain rfl : k = (edits ++ [last]).length := by omega
    rw [List.take_length]
    exact hlast

theorem exists_standsSince (h : (standing? edits key).isSome) : ∃ i, StandsSince edits key i := by
  induction edits using List.reverseRecOn with
  | nil => cases h
  | append_singleton edits last ih =>
    cases hbefore : standing? edits key with
    | none => exact ⟨_, standsSince_last hbefore h⟩
    | some definition =>
      obtain ⟨i, hi⟩ := ih (by rw [hbefore]; rfl)
      exact ⟨i, hi.concat h⟩

/-- Whether a name has been standing longer than another one. -/
def Precedes (edits : List (Edit Host)) (first second : String) : Prop :=
  ∃ i k, StandsSince edits first i ∧ StandsSince edits second k ∧ i < k

theorem Precedes.concat {first second : String} {last : Edit Host} (h : Precedes edits first second)
    (hfirst : (standing? (edits ++ [last]) first).isSome)
    (hsecond : (standing? (edits ++ [last]) second).isSome) :
    Precedes (edits ++ [last]) first second := by
  obtain ⟨i, k, hi, hk, hlt⟩ := h
  exact ⟨i, k, hi.concat hfirst, hk.concat hsecond, hlt⟩

/-- The names of a collection stand in the order in which they came to stand. -/
theorem pairwise_built (label : String) (edits : List (Edit Host)) :
    (built label edits).definitions.names.Pairwise (Precedes edits) := by
  induction edits using List.reverseRecOn with
  | nil => exact .nil
  | append_singleton edits last ih =>
    -- Names that stood before and still do keep their order.
    have hkept : ∀ names : List String, names.Sublist (built label edits).definitions.names →
        (∀ key ∈ names, (standing? (edits ++ [last]) key).isSome) →
        names.Pairwise (Precedes (edits ++ [last])) := by
      intro names hsub hstanding
      exact (ih.sublist hsub).imp_of_mem fun hfirst hsecond h =>
        h.concat (hstanding _ hfirst) (hstanding _ hsecond)
    have hmem : ∀ key ∈ (built label (edits ++ [last])).definitions.names,
        (standing? (edits ++ [last]) key).isSome := fun key => mem_names_built.mp
    rw [built_concat, names_edit] at hmem ⊢
    split
    · split
      · rename_i hdefines hold
        rw [if_pos hdefines, if_pos hold] at hmem
        exact hkept _ (.refl _) hmem
      · -- A new name has been standing since the last edit, all others since earlier ones.
        rename_i hdefines hnew
        rw [if_pos hdefines, if_neg hnew] at hmem
        refine List.pairwise_append.mpr ⟨hkept _ (.refl _) fun key hkey =>
          hmem key (List.mem_append_left _ hkey), List.pairwise_singleton _ _,
          fun key hkey name hname => ?_⟩
        obtain rfl := List.mem_singleton.mp hname
        obtain ⟨i, hi⟩ := exists_standsSince (mem_names_built.mp hkey)
        have hnone : standing? edits last.name = none := by
          rw [← get?_built label]
          exact Named.get?_eq_none_iff.mpr hnew
        exact ⟨i, edits.length, hi.concat (hmem key (List.mem_append_left _ hkey)),
          standsSince_last hnone (hmem _ (List.mem_append_right _ hname)), hi.within⟩
    · rename_i hremoves
      rw [if_neg hremoves] at hmem
      exact hkept _ List.filter_sublist hmem

end Collection
end HostLink
