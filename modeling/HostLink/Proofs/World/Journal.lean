/-
What a resolver was asked.

The journal of a resolver lists its exchanges in a run of a world: every request it served,
with the resolver and the compartment as they were then.  What is said of the past of a
resolver, such as that set-up succeeded, or what was asked since the last pass was closed,
is said of its journal.

A resolver begins with an empty journal, and each exchange takes place in a compartment in
which the environment of the resolver is sound.  Hence what holds of a new resolver and is
kept by every such exchange holds of every resolver and its journal: `journal_induction`.
-/
import HostLink.Proofs.World.Reachable

namespace HostLink

variable {Host : Type}

/-- A request that was served, with the resolver and the compartment before it. -/
structure Exchange (Host : Type) where
  resolver : Resolver Host
  compartment : Compartment Host
  request : Resolver.Request

namespace Exchange

def resolverAfter (x : Exchange Host) : Resolver Host :=
  (x.resolver.serve x.compartment x.request).1

def compartmentAfter (x : Exchange Host) : Compartment Host :=
  (x.resolver.serve x.compartment x.request).2

end Exchange

namespace World

variable {w : World Host} {i : Nat} {r : Resolver Host} {x : Exchange Host}

/-- The exchange of the resolver at a place that an action brings about. -/
def exchange? (w : World Host) (i : Nat) : Action Host → Option (Exchange Host)
  | .request k j request =>
    if k = i then
      match w.resolvers[k]?, w.compartments[j]? with
      | some r, some c => some ⟨r, c, request⟩
      | _, _ => none
    else none
  | _ => none

/-- The exchanges of the resolver at a place, in the order of the actions. -/
def journal [HostFunctions Host] (w : World Host) (i : Nat) :
    List (Action Host) → List (Exchange Host)
  | [] => []
  | action :: rest => (w.exchange? i action).toList ++ (w.step action).journal i rest

/-! ## One action -/

theorem exchange?_eq_some {action : Action Host} (h : w.exchange? i action = some x) :
    ∃ j, action = .request i j x.request ∧ w.resolvers[i]? = some x.resolver ∧
      w.compartments[j]? = some x.compartment := by
  cases action with
  | openCompartment | employ _ _ | operate _ _ => cases h
  | request k j request =>
    simp only [exchange?] at h
    split at h
    · rename_i hk
      subst hk
      split at h
      · rename_i r c hr hc
        obtain rfl := Option.some.inj h
        exact ⟨j, rfl, hr, hc⟩
      · cases h
    · cases h

/-- An action leaves a resolver alone or is an exchange with it. -/
theorem resolver_step [HostFunctions Host] (hr : w.resolvers[i]? = some r)
    (action : Action Host) :
    (w.exchange? i action = none ∧ (w.step action).resolvers[i]? = some r) ∨
      ∃ x, w.exchange? i action = some x ∧ x.resolver = r ∧ x.compartment ∈ w.compartments ∧
        (w.step action).resolvers[i]? = some x.resolverAfter := by
  have hi : i < w.resolvers.length := (List.getElem?_eq_some_iff.mp hr).1
  cases action with
  | openCompartment => exact .inl ⟨rfl, hr⟩
  | employ config provider =>
    refine .inl ⟨rfl, ?_⟩
    simp only [step]
    rw [List.getElem?_append_left hi, hr]
  | operate j operation =>
    refine .inl ⟨rfl, ?_⟩
    simp only [step]
    split <;> exact hr
  | request k j request =>
    by_cases hk : k = i
    · subst hk
      cases hc : w.compartments[j]? with
      | none =>
        refine .inl ⟨by simp [exchange?, hr, hc], ?_⟩
        simp only [step, hr, hc]
      | some c =>
        refine .inr ⟨⟨r, c, request⟩, by simp [exchange?, hr, hc], rfl,
          List.mem_of_getElem? hc, ?_⟩
        simp only [step, hr, hc]
        exact List.getElem?_set_self hi
    · refine .inl ⟨if_neg hk, ?_⟩
      simp only [step]
      split
      · exact (List.getElem?_set_ne hk).trans hr
      · exact hr

theorem vacant_step [HostFunctions Host] (hr : w.resolvers[i]? = none) (action : Action Host) :
    w.exchange? i action = none ∧
      ((w.step action).resolvers[i]? = none ∨
        ∃ config provider,
          (w.step action).resolvers[i]? = some (.withProvider config provider)) := by
  have hi : w.resolvers.length ≤ i := List.getElem?_eq_none_iff.mp hr
  cases action with
  | openCompartment => exact ⟨rfl, .inl hr⟩
  | employ config provider =>
    refine ⟨rfl, ?_⟩
    simp only [step, List.getElem?_append_right hi, List.getElem?_singleton]
    split
    · exact .inr ⟨config, provider, rfl⟩
    · exact .inl rfl
  | operate j operation =>
    refine ⟨rfl, .inl ?_⟩
    simp only [step]
    split <;> exact hr
  | request k j request =>
    by_cases hk : k = i
    · subst hk
      simp only [exchange?, step, hr, ↓reduceIte, true_or, and_self]
    · refine ⟨if_neg hk, .inl ?_⟩
      simp only [step]
      split
      · exact (List.getElem?_set_ne hk).trans hr
      · exact hr

/-! ## Runs -/

variable [LawfulHostFunctions Host]

/-- What an exchange keeps of a resolver and its past, a run keeps. -/
theorem journal_run {P : Resolver Host → List (Exchange Host) → Prop}
    (hstep : ∀ {x : Exchange Host} {past}, x.resolver.SoundIn x.compartment → P x.resolver past →
      P x.resolverAfter (past ++ [x]))
    (hw : w.Sound) (hr : w.resolvers[i]? = some r) (past : List (Exchange Host)) (h : P r past)
    (actions : List (Action Host)) :
    ∃ r', (w.run actions).resolvers[i]? = some r' ∧ P r' (past ++ w.journal i actions) := by
  -- What was asked before is generalized too, since every exchange is added to it.
  induction actions generalizing w r past with
  | nil => exact ⟨r, hr, by simpa [journal] using h⟩
  | cons action rest ih =>
    have hrest := sound_step hw action
    rcases resolver_step hr action with ⟨hnone, hr'⟩ | ⟨x, hx, hxr, hxc, hr'⟩
    · obtain ⟨r', hfinal, hP⟩ := ih hrest hr' past h
      exact ⟨r', hfinal, by simpa [journal, hnone] using hP⟩
    · have hsound : x.resolver.SoundIn x.compartment :=
        hw.soundIn (hxr ▸ List.mem_of_getElem? hr) hxc
      obtain ⟨r', hfinal, hP⟩ := ih hrest hr' _ (hstep hsound (hxr.symm ▸ h))
      exact ⟨r', hfinal, by simpa [journal, hx] using hP⟩

theorem journal_run_vacant {P : Resolver Host → List (Exchange Host) → Prop}
    (hnew : ∀ config provider, P (.withProvider config provider) [])
    (hstep : ∀ {x : Exchange Host} {past}, x.resolver.SoundIn x.compartment → P x.resolver past →
      P x.resolverAfter (past ++ [x]))
    (hw : w.Sound) (hvacant : w.resolvers[i]? = none) {actions : List (Action Host)}
    (hr : (w.run actions).resolvers[i]? = some r) : P r (w.journal i actions) := by
  induction actions generalizing w with
  | nil =>
    rw [run, List.foldl_nil, hvacant] at hr
    cases hr
  | cons action rest ih =>
    obtain ⟨hnone, hvacant' | ⟨config, provider, hmade⟩⟩ := vacant_step hvacant action
    · simpa [journal, hnone] using ih (sound_step hw action) hvacant' hr
    -- From here on the resolver is there, and what was asked of it is nothing yet.
    · obtain ⟨r', hfinal, hP⟩ :=
        journal_run hstep (sound_step hw action) hmade [] (hnew config provider) rest
      obtain rfl : r' = r := Option.some.inj (hfinal.symm.trans hr)
      simpa [journal, hnone] using hP

/-- What holds of new resolvers and is kept by every exchange holds of every resolver and
its journal. -/
theorem journal_induction {P : Resolver Host → List (Exchange Host) → Prop}
    (hnew : ∀ config provider, P (.withProvider config provider) [])
    (hstep : ∀ {x : Exchange Host} {past}, x.resolver.SoundIn x.compartment → P x.resolver past →
      P x.resolverAfter (past ++ [x]))
    {actions : List (Action Host)} (hr : (run {} actions).resolvers[i]? = some r) :
    P r (journal {} i actions) :=
  journal_run_vacant hnew hstep (Reachable.sound ⟨[], rfl⟩) rfl hr

/-- What an exchange left has evolved into what is there. -/
theorem evolves_of_mem_journal {actions : List (Action Host)} (hx : x ∈ w.journal i actions) :
    ∃ (j : Nat) (c : Compartment Host), (w.run actions).compartments[j]? = some c ∧
      x.compartmentAfter.Evolves c := by
  induction actions generalizing w with
  | nil => cases hx
  | cons action rest ih =>
    rcases List.mem_append.mp hx with hfirst | hrest
    · obtain ⟨j, rfl, hr, hc⟩ := exchange?_eq_some (Option.mem_toList.mp hfirst)
      have hj : j < w.compartments.length := (List.getElem?_eq_some_iff.mp hc).1
      have hleft : (w.step (.request i j x.request)).compartments[j]? =
          some x.compartmentAfter := by
        simp only [step, hr, hc]
        exact List.getElem?_set_self hj
      obtain ⟨c, hfinal, hevolves⟩ := (evolves_run _ rest).compartment hleft
      exact ⟨j, c, hfinal, hevolves⟩
    · exact ih hrest

end World
end HostLink
