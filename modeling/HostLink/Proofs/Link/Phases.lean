/-
The phases of a resolver.

A resolver is orderly if its phase agrees with what it holds.  Looking imports up and
closing a pass keep what is held, and move the phase only of a resolver that holds an
environment: `Proceeds`.  An orderly resolver stays orderly on the way.

An import asked for in the compartment of the environment opens a pass, whatever its
answer.  One asked for elsewhere, or without an environment, fails and leaves the phase as
it was.  Closing a pass tells its outcome only if one is open or set-up was the last thing
to happen, so `phase_link` has a case in which a link leaves the phase of an earlier one.
-/
import HostLink.Proofs.Link.Linking

namespace HostLink
namespace Resolver

variable {Host : Type}

variable {r r' r'' : Resolver Host} {c : Compartment Host} {m : ModuleInfo} {entries : List Import}
  {entry : Import} {module name : String} {expected : ExternType}

/-! ## Orderly resolvers -/

/-- Whether the phase of a resolver agrees with what it holds. -/
structure Orderly (r : Resolver Host) : Prop where
  held : r.environment.isSome ↔ r.compartment.isSome
  working : r.phase = .toolchainSet ∨ r.phase = .resolving ∨ r.phase = .done →
    r.environment.isSome
  idle : r.phase = .uninitialized ∨ r.phase = .cleanedUp → r.environment = none
  toolchain : ∀ {environment}, r.environment = some environment →
    r.toolchain = some environment.toolchain
  fresh : r.phase = .uninitialized → r.toolchain = none

theorem orderly_withProvider (config : Config) (provider : Provider Host) :
    (withProvider config provider).Orderly := by
  refine ⟨Iff.rfl, fun h => ?_, fun _ => rfl, fun h => ?_, fun _ => rfl⟩
  · rcases h with h | h | h <;> cases h
  · cases h

theorem Orderly.phase_of_held (h : r.Orderly) (henv : r.environment.isSome) :
    r.phase = .toolchainSet ∨ r.phase = .resolving ∨ r.phase = .done ∨ r.phase = .failed := by
  have hidle : ¬ (r.phase = .uninitialized ∨ r.phase = .cleanedUp) := fun hphase => by
    rw [h.idle hphase] at henv
    cases henv
  cases hphase : r.phase <;> simp [hphase] at hidle ⊢

/-- What looking up and closing can do: the resolver keeps what it holds, and moves on only
if it holds an environment. -/
structure Proceeds (r r' : Resolver Host) : Prop where
  source : r.SameSource r'
  toolchain : r'.toolchain = r.toolchain
  phase : r'.phase = r.phase ∨
    r.environment.isSome ∧ (r'.phase = .resolving ∨ r'.phase = .done ∨ r'.phase = .failed)

namespace Proceeds

theorem refl (r : Resolver Host) : r.Proceeds r := ⟨.refl r, rfl, .inl rfl⟩

theorem trans (h₁ : r.Proceeds r') (h₂ : r'.Proceeds r'') : r.Proceeds r'' := by
  refine ⟨h₁.source.trans h₂.source, h₂.toolchain.trans h₁.toolchain, ?_⟩
  rcases h₂.phase with hphase | hphase
  · rw [hphase]
    exact h₁.phase
  · rw [h₁.source.environment] at hphase
    exact .inr hphase

theorem phase_of_idle (h : r.Proceeds r') (hr : r.environment = none) : r'.phase = r.phase := by
  rcases h.phase with hphase | ⟨henv, -⟩
  · exact hphase
  · rw [hr] at henv
    cases henv

end Proceeds

theorem Orderly.proceeds (h : r.Orderly) (hr : r.Proceeds r') : r'.Orderly := by
  -- No step leads to one of the two phases without an environment.
  have hmoved : ∀ phase, r'.phase = phase → phase = .uninitialized ∨ phase = .cleanedUp →
      r.phase = phase := by
    rintro phase rfl hidle
    rcases hr.phase with hphase | ⟨-, hphase | hphase | hphase⟩
    · exact hphase.symm
    all_goals
      rw [hphase] at hidle
      rcases hidle with hidle | hidle <;> cases hidle
  refine ⟨?_, fun hworking => ?_, fun hidle => ?_, fun henv => ?_, fun hfresh => ?_⟩
  · rw [hr.source.environment, hr.source.compartment]
    exact h.held
  · rw [hr.source.environment]
    rcases hr.phase with hphase | ⟨henv, -⟩
    · exact h.working (hphase ▸ hworking)
    · exact henv
  · rw [hr.source.environment]
    exact h.idle ((hmoved _ rfl hidle).symm ▸ hidle)
  · rw [hr.source.environment] at henv
    rw [hr.toolchain]
    exact h.toolchain henv
  · rw [hr.toolchain]
    exact h.fresh (hmoved _ hfresh (.inl rfl))

/-! ## One import -/

/-- Whether a resolver holds an environment, and holds it in a compartment. -/
def BoundTo (r : Resolver Host) (c : Compartment Host) : Prop :=
  r.environment.isSome ∧ r.compartment = some c.id

instance (r : Resolver Host) (c : Compartment Host) : Decidable (r.BoundTo c) :=
  inferInstanceAs (Decidable (_ ∧ _))

theorem boundTo_congr (h : r.SameSource r') : r'.BoundTo c ↔ r.BoundTo c := by
  rw [BoundTo, BoundTo, h.environment, h.compartment]

/-- An import asked for in the compartment of the environment opens a pass, and no other
does. -/
theorem begun_eq (r : Resolver Host) (c : Compartment Host) :
    r.begun c = if r.BoundTo c then r.beginPass else r := by
  cases henvironment : r.environment with
  | none => simp [begun, BoundTo, henvironment]
  | some environment =>
    cases hcompartment : r.compartment with
    | none => simp [begun, BoundTo, henvironment, hcompartment]
    | some id => simp [begun, BoundTo, henvironment, hcompartment]

theorem answer_of_not_boundTo (h : ¬ r.BoundTo c) (entry : Import) :
    ∃ error, r.answer c entry = .error (.error error) := by
  rcases resolve_cases r c entry.module entry.name entry.type with
    ⟨environment, henvironment, hcompartment, -⟩ | hforeign | hnotReady
  · exact absurd ⟨by simp [henvironment], hcompartment⟩ h
  · exact ⟨_, hforeign⟩
  · exact ⟨_, hnotReady⟩

theorem after_eq (r : Resolver Host) (c : Compartment Host) (entry : Import) :
    r.after c entry = (r.begun c).note (r.answer c entry) := by
  rw [after, answer, resolve_value]

theorem phase_after (h : r.Orderly) (henv : r.environment.isSome) :
    (r.after c entry).phase = if r.BoundTo c then .resolving else r.phase := by
  rw [after_eq, note, begun_eq]
  split
  · rcases h.phase_of_held henv with hphase | hphase | hphase | hphase <;>
      simp [beginPass, hphase]
  · rfl

/-- The diagnostics after an import: the failures of a closed pass are forgotten, if another
one is opened. -/
theorem diagnostics_after (r : Resolver Host) (c : Compartment Host) (entry : Import) :
    (r.after c entry).diagnostics =
      (if r.BoundTo c ∧ (r.phase = .done ∨ r.phase = .failed) then [] else r.diagnostics) ++
        errors [r.answer c entry] := by
  rw [after_eq, note, begun_eq, errors_cons]
  by_cases hbound : r.BoundTo c
  · cases hphase : r.phase <;> simp [hbound, beginPass, hphase, errors]
  · simp [hbound, errors]

theorem proceeds_forget (r : Resolver Host) : r.Proceeds { r with diagnostics := [] } :=
  ⟨⟨rfl, rfl⟩, rfl, .inl rfl⟩

theorem proceeds_resolve (r : Resolver Host) (c : Compartment Host) (module name : String)
    (expected : ExternType) : r.Proceeds (r.resolve c module name expected).value.2 := by
  rw [resolve_value, begun_eq]
  split
  · rename_i hbound
    cases hphase : r.phase
    case uninitialized | resolving | cleanedUp =>
      simp only [beginPass, hphase]
      exact ⟨⟨rfl, rfl⟩, rfl, .inl rfl⟩
    case toolchainSet | done | failed =>
      simp only [beginPass, hphase]
      exact ⟨⟨rfl, rfl⟩, rfl, .inr ⟨hbound.1, .inl rfl⟩⟩
  · exact ⟨⟨rfl, rfl⟩, rfl, .inl rfl⟩

/-! ## Passes -/

theorem proceeds_resolveAll (r : Resolver Host) (c : Compartment Host) (entries : List Import) :
    r.Proceeds (resolveAll c r entries).value.2 := by
  induction entries generalizing r with
  | nil => exact .refl r
  | cons first rest ih =>
    have hafter : r.Proceeds (r.after c first) := proceeds_resolve r c _ _ _
    simp only [resolveAll, Logged.value_bind]
    split
    · exact hafter
    · exact hafter.trans (ih _)

/-- Closing tells the outcome of an open pass and of set-up alone. -/
theorem phase_finish (r : Resolver Host) :
    r.finish.value.phase =
      if r.phase = .toolchainSet ∨ r.phase = .resolving then
        if r.diagnostics = [] then .done else .failed
      else r.phase := by
  unfold finish
  split
  · simp
  · rfl

theorem closed_finish (h : r.Orderly) (henv : r.environment.isSome) :
    r.finish.value.phase = .done ∨ r.finish.value.phase = .failed := by
  rw [phase_finish]
  rcases h.phase_of_held henv with hphase | hphase | hphase | hphase
  · by_cases hnone : r.diagnostics = [] <;> simp [hphase, hnone]
  · by_cases hnone : r.diagnostics = [] <;> simp [hphase, hnone]
  · simp [hphase]
  · simp [hphase]

theorem proceeds_finish (h : r.Orderly) : r.Proceeds r.finish.value := by
  refine ⟨sameSource_finish r, ?_, ?_⟩
  · unfold finish
    split <;> rfl
  · rw [phase_finish]
    split
    · rename_i hphase
      refine .inr ⟨h.working (hphase.imp_right .inl), .inr ?_⟩
      split
      · exact .inl rfl
      · exact .inr rfl
    · exact .inl rfl

theorem proceeds_link (h : r.Orderly) (c : Compartment Host) (m : ModuleInfo) :
    r.Proceeds (r.link c m).value.2 := by
  have hall := (proceeds_forget r).trans (proceeds_resolveAll _ c m.imports)
  simp only [link, Logged.value_bind]
  split
  · exact hall
  · exact hall.trans (proceeds_finish (h.proceeds hall))

/-- The phase after some imports: the first one settles it. -/
theorem phase_resolveAll (h : r.Orderly) (henv : r.environment.isSome)
    (hsafe : ∀ entry ∈ entries, r.answer c entry ≠ .error .crash) :
    (resolveAll c r entries).value.2.phase =
      if r.BoundTo c ∧ entries ≠ [] then .resolving else r.phase := by
  induction entries generalizing r with
  | nil => simp [resolveAll]
  | cons first rest ih =>
    have hproceeds : r.Proceeds (r.after c first) := proceeds_resolve r c _ _ _
    have hrest : ∀ entry ∈ rest, (r.after c first).answer c entry ≠ .error .crash := by
      rw [answer_congr hproceeds.source]
      exact fun entry hentry => hsafe entry (List.mem_cons_of_mem _ hentry)
    rw [resolveAll_cons (hsafe first List.mem_cons_self),
      ih (h.proceeds hproceeds) (hproceeds.source.environment ▸ henv) hrest, phase_after h henv]
    by_cases hbound : r.BoundTo c <;> simp [boundTo_congr hproceeds.source, hbound]

theorem cleanUp_value (r : Resolver Host) :
    r.cleanUp.value =
      if r.phase = .uninitialized then r
      else { r with environment := none, compartment := none, diagnostics := [],
                    phase := .cleanedUp } := by
  unfold cleanUp
  split
  · rfl
  · split <;> rfl

/-! ## Links -/

/-- Set-up and a link together are what one does after the other. -/
theorem linkModule_snd (r : Resolver Host) (c : Compartment Host) (m : ModuleInfo) :
    (r.linkModule c m).value.2 =
      match (r.setUp c m).value.1 with
      | .ok m' => (((r.setUp c m).value.2.1.link (r.setUp c m).value.2.2 m').value.2,
          (r.setUp c m).value.2.2)
      | .error _ => (r.setUp c m).value.2 := by
  simp only [linkModule, Logged.value_bind]
  rcases (r.setUp c m).value with ⟨(error | _) | m', r', c'⟩ <;> rfl

theorem link_snd (h : r.SoundIn c) (m : ModuleInfo) :
    (r.link c m).value.2 =
      (resolveAll c { r with diagnostics := [] } m.imports).value.2.finish.value := by
  have hanswers := outcomes_eq h m
  unfold outcomes at hanswers
  have hne := summary_ne_crash (not_crash_of_mem h m)
  simp only [link, Logged.value_bind, hanswers]
  rfl

theorem closed_link (h : r.Orderly) (henv : r.environment.isSome) (hsound : r.SoundIn c)
    (m : ModuleInfo) :
    (r.link c m).value.2.phase = .done ∨ (r.link c m).value.2.phase = .failed := by
  have hall := (proceeds_forget r).trans (proceeds_resolveAll _ c m.imports)
  rw [link_snd hsound]
  refine closed_finish (h.proceeds hall) ?_
  rw [hall.source.environment]
  exact henv

/-- The phase that tells an outcome. -/
def outcomePhase : Except (Failure LinkError) (List Entity) → Phase
  | .ok _ => .done
  | .error _ => .failed

theorem outcomePhase_link (h : r.SoundIn c) (m : ModuleInfo) :
    outcomePhase (r.link c m).value.1 = if r.failures c m.imports = [] then .done else .failed := by
  rw [(link_spec h m).1]
  split
  · rename_i hnone
    obtain ⟨entities, hentities⟩ := exists_of_errors_eq_nil (not_crash_of_mem h m) hnone
    rw [hentities, summary_map_ok]
    rfl
  · rename_i hsome
    rw [summary_eq_error (not_crash_of_mem h m) hsome]
    rfl

theorem outcomePhase_link_of_nil (h : r.SoundIn c) (hnone : m.imports = []) :
    outcomePhase (r.link c m).value.1 = .done := by
  rw [outcomePhase_link h, hnone]
  rfl

theorem outcomePhase_link_of_not_boundTo (h : r.SoundIn c) (hbound : ¬ r.BoundTo c)
    (hsome : m.imports ≠ []) : outcomePhase (r.link c m).value.1 = .failed := by
  obtain ⟨first, rest, hcons⟩ := List.exists_cons_of_ne_nil hsome
  obtain ⟨error, herror⟩ := answer_of_not_boundTo hbound first
  have hfailures : r.failures c m.imports ≠ [] := by
    rw [failures, hcons, List.map_cons, errors_cons, herror]
    exact List.cons_ne_nil error _
  rw [outcomePhase_link h, if_neg hfailures]

/-- A link moves to the phase of its outcome if a pass is open or opened by it, or if
set-up was the last thing to happen.  Otherwise the phase stays. -/
theorem phase_link (h : r.Orderly) (henv : r.environment.isSome) (hsound : r.SoundIn c)
    (m : ModuleInfo) :
    (r.link c m).value.2.phase =
      if (r.phase = .toolchainSet ∨ r.phase = .resolving) ∨ r.BoundTo c ∧ m.imports ≠ [] then
        outcomePhase (r.link c m).value.1
      else r.phase := by
  have hstart := proceeds_forget r
  have hsafe : ∀ entry ∈ m.imports,
      answer { r with diagnostics := [] } c entry ≠ .error .crash := by
    rw [answer_congr hstart.source]
    exact fun entry _ => answer_ne_crash hsound entry
  have hdiagnostics := (link_spec hsound m).2
  rw [link_snd hsound, diagnostics_finish] at hdiagnostics
  rw [outcomePhase_link hsound, link_snd hsound, phase_finish, hdiagnostics,
    phase_resolveAll (h.proceeds hstart) henv hsafe]
  simp only [boundTo_congr hstart.source]
  -- Imports that open a pass make it one to be told, whatever the phase was.
  by_cases hopens : r.BoundTo c ∧ m.imports ≠ []
  · simp only [if_pos hopens, if_pos (Or.inr hopens), or_true, if_true]
  · simp only [if_neg hopens, or_iff_left hopens]

theorem phase_link_eq_iff (h : r.Orderly) (henv : r.environment.isSome) (hsound : r.SoundIn c)
    (m : ModuleInfo) :
    (r.link c m).value.2.phase = outcomePhase (r.link c m).value.1 ↔
      ¬ (r.phase = .failed ∧ m.imports = [] ∨
        r.phase = .done ∧ m.imports ≠ [] ∧ ¬ r.BoundTo c) := by
  rw [phase_link h henv hsound]
  rcases h.phase_of_held henv with hphase | hphase | hphase | hphase
  · simp [hphase]
  · simp [hphase]
  all_goals
    by_cases hnone : m.imports = []
    · simp [hphase, hnone, outcomePhase_link_of_nil hsound hnone]
    · by_cases hbound : r.BoundTo c
      · simp [hphase, hnone, hbound]
      · simp [hphase, hnone, hbound, outcomePhase_link_of_not_boundTo hsound hbound hnone]

end Resolver
end HostLink
