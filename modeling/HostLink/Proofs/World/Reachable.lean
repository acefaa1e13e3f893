/-
All that can happen to compartments and resolvers.

A world has any number of both.  An action opens a compartment, makes a resolver with a
configuration and a provider of its choice, performs an operation on a compartment, or
sends a request to a resolver together with one of the compartments, which need not be
the one it was set up in.  An action that names what does not exist does nothing.

Two facts carry what is said of all reachable worlds, whatever lawful host functions
there are in them.  Every action lets every compartment evolve, and every environment a
resolver holds stays sound in its compartment.
-/
import HostLink.Proofs.Link.Answers
import HostLink.Proofs.Link.SetUp
import HostLink.Proofs.World.Operation

namespace HostLink
namespace Resolver

variable {Host : Type}

variable {r r' : Resolver Host} {c c' : Compartment Host}

/-! ## Requests -/

/-- A request to a resolver. -/
inductive Request where
  | setUser (user : String)
  | setUp (m : ModuleInfo)
  | resolve (module name : String) (expected : ExternType)
  | link (m : ModuleInfo)
  | linkModule (m : ModuleInfo)
  | finish
  | cleanUp

/-- The resolver and the compartment after a request. -/
def serve (r : Resolver Host) (c : Compartment Host) : Request → Resolver Host × Compartment Host
  | .setUser user => (r.setUser user, c)
  | .setUp m => (r.setUp c m).value.2
  | .resolve module name expected => ((r.resolve c module name expected).value.2, c)
  | .link m => ((r.link c m).value.2, c)
  | .linkModule m => (r.linkModule c m).value.2
  | .finish => (r.finish.value, c)
  | .cleanUp => (r.cleanUp.value, c)

/-- What a request can do: leave the environment, let go of it, or make one. -/
inductive Served (r : Resolver Host) (c : Compartment Host) :
    Resolver Host → Compartment Host → Prop
  | kept {r' : Resolver Host} (hsource : r.SameSource r') : Served r c r' c
  | released {r' : Resolver Host} (hnone : r'.environment = none) : Served r c r' c
  | prepared {r' : Resolver Host} {c' : Compartment Host} {environment : Environment}
      (hkept : c.Extends c') (henvironment : r'.environment = some environment)
      (hcompartment : r'.compartment = some c'.id) (hsound : environment.Sound c') :
      Served r c r' c'

theorem Served.extends (h : r.Served c r' c') : c.Extends c' := by
  cases h with
  | kept _ => exact .refl c
  | released _ => exact .refl c
  | prepared hkept _ _ _ => exact hkept

theorem Served.evolves (h : r.Served c r' c') : c.Evolves c' := h.extends.evolves

/-- What leaves the environment alone may follow. -/
theorem Served.trans {r'' : Resolver Host} (h : r.Served c r' c') (hsource : r'.SameSource r'') :
    r.Served c r'' c' := by
  cases h with
  | kept hkept => exact .kept (hkept.trans hsource)
  | released hnone => exact .released (hsource.environment.trans hnone)
  | prepared hkept henvironment hcompartment hsound =>
    exact .prepared hkept (hsource.environment.trans henvironment)
      (hsource.compartment.trans hcompartment) hsound

theorem Outcome.served {m : ModuleInfo} {answer : Except (Failure SetupError) ModuleInfo}
    (h : Outcome r c m answer r' c') : r.Served c r' c' := by
  cases h with
  | started | invalid | incomplete => exact .kept ⟨rfl, rfl⟩
  | ready _ _ _ hprepared => exact .prepared hprepared.kept rfl rfl hprepared.sound

theorem Outcome.soundIn {m m' : ModuleInfo} (h : Outcome r c m (.ok m') r' c') :
    r'.SoundIn c' := by
  cases h with
  | ready _ _ _ hprepared =>
    intro environment henvironment _
    obtain rfl := Option.some.inj henvironment
    exact hprepared.sound

theorem served_serve (r : Resolver Host) (c : Compartment Host) (request : Request) :
    r.Served c (r.serve c request).1 (r.serve c request).2 := by
  cases request with
  | setUser user => exact .kept ⟨rfl, rfl⟩
  | setUp m => exact (setUp_outcome r c m).served
  | resolve module name expected => exact .kept (sameSource_resolve r c module name expected)
  | link m => exact .kept (sameSource_link r c m)
  | linkModule m =>
    have hsetUp := (setUp_outcome r c m).served
    simp only [serve, linkModule, Logged.value_bind]
    split
    · exact hsetUp
    · exact hsetUp
    · exact hsetUp.trans (sameSource_link _ _ _)
  | finish => exact .kept (sameSource_finish r)
  | cleanUp =>
    simp only [serve, cleanUp]
    split
    · exact .kept (.refl r)
    · refine .released ?_
      split <;> rfl

/-- Whether the environment of a resolver, if it has one, is sound in its compartment. -/
def Sourced (r : Resolver Host) (compartments : List (Compartment Host)) : Prop :=
  ∀ environment id, r.environment = some environment → r.compartment = some id →
    ∃ c, compartments[id.number]? = some c ∧ environment.Sound c

end Resolver

/-! ## Worlds -/

structure World (Host : Type) where
  compartments : List (Compartment Host) := []
  resolvers : List (Resolver Host) := []

namespace World

inductive Action (Host : Type) where
  | openCompartment
  | employ (config : Config) (provider : Provider Host)
  | operate (j : Nat) (operation : Compartment.Operation Host)
  | request (i j : Nat) (request : Resolver.Request)

/-- The world after an action. -/
def step [HostFunctions Host] (w : World Host) : Action Host → World Host
  | .openCompartment =>
    { w with compartments := w.compartments ++ [.empty ⟨w.compartments.length⟩] }
  | .employ config provider =>
    { w with resolvers := w.resolvers ++ [.withProvider config provider] }
  | .operate j operation =>
    match w.compartments[j]? with
    | some c => { w with compartments := w.compartments.set j (c.perform operation) }
    | none => w
  | .request i j request =>
    match w.resolvers[i]?, w.compartments[j]? with
    | some r, some c =>
      { compartments := w.compartments.set j (r.serve c request).2
        resolvers := w.resolvers.set i (r.serve c request).1 }
    | _, _ => w

/-- The world after some actions. -/
def run [HostFunctions Host] (w : World Host) (actions : List (Action Host)) : World Host :=
    actions.foldl step w

/-- Whether a world has come from the empty one. -/
def Reachable [HostFunctions Host] (w : World Host) : Prop := ∃ actions, w = run {} actions

variable {w w' : World Host} {i j : Nat} {r : Resolver Host} {c c' : Compartment Host}

/-! ## Evolution of all compartments -/

/-- Whether each compartment of a world has evolved into one of another world. -/
structure Evolves (w w' : World Host) : Prop where
  compartment : ∀ {j : Nat} {c : Compartment Host}, w.compartments[j]? = some c →
    ∃ c', w'.compartments[j]? = some c' ∧ c.Evolves c'

theorem Evolves.refl (w : World Host) : w.Evolves w := ⟨fun hc => ⟨_, hc, .refl _⟩⟩

theorem Evolves.trans {w₁ w₂ w₃ : World Host} (h₁ : w₁.Evolves w₂) (h₂ : w₂.Evolves w₃) :
    w₁.Evolves w₃ := by
  refine ⟨fun hc => ?_⟩
  obtain ⟨c₂, hc₂, hevolves₂⟩ := h₁.compartment hc
  obtain ⟨c₃, hc₃, hevolves₃⟩ := h₂.compartment hc₂
  exact ⟨c₃, hc₃, hevolves₂.trans hevolves₃⟩

/-- A relation between one compartment and what takes its place holds of all of them. -/
theorem related_of_set {R : Compartment Host → Compartment Host → Prop} (hrefl : ∀ c, R c c)
    (hc : w.compartments[j]? = some c) (hrelated : R c c') {k : Nat} {old : Compartment Host}
    (hold : w.compartments[k]? = some old) :
    ∃ new, (w.compartments.set j c')[k]? = some new ∧ R old new := by
  have hk : k < w.compartments.length := (List.getElem?_eq_some_iff.mp hold).1
  by_cases hjk : j = k
  · subst hjk
    obtain rfl : c = old := Option.some.inj (hc.symm.trans hold)
    exact ⟨c', List.getElem?_set_self hk, hrelated⟩
  · exact ⟨old, by rw [List.getElem?_set_ne hjk, hold], hrefl old⟩

/-- One compartment evolves and the others stay. -/
theorem evolves_of_set (hc : w.compartments[j]? = some c) (hevolves : c.Evolves c')
    (hw' : w'.compartments = w.compartments.set j c') : w.Evolves w' := by
  refine ⟨fun hold => ?_⟩
  rw [hw']
  exact related_of_set .refl hc hevolves hold

theorem evolves_step [LawfulHostFunctions Host] (w : World Host) (action : Action Host) :
    w.Evolves (w.step action) := by
  cases action with
  | openCompartment =>
    refine ⟨fun {j c} hc => ⟨c, ?_, .refl c⟩⟩
    have hj : j < w.compartments.length := (List.getElem?_eq_some_iff.mp hc).1
    simp only [step]
    rw [List.getElem?_append_left hj, hc]
  | employ config provider => exact ⟨fun hc => ⟨_, hc, .refl _⟩⟩
  | operate j operation =>
    simp only [step]
    split
    · rename_i c hc
      exact evolves_of_set hc (c.evolves_perform operation) rfl
    · exact .refl w
  | request i j request =>
    simp only [step]
    split
    · rename_i r c hr hc
      exact evolves_of_set hc (r.served_serve c request).evolves rfl
    · exact .refl w

theorem evolves_run [LawfulHostFunctions Host] (w : World Host) (actions : List (Action Host)) :
    w.Evolves (w.run actions) := by
  induction actions generalizing w with
  | nil => exact .refl w
  | cons action rest ih => exact (evolves_step w action).trans (ih _)

/-! ## Soundness of reachable worlds -/

/-- The invariant: compartments are numbered in their order, and every environment is
sound in its compartment. -/
structure Sound (w : World Host) : Prop where
  id : ∀ {j : Nat} {c : Compartment Host}, w.compartments[j]? = some c → c.id = ⟨j⟩
  sourced : ∀ r ∈ w.resolvers, r.Sourced w.compartments

theorem sourced_of_evolves (h : r.Sourced w.compartments) (hw : w.Evolves w') :
    r.Sourced w'.compartments := by
  intro environment id henvironment hcompartment
  obtain ⟨c, hc, hsound⟩ := h environment id henvironment hcompartment
  obtain ⟨c', hc', hevolves⟩ := hw.compartment hc
  exact ⟨c', hc', hsound.evolves hevolves⟩

/-- A changed compartment keeps its number. -/
theorem Sound.id_set (h : w.Sound) (hc : w.compartments[j]? = some c) (hid : c'.id = c.id)
    {k : Nat} {other : Compartment Host} (hother : (w.compartments.set j c')[k]? = some other) :
    other.id = ⟨k⟩ := by
  by_cases hjk : j = k
  · subst hjk
    have hj : j < w.compartments.length := (List.getElem?_eq_some_iff.mp hc).1
    rw [List.getElem?_set_self hj, Option.some.injEq] at hother
    rw [← hother, hid, h.id hc]
  · rw [List.getElem?_set_ne hjk] at hother
    exact h.id hother

/-- The environment of a resolver that served a request is sound where it was made. -/
theorem Sound.sourced_served (h : w.Sound) (hr : r ∈ w.resolvers) (hc : w.compartments[j]? = some c)
    {r' : Resolver Host} (hserved : r.Served c r' c') :
    r'.Sourced (w.compartments.set j c') := by
  have hw : w.Evolves { w with compartments := w.compartments.set j c' } :=
    evolves_of_set hc hserved.evolves rfl
  have hold : r.Sourced (w.compartments.set j c') := sourced_of_evolves (h.sourced r hr) hw
  intro environment id henvironment hcompartment
  cases hserved with
  | kept hsource =>
    exact hold environment id (hsource.environment ▸ henvironment)
      (hsource.compartment ▸ hcompartment)
  | released hnone =>
    rw [hnone] at henvironment
    cases henvironment
  | prepared hkept hmade hid hsound =>
    obtain rfl := Option.some.inj (hmade.symm.trans henvironment)
    obtain rfl : c'.id = id := Option.some.inj (hid.symm.trans hcompartment)
    have hj : j < w.compartments.length := (List.getElem?_eq_some_iff.mp hc).1
    rw [hkept.id, h.id hc]
    exact ⟨c', List.getElem?_set_self hj, hsound⟩

theorem sound_step [LawfulHostFunctions Host] (h : w.Sound) (action : Action Host) :
    (w.step action).Sound := by
  have hkept : ∀ r ∈ w.resolvers, r.Sourced (w.step action).compartments := fun r hr =>
    sourced_of_evolves (h.sourced r hr) (evolves_step w action)
  cases action with
  | openCompartment =>
    refine ⟨fun {j c} hc => ?_, hkept⟩
    simp only [step] at hc
    rcases Nat.lt_or_ge j w.compartments.length with hj | hj
    · rw [List.getElem?_append_left hj] at hc
      exact h.id hc
    · rw [List.getElem?_append_right hj, List.getElem?_singleton] at hc
      split at hc
      · cases hc
        simp only [Compartment.empty, CompartmentId.mk.injEq]
        omega
      · cases hc
  | employ config provider =>
    refine ⟨h.id, fun r hr => ?_⟩
    rcases List.mem_append.mp hr with hr | hr
    · exact hkept r hr
    · rw [List.mem_singleton.mp hr]
      intro environment id henvironment
      cases henvironment
  | operate j operation =>
    simp only [step] at hkept ⊢
    split at hkept
    · rename_i c hc
      exact ⟨fun hother => h.id_set hc (c.evolves_perform operation).id hother, hkept⟩
    · exact h
  | request i j request =>
    simp only [step] at hkept ⊢
    split at hkept
    · rename_i r c hr hc
      have hserved := r.served_serve c request
      refine ⟨fun hother => h.id_set hc hserved.evolves.id hother, fun r' hr' => ?_⟩
      rcases List.mem_or_eq_of_mem_set hr' with hr' | rfl
      · exact hkept r' hr'
      · exact h.sourced_served (List.mem_of_getElem? hr) hc hserved
    · exact h

theorem sound_run [LawfulHostFunctions Host] (h : w.Sound) (actions : List (Action Host)) :
    (w.run actions).Sound := by
  induction actions generalizing w with
  | nil => exact h
  | cons action rest ih => exact ih (sound_step h action)

theorem Reachable.sound [LawfulHostFunctions Host] (h : w.Reachable) : w.Sound := by
  obtain ⟨actions, rfl⟩ := h
  exact sound_run ⟨by simp, by simp⟩ actions

theorem Sound.soundIn (h : w.Sound) (hr : r ∈ w.resolvers) (hc : c ∈ w.compartments) :
    r.SoundIn c := by
  intro environment henvironment hcompartment
  obtain ⟨j, hj⟩ := List.mem_iff_getElem?.mp hc
  obtain ⟨c', hc', hsound⟩ := h.sourced r hr environment c.id henvironment hcompartment
  rw [h.id hj, hj] at hc'
  exact Option.some.inj hc' ▸ hsound

end World
end HostLink
