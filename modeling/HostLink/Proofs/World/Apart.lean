/-
What environments share.

From an environment a module reaches its instances, all that they export, its memory and its
table.  Set-up makes all of that anew, so it lies behind every object that was in the
compartment before, and what another environment reaches is among those.  Later nothing is
added to what an environment reaches, since instances never change.  Hence two resolvers
never share an object, however their requests interleave and whatever else is done to the
compartment.
-/
import HostLink.Proofs.World.LifeCycle
import Mathlib.Data.List.Induction

namespace HostLink

variable {Host : Type}

variable {c c' : Compartment Host} {environment : Environment}

/-! ## References -/

/-- What a module can get hold of: an instance or an object that is exported. -/
inductive Reference where
  | instance_ (handle : Handle .instance_)
  | exported (entity : Entity)

namespace Reference

variable {reference : Reference}

def Behind (reference : Reference) (c : Compartment Host) : Prop :=
  match reference with
  | instance_ handle => handle.Behind c
  | exported entity => entity.Behind c

def In (reference : Reference) (c : Compartment Host) : Prop :=
  match reference with
  | instance_ handle => c.Has handle
  | exported (.function handle) => c.Has handle
  | exported (.global handle) => c.Has handle
  | exported (.table handle) => c.Has handle
  | exported (.memory handle) => c.Has handle

theorem Behind.not_in (h : reference.Behind c) : ¬ reference.In c := by
  have hhandle {kind : Kind} {handle : Handle kind} (hbehind : handle.Behind c)
      (hhas : c.Has handle) : False := Nat.not_lt.mpr hbehind.2 hhas.2
  cases reference with
  | instance_ handle => exact hhandle h
  | exported entity =>
    cases entity with
    | function handle | global handle | table handle | memory handle =>
      exact fun hhas => hhandle (show handle.Behind c from h) hhas

theorem in_of_live {entity : Entity} (h : entity.Live c) : (exported entity).In c := by
  cases entity with
  | function handle | global handle | table handle | memory handle =>
    simp only [Entity.Live, Entity.type?, Option.isSome_map] at h
    obtain ⟨object, hobject⟩ := Option.isSome_iff_exists.mp h
    exact Compartment.has_of_get? hobject

end Reference

/-- Whether something can be reached from an environment in a compartment. -/
inductive Environment.Reaches (environment : Environment) (c : Compartment Host) : Reference → Prop
  | instance_ {origin : Origin} {handle : Handle .instance_}
      (horigin : environment.instance? origin = some handle) :
      Reaches environment c (.instance_ handle)
  | «export» {origin : Origin} {handle : Handle .instance_} {found : Instance}
      {entry : String × Entity} (horigin : environment.instance? origin = some handle)
      (hfound : c.get? handle = some found) (hentry : entry ∈ found.exports) :
      Reaches environment c (.exported entry.2)
  | memory {handle : Handle .memory} (hmemory : environment.memory? = some handle) :
      Reaches environment c (.exported (.memory handle))
  | table {handle : Handle .table} (htable : environment.table? = some handle) :
      Reaches environment c (.exported (.table handle))

namespace Environment.Reaches

variable {reference : Reference}

/-- Nothing is added to what a sound environment reaches. -/
theorem of_evolves (h : environment.Reaches c' reference) (hsound : environment.Sound c)
    (hc : c.Evolves c') : environment.Reaches c reference := by
  cases h with
  | instance_ horigin => exact .instance_ horigin
  | «export» horigin hfound hentry =>
    obtain ⟨old, hold, -⟩ := hsound.exporting horigin
    obtain ⟨new, hnew, rfl⟩ := hc.get? hold
    obtain rfl := Option.some.inj (hnew.symm.trans hfound)
    exact .export horigin hold hentry
  | memory hmemory => exact .memory hmemory
  | table htable => exact .table htable

theorem mem (h : environment.Reaches c reference) (hsound : environment.Sound c)
    (hresident : environment.Resident c) : reference.In c := by
  cases h with
  | instance_ horigin => exact hresident.instances horigin
  | «export» horigin hfound hentry =>
    obtain ⟨found, hfound', hlive⟩ := hsound.exporting horigin
    obtain rfl := Option.some.inj (hfound'.symm.trans hfound)
    exact Reference.in_of_live (hlive _ hentry)
  | memory hmemory => exact hresident.memory hmemory
  | table htable => exact hresident.table htable

end Environment.Reaches

/-! ## New environments -/

/-- Whether an instance and all its exports lie behind what was in an earlier compartment. -/
structure Handle.Anew (handle : Handle .instance_) (c c' : Compartment Host) : Prop where
  behind : handle.Behind c
  exports : ∀ found : Instance, c'.get? handle = some found →
    ∀ entry ∈ found.exports, entry.2.Behind c

theorem Collection.Instantiates.anew {collection : Collection Host} {extra : Named Entity}
    {c₀ c₁ : Compartment Host} {handle : Handle .instance_} {found : Instance}
    (h : collection.Instantiates extra c c' handle found) (hc : c₀.Extends c)
    (hextra : ∀ entry ∈ extra, entry.2.Behind c₀) (hc' : c'.Evolves c₁) :
    handle.Anew c₀ c₁ := by
  have hbehind : handle.Behind c := by
    rw [h.handle]
    exact ⟨rfl, Nat.le_refl _⟩
  refine ⟨hbehind.mono hc, fun other hother => ?_⟩
  obtain ⟨found', hfound', rfl⟩ := hc'.get? h.get?
  obtain rfl := Option.some.inj (hfound'.symm.trans hother)
  exact h.behind hc hextra

namespace Resolver.Prepared

variable {config : Config} {provider : Provider Host} {m : ModuleInfo} {toolchain : Toolchain}
  {reference : Reference} {origin : Origin} {handle : Handle .instance_}

theorem anew (h : Prepared config provider m c toolchain environment c')
    (horigin : environment.instance? origin = some handle) : handle.Anew c c' := by
  cases h with
  | standard hmade =>
    cases origin <;> cases horigin
    exact hmade.anew (.refl c) (List.forall_mem_nil _) (.refl c')
  | @legacy _ _ _ _ patched c₄ _ _ _ memory table _ _ hmade hpatched =>
    have hpatch : c₄.Evolves (c₄.set memory patched) :=
      Compartment.evolves_set hmade.memoryFound (GlobalsBlock.evolves_writeTo hpatched)
    obtain @⟨c₁, _, _, _, _, _, hmemory, htable, hadds, henv, hoperators, hmathematics⟩ := hmade
    have hkept₁ : c.Extends c₁ := by
      rw [hadds]
      exact Compartment.extends_plus c _
    have hkept₂ := hkept₁.trans henv.kept
    have hextra : ∀ entry ∈ [("memory", Entity.memory memory), ("table", .table table)],
        entry.2.Behind c := by
      simp only [List.mem_cons, List.not_mem_nil, or_false, forall_eq_or_imp, forall_eq]
      rw [hmemory, htable]
      exact ⟨⟨rfl, Nat.le_refl _⟩, rfl, Nat.le_refl _⟩
    cases origin <;> cases horigin
    · refine henv.anew hkept₁ hextra (Compartment.Evolves.trans ?_ hpatch)
      exact (hoperators.kept.trans hmathematics.kept).evolves
    · refine hoperators.anew hkept₂ (List.forall_mem_nil _) (Compartment.Evolves.trans ?_ hpatch)
      exact hmathematics.kept.evolves
    · exact hmathematics.anew (hkept₂.trans hoperators.kept) (List.forall_mem_nil _) hpatch

/-- All that a new environment reaches lies behind what was there before. -/
theorem behind (h : Prepared config provider m c toolchain environment c')
    (hreaches : environment.Reaches c' reference) : reference.Behind c := by
  cases hreaches with
  | instance_ horigin => exact (h.anew horigin).behind
  | «export» horigin hfound hentry => exact (h.anew horigin).exports _ hfound _ hentry
  | memory hmemory =>
    cases h with
    | standard _ => cases hmemory
    | legacy _ _ hmade _ =>
      obtain ⟨rfl, -, -, -, -, -⟩ := hmade
      cases hmemory
      exact ⟨rfl, Nat.le_refl _⟩
  | table htable =>
    cases h with
    | standard _ => cases htable
    | legacy _ _ hmade _ =>
      obtain ⟨-, rfl, -, -, -, -⟩ := hmade
      cases htable
      exact ⟨rfl, Nat.le_refl _⟩

end Resolver.Prepared

/-! ## Held environments -/

namespace World

variable {w : World Host} {i k : Nat} {action : Action Host} {other : Environment}
  {reference : Reference}

/-- Whether the resolver at a place holds an environment in a compartment of the world. -/
structure Holds (w : World Host) (i : Nat) (environment : Environment) (c : Compartment Host) :
    Prop where
  held : ∃ r, w.resolvers[i]? = some r ∧ r.environment = some environment ∧
    r.compartment = some c.id
  found : w.compartments[c.id.number]? = some c

theorem Holds.sound (hw : w.Sound) (h : w.Holds i environment c) : environment.Sound c := by
  obtain ⟨r, hr, henvironment, hcompartment⟩ := h.held
  exact hw.soundIn (List.mem_of_getElem? hr) (List.mem_of_getElem? h.found) environment
    henvironment hcompartment

/-- Whether no two resolvers hold environments from which one thing can be reached. -/
def Apart (w : World Host) : Prop :=
  ∀ {i k : Nat} {environment other : Environment} {c : Compartment Host}, i ≠ k →
    w.Holds i environment c → w.Holds k other c →
      ∀ reference, environment.Reaches c reference → ¬ other.Reaches c reference

variable [LawfulHostFunctions Host] {actions : List (Action Host)}

/-- An environment in a compartment after an action was there before it, if the resolver held
it then. -/
theorem holds_before {r : Resolver Host} (hw : w.Sound) (hr : w.resolvers[i]? = some r)
    (henvironment : r.environment = some environment) (hcompartment : r.compartment = some c'.id)
    (hfound : (w.step action).compartments[c'.id.number]? = some c') :
    ∃ c, w.Holds i environment c ∧ c.Evolves c' := by
  obtain ⟨c, hc, -⟩ :=
    hw.sourced r (List.mem_of_getElem? hr) environment c'.id henvironment hcompartment
  obtain ⟨c₁, hc₁, hevolves⟩ := (evolves_step w action).compartment hc
  obtain rfl : c₁ = c' := Option.some.inj (hc₁.symm.trans hfound)
  have hid : c₁.id = c.id := hevolves.id
  refine ⟨c, ⟨⟨r, hr, henvironment, ?_⟩, ?_⟩, hevolves⟩
  · rw [hcompartment, hid]
  · rw [← hid]
    exact hc

/-- An environment that is held after an action was held before it, in what the compartment
was then, or was made by it. -/
theorem holds_step (hw : w.Sound) (horderly : ∀ r ∈ w.resolvers, r.Orderly)
    (h : (w.step action).Holds i environment c') :
    (∃ c, w.Holds i environment c ∧ c.Evolves c') ∨
      ∃ c x, w.compartments[c.id.number]? = some c ∧ c.Extends c' ∧
        w.exchange? i action = some x ∧
        ∀ reference, environment.Reaches c' reference → reference.Behind c := by
  obtain ⟨⟨r', hr', henvironment, hcompartment⟩, hfound⟩ := h
  have hkept : ∀ r, w.resolvers[i]? = some r → r.SameSource r' →
      ∃ c, w.Holds i environment c ∧ c.Evolves c' := by
    intro r hr hsource
    rw [hsource.environment] at henvironment
    rw [hsource.compartment] at hcompartment
    exact holds_before hw hr henvironment hcompartment hfound
  cases hr : w.resolvers[i]? with
  | none =>
    rcases (vacant_step hr action).2 with hnone | ⟨config, provider, hnew⟩
    · rw [hnone] at hr'
      cases hr'
    · obtain rfl := Option.some.inj (hnew.symm.trans hr')
      cases henvironment
  | some r =>
    rcases resolver_step hr action with ⟨-, hsame⟩ | ⟨x, hx, rfl, -, hafter⟩
    · obtain rfl := Option.some.inj (hsame.symm.trans hr')
      exact .inl (hkept r hr (.refl r))
    · obtain rfl := Option.some.inj (hafter.symm.trans hr')
      obtain ⟨j, rfl, -, hc⟩ := exchange?_eq_some hx
      have hturn := x.turn (horderly _ (List.mem_of_getElem? hr))
      generalize hafter' : x.resolverAfter = r' at hturn hkept henvironment hcompartment
      generalize hleft : x.compartmentAfter = left at hturn
      cases hturn with
      | proceeded _ _ hproceeds => exact .inl (hkept _ hr hproceeds.source)
      | refused _ _ hsource _ => exact .inl (hkept _ hr hsource)
      | released _ hnone _ _ _ =>
        rw [hnone] at henvironment
        cases henvironment
      | prepared _ _ hprepared hproceeds =>
        obtain rfl := Option.some.inj (hproceeds.source.environment.symm.trans henvironment)
        have hid : left.id = c'.id :=
          Option.some.inj (hproceeds.source.compartment.symm.trans hcompartment)
        have hj : x.compartment.id = ⟨j⟩ := hw.id hc
        have hplace : c'.id.number = j := by
          rw [← hid, hprepared.kept.id, hj]
        have hlt : j < w.compartments.length := (List.getElem?_eq_some_iff.mp hc).1
        have hstep : (w.step (.request i j x.request)).compartments =
            w.compartments.set j left := by
          simp only [step, hr, hc, ← hleft]
          rfl
        rw [hstep, hplace, List.getElem?_set_self hlt] at hfound
        obtain rfl := Option.some.inj hfound
        refine .inr ⟨x.compartment, x, ?_, hprepared.kept, hx, fun _ => hprepared.behind⟩
        rw [hj]
        exact hc

theorem Holds.mem (h : (run {} actions).Holds i environment c)
    (hreaches : environment.Reaches c reference) : reference.In c := by
  have hw : (run {} actions).Sound := Reachable.sound ⟨actions, rfl⟩
  obtain ⟨r, hr, henvironment, hcompartment⟩ := h.held
  obtain ⟨c₁, hcompartment₁, hfound₁, hresident⟩ := resident hr henvironment
  have hid : c₁.id = c.id := Option.some.inj (hcompartment₁.symm.trans hcompartment)
  rw [hid, h.found] at hfound₁
  obtain rfl := Option.some.inj hfound₁
  exact hreaches.mem (h.sound hw) hresident

/-- What a held environment reaches does not lie behind the compartment as it was. -/
theorem Holds.not_reaches {c₁ : Compartment Host} (h : (run {} actions).Holds i environment c)
    (hc : c.Evolves c') (hc₁ : (run {} actions).compartments[c₁.id.number]? = some c₁)
    (hc' : c₁.Extends c') (hbehind : reference.Behind c₁) : ¬ environment.Reaches c' reference := by
  have hw : (run {} actions).Sound := Reachable.sound ⟨actions, rfl⟩
  have hid : c₁.id = c.id := hc'.id.symm.trans hc.id
  rw [hid, h.found] at hc₁
  obtain rfl := Option.some.inj hc₁
  intro hreaches
  exact hbehind.not_in (h.mem (hreaches.of_evolves (h.sound hw) hc))

theorem apart_run (actions : List (Action Host)) : (run {} actions).Apart := by
  -- The last action may have made one of the two environments, not both.
  induction actions using List.reverseRecOn with
  | nil =>
    intro i k environment other c _ hi
    obtain ⟨r, hr, -⟩ := hi.held
    cases hr
  | append_singleton actions action ih =>
    have hw : (run {} actions).Sound := Reachable.sound ⟨actions, rfl⟩
    have horderly : ∀ r ∈ (run {} actions).resolvers, r.Orderly := by
      intro r hr
      obtain ⟨i, hi⟩ := List.mem_iff_getElem?.mp hr
      exact orderly hi
    have hstep : run {} (actions ++ [action]) = (run {} actions).step action := by
      simp only [run, List.foldl_append, List.foldl_cons, List.foldl_nil]
    intro i k environment other c' hik hi hk reference hreaches hother
    rw [hstep] at hi hk
    rcases holds_step hw horderly hi with ⟨c, hheld, hc⟩ | ⟨c, x, hfound, hc, hx, hbehind⟩
    · rcases holds_step hw horderly hk with ⟨c₁, hheld₁, hc₁⟩ | ⟨c₁, x, hfound, hc₁, hx, hbehind⟩
      · have hid : c₁.id = c.id := hc₁.id.symm.trans hc.id
        have hfound₁ := hheld₁.found
        rw [hid, hheld.found] at hfound₁
        obtain rfl := Option.some.inj hfound₁
        exact ih hik hheld hheld₁ reference (hreaches.of_evolves (hheld.sound hw) hc)
          (hother.of_evolves (hheld₁.sound hw) hc₁)
      · exact hheld.not_reaches hc hfound hc₁ (hbehind _ hother) hreaches
    · rcases holds_step hw horderly hk with ⟨c₁, hheld₁, hc₁⟩ | ⟨c₁, y, hfound₁, hc₁, hy, hbehind₁⟩
      · exact hheld₁.not_reaches hc₁ hfound hc (hbehind _ hreaches) hother
      · obtain ⟨_, rfl, -, -⟩ := exchange?_eq_some hx
        obtain ⟨_, hsame, -, -⟩ := exchange?_eq_some hy
        exact hik (Action.request.inj hsame).1

end World
end HostLink
