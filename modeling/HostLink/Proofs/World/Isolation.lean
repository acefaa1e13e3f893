/-
What a resolver notices of others.

Requests add objects to a compartment and change none, and a resolver that was set up adds
nothing any more.  It looks imports up in an environment that is there, so what it finds, and
what it makes of it, does not depend on objects that were added since.  Hence it goes
through a run as if the requests to others were not in it: `run_alone`.

Two runs with the same requests to one resolver are therefore one and the same to it,
whatever was asked of the others.
-/
import HostLink.Proofs.Store.Compatibility
import HostLink.Proofs.World.Apart

namespace HostLink

variable {Host : Type}

variable {c c' : Compartment Host} {entity : Entity} {environment : Environment}
  {declared : ExternType}

/-! ## Lookups among added objects -/

namespace Entity

theorem Live.type?_eq (h : entity.Live c) (hc : c.Extends c') :
    entity.type? c' = entity.type? c := by
  cases entity with
  | function handle | global handle | table handle | memory handle =>
    simp only [Live, type?, Option.isSome_map] at h ⊢
    obtain ⟨object, hobject⟩ := Option.isSome_iff_exists.mp h
    rw [hobject, hc.get? hobject]

theorem Live.satisfies?_eq (h : entity.Live c) (hc : c.Extends c') :
    entity.satisfies? c' declared = entity.satisfies? c declared := by
  rw [Entity.satisfies?_eq, Entity.satisfies?_eq, h.type?_eq hc]

end Entity

namespace Resolver

variable {r : Resolver Host} {module name : String} {expected : ExternType}

/-- A search ends in the same way among more objects. -/
theorem Finds.extends {result : Except (Failure ResolveError) Entity}
    (h : Finds environment c module name expected result) (hc : c.Extends c') :
    Finds environment c' module name expected result := by
  cases h with
  | unrecognized hmodule => exact .unrecognized hmodule
  | missing hmodule hinstance hname => exact .missing hmodule (hc.get? hinstance) hname
  | @mismatch _ _ entity _ hmodule hinstance hname hactual hsatisfies =>
    have hlive : entity.Live c := Option.isSome_of_eq_some hactual
    exact .mismatch hmodule (hc.get? hinstance) hname ((hlive.type?_eq hc).trans hactual)
      ((hlive.satisfies?_eq hc).trans hsatisfies)
  | @found _ _ entity hmodule hinstance hname hsatisfies =>
    have hlive : entity.Live c := Entity.live_of_satisfies? hsatisfies
    exact .found hmodule (hc.get? hinstance) hname ((hlive.satisfies?_eq hc).trans hsatisfies)

theorem find_eq (h : environment.Sound c) (hc : c.Extends c') :
    find environment c' module name expected = find environment c module name expected := by
  have hfinds := finds_of_find rfl (find_ne_crash h module name expected)
  exact find_eq_of_finds (hfinds.extends hc)

theorem lookup_eq (h : r.SoundIn c) (hc : c.Extends c') :
    r.lookup c' module name expected = r.lookup c module name expected := by
  unfold lookup
  cases henvironment : r.environment with
  | none => rfl
  | some environment =>
    cases hcompartment : r.compartment with
    | none => rfl
    | some id =>
      simp only [hc.id]
      by_cases hid : id = c.id
      · subst hid
        rw [if_pos rfl, if_pos rfl, find_eq (h environment henvironment hcompartment) hc]
      · rw [if_neg hid, if_neg hid]

theorem resolve_eq (h : r.SoundIn c) (hc : c.Extends c') :
    r.resolve c' module name expected = r.resolve c module name expected := by
  unfold resolve
  rw [lookup_eq h hc]

theorem resolveAll_eq (h : r.SoundIn c) (hc : c.Extends c') (entries : List Import) :
    resolveAll c' r entries = resolveAll c r entries := by
  induction entries generalizing r with
  | nil => rfl
  | cons first rest ih =>
    have hnext := sameSource_resolve r c first.module first.name first.type
    unfold resolveAll
    rw [resolve_eq h hc]
    generalize r.resolve c first.module first.name first.type = resolved at hnext ⊢
    obtain ⟨⟨answer, r'⟩, events⟩ := resolved
    have hrest := ih (h.sameSource hnext)
    cases answer with
    | ok entity => simp only [bind, hrest]
    | error failure =>
      cases failure with
      | error error => simp only [bind, hrest]
      | crash => rfl

theorem link_eq (h : r.SoundIn c) (hc : c.Extends c') (m : ModuleInfo) :
    r.link c' m = r.link c m := by
  have hcleared : r.SameSource { r with diagnostics := [] } := ⟨rfl, rfl⟩
  unfold link
  rw [resolveAll_eq (h.sameSource hcleared) hc]

/-! ## Replies -/

/-- What whoever sends a request gets back. -/
inductive Reply where
  | nothing
  | setUp (answer : Except (Failure SetupError) ModuleInfo)
  | resolve (answer : Except (Failure ResolveError) Entity)
  | link (answer : Except (Failure LinkError) (List Entity))
  | linkModule (answer : Except (Failure LinkError) LinkedModule)

/-- The reply to a request, with what is logged on the way. -/
def reply (r : Resolver Host) (c : Compartment Host) : Request → Logged Reply
  | .setUser _ => pure .nothing
  | .setUp m => do return .setUp (← r.setUp c m).1
  | .resolve module name expected => do return .resolve (← r.resolve c module name expected).1
  | .link m => do return .link (← r.link c m).1
  | .linkModule m => do return .linkModule (← r.linkModule c m).1
  | .finish => do
    let _ ← r.finish
    return .nothing
  | .cleanUp => do
    let _ ← r.cleanUp
    return .nothing

/-- A resolver that was set up replies and goes on as if what was added to the compartment
were not there, and adds nothing itself. -/
theorem serve_settled (hphase : r.phase ≠ .uninitialized) (h : r.SoundIn c) (hc : c.Extends c')
    (request : Request) :
    r.reply c' request = r.reply c request ∧ (r.serve c' request).1 = (r.serve c request).1 ∧
      (r.serve c' request).2 = c' := by
  cases request with
  | setUser user => exact ⟨rfl, rfl, rfl⟩
  | setUp m =>
    simp only [reply, serve, setUp, if_neg hphase]
    exact ⟨rfl, rfl, rfl⟩
  | resolve module name expected =>
    simp only [reply, serve, resolve_eq h hc, and_self]
  | link m =>
    simp only [reply, serve, link_eq h hc, and_self]
  | linkModule m =>
    simp only [reply, serve, linkModule, setUp, if_neg hphase]
    exact ⟨rfl, rfl, rfl⟩
  | finish => exact ⟨rfl, rfl, rfl⟩
  | cleanUp => exact ⟨rfl, rfl, rfl⟩

end Resolver

/-! ## Runs without the others -/

/-- What of an exchange the resolver and its user can tell: the reply, and the state of the
resolver after it. -/
def Exchange.seen (x : Exchange Host) : Logged Resolver.Reply × Resolver Host :=
  (x.resolver.reply x.compartment x.request, x.resolverAfter)

theorem Exchange.Turn.settled {x : Exchange Host} {r' : Resolver Host} (h : x.Turn r' c')
    (hphase : x.resolver.phase ≠ .uninitialized) :
    x.resolver.SameSource r' ∨ r'.environment = none := by
  cases h with
  | proceeded _ _ hproceeds => exact .inl hproceeds.source
  | refused hfresh _ _ _ | prepared hfresh _ _ _ => exact absurd hfresh hphase
  | released _ hnone _ _ _ => exact .inr hnone

namespace World

variable {w w' : World Host} {i j k : Nat} {r : Resolver Host} {request : Resolver.Request}

def Action.IsRequest : Action Host → Prop
  | .request .. => True
  | _ => False

def Action.asks (i : Nat) : Action Host → Bool
  | .request k _ _ => k == i
  | _ => false

/-- Whether a world has the compartments of another one, to which objects may have been
added. -/
structure Grown (w w' : World Host) : Prop where
  length : w'.compartments.length = w.compartments.length
  compartment : ∀ {j : Nat} {c : Compartment Host}, w.compartments[j]? = some c →
    ∃ c', w'.compartments[j]? = some c' ∧ c.Extends c'

theorem Grown.refl (w : World Host) : w.Grown w := ⟨rfl, fun hc => ⟨_, hc, .refl _⟩⟩

theorem Grown.trans {w₁ w₂ w₃ : World Host} (h₁ : w₁.Grown w₂) (h₂ : w₂.Grown w₃) :
    w₁.Grown w₃ := by
  refine ⟨h₂.length.trans h₁.length, fun hc => ?_⟩
  obtain ⟨c₂, hc₂, hextends₂⟩ := h₁.compartment hc
  obtain ⟨c₃, hc₃, hextends₃⟩ := h₂.compartment hc₂
  exact ⟨c₃, hc₃, hextends₂.trans hextends₃⟩

/-- Whether a world has in addition the same resolver at a place. -/
structure Extends (w w' : World Host) (i : Nat) : Prop where
  resolver : w'.resolvers[i]? = w.resolvers[i]?
  grown : w.Grown w'

/-- Whether the resolver at a place was set up and may be asked in any compartment. -/
structure Settled (w : World Host) (i : Nat) (r : Resolver Host) : Prop where
  found : w.resolvers[i]? = some r
  orderly : r.Orderly
  phase : r.phase ≠ .uninitialized
  sound : ∀ c ∈ w.compartments, r.SoundIn c

theorem Settled.serve (hr : w.Settled i r) (c : Compartment Host) (request : Resolver.Request) :
    Settled { w with resolvers := w.resolvers.set i (r.serve c request).1 } i
      (r.serve c request).1 := by
  have hi : i < w.resolvers.length := (List.getElem?_eq_some_iff.mp hr.found).1
  have hturn := Exchange.turn ⟨r, c, request⟩ hr.orderly
  have horderly := hturn.orderly hr.orderly
  have hphase := fun huninitialized => hr.phase (hturn.fresh huninitialized).1
  refine ⟨List.getElem?_set_self hi, horderly, hphase, fun other hother => ?_⟩
  rcases hturn.settled hr.phase with hsource | hnone
  · exact (hr.sound other hother).sameSource hsource
  · intro environment henvironment
    cases hnone.symm.trans henvironment

variable [LawfulHostFunctions Host]

theorem grown_request (w : World Host) (i j : Nat) (request : Resolver.Request) :
    w.Grown (w.step (.request i j request)) := by
  simp only [step]
  split
  · rename_i r c hr hc
    refine ⟨List.length_set, fun hold => ?_⟩
    exact related_of_set .refl hc (r.served_serve c request).extends hold
  · exact .refl w

theorem grown_run {actions : List (Action Host)}
    (hrequests : ∀ action ∈ actions, action.IsRequest) :
    w.Grown (w.run actions) := by
  induction actions generalizing w with
  | nil => exact .refl w
  | cons action rest ih =>
    have hrest : ∀ action ∈ rest, action.IsRequest := fun other hother =>
      hrequests other (List.mem_cons_of_mem _ hother)
    have hrequest := hrequests action List.mem_cons_self
    cases action with
    | request i j request => exact (grown_request w i j request).trans (ih hrest)
    | openCompartment | employ _ _ | operate _ _ => cases hrequest

/-- A request to another resolver is not noticed. -/
theorem Extends.other (h : w.Extends w' i) (hk : k ≠ i) (j : Nat) (request : Resolver.Request) :
    w.Extends (w'.step (.request k j request)) i := by
  refine ⟨?_, h.grown.trans (grown_request w' k j request)⟩
  rw [← h.resolver]
  simp only [step]
  split
  · exact List.getElem?_set_ne hk
  · rfl

theorem step_request (hr : w.resolvers[i]? = some r) (hc : w.compartments[j]? = some c)
    (hkept : (r.serve c request).2 = c) :
    w.step (.request i j request) =
      { w with resolvers := w.resolvers.set i (r.serve c request).1 } := by
  have hset : w.compartments.set j c = w.compartments := by
    obtain ⟨hj, rfl⟩ := List.getElem?_eq_some_iff.mp hc
    exact List.set_getElem_self hj
  simp only [step, hr, hc, hkept, hset]

/-- A request to the resolver itself is served alike, and adds nothing. -/
theorem Extends.own (h : w.Extends w' i) (hr : w.Settled i r) (j : Nat)
    (request : Resolver.Request) :
    (w'.exchange? i (.request i j request)).map Exchange.seen =
        (w.exchange? i (.request i j request)).map Exchange.seen ∧
      (w.step (.request i j request)).Extends (w'.step (.request i j request)) i ∧
      ∃ r', (w.step (.request i j request)).Settled i r' := by
  have hr' : w'.resolvers[i]? = some r := h.resolver.trans hr.found
  cases hc : w.compartments[j]? with
  | none =>
    have hc' : w'.compartments[j]? = none := by
      rw [List.getElem?_eq_none_iff] at hc ⊢
      rw [h.grown.length]
      exact hc
    simp only [exchange?, step, hr.found, hr', hc, hc', true_and]
    exact ⟨h, r, hr⟩
  | some c =>
    obtain ⟨c', hc', hextends⟩ := h.grown.compartment hc
    have hsound : r.SoundIn c := hr.sound c (List.mem_of_getElem? hc)
    obtain ⟨hreply, hresolver, hkept'⟩ := Resolver.serve_settled hr.phase hsound hextends request
    obtain ⟨-, -, hkept⟩ := Resolver.serve_settled hr.phase hsound (.refl c) request
    rw [step_request hr.found hc hkept, step_request hr' hc' hkept', hresolver]
    refine ⟨?_, ⟨?_, h.grown.length, h.grown.compartment⟩, _, hr.serve c request⟩
    · simp only [exchange?, hr.found, hr', hc, hc', ↓reduceIte, Option.map_some, Exchange.seen,
        Exchange.resolverAfter, hreply, hresolver]
    · have hi : i < w.resolvers.length := (List.getElem?_eq_some_iff.mp hr.found).1
      have hi' : i < w'.resolvers.length := (List.getElem?_eq_some_iff.mp hr').1
      exact (List.getElem?_set_self hi').trans (List.getElem?_set_self hi).symm

/-- For a resolver that was set up, a run of requests is the run of those to it alone. -/
theorem run_alone (h : w.Extends w' i) (hr : w.Settled i r) {actions : List (Action Host)}
    (hrequests : ∀ action ∈ actions, action.IsRequest) :
    (w'.journal i actions).map Exchange.seen =
        (w.journal i (actions.filter (Action.asks i))).map Exchange.seen ∧
      (w.run (actions.filter (Action.asks i))).Extends (w'.run actions) i := by
  -- Both worlds serve a request to the resolver; only the second one serves the others.
  induction actions generalizing w w' r with
  | nil => exact ⟨rfl, h⟩
  | cons action rest ih =>
    have hrest : ∀ action ∈ rest, action.IsRequest := fun other hother =>
      hrequests other (List.mem_cons_of_mem _ hother)
    have hrequest := hrequests action List.mem_cons_self
    cases action with
    | openCompartment | employ _ _ | operate _ _ => cases hrequest
    | request k j request =>
      by_cases hk : k = i
      · subst hk
        have hasks : (.request k j request : Action Host).asks k = true := by
          simp [Action.asks]
        obtain ⟨hseen, hextends, r', hr'⟩ := h.own hr j request
        obtain ⟨hjournal, hrun⟩ := ih hextends hr' hrest
        rw [List.filter_cons_of_pos hasks]
        refine ⟨?_, hrun⟩
        simp only [journal, List.map_append, ← Option.toList_map, hseen, hjournal]
      · have hasks : ¬ (.request k j request : Action Host).asks i = true := by
          simp [Action.asks, hk]
        have hnone : w'.exchange? i (.request k j request) = none := if_neg hk
        obtain ⟨hjournal, hrun⟩ := ih (h.other hk j request) hr hrest
        rw [List.filter_cons_of_neg hasks]
        refine ⟨?_, hrun⟩
        rw [← hjournal, journal, hnone]
        rfl

theorem settled_run {actions : List (Action Host)} (hr : (run {} actions).resolvers[i]? = some r)
    (hphase : r.phase ≠ .uninitialized) : (run {} actions).Settled i r :=
  ⟨hr, orderly hr, hphase, fun _ hc =>
    (Reachable.sound ⟨actions, rfl⟩).soundIn (List.mem_of_getElem? hr) hc⟩

/-- Resolvers do not interfere.  Their environments have nothing in common, and two runs with
the same requests to a resolver that was set up are alike to it: it gives the same replies and
goes through the same states, and finds all objects as they were, whatever is asked of the
others. -/
theorem isolated (actions : List (Action Host)) :
    (run {} actions).Apart ∧
      ∀ {i : Nat} {r : Resolver Host}, (run {} actions).resolvers[i]? = some r →
        r.phase ≠ .uninitialized → ∀ {xs ys : List (Action Host)},
          (∀ action ∈ xs, action.IsRequest) → (∀ action ∈ ys, action.IsRequest) →
          xs.filter (Action.asks i) = ys.filter (Action.asks i) →
          ((run {} actions).journal i xs).map Exchange.seen =
              ((run {} actions).journal i ys).map Exchange.seen ∧
            (run {} (actions ++ xs)).resolvers[i]? = (run {} (actions ++ ys)).resolvers[i]? ∧
            ∀ {j : Nat} {c : Compartment Host}, (run {} actions).compartments[j]? = some c →
              ∃ c₁ c₂, (run {} (actions ++ xs)).compartments[j]? = some c₁ ∧
                (run {} (actions ++ ys)).compartments[j]? = some c₂ ∧
                c.Extends c₁ ∧ c.Extends c₂ := by
  refine ⟨apart_run actions, fun {i r} hr hphase {xs ys} hxs hys hsame => ?_⟩
  have hsettled := settled_run hr hphase
  have hrefl : (run {} actions).Extends (run {} actions) i := ⟨rfl, .refl _⟩
  obtain ⟨hjournal₁, hextends₁⟩ := run_alone hrefl hsettled hxs
  obtain ⟨hjournal₂, hextends₂⟩ := run_alone hrefl hsettled hys
  have hrun : ∀ zs, run {} (actions ++ zs) = (run {} actions).run zs := fun zs =>
    List.foldl_append
  rw [hrun, hrun]
  refine ⟨?_, ?_, fun {j c} hc => ?_⟩
  · rw [hjournal₁, hjournal₂, hsame]
  · rw [hextends₁.resolver, hextends₂.resolver, hsame]
  · obtain ⟨c₁, hc₁, hkept₁⟩ := (grown_run hxs).compartment hc
    obtain ⟨c₂, hc₂, hkept₂⟩ := (grown_run hys).compartment hc
    exact ⟨c₁, c₂, hc₁, hc₂, hkept₁, hkept₂⟩

def sampleSetUp : Resolver.Request := .setUp { imports := [sampleMemory, sampleTable] }

def sampleResolve : Resolver.Request := .resolve "env" "memory" sampleMemory.type

/-- Two resolvers with the default collections, of which the first was set up. -/
def sharing : List (Action HostOp) :=
  [.openCompartment, .employ {} (.default {}), .employ {} (.default {}), .request 0 0 sampleSetUp]

/-- With or without the requests to the second one, the first one finds its memory alike; and
once both are set up in the one compartment, their environments have nothing in common. -/
theorem isolated_sharing :
    ((run {} sharing).journal 0
          [.request 1 0 sampleSetUp, .request 0 0 sampleResolve, .request 1 0 .cleanUp]).map
        Exchange.seen =
      ((run {} sharing).journal 0 [.request 0 0 sampleResolve]).map Exchange.seen ∧
    ∃ first second c,
      (run {} (sharing ++ [.request 1 0 sampleSetUp])).Holds 0 first c ∧
        (run {} (sharing ++ [.request 1 0 sampleSetUp])).Holds 1 second c ∧
        ∀ reference, first.Reaches c reference → ¬ second.Reaches c reference := by
  constructor
  · have hphase : (run {} sharing).resolvers[0]?.map (·.phase) = some .toolchainSet := by
      decide +kernel
    obtain ⟨r, hr, hphase⟩ := Option.map_eq_some_iff.mp hphase
    have hready : r.phase ≠ .uninitialized := by
      rw [hphase]
      decide
    have hmingled : ∀ action ∈ ([.request 1 0 sampleSetUp, .request 0 0 sampleResolve,
        .request 1 0 .cleanUp] : List (Action HostOp)), action.IsRequest := by
      simp [Action.IsRequest]
    have halone : ∀ action ∈ ([.request 0 0 sampleResolve] : List (Action HostOp)),
        action.IsRequest := by
      simp [Action.IsRequest]
    obtain ⟨hseen, -, -⟩ := (isolated sharing).2 hr hready hmingled halone rfl
    exact hseen
  · have hfields : ∀ i : Fin 2,
        (run {} (sharing ++ [.request 1 0 sampleSetUp])).resolvers[i.val]?.map
            (fun r => (r.environment.isSome, r.compartment)) = some (true, some ⟨0⟩) := by
      decide +kernel
    have hholds : ∀ i : Fin 2, ∃ environment c, c.id = ⟨0⟩ ∧
        (run {} (sharing ++ [.request 1 0 sampleSetUp])).Holds i environment c := by
      intro i
      obtain ⟨r, hr, hr'⟩ := Option.map_eq_some_iff.mp (hfields i)
      obtain ⟨henvironment, hcompartment⟩ := Prod.mk.inj hr'
      obtain ⟨environment, henvironment⟩ := Option.isSome_iff_exists.mp henvironment
      obtain ⟨c, hc, hfound, -⟩ := resident hr henvironment
      have hid : c.id = ⟨0⟩ := Option.some.inj (hc.symm.trans hcompartment)
      exact ⟨environment, c, hid, ⟨r, hr, henvironment, hc⟩, hfound⟩
    obtain ⟨first, c, hid, hfirst⟩ := hholds 0
    obtain ⟨second, c', hid', hsecond⟩ := hholds 1
    have hfound := hfirst.found
    rw [hid, ← hid', hsecond.found] at hfound
    obtain rfl := Option.some.inj hfound
    exact ⟨first, second, c', hfirst, hsecond,
      (isolated (sharing ++ [.request 1 0 sampleSetUp])).1 (by decide) hfirst hsecond⟩

end World
end HostLink
