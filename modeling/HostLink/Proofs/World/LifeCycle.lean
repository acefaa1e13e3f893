/-
The life cycle of a resolver.

`Turn` says what one exchange can do: the resolver goes on with what it holds, its one
set-up is refused or makes an environment, or it lets go of everything for good.  It is
read off the requests once, and the invariants follow from it.  A resolver stays orderly,
its toolchain is fixed by the set-up that decides, of which there is one at most, and what
was cleaned up stays so.

The handles of an environment are good in the compartment they were made in, and since
objects are never lost they are good in what that compartment has become.
-/
import HostLink.Proofs.Link.Phases
import HostLink.Proofs.World.Journal

namespace HostLink

variable {Host : Type}

variable {c c' : Compartment Host} {r r' : Resolver Host} {x : Exchange Host}
    {environment : Environment}
  {toolchain : Toolchain}

/-! ## Handles of an environment -/

/-- Whether all handles of an environment are good in a compartment. -/
structure Environment.Resident (environment : Environment) (c : Compartment Host) : Prop where
  instances : ∀ {origin handle}, environment.instance? origin = some handle → c.Has handle
  memory : ∀ {handle}, environment.memory? = some handle → c.Has handle
  table : ∀ {handle}, environment.table? = some handle → c.Has handle

theorem Environment.Resident.evolves (h : environment.Resident c) (hc : c.Evolves c') :
    environment.Resident c' :=
  ⟨fun hhandle => (h.instances hhandle).evolves hc, fun hhandle => (h.memory hhandle).evolves hc,
    fun hhandle => (h.table hhandle).evolves hc⟩

namespace Resolver.Prepared

variable {config : Config} {provider : Provider Host} {m : ModuleInfo}

theorem toolchain_eq (h : Prepared config provider m c toolchain environment c') :
    environment.toolchain = toolchain := by
  cases h <;> rfl

theorem resident (h : Prepared config provider m c toolchain environment c') :
    environment.Resident c' := by
  have hinstances : ∀ {origin handle}, environment.instance? origin = some handle →
      c'.Has handle := fun hhandle => by
    obtain ⟨found, hfound, -⟩ := h.sound.exporting hhandle
    exact Compartment.has_of_get? hfound
  cases h with
  | standard _ => exact ⟨hinstances, nofun, nofun⟩
  | @legacy _ _ _ _ patched c₁ _ _ _ memory table _ _ hmade _ =>
    have hmemory := Compartment.get?_set_self hmade.memoryFound patched
    have htable : (c₁.set memory patched).get? table = c₁.get? table :=
      Compartment.get?_set_of_kind_ne (by decide) c₁ memory patched table
    refine ⟨hinstances, fun hhandle => ?_, fun hhandle => ?_⟩
    · obtain rfl := Option.some.inj hhandle
      exact Compartment.has_of_get? hmemory
    · obtain rfl := Option.some.inj hhandle
      exact Compartment.has_of_get? (htable.trans hmade.tableFound)

end Resolver.Prepared

/-! ## Turns -/

namespace Exchange

open Resolver

/-- The answer of the set-up that was asked for, if one was. -/
def setUpAnswer? (x : Exchange Host) : Option (Except (Failure SetupError) ModuleInfo) :=
  match x.request with
  | .setUp m | .linkModule m => some (x.resolver.setUp x.compartment m).value.1
  | _ => none

/-- Whether a set-up succeeded. -/
def prepares (x : Exchange Host) : Bool := x.setUpAnswer?.any Except.isOk

/-- Whether a set-up was asked for and not refused because there had been one. -/
def decides (x : Exchange Host) : Bool :=
  x.setUpAnswer?.any fun answer => answer ≠ .error (.error .alreadySetUp)

/-- What an exchange can do to the resolver and the compartment. -/
inductive Turn (x : Exchange Host) : Resolver Host → Compartment Host → Prop
  | proceeded {r' : Resolver Host} (hdecides : x.decides = false) (hprepares : x.prepares = false)
      (hproceeds : x.resolver.Proceeds r') : Turn x r' x.compartment
  | refused {r' : Resolver Host} (hphase : x.resolver.phase = .uninitialized)
      (hprepares : x.prepares = false) (hsource : x.resolver.SameSource r')
      (hfailed : r'.phase = .failed) : Turn x r' x.compartment
  | prepared {r' : Resolver Host} {c' : Compartment Host} {m : ModuleInfo} {toolchain : Toolchain}
      {environment : Environment} (hphase : x.resolver.phase = .uninitialized)
      (hdecides : x.decides = true)
      (hprepared : Prepared x.resolver.config x.resolver.provider m x.compartment toolchain
        environment c')
      (hproceeds : Proceeds { x.resolver with
        toolchain := some toolchain, compartment := some c'.id, environment := some environment,
        phase := .toolchainSet } r') : Turn x r' c'
  | released {r' : Resolver Host} (hrequest : x.request = .cleanUp)
      (henvironment : r'.environment = none) (hcompartment : r'.compartment = none)
      (htoolchain : r'.toolchain = x.resolver.toolchain) (hcleaned : r'.phase = .cleanedUp) :
      Turn x r' x.compartment

theorem Turn.of_proceeds (hanswer : x.setUpAnswer? = none) (hproceeds : x.resolver.Proceeds r') :
    x.Turn r' x.compartment := by
  refine .proceeded ?_ ?_ hproceeds
  · simp [decides, hanswer]
  · simp [prepares, hanswer]

/-- An exchange that begins with set-up, which ends in one of its ways. -/
theorem Turn.of_outcome {m : ModuleInfo} {answer : Except (Failure SetupError) ModuleInfo}
    (h : x.resolver.Orderly) (houtcome : Outcome x.resolver x.compartment m answer r c')
    (hanswer : x.setUpAnswer? = some answer) (hproceeds : r.Proceeds r') : x.Turn r' c' := by
  have hprepares : ∀ failure, answer = .error failure → x.prepares = false := by
    rintro failure rfl
    simp [prepares, hanswer, Except.isOk, Except.toBool]
  cases houtcome with
  | started _ =>
    refine .proceeded ?_ (hprepares _ rfl) hproceeds
    simp [decides, hanswer]
  | invalid hphase _ | incomplete hphase _ _ =>
    have hnone := h.idle (.inl hphase)
    exact .refused hphase (hprepares _ rfl)
      ⟨hproceeds.source.environment, hproceeds.source.compartment⟩ (hproceeds.phase_of_idle hnone)
  | ready hphase _ _ hprepared =>
    refine .prepared hphase ?_ hprepared hproceeds
    simp [decides, hanswer]

theorem Turn.orderly (h : x.resolver.Orderly) (hturn : x.Turn r' c') : r'.Orderly := by
  cases hturn with
  | proceeded _ _ hproceeds => exact h.proceeds hproceeds
  | refused hphase _ hsource hfailed =>
    have hnone := hsource.environment.trans (h.idle (.inl hphase))
    refine ⟨?_, ?_, fun _ => hnone, ?_, ?_⟩
    · rw [hsource.environment, hsource.compartment]
      exact h.held
    · simp [hfailed]
    · simp [hnone]
    · simp [hfailed]
  | prepared _ _ hprepared hproceeds =>
    refine Orderly.proceeds ⟨by simp, fun _ => rfl, by simp, ?_, by simp⟩ hproceeds
    intro environment henvironment
    obtain rfl := Option.some.inj henvironment
    exact congrArg some hprepared.toolchain_eq.symm
  | released _ henvironment hcompartment _ hcleaned =>
    refine ⟨by simp [henvironment, hcompartment], ?_, fun _ => henvironment, ?_, ?_⟩
    · simp [hcleaned]
    · simp [henvironment]
    · simp [hcleaned]

theorem orderly_setUp (h : r.Orderly) (c : Compartment Host) (m : ModuleInfo) :
    (r.setUp c m).value.2.1.Orderly := by
  have hturn : Turn ⟨r, c, .setUp m⟩ _ _ := .of_outcome h (setUp_outcome r c m) rfl (.refl _)
  exact hturn.orderly h

/-- Every exchange of an orderly resolver is a turn. -/
theorem turn (x : Exchange Host) (h : x.resolver.Orderly) :
    x.Turn x.resolverAfter x.compartmentAfter := by
  obtain ⟨r, c, request⟩ := x
  have horderly : r.Orderly := h
  cases request with
  | setUser user => exact .of_proceeds rfl ⟨⟨rfl, rfl⟩, rfl, .inl rfl⟩
  | setUp m => exact .of_outcome h (setUp_outcome r c m) rfl (.refl _)
  | resolve module name expected => exact .of_proceeds rfl (proceeds_resolve r c _ _ _)
  | link m => exact .of_proceeds rfl (proceeds_link horderly c m)
  | linkModule m =>
    simp only [resolverAfter, compartmentAfter, serve, linkModule_snd]
    split
    -- The link that follows set-up goes on with what set-up left.
    · exact .of_outcome horderly (setUp_outcome r c m) rfl
        (proceeds_link (orderly_setUp horderly c m) _ _)
    · exact .of_outcome horderly (setUp_outcome r c m) rfl (.refl _)
  | finish => exact .of_proceeds rfl (proceeds_finish horderly)
  | cleanUp =>
    simp only [resolverAfter, compartmentAfter, serve, cleanUp_value]
    split
    · exact .of_proceeds rfl (.refl r)
    · exact .released rfl rfl rfl rfl rfl

/-! ## Consequences of a turn -/

theorem Turn.fresh (hturn : x.Turn r' c') (hphase : r'.phase = .uninitialized) :
    x.resolver.phase = .uninitialized ∧ x.decides = false := by
  cases hturn with
  | proceeded hdecides _ hproceeds =>
    refine ⟨?_, hdecides⟩
    rcases hproceeds.phase with hsame | ⟨-, hmoved⟩
    · exact hsame.symm.trans hphase
    · simp [hphase] at hmoved
  | refused _ _ _ hfailed => simp [hfailed] at hphase
  | prepared _ _ _ hproceeds =>
    rcases hproceeds.phase with hsame | ⟨-, hmoved⟩
    · simp [hphase] at hsame
    · simp [hphase] at hmoved
  | released _ _ _ _ hcleaned => simp [hcleaned] at hphase

theorem Turn.phase_of_decides (hturn : x.Turn r' c') (hdecides : x.decides = true) :
    x.resolver.phase = .uninitialized := by
  cases hturn with
  | proceeded hnot _ _ => simp [hnot] at hdecides
  | refused hphase _ _ _ => exact hphase
  | prepared hphase _ _ _ => exact hphase
  | released hrequest _ _ _ _ => simp [decides, setUpAnswer?, hrequest] at hdecides

/-- Nothing but the set-up that decides changes a compartment. -/
theorem Turn.decides_of_changed (hturn : x.Turn r' c') (hchanged : c' ≠ x.compartment) :
    x.decides = true := by
  cases hturn with
  | prepared _ hdecides _ _ => exact hdecides
  | proceeded _ _ _ | refused _ _ _ _ | released _ _ _ _ _ => exact absurd rfl hchanged

theorem Turn.toolchain_eq (h : x.resolver.Orderly) (hturn : x.Turn r' c')
    (htoolchain : x.resolver.toolchain = some toolchain) : r'.toolchain = some toolchain := by
  cases hturn with
  | proceeded _ _ hproceeds => exact hproceeds.toolchain.trans htoolchain
  | refused hphase _ _ _ | prepared hphase _ _ _ => simp [h.fresh hphase] at htoolchain
  | released _ _ _ hsame _ => exact hsame.trans htoolchain

theorem Turn.phase_cleanedUp (h : x.resolver.Orderly) (hturn : x.Turn r' c')
    (hphase : x.resolver.phase = .cleanedUp) : r'.phase = .cleanedUp := by
  cases hturn with
  | proceeded _ _ hproceeds =>
    exact (hproceeds.phase_of_idle (h.idle (.inr hphase))).trans hphase
  | refused hfresh _ _ _ | prepared hfresh _ _ _ => simp [hphase] at hfresh
  | released _ _ _ _ hcleaned => exact hcleaned

/-- An environment that is held was made by this exchange or before it. -/
theorem Turn.environment_eq (h : x.resolver.Orderly) (hturn : x.Turn r' c')
    (henvironment : r'.environment = some environment) :
    (x.resolver.environment = some environment ∧ r'.compartment = x.resolver.compartment) ∨
      environment.Resident c' ∧ r'.compartment = some c'.id := by
  cases hturn with
  | proceeded _ _ hproceeds =>
    exact .inl ⟨hproceeds.source.environment.symm.trans henvironment, hproceeds.source.compartment⟩
  | refused hphase _ hsource _ =>
    simp [hsource.environment, h.idle (.inl hphase)] at henvironment
  | prepared _ _ hprepared hproceeds =>
    obtain rfl := Option.some.inj (hproceeds.source.environment.symm.trans henvironment)
    exact .inr ⟨hprepared.resident, hproceeds.source.compartment⟩
  | released _ hnone _ _ _ => simp [hnone] at henvironment

end Exchange

theorem Resolver.Orderly.resolve_cleanedUp (h : r.Orderly) (hphase : r.phase = .cleanedUp)
    (c : Compartment Host) (module name : String) (expected : ExternType) :
    (r.resolve c module name expected).value.1 = .error (.error (.notReady module name)) := by
  rw [resolve_value]
  simp only [lookup, h.idle (.inr hphase)]

/-! ## Runs -/

namespace World

variable [LawfulHostFunctions Host] {actions : List (Action Host)} {i : Nat}

/-- Orderly resolvers are all there are, so an exchange may be taken for one of those. -/
theorem orderly_induction {P : Resolver Host → List (Exchange Host) → Prop}
    (hnew : ∀ config provider, P (.withProvider config provider) [])
    (hstep : ∀ {x : Exchange Host} {past}, x.resolver.SoundIn x.compartment → x.resolver.Orderly →
      P x.resolver past → P x.resolverAfter (past ++ [x]))
    (hr : (run {} actions).resolvers[i]? = some r) : r.Orderly ∧ P r (journal {} i actions) := by
  refine journal_induction (P := fun r past => r.Orderly ∧ P r past) ?_ ?_ hr
  · exact fun config provider => ⟨Resolver.orderly_withProvider config provider, hnew _ _⟩
  · exact fun hsound h => ⟨(Exchange.turn _ h.1).orderly h.1, hstep hsound h.1 h.2⟩

theorem orderly (hr : (run {} actions).resolvers[i]? = some r) : r.Orderly :=
  (orderly_induction (P := fun _ _ => True) (fun _ _ => trivial) (fun _ _ _ => trivial) hr).1

/-- What an exchange keeps of an orderly resolver is kept for good. -/
theorem orderly_run {P : Resolver Host → Prop}
    (hstep : ∀ {x : Exchange Host}, x.resolver.Orderly → P x.resolver → P x.resolverAfter)
    (hr : (run {} actions).resolvers[i]? = some r) (h : P r) (later : List (Action Host)) :
    ∃ r', ((run {} actions).run later).resolvers[i]? = some r' ∧ r'.Orderly ∧ P r' := by
  have hw : (run {} actions).Sound := Reachable.sound ⟨actions, rfl⟩
  refine journal_run (P := fun r _ => r.Orderly ∧ P r) ?_ hw hr [] ⟨orderly hr, h⟩ later
  exact fun _ h => ⟨(Exchange.turn _ h.1).orderly h.1, hstep h.1 h.2⟩

theorem decides_at_most_once (hr : (run {} actions).resolvers[i]? = some r) :
    (journal {} i actions).countP Exchange.decides ≤ 1 ∧
      ∀ x ∈ journal {} i actions, x.compartmentAfter ≠ x.compartment → x.decides = true := by
  -- As long as set-up is possible, none has decided.
  have hall := orderly_induction (P := fun r past =>
    (r.phase = .uninitialized → past.countP Exchange.decides = 0) ∧
      past.countP Exchange.decides ≤ 1 ∧
      ∀ x ∈ past, x.compartmentAfter ≠ x.compartment → x.decides = true) ?_ ?_ hr
  · exact hall.2.2
  · exact fun _ _ => ⟨fun _ => rfl, Nat.zero_le 1, by simp⟩
  · rintro x past - horderly ⟨hnone, hcount, hchanged⟩
    have hturn := x.turn horderly
    refine ⟨fun hphase => ?_, ?_, fun y hy => ?_⟩
    · obtain ⟨hbefore, hdecides⟩ := hturn.fresh hphase
      simp [List.countP_append, hnone hbefore, hdecides]
    · by_cases hdecides : x.decides = true
      · simp [List.countP_append, hnone (hturn.phase_of_decides hdecides), hdecides]
      · simpa [List.countP_append, hdecides] using hcount
    · rcases List.mem_append.mp hy with hy | hy
      · exact hchanged y hy
      · obtain rfl := List.mem_singleton.mp hy
        exact hturn.decides_of_changed

/-- The environment of a resolver is in a compartment of the world, which has all its
handles. -/
theorem resident (hr : (run {} actions).resolvers[i]? = some r)
    (henvironment : r.environment = some environment) :
    ∃ c, r.compartment = some c.id ∧ (run {} actions).compartments[c.id.number]? = some c ∧
      environment.Resident c := by
  -- The exchange that made the environment is in the journal, and its compartment goes on.
  have hall := orderly_induction (P := fun r past => ∀ environment,
    r.environment = some environment → ∃ x ∈ past, environment.Resident x.compartmentAfter ∧
      r.compartment = some x.compartmentAfter.id) ?_ ?_ hr
  · obtain ⟨x, hx, hresident, hcompartment⟩ := hall.2 environment henvironment
    obtain ⟨j, c, hc, hevolves⟩ := evolves_of_mem_journal hx
    have hw : (run {} actions).Sound := Reachable.sound ⟨actions, rfl⟩
    refine ⟨c, by rw [hcompartment, hevolves.id], ?_, hresident.evolves hevolves⟩
    rw [hw.id hc, hc]
  · exact fun _ _ _ h => by cases h
  · intro x past _ horderly hpast environment henvironment
    rcases (x.turn horderly).environment_eq horderly henvironment with ⟨hbefore, hsame⟩ | hmade
    · obtain ⟨y, hy, hresident, hcompartment⟩ := hpast environment hbefore
      exact ⟨y, List.mem_append_left _ hy, hresident, hsame.trans hcompartment⟩
    · exact ⟨x, by simp, hmade⟩

/-- The life cycle of a resolver, whatever it is asked, in whatever compartments, and
whatever else happens in the world.  An environment and the number of its compartment come
and go together, and the phase says whether they are there.  The environment is one of the
toolchain, with handles that are good.  The toolchain is fixed.  One set-up at most is
answered other than as a repetition, and nothing else changes a compartment.  A resolver
that was cleaned up stays so and resolves nothing. -/
theorem life_cycle (hr : (run {} actions).resolvers[i]? = some r) :
    ((r.environment.isSome ↔ r.compartment.isSome) ∧
      (r.phase = .toolchainSet ∨ r.phase = .resolving ∨ r.phase = .done →
        r.environment.isSome) ∧
      (r.phase = .uninitialized ∨ r.phase = .cleanedUp → r.environment = none)) ∧
    (∀ environment, r.environment = some environment →
      r.toolchain = some environment.toolchain ∧
        ∃ c, r.compartment = some c.id ∧ (run {} actions).compartments[c.id.number]? = some c ∧
          environment.Resident c) ∧
    (∀ toolchain, r.toolchain = some toolchain → ∀ later,
      ∃ r', ((run {} actions).run later).resolvers[i]? = some r' ∧
        r'.toolchain = some toolchain) ∧
    ((journal {} i actions).countP Exchange.decides ≤ 1 ∧
      ∀ x ∈ journal {} i actions, x.compartmentAfter ≠ x.compartment → x.decides = true) ∧
    (r.phase = .cleanedUp → ∀ later,
      ∃ r', ((run {} actions).run later).resolvers[i]? = some r' ∧ r'.phase = .cleanedUp ∧
        ∀ c module name expected, (r'.resolve c module name expected).value.1 =
          .error (.error (.notReady module name))) := by
  have horderly := orderly hr
  refine ⟨⟨horderly.held, horderly.working, horderly.idle⟩, fun environment henvironment => ?_,
    fun toolchain htoolchain later => ?_, decides_at_most_once hr, fun hphase later => ?_⟩
  · exact ⟨horderly.toolchain henvironment, resident hr henvironment⟩
  · obtain ⟨r', hr', -, hsame⟩ := orderly_run (P := fun r => r.toolchain = some toolchain)
      (fun h htoolchain => (Exchange.turn _ h).toolchain_eq h htoolchain) hr htoolchain later
    exact ⟨r', hr', hsame⟩
  · obtain ⟨r', hr', horderly', hcleaned⟩ := orderly_run (P := fun r => r.phase = .cleanedUp)
      (fun h hphase => (Exchange.turn _ h).phase_cleanedUp h hphase) hr hphase later
    exact ⟨r', hr', hcleaned, horderly'.resolve_cleanedUp hcleaned⟩

/-- A resolver that is set up, cleaned up, and asked to be set up once more. -/
def retirement : List (Action HostOp) :=
  [.openCompartment, .employ {} (.default {}),
    .request 0 0 (.setUp { imports := [sampleMemory, sampleTable] }), .request 0 0 .cleanUp,
    .request 0 0 (.setUp { memories := [{ minimum := 1, maximum := none, shared := false }] })]

/-- Its toolchain is still the one of its first module, only that set-up decided, and it
resolves nothing. -/
theorem life_cycle_retirement : ∃ r,
    (run {} retirement).resolvers[0]? = some r ∧ r.toolchain = some .legacy ∧
      r.phase = .cleanedUp ∧ (journal {} 0 retirement).countP Exchange.decides ≤ 1 ∧
      ∀ c module name expected, (r.resolve c module name expected).value.1 =
        .error (.error (.notReady module name)) := by
  have hfields : (run {} retirement).resolvers[0]?.map (fun r => (r.toolchain, r.phase)) =
      some (some .legacy, .cleanedUp) := by
    decide +kernel
  obtain ⟨r, hr, hr'⟩ := Option.map_eq_some_iff.mp hfields
  obtain ⟨htoolchain, hphase⟩ := Prod.mk.inj hr'
  obtain ⟨-, -, -, ⟨hcount, -⟩, hcleaned⟩ := life_cycle hr
  obtain ⟨r', hlater, -, hresolve⟩ := hcleaned hphase []
  obtain rfl := Option.some.inj (hlater.symm.trans hr)
  exact ⟨r', hr, htoolchain, hphase, hcount, hresolve⟩

end World
end HostLink
