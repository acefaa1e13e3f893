/-
What a resolver says of imports, and for how long it holds.

The answer to an import does not depend on what was asked before, so a link gives what
its imports give alone: all objects in the order of the imports, or all failures in that
order, and the failures are the diagnostics afterwards.  It follows that imports that
are permuted or repeated permute or repeat the outcomes, and that linking once more
gives the same answer.

An answer holds for good.  Whatever happens after an import was resolved, the object is
still there and of the type the import was declared with.
-/
import HostLink.Proofs.World.Reachable

namespace HostLink
namespace Resolver

variable {Host : Type}

variable {r r' : Resolver Host} {c : Compartment Host} {m : ModuleInfo}
  {answers : List (Except (Failure ResolveError) Entity)} {entities : List Entity}

/-! ## Summaries -/

theorem errors_map_ok (entities : List Entity) : errors (entities.map .ok) = [] := by
  simp [errors, failure?]

/-- Answers without a failure are objects, unless one of them is a crash. -/
theorem exists_of_errors_eq_nil (hsafe : ∀ answer ∈ answers, answer ≠ .error .crash)
    (h : errors answers = []) : ∃ entities : List Entity, answers = entities.map .ok := by
  induction answers with
  | nil => exact ⟨[], rfl⟩
  | cons first rest ih =>
    rw [errors_cons, List.append_eq_nil_iff] at h
    obtain ⟨entities, rfl⟩ := ih (fun answer hanswer => hsafe answer (by simp [hanswer])) h.2
    rcases first with (error | _) | entity
    · simp [failure?, Failure.error?] at h
    · exact absurd rfl (hsafe _ List.mem_cons_self)
    · exact ⟨entity :: entities, rfl⟩

theorem summary_map_ok (entities : List Entity) : summary (entities.map .ok) = .ok entities := by
  simp [summary, failure?, List.filterMap_map, Function.comp_def, Except.toOption]

theorem filterMap_error?_failure? (answers : List (Except (Failure ResolveError) Entity)) :
    (answers.filterMap failure?).filterMap Failure.error? = errors answers := by
  rw [List.filterMap_filterMap]
  rfl

theorem any_isCrash_eq_false (hsafe : ∀ answer ∈ answers, answer ≠ .error .crash) :
    (answers.filterMap failure?).any Failure.isCrash = false := by
  rw [List.any_eq_false]
  intro failure hfailure
  obtain ⟨answer, hanswer, hfound⟩ := List.mem_filterMap.mp hfailure
  have hne := hsafe answer hanswer
  rcases answer with (error | _) | entity
  · obtain rfl := Option.some.inj hfound
    simp [Failure.isCrash]
  · exact absurd rfl hne
  · cases hfound

/-- Answers with failures come to their failures. -/
theorem summary_eq_error (hsafe : ∀ answer ∈ answers, answer ≠ .error .crash)
    (h : errors answers ≠ []) : summary answers = .error (.error (.imports (errors answers))) := by
  have hfailures : answers.filterMap failure? ≠ [] := by
    intro hnil
    rw [← filterMap_error?_failure?, hnil] at h
    exact h rfl
  simp only [summary, any_isCrash_eq_false hsafe, filterMap_error?_failure?]
  simp [hfailures]

/-- Answers that are no crashes do not come to one. -/
theorem summary_ne_crash (hsafe : ∀ answer ∈ answers, answer ≠ .error .crash) :
    summary answers ≠ .error .crash := by
  by_cases herrors : errors answers = []
  · obtain ⟨entities, rfl⟩ := exists_of_errors_eq_nil hsafe herrors
    rw [summary_map_ok]
    exact nofun
  · rw [summary_eq_error hsafe herrors]
    exact nofun

/-- Answers come to objects exactly if each is one. -/
theorem summary_eq_ok_iff (hsafe : ∀ answer ∈ answers, answer ≠ .error .crash) :
    summary answers = .ok entities ↔ answers = entities.map .ok := by
  constructor
  · intro h
    by_cases herrors : errors answers = []
    · obtain ⟨found, rfl⟩ := exists_of_errors_eq_nil hsafe herrors
      rw [summary_map_ok] at h
      rw [Except.ok.inj h]
    · rw [summary_eq_error hsafe herrors] at h
      cases h
  · rintro rfl
    exact summary_map_ok entities

/-! ## Links -/

/-- The answers a link gets on its way through the imports. -/
def outcomes (r : Resolver Host) (c : Compartment Host) (m : ModuleInfo) :
    List (Except (Failure ResolveError) Entity) :=
  (resolveAll c { r with diagnostics := [] } m.imports).value.1

theorem not_crash_of_mem (h : r.SoundIn c) (m : ModuleInfo) :
    ∀ answer ∈ m.imports.map (r.answer c), answer ≠ .error .crash := by
  intro answer hanswer
  obtain ⟨entry, -, rfl⟩ := List.mem_map.mp hanswer
  exact answer_ne_crash h entry

/-- The answers on the way are those the imports have alone. -/
theorem outcomes_eq (h : r.SoundIn c) (m : ModuleInfo) :
    r.outcomes c m = m.imports.map (r.answer c) := by
  have hstart : r.SameSource { r with diagnostics := [] } := ⟨rfl, rfl⟩
  rw [← answer_congr hstart]
  refine (resolveAll_spec (fun entry _ => ?_) (collecting_of_nil rfl)).1
  rw [answer_congr hstart]
  exact answer_ne_crash h entry

/-- A link sums up the answers and leaves their failures. -/
theorem link_spec (h : r.SoundIn c) (m : ModuleInfo) :
    (r.link c m).value.1 = summary (m.imports.map (r.answer c)) ∧
      (r.link c m).value.2.diagnostics = r.failures c m.imports := by
  have hstart : r.SameSource { r with diagnostics := [] } := ⟨rfl, rfl⟩
  have hsafe : ∀ entry ∈ m.imports,
      answer { r with diagnostics := [] } c entry ≠ .error .crash := by
    rw [answer_congr hstart]
    exact fun entry _ => answer_ne_crash h entry
  obtain ⟨hanswers, hdiagnostics⟩ := resolveAll_spec hsafe (collecting_of_nil rfl)
  rw [answer_congr hstart] at hanswers
  rw [failures_congr hstart, List.nil_append] at hdiagnostics
  have hne : summary (m.imports.map (r.answer c)) ≠ .error .crash :=
    summary_ne_crash (not_crash_of_mem h m)
  -- The summary is no crash (`hne`), so the pass is closed.
  simp only [link, Logged.value_bind, hanswers]
  exact ⟨rfl, (diagnostics_finish _).trans hdiagnostics⟩

/-- Where a resolver looks imports up is all that a link depends on. -/
theorem link_congr (h : r.SoundIn c) (hsource : r.SameSource r') (m : ModuleInfo) :
    (r'.link c m).value.1 = (r.link c m).value.1 ∧
      (r'.link c m).value.2.diagnostics = (r.link c m).value.2.diagnostics := by
  have h' := h.sameSource hsource
  rw [(link_spec h m).1, (link_spec h m).2, (link_spec h' m).1, (link_spec h' m).2,
    answer_congr hsource, failures_congr hsource]
  exact ⟨rfl, rfl⟩

/-- The objects a link gives are those of the imports, each of the type it was declared
with. -/
theorem forall₂_of_map_answer {entries : List Import}
    (hanswers : entries.map (r.answer c) = entities.map .ok) :
    List.Forall₂ (fun entry entity =>
      entity.comesFrom c = true ∧ entity.satisfies? c entry.type = some true) entries entities := by
  have hall :
    List.Forall₂ (fun entry entity => r.answer c entry = .ok entity) entries entities := by
    rw [← List.forall₂_map_right_iff, ← List.forall₂_map_left_iff, List.forall₂_eq_eq_eq]
    exact hanswers
  refine hall.imp fun entry entity hentity => ?_
  have hsatisfies := satisfies?_of_resolve hentity
  exact ⟨(Entity.live_of_satisfies? hsatisfies).comesFrom, hsatisfies⟩

end Resolver

namespace World

variable {w : World Host} {r : Resolver Host} {c : Compartment Host} {j : Nat}
    {module name : String}
  {declared : ExternType} {entity : Entity}

/-! ## A sample -/

/-- The memory a legacy module may import. -/
def sampleMemory : Import :=
  { module := "env", name := "memory"
    type := .memory { minimum := 256, maximum := some 33554432, shared := false } }

def sampleTable : Import :=
  { module := "env", name := "table"
    type := .table { element := .funcRef, minimum := 0, maximum := none } }

/-- A world with a resolver that was set up for a module which imports both. -/
def sample : World HostOp :=
  run {} [.openCompartment, .employ {} (.default {}),
    .request 0 0 (.setUp { imports := [sampleMemory, sampleTable] })]

theorem sample_inhabited : 0 < sample.resolvers.length ∧ 0 < sample.compartments.length := by
  decide +kernel

def sampleResolver : Resolver HostOp := sample.resolvers.get ⟨0, sample_inhabited.1⟩

def sampleCompartment : Compartment HostOp := sample.compartments.get ⟨0, sample_inhabited.2⟩

/-! ## Linking and binding -/

/-- Linking is pointwise.  It gives the objects of all imports in their order, each in
the compartment and of the type it was declared with, or else all failures in their
order, which are the diagnostics in both cases.  The answer to an import is the one it
has alone, wherever it stands and however often, and nothing but the source of the
resolver matters, so linking once more gives the same. -/
theorem link_pointwise [LawfulHostFunctions Host] (hw : w.Reachable) (hr : r ∈ w.resolvers)
    (hc : c ∈ w.compartments) (m : ModuleInfo) :
    (∀ entities, (r.link c m).value.1 = .ok entities ↔
        m.imports.map (r.answer c) = entities.map .ok) ∧
      (∀ entities, (r.link c m).value.1 = .ok entities →
        (r.link c m).value.2.diagnostics = [] ∧
          List.Forall₂ (fun entry entity => entity.comesFrom c = true ∧
            entity.satisfies? c entry.type = some true) m.imports entities) ∧
      ((∀ entities, (r.link c m).value.1 ≠ .ok entities) →
        (r.link c m).value.1 = .error (.error (.imports (r.failures c m.imports)))) ∧
      (r.link c m).value.2.diagnostics = r.failures c m.imports ∧
      r.outcomes c m = m.imports.map (r.answer c) ∧
      (∀ (indices : List Nat) (m' : ModuleInfo),
        m'.imports = indices.filterMap (m.imports[·]?) →
          r.outcomes c m' = indices.filterMap ((r.outcomes c m)[·]?)) ∧
      ∀ r', r.SameSource r' ∨ r' = (r.link c m).value.2 →
        (r'.link c m).value.1 = (r.link c m).value.1 ∧
          (r'.link c m).value.2.diagnostics = (r.link c m).value.2.diagnostics := by
  have hsound : r.SoundIn c := hw.sound.soundIn hr hc
  obtain ⟨hanswer, hdiagnostics⟩ := Resolver.link_spec hsound m
  have hok : ∀ entities, (r.link c m).value.1 = .ok entities ↔
      m.imports.map (r.answer c) = entities.map .ok := fun entities => by
    rw [hanswer, Resolver.summary_eq_ok_iff (Resolver.not_crash_of_mem hsound m)]
  refine ⟨hok, fun entities hentities => ?_, fun hnone => ?_, hdiagnostics,
    Resolver.outcomes_eq hsound m, fun indices m' hm' => ?_, fun r' hr' => ?_⟩
  · have hall := (hok entities).mp hentities
    refine ⟨?_, Resolver.forall₂_of_map_answer hall⟩
    rw [hdiagnostics, Resolver.failures, hall, Resolver.errors_map_ok]
  · rw [hanswer]
    refine Resolver.summary_eq_error (Resolver.not_crash_of_mem hsound m) fun hnil => ?_
    obtain ⟨entities, hentities⟩ :=
      Resolver.exists_of_errors_eq_nil (Resolver.not_crash_of_mem hsound m) hnil
    exact hnone entities ((hok entities).mpr hentities)
  · rw [Resolver.outcomes_eq hsound, Resolver.outcomes_eq hsound, hm', List.map_filterMap]
    simp only [List.getElem?_map]
  · have hsource : r.SameSource r' := by
      rcases hr' with hsource | rfl
      · exact hsource
      · exact Resolver.sameSource_link r c m
    exact Resolver.link_congr hsound hsource m

/-- A memory that is imported twice is found twice. -/
theorem link_pointwise_twice :
    (sampleResolver.link sampleCompartment { imports := [sampleMemory, sampleMemory] }).value.1 =
      .ok [.memory ⟨⟨0⟩, 0⟩, .memory ⟨⟨0⟩, 0⟩] := by
  have hr : sampleResolver ∈ sample.resolvers := List.get_mem _ _
  have hc : sampleCompartment ∈ sample.compartments := List.get_mem _ _
  have hpointwise := link_pointwise ⟨_, rfl⟩ hr hc { imports := [sampleMemory, sampleMemory] }
  exact (hpointwise.1 _).mpr (by decide +kernel)

/-- A binding lasts.  After any actions, of which the resolution may be the first, the
compartment is still there, and the object in it is the one that was found, changed by
operations of its own only, and satisfies the declared type. -/
theorem binding_lasts [LawfulHostFunctions Host] (hc : w.compartments[j]? = some c)
    (h : (r.resolve c module name declared).value.1 = .ok entity)
    (actions : List (Action Host)) :
    ∃ c', (w.run actions).compartments[j]? = some c' ∧ entity.Continues c c' ∧
      entity.satisfies? c' declared = some true := by
  have hsatisfies := Resolver.satisfies?_of_resolve h
  obtain ⟨c', hc', hevolves⟩ := (evolves_run w actions).compartment hc
  exact ⟨c', hc', (Entity.live_of_satisfies? hsatisfies).continues hevolves,
    Entity.satisfies?_evolves hsatisfies hevolves⟩

/-- The memory that was found serves its import after it has grown and the resolver has
let go of it. -/
theorem binding_lasts_grown : ∃ c',
    (sample.run [.operate 0 (.grow ⟨⟨0⟩, 0⟩ 1), .request 0 0 .cleanUp]).compartments[0]? =
        some c' ∧
      (Entity.memory ⟨⟨0⟩, 0⟩).satisfies? c' sampleMemory.type = some true := by
  have hc : sample.compartments[0]? = some sampleCompartment :=
    List.getElem?_eq_getElem sample_inhabited.2
  have hanswer : (sampleResolver.resolve sampleCompartment "env" "memory"
      sampleMemory.type).value.1 = .ok (.memory ⟨⟨0⟩, 0⟩) := by
    decide +kernel
  obtain ⟨c', hc', -, hsatisfies⟩ := binding_lasts hc hanswer
    [.operate 0 (.grow ⟨⟨0⟩, 0⟩ 1), .request 0 0 .cleanUp]
  exact ⟨c', hc', hsatisfies⟩

end World
end HostLink
