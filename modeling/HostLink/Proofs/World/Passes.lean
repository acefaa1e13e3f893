/-
Passes of a resolver that is in use.

A resolver is in use from the set-up that succeeds until it is cleaned up.  Its pass, at
any time, is what was asked of it import by import since that set-up, or since the last
pass was closed or linked.

The imports asked for in the compartment of the environment are its own, and the first of
them opens the pass.  A resolver that has closed a pass before forgets, at that moment, all
failures it holds, and counts from there on.  After set-up nothing is forgotten, whatever
was held.  So closing a pass reports the failures of the pass, no more and no fewer, in
some cases only, and `finish_reports_iff` says in which.
-/
import HostLink.Proofs.World.LifeCycle
import Mathlib.Data.List.TakeWhile

namespace HostLink

variable {Host : Type}

open Resolver

variable {r : Resolver Host} {c : Compartment Host} {x : Exchange Host}

/-! ## In use -/

/-- Whether a resolver is in use after an exchange, if it is known whether it was before. -/
def Exchange.staysInUse (used : Bool) (x : Exchange Host) : Bool :=
  match x.request with
  | .cleanUp => false
  | _ => used || x.prepares

/-- Whether set-up succeeded and nothing was cleaned up since. -/
def inUse (past : List (Exchange Host)) : Bool := past.foldl Exchange.staysInUse false

theorem inUse_append (past : List (Exchange Host)) (x : Exchange Host) :
    inUse (past ++ [x]) = x.staysInUse (inUse past) := by
  rw [inUse, List.foldl_append]
  rfl

theorem Exchange.Turn.held {r' : Resolver Host} {c' : Compartment Host} {used : Bool}
    (h : x.resolver.Orderly) (hturn : x.Turn r' c') (hstays : x.staysInUse used)
    (hheld : used → x.resolver.environment.isSome) : r'.environment.isSome := by
  have hor : used ∨ x.prepares := by
    unfold staysInUse at hstays
    split at hstays
    · cases hstays
    · simpa using hstays
  cases hturn with
  | proceeded _ hprepares hproceeds =>
    rw [hproceeds.source.environment]
    exact hheld (by simpa [hprepares] using hor)
  | refused hphase hprepares _ _ =>
    have hsome := hheld (by simpa [hprepares] using hor)
    simp [h.idle (.inl hphase)] at hsome
  | prepared _ _ _ hproceeds =>
    rw [hproceeds.source.environment]
    rfl
  | released hrequest _ _ _ _ => simp [staysInUse, hrequest] at hstays

/-! ## What is asked import by import -/

/-- An import that was asked for alone, with the resolver and the compartment then. -/
structure Call (Host : Type) where
  resolver : Resolver Host
  compartment : Compartment Host
  entry : Import

namespace Call

def answer (call : Call Host) : Except (Failure ResolveError) Entity :=
  call.resolver.answer call.compartment call.entry

/-- Whether an import was asked for in the compartment of the environment. -/
def own (call : Call Host) : Bool := call.resolver.BoundTo call.compartment

end Call

/-- The pass after an exchange, from the pass before it. -/
def Exchange.extendPass (calls : List (Call Host)) (x : Exchange Host) : List (Call Host) :=
  match x.request with
  | .resolve module name expected =>
    calls ++ [⟨x.resolver, x.compartment, { module := module, name := name, type := expected }⟩]
  | .setUp _ | .linkModule _ => if x.prepares then [] else calls
  | .finish | .link _ => []
  | .setUser _ | .cleanUp => calls

/-- What was asked import by import since the set-up, or since the last pass was closed. -/
def pass (past : List (Exchange Host)) : List (Call Host) := past.foldl Exchange.extendPass []

theorem pass_append (past : List (Exchange Host)) (x : Exchange Host) :
    pass (past ++ [x]) = x.extendPass (pass past) := by
  rw [pass, List.foldl_append]
  rfl

/-! ## Failures -/

def failuresOf (calls : List (Call Host)) : List ResolveError := errors (calls.map Call.answer)

theorem failuresOf_append (calls later : List (Call Host)) :
    failuresOf (calls ++ later) = failuresOf calls ++ failuresOf later := by
  simp [failuresOf, errors]

theorem failuresOf_cons (call : Call Host) (rest : List (Call Host)) :
    failuresOf (call :: rest) = failuresOf [call] ++ failuresOf rest :=
  failuresOf_append [call] rest

theorem failuresOf_eq_nil_iff {calls : List (Call Host)}
    (hsafe : ∀ call ∈ calls, call.answer ≠ .error .crash) :
    failuresOf calls = [] ↔ ∀ call ∈ calls, call.answer.isOk := by
  constructor
  · intro hnone
    have hanswers : ∀ answer ∈ calls.map Call.answer, answer ≠ .error .crash := by
      simpa using hsafe
    obtain ⟨entities, hentities⟩ := exists_of_errors_eq_nil hanswers hnone
    intro call hcall
    have hmem : call.answer ∈ entities.map Except.ok :=
      hentities ▸ List.mem_map_of_mem hcall
    obtain ⟨entity, -, hentity⟩ := List.mem_map.mp hmem
    rw [← hentity]
    rfl
  · intro hall
    refine List.filterMap_eq_nil_iff.mpr fun answer hanswer => ?_
    obtain ⟨call, hcall, rfl⟩ := List.mem_map.mp hanswer
    have hok := hall call hcall
    cases hvalue : call.answer with
    | ok entity => rfl
    | error failure => simp [hvalue, Except.isOk, Except.toBool] at hok

/-- Imports that are not asked for in the compartment of the environment all fail. -/
theorem length_failuresOf {calls : List (Call Host)} (h : ∀ call ∈ calls, call.own = false) :
    (failuresOf calls).length = calls.length := by
  induction calls with
  | nil => rfl
  | cons call rest ih =>
    obtain ⟨hfirst, hrest⟩ := List.forall_mem_cons.mp h
    obtain ⟨error, herror⟩ := answer_of_not_boundTo (of_decide_eq_false hfirst) call.entry
    have hone : failuresOf [call] = [error] := by
      simp [failuresOf, errors, Call.answer, herror, failure?, Failure.error?]
    rw [failuresOf_cons, hone, List.singleton_append, List.length_cons, ih hrest, List.length_cons]

/-! ## What a resolver makes of a pass -/

/-- The calls from the first own one on. -/
def counted (calls : List (Call Host)) : List (Call Host) := calls.dropWhile fun call => !call.own

theorem counted_eq_nil_iff {calls : List (Call Host)} :
    counted calls = [] ↔ ∀ call ∈ calls, call.own = false := by
  simp [counted, List.dropWhile_eq_nil_iff]

theorem counted_append (calls : List (Call Host)) (call : Call Host) :
    counted (calls ++ [call]) =
      if counted calls = [] then if call.own then [call] else [] else counted calls ++ [call] := by
  unfold counted
  rw [List.dropWhile_append]
  by_cases hnone : (calls.dropWhile fun call => !call.own) = []
  · rw [if_pos hnone, if_pos (by rw [hnone]; rfl)]
    cases hown : call.own <;> simp [hown]
  · rw [if_neg hnone, if_neg (by simpa using hnone)]

/-- Any import before the first own one is a failure that is not counted. -/
theorem failuresOf_counted_eq_iff {first : Call Host} {rest : List (Call Host)} :
    failuresOf (counted (first :: rest)) = failuresOf (first :: rest) ↔ first.own := by
  cases hown : first.own with
  | true =>
    have hall : counted (first :: rest) = first :: rest := by simp [counted, hown]
    simp [hall]
  | false =>
    have hskip : counted (first :: rest) = counted rest := by simp [counted, hown]
    have hone : (failuresOf [first]).length = 1 := length_failuresOf (by simpa using hown)
    have hle : (failuresOf (counted rest)).length ≤ (failuresOf rest).length :=
      (((List.dropWhile_sublist _).map Call.answer).filterMap _).length_le
    rw [hskip, failuresOf_cons]
    constructor
    -- The first failure is left out and none is added, so the lengths differ.
    · intro heq
      have hlength := congrArg List.length heq
      rw [List.length_append] at hlength
      omega
    · exact nofun

/-- The phase a pass leads to from a resolver at its beginning. -/
def reached (start : Resolver Host) (calls : List (Call Host)) : Phase :=
  if counted calls = [] then start.phase else .resolving

/-- The failures a pass leads to from a resolver at its beginning. -/
def recorded (start : Resolver Host) (calls : List (Call Host)) : List ResolveError :=
  if start.phase = .toolchainSet ∨ counted calls = [] then start.diagnostics ++ failuresOf calls
  else failuresOf (counted calls)

theorem reached_append (start : Resolver Host) (calls : List (Call Host)) (call : Call Host) :
    reached start (calls ++ [call]) = if call.own then .resolving else reached start calls := by
  by_cases hnone : counted calls = []
  · cases hown : call.own <;> simp [reached, counted_append, hnone, hown]
  · simp [reached, counted_append, hnone]

theorem recorded_append (start : Resolver Host) (calls : List (Call Host)) (call : Call Host) :
    recorded start (calls ++ [call]) =
      (if call.own ∧ counted calls = [] ∧ start.phase ≠ .toolchainSet then []
        else recorded start calls) ++ failuresOf [call] := by
  -- After set-up nothing is forgotten; in a later pass the first own import makes the cut.
  by_cases hfirst : start.phase = .toolchainSet
  · simp [recorded, hfirst, failuresOf_append]
  · by_cases hnone : counted calls = []
    · cases hown : call.own <;>
        simp [recorded, counted_append, hfirst, hnone, hown, failuresOf_append]
    · simp [recorded, counted_append, hfirst, hnone, failuresOf_append]

/-- The resolver at the beginning of its pass. -/
def opener (r : Resolver Host) (calls : List (Call Host)) : Resolver Host :=
  (calls.head?.map Call.resolver).getD r

/-- Whether a resolver is where its pass leads to. -/
structure Tracked (r : Resolver Host) (calls : List (Call Host)) : Prop where
  settled : (opener r calls).phase = .toolchainSet ∨ (opener r calls).phase = .done ∨
    (opener r calls).phase = .failed
  phase : r.phase = reached (opener r calls) calls
  diagnostics : r.diagnostics = recorded (opener r calls) calls
  safe : ∀ call ∈ calls, call.answer ≠ .error .crash

namespace Tracked

variable {calls : List (Call Host)}

theorem nil (h : r.phase = .toolchainSet ∨ r.phase = .done ∨ r.phase = .failed) :
    Tracked r [] := by
  refine ⟨h, rfl, ?_, by simp⟩
  simp [recorded, counted, failuresOf, errors, opener]

/-- The failures of an earlier pass are held until the first own import. -/
theorem closed_iff (h : Tracked r calls) :
    (r.phase = .done ∨ r.phase = .failed) ↔
      counted calls = [] ∧ (opener r calls).phase ≠ .toolchainSet := by
  rw [h.phase, reached]
  by_cases hnone : counted calls = []
  · rcases h.settled with hphase | hphase | hphase <;> simp [hnone, hphase]
  · simp [hnone]

theorem after (h : Tracked r calls) (horderly : r.Orderly) (henv : r.environment.isSome)
    (hsound : r.SoundIn c) (entry : Import) :
    Tracked (r.after c entry) (calls ++ [⟨r, c, entry⟩]) := by
  -- The first import of a pass is asked of the resolver at its beginning.
  have hstart : opener (r.after c entry) (calls ++ [⟨r, c, entry⟩]) = opener r calls := by
    cases calls <;> rfl
  have hown : (⟨r, c, entry⟩ : Call Host).own = true ↔ r.BoundTo c := decide_eq_true_iff
  refine ⟨hstart ▸ h.settled, ?_, ?_, fun call hcall => ?_⟩
  · rw [phase_after horderly henv, hstart, reached_append, h.phase]
    simp only [hown]
  · rw [diagnostics_after, hstart, recorded_append, ← h.diagnostics]
    simp only [hown, h.closed_iff]
    rfl
  · rcases List.mem_append.mp hcall with hcall | hcall
    · exact h.safe call hcall
    · obtain rfl := List.mem_singleton.mp hcall
      exact answer_ne_crash hsound entry

theorem congr {r' : Resolver Host} (h : Tracked r calls) (hphase : r'.phase = r.phase)
    (hdiagnostics : r'.diagnostics = r.diagnostics) : Tracked r' calls := by
  cases calls with
  | nil => exact .nil (hphase ▸ h.settled)
  | cons first rest =>
    exact ⟨h.settled, hphase.trans h.phase, hdiagnostics.trans h.diagnostics, h.safe⟩

/-- A set-up that is refused because there was one leaves the pass as it is. -/
theorem setUp {m : ModuleInfo} {answer : Except (Failure SetupError) ModuleInfo}
    {r' : Resolver Host} {c' : Compartment Host} (h : r.environment.isSome → Tracked r calls)
    (horderly : r.Orderly) (houtcome : Outcome r c m answer r' c') (henv : r'.environment.isSome) :
    Tracked r' (if answer.isOk then [] else calls) := by
  cases houtcome with
  | started _ => exact h henv
  | invalid hphase _ | incomplete hphase _ _ => simp [horderly.idle (.inl hphase)] at henv
  | ready _ _ _ _ => exact .nil (.inl rfl)

theorem linkModule (h : r.environment.isSome → Tracked r calls) (horderly : r.Orderly)
    (m : ModuleInfo) (henv : (r.linkModule c m).value.2.1.environment.isSome) :
    Tracked (r.linkModule c m).value.2.1
      (if (r.setUp c m).value.1.isOk then [] else calls) := by
  have hsetUp := setUp_outcome r c m
  have horderly' := Exchange.orderly_setUp horderly c m
  rw [linkModule_snd] at henv ⊢
  cases hanswer : (r.setUp c m).value.1 with
  | error failure =>
    rw [hanswer] at henv hsetUp
    exact setUp h horderly hsetUp henv
  | ok m' =>
    rw [hanswer] at henv hsetUp
    -- The link that follows closes its own pass, whatever there was before set-up.
    have hkept := (sameSource_link (r.setUp c m).value.2.1 (r.setUp c m).value.2.2 m').environment
    exact .nil (.inr (closed_link horderly' (hkept ▸ henv) hsetUp.soundIn m'))

theorem serve (h : r.environment.isSome → Tracked r calls) (horderly : r.Orderly)
    (hsound : r.SoundIn c) (request : Request) (henv : (r.serve c request).1.environment.isSome) :
    Tracked (r.serve c request).1 (Exchange.extendPass calls ⟨r, c, request⟩) := by
  cases request with
  | setUser user => exact (h henv).congr rfl rfl
  | setUp m => exact setUp h horderly (setUp_outcome r c m) henv
  | resolve module name expected =>
    have hheld : r.environment.isSome :=
      (sameSource_resolve r c module name expected).environment ▸ henv
    exact (h hheld).after horderly hheld hsound ⟨module, name, expected⟩
  | link m =>
    have hheld : r.environment.isSome := (sameSource_link r c m).environment ▸ henv
    exact .nil (.inr (closed_link horderly hheld hsound m))
  | linkModule m => exact linkModule h horderly m henv
  | finish =>
    have hheld : r.environment.isSome := (sameSource_finish r).environment ▸ henv
    exact .nil (.inr (closed_finish horderly hheld))
  | cleanUp =>
    simp only [Resolver.serve, cleanUp_value] at henv
    split at henv
    · rename_i hphase
      simp [horderly.idle (.inl hphase)] at henv
    · cases henv

/-! ## Closing a pass -/

theorem diagnostics_finish (h : Tracked r calls) :
    r.finish.value.diagnostics = recorded (opener r calls) calls :=
  (Resolver.diagnostics_finish r).trans h.diagnostics

theorem phase_finish (h : Tracked r calls) :
    r.finish.value.phase =
      if (opener r calls).phase = .toolchainSet ∨ counted calls ≠ [] then
        if recorded (opener r calls) calls = [] then .done else .failed
      else (opener r calls).phase := by
  rw [Resolver.phase_finish, h.phase, h.diagnostics, reached]
  by_cases hnone : counted calls = []
  · rcases h.settled with hphase | hphase | hphase <;> simp [hnone, hphase]
  · simp [hnone]

end Tracked

/-- Whether closing a pass reports exactly its failures. -/
structure Reported (r : Resolver Host) (calls : List (Call Host)) : Prop where
  done : (∀ call ∈ calls, call.answer.isOk) → r.finish.value.phase = .done
  failed : (∃ call ∈ calls, ¬ call.answer.isOk) →
    r.finish.value.phase = .failed ∧ r.finish.value.diagnostics = failuresOf calls

namespace Tracked

variable {calls rest : List (Call Host)} {first : Call Host}

theorem reported_iff (h : Tracked r calls) :
    Reported r calls ↔
      if failuresOf calls = [] then r.finish.value.phase = .done
      else r.finish.value.phase = .failed ∧ r.finish.value.diagnostics = failuresOf calls := by
  have hnone := failuresOf_eq_nil_iff h.safe
  have hsome : failuresOf calls ≠ [] ↔ ∃ call ∈ calls, ¬ call.answer.isOk := by
    rw [Ne, hnone]
    push Not
    rfl
  split
  · rename_i hnil
    exact ⟨fun hreported => hreported.done (hnone.mp hnil),
      fun hphase => ⟨fun _ => hphase, fun hfailed => absurd hnil (hsome.mpr hfailed)⟩⟩
  · rename_i hnil
    exact ⟨fun hreported => hreported.failed (hsome.mp hnil),
      fun hfailed => ⟨fun hall => absurd (hnone.mpr hall) hnil, fun _ => hfailed⟩⟩

/-- If closing tells the outcome of what is recorded, that must be what failed. -/
theorem reported_iff_of_open (h : Tracked r calls)
    (hopen : (opener r calls).phase = .toolchainSet ∨ counted calls ≠ []) :
    Reported r calls ↔ recorded (opener r calls) calls = failuresOf calls := by
  rw [h.reported_iff, h.phase_finish, if_pos hopen, h.diagnostics_finish]
  by_cases hnone : failuresOf calls = []
  · by_cases hrecorded : recorded (opener r calls) calls = [] <;> simp [hnone, hrecorded]
  · rw [if_neg hnone]
    constructor
    · exact And.right
    · intro hrecorded
      exact ⟨by rw [hrecorded, if_neg hnone], hrecorded⟩

/-- Without an own import nothing is told, and the last outcome must do. -/
theorem reported_iff_of_foreign (h : Tracked r calls) (hcalls : calls ≠ [])
    (hset : (opener r calls).phase ≠ .toolchainSet) (hforeign : counted calls = []) :
    Reported r calls ↔
      (opener r calls).phase = .failed ∧ (opener r calls).diagnostics = [] := by
  have hsome : failuresOf calls ≠ [] := fun hnone => by
    have hlength := length_failuresOf (counted_eq_nil_iff.mp hforeign)
    rw [hnone] at hlength
    exact hcalls (List.length_eq_zero_iff.mp hlength.symm)
  rw [h.reported_iff, if_neg hsome, h.phase_finish, h.diagnostics_finish]
  simp [hset, hforeign, recorded]

theorem reported_cons_iff (h : Tracked r (first :: rest)) :
    Reported r (first :: rest) ↔
      if first.resolver.phase = .toolchainSet then first.resolver.diagnostics = []
      else first.own ∨ first.resolver.phase = .failed ∧ first.resolver.diagnostics = [] ∧
        ∀ call ∈ rest, call.own = false := by
  have hopener : opener r (first :: rest) = first.resolver := rfl
  by_cases hset : first.resolver.phase = .toolchainSet
  · rw [if_pos hset, h.reported_iff_of_open (.inl hset), hopener, recorded, if_pos (.inl hset)]
    simp
  · rw [if_neg hset]
    by_cases hforeign : counted (first :: rest) = []
    · obtain ⟨hfirst, hrest⟩ := List.forall_mem_cons.mp (counted_eq_nil_iff.mp hforeign)
      have hnot : ¬ first.own := by simp [hfirst]
      rw [h.reported_iff_of_foreign (List.cons_ne_nil _ _) hset hforeign, hopener,
        or_iff_right hnot, and_iff_left hrest]
    · have hown : (∀ call ∈ rest, call.own = false) → first.own := fun hrest => by
        by_contra hfirst
        refine hforeign (counted_eq_nil_iff.mpr (List.forall_mem_cons.mpr ⟨?_, hrest⟩))
        exact Bool.eq_false_iff.mpr hfirst
      rw [h.reported_iff_of_open (.inr hforeign), hopener, recorded,
        if_neg (not_or.mpr ⟨hset, hforeign⟩), failuresOf_counted_eq_iff,
        or_iff_left_of_imp fun ⟨_, _, hrest⟩ => hown hrest]

end Tracked

/-! ## Runs -/

namespace World

variable [LawfulHostFunctions Host] {actions : List (Action Host)} {i : Nat} {first : Call Host}
  {rest : List (Call Host)}

theorem held_of_inUse (hr : (run {} actions).resolvers[i]? = some r)
    (huse : inUse (journal {} i actions)) : r.environment.isSome := by
  refine (orderly_induction (P := fun r past => inUse past → r.environment.isSome) ?_ ?_ hr).2 huse
  · exact fun _ _ => nofun
  · intro x past _ horderly hheld hstays
    rw [inUse_append] at hstays
    exact (x.turn horderly).held horderly hstays hheld

theorem tracked (hr : (run {} actions).resolvers[i]? = some r) (henv : r.environment.isSome) :
    Tracked r (pass (journal {} i actions)) := by
  refine (orderly_induction (P := fun r past => r.environment.isSome → Tracked r (pass past))
    ?_ ?_ hr).2 henv
  · exact fun _ _ => nofun
  · intro x past hsound horderly htracked henv
    rw [pass_append]
    exact .serve htracked horderly hsound x.request henv

/-- The phase after a link tells its outcome in all cases but two, and then stays what it
was: a resolver whose last pass failed links nothing, or one whose last pass was done links
something elsewhere than in its own compartment. -/
theorem link_tells_iff (hr : (run {} actions).resolvers[i]? = some r)
    (huse : inUse (journal {} i actions)) (hc : c ∈ (run {} actions).compartments)
    (m : ModuleInfo) :
    (r.link c m).value.1 ≠ .error .crash ∧
      ((r.link c m).value.2.phase = outcomePhase (r.link c m).value.1 ↔
        ¬ (r.phase = .failed ∧ m.imports = [] ∨
          r.phase = .done ∧ m.imports ≠ [] ∧ r.compartment ≠ some c.id)) ∧
      (r.phase = .failed ∧ m.imports = [] ∨
          r.phase = .done ∧ m.imports ≠ [] ∧ r.compartment ≠ some c.id →
        (r.link c m).value.2.phase = r.phase) := by
  have henv := held_of_inUse hr huse
  have horderly := orderly hr
  have hw : (run {} actions).Sound := Reachable.sound ⟨actions, rfl⟩
  have hsound : r.SoundIn c := hw.soundIn (List.mem_of_getElem? hr) hc
  have hbound : r.BoundTo c ↔ r.compartment = some c.id := by simp [BoundTo, henv]
  refine ⟨?_, ?_, fun huntold => ?_⟩
  · rw [(link_spec hsound m).1]
    exact summary_ne_crash (not_crash_of_mem hsound m)
  · rw [phase_link_eq_iff horderly henv hsound, hbound]
  · rw [phase_link horderly henv hsound]
    rcases huntold with ⟨hphase, hnone⟩ | ⟨hphase, -, hforeign⟩
    · simp [hphase, hnone]
    · simp [hphase, hbound, hforeign]

/-- A resolver that has linked a module, and a compartment that is not its own. -/
def stray : List (Action HostOp) :=
  [.openCompartment, .openCompartment, .employ {} (.default {}),
    .request 0 0 (.setUp { imports := [sampleMemory, sampleTable] }),
    .request 0 0 (.link { imports := [sampleMemory] })]

/-- A link in that compartment fails, and leaves the phase of the one that was done. -/
theorem link_tells_stray : ∃ r c,
    (run {} stray).resolvers[0]? = some r ∧ (run {} stray).compartments[1]? = some c ∧
      outcomePhase (r.link c { imports := [sampleMemory] }).value.1 ≠ .done ∧
      (r.link c { imports := [sampleMemory] }).value.2.phase = .done := by
  have hresolver : (run {} stray).resolvers[0]?.map (fun r => (r.phase, r.compartment)) =
      some (.done, some ⟨0⟩) := by
    decide +kernel
  have hcompartment : (run {} stray).compartments[1]?.map (·.id) = some ⟨1⟩ := by
    decide +kernel
  obtain ⟨r, hr, hr'⟩ := Option.map_eq_some_iff.mp hresolver
  obtain ⟨hphase, hown⟩ := Prod.mk.inj hr'
  obtain ⟨c, hc, hid⟩ := Option.map_eq_some_iff.mp hcompartment
  have hforeign : r.phase = .done ∧ [sampleMemory] ≠ [] ∧ r.compartment ≠ some c.id := by
    rw [hown, hid]
    exact ⟨hphase, List.cons_ne_nil _ _, by decide⟩
  obtain ⟨-, htells, hstays⟩ := link_tells_iff hr (by decide +kernel) (List.mem_of_getElem? hc)
    { imports := [sampleMemory] }
  have hdone := (hstays (.inr hforeign)).trans hphase
  refine ⟨r, c, hr, hc, fun hout => ?_, hdone⟩
  exact htells.mp (hdone.trans hout.symm) (.inr hforeign)

/-- Closing a pass reports exactly its failures in these cases and no others.  A pass that
follows set-up must find nothing held from before.  A pass that follows another must begin
in the compartment of the environment; or, if none of it is asked for there, the last
outcome was a failure of which nothing is held, as after a link of no imports. -/
theorem finish_reports_iff (hr : (run {} actions).resolvers[i]? = some r)
    (huse : inUse (journal {} i actions)) (hpass : pass (journal {} i actions) = first :: rest) :
    (Reported r (first :: rest) ↔
        if first.resolver.phase = .toolchainSet then first.resolver.diagnostics = []
        else first.own ∨ first.resolver.phase = .failed ∧ first.resolver.diagnostics = [] ∧
          ∀ call ∈ rest, call.own = false) ∧
      (∀ call ∈ first :: rest, call.answer ≠ .error .crash) ∧
      r.finish.value.diagnostics = recorded first.resolver (first :: rest) ∧
      r.finish.value.phase =
        if first.resolver.phase = .toolchainSet ∨ counted (first :: rest) ≠ [] then
          if recorded first.resolver (first :: rest) = [] then .done else .failed
        else first.resolver.phase := by
  have htracked := tracked hr (held_of_inUse hr huse)
  rw [hpass] at htracked
  exact ⟨htracked.reported_cons_iff, htracked.safe, htracked.diagnostics_finish,
    htracked.phase_finish⟩

/-- A resolver that is asked for an import before it is set up, and once more after. -/
def hasty : List (Action HostOp) :=
  [.openCompartment, .employ {} (.default {}),
    .request 0 0 (.resolve "env" "memory" sampleMemory.type),
    .request 0 0 (.setUp { imports := [sampleMemory, sampleTable] }),
    .request 0 0 (.resolve "env" "memory" sampleMemory.type)]

/-- The import of its pass is found, and closing reports a failure. -/
theorem finish_reports_hasty : ∃ r first,
    (run {} hasty).resolvers[0]? = some r ∧ pass (journal {} 0 hasty) = [first] ∧
      first.answer.isOk ∧ ¬ Reported r [first] ∧ r.finish.value.phase = .failed := by
  have hresolver : (run {} hasty).resolvers[0]?.isSome := by decide +kernel
  have hcalls : (pass (journal {} 0 hasty)).map (fun call =>
      (call.resolver.phase, call.resolver.diagnostics, call.answer.isOk)) =
        [(.toolchainSet, [.notReady "env" "memory"], true)] := by
    decide +kernel
  obtain ⟨r, hr⟩ := Option.isSome_iff_exists.mp hresolver
  obtain ⟨first, hpass, hfirst⟩ := List.map_eq_singleton_iff.mp hcalls
  obtain ⟨hphase, hrest⟩ := Prod.mk.inj hfirst
  obtain ⟨hdiagnostics, hok⟩ := Prod.mk.inj hrest
  obtain ⟨hreported, -, -, hclosed⟩ := finish_reports_iff hr (by decide +kernel) hpass
  have hrecorded : recorded first.resolver [first] ≠ [] := by
    rw [recorded, if_pos (.inl hphase), hdiagnostics]
    exact List.cons_ne_nil _ _
  refine ⟨r, first, hr, hpass, hok, ?_, ?_⟩
  · rw [hreported, if_pos hphase, hdiagnostics]
    exact List.cons_ne_nil _ _
  · rw [hclosed, if_pos (.inl hphase), if_neg hrecorded]

end World
end HostLink
