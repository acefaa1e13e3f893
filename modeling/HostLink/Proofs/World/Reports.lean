/-
What a resolver logs of its failures, and what it keeps of them.

An import that fails is logged where its answer is made, whether it was asked for alone or in
a link, and nothing else is logged at the level of errors but a set-up that fails.  So the
errors in the log of a run are the failures of its answers, one line for each in their order,
with the user the resolver had when it was asked.

The diagnostics are added to where a failure is logged, and otherwise only forgotten as a
whole.  At any time they are therefore the last of the failures so far, with none left out in
between.
-/
import HostLink.Proofs.World.LifeCycle

namespace HostLink

variable {Host : Type}

/-! ## Errors in a log -/

namespace Event

def isError (event : Event) : Bool := event.level = .error

/-- What is logged of a set-up that fails. -/
def setUpFailed : String := "resolver set-up failed"

/-- Whether an event is an error that was logged for an import. -/
def ofImport (event : Event) : Bool := event.isError && event.message != setUpFailed

end Event

namespace Logged

variable {α β : Type} {x : Logged α} {f : α → Logged β}

def errorEvents (x : Logged α) : List Event := x.events.filter Event.isError

theorem errorEvents_bind (x : Logged α) (f : α → Logged β) :
    (x >>= f).errorEvents = x.errorEvents ++ (f x.value).errorEvents := List.filter_append ..

/-- Whether nothing is logged at the level of errors. -/
def Quiet (x : Logged α) : Prop := x.errorEvents = []

theorem quiet_pure (a : α) : Quiet (pure a) := rfl

theorem Quiet.errorEvents_bind (hx : x.Quiet) (f : α → Logged β) :
    (x >>= f).errorEvents = (f x.value).errorEvents := by
  rw [Logged.errorEvents_bind, hx, List.nil_append]

theorem Quiet.bind (hx : x.Quiet) (hf : ∀ a, (f a).Quiet) : (x >>= f).Quiet :=
  (hx.errorEvents_bind f).trans (hf _)

theorem quiet_emit {level : Level} (hlevel : level ≠ .error) (message : String)
    (fields : List (String × String)) : (emit level message fields).Quiet := by
  simp [Quiet, errorEvents, emit, Event.isError, hlevel]

end Logged

open Logged

/-! ## Set-up -/

theorem Collection.quiet_instantiate (collection : Collection Host) (c : Compartment Host)
    (name : String) (extra : Named Entity) : (collection.instantiate c name extra).Quiet :=
  (quiet_emit (by decide) _ _).bind fun _ => quiet_pure _

theorem Environment.quiet_instantiate (c : Compartment Host) (toolchain : Toolchain)
    (m : ModuleInfo) (provider : Provider Host) : (instantiate c toolchain m provider).Quiet := by
  cases toolchain with
  | standard => exact (Collection.quiet_instantiate ..).bind fun _ => quiet_pure _
  | legacy =>
    unfold instantiate
    dsimp only
    split
    · exact quiet_pure _
    · refine (quiet_emit (by decide) _ _).bind fun _ => ?_
      refine (Collection.quiet_instantiate ..).bind fun _ => ?_
      refine (Collection.quiet_instantiate ..).bind fun _ => ?_
      exact (Collection.quiet_instantiate ..).bind fun _ => quiet_pure _

theorem GlobalsBlock.quiet_patch (m : Memory) (layout : Layout) : (patch m layout).Quiet := by
  unfold patch
  dsimp only
  split
  · exact quiet_pure _
  · exact (quiet_emit (by decide) _ _).bind fun _ => quiet_pure _

namespace SetupError

/-- The line for a set-up that fails. -/
def report (user : String) (error : SetupError) : Event :=
  { level := .error, message := Event.setUpFailed
    fields := [("user", user), ("error", error.message)] }

end SetupError

namespace Resolver

variable {r : Resolver Host} {c : Compartment Host} {m : ModuleInfo}

/-- The error a set-up fails with, other than that there was one before. -/
def refusal? : Except (Failure SetupError) ModuleInfo → Option SetupError
  | .error (.error .alreadySetUp) => none
  | .error (.error error) => some error
  | .error .crash | .ok _ => none

theorem refusal?_eq_some_iff {answer : Except (Failure SetupError) ModuleInfo}
    {error : SetupError} :
    refusal? answer = some error ↔ error ≠ .alreadySetUp ∧ answer = .error (.error error) := by
  rcases answer with ((_ | _ | _ | _ | _) | _) | m <;> simp [refusal?] <;> grind

theorem quiet_makeEnvironment (r : Resolver Host) (c : Compartment Host) (toolchain : Toolchain)
    (m : ModuleInfo) : (r.makeEnvironment c toolchain m).Quiet := by
  refine (Environment.quiet_instantiate ..).bind fun made => ?_
  rcases made with error | ⟨c', environment⟩
  · exact quiet_pure _
  · dsimp only
    split
    · exact quiet_pure _
    · split
      · exact quiet_pure _
      · refine (GlobalsBlock.quiet_patch ..).bind fun patched => ?_
        rcases patched with error | ⟨memory, block⟩ <;> exact quiet_pure _

theorem quiet_trySetUp (r : Resolver Host) (c : Compartment Host) (m : ModuleInfo) :
    (r.trySetUp c m).Quiet := by
  unfold trySetUp
  split
  · exact quiet_pure _
  · refine (quiet_emit (by decide) _ _).bind fun _ => ?_
    split
    · exact quiet_pure _
    · refine (quiet_makeEnvironment ..).bind fun made => ?_
      rcases made with ⟨failure | environment, c'⟩ <;> exact quiet_pure _

theorem user_trySetUp (r : Resolver Host) (c : Compartment Host) (m : ModuleInfo) :
    (r.trySetUp c m).value.2.1.user = r.user := by
  unfold trySetUp
  split
  · rfl
  · simp only [value_bind]
    split
    · rfl
    · simp only [value_bind]
      split <;> rfl

theorem userName_congr {r' : Resolver Host} (h : r'.user = r.user) : r'.userName = r.userName := by
  rw [userName, userName, h]

namespace Outcome

variable {answer : Except (Failure SetupError) ModuleInfo} {r' : Resolver Host}
    {c' : Compartment Host}

theorem user_eq (h : Outcome r c m answer r' c') : r'.user = r.user := by
  cases h <;> rfl

theorem diagnostics_eq (h : Outcome r c m answer r' c') : r'.diagnostics = r.diagnostics := by
  cases h <;> rfl

theorem phase_ne_uninitialized (h : Outcome r c m (.error (.error .alreadySetUp)) r' c') :
    r.phase ≠ .uninitialized := by
  cases h with
  | started hphase => exact hphase

end Outcome

theorem setUp_fst (hphase : r.phase = .uninitialized) (c : Compartment Host) (m : ModuleInfo) :
    (r.setUp c m).value.1 = (r.trySetUp c m).value.1 := by
  simp only [setUp, if_pos hphase, Logged.value_bind]
  split <;> rfl

/-- A first set-up is not refused for another one before it. -/
theorem trySetUp_ne_alreadySetUp (hphase : r.phase = .uninitialized) (c : Compartment Host)
    (m : ModuleInfo) : (r.trySetUp c m).value.1 ≠ .error (.error .alreadySetUp) := by
  have houtcome := setUp_outcome r c m
  intro h
  rw [setUp_fst hphase, h] at houtcome
  exact houtcome.phase_ne_uninitialized hphase

/-- A set-up logs the error it is refused with. -/
theorem errorEvents_setUp (r : Resolver Host) (c : Compartment Host) (m : ModuleInfo) :
    (r.setUp c m).errorEvents =
      ((refusal? (r.setUp c m).value.1).map (SetupError.report r.userName)).toList := by
  by_cases hphase : r.phase = .uninitialized
  · have hne := trySetUp_ne_alreadySetUp hphase c m
    rw [setUp_fst hphase]
    rw [setUp, if_pos hphase, (quiet_trySetUp r c m).errorEvents_bind,
      ← userName_congr (user_trySetUp r c m)]
    generalize (r.trySetUp c m).value = tried at hne ⊢
    rcases tried with ⟨(error | _) | m', r', c'⟩
    · have hrefusal : refusal? (.error (.error error)) = some error :=
        refusal?_eq_some_iff.mpr ⟨fun h => hne (h ▸ rfl), rfl⟩
      rw [hrefusal]
      rfl
    · rfl
    · rfl
  · simp only [setUp, if_neg hphase]
    rfl

end Resolver

/-! ## Imports -/

namespace ResolveError

/-- The line for an import that fails. -/
def report (user : String) (error : ResolveError) : Event :=
  { level := .error, message := error.message, fields := [("user", user)] }

theorem message_ne_setUpFailed (error : ResolveError) : error.message ≠ Event.setUpFailed := by
  intro h
  have hchars := congrArg String.toList h
  cases error <;> unfold message at hchars <;> simp [Event.setUpFailed] at hchars

theorem ofImport_report (user : String) (error : ResolveError) :
    (error.report user).ofImport = true := by
  simp [report, Event.ofImport, Event.isError, message_ne_setUpFailed]

end ResolveError

theorem SetupError.ofImport_report (user : String) (error : SetupError) :
    (error.report user).ofImport = false := by
  simp [report, Event.ofImport]

namespace Resolver

variable {r : Resolver Host} {c : Compartment Host} {m : ModuleInfo}

theorem user_begun (r : Resolver Host) (c : Compartment Host) : (r.begun c).user = r.user := by
  unfold begun
  split
  · split
    · unfold beginPass
      split <;> rfl
    · rfl
  · rfl

theorem user_resolve (r : Resolver Host) (c : Compartment Host) (module name : String)
    (expected : ExternType) : (r.resolve c module name expected).value.2.user = r.user := by
  rw [resolve_value]
  exact user_begun r c

/-- An import logs the failure of its answer. -/
theorem errorEvents_resolve (r : Resolver Host) (c : Compartment Host) (module name : String)
    (expected : ExternType) :
    (r.resolve c module name expected).errorEvents =
      (errors [(r.resolve c module name expected).value.1]).map
        (ResolveError.report r.userName) := by
  rw [resolve_value, ← userName_congr (user_begun r c), ← lookup_snd]
  rcases hlookup : r.lookup c module name expected with ⟨(error | _) | entity, r'⟩ <;>
    simp only [resolve, hlookup] <;> rfl

theorem user_resolveAll (r : Resolver Host) (c : Compartment Host) (entries : List Import) :
    (resolveAll c r entries).value.2.user = r.user := by
  induction entries generalizing r with
  | nil => rfl
  | cons first rest ih =>
    have hafter := user_resolve r c first.module first.name first.type
    simp only [resolveAll, Logged.value_bind]
    split
    · exact hafter
    · exact (ih _).trans hafter

theorem errors_cons_eq_append (first : Except (Failure ResolveError) Entity)
    (rest : List (Except (Failure ResolveError) Entity)) :
    errors (first :: rest) = errors [first] ++ errors rest := by
  rw [← List.singleton_append, errors, List.filterMap_append]
  rfl

/-- A pass logs the failures of its answers one by one. -/
theorem errorEvents_resolveAll (r : Resolver Host) (c : Compartment Host) (entries : List Import) :
    (resolveAll c r entries).errorEvents =
      (errors (resolveAll c r entries).value.1).map (ResolveError.report r.userName) := by
  induction entries generalizing r with
  | nil => rfl
  | cons first rest ih =>
    have hfirst := errorEvents_resolve r c first.module first.name first.type
    have hrest := ih (r.resolve c first.module first.name first.type).value.2
    rw [userName_congr (user_resolve r c _ _ _)] at hrest
    simp only [resolveAll, errorEvents_bind, Logged.value_bind, hfirst]
    split
    · rename_i hcrash
      rw [hcrash]
      rfl
    · simp only [errorEvents_bind, Logged.value_bind, hrest, Logged.value_pure]
      rw [(quiet_pure _ : _ = _), List.append_nil,
        errors_cons_eq_append _ (resolveAll c _ rest).value.1, List.map_append]

theorem quiet_finish (r : Resolver Host) : r.finish.Quiet := by
  unfold finish
  split
  · exact (quiet_emit (by decide) _ _).bind fun _ => quiet_pure _
  · exact quiet_pure _

theorem quiet_cleanUp (r : Resolver Host) : r.cleanUp.Quiet := by
  unfold cleanUp
  split
  · exact quiet_pure _
  · dsimp only
    split
    · exact (quiet_emit (by decide) _ _).bind fun _ => quiet_pure _
    · exact quiet_pure _

/-- A link logs the failures of the answers it gets on its way. -/
theorem errorEvents_link (r : Resolver Host) (c : Compartment Host) (m : ModuleInfo) :
    (r.link c m).errorEvents =
      (errors (r.outcomes c m)).map (ResolveError.report r.userName) := by
  have huser : userName { r with diagnostics := [] } = r.userName := rfl
  have hall := errorEvents_resolveAll { r with diagnostics := [] } c m.imports
  rw [huser] at hall
  simp only [link, errorEvents_bind, hall]
  refine (congrArg (_ ++ ·) ?_).trans (List.append_nil _)
  split
  · exact quiet_pure _
  · exact (quiet_finish _).bind fun _ => quiet_pure _

/-- The failures of a link that set-up comes before. -/
def failuresAfterSetUp (r : Resolver Host) (c : Compartment Host) (m : ModuleInfo) :
    List ResolveError :=
  match (r.setUp c m).value with
  | (.ok m', r', c') => errors (r'.outcomes c' m')
  | _ => []

/-- A set-up that fails ends in its own line, and another one in those of the link. -/
theorem errorEvents_linkModule (r : Resolver Host) (c : Compartment Host) (m : ModuleInfo) :
    (r.linkModule c m).errorEvents =
      ((refusal? (r.setUp c m).value.1).map (SetupError.report r.userName)).toList ++
        (r.failuresAfterSetUp c m).map (ResolveError.report r.userName) := by
  have huser := (setUp_outcome r c m).user_eq
  rw [linkModule, errorEvents_bind, errorEvents_setUp, failuresAfterSetUp]
  refine congrArg (_ ++ ·) ?_
  generalize (r.setUp c m).value = done at huser ⊢
  rcases done with ⟨(error | _) | m', r', c'⟩
  · rfl
  · rfl
  · have hlink := errorEvents_link r' c' m'
    rw [userName_congr huser] at hlink
    dsimp only
    rw [errorEvents_bind, hlink]
    exact List.append_nil _

theorem user_finish (r : Resolver Host) : r.finish.value.user = r.user := by
  unfold finish
  split <;> rfl

theorem user_link (r : Resolver Host) (c : Compartment Host) (m : ModuleInfo) :
    (r.link c m).value.2.user = r.user := by
  have hall := user_resolveAll { r with diagnostics := [] } c m.imports
  simp only [link, Logged.value_bind]
  split
  · exact hall
  · exact (user_finish _).trans hall

/-- After a link the failures of its answers are what is held. -/
theorem diagnostics_link (h : r.SoundIn c) (m : ModuleInfo) :
    (r.link c m).value.2.diagnostics = errors (r.outcomes c m) := by
  rw [(link_spec h m).2, outcomes_eq h]
  rfl

theorem user_cleanUp (r : Resolver Host) : r.cleanUp.value.user = r.user := by
  rw [cleanUp_value]
  split <;> rfl

/-- Nothing but a request to do so changes the user. -/
theorem user_serve (r : Resolver Host) (c : Compartment Host) (request : Request) :
    (r.serve c request).1.user =
      match request with
      | .setUser user => some user
      | _ => r.user := by
  cases request with
  | setUser user => rfl
  | setUp m => exact (setUp_outcome r c m).user_eq
  | resolve module name expected => exact user_resolve r c module name expected
  | link m => exact user_link r c m
  | linkModule m =>
    have hsetUp := (setUp_outcome r c m).user_eq
    simp only [serve, linkModule_snd]
    split
    · exact (user_link _ _ _).trans hsetUp
    · exact hsetUp
  | finish => exact user_finish r
  | cleanUp => exact user_cleanUp r

end Resolver

/-! ## Exchanges -/

namespace Exchange

open Resolver

variable {x : Exchange Host}

/-- What an exchange logs. -/
def events (x : Exchange Host) : List Event :=
  match x.request with
  | .setUser _ => []
  | .setUp m => (x.resolver.setUp x.compartment m).events
  | .resolve module name expected =>
    (x.resolver.resolve x.compartment module name expected).events
  | .link m => (x.resolver.link x.compartment m).events
  | .linkModule m => (x.resolver.linkModule x.compartment m).events
  | .finish => x.resolver.finish.events
  | .cleanUp => x.resolver.cleanUp.events

/-- The failures that imports are answered with in an exchange, in the order of the answers. -/
def failures (x : Exchange Host) : List ResolveError :=
  match x.request with
  | .resolve module name expected =>
    errors [(x.resolver.resolve x.compartment module name expected).value.1]
  | .link m => errors (x.resolver.outcomes x.compartment m)
  | .linkModule m => x.resolver.failuresAfterSetUp x.compartment m
  | _ => []

/-- The error a set-up is refused with in an exchange. -/
def setUpRefusal? (x : Exchange Host) : Option SetupError := x.setUpAnswer?.bind refusal?

/-- The errors an exchange logs are its refusal and its failures. -/
theorem errorEvents_events (x : Exchange Host) :
    x.events.filter Event.isError =
      (x.setUpRefusal?.map (SetupError.report x.resolver.userName)).toList ++
        x.failures.map (ResolveError.report x.resolver.userName) := by
  cases x with
  | mk r c request =>
    cases request with
    | setUser user => rfl
    | setUp m => exact (errorEvents_setUp r c m).trans (List.append_nil _).symm
    | resolve module name expected => exact errorEvents_resolve r c module name expected
    | link m => exact errorEvents_link r c m
    | linkModule m => exact errorEvents_linkModule r c m
    | finish => exact quiet_finish r
    | cleanUp => exact quiet_cleanUp r

/-- A set-up logs one error if it is refused other than as a repetition, and else none. -/
theorem countP_isError_setUp {m : ModuleInfo} (hm : x.request = .setUp m) :
    x.events.countP Event.isError ≤ 1 ∧
      (x.events.countP Event.isError = 1 ↔ ∃ error, error ≠ .alreadySetUp ∧
        (x.resolver.setUp x.compartment m).value.1 = .error (.error error)) := by
  rcases x with ⟨r, c, request⟩
  obtain rfl : request = .setUp m := hm
  have hevents := errorEvents_setUp r c m
  rw [List.countP_eq_length_filter]
  change List.length (r.setUp c m).errorEvents ≤ 1 ∧
    (List.length (r.setUp c m).errorEvents = 1 ↔ _)
  simp only [← refusal?_eq_some_iff, hevents]
  cases refusal? (r.setUp c m).value.1 <;> simp

/-- The errors an exchange logs for imports are its failures. -/
theorem importEvents_events (x : Exchange Host) :
    x.events.filter Event.ofImport =
      x.failures.map (ResolveError.report x.resolver.userName) := by
  have hall : x.events.filter Event.ofImport =
      (x.events.filter Event.isError).filter Event.ofImport := by
    rw [List.filter_filter]
    refine List.filter_congr fun event _ => ?_
    simp only [Event.ofImport, Bool.and_comm event.isError, Bool.and_assoc, Bool.and_self]
  have hrefusal : ∀ event ∈ (x.setUpRefusal?.map (SetupError.report x.resolver.userName)).toList,
      ¬ event.ofImport = true := fun event hevent => by
    obtain ⟨error, -, rfl⟩ := Option.map_eq_some_iff.mp (Option.mem_toList.mp hevent)
    simp [SetupError.ofImport_report]
  have hfailures : ∀ event ∈ x.failures.map (ResolveError.report x.resolver.userName),
      event.ofImport = true := fun event hevent => by
    obtain ⟨error, -, rfl⟩ := List.mem_map.mp hevent
    exact ResolveError.ofImport_report _ error
  rw [hall, errorEvents_events, List.filter_append, List.filter_eq_nil_iff.mpr hrefusal,
    List.filter_eq_self.mpr hfailures, List.nil_append]

/-- What is held after an exchange is the last of what was held before it and its failures. -/
theorem diagnostics_isSuffix (hsound : x.resolver.SoundIn x.compartment)
    {past : List ResolveError} (h : x.resolver.diagnostics <:+ past) :
    x.resolverAfter.diagnostics <:+ past ++ x.failures := by
  rcases x with ⟨r, c, request⟩
  have hkept : r.diagnostics <:+ past ++ [] := by rwa [List.append_nil]
  cases request with
  | setUser user => exact hkept
  | setUp m =>
    rw [resolverAfter, serve, (setUp_outcome r c m).diagnostics_eq]
    exact hkept
  | resolve module name expected =>
    have hafter := diagnostics_after r c ⟨module, name, expected⟩
    obtain ⟨earlier, hearlier⟩ : (if r.BoundTo c ∧ (r.phase = .done ∨ r.phase = .failed) then []
        else r.diagnostics) <:+ past := by
      split
      · exact List.nil_suffix
      · exact h
    refine ⟨earlier, ?_⟩
    rw [← hearlier, List.append_assoc]
    exact congrArg (earlier ++ ·) hafter
  | link m =>
    rw [resolverAfter, serve, diagnostics_link hsound]
    exact List.suffix_append _ _
  | linkModule m =>
    have houtcome := setUp_outcome r c m
    change _ <:+ past ++ r.failuresAfterSetUp c m
    rw [resolverAfter, serve, linkModule_snd, failuresAfterSetUp]
    generalize (r.setUp c m).value = done at houtcome ⊢
    rcases done with ⟨failure | m', r', c'⟩
    · dsimp only
      rw [houtcome.diagnostics_eq]
      exact hkept
    · dsimp only
      rw [diagnostics_link houtcome.soundIn]
      exact List.suffix_append _ _
  | finish =>
    rw [resolverAfter, serve, diagnostics_finish]
    exact hkept
  | cleanUp =>
    rw [resolverAfter, serve, cleanUp_value]
    split
    · exact hkept
    · exact List.nil_suffix

end Exchange

/-! ## Runs -/

/-- The user that was recorded last. -/
def lastUser (past : List (Exchange Host)) : Option String :=
  past.foldl (fun user x => match x.request with | .setUser new => some new | _ => user) none

namespace World

variable [LawfulHostFunctions Host] {actions : List (Action Host)} {i : Nat} {r : Resolver Host}

theorem user_eq_lastUser (hr : (run {} actions).resolvers[i]? = some r) :
    r.user = lastUser (journal {} i actions) := by
  refine journal_induction (P := fun r past => r.user = lastUser past) (fun _ _ => rfl) ?_ hr
  intro x past _ hpast
  rw [Exchange.resolverAfter, Resolver.user_serve, lastUser, List.foldl_append, ← lastUser,
    ← hpast]
  rfl

theorem diagnostics_isSuffix (hr : (run {} actions).resolvers[i]? = some r) :
    r.diagnostics <:+ (journal {} i actions).flatMap Exchange.failures := by
  refine journal_induction
    (P := fun r past => r.diagnostics <:+ past.flatMap Exchange.failures)
    (fun _ _ => List.nil_suffix) ?_ hr
  intro x past hsound hpast
  rw [List.flatMap_append, List.flatMap_singleton]
  exact Exchange.diagnostics_isSuffix hsound hpast

/-- Whatever a resolver is asked, the errors it logs for imports are the failures that were
returned, one for each in their order, with the user it had then.  Beside them it logs the
refusals of set-ups, one for each that is not a repetition.  The user is the one recorded
last, and the diagnostics are the last of the failures so far. -/
theorem failures_reported_once (hr : (run {} actions).resolvers[i]? = some r) :
    ((journal {} i actions).flatMap Exchange.events).filter Event.ofImport =
        (journal {} i actions).flatMap (fun x =>
          x.failures.map (ResolveError.report x.resolver.userName)) ∧
      (∀ x ∈ journal {} i actions, x.events.filter Event.isError =
        (x.setUpRefusal?.map (SetupError.report x.resolver.userName)).toList ++
          x.failures.map (ResolveError.report x.resolver.userName)) ∧
      (∀ x ∈ journal {} i actions, ∀ m, x.request = .setUp m →
        x.events.countP Event.isError ≤ 1 ∧
          (x.events.countP Event.isError = 1 ↔ ∃ error, error ≠ .alreadySetUp ∧
            (x.resolver.setUp x.compartment m).value.1 = .error (.error error))) ∧
      r.user = lastUser (journal {} i actions) ∧
      r.diagnostics <:+ (journal {} i actions).flatMap Exchange.failures := by
  refine ⟨?_, fun x _ => x.errorEvents_events, fun x _ m hm => ?_, user_eq_lastUser hr,
    diagnostics_isSuffix hr⟩
  · rw [List.filter_flatMap]
    exact congrArg (List.flatMap · _) (funext Exchange.importEvents_events)
  · exact x.countP_isError_setUp hm

/-- A resolver that is asked for a memory before set-up, and once more in a link after a user
was recorded, when the module it was set up for is a standard one. -/
def complaints : List (Action HostOp) :=
  [.openCompartment, .employ {} (.default {}),
    .request 0 0 (.resolve sampleMemory.module sampleMemory.name sampleMemory.type),
    .request 0 0 (.setUser "tenant"),
    .request 0 0 (.setUp { memories := [{ minimum := 1, maximum := none, shared := false }] }),
    .request 0 0 (.link { imports := [sampleMemory] })]

/-- Each of its two failures is logged once, the second one with the user, and the second is
held. -/
theorem failures_reported_once_complaints :
    ((journal {} 0 complaints).flatMap Exchange.events).filter Event.ofImport =
        [ResolveError.report "" (.notReady "env" "memory"),
          ResolveError.report "tenant" (.missingImport "env" "memory" sampleMemory.type)] ∧
      ∃ r, (run {} complaints).resolvers[0]? = some r ∧ r.user = some "tenant" ∧
        r.diagnostics <:+ [.notReady "env" "memory",
          .missingImport "env" "memory" sampleMemory.type] := by
  have hsome : (run {} complaints).resolvers[0]?.isSome = true := by
    decide +kernel
  obtain ⟨r, hr⟩ := Option.isSome_iff_exists.mp hsome
  obtain ⟨hlogged, -, -, huser, hheld⟩ := failures_reported_once hr
  have hreports : ((journal {} 0 complaints).flatMap fun x =>
      x.failures.map (ResolveError.report x.resolver.userName)) =
        [ResolveError.report "" (.notReady "env" "memory"),
          ResolveError.report "tenant" (.missingImport "env" "memory" sampleMemory.type)] := by
    decide +kernel
  have hfailures : (journal {} 0 complaints).flatMap Exchange.failures =
      [.notReady "env" "memory", .missingImport "env" "memory" sampleMemory.type] := by
    decide +kernel
  have hlast : lastUser (journal {} 0 complaints) = some "tenant" := by
    decide +kernel
  exact ⟨hlogged.trans hreports, r, hr, huser.trans hlast, hfailures ▸ hheld⟩

end World
end HostLink
