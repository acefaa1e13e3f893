/-
What the answer to an import depends on.

A lookup does two things.  It finds the answer, which is a matter of the environment and
the compartment alone, and it opens a pass, which is a matter of the phase and happens
before anything of the import is looked at; `begun` is the resolver after that.  A pass
that is open stays as it is, so in the middle of a pass only the diagnostics change.

In a sound environment no lookup crashes: every instance is there, and every export of it
has a type.
-/
import HostLink.Link.Resolver
import HostLink.Proofs.Link.Environment

namespace HostLink
namespace Resolver

variable {Host : Type}

variable {r r' : Resolver Host} {c : Compartment Host} {entry : Import} {entries : List Import}
  {entity : Entity} {module name : String} {expected : ExternType} {environment : Environment}

/-! ## Sources -/

/-- Whether two resolvers look imports up in the same environment. -/
structure SameSource (r r' : Resolver Host) : Prop where
  environment : r'.environment = r.environment
  compartment : r'.compartment = r.compartment

namespace SameSource

theorem refl (r : Resolver Host) : r.SameSource r := ⟨rfl, rfl⟩

theorem trans {r₁ r₂ r₃ : Resolver Host} (h₁ : r₁.SameSource r₂) (h₂ : r₂.SameSource r₃) :
    r₁.SameSource r₃ :=
  ⟨h₂.environment.trans h₁.environment, h₂.compartment.trans h₁.compartment⟩

end SameSource

/-! ## Lookups -/

/-- The resolver a lookup in a compartment leaves. -/
def begun (r : Resolver Host) (c : Compartment Host) : Resolver Host :=
  match r.environment, r.compartment with
  | some _, some id => if id = c.id then r.beginPass else r
  | _, _ => r

theorem lookup_snd : (r.lookup c module name expected).2 = r.begun c := by
  cases henvironment : r.environment with
  | none => simp [lookup, begun, henvironment]
  | some environment =>
    cases hcompartment : r.compartment with
    | none => simp [lookup, begun, henvironment, hcompartment]
    | some id => by_cases hid : id = c.id <;> simp [lookup, begun, henvironment, hcompartment, hid]

/-- Lookups in the same environment have the same answer. -/
theorem lookup_fst_congr (h : r.SameSource r') :
    (r'.lookup c module name expected).1 = (r.lookup c module name expected).1 := by
  cases henvironment : r.environment with
  | none => simp [lookup, h.environment, henvironment]
  | some environment =>
    cases hcompartment : r.compartment with
    | none => simp [lookup, h.environment, h.compartment, henvironment, hcompartment]
    | some id =>
      by_cases hid : id = c.id <;>
        simp [lookup, h.environment, h.compartment, henvironment, hcompartment, hid]

theorem sameSource_beginPass (r : Resolver Host) : r.SameSource r.beginPass := by
  unfold beginPass
  split <;> exact ⟨rfl, rfl⟩

theorem sameSource_begun (r : Resolver Host) (c : Compartment Host) : r.SameSource (r.begun c) := by
  unfold begun
  split
  · split
    · exact sameSource_beginPass r
    · exact .refl r
  · exact .refl r

/-- What a resolver keeps of an answer. -/
def note (r : Resolver Host) (answer : Except (Failure ResolveError) Entity) : Resolver Host :=
  { r with diagnostics := r.diagnostics ++ ((failure? answer).bind Failure.error?).toList }

theorem resolve_value : (r.resolve c module name expected).value =
    ((r.lookup c module name expected).1,
      (r.begun c).note (r.lookup c module name expected).1) := by
  rw [← lookup_snd]
  rcases hlookup : r.lookup c module name expected with ⟨(error | _) | entity, r'⟩ <;>
    simp [resolve, hlookup, note, failure?, Failure.error?]

theorem sameSource_resolve (r : Resolver Host) (c : Compartment Host) (module name : String)
    (expected : ExternType) : r.SameSource (r.resolve c module name expected).value.2 := by
  rw [resolve_value]
  exact (sameSource_begun r c).trans ⟨rfl, rfl⟩

/-- The answer to an import that is resolved alone. -/
def answer (r : Resolver Host) (c : Compartment Host) (entry : Import) :
    Except (Failure ResolveError) Entity :=
  (r.resolve c entry.module entry.name entry.type).value.1

/-- The failures among some answers. -/
def errors (answers : List (Except (Failure ResolveError) Entity)) : List ResolveError :=
  answers.filterMap fun answer => (failure? answer).bind Failure.error?

/-- The failures among the answers to some imports. -/
def failures (r : Resolver Host) (c : Compartment Host) (entries : List Import) :
    List ResolveError :=
  errors (entries.map (r.answer c))

theorem errors_cons (first : Except (Failure ResolveError) Entity)
    (rest : List (Except (Failure ResolveError) Entity)) :
    errors (first :: rest) = ((failure? first).bind Failure.error?).toList ++ errors rest := by
  rw [errors, List.filterMap_cons]
  split
  · rename_i h
    rw [h]
    rfl
  · rename_i failure h
    rw [h]
    rfl

theorem answer_congr (h : r.SameSource r') (c : Compartment Host) : r'.answer c = r.answer c := by
  funext entry
  simp only [answer, resolve_value, lookup_fst_congr h]

theorem failures_congr (h : r.SameSource r') (c : Compartment Host) (entries : List Import) :
    r'.failures c entries = r.failures c entries := by
  simp only [failures, answer_congr h]

/-! ## Passes -/

/-- Whether a lookup leaves the diagnostics, as it does in the middle of a pass. -/
def Collecting (r : Resolver Host) (c : Compartment Host) : Prop :=
    (r.begun c).diagnostics = r.diagnostics

/-- A resolver without diagnostics has none to forget. -/
theorem collecting_of_nil (h : r.diagnostics = []) : r.Collecting c := by
  unfold Collecting begun
  split
  · split
    · unfold beginPass
      split <;> simp [h]
    · rfl
  · rfl

/-- Once a pass is open, another import does not open it again. -/
theorem beginPass_note_beginPass (r : Resolver Host)
    (answer : Except (Failure ResolveError) Entity) :
    (r.beginPass.note answer).beginPass = r.beginPass.note answer := by
  cases hphase : r.phase <;> simp [beginPass, note, hphase]

/-- After a lookup the pass is open. -/
theorem collecting_note_begun (answer : Except (Failure ResolveError) Entity) :
    ((r.begun c).note answer).Collecting c := by
  have hsource : r.SameSource ((r.begun c).note answer) :=
    (sameSource_begun r c).trans ⟨rfl, rfl⟩
  unfold Collecting
  rw [begun, hsource.environment, hsource.compartment]
  cases henvironment : r.environment with
  | none => rfl
  | some environment =>
    cases hcompartment : r.compartment with
    | none => rfl
    | some id =>
      by_cases hid : id = c.id
      · simp only [if_pos hid, begun, henvironment, hcompartment, beginPass_note_beginPass]
      · simp only [if_neg hid]

/-- What a resolver is after an import. -/
def after (r : Resolver Host) (c : Compartment Host) (entry : Import) : Resolver Host :=
  (r.resolve c entry.module entry.name entry.type).value.2

/-- One import of a pass: the source stays, the failure is appended, and the pass is open. -/
theorem after_spec (entry : Import) (h : r.Collecting c) :
    r.SameSource (r.after c entry) ∧
      (r.after c entry).diagnostics =
        r.diagnostics ++ ((failure? (r.answer c entry)).bind Failure.error?).toList ∧
      (r.after c entry).Collecting c := by
  refine ⟨sameSource_resolve r c _ _ _, ?_, ?_⟩
  · rw [after, answer, resolve_value]
    simp only [note]
    rw [h]
  · rw [after, resolve_value]
    exact collecting_note_begun _

theorem resolveAll_cons {first : Import} {rest : List Import}
    (h : r.answer c first ≠ .error .crash) :
    (resolveAll c r (first :: rest)).value =
      (r.answer c first :: (resolveAll c (r.after c first) rest).value.1,
        (resolveAll c (r.after c first) rest).value.2) := by
  simp only [resolveAll, Logged.value_bind, after]
  rw [answer] at h ⊢
  split
  · rename_i hcrash
    exact absurd hcrash h
  · rfl

/-- A pass gives the answers that the imports have alone, and appends their failures to
the diagnostics. -/
theorem resolveAll_spec (hsafe : ∀ entry ∈ entries, r.answer c entry ≠ .error .crash)
    (hcollecting : r.Collecting c) :
    (resolveAll c r entries).value.1 = entries.map (r.answer c) ∧
      (resolveAll c r entries).value.2.diagnostics = r.diagnostics ++ r.failures c entries := by
  induction entries generalizing r with
  | nil => exact ⟨rfl, by simp [resolveAll, failures, errors]⟩
  | cons first rest ih =>
    obtain ⟨hsource, hdiagnostics, hopen⟩ := after_spec first hcollecting
    have hrest : ∀ entry ∈ rest, (r.after c first).answer c entry ≠ .error .crash := by
      rw [answer_congr hsource]
      exact fun entry hentry => hsafe entry (List.mem_cons_of_mem _ hentry)
    obtain ⟨hanswers, hfailures⟩ := ih hrest hopen
    rw [answer_congr hsource] at hanswers
    rw [failures_congr hsource, hdiagnostics, List.append_assoc, failures, ← errors_cons,
      ← List.map_cons] at hfailures
    rw [resolveAll_cons (hsafe first List.mem_cons_self)]
    exact ⟨by rw [hanswers, List.map_cons], hfailures⟩

theorem sameSource_resolveAll (r : Resolver Host) (c : Compartment Host) (entries : List Import) :
    r.SameSource (resolveAll c r entries).value.2 := by
  induction entries generalizing r with
  | nil => exact .refl r
  | cons first rest ih =>
    have hafter : r.SameSource (r.after c first) := sameSource_resolve r c _ _ _
    simp only [resolveAll, Logged.value_bind]
    split
    · exact hafter
    · exact hafter.trans (ih _)

theorem sameSource_finish (r : Resolver Host) : r.SameSource r.finish.value := by
  unfold finish
  split
  · exact ⟨rfl, rfl⟩
  · exact .refl r

theorem diagnostics_finish (r : Resolver Host) : r.finish.value.diagnostics = r.diagnostics := by
  unfold finish
  split <;> rfl

theorem sameSource_link (r : Resolver Host) (c : Compartment Host) (m : ModuleInfo) :
    r.SameSource (r.link c m).value.2 := by
  have hstart : r.SameSource { r with diagnostics := [] } := ⟨rfl, rfl⟩
  have hall := hstart.trans (sameSource_resolveAll _ c m.imports)
  simp only [link, Logged.value_bind]
  split
  · exact hall
  · exact hall.trans (sameSource_finish _)

/-! ## Answers in sound environments -/

/-- How a search for an import in an environment ends: at the name of the module, at the name
of the export, at its type, or with the object. -/
inductive Finds (environment : Environment) (c : Compartment Host) (module name : String)
    (expected : ExternType) : Except (Failure ResolveError) Entity → Prop
  | unrecognized (hmodule : environment.namespaces.get? module = none) :
      Finds environment c module name expected (.error (.error (.unrecognizedModule module name)))
  | missing {handle : Handle .instance_} {found : Instance}
      (hmodule : environment.namespaces.get? module = some handle)
      (hinstance : c.get? handle = some found) (hname : found.exports.get? name = none) :
      Finds environment c module name expected
        (.error (.error (.missingImport module name expected)))
  | mismatch {handle : Handle .instance_} {found : Instance} {entity : Entity} {actual : ExternType}
      (hmodule : environment.namespaces.get? module = some handle)
      (hinstance : c.get? handle = some found) (hname : found.exports.get? name = some entity)
      (hactual : entity.type? c = some actual)
      (hsatisfies : entity.satisfies? c expected = some false) :
      Finds environment c module name expected
        (.error (.error (.typeMismatch module name expected actual)))
  | found {handle : Handle .instance_} {found : Instance} {entity : Entity}
      (hmodule : environment.namespaces.get? module = some handle)
      (hinstance : c.get? handle = some found) (hname : found.exports.get? name = some entity)
      (hsatisfies : entity.satisfies? c expected = some true) :
      Finds environment c module name expected (.ok entity)

/-- A search that does not crash ends in one of the four ways. -/
theorem finds_of_find {result : Except (Failure ResolveError) Entity}
    (h : find environment c module name expected = result) (hsafe : result ≠ .error .crash) :
    Finds environment c module name expected result := by
  subst h
  unfold find at hsafe ⊢
  rw [Environment.bind_instance?] at hsafe ⊢
  cases hmodule : environment.namespaces.get? module with
  | none => exact .unrecognized hmodule
  | some handle =>
    cases hinstance : c.get? handle with
    | none => simp [hmodule, hinstance] at hsafe
    | some found =>
      cases hname : (found : Instance).exports.get? name with
      | none => simpa only [hinstance, hname] using .missing hmodule hinstance hname
      | some entity =>
        cases hactual : entity.type? c with
        | none => simp [hmodule, hinstance, hname, hactual] at hsafe
        | some actual =>
          cases hsatisfies : entity.satisfies? c expected with
          | none => simp [hmodule, hinstance, hname, hactual, hsatisfies] at hsafe
          | some satisfied =>
            simp only [hinstance, hname, hactual, hsatisfies]
            cases satisfied with
            | true => exact .found hmodule hinstance hname hsatisfies
            | false => exact .mismatch hmodule hinstance hname hactual hsatisfies

theorem find_eq_of_finds {result : Except (Failure ResolveError) Entity}
    (h : Finds environment c module name expected result) :
    find environment c module name expected = result := by
  unfold find
  rw [Environment.bind_instance?]
  cases h with
  | unrecognized hmodule => simp only [hmodule]
  | missing hmodule hinstance hname => simp only [hmodule, hinstance, hname]
  | mismatch hmodule hinstance hname hactual hsatisfies =>
    simp [hmodule, hinstance, hname, hactual, hsatisfies]
  | @found _ _ entity hmodule hinstance hname hsatisfies =>
    obtain ⟨actual, hactual⟩ :=
      Option.isSome_iff_exists.mp (Entity.live_of_satisfies? hsatisfies)
    simp [hmodule, hinstance, hname, hactual, hsatisfies]

/-- An object that is found has the type the import was declared with. -/
theorem satisfies?_of_find (h : find environment c module name expected = .ok entity) :
    entity.satisfies? c expected = some true := by
  cases finds_of_find h nofun with
  | found _ _ _ hsatisfies => exact hsatisfies

/-- An answer is found in the environment if that is of the compartment, and is one of two
failures if not. -/
theorem resolve_cases (r : Resolver Host) (c : Compartment Host) (module name : String)
    (expected : ExternType) :
    (∃ environment, r.environment = some environment ∧ r.compartment = some c.id ∧
      (r.resolve c module name expected).value.1 = find environment c module name expected) ∨
    (r.resolve c module name expected).value.1 =
      .error (.error (.foreignCompartment module name)) ∨
    (r.resolve c module name expected).value.1 = .error (.error (.notReady module name)) := by
  rw [resolve_value]
  simp only [lookup]
  split
  · rename_i environment id henvironment hcompartment
    by_cases hid : id = c.id
    · exact .inl ⟨environment, henvironment, hid ▸ hcompartment, by rw [if_pos hid]⟩
    · exact .inr (.inl (by rw [if_neg hid]))
  · exact .inr (.inr rfl)

theorem satisfies?_of_resolve (h : (r.resolve c module name expected).value.1 = .ok entity) :
    entity.satisfies? c expected = some true := by
  rcases resolve_cases r c module name expected with
    ⟨environment, -, -, hfind⟩ | hforeign | hnotReady
  · exact satisfies?_of_find (hfind.symm.trans h)
  · cases hforeign.symm.trans h
  · cases hnotReady.symm.trans h

/-- A failure names the import it was found for. -/
theorem import_of_find {error : ResolveError}
    (h : find environment c module name expected = .error (.error error)) :
    error.import_ = (module, name) := by
  cases finds_of_find h nofun <;> rfl

theorem import_of_resolve {error : ResolveError}
    (h : (r.resolve c module name expected).value.1 = .error (.error error)) :
    error.import_ = (module, name) := by
  rcases resolve_cases r c module name expected with
    ⟨environment, -, -, hfind⟩ | hforeign | hnotReady
  · exact import_of_find (hfind.symm.trans h)
  · cases hforeign.symm.trans h
    rfl
  · cases hnotReady.symm.trans h
    rfl

/-- In a sound environment every instance is there, and every export has a type. -/
theorem find_ne_crash (hsound : environment.Sound c) (module name : String)
    (expected : ExternType) : find environment c module name expected ≠ .error .crash := by
  unfold find
  rw [Environment.bind_instance?]
  cases hmodule : environment.namespaces.get? module with
  | none => exact nofun
  | some handle =>
    obtain ⟨found, hfound, hlive⟩ := hsound.namespace hmodule
    simp only [hfound]
    cases hentity : found.exports.get? name with
    | none => exact nofun
    | some entity =>
      have hentityLive : entity.Live c := hlive _ (Named.mem_of_get? hentity)
      obtain ⟨actual, hactual⟩ := Option.isSome_iff_exists.mp hentityLive
      obtain ⟨satisfied, hsatisfied⟩ :=
        Option.isSome_iff_exists.mp (hentityLive.satisfies?_isSome expected)
      simp only [hactual, hsatisfied]
      cases satisfied <;> exact nofun

/-- Whether the environment of a resolver is sound in a compartment, if it is of that
compartment at all. -/
def SoundIn (r : Resolver Host) (c : Compartment Host) : Prop :=
  ∀ environment, r.environment = some environment → r.compartment = some c.id →
    environment.Sound c

theorem SoundIn.sameSource (h : r.SoundIn c) (hsource : r.SameSource r') : r'.SoundIn c :=
  fun environment henvironment hcompartment =>
    h environment (hsource.environment ▸ henvironment) (hsource.compartment ▸ hcompartment)

theorem answer_ne_crash (h : r.SoundIn c) (entry : Import) : r.answer c entry ≠ .error .crash := by
  rw [answer]
  rcases resolve_cases r c entry.module entry.name entry.type with
    ⟨environment, henvironment, hcompartment, hfind⟩ | hforeign | hnotReady
  · rw [hfind]
    exact find_ne_crash (h environment henvironment hcompartment) _ _ _
  · rw [hforeign]
    exact nofun
  · rw [hnotReady]
    exact nofun

end Resolver
end HostLink
