/-
What a resolver answers, case by case.

There are six answers, and which one it is, is told by the first of five questions that is
answered with no: whether there is an environment, whether the compartment is its own, whether
the environment has an instance for the name of the module, whether that exports the name, and
whether the export satisfies the declared type.  `Decides` has a case for each.

The questions can be asked one after the other because nothing on the way is missing.  The
environment of a reachable resolver comes with the number of its compartment, and in that
compartment, whatever has become of it, the instances are there and their exports have types.
In any other compartment no handle is followed at all.
-/
import HostLink.Proofs.Link.Linking
import HostLink.Proofs.Link.Message
import HostLink.Proofs.World.LifeCycle

namespace HostLink
namespace Resolver

variable {Host : Type}

variable {r : Resolver Host} {c : Compartment Host} {module name : String} {expected : ExternType}
  {environment : Environment} {result : Except (Failure ResolveError) Entity}

/-! ## Decisions -/

/-- The answer to an import: there is no environment, or it is of another compartment, or it is
searched. -/
inductive Decides (r : Resolver Host) (c : Compartment Host) (module name : String)
    (expected : ExternType) :
    Except (Failure ResolveError) Entity → Prop
  | notReady (hnone : r.environment = none) :
      Decides r c module name expected (.error (.error (.notReady module name)))
  | foreign {environment : Environment} {id : CompartmentId}
      (henvironment : r.environment = some environment) (hcompartment : r.compartment = some id)
      (hforeign : id ≠ c.id) :
      Decides r c module name expected (.error (.error (.foreignCompartment module name)))
  | searched {environment : Environment} {result : Except (Failure ResolveError) Entity}
      (henvironment : r.environment = some environment) (hown : r.compartment = some c.id)
      (hfinds : Finds environment c module name expected result) :
      Decides r c module name expected result

/-- The cases are all there are. -/
theorem decides_resolve (horderly : r.Orderly) (hsound : r.SoundIn c) (module name : String)
    (expected : ExternType) :
    r.Decides c module name expected (r.resolve c module name expected).value.1 := by
  rw [resolve_value, lookup]
  cases henvironment : r.environment with
  | none => exact .notReady henvironment
  | some environment =>
    have hheld : r.compartment.isSome := horderly.held.mp (by rw [henvironment]; rfl)
    obtain ⟨id, hcompartment⟩ := Option.isSome_iff_exists.mp hheld
    rw [hcompartment]
    by_cases hid : id = c.id
    · subst hid
      simp only [if_true]
      have hsafe :=
        find_ne_crash (hsound environment henvironment hcompartment) module name expected
      exact .searched henvironment hcompartment (finds_of_find rfl hsafe)
    · simp only [if_neg hid]
      exact .foreign henvironment hcompartment hid

/-- The cases exclude each other. -/
theorem resolve_eq_of_decides (h : r.Decides c module name expected result) :
    (r.resolve c module name expected).value.1 = result := by
  rw [resolve_value, lookup]
  cases h with
  | notReady hnone => simp only [hnone]
  | foreign henvironment hcompartment hforeign =>
    simp only [henvironment, hcompartment, if_neg hforeign]
  | searched henvironment hown hfinds =>
    simp only [henvironment, hown, if_true]
    exact find_eq_of_finds hfinds

theorem Decides.ne_crash (h : r.Decides c module name expected result) :
    result ≠ .error .crash := by
  cases h with
  | notReady | foreign => exact nofun
  | searched _ _ hfinds => cases hfinds <;> exact nofun

/-- A type that is reported is the wrong one, whatever the size of the object. -/
theorem Decides.satisfies_eq_false {module' name' : String} {declared actual : ExternType}
    (h : r.Decides c module name expected
      (.error (.error (.typeMismatch module' name' declared actual)))) :
    declared = expected ∧ actual.satisfies expected none = false :=
  satisfies_eq_false_of_resolve (resolve_eq_of_decides h)

end Resolver

namespace World

variable [LawfulHostFunctions Host] {actions : List (Action Host)} {i j : Nat}
  {r : Resolver Host} {c : Compartment Host}

/-- Every request for an import is decided.  The resolver and the compartment are any of a
world that can be reached, so the compartment is the one the resolver was set up in or another
one, and objects may have been added to it and have grown since.  The names of the modules are
those of the toolchain of the environment.  No decision is a crash, every failure is about
the import that was asked for, and a type that is reported does not satisfy the declared one,
even without a size. -/
theorem resolve_decides (hr : (run {} actions).resolvers[i]? = some r)
    (hc : (run {} actions).compartments[j]? = some c) (module name : String)
    (expected : ExternType) :
    (∀ result, (r.resolve c module name expected).value.1 = result ↔
        r.Decides c module name expected result) ∧
      (∀ environment, r.environment = some environment →
        r.toolchain = some environment.toolchain ∧
          environment.namespaces.names = environment.toolchain.served) ∧
      (r.resolve c module name expected).value.1 ≠ .error .crash ∧
      (∀ error, (r.resolve c module name expected).value.1 = .error (.error error) →
        error.import_ = (module, name)) ∧
      ∀ module' name' declared actual, (r.resolve c module name expected).value.1 =
          .error (.error (.typeMismatch module' name' declared actual)) →
        declared = expected ∧ actual.satisfies expected none = false := by
  have horderly : r.Orderly := orderly hr
  have hsound : r.SoundIn c := Sound.soundIn (Reachable.sound ⟨actions, rfl⟩)
    (List.mem_of_getElem? hr) (List.mem_of_getElem? hc)
  have hdecides := Resolver.decides_resolve horderly hsound module name expected
  refine ⟨fun result => ⟨?_, Resolver.resolve_eq_of_decides⟩, ?_, hdecides.ne_crash,
    fun error herror => Resolver.import_of_resolve herror, ?_⟩
  · rintro rfl
    exact hdecides
  · intro environment henvironment
    exact ⟨horderly.toolchain henvironment, environment.names_namespaces⟩
  · intro module' name' declared actual hmismatch
    rw [hmismatch] at hdecides
    exact hdecides.satisfies_eq_false

/-- The sample with its memory grown by a page, and another compartment. -/
def grownSample : List (Action HostOp) :=
  [.openCompartment, .employ {} (.default {}),
    .request 0 0 (.setUp { imports := [sampleMemory, sampleTable] }),
    .operate 0 (.grow ⟨⟨0⟩, 0⟩ 1), .openCompartment]

/-- The declared minimum is more than the memory has got, and the report has the size it has
grown to.  In the other compartment nothing is looked up. -/
theorem resolve_decides_grown : ∃ r c other,
    (run {} grownSample).resolvers[0]? = some r ∧
      (run {} grownSample).compartments[0]? = some c ∧
      (run {} grownSample).compartments[1]? = some other ∧
      r.Decides c "env" "memory" (.memory ⟨20000, none, false⟩)
        (.error (.error (.typeMismatch "env" "memory" (.memory ⟨20000, none, false⟩)
          (.memory ⟨16385, some 33554432, false⟩)))) ∧
      r.Decides other "env" "memory" (.memory ⟨20000, none, false⟩)
        (.error (.error (.foreignCompartment "env" "memory"))) := by
  obtain ⟨r, hr⟩ : ∃ r, (run {} grownSample).resolvers[0]? = some r :=
    Option.isSome_iff_exists.mp (by decide +kernel)
  obtain ⟨c, hc⟩ : ∃ c, (run {} grownSample).compartments[0]? = some c :=
    Option.isSome_iff_exists.mp (by decide +kernel)
  obtain ⟨other, hother⟩ : ∃ other, (run {} grownSample).compartments[1]? = some other :=
    Option.isSome_iff_exists.mp (by decide +kernel)
  have hanswers : ((run {} grownSample).resolvers[0]?).map (fun r =>
      (run {} grownSample).compartments.map fun c =>
        (r.resolve c "env" "memory" (.memory ⟨20000, none, false⟩)).value.1) =
      some [.error (.error (.typeMismatch "env" "memory" (.memory ⟨20000, none, false⟩)
          (.memory ⟨16385, some 33554432, false⟩))),
        .error (.error (.foreignCompartment "env" "memory"))] := by
    decide +kernel
  rw [hr, Option.map_some, Option.some.injEq] at hanswers
  have hown := congrArg (·[0]?) hanswers
  have hforeign := congrArg (·[1]?) hanswers
  simp only [List.getElem?_map, hc, hother, Option.map_some] at hown hforeign
  exact ⟨r, c, other, hr, hc, hother,
    ((resolve_decides hr hc _ _ _).1 _).mp (Option.some.inj hown),
    ((resolve_decides hr hother _ _ _).1 _).mp (Option.some.inj hforeign)⟩

end World
end HostLink
