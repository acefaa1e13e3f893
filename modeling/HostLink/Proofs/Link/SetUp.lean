/-
What set-up does.

`Outcome` lists the ways set-up can end, with the resolver and the compartment it
leaves: it was done before, the configuration is not valid, the module lacks what its
toolchain needs, or an environment was made.  Every further check on the way passes,
because the limits that are checked are those that were validated and put on the
module, so there is no other way, and nothing is in the compartment before the last
check.
-/
import HostLink.Link.Resolver
import HostLink.Proofs.Host.Layout
import HostLink.Proofs.Link.Environment

namespace HostLink
namespace Resolver

variable {Host : Type}

variable {r : Resolver Host} {c c' : Compartment Host} {m m' : ModuleInfo} {toolchain : Toolchain}
  {environment : Environment} {config : Config} {provider : Provider Host}

/-! ## Making an environment -/

/-- How the environment of a configured module is made. -/
inductive Prepared (config : Config) (provider : Provider Host) (m : ModuleInfo)
    (c : Compartment Host) :
    Toolchain → Environment → Compartment Host → Prop
  | standard {c' : Compartment Host} {env : Handle .instance_} {found : Instance}
      (hmade : provider.standardEnv.Instantiates [] c c' env found) :
      Prepared config provider m c .standard (.standard env) c'
  | legacy {firstMemory : MemoryType} {moreMemories : List MemoryType} {firstTable : TableType}
      {moreTables : List TableType} {patched : Memory} {c' : Compartment Host}
      {env operators mathematics : Handle .instance_} {memory : Handle .memory}
      {table : Handle .table} (hmemories : m.importedMemories = firstMemory :: moreMemories)
      (htables : m.importedTables = firstTable :: moreTables)
      (hmade : Environment.Made provider (.zeroed (config.legacy.memoryType firstMemory))
        (.vacant (config.legacy.tableType firstTable)) c c' env operators mathematics memory table)
      (hpatched : (GlobalsBlock.initial config.legacy.layout).writeTo
        (.zeroed (config.legacy.memoryType firstMemory)) config.legacy.layout.globalsAddress =
          .ok patched) :
      Prepared config provider m c .legacy (.legacy env operators mathematics memory table)
        (c'.set memory patched)

namespace Prepared

/-- The objects that were there before are untouched. -/
theorem kept (h : Prepared config provider m c toolchain environment c') : c.Extends c' := by
  cases h with
  | standard hmade => exact hmade.kept
  | legacy _ _ hmade _ => exact hmade.kept.set_added (Nat.le_of_eq hmade.memoryAdded.symm) _

theorem sound (h : Prepared config provider m c toolchain environment c') :
    environment.Sound c' := by
  cases h with
  | standard hmade =>
    refine ⟨fun {origin handle} horigin => ?_⟩
    cases origin <;> cases horigin
    exact (hmade.serves (List.forall_mem_nil _)).exporting
  | legacy _ _ hmade hpatched =>
    refine ⟨fun {origin handle} horigin => ?_⟩
    have hevolves := Compartment.evolves_set hmade.memoryFound
      (GlobalsBlock.evolves_writeTo hpatched)
    cases origin <;> cases horigin
    · exact hmade.serves_env.exporting.evolves hevolves
    · exact hmade.serves_operators.exporting.evolves hevolves
    · exact hmade.serves_mathematics.exporting.evolves hevolves

end Prepared

/-- The environment of a configured module is always made. -/
theorem makeEnvironment_spec (hvalid : r.config.Valid)
    (hm : m.configure toolchain r.config = .ok m') :
    ∃ environment c', (r.makeEnvironment c toolchain m').value = (.ok environment, c') ∧
      Prepared r.config r.provider m c toolchain environment c' := by
  cases toolchain with
  | standard =>
    obtain ⟨c', env, found, henv, hmade⟩ := Environment.instantiate_standard c m' r.provider
    refine ⟨.standard env, c', ?_, .standard hmade⟩
    simp only [makeEnvironment, Logged.value_bind, henv, Environment.memory?, Logged.value_pure]
  | legacy =>
    obtain ⟨firstMemory, moreMemories, firstTable, moreTables, hmemories, htables, hobjects⟩ :=
      Environment.legacyObjects_eq_ok hvalid hm
    obtain ⟨c₁, env, operators, mathematics, memory, table, henv, hmade⟩ :=
      Environment.instantiate_legacy hobjects c r.provider
    have hfits : r.config.legacy.layout.globalsAddress.toNat + GlobalsBlock.size ≤
        (Memory.zeroed (r.config.legacy.memoryType firstMemory)).length := hvalid.globalsInside
    obtain ⟨patched, hpatched, hpatch⟩ := GlobalsBlock.patch_spec hfits
    refine ⟨_, c₁.set memory patched, ?_, .legacy hmemories htables hmade hpatched⟩
    simp only [makeEnvironment, Logged.value_bind, henv, Environment.memory?, Logged.value_pure,
      hmade.memoryFound, hpatch]

/-! ## Outcomes -/

/-- How set-up ends: its answer, the resolver and the compartment. -/
inductive Outcome (r : Resolver Host) (c : Compartment Host) (m : ModuleInfo) :
    Except (Failure SetupError) ModuleInfo → Resolver Host → Compartment Host → Prop
  | started (hphase : r.phase ≠ .uninitialized) :
      Outcome r c m (.error (.error .alreadySetUp)) r c
  | invalid {error : ConfigError} (hphase : r.phase = .uninitialized)
      (hvalidate : r.config.validate = .error error) :
      Outcome r c m (.error (.error (.config error))) { r with phase := .failed } c
  | incomplete {section_ : RequiredSection} (hphase : r.phase = .uninitialized)
      (hvalid : r.config.Valid)
      (hconfigure : m.configure (.detect m) r.config = .error section_) :
      Outcome r c m (.error (.error (.missingSection section_)))
        { r with toolchain := some (.detect m), phase := .failed } c
  | ready {m' : ModuleInfo} {environment : Environment} {c' : Compartment Host}
      (hphase : r.phase = .uninitialized) (hvalid : r.config.Valid)
      (hconfigure : m.configure (.detect m) r.config = .ok m')
      (hprepared : Prepared r.config r.provider m c (.detect m) environment c') :
      Outcome r c m (.ok m')
        { r with toolchain := some (.detect m), compartment := some c'.id,
                 environment := some environment, phase := .toolchainSet } c'

/-- Set-up ends in one of these ways. -/
theorem setUp_outcome (r : Resolver Host) (c : Compartment Host) (m : ModuleInfo) :
    Outcome r c m (r.setUp c m).value.1 (r.setUp c m).value.2.1 (r.setUp c m).value.2.2 := by
  by_cases hphase : r.phase = .uninitialized
  · simp only [setUp, if_pos hphase, Logged.value_bind]
    cases hvalidate : r.config.validate with
    | error error =>
      simp only [trySetUp, hvalidate, Logged.value_pure, Logged.value_bind]
      exact .invalid hphase hvalidate
    | ok u =>
      have hvalid : r.config.Valid := Config.validate_eq_ok_iff.mp hvalidate
      cases hconfigure : m.configure (.detect m) r.config with
      | error section_ =>
        simp only [trySetUp, hvalidate, hconfigure, Logged.value_pure, Logged.value_bind]
        exact .incomplete hphase hvalid hconfigure
      | ok m' =>
        obtain ⟨environment, c', hmake, hprepared⟩ :=
          makeEnvironment_spec (r := { r with toolchain := some (.detect m) }) (c := c) hvalid
            hconfigure
        simp only [trySetUp, hvalidate, hconfigure, Logged.value_pure, Logged.value_bind, hmake]
        exact .ready hphase hvalid hconfigure hprepared
  · simp only [setUp, if_neg hphase, Logged.value_pure]
    exact .started hphase

/-! ## All or nothing -/

/-- The answer of set-up as the limits alone decide it. -/
def plannedAnswer (r : Resolver Host) (m : ModuleInfo) : Except SetupError ModuleInfo :=
  if r.phase = .uninitialized then
    match r.config.validate with
    | .error error => .error (.config error)
    | .ok () => (m.configure (.detect m) r.config).mapError .missingSection
  else .error .alreadySetUp

theorem Outcome.answer_eq {answer : Except (Failure SetupError) ModuleInfo} {r' : Resolver Host}
    (h : Outcome r c m answer r' c') : answer = (r.plannedAnswer m).mapError .error := by
  cases h with
  | started hphase => simp only [plannedAnswer, if_neg hphase, Except.mapError]
  | invalid hphase hvalidate =>
    simp only [plannedAnswer, if_pos hphase, hvalidate, Except.mapError]
  | incomplete hphase hvalid hconfigure | ready hphase hvalid hconfigure _ =>
    have hvalidate := Config.validate_eq_ok_iff.mpr hvalid
    simp only [plannedAnswer, if_pos hphase, hvalidate, hconfigure, Except.mapError]

/-- The configuration is blamed exactly if it is not valid. -/
theorem Outcome.config_iff {answer : Except (Failure SetupError) ModuleInfo} {r' : Resolver Host}
    {error : ConfigError} (h : Outcome r c m answer r' c') :
    answer = .error (.error (.config error)) ↔
      r.phase = .uninitialized ∧ r.config.validate = .error error := by
  cases h with
  | started hphase => simp [hphase]
  | invalid hphase hvalidate => simp [hphase, hvalidate]
  | incomplete hphase hvalid _ | ready hphase hvalid _ _ =>
    simp [Config.validate_eq_ok_iff.mpr hvalid]

theorem Outcome.unchanged {failure : Failure SetupError} {r' : Resolver Host}
    (h : Outcome r c m (.error failure) r' c') : c' = c := by
  cases h with
  | started | invalid | incomplete => rfl

/-- Set-up gives the answer the limits decide, which blames the configuration exactly if
it is not valid and never the memory or the table.  A set-up that fails leaves the
compartment as it was. -/
theorem setUp_all_or_nothing (r : Resolver Host) (c : Compartment Host) (m : ModuleInfo) :
    (r.setUp c m).value.1 = (r.plannedAnswer m).mapError .error ∧
      (∀ error, (r.setUp c m).value.1 = .error (.error (.config error)) ↔
        r.phase = .uninitialized ∧ r.config.validate = .error error) ∧
      (∀ error, (r.setUp c m).value.1 ≠ .error (.error (.memory error))) ∧
      (∀ error, (r.setUp c m).value.1 ≠ .error (.error (.table error))) ∧
      ∀ failure, (r.setUp c m).value.1 = .error failure → (r.setUp c m).value.2.2 = c := by
  have houtcome := setUp_outcome r c m
  refine ⟨houtcome.answer_eq, fun error => houtcome.config_iff, fun error => ?_, fun error => ?_,
    fun failure hfailure => ?_⟩
  · intro h
    rw [h] at houtcome
    cases houtcome
  · intro h
    rw [h] at houtcome
    cases houtcome
  · rw [hfailure] at houtcome
    exact houtcome.unchanged

end Resolver
end HostLink
