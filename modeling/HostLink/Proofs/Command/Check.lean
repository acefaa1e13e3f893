/-
What a check reports.

A check sets a fresh resolver up for the module it has read, and links the module that gives.
Its report is what the answers of the imports come to: `checkReport_eq`.  The user takes part
in neither, since a resolver looks nothing up in it; only what is logged carries its name.

The report has a text for each import that fails, in the order of the imports, and the number
of these texts in the reason it gives.  The texts are printed without regard to what they are
made of.  They are as many lines as there are failures exactly if the path of the file and the
names of the imports that fail have no line breaks, and the names are up to the module.
-/
import HostLink.Proofs.Command.Lines
import HostLink.Proofs.Link.Phases
import HostLink.Toml.Tools
import HostLink.Wasm.Tools

namespace HostLink

variable {r : Resolver HostOp} {c : Compartment HostOp} {m m' : ModuleInfo} {entry : Import}
  {environment : Environment} {module name : String} {expected : ExternType}

/-! ## Names of imports -/

namespace Import

/-- The two names an import is asked for by. -/
def names (entry : Import) : String × String := (entry.module, entry.name)

end Import

namespace ModuleInfo

theorem names_editFirstImport {edit : ExternType → Option ExternType}
    {imports imports' : List Import} (h : editFirstImport edit imports = some imports') :
    imports'.map Import.names = imports.map Import.names := by
  obtain ⟨before, entry, after, type, rfl, -, -, rfl⟩ := editFirstImport_eq_some_iff.mp h
  simp [Import.names]

/-- Limits change no names. -/
theorem names_configure {toolchain : Toolchain} {config : Config}
    (h : m.configure toolchain config = .ok m') :
    m'.imports.map Import.names = m.imports.map Import.names := by
  cases toolchain with
  | standard =>
    simp only [configure] at h
    split at h
    · cases h
    · obtain rfl := Except.ok.inj h
      rfl
  | legacy =>
    simp only [configure] at h
    split at h
    · cases h
    · rename_i withMemory hmemory
      split at h
      · cases h
      · rename_i withTable htable
        obtain rfl := Except.ok.inj h
        obtain ⟨imports, himports, rfl⟩ := Option.map_eq_some_iff.mp hmemory
        obtain ⟨imports', himports', rfl⟩ := Option.map_eq_some_iff.mp htable
        exact (names_editFirstImport himports').trans (names_editFirstImport himports)

end ModuleInfo

namespace Resolver

theorem import_of_answer {error : ResolveError} (h : r.answer c entry = .error (.error error)) :
    error.import_ = entry.names :=
  import_of_resolve h

/-- The imports that fail, in their order. -/
def failing (r : Resolver HostOp) (c : Compartment HostOp) (entries : List Import) : List Import :=
  entries.filter fun entry => !(r.answer c entry).isOk

/-- The failures are those of the imports that fail, one for each. -/
theorem import_failures (hsound : r.SoundIn c) (entries : List Import) :
    (r.failures c entries).map ResolveError.import_ = (r.failing c entries).map Import.names := by
  induction entries with
  | nil => rfl
  | cons first rest ih =>
    rw [failures, failing] at ih
    rw [failures, failing, List.map_cons, errors_cons, List.map_append, ih]
    rcases hanswer : r.answer c first with (error | _) | entity
    · have hnames := import_of_answer hanswer
      simp [failure?, Failure.error?, Except.isOk, Except.toBool, hanswer, hnames]
    · exact absurd hanswer (answer_ne_crash hsound first)
    · simp [failure?, Except.isOk, Except.toBool, hanswer]

theorem length_failures (hsound : r.SoundIn c) (entries : List Import) :
    (r.failures c entries).length = (r.failing c entries).length := by
  have hlength := congrArg List.length (import_failures hsound entries)
  rwa [List.length_map, List.length_map] at hlength

theorem failures_eq_nil_iff (hsound : r.SoundIn c) {entries : List Import} :
    r.failures c entries = [] ↔ ∀ entry ∈ entries, ∃ entity, r.answer c entry = .ok entity := by
  rw [← List.length_eq_zero_iff, length_failures hsound, List.length_eq_zero_iff, failing,
    List.filter_eq_nil_iff]
  refine forall₂_congr fun entry _ => ?_
  cases r.answer c entry <;> simp [Except.isOk, Except.toBool]

/-! ## Users -/

theorem trySetUp_setUser (r : Resolver HostOp) (user : String) (c : Compartment HostOp)
    (m : ModuleInfo) :
    ((r.setUser user).trySetUp c m).value =
      ((r.trySetUp c m).value.1, (r.trySetUp c m).value.2.1.setUser user,
        (r.trySetUp c m).value.2.2) := by
  cases hvalidate : r.config.validate with
  | error error => simp only [trySetUp, setUser, hvalidate, Logged.value_pure]
  | ok u =>
    cases hconfigure : m.configure (.detect m) r.config with
    | error section_ =>
      simp only [trySetUp, setUser, hvalidate, hconfigure, Logged.value_bind, Logged.value_pure]
    | ok m' =>
      -- An environment is made of the configuration and the provider.
      obtain ⟨made, hmade⟩ : ∃ made, (makeEnvironment { r with toolchain := some (.detect m) } c
          (.detect m) m').value = made := ⟨_, rfl⟩
      have hmade' : (makeEnvironment { r with user := some user, toolchain := some (.detect m) } c
          (.detect m) m').value = made := hmade
      rcases made with ⟨failure | environment, c'⟩ <;>
        simp only [trySetUp, setUser, hvalidate, hconfigure, hmade, hmade', Logged.value_bind,
          Logged.value_pure]

/-- A set-up goes the same way for whatever user. -/
theorem setUp_setUser (r : Resolver HostOp) (user : String) (c : Compartment HostOp)
    (m : ModuleInfo) :
    ((r.setUser user).setUp c m).value =
      ((r.setUp c m).value.1, (r.setUp c m).value.2.1.setUser user,
        (r.setUp c m).value.2.2) := by
  by_cases hphase : r.phase = .uninitialized
  · have hphase' : (r.setUser user).phase = .uninitialized := hphase
    simp only [setUp, if_pos hphase, if_pos hphase', Logged.value_bind, trySetUp_setUser]
    generalize (r.trySetUp c m).value = tried
    rcases tried with ⟨(error | _) | m', r', c'⟩ <;> rfl
  · have hphase' : (r.setUser user).phase ≠ .uninitialized := hphase
    simp only [setUp, if_neg hphase, if_neg hphase', Logged.value_pure]

theorem toolchain_link (r : Resolver HostOp) (c : Compartment HostOp) (m : ModuleInfo) :
    (r.link c m).value.2.toolchain = r.toolchain := by
  have hall := (proceeds_resolveAll { r with diagnostics := [] } c m.imports).toolchain
  simp only [link, Logged.value_bind]
  split
  · exact hall
  · refine Eq.trans ?_ hall
    unfold finish
    split <;> rfl

theorem Outcome.toolchain_eq {r' : Resolver HostOp} {c' : Compartment HostOp}
    (h : Outcome r c m (.ok m') r' c') : r'.toolchain = some (.detect m) := by
  cases h
  rfl

theorem Outcome.configure_eq {r' : Resolver HostOp} {c' : Compartment HostOp}
    (h : Outcome r c m (.ok m') r' c') :
    r.config.Valid ∧ m.configure (.detect m) r.config = .ok m' := by
  cases h with
  | ready _ hvalid hconfigure _ => exact ⟨hvalid, hconfigure⟩

end Resolver

/-- What a command leaves but for what it logs. -/
def Outcome.unlogged (outcome : Outcome) : Outcome := { outcome with events := [] }

/-! ## Reports -/

namespace Command

open Resolver

variable {path : String} {config : Config} {user : Option String}

/-- The resolver a check works with. -/
def checker (config : Config) (user : Option String) : Resolver HostOp :=
  user.elim (withConfig config) (withConfig config).setUser

/-- The set-up of a check without a user. -/
def prepared (config : Config) (m : ModuleInfo) :
    Except (Failure SetupError) ModuleInfo × Resolver HostOp × Compartment HostOp :=
  ((withConfig config).setUp (.empty ⟨0⟩) m).value

theorem outcome_of_prepared (h : prepared config m = (.ok m', r, c)) :
    Resolver.Outcome (withConfig config) (.empty ⟨0⟩) m (.ok m') r c := by
  have houtcome := setUp_outcome (withConfig config) (.empty ⟨0⟩) m
  rw [prepared] at h
  rwa [h] at houtcome

theorem setUp_checker (config : Config) (user : Option String) (m : ModuleInfo) :
    ((checker config user).setUp (.empty ⟨0⟩) m).value =
      ((prepared config m).1, user.elim (prepared config m).2.1 (prepared config m).2.1.setUser,
        (prepared config m).2.2) := by
  cases user with
  | none => rfl
  | some user => exact setUp_setUser _ user _ m

/-- What a check prints for an import that fails. -/
def failureText (path : String) (failure : ResolveError) : String :=
  path ++ ": " ++ failure.message

/-- How many of the imports of a module failed. -/
def tally (failed declared : Nat) (toolchain : Toolchain) : String :=
  toString failed ++ " of " ++ toString declared ++ " import(s) could not be resolved" ++
    (" (" ++ toolchain.name ++ ")")

/-- What becomes of a set-up in a report. -/
def report (path : String) (m : ModuleInfo) :
    Except (Failure SetupError) ModuleInfo × Resolver HostOp × Compartment HostOp → Report
  | (.ok m', r, c) =>
    let failures := r.failures c m'.imports
    if failures = [] then
      ([path ++ ": " ++ toString m.imports.length ++ " import(s) resolved" ++
         (" (" ++ (Toolchain.detect m).name ++ ")")], .ok ())
    else
      (failures.map (failureText path),
       .error (.error [tally failures.length m.imports.length (.detect m)]))
  | (.error (.error error), _) => ([], .error (.error (setupReasons error)))
  | (.error .crash, _) => ([], .error .crash)

/-- A report is what set-up and the answers of the imports come to, whoever the user is. -/
theorem checkReport_eq (path : String) (config : Config) (user : Option String)
    (m : ModuleInfo) :
    (checkReport path config user m).value = report path m (prepared config m) := by
  have hchecker := setUp_checker config user m
  rw [checker] at hchecker
  simp only [checkReport, linkModule, Logged.value_bind, hchecker]
  rcases hprepared : prepared config m with ⟨(error | _) | m', r, c⟩
  · rfl
  · rfl
  · have houtcome := outcome_of_prepared hprepared
    have hsource : r.SameSource (user.elim r r.setUser) := by
      cases user <;> exact ⟨rfl, rfl⟩
    have hsound : (user.elim r r.setUser).SoundIn c := houtcome.soundIn.sameSource hsource
    have htoolchain : (user.elim r r.setUser).toolchain = some (.detect m) := by
      cases user <;> exact houtcome.toolchain_eq
    have hlinked := (link_spec hsound m').1
    rw [answer_congr hsource] at hlinked
    have hafter := toolchain_link (user.elim r r.setUser) c m'
    rw [htoolchain] at hafter
    have hsafe := not_crash_of_mem houtcome.soundIn m'
    have hlength := congrArg List.length (ModuleInfo.names_configure houtcome.configure_eq.2)
    simp only [List.length_map] at hlength
    simp only [report]
    by_cases hnone : r.failures c m'.imports = []
    · rw [if_pos hnone]
      obtain ⟨entities, hentities⟩ := exists_of_errors_eq_nil hsafe hnone
      have hcount := congrArg List.length hentities
      simp only [List.length_map] at hcount
      rw [hentities, summary_map_ok] at hlinked
      simp only [Logged.value_bind, Logged.value_pure, hlinked, hafter, Except.map, ← hcount,
        hlength, Option.elim_some, String.append_assoc]
    · rw [if_neg hnone]
      rw [summary_eq_error hsafe hnone] at hlinked
      simp only [Logged.value_bind, Logged.value_pure, hlinked, hafter, Except.map]
      rfl

/-- A report is a success exactly if set-up succeeds and every import is found. -/
theorem report_isOk_iff : (report path m (prepared config m)).2.isOk ↔
    ∃ m' r c, prepared config m = (.ok m', r, c) ∧
      ∀ entry ∈ m'.imports, ∃ entity, r.answer c entry = .ok entity := by
  constructor
  · intro hok
    rcases hprepared : prepared config m with ⟨(error | _) | m', r, c⟩
    · rw [hprepared] at hok
      cases hok
    · rw [hprepared] at hok
      cases hok
    · have hsound := (outcome_of_prepared hprepared).soundIn
      refine ⟨m', r, c, rfl, (failures_eq_nil_iff hsound).mp ?_⟩
      by_contra hsome
      rw [hprepared, report, if_neg hsome] at hok
      cases hok
  · rintro ⟨m', r, c, hprepared, hfound⟩
    have hsound := (outcome_of_prepared hprepared).soundIn
    rw [hprepared, report, if_pos ((failures_eq_nil_iff hsound).mpr hfound)]
    rfl

/-- Whether the texts for some imports of a file are lines. -/
def LineSafe (path : String) (entries : List Import) : Prop :=
  OneLine path ∧ ∀ entry ∈ entries, OneLine entry.module ∧ OneLine entry.name

theorem oneLine_failureText {failure : ResolveError} :
    OneLine (failureText path failure) ↔
      OneLine path ∧ OneLine failure.import_.1 ∧ OneLine failure.import_.2 := by
  simp +decide only [failureText, oneLine_append, ResolveError.oneLine_message, and_true]

theorem lineSafe_iff (hsound : r.SoundIn c) {entries : List Import}
    (hfail : r.failing c entries ≠ []) :
    (∀ text ∈ (r.failures c entries).map (failureText path), OneLine text) ↔
      LineSafe path (r.failing c entries) := by
  have himports := import_failures hsound entries
  have hnames : (∀ text ∈ (r.failures c entries).map (failureText path), OneLine text) ↔
      ∀ names ∈ (r.failures c entries).map ResolveError.import_,
        OneLine path ∧ OneLine names.1 ∧ OneLine names.2 := by
    simp only [List.forall_mem_map, oneLine_failureText]
  rw [hnames, himports, List.forall_mem_map]
  obtain ⟨first, rest, hcons⟩ := List.exists_cons_of_ne_nil hfail
  constructor
  · intro h
    exact ⟨(h first (hcons ▸ List.mem_cons_self)).1, fun entry hentry => (h entry hentry).2⟩
  · intro h entry hentry
    exact ⟨h.1, h.2 entry hentry⟩

/-- No report is that of a crash. -/
theorem report_ne_crash : (report path m (prepared config m)).2 ≠ .error .crash := by
  have houtcome := setUp_outcome (withConfig config) (.empty ⟨0⟩) m
  rcases hprepared : prepared config m with ⟨(error | _) | m', r, c⟩
  · intro h
    cases h
  · rw [prepared] at hprepared
    rw [hprepared] at houtcome
    cases houtcome
  · rw [report]
    split
    · intro h
      cases h
    · intro h
      cases h

/-! ## Runs -/

/-- What a check sets out to do, in its complaints. -/
def linkTask (file : String) : String := "failed to link \x60" ++ file ++ "\x60"

section Run

variable {s : Surroundings} {file : String} {source : Option String}

theorem unlogged_conclude (task : String) (x : Logged Report) :
    (conclude task x).unlogged = conclude task (pure x.value) := by
  obtain ⟨⟨printed, result⟩, events⟩ := x
  rcases result with (reasons | _) | _ <;> rfl

/-- A check that gets as far as set-up concludes with its report. -/
theorem run_check_of_loaded (hconfig : loadConfig s source = .ok config)
    (hm : (loadModule s file).value = .ok m) (user : Option String) :
    (run s (.check file source user)).unlogged =
      conclude (linkTask file) (pure (report file m (prepared config m))) := by
  simp only [run, unlogged_conclude, onLoaded, hconfig, Logged.value_bind, hm, checkReport_eq]
  rfl

/-- A check that does not get there fails for a reason that is not up to the user. -/
theorem run_check_of_not_loaded
    (h : ∀ config m, ¬ (loadConfig s source = .ok config ∧ (loadModule s file).value = .ok m)) :
    ∃ reasons, ∀ user, (run s (.check file source user)).unlogged =
      conclude (linkTask file) (pure ([], .error (.error reasons))) := by
  cases hconfig : loadConfig s source with
  | error reasons =>
    refine ⟨reasons, fun user => ?_⟩
    simp only [run, unlogged_conclude, onLoaded, hconfig]
    rfl
  | ok config =>
    cases hm : (loadModule s file).value with
    | error reasons =>
      refine ⟨reasons, fun user => ?_⟩
      simp only [run, unlogged_conclude, onLoaded, hconfig, Logged.value_bind, hm]
      rfl
    | ok m => exact absurd ⟨hconfig, hm⟩ (h config m)

theorem status_conclude (task : String) {result : Except (Failure Reasons) Unit}
    (printed : List String) (hresult : result ≠ .error .crash) :
    (conclude task (pure (printed, result))).status = if result.isOk then 0 else 1 := by
  rcases result with (reasons | _) | _
  · rfl
  · exact absurd rfl hresult
  · rfl

/-- The status tells whether everything was read and the report is a success. -/
theorem status_check (s : Surroundings) (file : String) (source user : Option String) :
    (run s (.check file source user)).status = 0 ∧
        (∃ config m, loadConfig s source = .ok config ∧ (loadModule s file).value = .ok m ∧
          (report file m (prepared config m)).2.isOk) ∨
      (run s (.check file source user)).status = 1 ∧
        ∀ config m, loadConfig s source = .ok config → (loadModule s file).value = .ok m →
          ¬ (report file m (prepared config m)).2.isOk := by
  have hstatus : (run s (.check file source user)).status =
      (run s (.check file source user)).unlogged.status := rfl
  by_cases hloaded : ∃ config m, loadConfig s source = .ok config ∧
      (loadModule s file).value = .ok m
  · obtain ⟨config, m, hconfig, hm⟩ := hloaded
    rw [hstatus, run_check_of_loaded hconfig hm, status_conclude _ _ report_ne_crash]
    by_cases hok : (report file m (prepared config m)).2.isOk
    · exact .inl ⟨if_pos hok, config, m, hconfig, hm, hok⟩
    · refine .inr ⟨if_neg hok, fun config' m' hconfig' hm' => ?_⟩
      obtain rfl := Except.ok.inj (hconfig.symm.trans hconfig')
      obtain rfl := Except.ok.inj (hm.symm.trans hm')
      exact hok
  · obtain ⟨reasons, hreasons⟩ :=
      run_check_of_not_loaded fun config m hboth => hloaded ⟨config, m, hboth⟩
    refine .inr ⟨?_, fun config m hconfig hm _ => hloaded ⟨config, m, hconfig, hm⟩⟩
    rw [hstatus, hreasons user]
    rfl

/-- Of what a check leaves, only the log knows the user. -/
theorem run_check_congr (user other : Option String) :
    (run s (.check file source other)).unlogged = (run s (.check file source user)).unlogged := by
  by_cases hloaded : ∃ config m, loadConfig s source = .ok config ∧
      (loadModule s file).value = .ok m
  · obtain ⟨config, m, hconfig, hm⟩ := hloaded
    rw [run_check_of_loaded hconfig hm, run_check_of_loaded hconfig hm]
  · obtain ⟨reasons, hreasons⟩ :=
      run_check_of_not_loaded fun config m hboth => hloaded ⟨config, m, hboth⟩
    rw [hreasons, hreasons]

/-- What a check leaves when set-up succeeds and imports fail. -/
theorem run_check_of_failing {m' : ModuleInfo} (hconfig : loadConfig s source = .ok config)
    (hm : (loadModule s file).value = .ok m) (hprepared : prepared config m = (.ok m', r, c))
    (hfail : r.failing c m'.imports ≠ []) (user : Option String) :
    (run s (.check file source user)).unlogged =
      { status := 1
        output := lines ((r.failures c m'.imports).map (failureText file))
        complaints := lines ["error: " ++ linkTask file,
          "│   " ++ tally (r.failing c m'.imports).length m.imports.length (.detect m)] } := by
  have hsound := (outcome_of_prepared hprepared).soundIn
  have hlength := length_failures hsound m'.imports
  have hsome : r.failures c m'.imports ≠ [] := fun hnone => by
    rw [hnone] at hlength
    exact hfail (List.length_eq_zero_iff.mp hlength.symm)
  rw [run_check_of_loaded hconfig hm, hprepared, report, if_neg hsome, ← hlength]
  rfl

/-- A check succeeds exactly if the configuration can be read and is valid, the module can be
read, set-up succeeds and every import is found, and otherwise its status is one.  When imports
fail, it prints a text for each of them in the order of the imports, and complains with their
number and the number of all imports.  The texts are lines, and the lines are as many as the
imports that fail, exactly if the path and the names of these imports have no line breaks.
The user makes no difference but in what is logged. -/
theorem check_report (s : Surroundings) (file : String) (source user : Option String) :
    ((run s (.check file source user)).status = 0 ↔
        ∃ config m m' r c, loadConfig s source = .ok config ∧ config.Valid ∧
          (loadModule s file).value = .ok m ∧ prepared config m = (.ok m', r, c) ∧
          ∀ entry ∈ m'.imports, ∃ entity, r.answer c entry = .ok entity) ∧
      (run s (.check file source user)).status ≤ 1 ∧
      (∀ config m m' r c, loadConfig s source = .ok config →
        (loadModule s file).value = .ok m → prepared config m = (.ok m', r, c) →
          r.failing c m'.imports ≠ [] →
            m'.imports.map Import.names = m.imports.map Import.names ∧
            (r.failures c m'.imports).map ResolveError.import_ =
              (r.failing c m'.imports).map Import.names ∧
            (run s (.check file source user)).unlogged =
              { status := 1
                output := lines ((r.failures c m'.imports).map (failureText file))
                complaints := lines ["error: " ++ linkTask file, "│   " ++
                  tally (r.failing c m'.imports).length m.imports.length (.detect m)] } ∧
            (rows (run s (.check file source user)).output =
                (r.failures c m'.imports).map (failureText file) ↔
              LineSafe file (r.failing c m'.imports)) ∧
            ((rows (run s (.check file source user)).output).length =
                (r.failing c m'.imports).length ↔
              LineSafe file (r.failing c m'.imports))) ∧
      ∀ other, (run s (.check file source other)).unlogged =
        (run s (.check file source user)).unlogged := by
  refine ⟨?_, ?_, ?_, fun other => run_check_congr user other⟩
  · constructor
    · intro hzero
      rcases status_check s file source user with ⟨-, config, m, hconfig, hm, hok⟩ | ⟨hone, -⟩
      · obtain ⟨m', r, c, hprepared, hfound⟩ := report_isOk_iff.mp hok
        have hvalid := (outcome_of_prepared hprepared).configure_eq.1
        exact ⟨config, m, m', r, c, hconfig, hvalid, hm, hprepared, hfound⟩
      · rw [hzero] at hone
        cases hone
    · rintro ⟨config, m, m', r, c, hconfig, -, hm, hprepared, hfound⟩
      rcases status_check s file source user with ⟨hzero, -⟩ | ⟨-, hnot⟩
      · exact hzero
      · exact absurd (report_isOk_iff.mpr ⟨m', r, c, hprepared, hfound⟩) (hnot config m hconfig hm)
  · rcases status_check s file source user with ⟨hstatus, -⟩ | ⟨hstatus, -⟩
    · rw [hstatus]
      exact Nat.zero_le 1
    · exact Nat.le_of_eq hstatus
  · intro config m m' r c hconfig hm hprepared hfail
    have houtcome := outcome_of_prepared hprepared
    have hsound := houtcome.soundIn
    have hrun := run_check_of_failing hconfig hm hprepared hfail user
    have houtput : (run s (.check file source user)).output =
        lines ((r.failures c m'.imports).map (failureText file)) := congrArg Outcome.output hrun
    refine ⟨ModuleInfo.names_configure houtcome.configure_eq.2, import_failures hsound m'.imports,
      hrun, ?_, ?_⟩
    · rw [houtput, rows_lines_eq_iff, lineSafe_iff hsound hfail]
    · rw [houtput, ← lineSafe_iff hsound hfail, ← length_rows_lines_iff, List.length_map,
        length_failures hsound]

end Run

/-- A module that defines a memory and imports a function by a name with a line break. -/
def torn : Wasm.Bytes :=
  [0x00, 0x61, 0x73, 0x6d, 0x01, 0x00, 0x00, 0x00,
   0x01, 0x04, 0x01, 0x60, 0x00, 0x00,
   0x02, 0x0b, 0x01, 0x03, 0x65, 0x6e, 0x76, 0x03, 0x61, 0x0a, 0x62, 0x00, 0x00,
   0x05, 0x03, 0x01, 0x00, 0x01]

def tornModule : ModuleInfo :=
  { imports := [{ module := "env", name := "a\nb", type := .function ⟨[], []⟩ }]
    memories := [{ minimum := 1, maximum := none, shared := false }] }

/-- Surroundings in which every file holds that module. -/
def tornFiles : Surroundings :=
  { read := fun _ => .ok torn, frontend := Wasm.tools, format := Toml.tools }

/-- Its one failure is printed as other than one line. -/
theorem check_report_torn : ∃ m' r c,
    (loadModule tornFiles "torn.wasm").value = .ok tornModule ∧
      prepared {} tornModule = (.ok m', r, c) ∧ (r.failing c m'.imports).length = 1 ∧
      (rows (run tornFiles (.check "torn.wasm" none none)).output).length ≠ 1 := by
  have hm : (loadModule tornFiles "torn.wasm").value = .ok tornModule := by
    decide +kernel
  have hfailing : ((prepared {} tornModule).2.1.failing (prepared {} tornModule).2.2
      ((prepared {} tornModule).1.toOption.getD {}).imports) = tornModule.imports := by
    decide +kernel
  have hready : (prepared {} tornModule).1.isOk = true := by
    decide +kernel
  rcases hprepared : prepared {} tornModule with ⟨failure | m', r, c⟩
  · rw [hprepared] at hready
    cases hready
  · rw [hprepared] at hfailing
    have hone : r.failing c m'.imports = tornModule.imports := hfailing
    obtain ⟨-, -, hreport, -⟩ := check_report tornFiles "torn.wasm" none none
    obtain ⟨-, -, -, -, hcount⟩ :=
      hreport {} tornModule m' r c rfl hm hprepared (by rw [hone]; exact List.cons_ne_nil _ _)
    refine ⟨m', r, c, hm, rfl, by rw [hone]; rfl, fun hrows => ?_⟩
    have hsafe := hcount.mp (by rw [hrows, hone]; rfl)
    rw [hone] at hsafe
    exact absurd (hsafe.2 _ List.mem_cons_self).2 (by decide)

end Command
end HostLink
