/-
Resolving the imports of one module.

A resolver is set up once, for one module in one compartment; it then answers import
by import, alone or in a pass over all of them, and finally lets go of what it made.
Failures do not end a pass.  Each is logged and kept among the diagnostics.
-/
import HostLink.Failure
import HostLink.Link.Environment
import HostLink.Link.ResolveError

namespace HostLink

variable {Host : Type}

inductive Phase where
  | uninitialized
  | toolchainSet
  | resolving
  | done
  | failed
  | cleanedUp
  deriving DecidableEq, Repr

def Phase.describe : Phase → String
  | uninitialized => "Uninitialized"
  | toolchainSet => "ToolchainSet"
  | resolving => "Resolving"
  | done => "Done"
  | failed => "Failed"
  | cleanedUp => "CleanedUp"

inductive LinkError where
  | setup (error : SetupError)
  | imports (failures : List ResolveError)
  deriving DecidableEq, Repr

def LinkError.message : LinkError → String
  | setup error => error.message
  | imports failures =>
    toString failures.length ++ " import(s) could not be resolved: " ++
      "; ".intercalate (failures.map ResolveError.message)

/-- A module with its limits and the objects of its imports, in their order. -/
structure LinkedModule where
  module : ModuleInfo
  imports : List Entity
  deriving DecidableEq, Repr

structure Resolver (Host : Type) where
  config : Config
  provider : Provider Host
  user : Option String := none
  toolchain : Option Toolchain := none
  compartment : Option CompartmentId := none
  environment : Option Environment := none
  phase : Phase := .uninitialized
  diagnostics : List ResolveError := []
  deriving Repr

namespace Resolver

/-- A resolver that draws on a provider.  It is up to the caller that the provider
and the configuration agree on the layout. -/
def withProvider (config : Config) (provider : Provider Host) : Resolver Host :=
  { config := config, provider := provider }

def withConfig (config : Config) : Resolver HostOp :=
  withProvider config (Provider.default config.legacy.layout)

def default : Resolver HostOp := withConfig {}

def setUser (r : Resolver Host) (user : String) : Resolver Host := { r with user := some user }

/-- The user log lines carry. -/
def userName (r : Resolver Host) : String := r.user.getD ""

def isLegacy (r : Resolver Host) : Bool := r.toolchain == some .legacy

/-! ## Set-up -/

/-- Makes the environment of a configured module and writes the variables of the C
runtime into its memory. -/
def makeEnvironment (r : Resolver Host) (c : Compartment Host) (toolchain : Toolchain)
    (m : ModuleInfo) : Logged (Except (Failure SetupError) Environment × Compartment Host) := do
  match ← Environment.instantiate c toolchain m r.provider with
  | .error error => pure (.error (.error error), c)
  | .ok (c, environment) =>
    match environment.memory? with
    | none => pure (.ok environment, c)
    | some handle =>
      match c.get? handle with
      | none => pure (.error .crash, c)
      | some (memory : Memory) => do
        match ← GlobalsBlock.patch memory r.config.legacy.layout with
        | .error error => pure (.error (.error (.memory error)), c)
        | .ok (memory, _) => pure (.ok environment, c.set handle memory)

/-- Set-up without the checks and the log line around it. -/
def trySetUp (r : Resolver Host) (c : Compartment Host) (m : ModuleInfo) :
    Logged (Except (Failure SetupError) ModuleInfo × Resolver Host × Compartment Host) := do
  match r.config.validate with
  | .error error => pure (.error (.error (.config error)), r, c)
  | .ok () =>
    let toolchain := Toolchain.detect m
    let r := { r with toolchain := some toolchain }
    Logged.emit .debug "detected toolchain" [("toolchain", toolchain.name)]
    match m.configure toolchain r.config with
    | .error section_ => pure (.error (.error (.missingSection section_)), r, c)
    | .ok m =>
      let (result, c) ← r.makeEnvironment c toolchain m
      match result with
      | .error failure => pure (.error failure, r, c)
      | .ok environment =>
        let r := { r with compartment := some c.id, environment := some environment,
                          phase := .toolchainSet }
        pure (.ok m, r, c)

/-- Prepares the resolver for a module, and the compartment with what the module may
import.  Gives the module with the limits of its toolchain, which is the one to be
linked.  It can be done once, whether it succeeds or not. -/
def setUp (r : Resolver Host) (c : Compartment Host) (m : ModuleInfo) :
    Logged (Except (Failure SetupError) ModuleInfo × Resolver Host × Compartment Host) := do
  if r.phase = .uninitialized then
    let (result, r, c) ← r.trySetUp c m
    match result with
    | .error (.error error) =>
      Logged.emit .error "resolver set-up failed"
        [("user", r.userName), ("error", error.message)]
      pure (result, { r with phase := .failed }, c)
    | _ => pure (result, r, c)
  else pure (.error (.error .alreadySetUp), r, c)

/-! ## Resolving -/

def find (environment : Environment) (c : Compartment Host) (module name : String)
    (expected : ExternType) : Except (Failure ResolveError) Entity :=
  match (Origin.forImport? environment.toolchain module).bind environment.instance? with
  | none => .error (.error (.unrecognizedModule module name))
  | some handle =>
    match c.get? handle with
    | none => .error .crash
    | some (found : Instance) =>
      match found.exports.get? name with
      | none => .error (.error (.missingImport module name expected))
      | some entity =>
        match entity.type? c, entity.satisfies? c expected with
        | some actual, some satisfied =>
          if satisfied then .ok entity
          else .error (.error (.typeMismatch module name expected actual))
        | _, _ => .error .crash

/-- The resolver once a pass is under way: the first import after a pass forgets the
failures of that pass. -/
def beginPass (r : Resolver Host) : Resolver Host :=
  match r.phase with
  | .toolchainSet => { r with phase := .resolving }
  | .done | .failed => { r with phase := .resolving, diagnostics := [] }
  | _ => r

/-- The answer to an import, and the resolver before a failure is noted. -/
def lookup (r : Resolver Host) (c : Compartment Host) (module name : String)
    (expected : ExternType) :
    Except (Failure ResolveError) Entity × Resolver Host :=
  match r.environment, r.compartment with
  | some environment, some id =>
    if id = c.id then (find environment c module name expected, r.beginPass)
    else (.error (.error (.foreignCompartment module name)), r)
  | _, _ => (.error (.error (.notReady module name)), r)

def resolve (r : Resolver Host) (c : Compartment Host) (module name : String)
    (expected : ExternType) :
    Logged (Except (Failure ResolveError) Entity × Resolver Host) := do
  let (result, r) := r.lookup c module name expected
  match result with
  | .error (.error error) =>
    Logged.emit .error error.message [("user", r.userName)]
    pure (result, { r with diagnostics := r.diagnostics ++ [error] })
  | _ => pure (result, r)

def describeToolchain (toolchain : Option Toolchain) : String :=
  match toolchain with
  | none => "None"
  | some toolchain => "Some(" ++ toolchain.describe ++ ")"

/-- Closes the pass that is under way. -/
def finish (r : Resolver Host) : Logged (Resolver Host) := do
  if r.phase = .toolchainSet ∨ r.phase = .resolving then
    Logged.emit .info "linking finished"
      [("user", r.userName), ("toolchain", describeToolchain r.toolchain),
       ("failures", toString r.diagnostics.length)]
    pure { r with phase := if r.diagnostics.isEmpty then .done else .failed }
  else pure r

/-! ## Linking -/

/-- The answers to some imports in their order, up to a crash if there is one. -/
def resolveAll (c : Compartment Host) : Resolver Host → List Import →
    Logged (List (Except (Failure ResolveError) Entity) × Resolver Host)
  | r, [] => pure ([], r)
  | r, first :: rest => do
    let (answer, r) ← r.resolve c first.module first.name first.type
    match answer with
    | .error .crash => pure ([answer], r)
    | _ => do
      let (answers, r) ← resolveAll c r rest
      pure (answer :: answers, r)

/-- The failure an answer stands for. -/
def failure? : Except (Failure ResolveError) Entity → Option (Failure ResolveError)
  | .ok _ => none
  | .error failure => some failure

/-- What the answers to all imports come to. -/
def summary (answers : List (Except (Failure ResolveError) Entity)) :
    Except (Failure LinkError) (List Entity) :=
  let failures := answers.filterMap failure?
  if failures.any Failure.isCrash then .error .crash
  else if failures.isEmpty then .ok (answers.filterMap Except.toOption)
  else .error (.error (.imports (failures.filterMap Failure.error?)))

/-- Resolves every import of a module, which should be the one set-up gave. -/
def link (r : Resolver Host) (c : Compartment Host) (m : ModuleInfo) :
    Logged (Except (Failure LinkError) (List Entity) × Resolver Host) := do
  let (answers, r) ← resolveAll c { r with diagnostics := [] } m.imports
  match summary answers with
  | .error .crash => pure (.error .crash, r)
  | result => do
    let r ← r.finish
    pure (result, r)

def linkModule (r : Resolver Host) (c : Compartment Host) (m : ModuleInfo) :
    Logged (Except (Failure LinkError) LinkedModule × Resolver Host × Compartment Host) := do
  let (result, r, c) ← r.setUp c m
  match result with
  | .error .crash => pure (.error .crash, r, c)
  | .error (.error error) => pure (.error (.error (.setup error)), r, c)
  | .ok m =>
    let (result, r) ← r.link c m
    pure (result.map fun imports => { module := m, imports := imports }, r, c)

/-- Forgets what set-up made; the objects stay in their compartment. -/
def cleanUp (r : Resolver Host) : Logged (Resolver Host) := do
  if r.phase = .uninitialized then pure r
  else
    if r.environment.isSome then
      Logged.emit .debug "released intrinsic environment" [("user", r.userName)]
    pure { r with environment := none, compartment := none, diagnostics := [],
                  phase := .cleanedUp }

/-! ## Diagnostics -/

/-- The user, the toolchain and the phase of a resolver that holds neither an
environment nor diagnostics. -/
def describe (r : Resolver Host) : String :=
  "RootResolver \x7b user: " ++ (r.user.elim "None" fun user => "Some(" ++ quoted user ++ ")") ++
    ", toolchain: " ++ describeToolchain r.toolchain ++ ", state: " ++ r.phase.describe ++
    ", environment: None, diagnostics: [], .. \x7d"

end Resolver
end HostLink
