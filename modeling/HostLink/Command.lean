/-
The command line.

A command is read from its arguments, and run in surroundings: a function that reads
files, and the tools that make sense of them.  What it prints and logs and its exit
status are its value, so nothing here does any input or output.
-/
import HostLink.Link.ConfigText
import HostLink.Link.Resolver
import HostLink.Wasm.Declaration

namespace HostLink

/-- What a command leaves. -/
structure Outcome where
  status : Nat
  /-- What it writes to standard output. -/
  output : String := ""
  /-- What it logs.  Standard error shows as much of this as the filter lets through. -/
  events : List Event := []
  /-- Its report of an error, on standard error behind what was logged. -/
  complaints : String := ""
  deriving DecidableEq, Repr

/-- What a command draws on. -/
structure Surroundings where
  read : ReadFile
  frontend : Wasm.Frontend
  format : Toml.Format

inductive Command where
  | version
  /-- Shows what a module declares and the limits it gets. -/
  | inspect (file : String) (config : Option String) (showConfig : Bool)
  /-- Links a module with the default collections. -/
  | check (file : String) (config user : Option String)
  deriving DecidableEq, Repr

namespace Command

/-! ## Arguments -/

/-- The arguments of a subcommand: at most one file, and each option at most once. -/
structure Arguments where
  file : Option String := none
  options : Named String := []
  flags : List String := []

/-- The options of a subcommand that take a value, and those that do not.  The values
of the former may be empty if they are not paths. -/
structure Accepted where
  options : List String
  flags : List String
  paths : List String

namespace Arguments

def addFile? (a : Arguments) (name : String) : Option Arguments :=
  if a.file.isSome || name.isEmpty then none else some { a with file := some name }

def addOption? (accepted : Accepted) (a : Arguments) (name value : String) : Option Arguments :=
  if a.options.contains name || (accepted.paths.contains name && value.isEmpty) then none
  else some { a with options := a.options.put name value }

def addFlag? (a : Arguments) (name : String) : Option Arguments :=
  if a.flags.contains name then none else some { a with flags := name :: a.flags }

/-- Whether an argument looks like an option.  A single dash does not. -/
def isOption (argument : String) : Bool := argument.startsWith "-" && argument != "-"

/-- The name of a long option, and the value written behind it. -/
def splitOption (argument : String) : String × Option String :=
  let cs := argument.toList.drop 2
  let name := String.ofList (cs.takeWhile (· != '='))
  match cs.dropWhile (· != '=') with
  | [] => (name, none)
  | _ :: value => (name, some (String.ofList value))

def read? (accepted : Accepted) : Arguments → List String → Option Arguments
  | a, [] => some a
  | a, "--" :: files => files.foldlM addFile? a
  | a, argument :: rest =>
    if !isOption argument then (a.addFile? argument).bind fun a => read? accepted a rest
    else if !argument.startsWith "--" then none
    else
      let (name, value) := splitOption argument
      if accepted.flags.contains name then
        if value.isSome then none else (a.addFlag? name).bind fun a => read? accepted a rest
      else if accepted.options.contains name then
        match value with
        | some value => (addOption? accepted a name value).bind fun a => read? accepted a rest
        | none =>
          match rest with
          | value :: rest =>
            if isOption value then none
            else (addOption? accepted a name value).bind fun a => read? accepted a rest
          | [] => none
      else none

end Arguments

def inspectAccepted : Accepted :=
  { options := ["config"], flags := ["show-config"], paths := ["config"] }

def checkAccepted : Accepted :=
  { options := ["config", "user"], flags := [], paths := ["config"] }

def read? : List String → Option Command
  | [] => none
  | first :: rest =>
    if first = "--version" ∨ first.startsWith "-V" then some version
    else if first = "inspect" then do
      let a ← Arguments.read? inspectAccepted {} rest
      let file ← a.file
      pure (.inspect file (a.options.get? "config") (a.flags.contains "show-config"))
    else if first = "check" then do
      let a ← Arguments.read? checkAccepted {} rest
      let file ← a.file
      pure (.check file (a.options.get? "config") (a.options.get? "user"))
    else none

/-! ## Loading -/

/-- What keeps a command from doing its job, and behind it the reasons for that. -/
abbrev Reasons := List String

/-- A configuration error, and the error it comes from. -/
def configReasons (error : ConfigError) : Reasons := error.message :: error.cause?.toList

def loadConfig (s : Surroundings) : Option String → Except Reasons Config
  | none => .ok {}
  | some path => (Config.ofPath s.read s.format path).mapError configReasons

def loadModule (s : Surroundings) (path : String) : Logged (Except Reasons ModuleInfo) :=
  match s.read path with
  | .error reason => pure (.error ["unable to read \x60" ++ path ++ "\x60", reason])
  | .ok bytes => do
    let loaded ← ModuleInfo.load s.frontend bytes
    pure (loaded.mapError fun error => [error.message])

/-! ## Reports -/

def lines (texts : List String) : String := String.join (texts.map (· ++ "\n"))

def importText (entry : Import) : String :=
  "\"" ++ entry.module ++ "\".\"" ++ entry.name ++ "\": " ++ entry.type.text

def exportText (entry : Export) : String := "\"" ++ entry.name ++ "\": " ++ entry.type.text

/-- Whether limits apply to things of a type. -/
def hasLimits : ExternType → Bool
  | .memory _ | .table _ => true
  | .function _ | .global _ => false

def limitLines (label : String) (m : ModuleInfo) : List String :=
  (m.memories.map fun type => label ++ " memory: " ++ type.text) ++
    (m.tables.map fun type => label ++ " table: " ++ type.text) ++
    (m.imports.filter fun entry => hasLimits entry.type).map fun entry =>
      label ++ " import " ++ importText entry

/-- The lines of some characters, without the breaks that end them. -/
def breakLines : List Char → List (List Char)
  | [] => []
  | '\n' :: rest => [] :: breakLines rest
  | '\r' :: '\n' :: rest => [] :: breakLines rest
  | c :: rest =>
    match breakLines rest with
    | [] => [[c]]
    | first :: others => (c :: first) :: others

def textLines (text : String) : List String := (breakLines text.toList).map String.ofList

/-- What a command prints, and why it fails if it does. -/
abbrev Report := List String × Except (Failure Reasons) Unit

def inspectReport (format : Toml.Format) (config : Config) (showConfig : Bool)
    (m : ModuleInfo) : Report :=
  let toolchain := Toolchain.detect m
  let configured :=
    match m.configure toolchain config with
    | .ok configured => limitLines "  configured" configured
    | .error section_ => ["  configured: " ++ (SetupError.missingSection section_).message]
  let limits :=
    ["Module: " ++ m.name.getD "<unnamed>", "Toolchain: " ++ toolchain.name, "Limits:"] ++
      limitLines "  declared" m ++ configured
  let declared :=
    "Imports:" :: (m.imports.map fun entry => "  " ++ importText entry) ++
      "Exports:" :: m.exports.map fun entry => "  " ++ exportText entry
  if showConfig then
    match config.text format with
    | .ok text =>
      (limits ++ "Configuration:" :: (textLines text).map ("  " ++ ·) ++ declared, .ok ())
    | .error error => (limits ++ ["Configuration:"], .error (.error (configReasons error)))
  else (limits ++ declared, .ok ())

/-- A set-up error, and the error it comes from. -/
def setupReasons (error : SetupError) : Reasons :=
  error.message ::
    match error with
    | .memory error => [error.message]
    | .table error => [error.message]
    | _ => []

def checkReport (path : String) (config : Config) (user : Option String) (m : ModuleInfo) :
    Logged Report := do
  let r := Resolver.withConfig config
  let r := user.elim r r.setUser
  let (result, r, _) ← r.linkModule (Compartment.empty ⟨0⟩) m
  let toolchain := " (" ++ r.toolchain.elim "unknown" Toolchain.name ++ ")"
  let count (n : Nat) : String := toString n
  match result with
  | .error .crash => pure ([], .error .crash)
  | .ok linked => do
    let _ ← r.cleanUp
    let resolved := count linked.imports.length ++ " import(s) resolved" ++ toolchain
    pure ([path ++ ": " ++ resolved], .ok ())
  | .error (.error (.imports failures)) => do
    let _ ← r.cleanUp
    let reason := count failures.length ++ " of " ++ count m.imports.length ++
      " import(s) could not be resolved" ++ toolchain
    pure (failures.map fun failure => path ++ ": " ++ failure.message, .error (.error [reason]))
  | .error (.error (.setup error)) => do
    let _ ← r.cleanUp
    pure ([], .error (.error (setupReasons error)))

/-! ## Running -/

/-- The status of a program that goes down. -/
def crashStatus : Nat := 101

def conclude (task : String) (report : Logged Report) : Outcome :=
  let (printed, result) := report.value
  let output := lines printed
  match result with
  | .ok () => { status := 0, output := output, events := report.events }
  | .error (.error reasons) =>
    { status := 1, output := output, events := report.events,
      complaints := lines (("error: " ++ task) :: reasons.map ("│   " ++ ·)) }
  | .error .crash => { status := crashStatus, output := output, events := report.events }

/-- A report on a module and a configuration, if these can be read. -/
def onLoaded (s : Surroundings) (file : String) (source : Option String)
    (report : Config → ModuleInfo → Logged Report) : Logged Report :=
  match loadConfig s source with
  | .error reasons => pure ([], .error (.error reasons))
  | .ok config => do
    match ← loadModule s file with
    | .error reasons => pure ([], .error (.error reasons))
    | .ok m => report config m

/-- The status of a command that could not be read. -/
def usageStatus : Nat := 2

def run (s : Surroundings) : Command → Outcome
  | version => { status := 0, output := lines ["sandbox-link " ++ HostLink.version] }
  | inspect file source showConfig =>
    conclude ("failed to inspect \x60" ++ file ++ "\x60")
      (onLoaded s file source fun config m => pure (inspectReport s.format config showConfig m))
  | check file source user =>
    conclude ("failed to link \x60" ++ file ++ "\x60")
      (onLoaded s file source fun config m => checkReport file config user m)

def runArguments (s : Surroundings) (arguments : List String) : Outcome :=
  match read? arguments with
  | some command => command.run s
  | none => { status := usageStatus, complaints := lines ["usage: " ++ usage] }
where
  usage : String :=
    "sandbox-link (inspect FILE [--config TOML] [--show-config] | " ++
      "check FILE [--config TOML] [--user USER] | --version)"

def files : Command → List String
  | version => []
  | inspect file config _ => file :: config.toList
  | check file config _ => file :: config.toList

end Command
end HostLink
