/-
Configurations as text.

A configuration is a TOML document with two sections.  A setting that is left out has
its default; a section or setting that does not exist or comes again is refused, and so
is a value that is not a word.  A section may also be an array of values in the order of
its settings.
-/
import HostLink.Link.Config
import HostLink.Toml.Format

namespace HostLink

structure Setting (α : Type) where
  name : String
  get : α → UInt32
  set : α → UInt32 → α

def StandardLimits.settings : List (Setting StandardLimits) :=
  [⟨"initial_pages", initialPages, fun limits n => { limits with initialPages := n }⟩,
   ⟨"maximum_pages", maximumPages, fun limits n => { limits with maximumPages := n }⟩]

def LegacyLimits.settings : List (Setting LegacyLimits) :=
  [⟨"initial_pages", initialPages, fun limits n => { limits with initialPages := n }⟩,
   ⟨"maximum_pages", maximumPages, fun limits n => { limits with maximumPages := n }⟩,
   ⟨"table_minimum", tableMinimum, fun limits n => { limits with tableMinimum := n }⟩,
   ⟨"table_maximum", tableMaximum, fun limits n => { limits with tableMaximum := n }⟩,
   ⟨"stack_top", stackTop, fun limits n => { limits with stackTop := n }⟩,
   ⟨"stack_max", stackMax, fun limits n => { limits with stackMax := n }⟩,
   ⟨"mutable_globals_address", globalsAddress,
     fun limits n => { limits with globalsAddress := n }⟩]

namespace Toml

def Value.word? : Value → Option UInt32
  | .integer i => if 0 ≤ i ∧ i < UInt32.size then some (UInt32.ofNat i.toNat) else none
  | _ => none

/-- Whether no name comes again. -/
def distinct (entries : Entries) : Bool := decide entries.names.Nodup

def applyEntries {α : Type} (settings : List (Setting α)) (start : α) (entries : Entries) :
    Option α :=
  if distinct entries then
    entries.foldlM (fun section_ (name, value) => do
      let setting ← settings.find? fun setting => setting.name == name
      let word ← value.word?
      pure (setting.set section_ word)) start
  else none

/-- Applies the settings given in order.  Values beyond the last setting are not
looked at. -/
def applyItems {α : Type} (settings : List (Setting α)) (start : α) (items : List Value) :
    Option α :=
  (settings.zip items).foldlM (fun section_ (setting, value) => do
    let word ← value.word?
    pure (setting.set section_ word)) start

def section? {α : Type} (settings : List (Setting α)) (start : α) : Value → Option α
  | .table entries => applyEntries settings start entries
  | .array items => applyItems settings start items
  | _ => none

end Toml

/-- Reads a file, or says why that is impossible. -/
abbrev ReadFile := String → Except String (List UInt8)

namespace Config

def ofEntries? (entries : Toml.Entries) : Option Config :=
  if Toml.distinct entries then
    entries.foldlM (fun config (name, value) =>
      match name with
      | "standard" =>
        (Toml.section? StandardLimits.settings config.standard value).map fun limits =>
          { config with standard := limits }
      | "emscripten" =>
        (Toml.section? LegacyLimits.settings config.legacy value).map fun limits =>
          { config with legacy := limits }
      | _ => none) ({} : Config)
  else none

/-- Reads a configuration and validates it. -/
def ofText (format : Toml.Format) (text : String) : Except ConfigError Config := do
  let entries ← (format.read text).mapError .malformed
  match ofEntries? entries with
  | none => throw (.malformed (format.refusal text))
  | some config => do
    config.validate
    pure config

def ofPath (read : ReadFile) (format : Toml.Format) (path : String) :
    Except ConfigError Config :=
  match read path with
  | .error reason => .error (.unreadable path reason)
  | .ok bytes =>
    match String.fromUTF8? ⟨bytes.toArray⟩ with
    | none => .error (.unreadable path "stream did not contain valid UTF-8")
    | some text => ofText format text

def sectionEntries {α : Type} (settings : List (Setting α)) (limits : α) : Toml.Entries :=
  settings.map fun setting => (setting.name, .integer (setting.get limits).toNat)

/-- A configuration as TOML data, all settings written out. -/
def entries (config : Config) : Toml.Entries :=
  [("standard", .table (sectionEntries StandardLimits.settings config.standard)),
   ("emscripten", .table (sectionEntries LegacyLimits.settings config.legacy))]

def text (format : Toml.Format) (config : Config) : Except ConfigError String :=
  (format.write config.entries).mapError .unwritable

end Config
end HostLink
