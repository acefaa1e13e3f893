/-
Configurations and their texts.

A text lists settings by the sections they belong to, each once and with a number, in any
order and with any of them left out.  It is read as the one configuration that has the listed
numbers and else the defaults, and then validated.  The text of a configuration lists them
all, so it is read as that configuration.  Of the format this takes that tables of numbers are
read from their lines, and written as them.

What is said of the settings of a section follows from two facts: a setting that was set has
its value, and the others have theirs; and the settings are all there is to the section.
-/
import HostLink.Link.ConfigText
import HostLink.Proofs.Toml.Tools

namespace HostLink

/-! ## Settings -/

/-- Whether the settings of a section are independent of each other. -/
def Independent {α : Type} (settings : List (Setting α)) : Prop :=
  ∀ setting ∈ settings, ∀ other ∈ settings, ∀ limits n,
    other.get (setting.set limits n) = if other.name = setting.name then n else other.get limits

/-- The names of some settings. -/
def settingNames {α : Type} (settings : List (Setting α)) : List String :=
  settings.map Setting.name

/-- All settings with the values they have. -/
def settingValues {α : Type} (settings : List (Setting α)) (limits : α) : Named UInt32 :=
  settings.map fun setting => (setting.name, setting.get limits)

theorem StandardLimits.independent_settings : Independent settings := by
  simp [Independent, settings]

theorem LegacyLimits.independent_settings : Independent settings := by
  simp [Independent, settings]

theorem StandardLimits.eq_of_get_eq {a b : StandardLimits}
    (h : ∀ setting ∈ settings, setting.get a = setting.get b) : a = b := by
  cases a
  cases b
  simpa [settings] using h

theorem LegacyLimits.eq_of_get_eq {a b : LegacyLimits}
    (h : ∀ setting ∈ settings, setting.get a = setting.get b) : a = b := by
  cases a
  cases b
  simpa [settings] using h

section Settings

variable {α : Type} {settings : List (Setting α)} {start : α} {given : Named UInt32}

theorem names_settingValues (settings : List (Setting α)) (limits : α) :
    Named.names (settingValues settings limits) = settingNames settings := by
  simp [Named.names, settingValues, settingNames]

theorem get?_settingValues (hnames : (settingNames settings).Nodup) {setting : Setting α}
    (hsetting : setting ∈ settings) (limits : α) :
    Named.get? (settingValues settings limits) setting.name = some (setting.get limits) := by
  refine Named.get?_of_mem ?_ (List.mem_map_of_mem hsetting)
  rw [names_settingValues]
  exact hnames

namespace Toml

theorem word?_integer (n : UInt32) : (Value.integer n.toNat).word? = some n := by
  have hbound : (0 : Int) ≤ n.toNat ∧ (n.toNat : Int) < UInt32.size := by
    have hlt := n.toNat_lt
    simp only [UInt32.size]
    omega
  rw [Value.word?, if_pos hbound]
  simp

theorem distinct_numbers (hnames : given.names.Nodup) : distinct (numbers given) = true := by
  have hsame : Named.names (numbers given) = given.names := by
    simp [Named.names, numbers]
  rw [distinct, hsame]
  exact decide_eq_true hnames

/-- Numbers that are given to settings by their names are put there, and nothing else is. -/
theorem applyEntries_numbers (start : α) (hsettings : Independent settings)
    (hknown : ∀ name ∈ given.names, name ∈ settingNames settings)
    (hnames : given.names.Nodup) :
    ∃ limits, applyEntries settings start (numbers given) = some limits ∧
      ∀ setting ∈ settings,
        setting.get limits = (given.get? setting.name).getD (setting.get start) := by
  rw [applyEntries, if_pos (distinct_numbers hnames)]
  induction given generalizing start with
  | nil => exact ⟨start, rfl, fun _ _ => rfl⟩
  | cons entry rest ih =>
    obtain ⟨hentry, hrest⟩ := List.nodup_cons.mp hnames
    obtain ⟨named, hnamed, hname⟩ := List.mem_map.mp (hknown _ List.mem_cons_self)
    have hfind : (settings.find? fun setting => setting.name == entry.1).isSome :=
      List.find?_isSome.mpr ⟨named, hnamed, by simp [hname]⟩
    obtain ⟨found, hfound⟩ := Option.isSome_iff_exists.mp hfind
    have hmem : found ∈ settings := List.mem_of_find?_eq_some hfound
    have hfoundName : found.name = entry.1 := by simpa using List.find?_some hfound
    obtain ⟨limits, hlimits, hvalues⟩ := ih (found.set start entry.2)
      (fun name hname => hknown name (List.mem_cons_of_mem _ hname)) hrest
    refine ⟨limits, ?_, fun setting hsetting => ?_⟩
    · rw [← hlimits]
      simp only [numbers, List.map_cons, List.foldlM_cons, hfound, word?_integer]
      rfl
    · rw [hvalues setting hsetting, hsettings found hmem setting hsetting, hfoundName, Named.get?]
      -- A name that comes first does not come again.
      by_cases hsame : entry.1 = setting.name
      · rw [if_pos hsame, if_pos hsame.symm,
          Named.get?_eq_none_iff.mpr (hsame ▸ hentry)]
        rfl
      · rw [if_neg hsame, if_neg fun e => hsame e.symm]

end Toml

end Settings

/-! ## Sections -/

namespace Config

/-- The settings of the section with a title. -/
def sectionNames (title : String) : List String :=
  if title = "standard" then settingNames StandardLimits.settings
  else if title = "emscripten" then settingNames LegacyLimits.settings
  else []

/-- Whether sections list settings that there are, and nothing twice. -/
structure Lists (sections : Named (Named UInt32)) : Prop where
  titles : sections.names.Nodup
  known : ∀ title ∈ sections.names, title = "standard" ∨ title = "emscripten"
  names : ∀ section_ ∈ sections, section_.2.names.Nodup
  settings : ∀ section_ ∈ sections, ∀ name ∈ section_.2.names, name ∈ sectionNames section_.1

/-- The number that a setting of a section is given. -/
def given? (sections : Named (Named UInt32)) (title name : String) : Option UInt32 :=
  (sections.get? title).bind fun given => given.get? name

/-- Whether a configuration is another one but for the settings that are given. -/
structure Replaces (sections : Named (Named UInt32)) (start config : Config) : Prop where
  standard : ∀ setting ∈ StandardLimits.settings, setting.get config.standard =
    (given? sections "standard" setting.name).getD (setting.get start.standard)
  legacy : ∀ setting ∈ LegacyLimits.settings, setting.get config.legacy =
    (given? sections "emscripten" setting.name).getD (setting.get start.legacy)

variable {format : Toml.Format} {sections : Named (Named UInt32)} {start config other : Config}
  {texts : List String}

theorem Replaces.unique (h : Replaces sections start config)
    (hother : Replaces sections start other) : config = other := by
  have hstandard := StandardLimits.eq_of_get_eq fun setting hsetting =>
    (h.standard setting hsetting).trans (hother.standard setting hsetting).symm
  have hlegacy := LegacyLimits.eq_of_get_eq fun setting hsetting =>
    (h.legacy setting hsetting).trans (hother.legacy setting hsetting).symm
  cases config
  cases other
  cases hstandard
  cases hlegacy
  rfl

theorem bare_of_mem_sectionNames {title name : String} (h : name ∈ sectionNames title) :
    Toml.Bare name := by
  have hstandard : ∀ name ∈ settingNames StandardLimits.settings, Toml.Bare name := by decide
  have hlegacy : ∀ name ∈ settingNames LegacyLimits.settings, Toml.Bare name := by decide
  unfold sectionNames at h
  split at h
  · exact hstandard name h
  · split at h
    · exact hlegacy name h
    · cases h

namespace Lists

theorem plain (h : Lists sections) : Toml.Plain sections where
  titles := h.titles
  keys := h.names
  bareTitles := fun title htitle => by
    rcases h.known title htitle with rfl | rfl <;> decide
  bareKeys := fun section_ hsection key hkey =>
    bare_of_mem_sectionNames (h.settings section_ hsection key hkey)

/-- The order of sections and settings does not matter. -/
theorem reordered {sections' : Named (Named UInt32)} (h : Lists sections)
    (hsame : Toml.Reordered sections sections') : Lists sections' where
  titles := hsame.titles.nodup_iff.mpr h.titles
  known := fun title htitle => h.known title (hsame.titles.mem_iff.mp htitle)
  names := fun section_ hsection => by
    obtain ⟨given, hgiven, hkeys⟩ := hsame.keys section_ hsection
    exact (hkeys.map Prod.fst).nodup_iff.mpr (h.names _ hgiven)
  settings := fun section_ hsection name hname => by
    obtain ⟨given, hgiven, hkeys⟩ := hsame.keys section_ hsection
    exact h.settings _ hgiven name ((hkeys.map Prod.fst).mem_iff.mp hname)

theorem given?_reordered {sections' : Named (Named UInt32)} (h : Lists sections)
    (hsame : Toml.Reordered sections sections') (title name : String) :
    given? sections' title name = given? sections title name := by
  cases htitle : Named.get? sections' title with
  | none =>
    have hnot : title ∉ sections.names := fun hmem =>
      Named.get?_eq_none_iff.mp htitle (hsame.titles.mem_iff.mpr hmem)
    rw [given?, given?, htitle, Named.get?_eq_none_iff.mpr hnot]
  | some given' =>
    obtain ⟨given, hgiven, hkeys⟩ := hsame.keys _ (Named.mem_of_get? htitle)
    rw [given?, given?, htitle, Named.get?_of_mem h.titles hgiven, Option.bind_some,
      Option.bind_some]
    exact Named.get?_of_perm hkeys (h.names _ hgiven) name

theorem tail {section_ : String × Named UInt32} (h : Lists (section_ :: sections)) :
    Lists sections where
  titles := (List.nodup_cons.mp h.titles).2
  known := fun title htitle => h.known title (List.mem_cons_of_mem _ htitle)
  names := fun other hother => h.names other (List.mem_cons_of_mem _ hother)
  settings := fun other hother => h.settings other (List.mem_cons_of_mem _ hother)

end Lists

/-! ## Reading -/

/-- What a first section gives is not given by another one. -/
theorem getD_given?_cons {title : String} (hnew : title ∉ sections.names)
    (given : Named UInt32) (key name : String) (value : UInt32) :
    (given? ((title, given) :: sections) key name).getD value =
      (given? sections key name).getD ((given? [(title, given)] key name).getD value) := by
  by_cases hkey : title = key
  · subst hkey
    simp [given?, Named.get?, Named.get?_eq_none_iff.mpr hnew]
  · simp [given?, Named.get?, hkey]

theorem Replaces.cons {title : String} {given : Named UInt32} (hnew : title ∉ sections.names)
    (hfirst : Replaces [(title, given)] start config) (hrest : Replaces sections config other) :
    Replaces ((title, given) :: sections) start other where
  standard := fun setting hsetting => by
    rw [hrest.standard setting hsetting, hfirst.standard setting hsetting, getD_given?_cons hnew]
  legacy := fun setting hsetting => by
    rw [hrest.legacy setting hsetting, hfirst.legacy setting hsetting, getD_given?_cons hnew]

/-- A configuration with a section put into it. -/
def withSection (config : Config) (entry : String × Toml.Value) : Option Config :=
  match entry.1 with
  | "standard" =>
    (Toml.section? StandardLimits.settings config.standard entry.2).map fun limits =>
      { config with standard := limits }
  | "emscripten" =>
    (Toml.section? LegacyLimits.settings config.legacy entry.2).map fun limits =>
      { config with legacy := limits }
  | _ => none

theorem ofEntries?_tablesOf (h : Lists sections) :
    ofEntries? (Toml.tablesOf sections) = (Toml.tablesOf sections).foldlM withSection {} := by
  have hsame : Named.names (Toml.tablesOf sections) = sections.names := by
    simp [Named.names, Toml.tablesOf]
  have hdistinct : Toml.distinct (Toml.tablesOf sections) = true := by
    rw [Toml.distinct, hsame]
    exact decide_eq_true h.titles
  exact if_pos hdistinct

/-- A section replaces what it lists. -/
theorem exists_withSection {title : String} {given : Named UInt32}
    (h : Lists ((title, given) :: sections)) (start : Config) :
    ∃ config, withSection start (title, .table (Toml.numbers given)) = some config ∧
      Replaces [(title, given)] start config := by
  have hnames : given.names.Nodup := h.names _ List.mem_cons_self
  have hknown : ∀ name ∈ given.names, name ∈ sectionNames title :=
    h.settings _ List.mem_cons_self
  rcases h.known title List.mem_cons_self with rfl | rfl
  · obtain ⟨limits, hlimits, hvalues⟩ := Toml.applyEntries_numbers start.standard
      StandardLimits.independent_settings hknown hnames
    refine ⟨{ start with standard := limits }, ?_, fun setting hsetting => ?_, fun _ _ => rfl⟩
    · simp only [withSection, Toml.section?, hlimits, Option.map_some]
    · simpa [given?, Named.get?] using hvalues setting hsetting
  · obtain ⟨limits, hlimits, hvalues⟩ := Toml.applyEntries_numbers start.legacy
      LegacyLimits.independent_settings hknown hnames
    refine ⟨{ start with legacy := limits }, ?_, fun _ _ => rfl, fun setting hsetting => ?_⟩
    · simp only [withSection, Toml.section?, hlimits, Option.map_some]
    · simpa [given?, Named.get?] using hvalues setting hsetting

/-- Sections replace what they list, one after the other. -/
theorem foldlM_sections (h : Lists sections) (start : Config) :
    ∃ config, (Toml.tablesOf sections).foldlM withSection start = some config ∧
      Replaces sections start config := by
  induction sections generalizing start with
  | nil => exact ⟨start, rfl, fun _ _ => rfl, fun _ _ => rfl⟩
  | cons section_ rest ih =>
    obtain ⟨middle, hmiddle, hfirst⟩ := exists_withSection h start
    obtain ⟨config, hconfig, hrest⟩ := ih h.tail middle
    refine ⟨config, ?_, hfirst.cons (List.nodup_cons.mp h.titles).1 hrest⟩
    rw [Toml.tablesOf, List.map_cons, List.foldlM_cons, hmiddle]
    exact hconfig

/-- A text that lists settings is read as the configuration that has them. -/
theorem ofText_of_lists (hreads : format.ReadsTables) (h : Lists sections)
    (htexts : texts.filter (· ≠ "") = Toml.documentLines sections) :
    ∃ config, Replaces sections {} config ∧
      ofText format ("\n".intercalate texts) = config.validate.map fun _ => config := by
  obtain ⟨sections', hsame, hread⟩ := hreads sections texts h.plain htexts
  obtain ⟨config, hconfig, hreplaces⟩ := foldlM_sections (h.reordered hsame) {}
  refine ⟨config, ⟨fun setting hsetting => ?_, fun setting hsetting => ?_⟩, ?_⟩
  · rw [hreplaces.standard setting hsetting, h.given?_reordered hsame]
  · rw [hreplaces.legacy setting hsetting, h.given?_reordered hsame]
  · have hentries : ofEntries? (Toml.tablesOf sections') = some config := by
      rw [ofEntries?_tablesOf (h.reordered hsame), hconfig]
    simp only [ofText, hread, Except.mapError, bind, Except.bind, hentries]
    cases config.validate <;> rfl

/-! ## Writing -/

/-- The sections of a configuration, with all settings. -/
def allSections (config : Config) : Named (Named UInt32) :=
  [("standard", settingValues StandardLimits.settings config.standard),
   ("emscripten", settingValues LegacyLimits.settings config.legacy)]

theorem nodup_standardNames : (settingNames StandardLimits.settings).Nodup := by
  decide

theorem nodup_legacyNames : (settingNames LegacyLimits.settings).Nodup := by
  decide

theorem lists_allSections (config : Config) : Lists config.allSections where
  titles := by simp [allSections, Named.names]
  known := by simp [allSections, Named.names]
  names := by
    simp only [allSections, List.forall_mem_cons, names_settingValues]
    exact ⟨nodup_standardNames, nodup_legacyNames, List.forall_mem_nil _⟩
  settings := by
    simp only [allSections, List.forall_mem_cons, names_settingValues]
    exact ⟨fun _ h => h, fun _ h => h, List.forall_mem_nil _⟩

/-- All settings together leave nothing of the configuration there was. -/
theorem replaces_allSections (config start : Config) :
    Replaces config.allSections start config where
  standard := fun setting hsetting => by
    have hvalue := get?_settingValues nodup_standardNames hsetting config.standard
    simp [given?, allSections, Named.get?, hvalue]
  legacy := fun setting hsetting => by
    have hvalue := get?_settingValues nodup_legacyNames hsetting config.legacy
    simp [given?, allSections, Named.get?, hvalue]

theorem entries_eq (config : Config) : config.entries = Toml.tablesOf config.allSections := by
  simp [entries, allSections, Toml.tablesOf, Toml.numbers, sectionEntries, settingValues]

/-- What the text of a configuration is read as, and more generally that of any settings.  The
text of a configuration is read as it, and refused with the error of its validation if it is
not valid.  A text that lists some settings with numbers, each under the title of its section
and none twice, in any order, is read as the one configuration that has these numbers and
else the defaults, and validated. -/
theorem text_read_back (hreads : format.ReadsTables) (hwrites : format.WritesTables) :
    (∀ config : Config, ∃ written, config.text format = .ok written ∧
        ofText format written = config.validate.map fun _ => config) ∧
      ∀ (sections : Named (Named UInt32)) (texts : List String), Lists sections →
        texts.filter (· ≠ "") = Toml.documentLines sections →
          ∃! config, Replaces sections {} config ∧
            ofText format ("\n".intercalate texts) = config.validate.map fun _ => config := by
  refine ⟨fun config => ?_, fun sections texts hlists htexts => ?_⟩
  · have hlists := lists_allSections config
    obtain ⟨texts, htexts, hwritten⟩ := hwrites config.allSections hlists.plain
    obtain ⟨found, hfound, hread⟩ := ofText_of_lists hreads hlists htexts
    obtain rfl := hfound.unique (replaces_allSections config {})
    refine ⟨_, ?_, hread⟩
    rw [text, entries_eq, hwritten]
    rfl
  · obtain ⟨config, hconfig, hread⟩ := ofText_of_lists hreads hlists htexts
    exact ⟨config, ⟨hconfig, hread⟩, fun other hother => hother.1.unique hconfig⟩

/-- Three settings, in neither the order of the sections nor that of the settings. -/
def reordered : Named (Named UInt32) :=
  [("emscripten", [("stack_top", 5)]), ("standard", [("maximum_pages", 6), ("initial_pages", 7)])]

/-- They are read as three settings, the last of which exceeds the one before it. -/
theorem text_read_back_reordered :
    ofText Toml.tools
        "[emscripten]\nstack_top = 5\n\n[standard]\nmaximum_pages = 6\ninitial_pages = 7\n" =
      .error (.invalidRange "standard memory pages" 7 6) := by
  have hlists : Lists reordered := by
    refine ⟨?_, ?_, ?_, ?_⟩ <;> decide
  have htexts : ["[emscripten]", "stack_top = 5", "", "[standard]", "maximum_pages = 6",
      "initial_pages = 7", ""].filter (· ≠ "") = Toml.documentLines reordered := by
    decide +kernel
  obtain ⟨-, hlisted⟩ := text_read_back Toml.tools_readsTables Toml.tools_writesTables
  obtain ⟨config, ⟨hconfig, hread⟩, -⟩ := hlisted reordered _ hlists htexts
  have hreplaces : Replaces reordered {}
      { standard := { initialPages := 7, maximumPages := 6 }, legacy := { stackTop := 5 } } := by
    refine ⟨?_, ?_⟩ <;> decide
  obtain rfl := hconfig.unique hreplaces
  exact hread

end Config
end HostLink
