/-
What a valid configuration promises, and what configuring a module changes.

A configuration is valid exactly if each range is in order and both addresses lie in
the memory that a legacy module starts with.  A module that could be configured for
the legacy toolchain has a first imported memory and a first imported table, and they
have the configured limits; these are the two entries its memory and table are made of.
-/
import HostLink.Link.Limits

namespace HostLink

/-! ## Valid configurations -/

/-- The rules of a configuration. -/
structure Config.Valid (config : Config) : Prop where
  standardPages : config.standard.initialPages ≤ config.standard.maximumPages
  legacyPages : config.legacy.initialPages ≤ config.legacy.maximumPages
  tableElements : config.legacy.tableMinimum ≤ config.legacy.tableMaximum
  stack : config.legacy.stackTop ≤ config.legacy.stackMax
  globalsInside :
    config.legacy.globalsAddress.toNat + GlobalsBlock.size ≤ config.legacy.initialBytes
  stackInside : config.legacy.stackMax.toNat ≤ config.legacy.initialBytes

namespace Config

theorem checkRange_eq_ok_iff {name : String} {minimum maximum : UInt32} :
    checkRange name minimum maximum = .ok () ↔ minimum ≤ maximum := by
  simp only [checkRange]
  split
  · rename_i h
    simpa using h
  · rename_i h
    simpa using h

theorem checkAddress_eq_ok_iff {limits : LegacyLimits} {name : String} {address : UInt32}
    {length : Nat} :
    checkAddress limits name address length = .ok () ↔
      address.toNat + length ≤ limits.initialBytes := by
  simp only [checkAddress]
  split
  · rename_i h
    simpa using h
  · rename_i h
    simpa using h

/-- A check in front of others: both have to pass. -/
theorem check_bind_eq_ok_iff {x y : Except ConfigError Unit} :
    (x >>= fun _ => y) = .ok () ↔ x = .ok () ∧ y = .ok () := by
  cases x with
  | error e => simp [bind, Except.bind]
  | ok u => simp [bind, Except.bind]

/-- Validation accepts the configurations that keep the rules, and no others. -/
theorem validate_eq_ok_iff {config : Config} : config.validate = .ok () ↔ config.Valid := by
  simp only [validate, check_bind_eq_ok_iff, checkRange_eq_ok_iff, checkAddress_eq_ok_iff,
    Nat.add_zero]
  constructor
  · rintro ⟨hstandard, hlegacy, htable, hstack, hglobals, hstackInside⟩
    exact ⟨hstandard, hlegacy, htable, hstack, hglobals, hstackInside⟩
  · rintro ⟨hstandard, hlegacy, htable, hstack, hglobals, hstackInside⟩
    exact ⟨hstandard, hlegacy, htable, hstack, hglobals, hstackInside⟩

end Config

/-! ## Configured modules -/

namespace ModuleInfo

variable {edit : ExternType → Option ExternType} {imports imports' : List Import}

/-- What editing the first entry that can be edited does: the entries before it cannot
be, and all others stay. -/
theorem editFirstImport_eq_some_iff :
    editFirstImport edit imports = some imports' ↔
      ∃ before entry after type, imports = before ++ entry :: after ∧
        (∀ other ∈ before, edit other.type = none) ∧ edit entry.type = some type ∧
        imports' = before ++ { entry with type := type } :: after := by
  induction imports generalizing imports' with
  | nil => simp [editFirstImport]
  | cons entry rest ih =>
    cases hedit : edit entry.type with
    | some type =>
      simp only [editFirstImport, hedit, Option.some.injEq]
      constructor
      · rintro rfl
        exact ⟨[], entry, rest, type, rfl, by simp, hedit, rfl⟩
      · rintro ⟨before, first, after, newType, himports, hbefore, hfirst, rfl⟩
        cases before with
        | nil =>
          obtain ⟨rfl, rfl⟩ := List.cons.inj himports
          obtain rfl : type = newType := Option.some.inj (hedit.symm.trans hfirst)
          rfl
        | cons other before =>
          obtain ⟨rfl, -⟩ := List.cons.inj himports
          have hnone := hbefore entry List.mem_cons_self
          rw [hedit] at hnone
          cases hnone
    | none =>
      simp only [editFirstImport, hedit, Option.map_eq_some_iff, ih]
      constructor
      · rintro ⟨edited, ⟨before, first, after, type, rfl, hbefore, hfirst, rfl⟩, rfl⟩
        refine ⟨entry :: before, first, after, type, rfl, ?_, hfirst, rfl⟩
        intro other hother
        rcases List.mem_cons.mp hother with rfl | hother
        · exact hedit
        · exact hbefore other hother
      · rintro ⟨before, first, after, type, himports, hbefore, hfirst, rfl⟩
        cases before with
        | nil =>
          obtain ⟨rfl, -⟩ := List.cons.inj himports
          rw [hedit] at hfirst
          cases hfirst
        | cons other before =>
          obtain ⟨rfl, rfl⟩ := List.cons.inj himports
          exact ⟨_, ⟨before, first, after, type, rfl,
            fun e he => hbefore e (List.mem_cons_of_mem _ he), hfirst, rfl⟩, rfl⟩

section View

/-! A kind of import is seen through `view`, which finds what `wrap` was applied to. -/

variable {α β : Type} {view : ExternType → Option α} {wrap : α → ExternType}
  {other : ExternType → Option β} {f : α → α}

/-- Editing the first entry of a kind edits the first of what the kind's view lists. -/
theorem filterMap_view_of_editFirstImport (hwrap : ∀ a, view (wrap a) = some a)
    (h : editFirstImport (fun type => (view type).map (wrap ∘ f)) imports = some imports') :
    ∃ first rest, imports.filterMap (fun entry => view entry.type) = first :: rest ∧
      imports'.filterMap (fun entry => view entry.type) = f first :: rest := by
  obtain ⟨before, entry, after, type, rfl, hbefore, hentry, rfl⟩ :=
    editFirstImport_eq_some_iff.mp h
  obtain ⟨first, hfirst, rfl⟩ := Option.map_eq_some_iff.mp hentry
  have hnone : before.filterMap (fun entry => view entry.type) = [] := by
    rw [List.filterMap_eq_nil_iff]
    exact fun other hother => Option.map_eq_none_iff.mp (hbefore other hother)
  refine ⟨first, after.filterMap fun entry => view entry.type, ?_, ?_⟩
  · simp [hnone, hfirst]
  · simp [hnone, hwrap]

/-- It does not show in the view of another kind. -/
theorem filterMap_other_of_editFirstImport
    (hother : ∀ type a, view type = some a → other type = none)
    (hwrap : ∀ a, view (wrap a) = some a)
    (h : editFirstImport (fun type => (view type).map (wrap ∘ f)) imports = some imports') :
    imports'.filterMap (fun entry => other entry.type) =
      imports.filterMap fun entry => other entry.type := by
  obtain ⟨before, entry, after, type, rfl, -, hentry, rfl⟩ := editFirstImport_eq_some_iff.mp h
  obtain ⟨first, hfirst, rfl⟩ := Option.map_eq_some_iff.mp hentry
  simp [hother _ _ hfirst, hother _ _ (hwrap (f first))]

/-! ### Places

Where the first import of a kind stands, so that it can be found again once it was edited. -/

/-- Whether an entry stands at a place and is the first that a view sees. -/
structure FirstAt {α : Type} (imports : List Import) (view : ExternType → Option α) (i : Nat)
    (entry : Import) : Prop where
  stands : imports[i]? = some entry
  seen : (view entry.type).isSome
  before : ∀ j < i, ∀ other, imports[j]? = some other → view other.type = none

namespace FirstAt

variable {i j : Nat} {first entry : Import} {rest : List Import} {a : α}

theorem tail (h : FirstAt (first :: rest) view (i + 1) entry) :
    view first.type = none ∧ FirstAt rest view i entry :=
  ⟨h.before 0 (Nat.succ_pos i) first rfl, h.stands, h.seen,
    fun j hj other hother => h.before (j + 1) (Nat.succ_lt_succ hj) other hother⟩

/-- The first entry of a kind is the first that the kind's view lists. -/
theorem filterMap_eq (h : FirstAt imports view i entry) (ha : view entry.type = some a) :
    ∃ rest, imports.filterMap (fun entry => view entry.type) = a :: rest := by
  induction imports generalizing i with
  | nil => cases h.stands
  | cons first rest ih =>
    cases i with
    | zero =>
      obtain rfl : first = entry := Option.some.inj h.stands
      exact ⟨_, List.filterMap_cons_some ha⟩
    | succ i =>
      obtain ⟨hfirst, hrest⟩ := h.tail
      have hskip : (first :: rest).filterMap (fun entry => view entry.type) =
          rest.filterMap fun entry => view entry.type := List.filterMap_cons_none hfirst
      rw [hskip]
      exact ih hrest

/-- Editing the first entry of a kind edits the one at its place. -/
theorem editFirstImport_eq (h : FirstAt imports view i entry) (ha : view entry.type = some a) :
    editFirstImport (fun type => (view type).map (wrap ∘ f)) imports =
      some (imports.set i { entry with type := wrap (f a) }) := by
  induction imports generalizing i with
  | nil => cases h.stands
  | cons first rest ih =>
    cases i with
    | zero =>
      obtain rfl : first = entry := Option.some.inj h.stands
      simp only [editFirstImport, ha, Option.map_some, List.set_cons_zero, Function.comp_apply]
    | succ i =>
      obtain ⟨hfirst, hrest⟩ := h.tail
      simp only [editFirstImport, hfirst, Option.map_none, ih hrest, Option.map_some,
        List.set_cons_succ]

/-- Replacing an entry that is not of the kind by another such leaves the first of the kind
where it is. -/
theorem set (h : FirstAt imports view i entry) {old new : Import} (hold : imports[j]? = some old)
    (holdView : view old.type = none) (hnewView : view new.type = none) :
    FirstAt (imports.set j new) view i entry := by
  have hne : j ≠ i := by
    rintro rfl
    obtain rfl : old = entry := Option.some.inj (hold.symm.trans h.stands)
    have hseen := h.seen
    rw [holdView] at hseen
    cases hseen
  refine ⟨?_, h.seen, fun k hk other hother => ?_⟩
  · rw [List.getElem?_set_ne hne]
    exact h.stands
  · by_cases hkj : j = k
    · subst hkj
      have hlt : j < imports.length := (List.getElem?_eq_some_iff.mp hold).1
      rw [List.getElem?_set_self hlt] at hother
      obtain rfl := Option.some.inj hother
      exact hnewView
    · rw [List.getElem?_set_ne hkj] at hother
      exact h.before k hk other hother

end FirstAt

end View

theorem importedMemories_editFirstImportedMemory {m m' : ModuleInfo}
    {edit : MemoryType → MemoryType} (h : m.editFirstImportedMemory edit = some m') :
    (∃ first rest, m.importedMemories = first :: rest ∧
      m'.importedMemories = edit first :: rest) ∧ m'.importedTables = m.importedTables := by
  obtain ⟨imports, himports, rfl⟩ := Option.map_eq_some_iff.mp h
  have hwrap : ∀ type : MemoryType, (ExternType.memory type).memory? = some type := fun _ => rfl
  have hother : ∀ (type : ExternType) a, type.memory? = some a → type.table? = none := by
    intro type a htype
    cases type with
    | memory type => rfl
    | _ => cases htype
  exact ⟨filterMap_view_of_editFirstImport hwrap himports,
    filterMap_other_of_editFirstImport hother hwrap himports⟩

theorem importedTables_editFirstImportedTable {m m' : ModuleInfo}
    {edit : TableType → TableType} (h : m.editFirstImportedTable edit = some m') :
    (∃ first rest, m.importedTables = first :: rest ∧
      m'.importedTables = edit first :: rest) ∧ m'.importedMemories = m.importedMemories := by
  obtain ⟨imports, himports, rfl⟩ := Option.map_eq_some_iff.mp h
  have hwrap : ∀ type : TableType, (ExternType.table type).table? = some type := fun _ => rfl
  have hother : ∀ (type : ExternType) a, type.table? = some a → type.memory? = none := by
    intro type a htype
    cases type with
    | table type => rfl
    | _ => cases htype
  exact ⟨filterMap_view_of_editFirstImport hwrap himports,
    filterMap_other_of_editFirstImport hother hwrap himports⟩

/-- The first imported memory and table of a module configured for the legacy toolchain
have the configured limits. -/
theorem configure_legacy_eq_ok {m m' : ModuleInfo} {config : Config}
    (h : m.configure .legacy config = .ok m') :
    (∃ first rest, m.importedMemories = first :: rest ∧
        m'.importedMemories =
          limitMemory config.legacy.initialPages config.legacy.maximumPages first :: rest) ∧
      ∃ first rest, m.importedTables = first :: rest ∧
        m'.importedTables =
          limitTable config.legacy.tableMinimum config.legacy.tableMaximum first :: rest := by
  simp only [configure] at h
  split at h
  · cases h
  · rename_i edited hmemory
    split at h
    · cases h
    · rename_i configured htable
      cases h
      obtain ⟨hmemories, htables⟩ := importedMemories_editFirstImportedMemory hmemory
      obtain ⟨hlimited, hkept⟩ := importedTables_editFirstImportedTable htable
      rw [htables] at hlimited
      rw [hkept]
      exact ⟨hmemories, hlimited⟩

end ModuleInfo
end HostLink
