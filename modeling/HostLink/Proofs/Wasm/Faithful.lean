/-
What is declared is told apart by linking types, but for what they lose.

A linking type does not tell whether a reference may be null, nor how wide the indices of a table
are.  It does not tell what is shared either, unless that is a memory.  `erased` removes just
that: two declarations have one linking type exactly if their types are equal once it is
removed.
-/
import HostLink.Proofs.Wasm.IndexSpaces

namespace HostLink
namespace Wasm

/-! ## What is lost -/

def HeapType.erased : HeapType → HeapType
  | .abstract _ heap => .abstract false heap
  | .concrete index => .concrete index

def RefType.erased (type : RefType) : RefType := { nullable := true, heap := type.heap.erased }

def ValType.erased : ValType → ValType
  | ref type => .ref type.erased
  | type => type

def FuncType.erased (type : FuncType) : FuncType :=
  { params := type.params.map ValType.erased, results := type.results.map ValType.erased }

def TableType.erased (type : TableType) : TableType :=
  { type with element := type.element.erased, index64 := false, shared := false }

def GlobalType.erased (type : GlobalType) : GlobalType :=
  { type with content := type.content.erased, shared := false }

/-- A type with nullable references and 32-bit table indices, in which nothing is shared but
memories. -/
def EntityType.erased : EntityType → EntityType
  | func type => .func type.erased
  | table type => .table type.erased
  | memory type => .memory type
  | global type => .global type.erased

/-! ## A type and what is left of it -/

theorem ValType.Means.erased {type : ValType} {linked : ValueType} (h : type.Means linked) :
    type.erased.Means linked := by
  cases h
  case func => exact .func
  case external => exact .external
  all_goals constructor

theorem means_erased_values {types : List ValType} {linked : List ValueType}
    (h : List.Forall₂ ValType.Means types linked) :
    List.Forall₂ ValType.Means (types.map ValType.erased) linked :=
  List.forall₂_map_left_iff.mpr (h.imp fun _ _ => ValType.Means.erased)

/-- What is lost does not matter to what a type means. -/
theorem EntityType.Means.erased {type : EntityType} {linked : ExternType} (h : type.Means linked) :
    type.erased.Means linked := by
  cases h with
  | func h => exact .func ⟨means_erased_values h.params, means_erased_values h.results⟩
  | table h => exact .table ⟨h.element.erased, h.minimum, h.maximum⟩
  | memory h => exact .memory h
  | global h => exact .global ⟨h.content.erased, h.mutability⟩

/-! ## Types of one meaning -/

theorem ValType.Means.erased_eq {type type' : ValType} {linked : ValueType}
    (h : type.Means linked) (h' : type'.Means linked) : type.erased = type'.erased := by
  cases h <;> cases h' <;> rfl

theorem erased_values_eq {types types' : List ValType} {linked : List ValueType}
    (h : List.Forall₂ ValType.Means types linked) (h' : List.Forall₂ ValType.Means types' linked) :
    types.map ValType.erased = types'.map ValType.erased := by
  induction h generalizing types' with
  | nil =>
    cases h'
    rfl
  | cons hfirst _ ih =>
    cases h' with
    | cons hfirst' hrest' =>
      rw [List.map_cons, List.map_cons, hfirst.erased_eq hfirst', ih hrest']

theorem FuncType.Means.erased_eq {type type' : FuncType} {linked : FunctionType}
    (h : type.Means linked) (h' : type'.Means linked) : type.erased = type'.erased := by
  rw [FuncType.erased, FuncType.erased, erased_values_eq h.params h'.params,
    erased_values_eq h.results h'.results]

theorem TableType.Means.erased_eq {type type' : TableType} {linked : HostLink.TableType}
    (h : type.Means linked) (h' : type'.Means linked) : type.erased = type'.erased := by
  have helement : type.element.erased = type'.element.erased :=
    ValType.ref.inj (h.element.erased_eq h'.element)
  rw [TableType.erased, TableType.erased, helement, h.minimum, h.maximum, h'.minimum, h'.maximum]

theorem MemoryType.Means.eq {type type' : MemoryType} {linked : HostLink.MemoryType}
    (h : type.Means linked) (h' : type'.Means linked) : type = type' := by
  obtain ⟨index64, shared, minimum, maximum, pageSize⟩ := type
  obtain ⟨index64', shared', minimum', maximum', pageSize'⟩ := type'
  obtain rfl : index64 = index64' := h.index64.trans h'.index64.symm
  obtain rfl : shared = shared' := h.shared.trans h'.shared.symm
  obtain rfl : minimum = minimum' := h.minimum.trans h'.minimum.symm
  obtain rfl : maximum = maximum' := h.maximum.trans h'.maximum.symm
  obtain rfl : pageSize = pageSize' := h.pageSize.trans h'.pageSize.symm
  rfl

theorem GlobalType.Means.erased_eq {type type' : GlobalType} {linked : HostLink.GlobalType}
    (h : type.Means linked) (h' : type'.Means linked) : type.erased = type'.erased := by
  have hmutable : type.mutable = type'.mutable :=
    Bool.eq_iff_iff.mpr (h.mutability.trans h'.mutability.symm)
  rw [GlobalType.erased, GlobalType.erased, h.content.erased_eq h'.content, hmutable]

theorem EntityType.Means.erased_eq {type type' : EntityType} {linked : ExternType}
    (h : type.Means linked) (h' : type'.Means linked) : type.erased = type'.erased := by
  cases h with
  | func h => cases h' with | func h' => exact congrArg EntityType.func (h.erased_eq h')
  | table h => cases h' with | table h' => exact congrArg EntityType.table (h.erased_eq h')
  | memory h => cases h' with | memory h' => exact congrArg EntityType.memory (h.eq h')
  | global h => cases h' with | global h' => exact congrArg EntityType.global (h.erased_eq h')

/-- Two types mean one linking type exactly if they are equal but for what is lost. -/
theorem EntityType.Means.eq_iff {type type' : EntityType} {linked linked' : ExternType}
    (h : type.Means linked) (h' : type'.Means linked') :
    linked = linked' ↔ type.erased = type'.erased := by
  refine ⟨?_, fun herased => ?_⟩
  · rintro rfl
    exact h.erased_eq h'
  · exact (herased ▸ h.erased).unique h'.erased

/-! ## Declarations -/

/-- What is imported and then what is exported, with the type that the indices stand for. -/
def Contents.declarations (c : Contents) : List (Option EntityType) :=
  c.imports.map (fun entry => entityType? c.types entry.type) ++
    c.exports.map fun entry => (c.space entry.kind)[entry.index]?.bind (entityType? c.types)

end Wasm

namespace ModuleInfo

open Wasm

def declarations (m : ModuleInfo) : List ExternType :=
  m.imports.map Import.type ++ m.exports.map Export.type

theorem declarations_of_describes {c : Contents} {m : ModuleInfo} (h : c.Describes m) :
    List.Forall₂ (fun found type => ∃ entity, found = some entity ∧ entity.Means type)
      c.declarations m.declarations := by
  refine List.rel_append ?_ ?_
  · rw [List.forall₂_map_left_iff, List.forall₂_map_right_iff]
    exact h.imports.imp fun _ _ himport => himport.2.2
  · rw [List.forall₂_map_left_iff, List.forall₂_map_right_iff]
    refine h.exports.imp fun entry exported hexport => ?_
    obtain ⟨-, ref, href, entity, hentity, htype⟩ := hexport
    refine ⟨entity, ?_, htype⟩
    rw [href, Option.bind_some, hentity]

/-- The type in its binary of what a module declares, by its place among what is imported and
then exported. -/
def declaredForm? (frontend : Frontend) (bytes : Bytes) (i : Nat) : Option EntityType :=
  (frontend.assemble bytes).toOption.bind fun binary =>
    (contents frontend binary).declarations[i]?.bind id

variable {frontend : Frontend} {bytes bytes₁ bytes₂ : Bytes} {m m₁ m₂ : ModuleInfo}
  {i i₁ i₂ : Nat} {type type₁ type₂ : ExternType}

/-- Whatever an accepted module declares has a type in its binary, which its linking type stands
for. -/
theorem exists_declaredForm (hdisorder : frontend.RejectsDisorder)
    (hm : translate frontend bytes = .ok m) (htype : m.declarations[i]? = some type) :
    ∃ entity, declaredForm? frontend bytes i = some entity ∧ entity.Means type := by
  obtain ⟨binary, s, hassemble, hvalid, -, hreads, rfl⟩ := reads_of_translate hm
  have hall := declarations_of_describes (hreads.describes (inOrder_contents hdisorder hvalid))
  obtain ⟨found, hfound, entity, rfl, hmeans⟩ := getElem?_of_forall₂ hall htype
  refine ⟨entity, ?_, hmeans⟩
  rw [declaredForm?, hassemble]
  show (contents frontend binary).declarations[i]?.bind id = some entity
  rw [hfound]
  rfl

/-- Any two declarations of accepted modules have types in their binaries, and these become one
linking type exactly if they agree in all but what linking types lose. -/
theorem same_linkType_iff (hdisorder : frontend.RejectsDisorder)
    (hm₁ : translate frontend bytes₁ = .ok m₁) (hm₂ : translate frontend bytes₂ = .ok m₂)
    (htype₁ : m₁.declarations[i₁]? = some type₁) (htype₂ : m₂.declarations[i₂]? = some type₂) :
    ∃ entity₁ entity₂, declaredForm? frontend bytes₁ i₁ = some entity₁ ∧
      declaredForm? frontend bytes₂ i₂ = some entity₂ ∧
      (type₁ = type₂ ↔ entity₁.erased = entity₂.erased) := by
  obtain ⟨entity₁, hform₁, hmeans₁⟩ := exists_declaredForm hdisorder hm₁ htype₁
  obtain ⟨entity₂, hform₂, hmeans₂⟩ := exists_declaredForm hdisorder hm₂ htype₂
  exact ⟨entity₁, entity₂, hform₁, hform₂, hmeans₁.eq_iff hmeans₂⟩

/-- A binary that imports a function of a reference that may be null, one of a reference that may
not, a table, and a table with 64-bit indices. -/
def collapsing : Bytes :=
  [0x00, 0x61, 0x73, 0x6d, 0x01, 0x00, 0x00, 0x00,
    1, 10, 2, 0x60, 1, 0x70, 0, 0x60, 1, 0x64, 0x70, 0,
    2, 29, 4, 1, 0x61, 1, 0x66, 0, 0, 1, 0x61, 1, 0x67, 0, 1,
    1, 0x61, 1, 0x74, 1, 0x70, 0, 1, 1, 0x61, 1, 0x75, 1, 0x70, 4, 1]

def collapsingFunction (nullable : Bool) : EntityType :=
  .func { params := [.ref { RefType.funcRef with nullable := nullable }], results := [] }

def collapsingTable (index64 : Bool) : EntityType :=
  .table
    { element := .funcRef, index64 := index64, shared := false, minimum := 1, maximum := none }

/-- Its functions have one linking type, and so have its tables. -/
theorem same_linkType_iff_collapsing : ∃ m, translate tools collapsing = .ok m ∧
    declaredForm? tools collapsing 0 = some (collapsingFunction true) ∧
    declaredForm? tools collapsing 1 = some (collapsingFunction false) ∧
    m.declarations[0]? = m.declarations[1]? ∧
    declaredForm? tools collapsing 2 = some (collapsingTable false) ∧
    declaredForm? tools collapsing 3 = some (collapsingTable true) ∧
    m.declarations[2]? = m.declarations[3]? := by
  obtain ⟨m, hm, hfour⟩ :
      ∃ m, translate tools collapsing = .ok m ∧ m.declarations.length = 4 := by
    refine ⟨{
      imports :=
        [⟨"a", "f", .function ⟨[.funcRef], []⟩⟩, ⟨"a", "g", .function ⟨[.funcRef], []⟩⟩,
          ⟨"a", "t", .table ⟨.funcRef, 1, none⟩⟩, ⟨"a", "u", .table ⟨.funcRef, 1, none⟩⟩] },
      by decide +kernel, rfl⟩
  have hsame : ∀ {i j : Nat} {entity entity' : EntityType}, i < 4 → j < 4 →
      declaredForm? tools collapsing i = some entity →
      declaredForm? tools collapsing j = some entity' →
      entity.erased = entity'.erased → m.declarations[i]? = m.declarations[j]? := by
    intro i j entity entity' hi hj hentity hentity' herased
    rw [← hfour] at hi hj
    rw [List.getElem?_eq_getElem hi, List.getElem?_eq_getElem hj]
    obtain ⟨entity₁, entity₂, hform₁, hform₂, hiff⟩ :=
      same_linkType_iff tools_rejectsDisorder hm hm
        (List.getElem?_eq_getElem hi) (List.getElem?_eq_getElem hj)
    obtain rfl := Option.some.inj (hentity.symm.trans hform₁)
    obtain rfl := Option.some.inj (hentity'.symm.trans hform₂)
    exact congrArg some (hiff.mpr herased)
  have hfunction : declaredForm? tools collapsing 0 = some (collapsingFunction true) ∧
      declaredForm? tools collapsing 1 = some (collapsingFunction false) := by
    decide +kernel
  have htable : declaredForm? tools collapsing 2 = some (collapsingTable false) ∧
      declaredForm? tools collapsing 3 = some (collapsingTable true) := by
    decide +kernel
  exact ⟨m, hm, hfunction.1, hfunction.2,
    hsame (by omega) (by omega) hfunction.1 hfunction.2 rfl, htable.1, htable.2,
    hsame (by omega) (by omega) htable.1 htable.2 rfl⟩

end ModuleInfo
end HostLink
