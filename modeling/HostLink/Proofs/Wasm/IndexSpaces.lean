/-
The index spaces of a module.

While a module is read, an index is looked up among all entities that came before.  Where
sections stand in order, no import comes after a definition, so that what was read of a kind is
first what is imported and then what is defined (`inOrder_items`).  The declared form of a module
is then what its index spaces say (`index_spaces`).
-/
import HostLink.Proofs.Wasm.Tools
import HostLink.Proofs.Wasm.Walk

namespace HostLink
namespace Wasm
namespace Contents

variable {c : Contents}

/-! ## Imports before definitions -/

/-- Whether what was read begins with what is imported. -/
def InOrder (c : Contents) : Prop :=
  c.entities = c.imports.map ImportEntry.type ++ c.definitions

/-- Whether nothing but imports was read so far. -/
structure BeforeDefinitions (c : Contents) : Prop where
  inOrder : c.InOrder
  none : c.definitions = []

theorem InOrder.space_eq (h : c.InOrder) (kind : ExternKind) :
    ofKind kind c.entities = c.space kind := by
  rw [h, ofKind, List.filter_append]
  rfl

/-- Reading a section keeps what every entry of it keeps. -/
theorem foldl_entries {α : Type} {P : Contents → Prop} {item : α → Item}
    (hadd : ∀ c a, P c → P (c.add (item a))) (h : P c) (entries : Entries α) :
    P ((entries.map (.ofEntry item)).foldl add c) := by
  induction entries generalizing c with
  | nil => exact h
  | cons entry rest ih =>
    cases entry with
    | error reason => exact ih h
    | ok a => exact ih (hadd c a h)

theorem InOrder.define (h : c.InOrder) (ref : TypeRef) : (c.define ref).InOrder := by
  show c.entities ++ [ref] = c.imports.map ImportEntry.type ++ (c.definitions ++ [ref])
  rw [h, List.append_assoc]

theorem BeforeDefinitions.type (h : c.BeforeDefinitions) (type : FuncType) :
    (c.add (.type type)).BeforeDefinitions :=
  ⟨h.inOrder, h.none⟩

theorem BeforeDefinitions.import_ (h : c.BeforeDefinitions) (entry : ImportEntry) :
    (c.add (.import_ entry)).BeforeDefinitions := by
  have hentities : c.entities = c.imports.map ImportEntry.type := by
    rw [h.inOrder, h.none, List.append_nil]
  exact ⟨by simp [InOrder, hentities, h.none], h.none⟩

variable {reading : Reading}

/-- A section that is not of definitions. -/
theorem BeforeDefinitions.items (h : c.BeforeDefinitions)
    (hplace : ∀ place, reading.place? = some place → place ≤ 2) :
    (reading.items.foldl add c).BeforeDefinitions := by
  obtain ⟨reason | payload, stop⟩ := reading
  · exact h
  · cases payload with
    | types entries =>
      exact foldl_entries (fun _ type h => h.type type) h entries
    | imports entries => exact foldl_entries (fun _ entry h => h.import_ entry) h entries
    | names entries => exact h
    | other => exact h
    | functions _ | tables _ | memories _ | globals _ | «exports» _ =>
      exact absurd (hplace _ rfl) (by decide)

/-- Any other section but one of imports. -/
theorem InOrder.behind_imports (h : c.InOrder) (hplace : reading.place? ≠ some 2) :
    (reading.items.foldl add c).InOrder := by
  obtain ⟨reason | payload, stop⟩ := reading
  · exact h
  · cases payload with
    | types entries => exact foldl_entries (fun _ _ h => h) h entries
    | imports entries => exact absurd rfl hplace
    | functions entries => exact foldl_entries (fun _ _ h => h.define _) h entries
    | tables entries => exact foldl_entries (fun _ _ h => h.define _) h entries
    | memories entries => exact foldl_entries (fun _ _ h => h.define _) h entries
    | globals entries => exact foldl_entries (fun _ _ h => h.define _) h entries
    | «exports» entries => exact foldl_entries (fun _ _ h => h) h entries
    | names entries => exact h
    | other => exact h

theorem InOrder.items {readings : List Reading} (h : c.InOrder)
    (horder : (readings.filterMap Reading.place?).Pairwise (· < ·))
    (hfront : c.definitions = [] ∨ ∀ place ∈ readings.filterMap Reading.place?, 2 < place) :
    ((Wasm.items readings).foldl add c).InOrder := by
  induction readings generalizing c with
  | nil => exact h
  | cons first rest ih =>
    rw [Wasm.items, List.flatMap_cons, List.foldl_append]
    cases hplace : first.place? with
    | none =>
      rw [List.filterMap_cons_none hplace] at horder hfront
      rcases hfront with hnone | hbehind
      · have hfirst : (first.items.foldl add c).BeforeDefinitions :=
          BeforeDefinitions.items ⟨h, hnone⟩ (by simp [hplace])
        exact ih hfirst.inOrder horder (.inl hfirst.none)
      · exact ih (h.behind_imports (by simp [hplace])) horder (.inr hbehind)
    | some place =>
      rw [List.filterMap_cons_some hplace] at horder hfront
      obtain ⟨hrest, horder⟩ := List.pairwise_cons.mp horder
      by_cases hle : place ≤ 2
      · have hnone : c.definitions = [] :=
          hfront.resolve_right fun hbehind => absurd (hbehind place (by simp)) (by omega)
        have hfirst : (first.items.foldl add c).BeforeDefinitions :=
          BeforeDefinitions.items ⟨h, hnone⟩ (by simp [hplace, hle])
        exact ih hfirst.inOrder horder (.inl hfirst.none)
      · have hfirst : (first.items.foldl add c).InOrder :=
          h.behind_imports (by simp [hplace]; omega)
        refine ih hfirst horder (.inr fun other hother => ?_)
        have hlt := hrest other hother
        omega

end Contents

/-- Index spaces in order are those of the format. -/
theorem Reads.describes {c : Contents} {s : IndexSpaces} (h : Reads c s) (horder : c.InOrder) :
    c.Describes s.module :=
  ⟨h.imports, h.definedTables, h.definedMemories, h.definedGlobals,
    by simpa only [horder.space_eq] using h.exports⟩

/-- The contents of a module that was accepted. -/
def contents (frontend : Frontend) (binary : Bytes) : Contents :=
  .ofItems (items (frontend.parse binary))

theorem inOrder_contents {frontend : Frontend} {binary : Bytes}
    (hdisorder : frontend.RejectsDisorder) (hvalid : frontend.validate binary = .ok ()) :
    (contents frontend binary).InOrder :=
  Contents.InOrder.items (c := {}) rfl (hdisorder binary hvalid) (.inl rfl)

end Wasm

namespace ModuleInfo

open Wasm

variable {frontend : Frontend} {bytes : Bytes} {m : ModuleInfo}

/-- Translating goes on from the binary. -/
theorem translate_eq {binary : Bytes} (h : frontend.assemble bytes = .ok binary) :
    translate frontend bytes =
      (frontend.parse binary).foldlM IndexSpaces.addReading {} >>= fun s =>
        (frontend.validate binary).mapError .invalid >>= fun _ => pure s.module := by
  rw [translate, h]
  rfl

/-- What there is of a module that has a declared form. -/
theorem reads_of_translate (h : translate frontend bytes = .ok m) :
    ∃ binary s, frontend.assemble bytes = .ok binary ∧ frontend.validate binary = .ok () ∧
      Contents.firstFault? {} (items (frontend.parse binary)) = none ∧
      Reads (contents frontend binary) s ∧ m = s.module := by
  cases hassemble : frontend.assemble bytes with
  | error reason =>
    rw [translate, hassemble] at h
    cases h
  | ok binary =>
    rw [translate_eq hassemble] at h
    have hread := converts_readings (frontend.parse binary)
    cases hspaces : (frontend.parse binary).foldlM IndexSpaces.addReading {} with
    | error error =>
      rw [hspaces] at h
      cases h
    | ok s =>
      rw [hspaces] at h hread
      obtain ⟨hfault, hreads⟩ := hread.of_ok
      cases hvalid : frontend.validate binary with
      | error reason =>
        rw [hvalid] at h
        cases h
      | ok _ =>
        rw [hvalid] at h
        cases h
        exact ⟨binary, s, rfl, hvalid, hfault, hreads, rfl⟩

/-- A module that is accepted declares what is in its binary: every import in order with its
type, every definition, and every export with the type of the entity at its index, where what is
imported comes before what is defined. -/
theorem index_spaces (hdisorder : frontend.RejectsDisorder)
    (h : translate frontend bytes = .ok m) :
    ∃ binary, frontend.assemble bytes = .ok binary ∧
      (∀ reason, .undecodable reason ∉ items (frontend.parse binary)) ∧
      (contents frontend binary).Describes m := by
  obtain ⟨binary, s, hassemble, hvalid, hfault, hreads, rfl⟩ := reads_of_translate h
  refine ⟨binary, hassemble, fun reason hmem => ?_, ?_⟩
  · exact Contents.not_mem_of_fault (fun _ => rfl) hfault hmem
  · exact hreads.describes (inOrder_contents hdisorder hvalid)

/-- A binary that imports a function, a table, a global and another function, and exports the
second function, one of its own, and its memory. -/
def interleaved : Bytes :=
  [0x00, 0x61, 0x73, 0x6d, 0x01, 0x00, 0x00, 0x00,
    1, 9, 2, 0x60, 1, 0x7f, 0, 0x60, 0, 1, 0x7e,
    2, 28, 4, 1, 0x61, 1, 0x66, 0, 1, 1, 0x61, 1, 0x74, 1, 0x70, 0, 1,
    1, 0x61, 1, 0x67, 3, 0x7f, 0, 1, 0x61, 1, 0x68, 0, 0,
    3, 2, 1, 1,
    5, 3, 1, 0, 1,
    7, 13, 3, 1, 0x78, 0, 1, 1, 0x79, 0, 2, 1, 0x7a, 2, 0,
    10, 6, 1, 4, 0, 0x42, 0, 0x0b]

/-- Its first export is the second imported function, the third entry behind the first. -/
theorem index_spaces_interleaved : ∃ m, translate tools interleaved = .ok m ∧
    (contents tools interleaved).Describes m ∧
    ((contents tools interleaved).space .func)[1]? = some (.func 0) ∧
    m.exports.head? = some ⟨"x", .function { params := [.i32], results := [] }⟩ := by
  have hm : translate tools interleaved =
      .ok
        { imports :=
            [⟨"a", "f", .function ⟨[], [.i64]⟩⟩, ⟨"a", "t", .table ⟨.funcRef, 1, none⟩⟩,
              ⟨"a", "g", .global ⟨.i32, .constant⟩⟩, ⟨"a", "h", .function ⟨[.i32], []⟩⟩]
          «exports» :=
            [⟨"x", .function ⟨[.i32], []⟩⟩, ⟨"y", .function ⟨[], [.i64]⟩⟩,
              ⟨"z", .memory ⟨1, none, false⟩⟩]
          memories := [⟨1, none, false⟩] } := by
    decide +kernel
  obtain ⟨binary, hbinary, -, hdescribes⟩ := index_spaces tools_rejectsDisorder hm
  obtain rfl : interleaved = binary := Except.ok.inj hbinary
  exact ⟨_, hm, hdescribes, by decide +kernel, rfl⟩

end ModuleInfo
end HostLink
