/-
The reader and the writer of the program do what can be relied on.

Tables of numbers are written line by line, and read as what their lines spell.
-/
import HostLink.Proofs.Toml.Tables
import HostLink.Toml.Tools

namespace HostLink
namespace Toml

variable {tables : Named (Named UInt32)}

/-! ## Reading -/

theorem Reordered.refl (tables : Named (Named UInt32)) : Reordered tables tables where
  titles := .refl _
  keys := fun table htable => ⟨table.2, htable, .refl _⟩

theorem tableValues_numberNodes (given : Named UInt32) :
    tableValues (numberNodes given) = numbers given := by
  induction given with
  | nil => rfl
  | cons entry rest ih => exact congrArg ((entry.1, Value.integer entry.2.toNat) :: ·) ih

theorem tableValues_tableNodes (tables : Named (Named UInt32)) :
    tableValues (tableNodes tables) = tablesOf tables := by
  induction tables with
  | nil => rfl
  | cons table rest ih =>
    show (table.1, Value.table (tableValues (numberNodes table.2))) ::
      tableValues (tableNodes rest) = _
    rw [ih, tableValues_numberNodes]
    rfl

theorem tools_readsTables : tools.ReadsTables := by
  intro tables texts hplain htexts
  refine ⟨tables, .refl tables, ?_⟩
  simp only [tools, read, read?_tables hplain htexts, tableValues_tableNodes]

/-! ## Writing -/

theorem mapM_entryLine (given : Named UInt32) :
    (numbers given).mapM entryLine =
      .ok (given.map fun entry => entry.1 ++ " = " ++ toString entry.2) := by
  induction given with
  | nil => rfl
  | cons entry rest ih =>
    rw [numbers, List.map_cons, List.mapM_cons, ← numbers, ih]
    rfl

theorem mapM_sectionLines (tables : Named (Named UInt32)) :
    (tablesOf tables).mapM sectionLines =
      .ok (tables.map fun table => tableLines table.1 table.2) := by
  induction tables with
  | nil => rfl
  | cons table rest ih =>
    have htable : sectionLines (table.1, .table (numbers table.2)) =
        .ok (tableLines table.1 table.2) := by
      rw [sectionLines, mapM_entryLine]
      rfl
    rw [tablesOf, List.map_cons, List.mapM_cons, htable, ← tablesOf, ih]
    rfl

theorem filter_tableLines (title : String) (given : Named UInt32) :
    (tableLines title given).filter (· ≠ "") = tableLines title given := by
  rw [List.filter_eq_self]
  exact fun text htext => by simpa using ne_empty_of_mem_tableLines htext

theorem filter_sections (tables : Named (Named UInt32)) :
    ((tables.map fun table => tableLines table.1 table.2).flatMap (· ++ [""])).filter (· ≠ "") =
      documentLines tables := by
  induction tables with
  | nil => rfl
  | cons table rest ih =>
    rw [List.map_cons, List.flatMap_cons, List.filter_append, List.filter_append,
      filter_tableLines, ih]
    simp [documentLines]

theorem tools_writesTables : tools.WritesTables := by
  intro tables _
  refine ⟨_, filter_sections tables, ?_⟩
  simp only [tools, write, mapM_sectionLines]
  rfl

end Toml
end HostLink
