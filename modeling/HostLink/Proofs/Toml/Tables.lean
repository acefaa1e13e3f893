/-
Documents that are tables of numbers.

A table is written as its header and a line for each of its keys, and read as its keys with
their numbers, in the order of the lines.  Tables follow each other in any order, with blank
lines anywhere.
-/
import HostLink.Proofs.Named
import HostLink.Proofs.Toml.Lines

namespace HostLink
namespace Toml

open Text

variable {title : String} {given : Named UInt32} {document : Document}

/-! ## Lines -/

/-- What the lines of a table say. -/
def tableContents (title : String) (given : Named UInt32) : List Line :=
  .header [] title :: given.map fun entry => .assignment [] entry.1 (.integer entry.2.toNat)

theorem spelled_tableLines (htitle : Bare title) (hnames : ∀ name ∈ given.names, Bare name) :
    List.Forall₂ Spelled (tableLines title given) (tableContents title given) := by
  refine .cons (.header htitle) ?_
  rw [List.forall₂_map_left_iff, List.forall₂_map_right_iff, List.forall₂_same]
  intro entry hentry
  exact .assignment (hnames _ (List.mem_map_of_mem hentry)) (inRange_word _)

theorem ne_empty_of_mem_tableLines {text : String} (h : text ∈ tableLines title given) :
    text ≠ "" := by
  rintro rfl
  rcases List.mem_cons.mp h with hheader | hassignment
  · have hchars := congrArg String.toList hheader
    simp at hchars
  · obtain ⟨entry, -, hentry⟩ := List.mem_map.mp hassignment
    have hchars := congrArg String.toList hentry
    simp at hchars

/-- Blank lines say nothing. -/
theorem exists_spelled {texts : List String} {contents : List Line}
    (h : List.Forall₂ Spelled (texts.filter (· ≠ "")) contents) :
    ∃ lines, List.Forall₂ Spelled texts lines ∧
      ∀ document, lines.foldlM Document.add document = contents.foldlM Document.add document := by
  induction texts generalizing contents with
  | nil =>
    cases h
    exact ⟨[], .nil, fun _ => rfl⟩
  | cons text rest ih =>
    by_cases hblank : text = ""
    · subst hblank
      obtain ⟨lines, hlines, hsame⟩ := ih (by simpa using h)
      exact ⟨.blank :: lines, .cons .blank hlines, hsame⟩
    · rw [List.filter_cons_of_pos (by simpa using hblank)] at h
      cases h with
      | @cons _ line _ contents hline hcontents =>
        obtain ⟨lines, hlines, hsame⟩ := ih hcontents
        refine ⟨line :: lines, .cons hline hlines, fun document => ?_⟩
        rw [List.foldlM_cons, List.foldlM_cons]
        exact congrArg (document.add line >>= ·) (funext hsame)

/-! ## Tables -/

/-- The numbers of a table as they are read. -/
def numberNodes (given : Named UInt32) : Nodes :=
  given.map fun entry => (entry.1, .integer entry.2.toNat)

/-- A table as it is read. -/
def tableNode (title : String) (inside : Nodes) : String × Node :=
  (title, .table .header inside)

theorem names_append (entries others : Nodes) :
    Named.names (entries ++ others) = entries.names ++ others.names := List.map_append

/-- An assignment goes to the table that is open. -/
theorem add_assignment {root inside : Nodes} {name : String} {value : Node}
    (hnew : title ∉ root.names) (hname : name ∉ inside.names) :
    Document.add { root := root ++ [tableNode title inside], current := [title] }
        (.assignment [] name value) =
      some { root := root ++ [tableNode title (inside ++ [(name, value)])]
             current := [title] } := by
  have hget : Named.get? (root ++ [tableNode title inside]) title =
      some (.table .header inside) := by
    rw [Named.get?_append_of_notMem hnew]
    exact if_pos rfl
  have hput : Named.put (root ++ [tableNode title inside]) title
      (.table .header (inside ++ [(name, value)])) =
        root ++ [tableNode title (inside ++ [(name, value)])] := by
    rw [Named.put_append_of_notMem hnew, tableNode, Named.put, if_pos rfl]
    rfl
  have hfree : inside.contains name = false := by
    rw [Named.contains, Named.get?_eq_none_iff.mpr hname]
    rfl
  have hassign : Nodes.assign [] name value inside = some (inside ++ [(name, value)]) := by
    simp only [Nodes.assign, Nodes.change, Nodes.define, hfree, Named.put_of_notMem hname]
    rfl
  simp only [Document.add, Nodes.change, hget, hassign]
  rw [← hput]
  rfl

/-- The assignments of a table follow what it has already. -/
theorem foldlM_assignments {root inside : Nodes} (hnew : title ∉ root.names)
    (hnames : (inside.names ++ given.names).Nodup) :
    (given.map fun entry => Line.assignment [] entry.1 (.integer entry.2.toNat)).foldlM
        Document.add { root := root ++ [tableNode title inside], current := [title] } =
      some
        { root := root ++ [tableNode title (inside ++ numberNodes given)]
          current := [title] } := by
  induction given generalizing inside with
  | nil => simp [numberNodes]
  | cons entry rest ih =>
    obtain ⟨hinside, hgiven, hapart⟩ := List.nodup_append.mp hnames
    have hentry : entry.1 ∉ inside.names := fun hmem =>
      hapart _ hmem _ List.mem_cons_self rfl
    have hrest : (Named.names (inside ++ [(entry.1, Node.integer entry.2.toNat)]) ++
        Named.names rest).Nodup := by
      rw [names_append, List.append_assoc]
      exact hnames
    rw [List.map_cons, List.foldlM_cons, add_assignment hnew hentry, Option.bind_eq_bind,
      Option.bind_some, ih hrest, List.append_assoc]
    rfl

/-- A table with a new title comes behind the others. -/
theorem foldlM_tableContents (hnew : title ∉ document.root.names) (hnames : given.names.Nodup) :
    (tableContents title given).foldlM Document.add document =
      some
        { root := document.root ++ [tableNode title (numberNodes given)], current := [title] } := by
  have hopen : Nodes.openTable title document.root =
      some (document.root ++ [tableNode title []]) := by
    rw [Nodes.openTable, Named.get?_eq_none_iff.mpr hnew, Named.put_of_notMem hnew]
    rfl
  have hheader : document.add (.header [] title) =
      some { root := document.root ++ [tableNode title []], current := [title] } := by
    simp only [Document.add, Nodes.change, hopen]
    rfl
  rw [tableContents, List.foldlM_cons, hheader, Option.bind_eq_bind, Option.bind_some,
    foldlM_assignments hnew (by simpa [Named.names] using hnames)]
  rfl

/-! ## Documents -/

/-- Some tables as they are read. -/
def tableNodes (tables : Named (Named UInt32)) : Nodes :=
  tables.map fun table => tableNode table.1 (numberNodes table.2)

namespace Plain

variable {table : String × Named UInt32} {tables : Named (Named UInt32)}

theorem tail (h : Plain (table :: tables)) : Plain tables where
  titles := (List.nodup_cons.mp h.titles).2
  keys := fun other hother => h.keys other (List.mem_cons_of_mem _ hother)
  bareTitles := fun title htitle => h.bareTitles title (List.mem_cons_of_mem _ htitle)
  bareKeys := fun other hother => h.bareKeys other (List.mem_cons_of_mem _ hother)

theorem spelled (h : Plain tables) :
    List.Forall₂ Spelled (documentLines tables)
      (tables.flatMap fun table => tableContents table.1 table.2) := by
  induction tables with
  | nil => exact .nil
  | cons table rest ih =>
    rw [documentLines, List.flatMap_cons, List.flatMap_cons]
    exact List.rel_append (spelled_tableLines (h.bareTitles _ List.mem_cons_self)
      (h.bareKeys _ List.mem_cons_self)) (ih h.tail)

/-- Each table comes behind those before it. -/
theorem foldlM_eq (document : Document) (h : Plain tables)
    (hnew : (document.root.names ++ tables.names).Nodup) :
    ∃ current, (tables.flatMap fun table => tableContents table.1 table.2).foldlM Document.add
      document = some { root := document.root ++ tableNodes tables, current := current } := by
  induction tables generalizing document with
  | nil => exact ⟨document.current, by simp [tableNodes]⟩
  | cons table rest ih =>
    obtain ⟨-, -, hapart⟩ := List.nodup_append.mp hnew
    have htitle : table.1 ∉ document.root.names := fun hmem =>
      hapart _ hmem _ List.mem_cons_self rfl
    have hrest : (Named.names (document.root ++ [tableNode table.1 (numberNodes table.2)]) ++
        Named.names rest).Nodup := by
      rw [names_append, List.append_assoc]
      exact hnew
    obtain ⟨current, hcurrent⟩ :=
      ih ⟨document.root ++ [tableNode table.1 (numberNodes table.2)], [table.1]⟩ h.tail hrest
    refine ⟨current, ?_⟩
    rw [List.flatMap_cons, List.foldlM_append,
      foldlM_tableContents htitle (h.keys _ List.mem_cons_self), Option.bind_eq_bind,
      Option.bind_some, hcurrent, List.append_assoc]
    rfl

end Plain

/-- Some tables are read from their lines, with blank lines anywhere. -/
theorem read?_tables {tables : Named (Named UInt32)} {texts : List String} (h : Plain tables)
    (htexts : texts.filter (· ≠ "") = documentLines tables) :
    read? ("\n".intercalate texts) = some (tableNodes tables) := by
  obtain ⟨lines, hlines, hsame⟩ := exists_spelled (htexts ▸ h.spelled)
  obtain ⟨current, hcurrent⟩ := Plain.foldlM_eq {} h h.titles
  -- A text without lines is one blank line.
  have hread : ∃ lines', lines? ("\n".intercalate texts) = some lines' ∧
      lines'.foldlM Document.add {} = lines.foldlM Document.add {} := by
    cases hlines with
    | nil => exact ⟨[.blank], rfl, rfl⟩
    | cons hline hlines =>
      exact ⟨_, lines?_eq (.cons hline hlines) (List.cons_ne_nil _ _), rfl⟩
  obtain ⟨lines', hlines', hfold⟩ := hread
  rw [read?, hlines', Option.bind_eq_bind, Option.bind_some, hfold, hsame, hcurrent]
  rfl

end Toml
end HostLink
